import Claudia5gc.Crypto.Kdf
import Mathlib.Algebra.Group.Nat.Defs
import Mathlib.Data.List.Induction

/-!
# The inputs of the key derivation

A parameter is followed by its length, so the input is read from its end.
-/

namespace Claudia5gc.Crypto

open Go

/-- The algorithm type distinguishers. -/
inductive KeyType where
  | nasEnc
  | nasInt
  | rrcEnc
  | rrcInt
  | upEnc
  | upInt
  deriving DecidableEq

def KeyType.distinguisher : KeyType → UInt8
  | .nasEnc => algDistNASEnc
  | .nasInt => algDistNASInt
  | .rrcEnc => algDistRRCEnc
  | .rrcInt => algDistRRCInt
  | .upEnc => algDistUPEnc
  | .upInt => algDistUPInt

/-- The functions that derive keys, with their parameters but the key. -/
inductive Derivation where
  | kausf (snName : Bytes) (sqnXorAK : Vector UInt8 6)
  | kseaf (snName : Bytes)
  | kamf (supi : Bytes) (abba : Vector UInt8 2)
  | algorithmKey (type : KeyType) (algID : UInt8)
  | knh (synchInput : Bytes)
  | kgnb (nasCount : UInt32) (accessType : UInt8)
  | xresStar (snName : Bytes) (rand : Vector UInt8 16) (xres : Bytes)

namespace Derivation

def fc : Derivation → UInt8
  | kausf _ _ => 0x6A
  | kseaf _ => 0x6C
  | kamf _ _ => 0x6D
  | algorithmKey _ _ => 0x69
  | knh _ => 0x6F
  | kgnb _ _ => 0x6E
  | xresStar _ _ _ => 0x6B

def params : Derivation → List Bytes
  | kausf snName sqnXorAK => [snName, sqnXorAK.toList]
  | kseaf snName => [snName]
  | kamf supi abba => [supi, abba.toList]
  | algorithmKey type algID => [[type.distinguisher], [algID]]
  | knh synchInput => [synchInput]
  | kgnb nasCount accessType => [putUint32 nasCount, [accessType]]
  | xresStar snName rand xres => [snName, rand.toList, xres]

def input (d : Derivation) : Bytes := buildS d.fc d.params

/-- The names of the serving network and of the subscriber have less than 2¹⁶ octets. -/
def Short : Derivation → Prop
  | kausf name _ | kseaf name | kamf name _ | xresStar name _ _ => name.length < 2 ^ 16
  | algorithmKey _ _ | knh _ | kgnb _ _ => True

end Derivation

/-- `KRRCint`, `KRRCenc`, `KUPint` and `KUPenc`, which no other function here uses. -/
def algorithmKey (type : KeyType) (key : Bytes) (algID : UInt8) : Bytes :=
  (derive key (Derivation.algorithmKey type algID).input).drop 16

theorem derive_input (key ik : Bytes) (name : String) (sqnXorAK : Vector UInt8 6)
    (abba : Vector UInt8 2) (rand : Vector UInt8 16) (b : Bytes) (count : UInt32) (id : UInt8) :
    kausf key ik name sqnXorAK.toList =
        derive (key ++ ik) (Derivation.kausf (stringBytes name) sqnXorAK).input ∧
      kseaf key name = derive key (Derivation.kseaf (stringBytes name)).input ∧
      kamf key name abba.toList = derive key (Derivation.kamf (stringBytes name) abba).input ∧
      knasint key id = algorithmKey .nasInt key id ∧ knasenc key id = algorithmKey .nasEnc key id ∧
      knh key b = derive key (Derivation.knh b).input ∧
      kgnb key count id = derive key (Derivation.kgnb count id).input ∧
      xresStar key ik name rand b =
        (derive (key ++ ik) (Derivation.xresStar (stringBytes name) rand b).input).drop 16 :=
  ⟨rfl, rfl, rfl, rfl, rfl, rfl, rfl, rfl⟩

open List

theorem mod_eq_of_putUint16 {n m : Nat} (h : putUint16 n = putUint16 m) :
    n % 2 ^ 16 = m % 2 ^ 16 := by
  obtain ⟨hhi, hlo⟩ := cons.inj h
  have hhi := congrArg UInt8.toNat hhi
  have hlo := congrArg UInt8.toNat (cons.inj hlo).1
  rw [UInt8.toNat_ofNat', UInt8.toNat_ofNat'] at hhi hlo
  omega

theorem putUint32_injective {n m : UInt32} (h : putUint32 n = putUint32 m) : n = m := by
  simp only [putUint32, cons.injEq, and_true, ← UInt8.toNat_inj, UInt32.toNat_toUInt8,
    UInt32.toNat_shiftRight, Nat.shiftRight_eq_div_pow] at h
  have hn := n.toNat_lt
  have hm := m.toNat_lt
  refine UInt32.toNat_inj.1 ?_
  simp at h
  omega

theorem buildS_concat (fc : UInt8) (ps : List Bytes) (p : Bytes) :
    buildS fc (ps ++ [p]) = buildS fc ps ++ p ++ putUint16 p.length := by
  simp [buildS]

theorem buildS_concat_inj {fc : UInt8} (ps qs : List Bytes) {p q : Bytes}
    (h : buildS fc (ps ++ [p]) = buildS fc (qs ++ [q])) : p.length % 2 ^ 16 = q.length % 2 ^ 16 ∧
      (p.length = q.length → buildS fc ps = buildS fc qs ∧ p = q) := by
  rw [buildS_concat, buildS_concat] at h
  obtain ⟨h, htag⟩ := append_inj' h rfl
  exact ⟨mod_eq_of_putUint16 htag, append_inj' h⟩

theorem buildS_injective {fc : UInt8} {ps qs : List Bytes} (hlen : ps.length = qs.length)
    (hps : ∀ p ∈ ps, p.length < 2 ^ 16) (hqs : ∀ q ∈ qs, q.length < 2 ^ 16)
    (h : buildS fc ps = buildS fc qs) : ps = qs := by
  induction ps using reverseRecOn generalizing qs with
  | nil => exact (eq_nil_of_length_eq_zero hlen.symm).symm
  | append_singleton ps p ih =>
    obtain rfl | ⟨qs, q, rfl⟩ := eq_nil_or_concat qs
    · simp at hlen
    · rw [concat_eq_append] at *
      simp only [forall_mem_append, forall_mem_singleton] at hps hqs
      obtain ⟨hmod, hrest⟩ := buildS_concat_inj ps qs h
      rw [Nat.mod_eq_of_lt hps.2, Nat.mod_eq_of_lt hqs.2] at hmod
      obtain ⟨hinit, rfl⟩ := hrest hmod
      rw [ih (by simpa using hlen) hps.1 hqs.1 hinit]

variable {d d' : Derivation}

theorem Derivation.eq_of_params (hfc : d.fc = d'.fc) (h : d.params = d'.params) : d = d' := by
  have htype : ∀ t t' : KeyType, t.distinguisher = t'.distinguisher → t = t' := by
    intro t t'
    cases t <;> cases t' <;> decide
  cases d <;> cases d' <;> simp_all [fc, params, Vector.toList_inj]
  case algorithmKey.algorithmKey type _ type' _ => exact htype type type' h.1
  case kgnb.kgnb => exact putUint32_injective h.1

-- The last parameter can be longer where the others leave no choice.
theorem Derivation.input_injective (h : d.Short) (h' : d'.Short) (heq : d.input = d'.input) : d = d' := by
  have hfc : d.fc = d'.fc := (cons.inj heq).1
  refine eq_of_params hfc ?_
  rw [input, input, hfc] at heq
  have hlen := congrArg length heq
  cases d with
  | knh sync =>
    cases d' <;> simp [fc] at hfc
    rename_i sync'
    have hsync : sync.length = sync'.length := by simpa [buildS, params, putUint16] using hlen
    exact congrArg (fun x => [x]) ((buildS_concat_inj [] [] heq).2 hsync).2
  | xresStar sn rand xres =>
    cases d' <;> simp [fc] at hfc
    rename_i sn' rand' xres'
    obtain ⟨hmod, hrest⟩ := buildS_concat_inj [sn, rand.toList] [sn', rand'.toList] heq
    simp only [Short] at h h'
    simp [buildS, params, putUint16] at hlen
    obtain ⟨hinit, rfl⟩ := hrest (by omega)
    have hps : [sn, rand.toList] = [sn', rand'.toList] :=
      buildS_injective rfl (by simpa using h) (by simpa using h') hinit
    simpa [params] using hps
  | kausf | kseaf | kamf | algorithmKey | kgnb =>
    cases d' <;> simp [fc] at hfc
    exact buildS_injective rfl (by simp_all [params, Short, putUint32])
      (by simp_all [params, Short, putUint32]) heq

/-- Parameters are found again in the input, and two calls have one input only if they are the same
but for the key. -/
theorem kdf_inputs_unambiguous :
    (∀ (fc : UInt8) (ps qs : List Bytes), ps.length = qs.length → (∀ p ∈ ps, p.length < 2 ^ 16) →
      (∀ q ∈ qs, q.length < 2 ^ 16) → buildS fc ps = buildS fc qs → ps = qs) ∧
    ∀ d d' : Derivation, d.Short → d'.Short → d.input = d'.input → d = d' :=
  ⟨fun _ _ _ hlen hps hqs => buildS_injective hlen hps hqs,
    fun _ _ h h' => Derivation.input_injective h h'⟩

end Claudia5gc.Crypto
