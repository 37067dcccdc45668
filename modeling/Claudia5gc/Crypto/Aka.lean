import Claudia5gc.Crypto.EapAka
import Claudia5gc.Crypto.Milenage
import Mathlib.Data.Nat.Digits.Defs

/-!
# Authentication vectors

The home network's part of 5G-AKA and EAP-AKA': reading a subscriber's credentials, generating a
vector for a sequence number, and recovering the sequence number of the USIM from the AUTS of a
synchronisation failure.
-/

namespace Claudia5gc.Crypto.Aka

open Go

abbrev SQN := Vector UInt8 6

/-! ## Credentials -/

def parseHex (n : Nat) (s : String) : Option (Vector UInt8 n) :=
  let (b, failed) := hexDecode s
  if failed then none else toArray? n b

def parseHexKey (s : String) : Option (Vector UInt8 16) := parseHex 16 s

def parseHexSQN (s : String) : Option SQN := parseHex 6 s

def parseHexAMF (s : String) : Option (Vector UInt8 2) := parseHex 2 s

theorem parseHexSQN_hexEncode (sqn : SQN) : parseHexSQN (hexEncode sqn.toList) = some sqn := by
  simp [parseHexSQN, parseHex, hexDecode_hexEncode, toArray?_toList]

structure HEAVInput where
  k : Vector UInt8 16
  opc : Vector UInt8 16
  amf : Vector UInt8 2
  sqn : SQN
  deriving DecidableEq

/-! ## Vectors -/

def HEAVInput.generateAV (i : HEAVInput) (rand : Vector UInt8 16) : Milenage.AV :=
  Milenage.generateAV i.k.toList i.opc.toList rand.toList i.sqn.toList i.amf.toList

def HEAVInput.sqnXorAK (i : HEAVInput) (rand : Vector UInt8 16) : Bytes :=
  Aes.xor i.sqn.toList (i.generateAV rand).ak

structure HEAVFull where
  rand : Vector UInt8 16
  autn : Bytes
  kausf : Bytes
  xresStar : Bytes
  hresStar : Bytes

def generateFull (i : HEAVInput) (snName : String) (rand : Vector UInt8 16) : HEAVFull :=
  let av := i.generateAV rand
  let xresStar := xresStar av.ck av.ik snName rand av.xres
  { rand := rand
    autn := av.autn
    kausf := kausf av.ck av.ik snName (i.sqnXorAK rand)
    xresStar := xresStar
    hresStar := hresStar rand xresStar }

structure EAPAKAPrimeAV where
  rand : Vector UInt8 16
  autn : Bytes
  xres : Bytes
  ckPrime : Bytes
  ikPrime : Bytes

def generateEAPAKAPrime (i : HEAVInput) (snName : String) (rand : Vector UInt8 16) :
    EAPAKAPrimeAV :=
  let av := i.generateAV rand
  let (ckPrime, ikPrime) := EapAka.deriveCKPrimeIKPrime av.ck av.ik snName (i.sqnXorAK rand)
  { rand := rand
    autn := av.autn
    xres := av.xres
    ckPrime := ckPrime
    ikPrime := ikPrime }

def resyncFromAUTS (k opc rand : Vector UInt8 16) (auts : Vector UInt8 14) : Option SQN :=
  let akStar := Milenage.f5Star k.toList opc.toList rand.toList
  let sqnMS := Milenage.sqnFromAUTS auts akStar
  let macS := (auts.toList.drop 6).take 8
  if Milenage.verifyMACS k.toList opc.toList rand.toList sqnMS.toList macS then some sqnMS
  else none

section Resync

open Milenage

/-- The AUTS of a USIM with these keys whose last sequence number is `sqnMS`. -/
def usimAUTS (k opc rand : Vector UInt8 16) (sqnMS : SQN) : Bytes :=
  Aes.xor sqnMS.toList (f5Star k.toList opc.toList rand.toList) ++
    computeMACS k.toList opc.toList rand.toList sqnMS.toList [0, 0]

variable {k opc rand : Vector UInt8 16} {auts : Vector UInt8 14} {sqn : SQN} {ak : Bytes}

theorem length_f5Star : (f5Star k.toList opc.toList rand.toList).length = 6 := by
  simp [f5Star, out, Aes.length_encrypt]

theorem toList_sqnFromAUTS (h : ak.length = 6) :
    (sqnFromAUTS auts ak).toList = Aes.xor (auts.toList.take 6) ak := by
  refine List.ext_getElem (by simp [h]) fun i hi _ => ?_
  have hi : i < 6 := by simpa using hi
  simp [sqnFromAUTS, Aes.xor, List.getElem?_eq_getElem (h.symm ▸ hi)]

theorem sqnFromAUTS_eq_iff (h : ak.length = 6) :
    sqnFromAUTS auts ak = sqn ↔ auts.toList.take 6 = Aes.xor sqn.toList ak := by
  rw [← Vector.toList_inj, toList_sqnFromAUTS h]
  constructor
  · intro hsqn
    rw [← hsqn, Aes.xor_xor_cancel (by simp [h])]
  · intro htake
    rw [htake, Aes.xor_xor_cancel (by simp [h])]

theorem eq_usimAUTS_iff : auts.toList = usimAUTS k opc rand sqn ↔
    sqnFromAUTS auts (f5Star k.toList opc.toList rand.toList) = sqn ∧
      auts.toList.drop 6 =
        computeMACS k.toList opc.toList rand.toList sqn.toList [0, 0] := by
  rw [sqnFromAUTS_eq_iff length_f5Star, usimAUTS]
  constructor
  · intro h
    rw [h]
    exact ⟨List.take_left' (by simp [length_f5Star]), List.drop_left' (by simp [length_f5Star])⟩
  · rintro ⟨htake, hdrop⟩
    rw [← htake, ← hdrop, List.take_append_drop]

/-- An AUTS is accepted with a sequence number when it is that of a USIM at this number with
the same keys, and only then. -/
theorem resyncFromAUTS_eq_some :
    resyncFromAUTS k opc rand auts = some sqn ↔ auts.toList = usimAUTS k opc rand sqn := by
  have hmac : (auts.toList.drop 6).take 8 = auts.toList.drop 6 := List.take_of_length_le (by simp)
  rw [eq_usimAUTS_iff, resyncFromAUTS, hmac]
  split_ifs with hverify
  · rw [Option.some.injEq]
    refine (and_iff_left_of_imp ?_).symm
    rintro rfl
    exact (beq_iff_eq.1 hverify).symm
  · refine iff_of_false nofun ?_
    rintro ⟨rfl, hdrop⟩
    exact hverify (beq_iff_eq.2 hdrop.symm)

end Resync

/-! ## Counting -/

/-- The loop of `IncrementSQN`, over the octets from the last to the first: it stops
at the first octet that does not become zero. -/
def incrementOctets : Bytes → Bytes
  | [] => []
  | b :: bs => if b + 1 ≠ 0 then (b + 1) :: bs else (b + 1) :: incrementOctets bs

@[simp] theorem length_incrementOctets (bs : Bytes) : (incrementOctets bs).length = bs.length := by
  induction bs with
  | nil => rfl
  | cons b bs ih =>
    unfold incrementOctets
    split <;> simp [ih]

def incrementSQN (sqn : SQN) : SQN :=
  ⟨(incrementOctets sqn.toList.reverse).reverse.toArray, by simp⟩

/-- The number that octets stand for, the least significant first. -/
def octetsValue (bs : Bytes) : Nat := Nat.ofDigits 256 (bs.map UInt8.toNat)

/-- The number that a sequence number stands for. -/
def sqnValue (sqn : SQN) : Nat := octetsValue sqn.toList.reverse

def sqnLimit : Nat := 2 ^ 48

theorem octetsValue_cons (b : UInt8) (bs : Bytes) :
    octetsValue (b :: bs) = b.toNat + 256 * octetsValue bs := by
  simp [octetsValue, Nat.ofDigits_cons]

theorem octetsValue_incrementOctets (bs : Bytes) (h : octetsValue bs + 1 < 256 ^ bs.length) :
    octetsValue (incrementOctets bs) = octetsValue bs + 1 := by
  induction bs with
  | nil => simp at h
  | cons b bs ih =>
    have hb : b.toNat < 256 := b.toNat_lt
    have hsucc : (b + 1).toNat = (b.toNat + 1) % 256 := by
      rfl
    rw [octetsValue_cons, List.length_cons, Nat.pow_succ] at h
    unfold incrementOctets
    split
    · rename_i hne
      have hne' : (b + 1).toNat ≠ 0 := fun h0 => hne (UInt8.toNat_inj.mp h0)
      rw [octetsValue_cons, octetsValue_cons]
      omega
    · rename_i hz
      have hz' : (b + 1).toNat = 0 := by
        rw [not_not.mp hz]
        rfl
      -- the octet wraps, so the carry goes on and the rest must not be at its end
      have hrest : octetsValue (incrementOctets bs) = octetsValue bs + 1 := by
        apply ih
        omega
      rw [octetsValue_cons, octetsValue_cons, hrest]
      omega

theorem sqnValue_incrementSQN {sqn : SQN} (h : sqnValue sqn + 1 < sqnLimit) :
    sqnValue (incrementSQN sqn) = sqnValue sqn + 1 := by
  have hlen : sqn.toList.reverse.length = 6 := by simp
  have hlist : (incrementSQN sqn).toList.reverse = incrementOctets sqn.toList.reverse := by
    simp [incrementSQN, Vector.toList]
  unfold sqnValue
  rw [hlist]
  apply octetsValue_incrementOctets
  rw [hlen]
  exact h

end Claudia5gc.Crypto.Aka
