import Claudia5gc.Nas.Reader

/-!
# Information elements

The decoders of the information elements that several 5GMM messages share: the 5GS mobile identity,
the NSSAI, the UE security capability and the selected security algorithms.
-/

namespace Claudia5gc.Nas

open Go Proc List

variable {b : Bytes}

/-! ## 5GS mobile identity -/

abbrev MobileIdentityType := UInt8

def mobileIdentitySUCI : MobileIdentityType := 1
def mobileIdentityGUTI : MobileIdentityType := 2
def mobileIdentityIMEI : MobileIdentityType := 4
def mobileIdentityIMEISV : MobileIdentityType := 5

structure SUCIMobileIdentity where
  supiFormat : UInt8
  mcc : String
  mnc : String
  routingIndicator : String
  protectionSchemeID : UInt8
  homeNetworkPublicKeyID : UInt8
  schemeOutput : Bytes
  deriving DecidableEq

structure GUTIMobileIdentity where
  mcc : String
  mnc : String
  amfRegionID : UInt8
  amfSetID : UInt16
  amfID : UInt8
  tmsi : UInt32
  deriving DecidableEq

structure MobileIdentity where
  type : MobileIdentityType := 0
  suci : Option SUCIMobileIdentity := none
  guti : Option GUTIMobileIdentity := none
  imeisv : String := ""
  deriving DecidableEq

def sprintDigits (ds : List UInt8) : String :=
  String.join (ds.map fun d => toString d.toNat)

def asciiDigits (ds : List UInt8) : String :=
  String.ofList (ds.map fun d => Char.ofNat (0x30 + d.toNat))

/-- `decodeMCCMNC`.  The conversion `[3]byte(b)` panics on a shorter slice. -/
def decodeMCCMNC (b : Bytes) : Outcome (String × String) := do
  let d0 ← index b 0
  let d1 ← index b 1
  let d2 ← index b 2
  let mcc := sprintDigits [d0 &&& 0x0F, (d0 >>> 4) &&& 0x0F, d1 &&& 0x0F]
  let mncD3 := (d1 >>> 4) &&& 0x0F
  let mnc :=
    if mncD3 = 0xF then sprintDigits [d2 &&& 0x0F, (d2 >>> 4) &&& 0x0F]
    else sprintDigits [d2 &&& 0x0F, (d2 >>> 4) &&& 0x0F, mncD3]
  return (mcc, mnc)

def decodeRoutingIndicator (b : Bytes) : String :=
  let nibbles := b.flatMap fun (byt : UInt8) => [byt &&& 0x0F, (byt >>> 4) &&& 0x0F]
  let digits := nibbles.takeWhile (· ≠ 0x0F)
  if digits.isEmpty && !nibbles.isEmpty then "0" else asciiDigits digits

def beUInt32 (b0 b1 b2 b3 : UInt8) : UInt32 :=
  b0.toUInt32 <<< 24 ||| b1.toUInt32 <<< 16 ||| b2.toUInt32 <<< 8 ||| b3.toUInt32

def decodeSUCI (b : Bytes) : Outcome SUCIMobileIdentity := do
  if b.length < 8 then .err (.new "nas: SUCI too short") else
  let b0 ← index b 0
  let (mcc, mnc) ← decodeMCCMNC (← slice b 1 4)
  let routing ← slice b 4 6
  let b6 ← index b 6
  let b7 ← index b 7
  let schemeOutput ← sliceFrom b 8
  return {
    supiFormat := (b0 >>> 3) &&& 0x07
    mcc, mnc
    routingIndicator := decodeRoutingIndicator routing
    protectionSchemeID := b6 &&& 0x0F
    homeNetworkPublicKeyID := b7
    schemeOutput }

def decodeGUTI (b : Bytes) : Outcome GUTIMobileIdentity := do
  let len := b.length
  if len < 11 then .err (.new s!"nas: GUTI too short: {len}") else
  let (mcc, mnc) ← decodeMCCMNC (← slice b 1 4)
  let amfRegionID ← index b 4
  let b5 ← index b 5
  let b6 ← index b 6
  let amfRef := b5.toUInt16 <<< 8 ||| b6.toUInt16
  let t0 ← index b 7
  let t1 ← index b 8
  let t2 ← index b 9
  let t3 ← index b 10
  return {
    mcc, mnc, amfRegionID
    amfSetID := amfRef >>> 6
    amfID := (amfRef &&& 0x3F).toUInt8
    tmsi := beUInt32 t0 t1 t2 t3 }

/-- `decodeIMEIDigits`.  A nibble above nine ends the digit string. -/
def decodeIMEIDigits (b : Bytes) : Outcome String := do
  let b0 ← index b 0
  let rest ← sliceFrom b 1
  let digits := (b0 >>> 4) :: rest.flatMap fun (oct : UInt8) => [oct &&& 0x0F, oct >>> 4]
  return asciiDigits (digits.takeWhile (· ≤ 9))

def decodeMobileIdentity (b : Bytes) : Outcome MobileIdentity := do
  if b.length < 1 then .err (.new "nas: mobile identity empty") else
  let b0 ← index b 0
  let idType := b0 &&& 0x07
  if idType = mobileIdentitySUCI then
    let suci ← decodeSUCI b
    return { type := idType, suci := some suci }
  else if idType = mobileIdentityGUTI then
    let guti ← decodeGUTI b
    return { type := idType, guti := some guti }
  else if idType = mobileIdentityIMEI ∨ idType = mobileIdentityIMEISV then
    return { type := idType, imeisv := ← decodeIMEIDigits b }
  else
    return { type := idType }

/-- The octets make up a mobile identity: there is a type, and a SUCI or a GUTI
has room for its fixed part. -/
def mobileIdentityFits (b : Bytes) : Bool :=
  match b with
  | [] => false
  | b0 :: _ =>
    if b0 &&& 0x07 = mobileIdentitySUCI then decide (8 ≤ b.length)
    else if b0 &&& 0x07 = mobileIdentityGUTI then decide (11 ≤ b.length)
    else true

theorem decodeMCCMNC_ok (h : 3 ≤ b.length) : ∃ p, decodeMCCMNC b = .ok p := by
  simp (disch := omega) [decodeMCCMNC, index_of_lt]

theorem decodeSUCI_ok (h : 8 ≤ b.length) : ∃ s, decodeSUCI b = .ok s := by
  obtain ⟨p, hp⟩ := decodeMCCMNC_ok (b := b.tail.take 3) (by simp; omega)
  simp (disch := omega) [decodeSUCI, Nat.not_lt.mpr h, index_of_lt, slice_of_le,
    sliceFrom_of_le, hp]

theorem decodeGUTI_ok (h : 11 ≤ b.length) : ∃ g, decodeGUTI b = .ok g := by
  obtain ⟨p, hp⟩ := decodeMCCMNC_ok (b := b.tail.take 3) (by simp; omega)
  simp (disch := omega) [decodeGUTI, Nat.not_lt.mpr h, index_of_lt, slice_of_le, hp]

theorem decodeMobileIdentity_cons (b0 : UInt8) (r : Bytes) : decodeMobileIdentity (b0 :: r) =
      if b0 &&& 0x07 = mobileIdentitySUCI then do
        let suci ← decodeSUCI (b0 :: r)
        return { type := b0 &&& 0x07, suci := some suci }
      else if b0 &&& 0x07 = mobileIdentityGUTI then do
        let guti ← decodeGUTI (b0 :: r)
        return { type := b0 &&& 0x07, guti := some guti }
      else if b0 &&& 0x07 = mobileIdentityIMEI ∨ b0 &&& 0x07 = mobileIdentityIMEISV then do
        return { type := b0 &&& 0x07, imeisv := ← decodeIMEIDigits (b0 :: r) }
      else return { type := b0 &&& 0x07 } := by
  simp [decodeMobileIdentity]

theorem decodeMobileIdentity_ok (h : mobileIdentityFits b = true) :
    ∃ mi, decodeMobileIdentity b = .ok mi := by
  cases b with
  | nil => simp [mobileIdentityFits] at h
  | cons b0 r =>
    rw [mobileIdentityFits] at h
    rw [decodeMobileIdentity_cons]
    split at h
    · rename_i hs
      obtain ⟨s, hs'⟩ := decodeSUCI_ok (b := b0 :: r) (by simpa using h)
      simp [if_pos hs, hs']
    · rename_i hs
      rw [if_neg hs]
      split_ifs at h with hg
      · obtain ⟨g, hg'⟩ := decodeGUTI_ok (b := b0 :: r) (by simpa using h)
        simp [if_pos hg, hg']
      · rw [if_neg hg]
        split <;> simp [decodeIMEIDigits, sliceFrom]

theorem decodeMobileIdentity_err (h : mobileIdentityFits b = false) :
    ∃ e, decodeMobileIdentity b = .err e := by
  cases b with
  | nil => exact ⟨_, rfl⟩
  | cons b0 r =>
    rw [mobileIdentityFits] at h
    rw [decodeMobileIdentity_cons]
    split at h
    · rename_i hs
      simp only [decide_eq_false_iff_not, Nat.not_le] at h
      rw [if_pos hs, decodeSUCI, if_pos h]
      exact ⟨_, rfl⟩
    · rename_i hs
      rw [if_neg hs]
      split at h
      · rename_i hg
        simp only [decide_eq_false_iff_not, Nat.not_le] at h
        rw [if_pos hg, decodeGUTI, if_pos h]
        exact ⟨_, rfl⟩
      · simp at h

theorem returns_decodeMobileIdentity (b : Bytes) : (decodeMobileIdentity b).Returns := by
  cases h : mobileIdentityFits b
  · obtain ⟨e, he⟩ := decodeMobileIdentity_err h
    simp [he]
  · obtain ⟨mi, hmi⟩ := decodeMobileIdentity_ok h
    simp [hmi]

def decodeMobileIdentityOrNil (b : Bytes) : Outcome (Option MobileIdentity) :=
  match decodeMobileIdentity b with
  | .ok mi => .ok (some mi)
  | .err _ => .ok none
  | .panic => .panic
  | .hang => .hang

theorem decodeMobileIdentityOrNil_ok (b : Bytes) : ∃ mi, decodeMobileIdentityOrNil b = .ok mi := by
  have h := returns_decodeMobileIdentity b
  rw [decodeMobileIdentityOrNil]
  cases hmi : decodeMobileIdentity b with
  | ok mi | err e => exact ⟨_, rfl⟩
  | panic | hang => simp [hmi] at h

theorem returns_decodeMobileIdentityOrNil (b : Bytes) : (decodeMobileIdentityOrNil b).Returns := by
  obtain ⟨mi, hmi⟩ := decodeMobileIdentityOrNil_ok b
  simp [hmi]

/-! ## NSSAI -/

structure SNSSAI where
  sst : UInt8
  sd : UInt32
  deriving DecidableEq

def sdNotPresent : UInt32 := 0xFFFFFF

def sdOfBytes (b0 b1 b2 : UInt8) : UInt32 :=
  b0.toUInt32 <<< 16 ||| b1.toUInt32 <<< 8 ||| b2.toUInt32

abbrev NSSAI := List SNSSAI

/-- The local variables of `DecodeNSSAI`. -/
structure NSSAILoop where
  i : Nat
  n : NSSAI

def decodeNSSAIStep (b : Bytes) : Proc NSSAILoop (Ctl Unit) := do
  let i := (← get).i
  if b.length ≤ i then return .done () else
  let length ← lift (index b i)
  let i := i + 1
  if b.length < i + length.toNat then fail (.new "nas: NSSAI truncated") else
  let sst ← lift (index b i)
  let sd ←
    if length = 4 then do
      let b1 ← lift (index b (i + 1))
      let b2 ← lift (index b (i + 2))
      let b3 ← lift (index b (i + 3))
      pure (sdOfBytes b1 b2 b3)
    else pure sdNotPresent
  modify fun s => { i := i + length.toNat, n := s.n ++ [{ sst, sd }] }
  return .next ()

/-- `DecodeNSSAI`. -/
def decodeNSSAI (b : Bytes) : Outcome (NSSAI × Option Error) :=
  match (loop (fun s => decide (s.i < b.length)) (fun _ => decodeNSSAIStep b)
      b.length ()).run ⟨0, []⟩ with
  | (.ok (), s) => .ok (s.n, none)
  | (.err e, s) => .ok (s.n, some e)
  | (.panic, _) => .panic
  | (.hang, _) => .hang

inductive NSSAIEnd where
  /-- The last element ends with the list. -/
  | whole
  /-- The last length octet reaches past the list. -/
  | truncated
  /-- The last octet is the length of an element without octets. -/
  | emptyLast
  deriving DecidableEq

def nssaiEnd : Bytes → NSSAIEnd
  | [] => .whole
  | [l] => if l = 0 then .emptyLast else .truncated
  | l :: b :: r =>
    if l.toNat ≤ (b :: r).length then nssaiEnd ((b :: r).drop l.toNat) else .truncated
termination_by b => b.length

/-- The way in which the decoder ends on a list that ends like this. -/
def NSSAIEnd.Explains {α : Type} : NSSAIEnd → Outcome α → Prop
  | .whole, .ok _ => True
  | .truncated, .err _ => True
  | .emptyLast, .panic => True
  | _, _ => False

section Walk

variable {b : Bytes} {s : NSSAILoop} {l : UInt8} {r : Bytes}

private theorem length_of_drop_eq (h : b.drop s.i = l :: r) : b.length = s.i + (r.length + 1) := by
  have := congrArg length h
  simp only [length_drop, length_cons] at this
  omega

private theorem index_of_drop_eq (h : b.drop s.i = l :: r) : index b s.i = .ok l := by
  have hl : b[s.i]? = some l := by
    rw [← head?_drop, h]
    rfl
  simp [index, hl]

private theorem run_step_truncated (h : b.drop s.i = l :: r) (hl : r.length < l.toNat) :
    ∃ e s', (decodeNSSAIStep b).run s = (.err e, s') := by
  have hlen := length_of_drop_eq h
  simp [decodeNSSAIStep, run_bind, index_of_drop_eq h,
    show ¬b.length ≤ s.i by omega, show b.length < s.i + 1 + l.toNat by omega]

private theorem run_step_emptyLast (h : b.drop s.i = [0]) :
    ∃ s', (decodeNSSAIStep b).run s = (.panic, s') := by
  have hlen := length_of_drop_eq h
  simp only [length_nil] at hlen
  simp [decodeNSSAIStep, run_bind, index_of_drop_eq h,
    show ¬b.length ≤ s.i by omega, show ¬b.length < s.i + 1 by omega,
    index_of_ge (show b.length ≤ s.i + 1 by omega)]

private theorem run_step_next {x : UInt8} (h : b.drop s.i = l :: x :: r)
    (hl : l.toNat ≤ (x :: r).length) : ∃ s', (decodeNSSAIStep b).run s = (.ok (.next ()), s') ∧
      s'.i = s.i + 1 + l.toNat := by
  have hlen := length_of_drop_eq h
  simp only [length_cons] at hlen hl
  by_cases h4 : l = 4
  · subst h4
    have : (4 : UInt8).toNat = 4 := rfl
    simp (disch := omega) [decodeNSSAIStep, run_bind, index_of_drop_eq h,
      index_of_lt, show ¬b.length ≤ s.i by omega, show ¬b.length < s.i + 1 + 4 by omega]
  · simp (disch := omega) [decodeNSSAIStep, run_bind, index_of_drop_eq h,
      index_of_lt, h4, show ¬b.length ≤ s.i by omega, show ¬b.length < s.i + 1 + l.toNat by omega]

-- Induction on the bound of the loop; what the loop has read so far does not
-- matter, only the octets from `s.i` on do.
private theorem run_nssaiLoop (b : Bytes) : ∀ (fuel : Nat) (s : NSSAILoop), b.length - s.i ≤ fuel →
    (nssaiEnd (b.drop s.i)).Explains
      ((loop (fun s => decide (s.i < b.length)) (fun _ => decodeNSSAIStep b)
        fuel ()).run s).1 := by
  intro fuel
  induction fuel with
  | zero =>
    intro s hs
    rw [drop_eq_nil_of_le (by omega), nssaiEnd, run_loop_exit (by simp; omega)]
    trivial
  | succ fuel ih =>
    intro s hs
    rcases h : b.drop s.i with _ | ⟨l, _ | ⟨x, r⟩⟩
    · have hi : b.length ≤ s.i := drop_eq_nil_iff.mp h
      rw [nssaiEnd, run_loop_exit (by simp; omega)]
      trivial
    · have hlen := length_of_drop_eq h
      rw [nssaiEnd, run_loop_step (by simp; omega)]
      split_ifs with hl
      · obtain ⟨s', hs'⟩ := run_step_emptyLast (hl ▸ h)
        simp only [hs']
        trivial
      · have hpos : 0 < l.toNat := by
          rw [Nat.pos_iff_ne_zero]
          intro h0
          exact hl (UInt8.toNat_inj.mp h0)
        obtain ⟨e, s', hs'⟩ := run_step_truncated h hpos
        simp only [hs']
        trivial
    · have hlen := length_of_drop_eq h
      rw [nssaiEnd, run_loop_step (by simp; omega)]
      split_ifs with hl
      · obtain ⟨s', hs', hi⟩ := run_step_next h hl
        have hdrop : (x :: r).drop l.toNat = b.drop s'.i := by
          rw [hi, ← drop_drop, ← drop_drop, h]
          rfl
        simp only [hs', hdrop]
        exact ih s' (by omega)
      · obtain ⟨e, s', hs'⟩ := run_step_truncated h (Nat.lt_of_not_le hl)
        simp only [hs']
        trivial

end Walk

theorem decodeNSSAI_eq (b : Bytes) : match nssaiEnd b with
    | .whole => ∃ n, decodeNSSAI b = .ok (n, none)
    | .truncated => ∃ n e, decodeNSSAI b = .ok (n, some e)
    | .emptyLast => decodeNSSAI b = .panic := by
  have h := run_nssaiLoop b b.length ⟨0, []⟩ (by simp)
  simp only [drop_zero] at h
  unfold decodeNSSAI
  rcases hrun : (loop (fun s => decide (s.i < b.length))
    (fun _ => decodeNSSAIStep b) b.length ()).run ⟨0, []⟩ with ⟨o, s⟩
  cases hend : nssaiEnd b <;> rw [hend] at h <;> cases o <;> simp_all [NSSAIEnd.Explains]

def readNSSAI : Proc Reader NSSAI := do
  let nssaiBytes ← readLV
  let (nssai, _) ← lift (decodeNSSAI nssaiBytes)
  return nssai

theorem run_readNSSAI (r : Bytes) :
    if nssaiEnd (lvValue r) = .emptyLast then readNSSAI.run r = (.panic, lvTail r)
    else ∃ n, readNSSAI.run r = (.ok n, lvTail r) := by
  rw [readNSSAI, run_bind_ok (run_readLV r)]
  have heq := decodeNSSAI_eq (lvValue r)
  cases hend : nssaiEnd (lvValue r) <;> rw [hend] at heq
  · obtain ⟨n, hn⟩ := heq
    rw [hn]
    exact ⟨n, rfl⟩
  · obtain ⟨n, e, hn⟩ := heq
    rw [hn]
    exact ⟨n, rfl⟩
  · rw [heq]
    rfl

/-! ## The NSSAIs that a message decoder reaches -/

/-- The list ends in an element without octets, which `DecodeNSSAI` reads out of
range. -/
def EndsEmpty (v : Bytes) : Prop := nssaiEnd v = .emptyLast

/-- The way through the elements of a Registration Accept and of a Configuration
Update Command, whose decoders ignore every error. -/
def lenientWalk : IEWalk where
  layout iei := if iei = 0x77 then .lve else if iei < 0x80 then .lv else .bare
  handed iei r := if iei = 0x15 ∨ iei = 0x31 then some (lvValue r) else none

section Foresees

variable {α : Type} {w : IEWalk} {iei : UInt8} {r : Bytes}

theorem foresees_readNSSAI {f : NSSAI → Proc Reader (Ctl α)}
    (hf : ∀ n, ∃ a, (f n).run (lvTail r) = (.ok (.next a), lvTail r))
    (hlayout : w.layout iei = .lv) (hnssai : w.handed iei r = some (lvValue r))
    (hrej : w.rejects iei r = false) : w.Foresees EndsEmpty iei r ((readNSSAI >>= f).run r) := by
  have hread := run_readNSSAI r
  by_cases hend : nssaiEnd (lvValue r) = .emptyLast
  · rw [if_pos hend] at hread
    rw [run_bind, hread]
    exact ⟨lvValue r, hnssai, hend⟩
  · rw [if_neg hend] at hread
    obtain ⟨n, hn⟩ := hread
    obtain ⟨a, ha⟩ := hf n
    rw [run_bind_ok hn, ha]
    exact ⟨by rw [hlayout]; rfl, hrej, not_traps_of_handed hnssai hend⟩

end Foresees

/-! ## Security capability and algorithms -/

/-- `UESecurityCapability`. -/
structure UESecurityCapability where
  ea0 : Bool := false
  ea1 : Bool := false
  ea2 : Bool := false
  ea3 : Bool := false
  ia0 : Bool := false
  ia1 : Bool := false
  ia2 : Bool := false
  ia3 : Bool := false
  raw : Bytes := []
  deriving DecidableEq

def decodeUESecurityCapability (b : Bytes) : Outcome UESecurityCapability := do
  if b.length < 2 then .err (.new "nas: UE sec cap too short") else
  let b0 ← index b 0
  let b1 ← index b 1
  return {
    ea0 := b0 &&& 0x80 ≠ 0, ea1 := b0 &&& 0x40 ≠ 0
    ea2 := b0 &&& 0x20 ≠ 0, ea3 := b0 &&& 0x10 ≠ 0
    ia0 := b1 &&& 0x80 ≠ 0, ia1 := b1 &&& 0x40 ≠ 0
    ia2 := b1 &&& 0x20 ≠ 0, ia3 := b1 &&& 0x10 ≠ 0
    raw := b }

theorem decodeUESecurityCapability_ok (h : 2 ≤ b.length) :
    ∃ c, decodeUESecurityCapability b = .ok c := by
  simp (disch := omega) [decodeUESecurityCapability, Nat.not_lt.mpr h, index_of_lt]

theorem decodeUESecurityCapability_err (h : b.length < 2) :
    ∃ e, decodeUESecurityCapability b = .err e := by
  rw [decodeUESecurityCapability, if_pos h]
  exact ⟨_, rfl⟩

theorem returns_decodeUESecurityCapability (b : Bytes) :
    (decodeUESecurityCapability b).Returns := by
  rcases Nat.lt_or_ge b.length 2 with h | h
  · obtain ⟨e, he⟩ := decodeUESecurityCapability_err h
    simp [he]
  · obtain ⟨c, hc⟩ := decodeUESecurityCapability_ok h
    simp [hc]

structure NASSecurityAlgorithms where
  cipheringAlgorithmID : UInt8 := 0
  integrityAlgorithmID : UInt8 := 0
  deriving DecidableEq

def decodeNASSecurityAlgorithms (b : UInt8) : NASSecurityAlgorithms where
  cipheringAlgorithmID := (b >>> 4) &&& 0x0F
  integrityAlgorithmID := b &&& 0x0F

structure NGKSI where
  keySetIdentifier : UInt8 := 0
  type : UInt8 := 0
  deriving DecidableEq

end Claudia5gc.Nas
