import Claudia5gc.Amf.Integrity

/-!
# The uplink COUNT

A UE numbers its protected PDUs from the moment Phase 2 puts new keys into use, and sends the low
octet of the number along.  `unwrapNASSecurity` checks and deciphers under `UplinkCount`, which
Phase 2 sets to zero and every PDU that is opened increments; the octet goes into the input of the
MAC and into nothing else.
-/

namespace Claudia5gc.Amf

open Go Crypto Nas Handler UInt32

/-! ## What the UE sends -/

/-- A protected PDU of the UE, with the number it was sent under. -/
structure UplinkPDU where
  count : Nat
  sht : UInt8
  mac : Vector UInt8 4
  payload : Bytes

def UplinkPDU.octets (p : UplinkPDU) : Bytes :=
  [0x7E, p.sht] ++ p.mac.toList ++ [UInt8.ofNat p.count] ++ p.payload

/-- The numbers of PDUs that arrive in order, the next one of the UE being `next`: fewer
than 256 are lost at a time. -/
def BoundedLoss : (next : Nat) → List Nat → Prop
  | _, [] => True
  | next, count :: counts => next ≤ count ∧ count - next < 256 ∧ BoundedLoss (count + 1) counts

instance BoundedLoss.decidable : (next : Nat) → (counts : List Nat) →
    Decidable (BoundedLoss next counts)
  | _, [] => isTrue trivial
  | next, count :: counts =>
    have := BoundedLoss.decidable (count + 1) counts
    inferInstanceAs
      (Decidable (next ≤ count ∧ count - next < 256 ∧ BoundedLoss (count + 1) counts))

open List

/-! ## The system -/

/-- What happens at the AMF: a PDU arrives, or something that leaves the uplink side of
the security context alone. -/
inductive UplinkInput where
  | arrive (p : UplinkPDU)
  | other

def UplinkInput.arrived (inputs : List UplinkInput) : List UplinkPDU :=
  inputs.filterMap fun
    | .arrive p => some p
    | .other => none

/-- What opening a PDU reads of the context. -/
def UEContext.uplinkSide (c : UEContext) : UInt32 × Bytes × UInt8 :=
  (c.securityCtx.uplinkCount, c.securityCtx.knasenc, c.securityCtx.cipheringAlgID)

/-- The AMF and the COUNTs that `unwrapNASSecurity` has used, in order. -/
structure Uplink where
  amf : Handler
  used : List UInt32

namespace Uplink

/-- The COUNT that `unwrapNASSecurity` passes to `nia.Verify` and to `nea.NEA2`. -/
def countInUse (amf : Handler) (ue : Ptr) : UInt32 := (amf.ctx ue).securityCtx.uplinkCount

def step (ue : Ptr) : System Uplink UplinkInput
  | s, .arrive p, s' =>
    s' = { amf := ((unwrapNASSecurity ue p.octets).run s.amf).2
           used := s.used ++ [countInUse s.amf ue] }
  | s, .other, s' =>
    (s'.amf.ctx ue).uplinkSide = (s.amf.ctx ue).uplinkSide ∧ s'.used = s.used

/-! ## Opening a PDU -/

theorem decipher_of_length {sec : SecurityContext} (hkey : sec.knasenc.length = 16)
    (sht : UInt8) (inner : Bytes) : ∃ plain, decipher sec sht inner = .ok plain := by
  unfold decipher Nea.nea2
  split
  · split
    · exact ⟨_, rfl⟩
    · rw [if_neg (not_not.mpr hkey)]
      exact ⟨_, rfl⟩
  · exact ⟨_, rfl⟩

theorem length_octets (p : UplinkPDU) : 7 ≤ p.octets.length := by
  simp only [UplinkPDU.octets, length_append, length_cons, length_nil, Vector.length_toList]
  omega

theorem run_unwrap_octets {s : Handler} {ue : Ptr} (p : UplinkPDU)
    (hkey : (s.ctx ue).securityCtx.knasenc.length = 16) :
    ((unwrapNASSecurity ue p.octets).run s).2 = counted ue s := by
  obtain ⟨plain, hplain⟩ := decipher_of_length hkey
    (securityHeaderType p.octets) (p.octets.drop 7)
  rw [run_unwrapNASSecurity (length_octets p), hplain]

theorem ctx_counted (s : Handler) (ue : Ptr) : (counted ue s).ctx ue = countUplink (s.ctx ue) := by
  rw [counted, ctx_update, if_pos rfl]

/-! ## Every run -/

/-- The COUNT is the number of PDUs so far, and the COUNTs used are those before it. -/
structure Counted (ue : Ptr) (n : Nat) (s : Uplink) : Prop where
  key : (s.amf.ctx ue).securityCtx.knasenc.length = 16
  count : countInUse s.amf ue = ofNat n
  used : s.used = (range n).map ofNat

theorem counted_arrive {ue : Ptr} {n : Nat} {s s' : Uplink} {p : UplinkPDU}
    (h : Counted ue n s) (hstep : step ue s (.arrive p) s') : Counted ue (n + 1) s' := by
  obtain rfl := hstep
  rw [run_unwrap_octets p h.key]
  refine ⟨?_, ?_, ?_⟩
  · rw [ctx_counted]
    exact h.key
  · change ((counted ue s.amf).ctx ue).securityCtx.uplinkCount = _
    have hcount : (s.amf.ctx ue).securityCtx.uplinkCount = ofNat n := h.count
    rw [ctx_counted, ofNat_add]
    change (s.amf.ctx ue).securityCtx.uplinkCount + 1 = _
    rw [hcount]
    rfl
  · rw [h.used, h.count, range_succ, map_append]
    rfl

theorem counted_other {ue : Ptr} {n : Nat} {s s' : Uplink} (h : Counted ue n s)
    (hstep : step ue s .other s') : Counted ue n s' := by
  obtain ⟨hside, hused⟩ := hstep
  obtain ⟨hcount, hrest⟩ := Prod.mk.inj hside
  obtain ⟨hkey, -⟩ := Prod.mk.inj hrest
  refine ⟨?_, hcount.trans h.count, hused.trans h.used⟩
  rw [hkey]
  exact h.key

theorem counted_of_run {ue : Ptr} {s t : Uplink} {inputs : List UplinkInput}
    (h : Counted ue 0 s) (run : Run (step ue) s inputs t) :
    Counted ue (UplinkInput.arrived inputs).length t := by
  induction run with
  | nil => exact h
  | snoc run input last ih =>
    rw [UplinkInput.arrived, filterMap_append, length_append]
    cases input with
    | arrive p => exact counted_arrive ih last
    | other => exact counted_other ih last

/-! ## Which numbers the COUNTs are -/

/-- Numbers that agree with their positions modulo 2^32 are their positions: with fewer
than 256 lost at a time, the first that is not would be off by fewer than 256. -/
theorem eq_range'_of_boundedLoss {start : Nat} {counts : List Nat}
    (hloss : BoundedLoss start counts)
    (h : (range' start counts.length).map ofNat = counts.map ofNat) :
    counts = range' start counts.length := by
  induction counts generalizing start with
  | nil => rfl
  | cons count counts ih =>
    obtain ⟨hle, hlt, hloss⟩ := hloss
    obtain ⟨hhead, htail⟩ := cons.inj h
    have hmod : start % 2 ^ 32 = count % 2 ^ 32 := by
      simpa using congrArg toNat hhead
    have hcount : count = start := by omega
    subst hcount
    rw [length_cons, range'_succ, ← ih hloss htail]

theorem counted_phase2 {cfg : Config} {env : Env} {ue : Ptr} {authResp : AuthenticationResponse}
    {s₀ s : Handler} {r : SecurityModeCommand × Option Ptr}
    (h : (phase2ProcessAuthResponse cfg env ue authResp).run s₀ = (.ok r, s)) :
    Counted ue 0 ⟨s, []⟩ := by
  obtain ⟨-, kausf, c, hctx⟩ := gives_phase2ProcessAuthResponse cfg env ue authResp _ _ _ h
  refine ⟨?_, ?_, rfl⟩
  · rw [hctx]
    exact length_knasenc _ _
  · change (s.ctx ue).securityCtx.uplinkCount = 0
    rw [hctx]
    rfl

/-! ## A lost PDU -/

def authenticatedUE : Handler :=
  ((phase2ProcessAuthResponse .minimal
    { confirmAuth := .ok ⟨"imsi-001010000000001", []⟩ } 0 { res := [0xAA] }).run
    (newHandler (Manager.newManager ⟨"001", "01", 1, 1, 1⟩ false false))).2

def emptyPDU (count : Nat) : UplinkPDU := ⟨count, 0x01, #v[0, 0, 0, 0], []⟩

theorem phase2_authenticatedUE : ∃ r, (phase2ProcessAuthResponse .minimal
    { confirmAuth := .ok ⟨"imsi-001010000000001", []⟩ } 0 { res := [0xAA] }).run
    (newHandler (Manager.newManager ⟨"001", "01", 1, 1, 1⟩ false false)) =
      (.ok r, authenticatedUE) :=
  ⟨_, rfl⟩

theorem run_arrive_two (p q : UplinkPDU) :
    ∃ t, Run (step 0) ⟨authenticatedUE, []⟩ [.arrive p, .arrive q] t :=
  ⟨_, (Run.nil.snoc _ rfl).snoc _ rfl⟩

end Uplink

end Claudia5gc.Amf
