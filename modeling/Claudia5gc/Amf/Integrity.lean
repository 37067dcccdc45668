import Claudia5gc.Amf.NasHandler
import Mathlib.Data.List.GetD

/-!
# What the integrity check decides

`unwrapNASSecurity` verifies the MAC of an uplink PDU, logs what it finds and goes on.  So the four
octets of the MAC decide nothing: the PDU is opened and counted whatever they are, and
`HandleNASMessage` ends the same way in the same state for all of them.
-/

namespace Claudia5gc.Amf.Handler

open Go Crypto Nas Proc

variable {pdu : Bytes} {cfg : Config} {s : Handler} {ue : Ptr}

def withMAC (mac : Vector UInt8 4) (pdu : Bytes) : Bytes :=
  pdu.take 2 ++ mac.toList ++ pdu.drop 6

def securityHeaderType (pdu : Bytes) : UInt8 := pdu.getD 1 0 &&& 0x0F

/-- What `nia.Verify` says of a PDU: the MAC is over the sequence number and the octets
behind it, under the key and the COUNT of the context. -/
def verifyMAC (sec : SecurityContext) (pdu : Bytes) : Outcome Bool :=
  Nia.verify sec.knasint sec.uplinkCount 0x01 0x00 (pdu.drop 6) ((pdu.drop 2).take 4)

def counted (ue : Ptr) (s : Handler) : Handler := ((update ue countUplink).run s).2

/-! ## Opening a PDU -/

theorem returns_verify (key : Bytes) (count : UInt32) (bearer dir : UInt8)
    (message mac : Bytes) : (Nia.verify key count bearer dir message mac).Returns := by
  unfold Nia.verify Nia.nia2
  split <;> trivial

theorem returns_decipher (sec : SecurityContext) (sht : UInt8) (inner : Bytes) :
    (decipher sec sht inner).Returns := by
  unfold decipher Nea.nea2
  split
  · split
    · trivial
    · split <;> trivial
  · trivial

theorem run_attempt_lift_bind {α β : Type} {x : Outcome α} (hx : x.Returns)
    (y : Proc Handler β) (s : Handler) : ((lift x).attempt >>= fun _ => y).run s = y.run s := by
  cases x with
  | ok a | err e => rfl
  | panic => exact absurd hx Outcome.not_returns_panic
  | hang => exact absurd hx Outcome.not_returns_hang

theorem run_unwrapNASSecurity_of_lt (ue : Ptr) (h : pdu.length < 7) (s : Handler) :
    ∃ e, (unwrapNASSecurity ue pdu).run s = (.err e, s) := by
  unfold unwrapNASSecurity
  rw [if_pos h]
  exact ⟨_, rfl⟩

theorem run_unwrapNASSecurity (h : 7 ≤ pdu.length) (s : Handler) :
    (unwrapNASSecurity ue pdu).run s =
      match decipher (s.ctx ue).securityCtx (securityHeaderType pdu) (pdu.drop 7) with
      | .ok plain => (.ok (pdu.take 7 ++ plain), counted ue s)
      | .err e => (.err (.wrap "nas: NEA2 decipher" e), s)
      | .panic => (.panic, s)
      | .hang => (.hang, s) := by
  have hsht : securityHeaderType pdu = pdu[1] &&& 0x0F := by
    unfold securityHeaderType
    rw [List.getD_eq_getElem pdu 0 (by omega)]
  have hload : (load ue).run s = (.ok (s.ctx ue), s) := rfl
  unfold unwrapNASSecurity
  rw [if_neg (by omega), index_of_lt (by omega), slice_of_le (by omega) (by omega),
    index_of_lt (by omega), sliceFrom_of_le h, slice_of_le (by omega) h]
  rw [run_bind_ok (run_lift _ s), run_bind_ok (run_lift _ s), run_bind_ok (run_lift _ s),
    run_bind_ok (run_lift _ s), run_bind_ok hload, run_attempt_lift_bind (returns_verify ..)]
  rw [← hsht, run_bind, run_wrapErr, run_lift]
  cases decipher (s.ctx ue).securityCtx (securityHeaderType pdu) (pdu.drop 7) <;> rfl

/-! ## Decoding what was opened -/

theorem decode_protected {epd sht : UInt8} (hsht : sht &&& 0x0F ≠ 0) (m0 m1 m2 m3 : UInt8)
    (sqn : UInt8) (inner : Bytes) : decode (epd :: sht :: m0 :: m1 :: m2 :: m3 :: sqn :: inner) =
      match inner with
      | _ :: _ :: messageType :: b =>
        decodeBody
          { extendedProtocolDiscriminator := epd, securityHeaderType := sht &&& 0x0F,
            messageAuthenticationCode := [m0, m1, m2, m3], sequenceNumber := sqn, messageType } b
      | [_, _] => .err (.new "nas: inner PDU too short")
      | _ => .err (.new "nas: security PDU too short") := by
  match inner with
  | [] => simp [decode, hsht]
  | [_] => simp [decode, hsht]
  | [_, _] => simp [decode, hsht, slice, sliceFrom]
  | _ :: _ :: _ :: b =>
    have h3 : ¬b.length + 1 + 1 + 1 < 3 := by omega
    have h10 : ¬b.length + 1 + 1 + 1 + 1 + 1 + 1 + 1 + 1 + 1 + 1 < 9 := by omega
    have h10' : ¬b.length + 1 + 1 + 1 + 1 + 1 + 1 + 1 + 1 + 1 + 1 < 3 := by omega
    simp [decode, hsht, slice, sliceFrom, h3, h10, h10']

theorem dispatch_congr (cfg : Config) (env : Env) (ue : Ptr) {header header' : Header}
    (h : header.messageType = header'.messageType) (body : Body) :
    dispatch cfg env ue ⟨header, body⟩ = dispatch cfg env ue ⟨header', body⟩ := by
  unfold dispatch
  rw [h]

theorem handlePlainNAS_mac (cfg : Config) (env : Env) (ue : Ptr) {epd sht : UInt8}
    (hsht : sht &&& 0x0F ≠ 0) (m0 m1 m2 m3 n0 n1 n2 n3 sqn : UInt8) (inner : Bytes) (s : Handler) :
    (handlePlainNAS cfg env ue (epd :: sht :: m0 :: m1 :: m2 :: m3 :: sqn :: inner)).run s =
      (handlePlainNAS cfg env ue (epd :: sht :: n0 :: n1 :: n2 :: n3 :: sqn :: inner)).run s := by
  unfold handlePlainNAS
  rw [decode_protected hsht, decode_protected hsht]
  match inner with
  | [] => rfl
  | [_] => rfl
  | [_, _] => rfl
  | _ :: _ :: messageType :: b =>
    dsimp only
    unfold decodeBody
    cases decodeBodyOf messageType b with
    | ok body => exact congrArg (run · s) (dispatch_congr cfg env ue rfl body)
    | err e | panic | hang => rfl

/-! ## `HandleNASMessage` on a protected PDU -/

theorem run_handleNASMessage {env : Env} (hactive : (s.ctx ue).securityCtx.active = true)
    (hpdu : isProtected pdu = true) : (handleNASMessage cfg env ue pdu).run s =
      ((unwrapNASSecurity ue pdu).wrapErr "nas security unwrap" >>=
        handlePlainNAS cfg env ue).run s := by
  have hload : (load ue).run s = (.ok (s.ctx ue), s) := rfl
  unfold handleNASMessage
  rw [run_bind_ok hload, hactive, hpdu]
  rfl

theorem exists_of_isProtected (hpdu : isProtected pdu = true) (hlen : 7 ≤ pdu.length) :
    ∃ sht m0 m1 m2 m3 sqn inner, sht &&& 0x0F ≠ 0 ∧
      pdu = 0x7E :: sht :: m0 :: m1 :: m2 :: m3 :: sqn :: inner := by
  match pdu, hlen with
  | epd :: sht :: m0 :: m1 :: m2 :: m3 :: sqn :: inner, _ =>
    simp only [isProtected, Bool.and_eq_true, decide_eq_true_eq] at hpdu
    exact ⟨sht, m0, m1, m2, m3, sqn, inner, hpdu.2, by rw [hpdu.1]⟩

theorem run_handleNASMessage_of_le {env : Env} (hactive : (s.ctx ue).securityCtx.active = true)
    (hpdu : isProtected pdu = true) (hlen : 7 ≤ pdu.length) :
    (handleNASMessage cfg env ue pdu).run s =
      match decipher (s.ctx ue).securityCtx (securityHeaderType pdu) (pdu.drop 7) with
      | .ok plain => (handlePlainNAS cfg env ue (pdu.take 7 ++ plain)).run (counted ue s)
      | .err e => (.err (.wrap "nas security unwrap" (.wrap "nas: NEA2 decipher" e)), s)
      | .panic => (.panic, s)
      | .hang => (.hang, s) := by
  rw [run_handleNASMessage hactive hpdu, run_bind, run_wrapErr, run_unwrapNASSecurity hlen]
  cases decipher (s.ctx ue).securityCtx (securityHeaderType pdu) (pdu.drop 7) <;> rfl

theorem run_handleNASMessage_withMAC {env : Env} (hactive : (s.ctx ue).securityCtx.active = true)
    (hpdu : isProtected pdu = true) (hlen : 7 ≤ pdu.length) (mac : Vector UInt8 4) :
    (handleNASMessage cfg env ue (withMAC mac pdu)).run s =
      (handleNASMessage cfg env ue pdu).run s := by
  obtain ⟨sht, m0, m1, m2, m3, sqn, inner, hsht, rfl⟩ := exists_of_isProtected hpdu hlen
  obtain ⟨⟨octets⟩, hmac⟩ := mac
  match octets, hmac with
  | [n0, n1, n2, n3], _ =>
    have hpdu' : isProtected (0x7E :: sht :: n0 :: n1 :: n2 :: n3 :: sqn :: inner) = true :=
      hpdu
    change (handleNASMessage cfg env ue
      (0x7E :: sht :: n0 :: n1 :: n2 :: n3 :: sqn :: inner)).run s = _
    rw [run_handleNASMessage_of_le hactive hpdu' (by simp),
      run_handleNASMessage_of_le hactive hpdu hlen]
    change (match decipher (s.ctx ue).securityCtx (sht &&& 0x0F) inner with
      | .ok plain => _ | .err e => _ | .panic => _ | .hang => _) =
      match decipher (s.ctx ue).securityCtx (sht &&& 0x0F) inner with
      | .ok plain => _ | .err e => _ | .panic => _ | .hang => _
    cases decipher (s.ctx ue).securityCtx (sht &&& 0x0F) inner with
    | ok plain => exact handlePlainNAS_mac cfg env ue hsht ..
    | err e | panic | hang => rfl

/-- With a security context in use, a protected PDU is refused with the state as it was if
it is too short for its header or cannot be deciphered, and only then.  Every other one is
counted, decoded and dispatched, and it makes no difference which MAC it carries. -/
theorem handleNASMessage_of_isProtected (cfg : Config) (env : Env) (ue : Ptr) (pdu : Bytes)
    (s : Handler) (hactive : (s.ctx ue).securityCtx.active = true) (hpdu : isProtected pdu = true) :
    (pdu.length < 7 → ∃ e, (handleNASMessage cfg env ue pdu).run s = (.err e, s)) ∧
    (7 ≤ pdu.length →
      ((∃ e e', decipher (s.ctx ue).securityCtx (securityHeaderType pdu) (pdu.drop 7) = .err e ∧
          (handleNASMessage cfg env ue pdu).run s = (.err e', s)) ∨
        ∃ plain, decipher (s.ctx ue).securityCtx (securityHeaderType pdu) (pdu.drop 7) = .ok plain ∧
          (handleNASMessage cfg env ue pdu).run s =
            (handlePlainNAS cfg env ue (pdu.take 7 ++ plain)).run (counted ue s)) ∧
      ∀ mac : Vector UInt8 4, (handleNASMessage cfg env ue (withMAC mac pdu)).run s =
          (handleNASMessage cfg env ue pdu).run s) := by
  constructor
  · intro hlen
    obtain ⟨e, he⟩ := run_unwrapNASSecurity_of_lt ue hlen s
    refine ⟨.wrap "nas security unwrap" e, ?_⟩
    rw [run_handleNASMessage hactive hpdu, run_bind, run_wrapErr, he]
  · intro hlen
    refine ⟨?_, run_handleNASMessage_withMAC hactive hpdu hlen⟩
    rw [run_handleNASMessage_of_le hactive hpdu hlen]
    have hreturns := returns_decipher (s.ctx ue).securityCtx (securityHeaderType pdu)
      (pdu.drop 7)
    rcases Outcome.returns_iff.mp hreturns with ⟨plain, hplain⟩ | ⟨e, he⟩
    · right
      exact ⟨plain, hplain, by rw [hplain]⟩
    · left
      exact ⟨e, _, he, by rw [he]⟩

def registeredUE : Handler :=
  let mgr := ((Manager.newManager ⟨"001", "01", 1, 1, 1⟩ false false).allocateUEContext 7).2
  let securityCtx : SecurityContext :=
    { knasint := List.replicate 16 0, active := true }
  ((update 0 fun c => { c with state := .registered, securityCtx }).run (newHandler mgr)).2

/-- A Deregistration Request for switch-off, with zeros for the MAC. -/
def forgedDeregistration : Bytes :=
  [0x7E, 0x01, 0, 0, 0, 0, 0, 0x7E, 0x00, 0x45, 0x09, 0x00, 0x01, 0x00]

theorem handleNASMessage_of_isProtected_deregistration :
    (registeredUE.ctx 0).securityCtx.active = true ∧ isProtected forgedDeregistration = true ∧
    (handleNASMessage .minimal {} 0
        (withMAC #v[1, 2, 3, 4] forgedDeregistration)).run registeredUE =
      (handleNASMessage .minimal {} 0 forgedDeregistration).run registeredUE :=
  ⟨rfl, by decide,
    ((handleNASMessage_of_isProtected .minimal {} 0 forgedDeregistration registeredUE rfl
      (by decide)).2 (by decide)).2 #v[1, 2, 3, 4]⟩

theorem state_after_forgedDeregistration :
    (((handleNASMessage .minimal {} 0 forgedDeregistration).run registeredUE).2.ctx 0).state =
      .deregistered := by
  decide +kernel

/-- The MAC of the request does not verify, and the UE is deregistered. -/
theorem handleNASMessage_not_refused :
    ¬∀ (cfg : Config) (env : Env) (ue : Ptr) (pdu : Bytes) (s : Handler),
      (s.ctx ue).securityCtx.active = true → isProtected pdu = true →
      verifyMAC (s.ctx ue).securityCtx pdu ≠ .ok true →
      ∃ e, (handleNASMessage cfg env ue pdu).run s = (.err e, s) := by
  intro h
  have hmac : verifyMAC (registeredUE.ctx 0).securityCtx forgedDeregistration ≠ .ok true := by
    decide +kernel
  obtain ⟨e, he⟩ := h .minimal {} 0 forgedDeregistration registeredUE rfl (by decide) hmac
  have hbefore : (registeredUE.ctx 0).state = .registered := rfl
  have hafter := state_after_forgedDeregistration
  rw [he, hbefore] at hafter
  exact GMM5State.noConfusion hafter

end Claudia5gc.Amf.Handler
