import Claudia5gc.Amf.State
import Claudia5gc.Crypto.NasSecurity
import Claudia5gc.Nas.Encode

/-!
# Protection of NAS messages

A protected PDU is the discriminator, the security header type, four octets of MAC, the low octet of
the COUNT and the message.  Downlink messages are ciphered and then integrity protected under the
downlink COUNT.
-/

namespace Claudia5gc.Amf

open Go Crypto Nas Proc.Keeps Proc Outcome

variable (ue : Ptr) (body : DownlinkBody)

/-- An algorithm, given the key, the COUNT, the bearer, the direction and the message. -/
abbrev Algorithm := Bytes → UInt32 → UInt8 → UInt8 → Bytes → Outcome Bytes

def protect (mac crypt : Algorithm) (knasint knasenc : Bytes) (count : UInt32) (sht : UInt8)
    (body : DownlinkBody) : Outcome Bytes := do
  let inner ← encode body
  let ciphered ← crypt knasenc count 0x01 0x01 inner
  let code ← mac knasint count 0x01 0x01 (count.toUInt8 :: ciphered)
  return [0x7E, sht] ++ code ++ [count.toUInt8] ++ ciphered

namespace Handler

def sec (s : Handler) (ue : Ptr) : SecurityContext := (s.ctx ue).securityCtx

theorem sec_update (s : Handler) (ue : Ptr) (f : UEContext → UEContext) :
    ((update ue f).run s).2.sec ue = (f (s.ctx ue)).securityCtx := by
  unfold sec
  rw [ctx_update, if_pos rfl]

def securityHeaderIntegrityProtectedAndCiphered : UInt8 := 0x02
def securityHeaderIntegrityProtectedWithNewSC : UInt8 := 0x03
def securityHeaderIntegrityProtectedAndCipheredWithNewSC : UInt8 := 0x04

def countDownlink (c : UEContext) : UEContext :=
  { c with securityCtx :=
      { c.securityCtx with downlinkCount := c.securityCtx.downlinkCount + 1 } }

def countUplink (c : UEContext) : UEContext :=
  { c with securityCtx :=
      { c.securityCtx with uplinkCount := c.securityCtx.uplinkCount + 1 } }

def sendNASPlain (body : DownlinkBody) : Proc Handler Bytes :=
  let msgType := hexEncode [body.messageType]
  (lift (encode body)).wrapErr s!"nas encode {msgType}"

def sendNASIntegrityOnly (ue : Ptr) (body : DownlinkBody) (sht : UInt8) : Proc Handler Bytes := do
  let innerPDU ← sendNASPlain body
  let sec := (← load ue).securityCtx
  let count := sec.downlinkCount
  let sqn := count.toUInt8
  let mac ← (lift (Nia.nia2 sec.knasint count 0x01 0x01 (sqn :: innerPDU))).wrapErr
    "nas: NIA2"
  update ue countDownlink
  return [0x7E, sht] ++ mac ++ [sqn] ++ innerPDU

def cipher (sec : SecurityContext) (innerPDU : Bytes) : Proc Handler Bytes :=
  if sec.cipheringAlgID = 0 then return innerPDU
  else (lift (Nea.nea2 sec.knasenc sec.downlinkCount 0x01 0x01 innerPDU)).wrapErr
    "nas: NEA2"

def sendNASSecured (ue : Ptr) (body : DownlinkBody) : Proc Handler Bytes := do
  let innerPDU ← sendNASPlain body
  let sec := (← load ue).securityCtx
  let count := sec.downlinkCount
  let sqn := count.toUInt8
  let ciphered ← cipher sec innerPDU
  let mac ← (lift (Nia.nia2 sec.knasint count 0x01 0x01 (sqn :: ciphered))).wrapErr
    "nas: NIA2"
  update ue countDownlink
  return [0x7E, securityHeaderIntegrityProtectedAndCiphered] ++ mac ++ [sqn] ++ ciphered

def sendNASSecuredViaDownlink (env : Env) (ue : Ptr) (body : DownlinkBody) : Proc Handler Unit := do
  let pdu ← sendNASSecured ue body
  send env (.downlinkNASTransport ue pdu)

def decipher (sec : SecurityContext) (sht : UInt8) (inner : Bytes) : Outcome Bytes :=
  if sht = securityHeaderIntegrityProtectedAndCiphered ∨
      sht = securityHeaderIntegrityProtectedAndCipheredWithNewSC then
    if sec.cipheringAlgID = 0 then .ok inner
    else Nea.nea2 sec.knasenc sec.uplinkCount 0x01 0x00 inner
  else .ok inner

def unwrapNASSecurity (ue : Ptr) (pdu : Bytes) : Proc Handler Bytes := do
  let length := pdu.length
  if length < 7 then
    fail (.new s!"nas: security PDU too short ({length} bytes)")
  else
  let sht := (← lift (index pdu 1)) &&& 0x0F
  let receivedMAC ← lift (slice pdu 2 6)
  let sqn ← lift (index pdu 6)
  let inner ← lift (sliceFrom pdu 7)
  let sec := (← load ue).securityCtx
  -- An error and a mismatch are logged, "continuing in dev mode".
  let _ ← (lift (Nia.verify sec.knasint sec.uplinkCount 0x01 0x00 (sqn :: inner)
    receivedMAC)).attempt
  let plainInner ← (lift (decipher sec sht inner)).wrapErr "nas: NEA2 decipher"
  update ue countUplink
  return (← lift (slice pdu 0 7)) ++ plainInner

/-! ## What the routines build -/

def hardwired (id : UInt8) : Algorithm :=
  if id = 0 then fun _ _ _ _ message => .ok message else Nea.nea2

section

variable {ue : Ptr} {t : Handler} {body : DownlinkBody} {sht : UInt8} {pdu : Bytes}

theorem run_cipher_bind_iff {sec : SecurityContext} {inner : Bytes}
    {f : Bytes → Proc Handler Bytes} : (∃ t', (cipher sec inner >>= f).run t = (.ok pdu, t')) ↔
      ∃ a, hardwired sec.cipheringAlgID sec.knasenc sec.downlinkCount 0x01 0x01 inner = .ok a ∧
        ∃ t', (f a).run t = (.ok pdu, t') := by
  unfold cipher hardwired
  split
  · constructor
    · intro h
      exact ⟨inner, rfl, h⟩
    · rintro ⟨a, ha, h⟩
      obtain rfl := ok.inj ha
      exact h
  · exact run_wrapErr_lift_bind_iff

theorem run_sendNASIntegrityOnly_iff :
    (∃ t', (sendNASIntegrityOnly ue body sht).run t = (.ok pdu, t')) ↔
      protect Nia.nia2 (hardwired 0) (t.sec ue).knasint (t.sec ue).knasenc
        (t.sec ue).downlinkCount sht body = .ok pdu := by
  unfold protect sendNASIntegrityOnly sendNASPlain
  rw [run_wrapErr_lift_bind_iff, bind_eq_ok]
  refine exists_congr fun inner => and_congr_right fun _ => ?_
  rw [run_load_bind, run_wrapErr_lift_bind_iff, hardwired, if_pos rfl, ok_bind, bind_eq_ok]
  refine exists_congr fun code => and_congr_right fun _ => ?_
  exact ⟨fun ⟨t', h⟩ => (Prod.mk.inj h).1, fun h => ⟨_, Prod.ext h rfl⟩⟩

theorem run_sendNASSecured_iff : (∃ t', (sendNASSecured ue body).run t = (.ok pdu, t')) ↔
      protect Nia.nia2 (hardwired (t.sec ue).cipheringAlgID) (t.sec ue).knasint
        (t.sec ue).knasenc (t.sec ue).downlinkCount
        securityHeaderIntegrityProtectedAndCiphered body = .ok pdu := by
  unfold protect sendNASSecured sendNASPlain
  rw [run_wrapErr_lift_bind_iff, bind_eq_ok]
  refine exists_congr fun inner => and_congr_right fun _ => ?_
  rw [run_load_bind, run_cipher_bind_iff, bind_eq_ok]
  refine exists_congr fun ciphered => and_congr_right fun _ => ?_
  rw [run_wrapErr_lift_bind_iff, bind_eq_ok]
  refine exists_congr fun code => and_congr_right fun _ => ?_
  exact ⟨fun ⟨t', h⟩ => (Prod.mk.inj h).1, fun h => ⟨_, Prod.ext h rfl⟩⟩

end

/-! ## What protection leaves alone -/

section Frames

variable {τ : Type} {π : UEContext → τ} {P : Event → Prop}

theorem keeps_sendNASPlain : Proc.Keeps (Frame π P) (sendNASPlain body) :=
  wrapErr (.lift _) _

theorem keeps_cipher (sec : SecurityContext) (innerPDU : Bytes) :
    Proc.Keeps (Frame π P) (cipher sec innerPDU) :=
  .ite (fun _ => .pure _) fun _ => .wrapErr (.lift _) _

theorem keeps_unwrapNASSecurity (pdu : Bytes) (h : ∀ c, π (countUplink c) = π c) :
    Proc.Keeps (Frame π P) (unwrapNASSecurity ue pdu) := by
  refine .ite (fun _ => .fail _) fun _ => ?_
  refine bind (.lift _) fun _ => bind (.lift _) fun _ => ?_
  refine bind (.lift _) fun _ => bind (.lift _) fun _ => ?_
  refine (keeps_load ue).bind fun _ => ?_
  refine bind (.attempt (.lift _)) fun _ => ?_
  refine bind (.wrapErr (.lift _) _) fun _ => ?_
  refine bind (keeps_update h) fun _ => ?_
  exact bind (.lift _) fun _ => .pure _

theorem keeps_sendNASSecured_of (h : ∀ c, π (countDownlink c) = π c) :
    Proc.Keeps (Frame π P) (sendNASSecured ue body) :=
  (keeps_sendNASPlain body).bind fun _ => (keeps_load ue).bind fun _ =>
    (keeps_cipher _ _).bind fun _ => (wrapErr (.lift _) _).bind fun _ =>
    (keeps_update h).bind fun _ => .pure _

variable [UEContext.Reads UEContext.calm π]

theorem calm_countDownlink (c : UEContext) : π (countDownlink c) = π c :=
  UEContext.Reads.congr (ρ := UEContext.calm) rfl

theorem keeps_sendNASIntegrityOnly (sht : UInt8) :
    Proc.Keeps (Frame π P) (sendNASIntegrityOnly ue body sht) :=
  (keeps_sendNASPlain body).bind fun _ => (keeps_load ue).bind fun _ =>
    (wrapErr (.lift _) _).bind fun _ =>
    (keeps_update calm_countDownlink).bind fun _ => .pure _

theorem keeps_sendNASSecured : Proc.Keeps (Frame π P) (sendNASSecured ue body) :=
  keeps_sendNASSecured_of ue body calm_countDownlink

end Frames

end Handler

end Claudia5gc.Amf
