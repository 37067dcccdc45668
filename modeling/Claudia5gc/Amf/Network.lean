import Claudia5gc.Amf.Frames

/-!
# Procedures that the network starts

The management interface, the other network functions and the guard timer of a release
call these on the context of one UE.  Each of them ends in a protected message or waits
for the answer of the UE, which comes back as an uplink PDU.
-/

namespace Claudia5gc.Amf

open Go Nas Proc

namespace Handler

variable (cfg : Config) (env : Env) (ue : Ptr)

def sendNetworkDeregistration (cause5GMM accessType : UInt8) (reregRequired : Bool) :
    Proc Handler Unit := do
  let accessType := if accessType = 0 then 1 else accessType
  (sendNASSecuredViaDownlink env ue (.deregistrationRequestNW
    { cause5GMM := cause5GMM
      reregistrationRequired := reregRequired
      accessType := accessType })).wrapErr "network deregistration: send"
  transitionTo ue .deregisteredInitiated

def initiateNetworkPDUSessionRelease (psi : UInt8) : Proc Handler Unit := do
  let c ← load ue
  match c.pduSessions.lookup psi with
  | none => Proc.fail (.new s!"nas: NW PDU release: pduSessionID {psi} not found")
  | some pduSess =>
    let nasPDU ← (secureN1SM ue psi
      (wrapPDUSessionReleaseCommandBody psi 0 cause5GSMRegularDeactivation)).wrapErr
      "nas: NW PDU release: encode DL NAS Transport"
    (send env (.pduSessionResourceReleaseCommand ue psi nasPDU)).wrapErr
      "nas: NW PDU release: SendPDUSessionResourceReleaseCommand"
    Proc.modify fun s => { s with
      pendingRelease := s.pendingRelease.insert (c.amfUENGAPId, psi) pduSess.smfInstanceID }

def initiateNetworkQoSModification (psi : UInt8) (fiveQI ambrDLMbps ambrULMbps : Int) :
    Proc Handler Unit := do
  match (← load ue).pduSessions.lookup psi with
  | none => Proc.fail (.new s!"nas: NW QoS modify: pduSessionID {psi} not found")
  | some pduSess =>
    if !cfg.modifyQoSSMContext then
      Proc.fail (.new "nas: NW QoS modify: ModifyQoSSMContext not available")
    else
    emit (.modifyQoSSMContext pduSess.smfInstanceID psi fiveQI ambrDLMbps ambrULMbps)
    let (n1SmCmdBody, n2SmInfo) ← (answer env.modifyQoSSMContext).wrapErr
      "nas: NW QoS modify: SMF"
    let nasPDU ← (secureN1SM ue psi n1SmCmdBody).wrapErr
      "nas: NW QoS modify: encode DL NAS Transport"
    send env (.pduSessionResourceModifyRequest ue psi nasPDU n2SmInfo)

def encodeDownlinkLPP (lppPDU : Bytes) : Proc Handler Bytes :=
  if lppPDU = [] then Proc.fail (.new "nasmsg: empty LPP PDU")
  else (sendNASSecured ue (.dlNASTransport
    { payloadContainerType := payloadContainerTypeLPP
      payloadContainer := lppPDU })).wrapErr "nasmsg: encode DL NAS Transport (LPP)"

def sendDownlinkLPP (lppPDU : Bytes) : Proc Handler Unit := do
  let nasPDU ← encodeDownlinkLPP ue lppPDU
  let id := (← load ue).amfUENGAPId
  Proc.modify fun s => { s with pendingLPP := s.pendingLPP.insert id () }
  match ← (send env (.downlinkNASTransport ue nasPDU)).attempt with
  | .ok _ => return ()
  | .error e =>
    Proc.modify fun s => { s with pendingLPP := s.pendingLPP.erase id }
    Proc.fail (.wrap "nasmsg: send downlink lpp" e)

def sendDownlinkLPPNoWait (lppPDU : Bytes) : Proc Handler Unit := do
  let nasPDU ← encodeDownlinkLPP ue lppPDU
  (send env (.downlinkNASTransport ue nasPDU)).wrapErr "nasmsg: send downlink lpp (no-wait)"

def revokeNSSAASlice (sst : UInt8) (sd : String) : Proc Handler Unit := do
  if ← revokeNSSAA ue sst sd then sendNSSAAConfigUpdate env ue

def reauthNSSAASlice (sst : UInt8) (sd : String) : Proc Handler Unit := do
  if ← reauthNSSAA ue sst sd then startNSSAA cfg env ue

/-! ## The system of one UE -/

inductive NetworkInput where
  | deregistration (cause5GMM accessType : UInt8) (reregRequired : Bool)
  | pduSessionRelease (psi : UInt8)
  | t3592 (psi : UInt8)
  | qosModification (psi : UInt8) (fiveQI ambrDLMbps ambrULMbps : Int)
  | downlinkLPP (lppPDU : Bytes)
  | downlinkLPPNoWait (lppPDU : Bytes)
  | uePolicy (container : Bytes)
  | revokeSlice (sst : UInt8) (sd : String)
  | reauthSlice (sst : UInt8) (sd : String)

def networkProcedure : NetworkInput → Proc Handler Unit
  | .deregistration cause5GMM accessType reregRequired =>
    sendNetworkDeregistration env ue cause5GMM accessType reregRequired
  | .pduSessionRelease psi => initiateNetworkPDUSessionRelease env ue psi
  | .t3592 psi => completeNetworkPDUSessionRelease cfg ue psi
  | .qosModification psi fiveQI ambrDLMbps ambrULMbps =>
    initiateNetworkQoSModification cfg env ue psi fiveQI ambrDLMbps ambrULMbps
  | .downlinkLPP lppPDU => sendDownlinkLPP env ue lppPDU
  | .downlinkLPPNoWait lppPDU => sendDownlinkLPPNoWait env ue lppPDU
  | .uePolicy container => sendUEPolicyContainer env ue container
  | .revokeSlice sst sd => revokeNSSAASlice env ue sst sd
  | .reauthSlice sst sd => reauthNSSAASlice cfg env ue sst sd

/-- What can happen to one UE: an uplink PDU, a procedure of the network, or the turn of a
goroutine. -/
inductive UEInput where
  | nas (pdu : Bytes) (env : Env)
  | network (input : NetworkInput) (env : Env)
  | background (before : List Goroutine) (g : Goroutine) (after : List Goroutine)

def ueStep : System Handler UEInput
  | s, .nas pdu env, s' => s' = ((handleNASMessage cfg env ue pdu).run s).2
  | s, .network input env, s' => s' = ((networkProcedure cfg env ue input).run s).2
  | s, .background before g after, s' =>
    s.goroutines = before ++ g :: after ∧
      s' = ((background cfg g).run { s with goroutines := before ++ after }).2

end Handler

end Claudia5gc.Amf
