import Claudia5gc.Amf.Registration
import Claudia5gc.Nas.PduSession

/-!
# PDU sessions

What the handler does with the PDU sessions of a UE: the establishment, release and
modification messages that arrive in an UL NAS Transport, and the activation and the
local release that a Service Request brings about.  The other containers of an UL NAS
Transport, which are relayed, are here as well.
-/

namespace Claudia5gc.Amf

open Go Nas Proc

/-! ## Session status masks -/

def psiInStatus (mask : UInt16) (psi : UInt8) : Bool :=
  if psi ≤ 7 then (mask >>> (8 + psi).toUInt16) &&& 1 = 1
  else if psi ≤ 15 then (mask >>> (psi - 8).toUInt16) &&& 1 = 1
  else false

def psiBit (psi : UInt8) : UInt16 :=
  if psi = 0 then 0
  else if psi ≤ 7 then 1 <<< (8 + psi).toUInt16
  else if psi ≤ 15 then 1 <<< (psi - 8).toUInt16
  else 0

def psiMask (psis : List UInt8) : UInt16 := psis.foldl (fun m psi => m ||| psiBit psi) 0

def UEContext.sortedSessions (c : UEContext) : List (UInt8 × PDUSession) :=
  (c.pduSessions.entries.map fun e => (e.1, e.2)).mergeSort fun a b => a.1 ≤ b.1

def UEContext.dropSession (psi : UInt8) (c : UEContext) : UEContext :=
  { c with pduSessions := c.pduSessions.erase psi }

/-! ## Choice of the slice -/

/-- The S-NSSAI that the UE asks for, as a subscription entry. -/
def requestedSNSSAI (t : SNSSAITransport) : SNSSAISubscribed :=
  { sst := t.sst, sd := (t.sd.map sprint06x).getD "" }

def resolveSessionSNSSAI (t : Option SNSSAITransport) (allowed : List SNSSAISubscribed) :
    Option SNSSAISubscribed :=
  match t with
  | some t =>
    match allowed.find? fun a => sameSubscribed a (requestedSNSSAI t) with
    | some a => some a
    | none => if allowed ≠ [] then none else some (requestedSNSSAI t)
  | none =>
    match allowed with
    | a :: _ => some a
    | [] => some { sst := 1, sd := "000001" }

namespace Handler

variable (cfg : Config) (env : Env) (ue : Ptr)

def payloadContainerTypeN1SM : UInt8 := 0x01
def payloadContainerTypeSMS : UInt8 := 0x02
def payloadContainerTypeLPP : UInt8 := 0x03
def payloadContainerTypeUEPolicy : UInt8 := 0x05

def cause5GSMRegularDeactivation : UInt8 := 0x24
def causePayloadNotForwarded : UInt8 := 90

def deleteSMContext (smContextRef : String) : Proc Handler Unit :=
  if smContextRef ≠ "" ∧ cfg.deleteSMContext then emit (.deleteSMContext smContextRef)
  else return ()

variable (psi : UInt8)

/-- A 5GSM message of the network, in a protected DL NAS Transport. -/
def secureN1SM (n1SmMsg : Bytes) : Proc Handler Bytes :=
  sendNASSecured ue (.dlNASTransport
    { payloadContainerType := payloadContainerTypeN1SM
      payloadContainer := n1SmMsg
      pduSessionID := some psi })

/-! ## Establishment -/

def releaseExisting : Proc Handler Unit := do
  match (← load ue).pduSessions.lookup psi with
  | none => return ()
  | some existing =>
    deleteSMContext cfg existing.smfInstanceID
    update ue (UEContext.dropSession psi)

def rejectULNASTransport (t : ULNASTransport) (cause : UInt8) : Proc Handler Unit :=
  sendNASSecuredViaDownlink env ue (.dlNASTransport
    { payloadContainerType := t.payloadContainerType
      payloadContainer := t.payloadContainer
      pduSessionID := some psi
      cause5GMM := some cause })

/-- The DNN of a new session: the subscribed one only when the UE gave none. -/
def sessionDNN (t : ULNASTransport) (snssai : SNSSAISubscribed) : Bytes :=
  match t.dnn with
  | some dnn => dnn
  | none => stringBytes (if snssai.dnn ≠ "" then snssai.dnn else "internet")

def acceptSession (psi pti : UInt8) (dnn : Bytes) (snssai : SNSSAISubscribed) (a : SMContextAnswer)
    : Proc Handler Unit := do
  let nasPDU ← secureN1SM ue psi (wrapPDUSessionEstablishmentAcceptBody psi pti a.n1Resp)
  update ue fun c => { c with
    pduSessions := c.pduSessions.insert psi
      { pduSessionID := psi
        smfInstanceID := a.smContextRef
        dnn := dnn
        snssai := snssai
        n2SmTransfer := a.n2Info } }
  send env (.pduSessionResourceSetupRequest ue psi nasPDU a.n2Info)

def createSession (psi pti : UInt8) (t : ULNASTransport) (snssai : SNSSAISubscribed) :
    Proc Handler Unit := do
  if !cfg.callSMF then return () else
  let dnn := sessionDNN t snssai
  emit (.callSMF ue (← load ue).supi dnn psi t.payloadContainer snssai)
  match env.callSMF with
  | .error _ => return ()
  | .ok a => acceptSession env ue psi pti dnn snssai a

def establishSession (psi pti : UInt8) (t : ULNASTransport) : Proc Handler Unit := do
  releaseExisting cfg ue psi
  let body ← lift (sliceFrom t.payloadContainer 4)
  match ← (lift (decodePDUSessionEstablishmentRequest body)).attempt with
  | .error _ => return ()
  | .ok _ =>
    let allowed := (← load ue).allowedNSSAI
    if psi = 0 then return () else
    match resolveSessionSNSSAI t.snssai allowed with
    | none => rejectULNASTransport env ue psi t causePayloadNotForwarded
    | some snssai => createSession cfg env ue psi pti t snssai

/-! ## Release and modification -/

def handlePDUSessionRelease (psi pti : UInt8) : Proc Handler Unit := do
  match (← load ue).pduSessions.lookup psi with
  | none => return ()
  | some pduSess =>
    let nasPDU ← secureN1SM ue psi
      (wrapPDUSessionReleaseCommandBody psi pti cause5GSMRegularDeactivation)
    if pduSess.smfInstanceID ≠ "" ∧ cfg.deleteSMContext then
      spawn (.deleteSMContext pduSess.smfInstanceID)
    send env (.pduSessionResourceReleaseCommand ue psi nasPDU)
    update ue (UEContext.dropSession psi)

def completeNetworkPDUSessionRelease : Proc Handler Unit := do
  let s ← get
  let key := ((s.ctx ue).amfUENGAPId, psi)
  match s.pendingRelease.lookup key with
  | none => return ()
  | some smContextRef =>
    modify fun s => { s with pendingRelease := s.pendingRelease.erase key }
    deleteSMContext cfg smContextRef
    update ue (UEContext.dropSession psi)

def handlePDUSessionModification (n1SmMsg : Bytes) : Proc Handler Unit := do
  match (← load ue).pduSessions.lookup psi with
  | none => return ()
  | some pduSess =>
    if !cfg.modifySMContext then return () else
    emit (.modifySMContext pduSess.smfInstanceID n1SmMsg psi)
    match env.modifySMContext with
    | .error _ => return ()
    | .ok (n1SmCmdBody, n2SmInfo) =>
      let nasPDU ← secureN1SM ue psi n1SmCmdBody
      send env (.pduSessionResourceModifyRequest ue psi nasPDU n2SmInfo)

/-! ## Relayed containers -/

def handleULSMS (smsContainer : Bytes) : Proc Handler Unit := do
  if !cfg.smsf then return () else
  let supi := (← load ue).supi
  let nano := env.unixNano
  emit (.uplinkSMS supi s!"mo-{supi}-{nano}" (base64Encode smsContainer))

def handleULLPP (lppPDU : Bytes) : Proc Handler Unit := do
  let s ← get
  let id := (s.ctx ue).amfUENGAPId
  match s.pendingLPP.lookup id with
  | none => return ()
  | some () =>
    modify fun s => { s with pendingLPP := s.pendingLPP.erase id }
    emit (.lppResult id lppPDU)

/-! ## UL NAS Transport -/

def handleN1SM (psi pti msgType : UInt8) (t : ULNASTransport) : Proc Handler Unit :=
  if msgType = 0xC1 then establishSession cfg env ue psi pti t
  else if msgType = 0xD1 then handlePDUSessionRelease cfg env ue psi pti
  else if msgType = 0xD4 then completeNetworkPDUSessionRelease cfg ue psi
  else if msgType = 0xC9 then handlePDUSessionModification cfg env ue psi t.payloadContainer
  else return ()

def handleULNASTransport (t : ULNASTransport) : Proc Handler Unit :=
  if t.payloadContainerType = payloadContainerTypeUEPolicy then return ()
  else if t.payloadContainerType = payloadContainerTypeSMS then
    handleULSMS cfg env ue t.payloadContainer
  else if t.payloadContainerType = payloadContainerTypeLPP then
    handleULLPP ue t.payloadContainer
  else
    match t.payloadContainer with
    | _ :: psi :: pti :: msgType :: _ =>
      handleN1SM cfg env ue (t.pduSessionID.getD psi) pti msgType t
    | _ => return ()

/-! ## Service Request -/

def takePagedPDUSessions : Proc Handler (List UInt8) := do
  let paged := (← load ue).sortedPaged
  update ue fun c => { c with pagedPDUSessions := ∅ }
  return paged

def releaseInactive (victim : UInt8 × PDUSession) : Proc Handler PUnit := do
  let s ← get
  -- A release by the network that is under way owns the session and its context.
  if (s.pendingRelease.lookup ((s.ctx ue).amfUENGAPId, victim.1)).isSome then
    spawn (.completeNetworkPDUSessionRelease ue victim.1)
  else
    update ue (UEContext.dropSession victim.1)
    if cfg.deleteSMContext then spawn (.deleteSMContext victim.2.smfInstanceID)

def releaseInactivePDUSessions (status : Option UInt16) : Proc Handler (List UInt8) := do
  match status with
  | none => return []
  | some mask =>
    let victims := (← load ue).sortedSessions.filter fun (psi, sess) =>
      sess.smfInstanceID ≠ "" && !psiInStatus mask psi
    victims.forM (releaseInactive cfg ue)
    return victims.map Prod.fst

/-- `ActivateSMContext` for the targets in turn; a session whose call fails is left
out. -/
def activateTargets : List (UInt8 × PDUSession) → Proc Handler (List PDUSessionSetupItemCxtReq)
  | [] => return []
  | (psi, sess) :: targets => do
    emit (.activateSMContext sess.smfInstanceID)
    let items ← activateTargets targets
    match env.activateSMContext sess.smfInstanceID with
    | .error _ => return items
    | .ok transfer =>
      let sd := match hexDecode sess.snssai.sd with
        | (b, false) => if b.length = 3 then b else []
        | (_, true) => []
      return { pduSessionID := psi, sst := sess.snssai.sst, sd, transfer } :: items

def activatePDUSessions (uplinkDataStatus : Option UInt16) (released : List UInt8) :
    Proc Handler (List PDUSessionSetupItemCxtReq) := do
  let paged ← takePagedPDUSessions ue
  if uplinkDataStatus = none ∧ paged = [] then return [] else
  if !cfg.activateSMContext then return [] else
  let c ← load ue
  let flagged (psi : UInt8) : Bool := uplinkDataStatus.any fun mask => psiInStatus mask psi
  activateTargets env <| c.sortedSessions.filter fun (psi, sess) =>
    sess.smfInstanceID ≠ "" && (flagged psi || psi ∈ paged) && psi ∉ released

def buildServiceAccept (c : UEContext) (svcReq : ServiceRequest) (released : List UInt8)
    (activated : List PDUSessionSetupItemCxtReq) : ServiceAccept where
  pduSessionStatus := svcReq.pduSessionStatus.map fun _ =>
    psiMask <| (c.sortedSessions.filter fun (psi, sess) =>
      sess.smfInstanceID ≠ "" && psi ∉ released).map Prod.fst
  pduSessionReactivationResult := svcReq.uplinkDataStatus.map fun mask =>
    psiMask <| ((List.range 15).map fun i => UInt8.ofNat (i + 1)).filter fun psi =>
      psiInStatus mask psi && psi ∉ activated.map (·.pduSessionID)

end Handler

end Claudia5gc.Amf
