import Claudia5gc.Amf.Session

/-!
# The NAS handler

`HandleNASMessage` gets every uplink NAS PDU with the context of the UE it came from.  It removes
the protection when the context has a security context in use, decodes the message and hands it to
the handler of its type.
-/

namespace Claudia5gc.Amf

open Go Nas Proc

namespace Handler

variable (cfg : Config) (env : Env) (ue : Ptr)

/-! ## Access stratum security -/

def algorithmBitmap (alg1 alg2 alg3 : Bool) : UInt16 :=
  let bit (alg : Bool) (n : UInt16) : UInt16 := if alg then 1 <<< n else 0
  bit alg1 15 ||| bit alg2 14 ||| bit alg3 13

def refreshKgNB : Proc Handler Bytes := do
  let sec := (← load ue).securityCtx
  let kgnb := Crypto.kgnb sec.kamf (sec.uplinkCount - 1) 0x01
  update ue fun c => c.setKgNB kgnb
  return kgnb

def sendInitialContextSetupRequest (nasPDU kgnb : Bytes)
    (pduSessions : List PDUSessionSetupItemCxtReq) : Proc Handler Unit := do
  let c ← load ue
  send env (.initialContextSetupRequest ue nasPDU kgnb
    c.securityCtx.cipheringAlgID c.securityCtx.integrityAlgID
    (algorithmBitmap c.ueSecCap.ea1 c.ueSecCap.ea2 c.ueSecCap.ea3)
    (algorithmBitmap c.ueSecCap.ia1 c.ueSecCap.ia2 c.ueSecCap.ia3) pduSessions)

def setConnected : Proc Handler Unit :=
  update ue fun c => { c with cmState := .connected }

def notifyUEReachable : Proc Handler Unit := do
  let _ ← takePagedPDUSessions ue

/-! ## Registration -/

def registrationTypeMobility : UInt8 := 2
def registrationTypePeriodic : UInt8 := 3

def nssaiToSubscribed (n : NSSAI) : List SNSSAISubscribed :=
  n.map fun s => { sst := s.sst, sd := if s.sd ≠ sdNotPresent then sprint06x s.sd else "" }

variable (rr : RegistrationRequest)

def takeRequestedNSSAI : Proc Handler Unit :=
  match rr.requestedNSSAI with
  | none => return ()
  | some n => update ue fun c => { c with requestedNSSAI := nssaiToSubscribed n }

def sendPlainViaDownlink (body : DownlinkBody) : Proc Handler Unit := do
  let pdu ← sendNASPlain body
  send env (.downlinkNASTransport ue pdu)

def handleRegistrationUpdate : Proc Handler Unit := do
  let procedureName :=
    if rr.registrationType = registrationTypeMobility then "MobilityRegistrationUpdate"
    else "PeriodicRegistrationUpdate"
  let regAccept ← (buildRegistrationUpdateAccept cfg env ue).wrapErr
    (procedureName ++ ": build accept")
  let nasPDU ← (sendNASSecured ue (.registrationAccept regAccept)).wrapErr
    (procedureName ++ ": encode Registration Accept")
  let kgnb ← refreshKgNB ue
  (sendInitialContextSetupRequest env ue nasPDU kgnb []).wrapErr
    (procedureName ++ ": SendInitialContextSetupRequest")
  setConnected ue
  notifyUEReachable ue

def sendIdentityRequest : Proc Handler Unit :=
  sendPlainViaDownlink env ue (.identityRequest { identityType := mobileIdentitySUCI })

def handleRegistrationRequest : Proc Handler Unit := do
  if (← load ue).securityCtx.active ∧ (rr.registrationType = registrationTypePeriodic ∨
        rr.registrationType = registrationTypeMobility) then
    handleRegistrationUpdate cfg env ue rr
  else
  match ← (phase1InitiateAuthentication cfg env ue rr).attempt with
  | .error e =>
    if Error.is errNeedSUCI e then sendIdentityRequest env ue
    else fail (.wrap "registration phase1" e)
  | .ok authReq =>
    takeRequestedNSSAI ue rr
    sendPlainViaDownlink env ue (.authenticationRequest authReq)

def handleIdentityResponse (r : IdentityResponse) : Proc Handler Unit := do
  match r.mobileIdentity.suci with
  | none => return ()
  | some suci =>
    if r.mobileIdentity.type ≠ mobileIdentitySUCI then return () else
    let authReq ← (phase1AuthenticateWithSUCI cfg env ue (suciText suci)).wrapErr
      "registration phase1 (suci)"
    sendPlainViaDownlink env ue (.authenticationRequest authReq)

def handleAuthenticationResponse (r : AuthenticationResponse) : Proc Handler Unit := do
  let (smcReq, displaced) ← (phase2ProcessAuthResponse cfg env ue r).wrapErr
    "registration phase2"
  match displaced with
  | none => pure ()
  | some stale => spawn (.releaseDisplacedContext stale)
  let pdu ← sendNASIntegrityOnly ue (.securityModeCommand smcReq)
    securityHeaderIntegrityProtectedWithNewSC
  send env (.downlinkNASTransport ue pdu)

def causeSynchFailure : UInt8 := 21

/-- `handleAuthenticationFailure`. -/
def handleAuthenticationFailure (af : AuthenticationFailure) : Proc Handler Unit := do
  if af.cause5GMM = causeSynchFailure ∧ af.auts.length = 14 then
    let authReq ← (phase1ResyncAuth cfg env ue af.auts).wrapErr "nas: resync auth"
    send env (.downlinkNASTransport ue (encodeAuthenticationRequest authReq))
  else return ()

def handleSecurityModeReject : Proc Handler Unit := do
  update ue fun c => { c with securityCtx := {} }
  emit (.securityReset ue)

def applyRetransmittedRegistrationRequest (container : Bytes) : Proc Handler Unit := do
  match ← (lift (decode container)).attempt with
  | .error _ => return ()
  | .ok inner =>
    match inner.body with
    | .registrationRequest rr =>
      if inner.header.messageType = msgTypeRegistrationRequest then takeRequestedNSSAI ue rr
      else return ()
    | _ => return ()

def takeSecurityModeComplete (smc : SecurityModeComplete) : Proc Handler Unit := do
  match smc.imeisv with
  | none => pure ()
  | some mi =>
    if mi.imeisv ≠ "" then update ue fun c => { c with pei := "imeisv-" ++ mi.imeisv }
  if smc.nasMessageContainer ≠ [] then
    applyRetransmittedRegistrationRequest ue smc.nasMessageContainer

/-- The Registration Accept and the keys of the access stratum go to the gNB. -/
def completeRegistration (regAccept : RegistrationAccept) : Proc Handler Unit := do
  let nasPDU ← sendNASSecured ue (.registrationAccept regAccept)
  let kgnb ← refreshKgNB ue
  sendInitialContextSetupRequest env ue nasPDU kgnb []
  setConnected ue

/-- `handleSecurityModeComplete`.  The Registration Reject for a restricted service
area is built and not sent. -/
def handleSecurityModeComplete (body : Body) : Proc Handler Unit := do
  match body with
  | .securityModeComplete smc => takeSecurityModeComplete ue smc
  | _ => pure ()
  match ← (phase3ProcessSMCComplete cfg env ue).attempt with
  | .error e =>
    if Error.is errServiceAreaRestricted e then
      let _ ← (sendNASSecured ue (.registrationReject 0x49)).attempt
    else fail (.wrap "registration phase3" e)
  | .ok regAccept => completeRegistration env ue regAccept

/-! ## After registration -/

def errNotConnected : Error :=
  .sentinel "UE is CM-IDLE — UE policy delivery deferred until reconnection"

def sendUEPolicyContainer (container : Bytes) : Proc Handler Unit := do
  if container = [] then fail (.new "nas: empty UE policy container") else
  if (← load ue).cmState = .idle then fail errNotConnected else
  let nasPDU ← (sendNASSecured ue (.dlNASTransport
    { payloadContainerType := payloadContainerTypeUEPolicy
      payloadContainer := container })).wrapErr "nas: encode DL NAS Transport (UE policy)"
  update ue fun c => { c with urspVersion := c.urspVersion + 1 }
  send env (.downlinkNASTransport ue nasPDU)

def sendNetworkNameConfigUpdate : Proc Handler Unit := do
  if cfg.networkFullName = "" ∧ cfg.networkShortName = "" then return () else
  let _ ← (sendNASSecuredViaDownlink env ue (.configurationUpdateCommand
    { fullNameForNetwork := cfg.networkFullName
      shortNameForNetwork := cfg.networkShortName })).attempt

def startNSSAA : Proc Handler Unit := do
  match ← startNSSAACommand cfg ue with
  | none => return ()
  | some cmd =>
    let _ ← (sendNASSecuredViaDownlink env ue (.nssaaAuthCommand cmd)).attempt

def deliverPendingPolicy : Proc Handler Unit := do
  let pending := (← load ue).pendingPolicyContainer
  update ue fun c => { c with pendingPolicyContainer := [] }
  if pending ≠ [] then
    let _ ← (sendUEPolicyContainer env ue pending).attempt

def handleRegistrationComplete : Proc Handler Unit := do
  notifyUEReachable ue
  deliverPendingPolicy env ue
  sendNetworkNameConfigUpdate cfg env ue
  startNSSAA cfg env ue

def sendNSSAAConfigUpdate : Proc Handler Unit := do
  let c ← load ue
  let _ ← (sendNASSecuredViaDownlink env ue (.configurationUpdateCommand
    { configUpdateIndication := some 0xD1
      allowedNSSAI := some (buildAllowedNSSAI c.allowedNSSAI) })).attempt

def reportSlice (out : NSSAACompleteOutcome) : Proc Handler Unit := do
  let _ ← (sendNASSecuredViaDownlink env ue (.nssaaAuthResult out.result)).attempt
  match out.nextCommand with
  | some cmd =>
    let _ ← (sendNASSecuredViaDownlink env ue (.nssaaAuthCommand cmd)).attempt
  | none => if out.allowedChanged then sendNSSAAConfigUpdate env ue

def handleNSSAAComplete (complete : NSSAAuth) : Proc Handler Unit := do
  match ← (processNSSAAComplete cfg env ue complete).attempt with
  | .error _ => return ()
  | .ok out => reportSlice env ue out

/-! ## Service Request -/

def handleServiceRequest (svcReq : ServiceRequest) : Proc Handler Unit := do
  let kgnb ← refreshKgNB ue
  let released ← releaseInactivePDUSessions cfg ue svcReq.pduSessionStatus
  let pduSessions ← activatePDUSessions cfg env ue svcReq.uplinkDataStatus released
  let accept := buildServiceAccept (← load ue) svcReq released pduSessions
  let nasPDU ← (sendNASSecured ue (.serviceAccept accept)).wrapErr
    "service request: encode Service Accept"
  (sendInitialContextSetupRequest env ue nasPDU kgnb pduSessions).wrapErr
    "service request: SendInitialContextSetupRequest"
  setConnected ue
  notifyUEReachable ue

/-! ## Deregistration -/

def releaseSession (sess : PDUSession) : Proc Handler PUnit := do
  deleteSMContext cfg sess.smfInstanceID
  update ue (UEContext.dropSession sess.pduSessionID)

def releaseAMPolicy : Proc Handler Unit := do
  let id := (← load ue).amPolicyAssocID
  if id = "" then return () else
  if cfg.amPolicy then emit (.deleteAMPolicyAssociation id)
  update ue fun c => { c with amPolicyAssocID := "" }

def releasePCFPolicy : Proc Handler Unit := do
  let id := (← load ue).policyAssociationID
  if id = "" then return () else
  if cfg.pcf then emit (.deleteUEPolicyAssociation id)
  update ue fun c => { c with policyAssociationID := "" }

/-- `handleNWDeregistrationAccept`, and what `handleDeregistration` does once the UE
has been answered: the sessions, the UDM, the policies and the N2 context go. -/
def teardown : Proc Handler Unit := do
  let c ← load ue
  (c.pduSessions.entries.map fun e => e.2).forM (releaseSession cfg ue)
  if c.supi ≠ "" then emit (.deregisterUECM c.supi)
  releaseAMPolicy cfg ue
  releasePCFPolicy cfg ue
  transitionTo ue .deregistered
  update ue fun c => { c with pendingRemoval := true }
  let _ ← (send env (.ueContextReleaseCommand ue 3 2)).attempt

def handleDeregistration (deregReq : DeregistrationRequest) : Proc Handler Unit := do
  transitionTo ue .deregisteredInitiated
  if !deregReq.switchOff then
    let _ ← (sendNASSecuredViaDownlink env ue .deregistrationAcceptUE).attempt
  teardown cfg env ue

/-! ## Dispatch -/

def msgTypeDeregistrationAcceptNW : MessageType := 0x48

def bodyError (text : String) : Proc Handler Unit :=
  fail (.new ("nas: " ++ text))

/-- The `switch` of `HandleNASMessage`, with the type assertions of the handlers. -/
def dispatch (msg : Message) : Proc Handler Unit :=
  let type := msg.header.messageType
  if type = msgTypeRegistrationRequest then
    match msg.body with
    | .registrationRequest rr => handleRegistrationRequest cfg env ue rr
    | _ => bodyError "RegistrationRequest body decode failed"
  else if type = msgTypeAuthenticationResponse then
    match msg.body with
    | .authenticationResponse r => handleAuthenticationResponse cfg env ue r
    | _ => bodyError "AuthenticationResponse body decode failed"
  else if type = msgTypeAuthenticationFailure then
    match msg.body with
    | .authenticationFailure af => handleAuthenticationFailure cfg env ue af
    | _ => bodyError "AuthenticationFailure body decode failed"
  else if type = msgTypeSecurityModeComplete then
    handleSecurityModeComplete cfg env ue msg.body
  else if type = msgTypeSecurityModeReject then
    match msg.body with
    | .securityModeReject _ => handleSecurityModeReject ue
    | _ => bodyError "SecurityModeReject body decode failed"
  else if type = msgTypeRegistrationComplete then handleRegistrationComplete cfg env ue
  else if type = msgTypeULNASTransport then
    match msg.body with
    | .ulNASTransport t => handleULNASTransport cfg env ue t
    | _ => bodyError "UL NAS Transport type assertion failed"
  else if type = msgTypeDeregistrationRequestUE then
    match msg.body with
    | .deregistrationRequest r => handleDeregistration cfg env ue r
    | _ => bodyError "DeregistrationRequest body decode failed"
  else if type = msgTypeDeregistrationAcceptNW then teardown cfg env ue
  else if type = msgTypeIdentityResponse then
    match msg.body with
    | .identityResponse r => handleIdentityResponse cfg env ue r
    | _ => bodyError "IdentityResponse body decode failed"
  else if type = msgTypeServiceRequest then
    match msg.body with
    | .serviceRequest r => handleServiceRequest cfg env ue r
    | _ => bodyError "ServiceRequest body decode failed"
  else if type = msgTypeConfigurationUpdateComplete then return ()
  else if type = msgTypeNetworkSliceSpecificAuthComplete then
    match msg.body with
    | .nssaaAuthComplete r => handleNSSAAComplete cfg env ue r
    | _ => bodyError "NSSAAuthComplete body decode failed"
  else return ()

theorem dispatch_elim {Q : Proc Handler Unit → Prop} (cfg : Config) (env : Env) (ue : Ptr)
    (msg : Message) (bodyError : ∀ text, Q (bodyError text)) (ignored : Q (return ()))
    (registrationRequest : ∀ rr, msg.header.messageType = msgTypeRegistrationRequest →
      msg.body = .registrationRequest rr → Q (handleRegistrationRequest cfg env ue rr))
    (authenticationResponse : ∀ r, Q (handleAuthenticationResponse cfg env ue r))
    (authenticationFailure : ∀ af, msg.header.messageType = msgTypeAuthenticationFailure →
      msg.body = .authenticationFailure af → Q (handleAuthenticationFailure cfg env ue af))
    (securityModeComplete : msg.header.messageType = msgTypeSecurityModeComplete →
      Q (handleSecurityModeComplete cfg env ue msg.body))
    (securityModeReject : ∀ r, msg.header.messageType = msgTypeSecurityModeReject →
      msg.body = .securityModeReject r → Q (handleSecurityModeReject ue))
    (registrationComplete : Q (handleRegistrationComplete cfg env ue))
    (ulNASTransport : ∀ t, Q (handleULNASTransport cfg env ue t))
    (deregistration : ∀ r, Q (handleDeregistration cfg env ue r))
    (nwDeregistrationAccept : Q (teardown cfg env ue))
    (identityResponse : ∀ r, msg.header.messageType = msgTypeIdentityResponse →
      msg.body = .identityResponse r → Q (handleIdentityResponse cfg env ue r))
    (serviceRequest : ∀ r, Q (handleServiceRequest cfg env ue r))
    (nssaaComplete : ∀ r, Q (handleNSSAAComplete cfg env ue r)) : Q (dispatch cfg env ue msg) := by
  have hite {c : Prop} [Decidable c] {x y : Proc Handler Unit} (hx : c → Q x) (hy : Q y) :
      Q (if c then x else y) := by
    split
    · exact hx ‹_›
    · exact hy
  refine hite (fun htype => ?_) <| hite (fun _ => ?_) <| hite (fun htype => ?_) <|
    hite securityModeComplete <| hite (fun htype => ?_) <| hite (fun _ => registrationComplete) <|
    hite (fun _ => ?_) <| hite (fun _ => ?_) <| hite (fun _ => nwDeregistrationAccept) <|
    hite (fun htype => ?_) <| hite (fun _ => ?_) <| hite (fun _ => ignored) <|
    hite (fun _ => ?_) ignored
  · split
    · next hbody => exact registrationRequest _ htype hbody
    · exact bodyError _
  · split
    · exact authenticationResponse _
    · exact bodyError _
  · split
    · next hbody => exact authenticationFailure _ htype hbody
    · exact bodyError _
  · split
    · next hbody => exact securityModeReject _ htype hbody
    · exact bodyError _
  · split
    · exact ulNASTransport _
    · exact bodyError _
  · split
    · exact deregistration _
    · exact bodyError _
  · split
    · next hbody => exact identityResponse _ htype hbody
    · exact bodyError _
  · split
    · exact serviceRequest _
    · exact bodyError _
  · split
    · exact nssaaComplete _
    · exact bodyError _

def isProtected (pdu : Bytes) : Bool :=
  match pdu with
  | epd :: sht :: _ => epd = 0x7E && sht &&& 0x0F ≠ 0
  | _ => false

/-- `HandleNASMessage` behind the removal of the protection. -/
def handlePlainNAS (pdu : Bytes) : Proc Handler Unit := do
  let msg ← (lift (decode pdu)).wrapErr "nas decode"
  dispatch cfg env ue msg

def handleNASMessage (pdu : Bytes) : Proc Handler Unit := do
  if (← load ue).securityCtx.active && isProtected pdu then
    let pdu ← (unwrapNASSecurity ue pdu).wrapErr "nas security unwrap"
    handlePlainNAS cfg env ue pdu
  else handlePlainNAS cfg env ue pdu

/-! ## The AMF as a system -/

def releaseDisplacedContext (stale : Ptr) : Proc Handler Unit := do
  let c ← load stale
  (c.pduSessions.entries.map fun e => e.2).forM fun sess =>
    deleteSMContext cfg sess.smfInstanceID
  modify fun s => { s with mgr := s.mgr.remove stale }

def background : Goroutine → Proc Handler Unit
  | .releaseDisplacedContext stale => releaseDisplacedContext cfg stale
  | .deleteSMContext ref => emit (.deleteSMContext ref)
  | .completeNetworkPDUSessionRelease ue psi => completeNetworkPDUSessionRelease cfg ue psi

/-- An uplink PDU with the context of the UE it came from and the answers of the other
parties, or the turn of a goroutine. -/
inductive Input where
  | nas (ue : Ptr) (pdu : Bytes) (env : Env)
  | background (before : List Goroutine) (g : Goroutine) (after : List Goroutine)

def step : System Handler Input
  | s, .nas ue pdu env, s' => s' = ((handleNASMessage cfg env ue pdu).run s).2
  | s, .background before g after, s' =>
    s.goroutines = before ++ g :: after ∧
      s' = ((background cfg g).run { s with goroutines := before ++ after }).2

def handleAll (pdus : List (Bytes × Env)) (s : Handler) : Handler :=
  pdus.foldl (fun s p => ((handleNASMessage cfg p.2 ue p.1).run s).2) s

theorem run_handleAll (pdus : List (Bytes × Env)) (s : Handler) : Run (step cfg) s
    (pdus.map fun p => .nas ue p.1 p.2) (handleAll cfg ue pdus s) := by
  induction pdus using List.reverseRecOn with
  | nil => exact .nil
  | append_singleton pdus p ih =>
    rw [List.map_append, handleAll, List.foldl_append]
    exact ih.snoc _ rfl

end Handler

end Claudia5gc.Amf
