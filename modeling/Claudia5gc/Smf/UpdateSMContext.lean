import Claudia5gc.Smf.Server

/-!
# UpdateSMContext

The requests by which the AMF changes an SM context: the legs of the N2 handover and of the Xn path
switch, the activation and the deactivation of the user plane, the answer of the gNB to the resource
setup, and the changes of the policy.
-/

namespace Claudia5gc.Smf

open Go Session

variable {p : Ptr} {sess : Session} {req : UpdateSMContext} {gnbIP : Bytes} {dlTEID : UInt32}
  {s : Server} {ref : Nat}

/-! ## NGAP -/

/-- An NGAP Cause.  Those that the SMF neither makes nor looks for are `other`. -/
inductive NgapCause where
  | unspecified
  | unknownPDUSessionID
  | hoFailureInTarget5GCNgranNodeOrTargetSystem
  | upIntegrityProtectionNotPossible
  | upConfidentialityProtectionNotPossible
  | semanticError
  | other (group value : Int)
  deriving DecidableEq

inductive N2SmInfoType where
  | handoverReqAck
  | handoverCmd
  | handoverRequired
  | handoverPrepFail
  | handoverResAllocFail
  | pduResSetupReq
  | pathSwitchReq
  | pathSwitchReqAck
  | pathSwitchReqFail
  | pathSwitchSetupFail
  | other (text : String)
  deriving DecidableEq

/-- The octets of a GTP tunnel in a transfer. -/
structure GTPTunnel where
  transportLayerAddress : Bytes
  gtpTEID : Bytes
  deriving DecidableEq

def tunnelInfo (name short place : String) (transfer : Except Error (Option GTPTunnel)) :
    Except Error (Bytes × UInt32) :=
  match transfer with
  | .error e => .error (.wrap ("smf: decode " ++ name) e)
  | .ok none => .error (.new ("smf: GTPTunnel is nil in " ++ short))
  | .ok (some tunnel) =>
    if tunnel.gtpTEID.length ≠ 4 then
      .error (.new ("smf: unexpected TEID length " ++ toString tunnel.gtpTEID.length ++ place))
    else if tunnel.transportLayerAddress.length < 4 then
      .error (.new ("smf: unexpected IP length " ++
        toString tunnel.transportLayerAddress.length ++ place))
    else .ok (tunnel.transportLayerAddress.take 4,
      UInt32.ofNat (word tunnel.gtpTEID 0 * 65536 + word tunnel.gtpTEID 2))

def decodeHandoverAck : Except Error (Option GTPTunnel) → Except Error (Bytes × UInt32) :=
  tunnelInfo "HandoverRequestAcknowledgeTransfer" "HandoverRequestAcknowledgeTransfer"
    " in handover ack"

def extractPathSwitchTunnelInfo : Except Error (Option GTPTunnel) → Except Error (Bytes × UInt32) :=
  tunnelInfo "PathSwitchRequestTransfer" "PathSwitchRequestTransfer" " in path switch"

def extractGNBTunnelInfo : Except Error (Option GTPTunnel) → Except Error (Bytes × UInt32) :=
  tunnelInfo "PDUSessionResourceSetupResponseTransfer" "response transfer" ""

theorem ne_nil_of_tunnelInfo {name short place : String}
    {transfer : Except Error (Option GTPTunnel)}
    (h : tunnelInfo name short place transfer = .ok (gnbIP, dlTEID)) : gnbIP ≠ [] := by
  unfold tunnelInfo at h
  split at h
  · cases h
  · cases h
  · split at h
    · cases h
    · split at h
      · cases h
      · obtain ⟨rfl, _⟩ := Prod.mk.inj (Except.ok.inj h)
        exact List.ne_nil_of_length_pos (by rw [List.length_take]; omega)

def releaseOnTargetFailure (c : NgapCause) (upSecRequired : Bool) : Bool :=
  upSecRequired && match c with
    | .upIntegrityProtectionNotPossible | .upConfidentialityProtectionNotPossible => true
    | _ => false

/-! ## Requests and answers -/

def undecodable : Error := .new "aper: decode"

/-- The octets of the N2 SM information, by what each decoder makes of them. -/
structure N2SmInfo where
  empty : Bool := false
  /-- Whether a direct forwarding path is there. -/
  handoverRequired : Except Error Bool := .error undecodable
  handoverRequestAcknowledge : Except Error (Option GTPTunnel) := .error undecodable
  handoverResourceAllocationUnsuccessful : Except Error NgapCause := .error undecodable
  pathSwitchRequest : Except Error (Option GTPTunnel) := .error undecodable
  pathSwitchRequestSetupFailed : Except Error NgapCause := .error undecodable
  setupResponse : Except Error (Option GTPTunnel) := .error undecodable

inductive UpCnxState where
  | activating
  | deactivated
  deriving DecidableEq

inductive N1SmMsg where
  /-- With what is wrong with it, and what the DN-AAA server answers and the PCF grants. -/
  | authenticationComplete (malformed : Option Error) (aaa : Server.AAAResult) (qos : SmPolicyQoS)
  /-- With what the PCF grants. -/
  | modificationRequest (granted : Option SmPolicyQoS)
  deriving DecidableEq

/-- How a PFCP exchange that the SMF waits for ends. -/
inductive N4Answer where
  | accepted
  | rejected (cause : UInt8)
  | causeMissing
  | timeout
  | transport (e : Error)
  deriving DecidableEq

structure UpdateSMContext where
  /-- `unset` stands for no handover state, and for one that is not looked for. -/
  hoState : HoState := .unset
  n2SmInfoType : Option N2SmInfoType := none
  upCnxState : Option UpCnxState := none
  /-- With what the PCF grants. -/
  policyUpdate : Option (Option SmPolicyQoS) := none
  n1SmMsg : Option N1SmMsg := none
  n2SmInfo : Option (Except Error N2SmInfo) := none
  setupRequestTransfer : Except Error Bytes := .ok []
  modifyRequestTransfer : Except Error Bytes := .ok []
  handoverCommandTransfer : Except Error Bytes := .ok []
  pathSwitchAckTransfer : Except Error Bytes := .ok []
  /-- What becomes of a switch of the downlink to a tunnel. -/
  switchDL : UInt32 → Bytes → N4Answer := fun _ _ => .accepted
  now : Time := 0

inductive UpdateAnswer where
  | ok (hoState : Option HoState) (n2SmInfoType : Option N2SmInfoType) (n2SmInfo : Option Bytes)
  | noContent
  | problem (status : Nat) (cause : String) (detail : Error)
  | updateError (status : Nat) (cause : String) (detail : Error)
      (n2SmInfo : Option (N2SmInfoType × NgapCause))
  deriving DecidableEq

def UpdateAnswer.status : UpdateAnswer → Nat
  | .ok _ _ _ => 200
  | .noContent => 204
  | .problem status _ _ => status
  | .updateError status _ _ _ => status

/-- What a request does to the session it finds: the goroutines it starts and the switch of the
downlink it sends itself. -/
structure Updated where
  answer : UpdateAnswer
  sess : Session
  tasks : List Task := []
  sent : Option (UInt32 × Bytes) := none

def Updated.only (answer : UpdateAnswer) (sess : Session) : Updated := { answer, sess }

@[simp] theorem Updated.only_answer (answer : UpdateAnswer) (sess : Session) :
    (Updated.only answer sess).answer = answer := rfl

def contextNotFound : Error := .new "sm context not found"

def causeSessionReleasing : String := "PDU_SESSION_RELEASING"
def causeSystemFailure : String := "SYSTEM_FAILURE"
def causeUPFNotResponding : String := "UPF_NOT_RESPONDING"
def causeHOResAllocFailure : String := "HANDOVER_RESOURCE_ALLOCATION_FAILURE"

def sessionReleasing : Error := .new "PDU session is being released after a UPF restart/failure"

/-! ## The user plane -/

def Session.markActive (sess : Session) : Option Session :=
  if sess.state = .releasing then none else some { sess with state := .active }

/-- `pfcpSwitchDL` with `hoN4Failure`: the status and the cause of an error. -/
def pfcpSwitchDL (req : UpdateSMContext) (sess : Session) (dlTEID : UInt32) (gnbIP : Bytes) :
    Except (Nat × String) Unit :=
  if sess.state = .releasing then .error (409, causeSessionReleasing)
  else
    match req.switchDL dlTEID gnbIP with
    | .accepted => .ok ()
    | .timeout => .error (504, causeUPFNotResponding)
    | .rejected _ | .causeMissing | .transport _ => .error (500, causeSystemFailure)

/-- The state that is put back when a switch has failed. -/
def Session.restore (sess : Session) (prevState : SessionState) : Session :=
  if sess.state = .releasing then sess else { sess with state := prevState }

def modificationFailed : Error := .new "PFCP Session Modification failed"

/-! ## The legs of the N2 handover -/

def errUnexpectedN2SmInfoType : Error :=
  .sentinel "smf: unexpected n2SmInfoType for hoState PREPARING"

/-- Whether the HandoverRequiredTransfer of a PREPARING names a direct forwarding path. -/
def directForwarding (req : UpdateSMContext) : Except Error Bool :=
  match req.n2SmInfo with
  | none => .ok false
  | some (.error e) => .error e
  | some (.ok info) =>
    if req.n2SmInfoType ≠ none ∧ req.n2SmInfoType ≠ some .handoverRequired then
      .error errUnexpectedN2SmInfoType
    else info.handoverRequired

/-- The body of `handleHandoverPreparing`.  The target tunnel of an earlier handover stays. -/
def handoverPreparing (req : UpdateSMContext) (sess : Session) : Updated :=
  match directForwarding req with
  | .error e => .only (.updateError 422 causeSystemFailure e
      (some (.handoverPrepFail, .semanticError))) sess
  | .ok direct =>
    match req.setupRequestTransfer with
    | .error e => .only (.updateError 500 causeSystemFailure e
        (some (.handoverPrepFail, .hoFailureInTarget5GCNgranNodeOrTargetSystem))) sess
    | .ok transfer => {
        answer := .ok (some .preparing) (some .pduResSetupReq) (some transfer)
        sess := { sess with
          hoState := .preparing, hoDirectForwarding := direct, hoTargetFailed := false,
          hoReleaseOnDeactivate := false } }

def handoverReqAck (req : UpdateSMContext) (info : N2SmInfo) (sess : Session) : Updated :=
  match decodeHandoverAck info.handoverRequestAcknowledge with
  | .error e => .only (.updateError 422 causeSystemFailure e
      (some (.handoverPrepFail, .semanticError))) sess
  | .ok (gnbIP, dlTEID) =>
    match req.handoverCommandTransfer with
    | .error e => .only (.updateError 500 causeSystemFailure e
        (some (.handoverPrepFail, .hoFailureInTarget5GCNgranNodeOrTargetSystem))) sess
    | .ok cmd => {
        answer := .ok (some .prepared) (some .handoverCmd) (some cmd)
        sess := { sess with
          hoTargetGNBIP := gnbIP, hoTargetDLTEID := dlTEID, hoState := .prepared } }

/-- The cause that the target gave, when it can be read. -/
def relayedCause (req : UpdateSMContext) : Option NgapCause :=
  match req.n2SmInfo with
  | some (.ok info) => info.handoverResourceAllocationUnsuccessful.toOption
  | _ => none

def handoverResAllocFail (req : UpdateSMContext) (sess : Session) : Updated :=
  let relayed := (relayedCause req).getD .hoFailureInTarget5GCNgranNodeOrTargetSystem
  let release := (relayedCause req).isSome && releaseOnTargetFailure relayed sess.upSecurityRequired
  let cleared := { sess with
    hoTargetGNBIP := [], hoTargetDLTEID := 0, hoState := .none, hoDirectForwarding := false }
  { answer := .updateError 403 causeHOResAllocFailure
      (.new "target NG-RAN could not allocate resources for the PDU session")
      (some (.handoverPrepFail, relayed))
    sess :=
      if sess.state = .releasing then cleared
      else { cleared with hoTargetFailed := true, hoReleaseOnDeactivate := release } }

def handoverComplete (req : UpdateSMContext) (sess : Session) : Updated :=
  if sess.state = .releasing then
    .only (.updateError 409 causeSessionReleasing sessionReleasing none) sess
  else if sess.hoState = .completed then .only (.ok (some .completed) none none) sess
  else if sess.hoTargetGNBIP.length = 0 ∨ sess.hoTargetDLTEID = 0 then
    .only (.updateError 500 causeSystemFailure (.new "no target tunnel") none) sess
  else
    match sess.markActive with
    | none => .only (.updateError 409 causeSessionReleasing sessionReleasing none) sess
    | some active =>
      let sent := some (sess.hoTargetDLTEID, sess.hoTargetGNBIP)
      match pfcpSwitchDL req active sess.hoTargetDLTEID sess.hoTargetGNBIP with
      | .error (status, cause) =>
        { answer := .updateError status cause modificationFailed none
          sess := active.restore sess.state, sent }
      | .ok () =>
        { answer := .ok (some .completed) none none
          sess := { active with
            hoState := .completed, hoTargetGNBIP := [], hoTargetDLTEID := 0,
            hoDirectForwarding := false, hoTargetFailed := false, hoReleaseOnDeactivate := false }
          sent }

/-! ## The legs of the Xn path switch -/

def pathSwitchReq (req : UpdateSMContext) (gnbIP : Bytes) (dlTEID : UInt32) (sess : Session) :
    Updated :=
  let releasing := UpdateAnswer.updateError 409 causeSessionReleasing sessionReleasing
    (some (.pathSwitchReqFail, .unspecified))
  if sess.state = .releasing then .only releasing sess
  else
    match req.pathSwitchAckTransfer with
    | .error e => .only (.updateError 500 causeSystemFailure e
        (some (.pathSwitchReqFail, .hoFailureInTarget5GCNgranNodeOrTargetSystem))) sess
    | .ok ack =>
      match sess.markActive with
      | none => .only releasing sess
      | some active =>
        match pfcpSwitchDL req active dlTEID gnbIP with
        | .error (status, cause) =>
          { answer := .updateError status cause modificationFailed
              (some (.pathSwitchReqFail, .hoFailureInTarget5GCNgranNodeOrTargetSystem))
            sess := active.restore sess.state, sent := some (dlTEID, gnbIP) }
        | .ok () =>
          { answer := .ok none (some .pathSwitchReqAck) (some ack)
            sess := active, sent := some (dlTEID, gnbIP) }

def pathSwitchSetupFail (info : N2SmInfo) (p : Ptr) (sess : Session) : Updated :=
  let release :=
    match info.pathSwitchRequestSetupFailed with
    | .error _ => false
    | .ok cause => releaseOnTargetFailure cause sess.upSecurityRequired
  { answer := .noContent, sess
    tasks := if sess.state = .releasing then [] else [.runTargetFailedAction p release] }

/-! ## Activation and deactivation -/

def activating (req : UpdateSMContext) (sess : Session) : Updated :=
  if sess.state = .releasing then
    .only (.problem 409 causeSessionReleasing sessionReleasing) sess
  else
    let sess := { sess with hoTargetFailed := false, hoReleaseOnDeactivate := false }
    match req.setupRequestTransfer with
    | .error e => .only (.problem 500 causeSystemFailure e) sess
    | .ok transfer => .only (.ok none (some .pduResSetupReq) (some transfer)) sess

def deactivated (p : Ptr) (sess : Session) : Updated :=
  let cleared := { sess with hoTargetFailed := false, hoReleaseOnDeactivate := false }
  if sess.hoTargetFailed ∧ sess.state ≠ .releasing then
    { answer := .ok none none none, sess := cleared
      tasks := [.runTargetFailedAction p sess.hoReleaseOnDeactivate] }
  else
    { answer := .ok none none none
      sess := if cleared.state = .releasing then cleared else { cleared with state := .idle }
      tasks := [.sendPFCPSessionDeactivation p] }

/-- The answer of the gNB to the resource setup, with its tunnel. -/
def setupResponse (gnbIP : Bytes) (dlTEID : UInt32) (p : Ptr) (sess : Session) : Updated :=
  if sess.state = .releasing then
    .only (.problem 409 causeSessionReleasing sessionReleasing) sess
  else
    match sess.markActive with
    | none => .only (.ok none none none) sess
    | some active => { answer := .ok none none none, sess := active
                       tasks := [.sendPFCPSessionModification p dlTEID gnbIP] }

/-! ## Changes of the policy -/

def policyUpdated (req : UpdateSMContext) (granted : Option SmPolicyQoS) (sess : Session) :
    Updated :=
  match granted with
  | none => .only (.problem 403 "REQUESTED_QOS_NOT_AUTHORIZED"
      (.new "PCF rejected the requested QoS change")) sess
  | some qos =>
    let sess := { sess with qos := qos }
    match req.modifyRequestTransfer with
    | .error e => .only (.problem 500 causeSystemFailure e) sess
    | .ok transfer => .only (.ok none none (some transfer)) sess

def modifiedQoS (granted : Option SmPolicyQoS) (sess : Session) : Session :=
  match granted with
  | none => sess
  | some qos =>
    if qos.fiveQI ≠ sess.qos.fiveQI ∨ qos.ambrULMbps ≠ sess.qos.ambrULMbps ∨
        qos.ambrDLMbps ≠ sess.qos.ambrDLMbps then { sess with qos := qos }
    else sess

def modificationAnswer (req : UpdateSMContext) : UpdateAnswer :=
  match req.modifyRequestTransfer with
  | .error e => .problem 500 causeSystemFailure e
  | .ok transfer => .ok none none (some transfer)

/-! ## The handlers -/

structure Handled where
  answer : UpdateAnswer
  smf : Server
  sent : Option (UInt32 × Bytes) := none

namespace Server

/-- A request on the session under a reference. -/
def withSession (s : Server) (ref : Nat) (notFound : UpdateAnswer)
    (update : Ptr → Session → Updated) : Handled :=
  match s.sessions.lookup ref with
  | none => { answer := notFound, smf := s }
  | some p =>
    let u := update p (s.heap.get p)
    { answer := u.answer
      smf := { s with heap := s.heap.modify p fun _ => u.sess, tasks := s.tasks ++ u.tasks }
      sent := u.sent }

def problemNotFound : UpdateAnswer := .problem 404 "CONTEXT_NOT_FOUND" contextNotFound

def updateErrorNotFound (n2SmInfo : Option (N2SmInfoType × NgapCause)) : UpdateAnswer :=
  .updateError 404 "CONTEXT_NOT_FOUND" contextNotFound n2SmInfo

def handleHandoverPreparing (s : Server) (ref : Nat) (req : UpdateSMContext) : Handled :=
  s.withSession ref (updateErrorNotFound (some (.handoverPrepFail, .unknownPDUSessionID)))
    fun _ => handoverPreparing req

def handleHandoverComplete (s : Server) (ref : Nat) (req : UpdateSMContext) : Handled :=
  s.withSession ref (updateErrorNotFound none) fun _ => handoverComplete req

def handleHandoverResAllocFail (s : Server) (ref : Nat) (req : UpdateSMContext) : Handled :=
  s.withSession ref (updateErrorNotFound none) fun _ => handoverResAllocFail req

def handleHandoverReqAck (s : Server) (ref : Nat) (req : UpdateSMContext) (info : N2SmInfo) :
    Handled :=
  s.withSession ref (updateErrorNotFound (some (.handoverPrepFail, .unknownPDUSessionID)))
    fun _ => handoverReqAck req info

def handlePathSwitchReq (s : Server) (ref : Nat) (req : UpdateSMContext) (info : N2SmInfo) :
    Handled :=
  match extractPathSwitchTunnelInfo info.pathSwitchRequest with
  | .error e =>
    let answer := UpdateAnswer.updateError 422 causeSystemFailure e
      (some (.pathSwitchReqFail, .semanticError))
    { answer, smf := s }
  | .ok (gnbIP, dlTEID) =>
    s.withSession ref (updateErrorNotFound (some (.pathSwitchReqFail, .unknownPDUSessionID)))
      fun _ => pathSwitchReq req gnbIP dlTEID

def handlePathSwitchSetupFail (s : Server) (ref : Nat) (info : N2SmInfo) : Handled :=
  s.withSession ref (updateErrorNotFound none) (pathSwitchSetupFail info)

/-- The last branch of `handleUpdateSMContext`: the answer of the gNB. -/
def handleSetupResponse (s : Server) (ref : Nat) (info : N2SmInfo) : Handled :=
  match extractGNBTunnelInfo info.setupResponse with
  | .error e => { answer := .problem 422 causeSystemFailure e, smf := s }
  | .ok (gnbIP, dlTEID) => s.withSession ref problemNotFound (setupResponse gnbIP dlTEID)

def handleAuthComplete (s : Server) (ref : Nat) (malformed : Option Error) (aaa : AAAResult)
    (qos : SmPolicyQoS) (now : Time) : Handled :=
  let (answer, smf) := s.handleSecondaryAuthComplete ⟨ref, malformed, aaa, qos, now⟩
  match answer with
  | .problem status cause detail => { answer := .problem status cause detail, smf }
  | _ => { answer := .ok none none none, smf }

/-- A modification that the UE asks for is accepted, also on a context that is not there. -/
def handleModificationRequest (s : Server) (ref : Nat) (req : UpdateSMContext)
    (granted : Option SmPolicyQoS) : Handled :=
  s.withSession ref (modificationAnswer req) fun _ sess =>
    { answer := modificationAnswer req, sess := modifiedQoS granted sess }

end Server

/-! ## The dispatch -/

/-- What a request is about: the branches of `handleUpdateSMContext`. -/
inductive UpdateKind where
  | preparing
  | completed
  | resAllocFail
  | activating
  | deactivated
  | policyUpdate (granted : Option SmPolicyQoS)
  | authComplete (malformed : Option Error) (aaa : Server.AAAResult) (qos : SmPolicyQoS)
  | modificationRequest (granted : Option SmPolicyQoS)
  | ignored
  | reqAck (info : N2SmInfo)
  | pathSwitchSetupFail (info : N2SmInfo)
  | pathSwitchReq (info : N2SmInfo)
  | setupResponse (info : N2SmInfo)

namespace UpdateSMContext

def n2SmInfoKind (req : UpdateSMContext) : UpdateKind :=
  match req.n2SmInfo with
  | none | some (.error _) => .ignored
  | some (.ok info) =>
    if info.empty then .ignored
    else
      match req.n2SmInfoType with
      | some .handoverReqAck => .reqAck info
      | some .pathSwitchSetupFail => .pathSwitchSetupFail info
      | some .pathSwitchReq => .pathSwitchReq info
      | _ => .setupResponse info

def n1SmMsgKind (req : UpdateSMContext) : UpdateKind :=
  match req.n1SmMsg with
  | some (.authenticationComplete malformed aaa qos) => .authComplete malformed aaa qos
  | some (.modificationRequest granted) => .modificationRequest granted
  | none => req.n2SmInfoKind

/-- The branches in the order of the handler. -/
def kind (req : UpdateSMContext) : UpdateKind :=
  if req.hoState = .preparing then .preparing
  else if req.hoState = .completed then .completed
  else if req.n2SmInfoType = some .handoverResAllocFail then .resAllocFail
  else
    match req.upCnxState with
    | some .activating => .activating
    | some .deactivated => .deactivated
    | none =>
      match req.policyUpdate with
      | some granted => .policyUpdate granted
      | none => req.n1SmMsgKind

end UpdateSMContext

namespace Server

def handleUpdateSMContext (s : Server) (ref : Nat) (req : UpdateSMContext) : Handled :=
  match req.kind with
  | .preparing => s.handleHandoverPreparing ref req
  | .completed => s.handleHandoverComplete ref req
  | .resAllocFail => s.handleHandoverResAllocFail ref req
  | .activating => s.withSession ref problemNotFound fun _ => Smf.activating req
  | .deactivated => s.withSession ref problemNotFound Smf.deactivated
  | .policyUpdate granted =>
    s.withSession ref problemNotFound fun _ => Smf.policyUpdated req granted
  | .authComplete malformed aaa qos => s.handleAuthComplete ref malformed aaa qos req.now
  | .modificationRequest granted => s.handleModificationRequest ref req granted
  | .ignored => { answer := .ok none none none, smf := s }
  | .reqAck info => s.handleHandoverReqAck ref req info
  | .pathSwitchSetupFail info => s.handlePathSwitchSetupFail ref info
  | .pathSwitchReq info => s.handlePathSwitchReq ref req info
  | .setupResponse info => s.handleSetupResponse ref info

end Server

/-! ## The failed target -/

namespace Server

/-- `runTargetFailedAction`: whether it sends the deactivation, and the server after it. -/
def runTargetFailedAction (s : Server) (p : Ptr) (release released : Bool) (answer : N4Answer) :
    Bool × Server :=
  if release ∧ released then (false, s)
  else if (s.heap.get p).state = .releasing then (false, s)
  else
    match answer with
    | .accepted => (true, { s with heap := s.heap.modify p fun sess =>
        if sess.state = .releasing then sess else { sess with state := .idle } })
    | _ => (true, s)

end Server

/-! ## A request on a session that is there -/

/-- What is wrong with an AUTH COMPLETE when no authentication is pending. -/
def notPending (malformed : Option Error) : UpdateAnswer :=
  match malformed with
  | some e => .problem 400 "INVALID_MANDATORY_INFORMATION" e
  | none => .problem 404 "CONTEXT_NOT_FOUND"
      (.new "no pending secondary authentication for this sm context")

def updateOf (req : UpdateSMContext) (p : Ptr) (sess : Session) : Updated :=
  match req.kind with
  | .preparing => handoverPreparing req sess
  | .completed => handoverComplete req sess
  | .resAllocFail => handoverResAllocFail req sess
  | .activating => activating req sess
  | .deactivated => deactivated p sess
  | .policyUpdate granted => policyUpdated req granted sess
  | .authComplete malformed _ _ => .only (notPending malformed) sess
  | .modificationRequest granted =>
    { answer := modificationAnswer req, sess := modifiedQoS granted sess }
  | .ignored => .only (.ok none none none) sess
  | .reqAck info => handoverReqAck req info sess
  | .pathSwitchSetupFail info => pathSwitchSetupFail info p sess
  | .pathSwitchReq info =>
    match extractPathSwitchTunnelInfo info.pathSwitchRequest with
    | .error e => .only (.updateError 422 causeSystemFailure e
        (some (.pathSwitchReqFail, .semanticError))) sess
    | .ok (gnbIP, dlTEID) => pathSwitchReq req gnbIP dlTEID sess
  | .setupResponse info =>
    match extractGNBTunnelInfo info.setupResponse with
    | .error e => .only (.problem 422 causeSystemFailure e) sess
    | .ok (gnbIP, dlTEID) => setupResponse gnbIP dlTEID p sess

namespace Server

def updated (s : Server) (p : Ptr) (u : Updated) : Server :=
  { s with heap := s.heap.modify p fun _ => u.sess, tasks := s.tasks ++ u.tasks }

@[simp] theorem get_updated (s : Server) (p : Ptr) (u : Updated) :
    (s.updated p u).heap.get p = u.sess := by
  simp [updated]

theorem updated_only (s : Server) (p : Ptr) (answer : UpdateAnswer) :
    s.updated p (.only answer (s.heap.get p)) = s := by
  have hheap : s.heap.modify p (fun _ => s.heap.get p) = s.heap := by
    unfold Heap.modify Heap.get
    congr 1
    funext q
    split <;> simp_all
  unfold updated Updated.only
  rw [hheap, List.append_nil]

theorem withSession_eq (hp : s.sessions.lookup ref = some p)
    (notFound : UpdateAnswer) (update : Ptr → Session → Updated) :
    s.withSession ref notFound update =
      ⟨(update p (s.heap.get p)).answer, s.updated p (update p (s.heap.get p)),
        (update p (s.heap.get p)).sent⟩ := by
  unfold withSession
  rw [hp]
  rfl

theorem handleUpdateSMContext_eq (hp : s.sessions.lookup ref = some p)
    (hpending : s.pendingAuth.lookup ref = none) (req : UpdateSMContext) :
    s.handleUpdateSMContext ref req =
      ⟨(updateOf req p (s.heap.get p)).answer, s.updated p (updateOf req p (s.heap.get p)),
        (updateOf req p (s.heap.get p)).sent⟩ := by
  -- an answer that changes nothing
  have honly : ∀ answer, (⟨answer, s, none⟩ : Handled) =
      ⟨(Updated.only answer (s.heap.get p)).answer, s.updated p (.only answer (s.heap.get p)),
        (Updated.only answer (s.heap.get p)).sent⟩ := by
    intro answer
    rw [updated_only]
    rfl
  unfold handleUpdateSMContext updateOf
  split
  · exact withSession_eq hp _ _
  · exact withSession_eq hp _ _
  · exact withSession_eq hp _ _
  · exact withSession_eq hp _ _
  · exact withSession_eq hp _ _
  · exact withSession_eq hp _ _
  · rename_i malformed aaa qos _
    rw [← honly]
    unfold handleAuthComplete handleSecondaryAuthComplete getPendingAuth notPending
    cases malformed with
    | some e => rfl
    | none => rw [hpending]
  · exact withSession_eq hp _ _
  · exact honly _
  · exact withSession_eq hp _ _
  · exact withSession_eq hp _ _
  · unfold handlePathSwitchReq
    split
    · exact honly _
    · exact withSession_eq hp _ _
  · unfold handleSetupResponse
    split
    · exact honly _
    · exact withSession_eq hp _ _

end Server

/-! ## What a request does to the user plane -/

/-- The session has a tunnel that a COMPLETED would switch to. -/
def Session.HasTarget (sess : Session) : Prop :=
  sess.hoTargetGNBIP ≠ [] ∧ sess.hoTargetDLTEID ≠ 0

theorem pfcpSwitchDL_cases (req : UpdateSMContext) (sess : Session) (dlTEID : UInt32)
    (gnbIP : Bytes) : (pfcpSwitchDL req { sess with state := .active } dlTEID gnbIP = .ok () ∧
        req.switchDL dlTEID gnbIP = .accepted) ∨
      ∃ status cause,
        pfcpSwitchDL req { sess with state := .active } dlTEID gnbIP = .error (status, cause) ∧
        status ≠ 200 ∧ req.switchDL dlTEID gnbIP ≠ .accepted := by
  unfold pfcpSwitchDL
  cases req.switchDL dlTEID gnbIP with
  | accepted => exact Or.inl ⟨rfl, rfl⟩
  | timeout => exact Or.inr ⟨504, _, rfl, by decide, by simp⟩
  | rejected cause | causeMissing | transport e => exact Or.inr ⟨500, _, rfl, by decide, by simp⟩

theorem markActive_eq (h : sess.state ≠ .releasing) :
    sess.markActive = some { sess with state := .active } := by
  rw [markActive, if_neg h]

def SwitchTo (req : UpdateSMContext) (sess : Session) (dlTEID : UInt32) (gnbIP : Bytes) : Prop :=
  (req.kind = .completed ∧ sess.HasTarget ∧ dlTEID = sess.hoTargetDLTEID ∧
    gnbIP = sess.hoTargetGNBIP) ∨
  ∃ info, req.kind = .pathSwitchReq info ∧
    extractPathSwitchTunnelInfo info.pathSwitchRequest = .ok (gnbIP, dlTEID)

inductive PlaneEffect (req : UpdateSMContext) (p : Ptr) (sess : Session) (u : Updated) : Prop where
  | keeps (state : u.sess.state = sess.state) (tasks : u.tasks = []) (sent : u.sent = none)
  /-- The downlink is switched. -/
  | switches (dlTEID : UInt32) (gnbIP : Bytes) (tunnel : SwitchTo req sess dlTEID gnbIP)
      (running : sess.state ≠ .releasing) (sent : u.sent = some (dlTEID, gnbIP))
      (accepted : req.switchDL dlTEID gnbIP = .accepted) (status : u.answer.status = 200)
      (state : u.sess.state = .active) (tasks : u.tasks = [])
  /-- The switch is sent and not accepted. -/
  | misses (dlTEID : UInt32) (gnbIP : Bytes) (tunnel : SwitchTo req sess dlTEID gnbIP)
      (running : sess.state ≠ .releasing) (sent : u.sent = some (dlTEID, gnbIP))
      (accepted : req.switchDL dlTEID gnbIP ≠ .accepted) (status : u.answer.status ≠ 200)
      (state : u.sess.state = sess.state) (tasks : u.tasks = [])
  /-- The gNB has answered, and a switch is started. -/
  | activates (info : N2SmInfo) (kind : req.kind = .setupResponse info) (dlTEID : UInt32)
      (gnbIP : Bytes) (tunnel : extractGNBTunnelInfo info.setupResponse = .ok (gnbIP, dlTEID))
      (running : sess.state ≠ .releasing) (status : u.answer.status = 200)
      (state : u.sess.state = .active)
      (tasks : u.tasks = [.sendPFCPSessionModification p dlTEID gnbIP]) (sent : u.sent = none)
  /-- The user plane goes, and a deactivation is started. -/
  | idles (kind : req.kind = .deactivated)
      (state : u.sess.state = if sess.state = .releasing then .releasing else .idle)
      (tasks : u.tasks = [.sendPFCPSessionDeactivation p]) (sent : u.sent = none)
  /-- What the failed target calls for is started. -/
  | targetFailed (release : Bool) (running : sess.state ≠ .releasing)
      (state : u.sess.state = sess.state)
      (tasks : u.tasks = [.runTargetFailedAction p release]) (sent : u.sent = none)

structure SameHandover (sess sess' : Session) : Prop where
  hoState : sess'.hoState = sess.hoState
  gnbIP : sess'.hoTargetGNBIP = sess.hoTargetGNBIP
  dlTEID : sess'.hoTargetDLTEID = sess.hoTargetDLTEID

theorem SameHandover.refl (sess : Session) : SameHandover sess sess := ⟨rfl, rfl, rfl⟩

/-- The legs of the N2 handover. -/
def UpdateKind.OfHandover (kind : UpdateKind) : Prop :=
  kind = .preparing ∨ kind = .completed ∨ kind = .resAllocFail ∨ ∃ info, kind = .reqAck info

/-- What every request keeps to. -/
structure Kept (req : UpdateSMContext) (p : Ptr) (sess : Session) (u : Updated) : Prop where
  plane : PlaneEffect req p sess u
  seid : u.sess.seid = sess.seid
  handover : ¬ req.kind.OfHandover → SameHandover sess u.sess

theorem Kept.only (answer : UpdateAnswer) (sess : Session) : Kept req p sess (.only answer sess) :=
  ⟨.keeps rfl rfl rfl, rfl, fun _ => .refl sess⟩

theorem handoverComplete_kept (hkind : req.kind = .completed) (p : Ptr) (sess : Session) :
    Kept req p sess (handoverComplete req sess) := by
  have hleg : req.kind.OfHandover := Or.inr (Or.inl hkind)
  unfold handoverComplete
  split
  · exact .only _ _
  · rename_i hrunning
    split
    · exact .only _ _
    · split_ifs with htarget
      · exact .only _ _
      · have htarget : sess.HasTarget := by
          rw [not_or, List.length_eq_zero_iff] at htarget
          exact htarget
        rw [markActive_eq hrunning]
        dsimp only
        rcases pfcpSwitchDL_cases req sess sess.hoTargetDLTEID sess.hoTargetGNBIP with
          ⟨hok, haccepted⟩ | ⟨status, cause, herror, hstatus, haccepted⟩
        · rw [hok]
          exact ⟨.switches _ _ (Or.inl ⟨hkind, htarget, rfl, rfl⟩) hrunning rfl haccepted rfl rfl
            rfl, rfl, fun h => absurd hleg h⟩
        · rw [herror]
          exact ⟨.misses _ _ (Or.inl ⟨hkind, htarget, rfl, rfl⟩) hrunning rfl haccepted hstatus
            rfl rfl, rfl, fun h => absurd hleg h⟩

theorem pathSwitchReq_kept {info : N2SmInfo} (hkind : req.kind = .pathSwitchReq info)
    (htunnel : extractPathSwitchTunnelInfo info.pathSwitchRequest = .ok (gnbIP, dlTEID))
    (p : Ptr) (sess : Session) : Kept req p sess (pathSwitchReq req gnbIP dlTEID sess) := by
  unfold pathSwitchReq
  split_ifs with hrunning
  · exact .only _ _
  · split
    · exact .only _ _
    · rw [markActive_eq hrunning]
      dsimp only
      rcases pfcpSwitchDL_cases req sess dlTEID gnbIP with
        ⟨hok, haccepted⟩ | ⟨status, cause, herror, hstatus, haccepted⟩
      · rw [hok]
        exact ⟨.switches _ _ (Or.inr ⟨info, hkind, htunnel⟩) hrunning rfl haccepted rfl rfl rfl,
          rfl, fun _ => ⟨rfl, rfl, rfl⟩⟩
      · rw [herror]
        exact ⟨.misses _ _ (Or.inr ⟨info, hkind, htunnel⟩) hrunning rfl haccepted hstatus rfl rfl,
          rfl, fun _ => ⟨rfl, rfl, rfl⟩⟩

theorem deactivated_kept (hkind : req.kind = .deactivated) (p : Ptr) (sess : Session) :
    Kept req p sess (deactivated p sess) := by
  unfold deactivated
  split_ifs with hfailed
  · exact ⟨.targetFailed _ hfailed.2 rfl rfl rfl, rfl, fun _ => ⟨rfl, rfl, rfl⟩⟩
  · dsimp only
    split
    · rename_i hreleasing
      exact ⟨.idles hkind ((if_pos hreleasing).symm ▸ hreleasing) rfl rfl, rfl,
        fun _ => ⟨rfl, rfl, rfl⟩⟩
    · rename_i hrunning
      exact ⟨.idles hkind (if_neg hrunning).symm rfl rfl, rfl, fun _ => ⟨rfl, rfl, rfl⟩⟩

theorem kept_updateOf (req : UpdateSMContext) (p : Ptr) (sess : Session) :
    Kept req p sess (updateOf req p sess) := by
  unfold updateOf
  split
  · rename_i hkind
    unfold handoverPreparing
    split
    · exact .only _ _
    · split
      · exact .only _ _
      · exact ⟨.keeps rfl rfl rfl, rfl, fun h => absurd (Or.inl hkind) h⟩
  · rename_i hkind
    exact handoverComplete_kept hkind p sess
  · rename_i hkind
    refine ⟨.keeps ?_ rfl rfl, ?_, fun h => absurd (Or.inr (Or.inr (Or.inl hkind))) h⟩ <;>
    · unfold handoverResAllocFail
      split <;> rfl
  · unfold activating
    split
    · exact .only _ _
    · split <;> exact ⟨.keeps rfl rfl rfl, rfl, fun _ => ⟨rfl, rfl, rfl⟩⟩
  · rename_i hkind
    exact deactivated_kept hkind p sess
  · unfold policyUpdated
    split
    · exact .only _ _
    · split <;> exact ⟨.keeps rfl rfl rfl, rfl, fun _ => ⟨rfl, rfl, rfl⟩⟩
  · exact .only _ _
  · unfold modifiedQoS
    split
    · exact .only _ _
    · split <;> exact ⟨.keeps rfl rfl rfl, rfl, fun _ => ⟨rfl, rfl, rfl⟩⟩
  · exact .only _ _
  · rename_i info hkind
    unfold handoverReqAck
    split
    · exact .only _ _
    · split
      · exact .only _ _
      · exact ⟨.keeps rfl rfl rfl, rfl, fun h => absurd (Or.inr (Or.inr (Or.inr ⟨info, hkind⟩))) h⟩
  · refine ⟨?_, rfl, fun _ => .refl _⟩
    by_cases hreleasing : sess.state = .releasing
    · exact .keeps rfl (if_pos hreleasing) rfl
    · exact .targetFailed _ hreleasing rfl (if_neg hreleasing) rfl
  · rename_i info hkind
    split
    · exact .only _ _
    · rename_i htunnel
      exact pathSwitchReq_kept hkind htunnel p sess
  · rename_i info hkind
    split
    · exact .only _ _
    · rename_i gnbIP dlTEID htunnel
      unfold setupResponse
      split_ifs with hrunning
      · exact .only _ _
      · rw [markActive_eq hrunning]
        exact ⟨.activates info hkind dlTEID gnbIP htunnel hrunning rfl rfl rfl rfl, rfl,
          fun _ => ⟨rfl, rfl, rfl⟩⟩

theorem releasing_of_updateOf (h : (updateOf req p sess).sess.state = .releasing) :
    sess.state = .releasing := by
  cases (kept_updateOf req p sess).plane with
  | keeps state => exact state.symm.trans h
  | switches _ _ _ _ _ _ _ state => exact absurd (state.symm.trans h) nofun
  | misses _ _ _ _ _ _ _ state => exact state.symm.trans h
  | activates _ _ _ _ _ _ _ state => exact absurd (state.symm.trans h) nofun
  | idles _ state =>
    rw [state] at h
    split at h
    · assumption
    · cases h
  | targetFailed _ _ state => exact state.symm.trans h

theorem tasks_of_setupResponse {info : N2SmInfo} (hkind : req.kind = .setupResponse info)
    (h : (updateOf req p sess).answer.status = 200) :
    ∃ dlTEID gnbIP, (updateOf req p sess).tasks = [.sendPFCPSessionModification p dlTEID gnbIP]
  := by
  unfold updateOf at h ⊢
  rw [hkind] at h ⊢
  dsimp only at h ⊢
  split at h
  · exact absurd h (by simp [UpdateAnswer.status])
  · rename_i gnbIP dlTEID _
    unfold setupResponse at h ⊢
    split_ifs at h with hrunning
    · exact absurd h (by simp [UpdateAnswer.status])
    · refine ⟨dlTEID, gnbIP, ?_⟩
      rw [if_neg hrunning, markActive_eq hrunning]

end Claudia5gc.Smf
