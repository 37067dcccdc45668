import Claudia5gc.Amf.Index

/-!
# The N2 side of the AMF

The NGAP server keeps a context for every association with a gNB, and in it the UEs by their RAN UE
NGAP ID, those with a signalling connection and those that went idle there.  What blocks on another
network function runs later, on the serial queue of the UE.
-/

namespace Claudia5gc.Amf.Ngap

open Go Function

/-! ## Messages -/

/-- The causes that the AMF gives, and those that it passes on. -/
inductive Cause where
  | unknownLocalUENGAPID
  | unknownPDUSessionID
  | multiplePDUSessionIDInstances
  | hoFailureInTarget
  | miscUnspecified
  | other (present : Nat) (value : Int64)
  deriving DecidableEq

structure SessionItem where
  pduSessionID : UInt8
  transfer : Bytes := []
  deriving DecidableEq

structure ReleaseItem where
  pduSessionID : UInt8
  cause : Cause
  transfer : Bytes := []
  deriving DecidableEq

structure InitialUEMessage where
  ranUENGAPId : Int64
  fiveGSTMSI : Option UInt32
  nasPdu : Bytes
  tac : Option UInt32

structure PathSwitchRequest where
  sourceAMFUENGAPId : Int64
  ranUENGAPId : Int64
  pduSessions : List SessionItem
  failedToSetup : List SessionItem
  tac : Option UInt32

structure HandoverRequired where
  amfUENGAPId : Int64
  ranUENGAPId : Int64
  targetGlobalRANNodeID : Bytes
  pduSessions : List SessionItem
  sourceToTargetTransparentContainer : Bytes

structure HandoverRequestAck where
  amfUENGAPId : Int64
  ranUENGAPId : Int64
  admittedSessions : List SessionItem
  failedSessions : List SessionItem
  targetToSourceTransparentContainer : Bytes

/-! ## State -/

structure GNBContext where
  addr : String := ""
  globalGNBID : Bytes := []
  ues : Map Int64 Ptr := ∅
  idleUEs : Map Int64 Ptr := ∅

structure N2HandoverState where
  sourceGNB : Ptr := 0
  sourceRANUENGAPId : Int64 := 0
  targetGNB : Ptr := 0
  prepReleased : List ReleaseItem := []
  admittedSessions : List SessionItem := []
  tgtToSrcContainer : Bytes := []
  targetFailed : List UInt8 := []

structure PathSwitchPlan where
  requested : List UInt8
  known : List UInt8

/-- What waits on the serial queue of a UE. -/
inductive Task where
  | nas (pdu : Bytes)
  | anRelease
  | pathSwitch (target : Ptr) (req : PathSwitchRequest) (plan : PathSwitchPlan)
  | prepare (source target : Ptr) (req : HandoverRequired)
  | complete (target : Ptr) (ack : HandoverRequestAck) (state : Ptr)

/-- What the server sends, and the callback for a UE of a lost association. -/
inductive Event where
  | pathSwitchAck (target : Ptr) (nh : Bytes) (ncc : UInt8) (switched : List SessionItem)
      (released : List ReleaseItem)
  | pathSwitchFailure (target : Ptr) (released : List ReleaseItem)
  | handoverPreparationFailure (source : Ptr) (cause : Cause)
  | handoverRequest (state target : Ptr) (sessions : List SessionItem)
  | handoverCommand (state source ackedBy : Ptr) (handled : List SessionItem)
      (toRelease : List ReleaseItem)
  | ueContextReleaseCommand (gnb : Ptr) (amfUENGAPId ranUENGAPId : Int64)
  | rejectUnknownTMSI (gnb : Ptr) (amfUENGAPId : Int64)
  | gnbDisconnect (ue : Ptr)

/-- The NGAP server. -/
structure Server where
  mgr : Manager
  gnbAddr : Ptr → String
  timers : Ptr → Bool
  gnbCtxs : Heap GNBContext
  gnbs : Map String Ptr
  handovers : Heap N2HandoverState
  pendingN2HO : Map Int64 Ptr
  queue : List (Ptr × Task)
  trace : List Event

/-- Which of the optional SMF hooks are registered. -/
structure Hooks where
  pathSwitch : Bool := true
  handoverRequired : Bool := true
  handoverReqAck : Bool := true

/-- The answer of the SMF for a session, a timeout included. -/
inductive SMFAnswer where
  | accept (transfer : Bytes)
  | reject (cause : Cause) (transfer : Bytes)

/-- What the other parties do while a message is handled: the answers of the SMF to the calls of
one leg, whether the message can be built, and whether it can be sent. -/
structure Net where
  smf : Nat → SMFAnswer := fun _ => .accept []
  built : Bool := true
  sent : Bool := true

namespace Server

def new (mgr : Manager) : Server where
  mgr := mgr
  gnbAddr _ := ""
  timers _ := false
  gnbCtxs := ⟨fun _ => {}, 0⟩
  gnbs := ∅
  handovers := ⟨fun _ => {}, 0⟩
  pendingN2HO := ∅
  queue := []
  trace := []

variable (s : Server)

def ctx (ue : Ptr) : UEContext := s.mgr.ues.get ue

def gnb (g : Ptr) : GNBContext := s.gnbCtxs.get g

def updateUE (ue : Ptr) (f : UEContext → UEContext) : Server :=
  { s with mgr := { s.mgr with ues := s.mgr.ues.modify ue f } }

def updateGNB (g : Ptr) (f : GNBContext → GNBContext) : Server :=
  { s with gnbCtxs := s.gnbCtxs.modify g f }

def enqueueSerial (ue : Ptr) (t : Task) : Server :=
  { s with queue := s.queue ++ [(ue, t)] }

def emit (e : Event) : Server := { s with trace := s.trace ++ [e] }

def remove (ue : Ptr) : Server := { s with mgr := s.mgr.remove ue }

end Server

namespace GNBContext

variable (ranID : Int64)

def addUE (ue : Ptr) (g : GNBContext) : GNBContext :=
  { g with ues := g.ues.insert ranID ue }

def dropUE (g : GNBContext) : GNBContext := { g with ues := g.ues.erase ranID }

def dropIdle (g : GNBContext) : GNBContext :=
  { g with idleUEs := g.idleUEs.erase ranID }

/-- A UE that is back from idle; one entry of it among the idle ones is deleted. -/
def promote (ue : Ptr) (g : GNBContext) : GNBContext :=
  addUE ranID ue <| match g.idleUEs.entries.find? (·.2 = ue) with
    | some e => g.dropIdle e.1
    | none => g

/-- The move from the UEs to the idle ones. -/
def park (g : GNBContext) : GNBContext :=
  dropUE ranID <| match g.ues.lookup ranID with
    | some ue => { g with idleUEs := g.idleUEs.insert ranID ue }
    | none => g

end GNBContext

namespace Server

/-! ## Associations -/

variable (s : Server)

def connect (addr : String) (globalGNBID : Bytes) : Server :=
  let (g, gnbCtxs) := s.gnbCtxs.new { addr, globalGNBID }
  { s with gnbCtxs, gnbs := s.gnbs.insert addr g }

variable (g : Ptr)

/-- The clean-up of `handleGNBConn` when the association is lost. -/
def disconnect : Server :=
  let ues := (s.gnb g).ues.entries.map (·.2) ++ (s.gnb g).idleUEs.entries.map (·.2)
  let s' := ues.foldl (fun s ue => (s.emit (.gnbDisconnect ue)).remove ue) s
  { s' with gnbs := s'.gnbs.erase (s.gnb g).addr }

/-- When an association is lost, the UEs that were there, connected or idle, are not found any
more, and all others are, also those with the SUPI of a lost one. -/
theorem indexes_disconnect (id : Int64) (supi : String) (p : Ptr) :
    let lost := (s.gnb g).ues.entries.map (·.2) ++ (s.gnb g).idleUEs.entries.map (·.2)
    ((s.disconnect g).mgr.getByNGAPId id = some p ↔
      s.mgr.getByNGAPId id = some p ∧ ∀ ue ∈ lost, id ≠ (s.ctx ue).amfUENGAPId) ∧
    ((s.disconnect g).mgr.getBySUPI supi = some p ↔
      s.mgr.getBySUPI supi = some p ∧ ¬(p ∈ lost ∧ (s.ctx p).supi = supi ∧ supi ≠ "")) := by
  intro lost
  have hmgr : (s.disconnect g).mgr = lost.foldl Manager.remove s.mgr :=
    (List.foldl_hom mgr fun _ _ => rfl).symm
  rw [hmgr]
  exact ⟨s.mgr.getByNGAPId_foldl_remove lost, s.mgr.getBySUPI_foldl_remove lost⟩

/-! ## NAS messages -/

def isPlainRegistrationRequest : Bytes → Bool
  | epd :: sht :: type :: _ => epd = 0x7E && sht &&& 0x0F = 0 && type = 0x41
  | _ => false

/-- The fields that a UE gets on its new connection. -/
def rebind (ranID : Int64) (tac : Option UInt32) (c : UEContext) : UEContext :=
  { c with ranUENGAPId := ranID, tac := tac.getD c.tac }

def reconnect (ranID : Int64) (tac : Option UInt32) (c : UEContext) : UEContext :=
  { rebind ranID tac c with cmState := .connected }

def returning (g ue : Ptr) (req : InitialUEMessage) : Server :=
  let s := s.updateUE ue (reconnect req.ranUENGAPId req.tac)
  let s := { s with
    gnbAddr := update s.gnbAddr ue (s.gnb g).addr
    timers := update s.timers ue false }
  let s := s.updateGNB g (.promote req.ranUENGAPId ue)
  s.enqueueSerial ue (.nas req.nasPdu)

variable (req : InitialUEMessage)

def unknownTMSI (rejected released : Bool) : Server :=
  let (ue, mgr) := s.mgr.allocateUEContext req.ranUENGAPId
  let id := (mgr.ues.get ue).amfUENGAPId
  let s := { s with mgr }.updateGNB g (.addUE req.ranUENGAPId ue)
  if !rejected then (s.updateGNB g (.dropUE req.ranUENGAPId)).remove ue else
  let s := (s.emit (.rejectUnknownTMSI g id)).updateUE ue ({ · with pendingRemoval := true })
  if !released then (s.updateGNB g (.dropUE req.ranUENGAPId)).remove ue else
  s.emit (.ueContextReleaseCommand g id req.ranUENGAPId)

/-- `handleInitialUEMessage` for a UE that starts afresh. -/
def fresh : Server :=
  let (ue, mgr) := s.mgr.allocateUEContext req.ranUENGAPId
  let s := { s with mgr, gnbAddr := update s.gnbAddr ue (s.gnb g).addr }
  let s := s.updateGNB g (.addUE req.ranUENGAPId ue)
  (s.updateUE ue (rebind req.ranUENGAPId req.tac)).enqueueSerial ue (.nas req.nasPdu)

def handleInitialUEMessage (rejected released : Bool) : Server :=
  match req.fiveGSTMSI with
  | none => s.fresh g req
  | some tmsi =>
    if isPlainRegistrationRequest req.nasPdu then s.fresh g req else
    match s.mgr.getByTMSI tmsi with
    | some ue => s.returning g ue req
    | none => s.unknownTMSI g req rejected released

def handleUplinkNASTransport (_g : Ptr) (amfUENGAPId : Int64) (pdu : Bytes) : Server :=
  match s.mgr.getByNGAPId amfUENGAPId with
  | none => s
  | some ue => if (s.ctx ue).pendingRemoval then s else s.enqueueSerial ue (.nas pdu)

/-! ## Release -/

def isStaleSourceRelease (ue g : Ptr) (ranID : Int64) : Bool :=
  (s.gnbAddr ue ≠ "" && s.gnbAddr ue ≠ (s.gnb g).addr) ||
    ((s.ctx ue).ranUENGAPId ≠ 0 && (s.ctx ue).ranUENGAPId ≠ ranID)

/-- The AN release behind the check for the source of a handover. -/
def releaseComplete (amfUENGAPId ranID : Int64) : Server :=
  let s := s.updateGNB g (.park ranID)
  match s.mgr.getByNGAPId amfUENGAPId with
  | none => s.updateGNB g (.dropIdle ranID)
  | some ue =>
    let s := s.updateUE ue ({ · with cmState := .idle })
    if (s.ctx ue).pendingRemoval then (s.updateGNB g (.dropIdle ranID)).remove ue
    else { s.enqueueSerial ue .anRelease with timers := update s.timers ue true }

def handleUEContextReleaseComplete (amfUENGAPId ranID : Int64) : Server :=
  match s.mgr.getByNGAPId amfUENGAPId with
  | some ue =>
    if s.isStaleSourceRelease ue g ranID then s.updateGNB g (.dropIdle ranID ∘ .dropUE ranID)
    else s.releaseComplete g amfUENGAPId ranID
  | none => s.releaseComplete g amfUENGAPId ranID

end Server

end Claudia5gc.Amf.Ngap
