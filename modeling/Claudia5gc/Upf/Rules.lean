import Claudia5gc.Go.Memory
import Claudia5gc.Go.Outcome
import Claudia5gc.Upf.Bucket
import Mathlib.Data.List.Sort

/-!
# The QoS rules of a PFCP session

The QoS enforcement rules (QER) of a session and the QER ID list of each of its packet detection
rules (PDR), with the code that reads them from a PFCP request, checks them and applies them.
-/

namespace Claudia5gc.Upf

open Go

/-! ## What a request carries -/

/-- The types of IE that an answer can name as the offending one. -/
inductive IEType where
  | createQER | updateQER | removeQER | updatePDR
  | qerID | qfi | gateStatus | mbr | pdrID
  deriving DecidableEq

/-- The causes in the answers of the UPF. -/
inductive Cause where
  | requestAccepted
  | sessionContextNotFound
  | mandatoryIEMissing
  | mandatoryIEIncorrect
  | ruleCreationModificationFailure
  deriving DecidableEq

/-- The kind of rule that a Failed Rule ID names. -/
inductive RuleIDType where
  | pdr | qer
  deriving DecidableEq

/-- The addresses in a UE IP Address IE. -/
structure UEIPAddress where
  ipv4 : Option Bytes := none
  ipv6 : Option Bytes := none
  deriving DecidableEq

inductive PdiIE where
  | sourceInterface (v : Option UInt8)
  | fteid (teid : Option UInt32)
  | ueIPAddress (v : Option UEIPAddress)
  | other
  deriving DecidableEq

structure OuterHeader where
  teid : UInt32
  ipv4 : Option Bytes
  deriving DecidableEq

/-- A child of a grouped IE. -/
inductive IE where
  | qerID (v : Option UInt32)
  | qfi (v : Option UInt8)
  | gateStatus (ul dl : Option UInt8)
  | mbr (ul dl : Option UInt64)
  | pdrID (v : Option UInt16)
  | precedence (v : Option UInt32)
  | pdi (children : Option (List PdiIE))
  | applyAction (v : Option UInt8)
  | updateForwardingParameters (outerHeader : Option OuterHeader)
  | other
  deriving DecidableEq

/-- A grouped IE: its children, unless it is malformed. -/
abbrev Grouped := Option (List IE)

/-! ## Rejections -/

def specCreateQER : String := "TS 29.244 §7.5.2.5"
def specUpdateQER : String := "TS 29.244 §7.5.4.5"
def specRemoveQER : String := "TS 29.244 §7.5.4.9"
def specCreatePDR : String := "TS 29.244 §7.5.2.2"
def specUpdatePDR : String := "TS 29.244 §7.5.4.2"

/-- The IE that tells the peer what was wrong. -/
inductive RejectIE where
  | offendingIE (type : IEType)
  | failedRuleID (type : RuleIDType) (id : UInt32)
  deriving DecidableEq

structure PfcpReject where
  cause : Cause
  ies : List RejectIE
  reason : String
  spec : String
  deriving DecidableEq

def rejectMissing (offending : IEType) (spec reason : String) : PfcpReject :=
  ⟨.mandatoryIEMissing, [.offendingIE offending], reason, spec⟩

def rejectIncorrect (offending : IEType) (spec reason : String) : PfcpReject :=
  ⟨.mandatoryIEIncorrect, [.offendingIE offending], reason, spec⟩

def rejectRule (ruleType : RuleIDType) (id : UInt32) (spec reason : String) : PfcpReject :=
  ⟨.ruleCreationModificationFailure, [.failedRuleID ruleType id], reason, spec⟩

/-- The value of an accessor, or the rejection of the request. -/
def orReject {α : Type} (v : Option α) (rej : PfcpReject) : Except PfcpReject α :=
  match v with
  | some v => .ok v
  | none => .error rej

def need (ok : Prop) [Decidable ok] (rej : PfcpReject) : Except PfcpReject Unit :=
  if ok then .ok () else .error rej

/-! ## The rules -/

def gateOpen : UInt8 := 0
def gateClosed : UInt8 := 1

/-- What the SMF has said about one QER. -/
structure QERRule where
  qerID : UInt32
  qfi : UInt8 := 0
  hasQFI : Bool := false
  gateUL : UInt8 := gateOpen
  gateDL : UInt8 := gateOpen
  hasMBR : Bool := false
  mbrULKbps : UInt64 := 0
  mbrDLKbps : UInt64 := 0
  deriving DecidableEq

structure QERState extends QERRule where
  ulBucket : Option Ptr := none
  dlBucket : Option Ptr := none
  deriving DecidableEq

def srcInterfaceAccess : UInt8 := 0
def srcInterfaceCore : UInt8 := 1

def noPrecedence : UInt32 := 0xFFFFFFFF

structure PDRState where
  pdrID : UInt16 := 0
  sourceInterface : UInt8 := srcInterfaceAccess
  precedence : UInt32 := noPrecedence
  qerIDs : List UInt32 := []
  deriving DecidableEq

/-- `qerParams`: what a Create QER or an Update QER says. -/
structure QERParams where
  id : UInt32 := 0
  hasID : Bool := false
  hasGate : Bool := false
  gateUL : UInt8 := 0
  gateDL : UInt8 := 0
  hasMBR : Bool := false
  mbrUL : UInt64 := 0
  mbrDL : UInt64 := 0
  hasQFI : Bool := false
  qfi : UInt8 := 0
  deriving DecidableEq

/-- The spare values of a gate status count as closed. -/
def normGate (v : UInt8) : UInt8 :=
  if v = gateOpen ∨ v = gateClosed then v else gateClosed

def parseQERChild (spec : String) (p : QERParams) : IE → Except PfcpReject QERParams
  | .qerID v => do
    let v ← orReject v (rejectIncorrect .qerID spec "QER ID malformed")
    return { p with id := v, hasID := true }
  | .qfi v => do
    let v ← orReject v (rejectIncorrect .qfi spec "QFI malformed")
    return { p with qfi := v, hasQFI := true }
  | .gateStatus ul dl => do
    let ul ← orReject ul (rejectIncorrect .gateStatus spec "Gate Status malformed")
    let dl ← orReject dl (rejectIncorrect .gateStatus spec "Gate Status malformed")
    return { p with gateUL := normGate ul, gateDL := normGate dl, hasGate := true }
  | .mbr ul dl => do
    let ul ← orReject ul (rejectIncorrect .mbr spec "MBR malformed")
    let dl ← orReject dl (rejectIncorrect .mbr spec "MBR malformed")
    return { p with mbrUL := ul, mbrDL := dl, hasMBR := true }
  | _ => return p

def parseQERParams (children : List IE) (spec : String) : Except PfcpReject QERParams :=
  children.foldlM (parseQERChild spec) {}

def QERParams.rule (p : QERParams) : QERRule :=
  let q : QERRule :=
    { qerID := p.id, qfi := p.qfi, hasQFI := p.hasQFI, hasMBR := p.hasMBR,
      mbrULKbps := p.mbrUL, mbrDLKbps := p.mbrDL }
  if p.hasGate then { q with gateUL := p.gateUL, gateDL := p.gateDL } else q

def QERParams.newState (p : QERParams) : QERState := { toQERRule := p.rule }

def appendQERID (list : List UInt32) (id : UInt32) : List UInt32 :=
  if id ∈ list then list else list ++ [id]

/-- A child of a PDI, as the QoS path reads it. -/
def parseSourceInterface (p : PDRState) : PdiIE → PDRState
  | .sourceInterface (some v) => { p with sourceInterface := v }
  | _ => p

def parsePDRChild (p : PDRState) : IE → Except PfcpReject PDRState
  | .pdrID (some v) => return { p with pdrID := v }
  | .precedence (some v) => return { p with precedence := v }
  | .qerID v => do
    let v ← orReject v (rejectIncorrect .qerID specCreatePDR "PDR QER ID malformed")
    return { p with qerIDs := appendQERID p.qerIDs v }
  | .pdi (some pdi) => return pdi.foldl parseSourceInterface p
  | _ => return p

def parsePDRQoS (children : List IE) : Except PfcpReject PDRState :=
  children.foldlM parsePDRChild {}

/-! ## Establishment -/

variable (qers : Map UInt32 QERState)

variable (ie : Grouped)

def createQER : Except PfcpReject (Map UInt32 QERState) := do
  let children ← orReject ie (rejectIncorrect .createQER specCreateQER "Create QER malformed")
  let p ← parseQERParams children specCreateQER
  need p.hasID (rejectMissing .qerID specCreateQER "Create QER without QER ID")
  need (p.id ∉ qers) (rejectRule .qer p.id specCreateQER "duplicate QER ID")
  return qers.insert p.id p.newState

def checkPDR (p : PDRState) : Except PfcpReject Unit :=
  p.qerIDs.forM fun id =>
    need (id ∈ qers) (rejectRule .pdr p.pdrID.toUInt32 specCreatePDR
      "PDR references a QER that was not created")

def establishmentQoS (createQERs : List Grouped) (pdrs : List PDRState) :
    Except PfcpReject (Map UInt32 QERState × Map UInt16 PDRState) := do
  let qers ← createQERs.foldlM createQER ∅
  let pdrMap : Map UInt16 PDRState := pdrs.foldl (fun m p => m.insert p.pdrID p) ∅
  pdrs.forM (checkPDR qers)
  return (qers, pdrMap)

/-! ## Modification -/

structure PdrListUpdate where
  pdrID : UInt16 := 0
  qers : List UInt32 := []
  deriving DecidableEq

structure ModPlan where
  creates : List QERParams
  updates : List QERParams
  removes : List UInt32
  pdrs : List PdrListUpdate
  deriving DecidableEq

def ModPlan.empty (plan : ModPlan) : Bool :=
  plan.creates.length + plan.updates.length + plan.removes.length + plan.pdrs.length = 0

/-- The QoS rules in a Session Modification Request, each kind in the order of the message. -/
structure RuleIEs where
  createQER : List Grouped := []
  updateQER : List Grouped := []
  removeQER : List Grouped := []
  updatePDR : List Grouped := []
  deriving DecidableEq

def planCreate : Except PfcpReject QERParams := do
  let children ← orReject ie (rejectIncorrect .createQER specCreateQER "Create QER malformed")
  let p ← parseQERParams children specCreateQER
  need p.hasID (rejectMissing .qerID specCreateQER "Create QER without QER ID")
  return p

def planUpdate : Except PfcpReject QERParams := do
  let children ← orReject ie (rejectIncorrect .updateQER specUpdateQER "Update QER malformed")
  let p ← parseQERParams children specUpdateQER
  need p.hasID (rejectMissing .qerID specUpdateQER "Update QER without QER ID")
  return p

def parseRemoveChild (id : Option UInt32) : IE → Except PfcpReject (Option UInt32)
  | .qerID v => do
    let v ← orReject v (rejectIncorrect .qerID specRemoveQER "Remove QER QER ID malformed")
    return some v
  | _ => return id

def planRemove : Except PfcpReject UInt32 := do
  let children ← orReject ie (rejectIncorrect .removeQER specRemoveQER "Remove QER malformed")
  let id ← children.foldlM parseRemoveChild none
  orReject id (rejectMissing .qerID specRemoveQER "Remove QER without QER ID")

def parseUpdatePDRChild (u : PdrListUpdate × Bool) : IE → Except PfcpReject (PdrListUpdate × Bool)
  | .pdrID v => do
    let v ← orReject v (rejectIncorrect .pdrID specUpdatePDR "Update PDR PDR ID malformed")
    return ({ u.1 with pdrID := v }, true)
  | .qerID v => do
    let v ← orReject v (rejectIncorrect .qerID specUpdatePDR "Update PDR QER ID malformed")
    return ({ u.1 with qers := appendQERID u.1.qers v }, u.2)
  | _ => return u

def planUpdatePDR : Except PfcpReject PdrListUpdate := do
  let children ← orReject ie (rejectIncorrect .updatePDR specUpdatePDR "Update PDR malformed")
  let u ← children.foldlM parseUpdatePDRChild ({}, false)
  need u.2 (rejectMissing .pdrID specUpdatePDR "Update PDR without PDR ID")
  return u.1

/-- The first half of `planModificationQoS`: what the request asks for. -/
def parsePlan (req : RuleIEs) : Except PfcpReject ModPlan := do
  let creates ← req.createQER.mapM planCreate
  let updates ← req.updateQER.mapM planUpdate
  let removes ← req.removeQER.mapM planRemove
  let pdrs ← req.updatePDR.mapM planUpdatePDR
  return ⟨creates, updates, removes, pdrs.filter fun u => u.qers.length > 0⟩

def checkCreate (after : List UInt32) (p : QERParams) : Except PfcpReject (List UInt32) := do
  need (¬ (p.id ∈ qers ∨ p.id ∈ after))
    (rejectRule .qer p.id specCreateQER "Create QER with an existing QER ID")
  return p.id :: after

variable (pdrs : Map UInt16 PDRState)

def checkUpdatePDR (after : List UInt32) (u : PdrListUpdate) : Except PfcpReject Unit := do
  need (u.pdrID ∈ pdrs)
    (rejectRule .pdr u.pdrID.toUInt32 specUpdatePDR "Update PDR for unknown PDR ID")
  u.qers.forM fun id =>
    need (id ∈ after)
      (rejectRule .pdr u.pdrID.toUInt32 specUpdatePDR "Update PDR references an unknown QER")

def checkUntouchedPDR (updated : List UInt16) (after : List UInt32)
    (pid : UInt16) : Except PfcpReject Unit :=
  if pid ∈ updated then .ok ()
  else ((pdrs.lookup pid).map PDRState.qerIDs |>.getD []).forM fun id =>
    need (id ∈ after)
      (rejectRule .qer id specRemoveQER "Remove QER still referenced by a PDR")

/-- The second half of `planModificationQoS`: the plan against the session as it will look
after the message. -/
def checkPlan (plan : ModPlan) : Except PfcpReject Unit := do
  plan.removes.forM fun id =>
    need (id ∈ qers) (rejectRule .qer id specRemoveQER "Remove QER for unknown QER ID")
  let after := qers.keys.filter fun id => id ∉ plan.removes
  let after ← plan.creates.foldlM (checkCreate qers) after
  plan.updates.forM fun p =>
    need (p.id ∈ qers ∧ p.id ∉ plan.removes)
      (rejectRule .qer p.id specUpdateQER "Update QER for unknown QER ID")
  plan.pdrs.forM (checkUpdatePDR pdrs after)
  (pdrs.keys.insertionSort (· ≤ ·)).forM
    (checkUntouchedPDR pdrs (plan.pdrs.map PdrListUpdate.pdrID) after)

def planModificationQoS (req : RuleIEs) : Except PfcpReject ModPlan := do
  let plan ← parsePlan req
  if plan.empty then return plan
  checkPlan qers pdrs plan
  return plan

def QERParams.update (p : QERParams) (q : QERRule) : QERRule :=
  let q := if p.hasGate then { q with gateUL := p.gateUL, gateDL := p.gateDL } else q
  let q := if p.hasMBR then
    { q with hasMBR := true, mbrULKbps := p.mbrUL, mbrDLKbps := p.mbrDL } else q
  if p.hasQFI then { q with qfi := p.qfi, hasQFI := true } else q

/-- A write through the pointer that a map holds for a key.  Without one the program panics. -/
def mapWrite {κ ν : Type} [DecidableEq κ] (k : κ) (f : ν → ν) (m : Map κ ν) : Outcome (Map κ ν) :=
  match m.lookup k with
  | some v => .ok (m.insert k (f v))
  | none => .panic

/-- The maps after the operations of a plan, in the order of `applyQoS`. -/
def applyPlan (plan : ModPlan) : Outcome (Map UInt32 QERState × Map UInt16 PDRState) := do
  let qers := plan.removes.foldl (fun m id => m.erase id) qers
  let qers := plan.creates.foldl (fun m p => m.insert p.id p.newState) qers
  let qers ← plan.updates.foldlM
    (fun m p => mapWrite p.id (fun q => { q with toQERRule := p.update q.toQERRule }) m) qers
  let pdrs ← plan.pdrs.foldlM (fun m u => mapWrite u.pdrID ({ · with qerIDs := u.qers }) m) pdrs
  return (qers, pdrs)

end Claudia5gc.Upf
