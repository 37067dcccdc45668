import Claudia5gc.Upf.Session
import Claudia5gc.Go.Run

/-!
# The PFCP server of the UPF

The session table with its four maps, and the handlers of the three requests about sessions:
establishment, modification and deletion.  Sessions and buckets are behind pointers, so that a map
that still holds a session sees what happens to it.
-/

namespace Claudia5gc.Upf

open Go

/-! ## Addresses -/

inductive Addr where
  | v4 (octets : Bytes)
  | v6 (octets : Bytes)
  deriving DecidableEq

def v4InV6Prefix : Bytes := [0, 0, 0, 0, 0, 0, 0, 0, 0, 0, 0xff, 0xff]

/-- `ueAddr`: the key of the index by UE address, with an IPv4 address in IPv6 form taken as
an IPv4 address. -/
def ueAddr (ip : Bytes) : Option Addr :=
  if ip.length = 4 then some (.v4 ip)
  else if ip.length = 16 then
    if ip.take 12 = v4InV6Prefix then some (.v4 (ip.drop 12)) else some (.v6 ip)
  else none

def to16 (ip : Bytes) : Option Bytes :=
  if ip.length = 4 then some (v4InV6Prefix ++ ip)
  else if ip.length = 16 then some ip
  else none

/-- `ueV6Prefix`: the octets of the /64 network of an address. -/
def ueV6Prefix (ip : Bytes) : Option Bytes := (to16 ip).map (·.take 8)

/-! ## The session table -/

/-- The PFCP server: its sessions, their buckets and the session table. -/
structure Server where
  cfg : QoSConfig := {}
  heap : Heap Session := ⟨fun _ => { cpSEID := 0, upSEID := 0 }, 0⟩
  buckets : Heap Bucket := ⟨fun _ => { burstMs := 0, last := 0 }, 0⟩
  bySEID : Map UInt64 Ptr := ∅
  byULTEID : Map UInt32 Ptr := ∅
  byUEIP : Map Addr Ptr := ∅
  byUEIPv6Net : Map Bytes Ptr := ∅

namespace Server

variable (s : Server)

def getByULTEID (teid : UInt32) : Option Ptr := s.byULTEID.lookup teid

def getByUEIP (ip : Bytes) : Option Ptr :=
  (ueAddr ip).bind fun a => s.byUEIP.lookup a

def getByUEIPv6Prefix (ip : Bytes) : Option Ptr :=
  (ueV6Prefix ip).bind fun net => s.byUEIPv6Net.lookup net

def store (sess : Session) : Server :=
  let (p, heap) := s.heap.new sess
  { s with
    heap := heap
    bySEID := s.bySEID.insert sess.upSEID p
    byULTEID := if sess.ulTEID ≠ 0 then s.byULTEID.insert sess.ulTEID p else s.byULTEID
    byUEIP :=
      if sess.ueIP.length > 0 then
        match ueAddr sess.ueIP with
        | some a => s.byUEIP.insert a p
        | none => s.byUEIP
      else s.byUEIP
    byUEIPv6Net :=
      match ueV6Prefix sess.ueIPv6 with
      | some net => s.byUEIPv6Net.insert net p
      | none => s.byUEIPv6Net }

def delete (upSEID : UInt64) : Server :=
  match s.bySEID.lookup upSEID with
  | some p =>
    let sess := s.heap.get p
    { s with
      byULTEID := s.byULTEID.erase sess.ulTEID
      byUEIP :=
        if sess.ueIP.length > 0 then
          match ueAddr sess.ueIP with
          | some a => s.byUEIP.erase a
          | none => s.byUEIP
        else s.byUEIP
      byUEIPv6Net :=
        match ueV6Prefix sess.ueIPv6 with
        | some net => s.byUEIPv6Net.erase net
        | none => s.byUEIPv6Net
      bySEID := s.bySEID.erase upSEID }
  | none => s

end Server

/-! ## Requests and answers -/

structure SessionEstablishmentRequest where
  /-- The SEID in the CP F-SEID, when that IE is there and well formed. -/
  cpFSEID : Option UInt64
  createPDR : List Grouped
  createQER : List Grouped

inductive ModificationIE where
  | createQER (ie : Grouped)
  | updateQER (ie : Grouped)
  | removeQER (ie : Grouped)
  | updatePDR (ie : Grouped)
  | updateFAR (ie : Grouped)
  deriving DecidableEq

structure SessionModificationRequest where
  seid : UInt64
  ies : List ModificationIE

/-- The lists that the PFCP library makes of the IEs, one for each type. -/
def SessionModificationRequest.rules (req : SessionModificationRequest) : RuleIEs where
  createQER := req.ies.filterMap fun | .createQER ie => some ie | _ => none
  updateQER := req.ies.filterMap fun | .updateQER ie => some ie | _ => none
  removeQER := req.ies.filterMap fun | .removeQER ie => some ie | _ => none
  updatePDR := req.ies.filterMap fun | .updatePDR ie => some ie | _ => none

def SessionModificationRequest.updateFAR (req : SessionModificationRequest) : List Grouped :=
  req.ies.filterMap fun | .updateFAR ie => some ie | _ => none

/-- What the UPF answers: the SEID in the header, the cause and what it was about. -/
structure Response where
  seid : UInt64
  cause : Cause
  ies : List RejectIE := []
  deriving DecidableEq

/-- The requests about sessions, each with the reading of the clock of the policer. -/
inductive Request where
  | establishment (req : SessionEstablishmentRequest) (now : Int64)
  | modification (req : SessionModificationRequest) (now : Int64)
  | deletion (seid : UInt64)

/-! ## Establishment -/

/-- What the loop over the Create PDRs collects. -/
structure PDRScan where
  ulTEID : UInt32 := 0
  ueIP : Bytes := []
  ueIPv6 : Bytes := []
  pdrStates : List PDRState := []

def PDRScan.addPdiChild (scan : PDRScan) : PdiIE → PDRScan
  | .fteid (some teid) => { scan with ulTEID := teid }
  | .ueIPAddress (some u) =>
    { scan with ueIP := u.ipv4.getD scan.ueIP, ueIPv6 := u.ipv6.getD scan.ueIPv6 }
  | _ => scan

def PDRScan.addChild (scan : PDRScan) : IE → PDRScan
  | .pdi (some children) => children.foldl PDRScan.addPdiChild scan
  | _ => scan

def PDRScan.addPDR (scan : PDRScan) : Grouped → Except PfcpReject PDRScan
  | none => return scan
  | some pdrIEs => do
    let ps ← parsePDRQoS pdrIEs
    return pdrIEs.foldl PDRScan.addChild { scan with pdrStates := scan.pdrStates ++ [ps] }

def SessionEstablishmentRequest.session (req : SessionEstablishmentRequest) :
    Except PfcpReject Session := do
  let cpSEID := req.cpFSEID.getD 0
  let scan ← req.createPDR.foldlM PDRScan.addPDR {}
  let (qers, pdrs) ← establishmentQoS req.createQER scan.pdrStates
  return { cpSEID := cpSEID, upSEID := cpSEID, ulTEID := scan.ulTEID, ueIP := scan.ueIP,
           ueIPv6 := scan.ueIPv6, qers := qers, pdrs := pdrs }

namespace Server

variable (s : Server)

def handleSessionEstablishment (req : SessionEstablishmentRequest) (now : Int64) :
    Response × Server :=
  let cpSEID := req.cpFSEID.getD 0
  match req.session with
  | .error rej => (⟨cpSEID, rej.cause, rej.ies⟩, s)
  | .ok sess =>
    let (sess, buckets) := sess.rebuildQoS s.cfg now s.buckets
    (⟨cpSEID, .requestAccepted, []⟩, { s with buckets := buckets }.store sess)

/-! ## Modification -/

def applyQoS (p : Ptr) (plan : ModPlan) (now : Int64) : Outcome Server := do
  let sess := s.heap.get p
  let (qers, pdrs) ← applyPlan sess.qers sess.pdrs plan
  let (sess, buckets) := { sess with qers := qers, pdrs := pdrs }.rebuildQoS s.cfg now s.buckets
  return { s with heap := s.heap.modify p fun _ => sess, buckets := buckets }

def applyActionFORW : UInt8 := 0x02

def applyAction (children : List IE) : Option UInt8 :=
  children.foldl (fun aa c => match c with | .applyAction (some v) => some v | _ => aa) none

def setTunnel (sess : Session) : IE → Session
  | .updateForwardingParameters (some ohc) =>
    match ohc.ipv4 with
    | some ip => { sess with dlTEID := ohc.teid, gnbIP := ip }
    | none => sess
  | _ => sess

def applyUpdateFAR (sess : Session) : Grouped → Session
  | none => sess
  | some children =>
    match applyAction children with
    | some aa =>
      if aa &&& applyActionFORW = 0 then { sess with dlTEID := 0, gnbIP := [] }
      else children.foldl setTunnel sess
    | none => children.foldl setTunnel sess

def handleSessionModification (req : SessionModificationRequest) (now : Int64) :
    Outcome (Response × Server) :=
  match s.bySEID.lookup req.seid with
  | none => .ok (⟨req.seid, .sessionContextNotFound, []⟩, s)
  | some p =>
    let cpSEID := (s.heap.get p).cpSEID
    match planModificationQoS (s.heap.get p).qers (s.heap.get p).pdrs req.rules with
    | .error rej => .ok (⟨cpSEID, rej.cause, rej.ies⟩, s)
    | .ok plan => do
      let s ← if plan.empty then .ok s else s.applyQoS p plan now
      let heap := s.heap.modify p fun sess => req.updateFAR.foldl applyUpdateFAR sess
      return (⟨cpSEID, .requestAccepted, []⟩, { s with heap := heap })

/-! ## Deletion -/

def handleSessionDeletion (upSEID : UInt64) : Response × Server :=
  match s.bySEID.lookup upSEID with
  | none => (⟨0, .sessionContextNotFound, []⟩, s)
  | some p =>
    let s := { s with heap := s.heap.modify p ({ · with qos := none }) }
    (⟨upSEID, .requestAccepted, []⟩, s.delete upSEID)

def dispatch : Request → Outcome (Response × Server)
  | .establishment req now => .ok (s.handleSessionEstablishment req now)
  | .modification req now => s.handleSessionModification req now
  | .deletion seid => .ok (s.handleSessionDeletion seid)

end Server

end Claudia5gc.Upf
