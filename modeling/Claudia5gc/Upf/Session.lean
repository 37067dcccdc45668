import Claudia5gc.Upf.Rules

/-!
# PFCP sessions and the enforcement of their rules

A session carries its rules and a snapshot of them that the packet path reads.  The snapshot holds,
for each direction, whether a gate is closed and the buckets that a packet has to pass.
-/

namespace Claudia5gc.Upf

open Go

inductive DropReason where
  | dropNone | dropGateClosed | dropMBRExceeded
  deriving DecidableEq

/-- `QoSConfig` without its clock, whose readings are given with each call. -/
structure QoSConfig where
  mbrDisabled : Bool := false
  burstMs : Int64 := 0
  deriving DecidableEq

def QoSConfig.normalized (c : QoSConfig) : QoSConfig :=
  { c with burstMs := clampBurstMs c.burstMs }

structure DirView where
  gateClosed : Bool := false
  buckets : List Ptr := []
  deriving DecidableEq

structure PDRView where
  ul : DirView := {}
  dl : DirView := {}
  deriving DecidableEq

structure QoSView where
  ul : DirView := {}
  dl : DirView := {}
  byPDR : Map UInt16 PDRView := ∅
  dlQFI : UInt8 := 0
  hasQFI : Bool := false

structure Session where
  cpSEID : UInt64
  upSEID : UInt64
  ulTEID : UInt32 := 0
  ueIP : Bytes := []
  ueIPv6 : Bytes := []
  gnbIP : Bytes := []
  dlTEID : UInt32 := 0
  qers : Map UInt32 QERState := ∅
  pdrs : Map UInt16 PDRState := ∅
  qos : Option QoSView := none

/-! ## The snapshot -/

/-- The rate to police, zero for none. -/
def QERRule.effectiveKbps (q : QERRule) (ul : Bool) (cfg : QoSConfig) : UInt64 :=
  if cfg.mbrDisabled || !q.hasMBR then 0
  else
    let k := if ul then q.mbrULKbps else q.mbrDLKbps
    if k = 0 || k ≥ unlimitedKbps then 0 else k

/-- The bucket of a QER after a change of its rules. -/
def reconcileBucket (b : Option Ptr) (want : UInt64) (cfg : QoSConfig) (now : Int64)
    (buckets : Heap Bucket) : Option Ptr × Heap Bucket :=
  if want = 0 then (none, buckets)
  else
    match b with
    | none =>
      let (p, buckets) := buckets.new (Bucket.new want cfg.burstMs now)
      (some p, buckets)
    | some p =>
      if (buckets.get p).rate ≠ want then (some p, buckets.modify p (·.changeRate want now))
      else (some p, buckets)

def QERState.reconcile (q : QERState) (cfg : QoSConfig) (now : Int64) (buckets : Heap Bucket) :
    QERState × Heap Bucket :=
  let (ul, buckets) :=
    reconcileBucket q.ulBucket (q.effectiveKbps true cfg) cfg now buckets
  let (dl, buckets) :=
    reconcileBucket q.dlBucket (q.effectiveKbps false cfg) cfg now buckets
  ({ q with ulBucket := ul, dlBucket := dl }, buckets)

/-- The loop of `buildQoSView` over the QERs. -/
def reconcileQERs (cfg : QoSConfig) (now : Int64) (qers : Map UInt32 QERState)
    (buckets : Heap Bucket) : Map UInt32 QERState × Heap Bucket :=
  qers.keys.foldl (fun s id =>
    match s.1.lookup id with
    | some q =>
      let (q, buckets) := q.reconcile cfg now s.2
      (s.1.insert id q, buckets)
    | none => s) (qers, buckets)

/-- One turn of the loop of `reconcileQERs`. -/
def reconcileStep (cfg : QoSConfig) (now : Int64) (s : Map UInt32 QERState × Heap Bucket)
    (id : UInt32) : Map UInt32 QERState × Heap Bucket :=
  match s.1.lookup id with
  | some q =>
    let (q, buckets) := q.reconcile cfg now s.2
    (s.1.insert id q, buckets)
  | none => s

/-- The PDR with the lower precedence value; PDR IDs break ties. -/
def lowerPrecedence (cur : Option PDRState) (p : PDRState) : PDRState :=
  match cur with
  | none => p
  | some cur =>
    if p.precedence < cur.precedence ∨ (p.precedence = cur.precedence ∧ p.pdrID < cur.pdrID) then p
    else cur

variable (qers : Map UInt32 QERState)

/-- The QERs of a PDR in the order of their evaluation: those with a QFI first. -/
def orderedQERs (p : PDRState) : List QERState :=
  let known := p.qerIDs.filterMap fun id => qers.lookup id
  known.filter (·.hasQFI) ++ known.filter fun q => !q.hasQFI

def firstQFI (p : PDRState) : UInt8 × Bool :=
  match (orderedQERs qers p).find? (·.hasQFI) with
  | some q => (q.qfi, true)
  | none => (0, false)

def PDRView.addQER (pv : PDRView) (q : QERState) : PDRView where
  ul := {
    gateClosed := pv.ul.gateClosed || q.gateUL == gateClosed
    buckets := pv.ul.buckets ++ q.ulBucket.toList }
  dl := {
    gateClosed := pv.dl.gateClosed || q.gateDL == gateClosed
    buckets := pv.dl.buckets ++ q.dlBucket.toList }

def buildPDRView (p : PDRState) : PDRView :=
  (orderedQERs qers p).foldl PDRView.addQER {}

def mapValues {κ ν : Type} (m : Map κ ν) : List ν := m.entries.map Sigma.snd

def bestPDR (core : Bool) (pdrs : Map UInt16 PDRState) : Option PDRState :=
  ((mapValues pdrs).filter fun p => (p.sourceInterface == srcInterfaceCore) == core).foldl
    (fun cur p => some (lowerPrecedence cur p)) none

/-- The snapshot of rules whose buckets are in order. -/
def snapshot (pdrs : Map UInt16 PDRState) : QoSView :=
  let byPDR : Map UInt16 PDRView :=
    (mapValues pdrs).foldl (fun m p => m.insert p.pdrID (buildPDRView qers p)) ∅
  let v : QoSView := { byPDR := byPDR }
  let v :=
    match bestPDR false pdrs with
    | some accessPDR =>
      let pv := (byPDR.lookup accessPDR.pdrID).getD {}
      let qfi := firstQFI qers accessPDR
      { v with ul := pv.ul, dl := pv.dl, dlQFI := qfi.1, hasQFI := qfi.2 }
    | none => v
  match bestPDR true pdrs with
  | some corePDR =>
    -- a PDR of the core side governs the downlink
    let v := { v with dl := ((byPDR.lookup corePDR.pdrID).getD {}).dl }
    let qfi := firstQFI qers corePDR
    if qfi.2 then { v with dlQFI := qfi.1, hasQFI := true } else v
  | none => v

variable (s : Session)

def Session.rebuildQoS (cfg : QoSConfig) (now : Int64) (buckets : Heap Bucket) :
    Session × Heap Bucket :=
  let cfg := cfg.normalized
  if s.qers.keys.length = 0 ∧ s.pdrs.keys.length = 0 then ({ s with qos := none }, buckets)
  else
    let (qers, buckets) := reconcileQERs cfg now s.qers buckets
    ({ s with qers := qers, qos := some (snapshot qers s.pdrs) }, buckets)

/-! ## Packets -/

def admitBuckets (n now : Int64) (prev : List Ptr) : List Ptr → Heap Bucket → Bool × Heap Bucket
  | [], buckets => (true, buckets)
  | b :: bs, buckets =>
    let (ok, cell) := (buckets.get b).admits n now
    let buckets := buckets.modify b fun _ => cell
    if ok then admitBuckets n now (prev ++ [b]) bs buckets
    else (false, prev.foldl (fun h p => h.modify p (·.refund n)) buckets)

def DirView.admits (d : DirView) (n now : Int64) (buckets : Heap Bucket) :
    (Bool × DropReason) × Heap Bucket :=
  if d.gateClosed then ((false, .dropGateClosed), buckets)
  else
    match d.buckets with
    | [] => ((true, .dropNone), buckets)
    | [b] =>
      let (ok, cell) := (buckets.get b).admits n now
      let buckets := buckets.modify b fun _ => cell
      if ok then ((true, .dropNone), buckets) else ((false, .dropMBRExceeded), buckets)
    | bs =>
      let (ok, buckets) := admitBuckets n now [] bs buckets
      if ok then ((true, .dropNone), buckets) else ((false, .dropMBRExceeded), buckets)

/-- A packet against the part of the snapshot that `view` picks. -/
def Session.admitThrough (view : QoSView → Option DirView) (n now : Int64)
    (buckets : Heap Bucket) : (Bool × DropReason) × Heap Bucket :=
  match s.qos.bind view with
  | none => ((true, .dropNone), buckets)
  | some d => d.admits n now buckets

def Session.admitUL : Int64 → Int64 → Heap Bucket → (Bool × DropReason) × Heap Bucket :=
  s.admitThrough fun v => some v.ul

def Session.admitDL : Int64 → Int64 → Heap Bucket → (Bool × DropReason) × Heap Bucket :=
  s.admitThrough fun v => some v.dl

def Session.admitULForPDR (pdrID : UInt16) : Int64 → Int64 → Heap Bucket →
    (Bool × DropReason) × Heap Bucket :=
  s.admitThrough fun v => (v.byPDR.lookup pdrID).map PDRView.ul

def Session.admitDLForPDR (pdrID : UInt16) : Int64 → Int64 → Heap Bucket →
    (Bool × DropReason) × Heap Bucket :=
  s.admitThrough fun v => (v.byPDR.lookup pdrID).map PDRView.dl

def Session.dlQFI : UInt8 :=
  match s.qos with
  | some v => v.dlQFI
  | none => 0

end Claudia5gc.Upf
