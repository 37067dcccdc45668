import Claudia5gc.Smf.Pools

/-!
# The SM contexts of the SMF

The session table, the secondary authentications that are pending and the address pools, with the
handlers that open and close an SM context: CreateSMContext, the AUTH COMPLETE of a secondary
authentication, DeleteSMContext, and the releases after a failure of the UPF.
-/

namespace Claudia5gc.Smf

open Go Outcome

variable {pool : IPPool} {dnn name : String}

/-- A reading of the clock, in nanoseconds. -/
abbrev Time := Int

/-! ## PDU session types -/

def pduSessionTypeIPv4 : UInt8 := 0x01
def pduSessionTypeIPv6 : UInt8 := 0x02
def pduSessionTypeIPv4v6 : UInt8 := 0x03

def selectPDUSessionType (requested : Option UInt8) (dnnSupportsV6 : Bool) : UInt8 :=
  match requested with
  | none => pduSessionTypeIPv4
  | some t =>
    if t = pduSessionTypeIPv6 then
      if dnnSupportsV6 then pduSessionTypeIPv6 else pduSessionTypeIPv4
    else if t = pduSessionTypeIPv4v6 then
      if dnnSupportsV6 then pduSessionTypeIPv4v6 else pduSessionTypeIPv4
    else pduSessionTypeIPv4

def pduTypeNeedsIPv4 (t : UInt8) : Bool := t = pduSessionTypeIPv4 ∨ t = pduSessionTypeIPv4v6

def pduTypeNeedsIPv6 (t : UInt8) : Bool := t = pduSessionTypeIPv6 ∨ t = pduSessionTypeIPv4v6

theorem needs_address (requested : Option UInt8) (v6 : Bool) :
    pduTypeNeedsIPv4 (selectPDUSessionType requested v6) = true ∨
      pduTypeNeedsIPv6 (selectPDUSessionType requested v6) = true := by
  unfold selectPDUSessionType
  split
  · decide
  · split
    · cases v6 <;> decide
    · split
      · cases v6 <;> decide
      · decide

/-! ## Sessions -/

inductive SessionState where
  | active
  | idle
  | releasing
  deriving DecidableEq

/-- `hoState`; it has no value before the first handover. -/
inductive HoState where
  | unset
  | none
  | preparing
  | prepared
  | completed
  deriving DecidableEq

structure SmPolicyQoS where
  fiveQI : UInt8 := 9
  ambrULMbps : Int := 0
  ambrDLMbps : Int := 0
  ambrULKbps : UInt64 := 0
  ambrDLKbps : UInt64 := 0
  deriving DecidableEq

structure Session where
  supi : String := ""
  pduSessionID : UInt8 := 0
  dnn : String := ""
  ueIP : Option Bytes := none
  ulTEID : UInt32 := 0
  seid : UInt64 := 0
  qos : SmPolicyQoS := {}
  state : SessionState := .active
  createdAt : Time := 0
  n4EstablishedAt : Option Time := none
  n4Stale : Bool := false
  pduSessionType : UInt8 := pduSessionTypeIPv4
  ueIPv6Prefix : Option Bytes := none
  hoTargetGNBIP : Bytes := []
  hoTargetDLTEID : UInt32 := 0
  hoState : HoState := .unset
  hoDirectForwarding : Bool := false
  hoTargetFailed : Bool := false
  hoReleaseOnDeactivate : Bool := false
  upSecurityRequired : Bool := false
  deriving DecidableEq

structure PendingSecondaryAuth where
  smContextRef : Nat
  supi : String
  dnn : String
  pduSessionID : UInt8
  grantedType : UInt8
  ipv4 : Option Bytes
  v6Prefix : Option Bytes
  ulTEID : UInt32
  seid : UInt64
  deriving DecidableEq

/-- A goroutine that was started, with what it was given. -/
inductive Task where
  | sendPFCPSessionEstablishment (sess : Ptr)
  | sendPFCPSessionModification (sess : Ptr) (dlTEID : UInt32) (gnbIP : Bytes)
  | sendPFCPSessionDeactivation (sess : Ptr)
  | sendPFCPSessionDeletion (sess : Ptr)
  | runTargetFailedAction (sess : Ptr) (release : Bool)
  deriving DecidableEq

structure Server where
  sessions : Map Nat Ptr := ∅
  heap : Heap Session := ⟨fun _ => {}, 0⟩
  ipPools : Map String IPPool
  ipv6Pools : Map String IPv6Pool
  secondaryAuthDNNs : List String := []
  pendingAuth : Map Nat PendingSecondaryAuth := ∅
  nextRef : Nat := 0
  nextSEID : UInt64 := 0
  nextTEID : UInt32 := 0
  tasks : List Task := []

inductive Answer where
  | created (smContextRef : Nat)
  | problem (status : Nat) (cause : String) (detail : Error)
  | noContent
  | ok
  deriving DecidableEq

namespace Server

/-! ## The pools -/

variable (s : Server)

def poolFor (dnn : String) : Option (String × IPPool) :=
  match s.ipPools.lookup dnn with
  | some pool => some (dnn, pool)
  | none => (s.ipPools.lookup "internet").map fun pool => ("internet", pool)

def setPool (name : String) (pool : IPPool) : Server :=
  { s with ipPools := s.ipPools.insert name pool }

def setIPv6Pool (dnn : String) (pool : IPv6Pool) : Server :=
  { s with ipv6Pools := s.ipv6Pools.insert dnn pool }

def releaseIPv4 (dnn : String) : Option Bytes → Server
  | none => s
  | some ip =>
    match s.poolFor dnn with
    | none => s
    | some (name, pool) => s.setPool name (pool.release ip)

def releaseIPv6 (dnn : String) : Option Bytes → Server
  | none => s
  | some net =>
    match s.ipv6Pools.lookup dnn with
    | none => s
    | some pool => s.setIPv6Pool dnn (pool.release net)

/-! ## CreateSMContext -/

structure CreateSMContext where
  supi : String := ""
  dnn : String
  pduSessionID : UInt8 := 1
  requestedType : Option UInt8 := none
  /-- What the UDM and the PCF make of the request. -/
  qos : SmPolicyQoS := {}
  /-- What the encoder of the N2 SM information returns. -/
  n2SmInfo : Except Error Bytes
  now : Time := 0

def allocateIPv4 (grantedType : UInt8) (name : String) (pool : IPPool) :
    Outcome (Except Error (Option Bytes × Server)) :=
  if pduTypeNeedsIPv4 grantedType then do
    match ← pool.allocate with
    | .error e => return .error e
    | .ok (ip, pool) => return .ok (some ip, s.setPool name pool)
  else return .ok (none, s)

def allocateIPv6 (grantedType : UInt8) (dnn : String) :
    Outcome (Except Error (Option Bytes × Server)) :=
  if pduTypeNeedsIPv6 grantedType then
    match s.ipv6Pools.lookup dnn with
    | none => .panic
    | some pool =>
      match pool.allocate with
      | .error e => return .error e
      | .ok (net, pool) => return .ok (some net, s.setIPv6Pool dnn pool)
  else return .ok (none, s)

variable (pending : PendingSecondaryAuth)

def startSecondaryAuth : Server :=
  { s with pendingAuth := s.pendingAuth.insert pending.smContextRef pending }

/-- A session goes into the table, and is established at the UPF when it has an address. -/
def addSession (ref : Nat) (sess : Session) : Server :=
  let (p, heap) := s.heap.new sess
  { s with
    heap := heap
    sessions := s.sessions.insert ref p
    tasks :=
      if sess.ueIP.isSome ∨ pduTypeNeedsIPv6 sess.pduSessionType then
        s.tasks ++ [.sendPFCPSessionEstablishment p]
      else s.tasks }

/-- The second half of `handleCreateSMContext`, when the addresses are reserved. -/
def openContext (req : CreateSMContext) (grantedType : UInt8)
    (ip v6Prefix : Option Bytes) : Answer × Server :=
  let ref := s.nextRef
  let ulTEID := s.nextTEID + 1
  let seid := s.nextSEID + 1
  let s := { s with nextRef := ref + 1, nextTEID := ulTEID, nextSEID := seid }
  if req.dnn ∈ s.secondaryAuthDNNs then
    (.created ref, s.startSecondaryAuth
      { smContextRef := ref, supi := req.supi, dnn := req.dnn, pduSessionID := req.pduSessionID,
        grantedType := grantedType, ipv4 := ip, v6Prefix := v6Prefix, ulTEID := ulTEID,
        seid := seid })
  else
    match req.n2SmInfo with
    | .error e => (.problem 500 "SYSTEM_FAILURE" e, s)
    | .ok _ =>
      (.created ref, s.addSession ref
        { supi := req.supi, pduSessionID := req.pduSessionID, dnn := req.dnn, ueIP := ip,
          ulTEID := ulTEID, seid := seid, qos := req.qos, state := .active,
          createdAt := req.now, pduSessionType := grantedType, ueIPv6Prefix := v6Prefix })

def handleCreateSMContext (req : CreateSMContext) : Outcome (Answer × Server) :=
  match s.poolFor req.dnn with
  | none => return (.problem 422 "DNN_NOT_SERVED"
      (.new ("DNN " ++ req.dnn.quote ++ " not served by this SMF")), s)
  | some (name, pool) => do
    let grantedType :=
      selectPDUSessionType req.requestedType (s.ipv6Pools.lookup req.dnn).isSome
    match ← s.allocateIPv4 grantedType name pool with
    | .error e => return (.problem 500 "SYSTEM_FAILURE" e, s)
    | .ok (ip, s) =>
      match ← s.allocateIPv6 grantedType req.dnn with
      | .error e => return (.problem 500 "SYSTEM_FAILURE" e, s.releaseIPv4 req.dnn ip)
      | .ok (v6Prefix, s) => return s.openContext req grantedType ip v6Prefix

/-! ## Secondary authentication -/

/-- What the DN-AAA server answers: the code of its EAP packet, or an error. -/
inductive AAAResult where
  | unreachable
  | success
  | failure
  deriving DecidableEq

def getPendingAuth (ref : Nat) : Option PendingSecondaryAuth :=
  s.pendingAuth.lookup ref

def deletePendingAuth (ref : Nat) : Server :=
  { s with pendingAuth := s.pendingAuth.erase ref }

def completeSecondaryAuth (qos : SmPolicyQoS) (now : Time) : Server :=
  let s := s.deletePendingAuth pending.smContextRef
  s.addSession pending.smContextRef
    { supi := pending.supi, pduSessionID := pending.pduSessionID, dnn := pending.dnn,
      ueIP := pending.ipv4, ulTEID := pending.ulTEID, seid := pending.seid, qos := qos,
      state := .active, createdAt := now, pduSessionType := pending.grantedType,
      ueIPv6Prefix := pending.v6Prefix }

def rejectSecondaryAuth : Server :=
  let s := s.deletePendingAuth pending.smContextRef
  let s := { s with sessions := s.sessions.erase pending.smContextRef }
  let s := s.releaseIPv4 pending.dnn pending.ipv4
  s.releaseIPv6 pending.dnn pending.v6Prefix

def concludeSecondaryAuth (aaa : AAAResult) (qos : SmPolicyQoS) (now : Time) : Server :=
  match aaa with
  | .success => s.completeSecondaryAuth pending qos now
  | .unreachable | .failure => s.rejectSecondaryAuth pending

structure AuthComplete where
  smContextRef : Nat
  /-- What is wrong with the EAP message of the UE, if anything is. -/
  malformed : Option Error := none
  aaa : AAAResult
  qos : SmPolicyQoS := {}
  now : Time := 0

def handleSecondaryAuthComplete (req : AuthComplete) : Answer × Server :=
  match req.malformed with
  | some e => (.problem 400 "INVALID_MANDATORY_INFORMATION" e, s)
  | none =>
    match s.getPendingAuth req.smContextRef with
    | none => (.problem 404 "CONTEXT_NOT_FOUND"
        (.new "no pending secondary authentication for this sm context"), s)
    | some pending => (.ok, s.concludeSecondaryAuth pending req.aaa req.qos req.now)

/-! ## Releases -/

def releaseSessionLocal (ref : Nat) (p : Ptr) (sendN4 : Bool) : Bool × Server :=
  if s.sessions.lookup ref ≠ some p then (false, s)
  else
    let sess := s.heap.get p
    let s := s.releaseIPv4 sess.dnn sess.ueIP
    let s := s.releaseIPv6 sess.dnn sess.ueIPv6Prefix
    (true, { s with
      sessions := s.sessions.erase ref
      tasks := if sendN4 ∧ ¬ sess.n4Stale then s.tasks ++ [.sendPFCPSessionDeletion p]
        else s.tasks })

def handleDeleteSMContext (ref : Nat) : Answer × Server :=
  match s.sessions.lookup ref with
  | some p => (.noContent, (s.releaseSessionLocal ref p true).2)
  | none => (.noContent, s)

/-! ## The failure of the UPF -/

structure ReleaseTarget where
  ref : Nat
  sess : Ptr
  deriving DecidableEq

def affected (cutoff : Time) (all : Bool) (sess : Session) : Bool :=
  sess.state ≠ .releasing ∧ (all ∨ sess.n4EstablishedAt.getD sess.createdAt < cutoff)

def markReleasing (cutoff : Time) (all n4Stale : Bool) (sess : Session) : Session :=
  if affected cutoff all sess then
    { sess with state := .releasing, n4Stale := if n4Stale then true else sess.n4Stale }
  else sess

def markSessionsReleasing (cutoff : Time) (all n4Stale : Bool) : List ReleaseTarget × Server :=
  let targets := s.sessions.entries.filter fun e => affected cutoff all (s.heap.get e.2)
  let heap := s.sessions.entries.foldl
    (fun heap e => heap.modify e.2 (markReleasing cutoff all n4Stale)) s.heap
  (targets.map fun e => ⟨e.1, e.2⟩, { s with heap := heap })

def releaseOne (t : ReleaseTarget) (accepted : Bool) : Server :=
  if accepted then s else (s.releaseSessionLocal t.ref t.sess true).2

/-- The timer of `startReleaseGuard` goes off. -/
def releaseGuardExpired (t : ReleaseTarget) : Server :=
  if s.sessions.lookup t.ref = some t.sess ∧ (s.heap.get t.sess).state = .releasing then
    (s.releaseSessionLocal t.ref t.sess true).2
  else s

/-! ## What the handlers do -/

section Cases

variable {s s' : Server} {t : UInt8} {req : CreateSMContext} {answer : Answer}

theorem allocateIPv4_eq_ok {ip : Option Bytes}
    (h : s.allocateIPv4 t name pool = .ok (.ok (ip, s'))) :
    (pduTypeNeedsIPv4 t = false ∧ ip = none ∧ s' = s) ∨ pduTypeNeedsIPv4 t = true ∧ ∃ a pool',
      pool.allocate = .ok (.ok (a, pool')) ∧ ip = some a ∧ s' = s.setPool name pool' := by
  unfold allocateIPv4 at h
  split_ifs at h with hneeds
  · obtain ⟨result, hresult, h⟩ := bind_eq_ok.1 h
    cases result with
    | error e => exact absurd (ok.inj h) (by simp)
    | ok r =>
      obtain ⟨rfl, rfl⟩ := Prod.mk.inj (Except.ok.inj (ok.inj h))
      exact .inr ⟨hneeds, r.1, r.2, hresult, rfl, rfl⟩
  · obtain ⟨rfl, rfl⟩ := Prod.mk.inj (Except.ok.inj (ok.inj h))
    exact .inl ⟨by simpa using hneeds, rfl, rfl⟩

theorem allocateIPv6_eq_ok {net : Option Bytes} (h : s.allocateIPv6 t dnn = .ok (.ok (net, s'))) :
    (pduTypeNeedsIPv6 t = false ∧ net = none ∧ s' = s) ∨ pduTypeNeedsIPv6 t = true ∧
      ∃ pool a pool', s.ipv6Pools.lookup dnn = some pool ∧ pool.allocate = .ok (a, pool') ∧
        net = some a ∧ s' = s.setIPv6Pool dnn pool' := by
  unfold allocateIPv6 at h
  split_ifs at h with hneeds
  · split at h
    · cases h
    · rename_i pool hlookup
      split at h
      · exact absurd (ok.inj h) (by simp)
      · rename_i a pool' halloc
        obtain ⟨rfl, rfl⟩ := Prod.mk.inj (Except.ok.inj (ok.inj h))
        exact .inr ⟨hneeds, pool, a, pool', hlookup, halloc, rfl, rfl⟩
  · obtain ⟨rfl, rfl⟩ := Prod.mk.inj (Except.ok.inj (ok.inj h))
    exact .inl ⟨by simpa using hneeds, rfl, rfl⟩

/-- Nothing is left of the request, or the addresses are reserved and the context is opened. -/
theorem handleCreateSMContext_eq_ok (h : s.handleCreateSMContext req = .ok (answer, s')) :
    s' = s ∨ ∃ name pool t ip s₁, s.poolFor req.dnn = some (name, pool) ∧
      (∃ v6, t = selectPDUSessionType req.requestedType v6) ∧
      s.allocateIPv4 t name pool = .ok (.ok (ip, s₁)) ∧ (s' = s₁.releaseIPv4 req.dnn ip ∨ ∃ net s₂,
        s₁.allocateIPv6 t req.dnn = .ok (.ok (net, s₂)) ∧
          (answer, s') = s₂.openContext req t ip net) := by
  unfold handleCreateSMContext at h
  split at h
  · exact .inl (Prod.mk.inj (ok.inj h)).2.symm
  · rename_i name pool hpool
    obtain ⟨first, hfirst, h⟩ := bind_eq_ok.1 h
    cases first with
    | error e => exact .inl (Prod.mk.inj (ok.inj h)).2.symm
    | ok r =>
      obtain ⟨second, hsecond, h⟩ := bind_eq_ok.1 h
      refine .inr ⟨name, pool, _, r.1, r.2, hpool, ⟨_, rfl⟩, hfirst, ?_⟩
      cases second with
      | error e => exact .inl (Prod.mk.inj (ok.inj h)).2.symm
      | ok r' => exact .inr ⟨r'.1, r'.2, hsecond, (ok.inj h).symm⟩

end Cases

/-! ## Only the pools -/

def OnlyPools (s s' : Server) : Prop :=
  s' = { s with ipPools := s'.ipPools, ipv6Pools := s'.ipv6Pools }

def IPv4Pools (s : Server) : Prop :=
  ∀ name pool, s.ipPools.lookup name = some pool → pool.network.length = 4

section OnlyPools

variable {s s' s'' : Server}

theorem OnlyPools.refl (s : Server) : OnlyPools s s := rfl

theorem OnlyPools.trans (h : OnlyPools s s') (h' : OnlyPools s' s'') : OnlyPools s s'' := by
  unfold OnlyPools at *
  rw [h', h]

theorem poolFor_lookup (h : s.poolFor dnn = some (name, pool)) :
    s.ipPools.lookup name = some pool := by
  unfold poolFor at h
  split at h
  · rename_i hown
    obtain ⟨rfl, rfl⟩ := Prod.mk.inj (Option.some.inj h)
    exact hown
  · obtain ⟨pool', hpool', h⟩ := Option.map_eq_some_iff.1 h
    obtain ⟨rfl, rfl⟩ := Prod.mk.inj h
    exact hpool'

theorem IPv4Pools.setPool (h : s.IPv4Pools) {pool' : IPPool}
    (hlookup : s.ipPools.lookup name = some pool) (hsubnet : pool'.subnet = pool.subnet) :
    (s.setPool name pool').IPv4Pools := by
  intro n q hq
  rcases Map.lookup_insert_eq_some.1 hq with ⟨_, rfl⟩ | ⟨_, hq⟩
  · have hlen := h name pool hlookup
    rwa [IPPool.network, ← hsubnet] at hlen
  · exact h n q hq

theorem onlyPools_releaseIPv4 (s : Server) (dnn : String) (ip : Option Bytes) :
    OnlyPools s (s.releaseIPv4 dnn ip) ∧ (s.IPv4Pools → (s.releaseIPv4 dnn ip).IPv4Pools) := by
  cases ip with
  | none => exact ⟨rfl, id⟩
  | some ip =>
    unfold releaseIPv4
    cases hpool : s.poolFor dnn with
    | none => exact ⟨rfl, id⟩
    | some found => exact ⟨rfl, fun h => h.setPool (poolFor_lookup hpool) rfl⟩

theorem onlyPools_releaseIPv6 (s : Server) (dnn : String) (net : Option Bytes) :
    OnlyPools s (s.releaseIPv6 dnn net) ∧ (s.IPv4Pools → (s.releaseIPv6 dnn net).IPv4Pools) := by
  cases net with
  | none => exact ⟨rfl, id⟩
  | some net =>
    unfold releaseIPv6
    cases s.ipv6Pools.lookup dnn with
    | none | some pool => exact ⟨rfl, id⟩

theorem onlyPools_release (s : Server) (dnn : String) (ip net : Option Bytes) :
    OnlyPools s ((s.releaseIPv4 dnn ip).releaseIPv6 dnn net) ∧
      (s.IPv4Pools → ((s.releaseIPv4 dnn ip).releaseIPv6 dnn net).IPv4Pools) := by
  obtain ⟨hback, hpools⟩ := onlyPools_releaseIPv4 s dnn ip
  obtain ⟨hback6, hpools6⟩ := onlyPools_releaseIPv6 (s.releaseIPv4 dnn ip) dnn net
  exact ⟨hback.trans hback6, hpools6 ∘ hpools⟩

theorem onlyPools_allocateIPv4 {t : UInt8} {ip : Option Bytes}
    (hpool : s.poolFor dnn = some (name, pool))
    (h : s.allocateIPv4 t name pool = .ok (.ok (ip, s'))) :
    OnlyPools s s' ∧ ip.isSome = pduTypeNeedsIPv4 t ∧
      (s.IPv4Pools → s'.IPv4Pools ∧ ∀ a, ip = some a → a.length = 4) := by
  have hlookup := poolFor_lookup hpool
  rcases allocateIPv4_eq_ok h with ⟨hneeds, rfl, rfl⟩ | ⟨hneeds, a, pool', hresult, rfl, rfl⟩
  · exact ⟨rfl, hneeds.symm, fun hs => ⟨hs, nofun⟩⟩
  · obtain ⟨_, _, hlen, hsubnet⟩ := IPPool.allocate_eq_ok hresult
    refine ⟨rfl, hneeds.symm, fun hs => ⟨hs.setPool hlookup hsubnet, ?_⟩⟩
    rintro _ ⟨⟩
    rw [hlen, hs name pool hlookup]

theorem onlyPools_allocateIPv6 {t : UInt8} {net : Option Bytes}
    (h : s.allocateIPv6 t dnn = .ok (.ok (net, s'))) :
    OnlyPools s s' ∧ net.isSome = pduTypeNeedsIPv6 t ∧ (s.IPv4Pools → s'.IPv4Pools) ∧
      ∀ a, net = some a → a.length = 16 := by
  rcases allocateIPv6_eq_ok h with ⟨hneeds, rfl, rfl⟩ | ⟨hneeds, _, a, pool', _, halloc, rfl, rfl⟩
  · exact ⟨rfl, hneeds.symm, id, nofun⟩
  · refine ⟨rfl, hneeds.symm, id, ?_⟩
    rintro _ ⟨⟩
    exact (IPv6Pool.allocate_eq_ok halloc).2.2

end OnlyPools

end Server

end Claudia5gc.Smf
