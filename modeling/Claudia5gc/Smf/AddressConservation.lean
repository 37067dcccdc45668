import Claudia5gc.Leases
import Claudia5gc.Smf.Server

/-!
# The addresses of the SMF

Over every sequence of requests and of releases after a failure of the UPF, the addresses that a
pool counts as taken should be those that a session or a pending secondary authentication has.
-/

namespace Claudia5gc.Smf

open Go Function Server Outcome AList Leases Option Nat Map

variable {ref : Nat} {pending : PendingSecondaryAuth} {s : Server} {t : UInt8}
  {req : CreateSMContext} {answer : Answer}
open Leases (Balanced)

/-- Who can have an address: an SM context with a session, or one that waits for its secondary
authentication. -/
inductive Holder where
  | session (ref : Nat)
  | pending (ref : Nat)
  deriving DecidableEq

def Session.addresses (sess : Session) : String × Option Bytes × Option Bytes :=
  (sess.dnn, sess.ueIP, sess.ueIPv6Prefix)

namespace Server

def poolName (s : Server) (dnn : String) : Option String := (s.poolFor dnn).map Prod.fst

/-- An address together with the pool for the DNN. -/
def leaseIPv4 (s : Server) (dnn : String) (ip : Option Bytes) : Option (String × Bytes) :=
  ip.bind fun ip => (s.poolName dnn).map fun name => (name, ip)

def leaseIPv6 (dnn : String) (net : Option Bytes) : Option (String × Bytes) :=
  net.map fun net => (dnn, net)

def heldIPv4 (s : Server) : Holder → Option (String × Bytes)
  | .session ref => (s.sessions.lookup ref).bind fun p =>
      s.leaseIPv4 (s.heap.get p).addresses.1 (s.heap.get p).addresses.2.1
  | .pending ref => (s.pendingAuth.lookup ref).bind fun pending =>
      s.leaseIPv4 pending.dnn pending.ipv4

def heldIPv6 (s : Server) : Holder → Option (String × Bytes)
  | .session ref => (s.sessions.lookup ref).bind fun p =>
      leaseIPv6 (s.heap.get p).addresses.1 (s.heap.get p).addresses.2.2
  | .pending ref => (s.pendingAuth.lookup ref).bind fun pending =>
      leaseIPv6 pending.dnn pending.v6Prefix

def takenIPv4 (s : Server) : Set (String × Bytes) := taken IPPool.Out s.ipPools

def takenIPv6 (s : Server) : Set (String × Bytes) := taken IPv6Pool.Out s.ipv6Pools

/-! ## Pools that change

Handing an address out, or taking one back, concerns one pool and no holder.
-/

structure SameHolders (s s' : Server) : Prop where
  sessions : s'.sessions = s.sessions
  next : s'.heap.next = s.heap.next
  addresses : ∀ p, (s'.heap.get p).addresses = (s.heap.get p).addresses
  pendingAuth : s'.pendingAuth = s.pendingAuth
  nextRef : s'.nextRef = s.nextRef
  poolName : s'.poolName = s.poolName

section Pools

variable {s s' s'' : Server} {name dnn : String} {pool pool' : IPPool} {v6pool : IPv6Pool}

theorem SameHolders.refl (s : Server) : SameHolders s s :=
  ⟨rfl, rfl, fun _ => rfl, rfl, rfl, rfl⟩

section

variable (h : SameHolders s s')
include h

theorem SameHolders.trans (h' : SameHolders s' s'') : SameHolders s s'' :=
  ⟨h'.sessions.trans h.sessions, h'.next.trans h.next,
    fun p => (h'.addresses p).trans (h.addresses p), h'.pendingAuth.trans h.pendingAuth,
    h'.nextRef.trans h.nextRef, h'.poolName.trans h.poolName⟩

theorem SameHolders.leaseIPv4 : s'.leaseIPv4 = s.leaseIPv4 := by
  funext dnn ip
  rw [Server.leaseIPv4, Server.leaseIPv4, h.poolName]

theorem SameHolders.heldIPv4 : s'.heldIPv4 = s.heldIPv4 := by
  funext i
  cases i with
  | session ref =>
    simp only [Server.heldIPv4, h.sessions, h.addresses, h.leaseIPv4]
  | pending ref => rw [Server.heldIPv4, Server.heldIPv4, h.pendingAuth, h.leaseIPv4]

theorem SameHolders.heldIPv6 : s'.heldIPv6 = s.heldIPv6 := by
  funext i
  cases i with
  | session ref => simp only [Server.heldIPv6, h.sessions, h.addresses]
  | pending ref => rw [Server.heldIPv6, Server.heldIPv6, h.pendingAuth]

end

theorem poolFor_eq_some (h : s.poolFor dnn = some (name, pool)) :
    s.ipPools.lookup name = some pool ∧ s.poolName dnn = some name :=
  ⟨poolFor_lookup h, by rw [poolName, h]; rfl⟩

theorem poolName_eq (s : Server) (dnn : String) : s.poolName dnn =
    if (s.ipPools.lookup dnn).isSome then some dnn
    else if (s.ipPools.lookup "internet").isSome then some "internet" else none := by
  unfold poolName poolFor
  cases s.ipPools.lookup dnn with
  | some _ => rfl
  | none => cases s.ipPools.lookup "internet" <;> rfl

theorem sameHolders_setPool (h : s.ipPools.lookup name = some pool) (pool' : IPPool) :
    SameHolders s (s.setPool name pool') := by
  have hlookup : ∀ n, ((s.setPool name pool').ipPools.lookup n).isSome =
      (s.ipPools.lookup n).isSome := by
    intro n
    by_cases hn : n = name
    · subst hn
      simp [setPool, h]
    · simp [setPool, lookup_insert_ne hn]
  refine ⟨rfl, rfl, fun _ => rfl, rfl, rfl, funext fun dnn => ?_⟩
  rw [poolName_eq, poolName_eq, hlookup, hlookup]

structure Reserves (s s' : Server) (x4 x6 : Option (String × Bytes)) : Prop where
  holders : SameHolders s s'
  secondaryAuthDNNs : s'.secondaryAuthDNNs = s.secondaryAuthDNNs
  free4 : ∀ r, x4 = some r → r ∉ s.takenIPv4
  free6 : ∀ r, x6 = some r → r ∉ s.takenIPv6
  taken4 : s'.takenIPv4 = {r | x4 = some r ∨ r ∈ s.takenIPv4}
  taken6 : s'.takenIPv6 = {r | x6 = some r ∨ r ∈ s.takenIPv6}

theorem Reserves.refl (s : Server) : Reserves s s none none := by
  refine ⟨SameHolders.refl s, rfl, nofun, nofun, ?_, ?_⟩ <;> simp

theorem Reserves.and {x4 x6 : Option (String × Bytes)} (h : Reserves s s' x4 none)
    (h' : Reserves s' s'' none x6) : Reserves s s'' x4 x6 := by
  have htaken6 : s'.takenIPv6 = s.takenIPv6 := by simpa using h.taken6
  have htaken4 : s''.takenIPv4 = s'.takenIPv4 := by simpa using h'.taken4
  refine ⟨h.holders.trans h'.holders, h'.secondaryAuthDNNs.trans h.secondaryAuthDNNs, h.free4,
    ?_, htaken4.trans h.taken4, ?_⟩
  · rw [← htaken6]
    exact h'.free6
  · rw [← htaken6]
    exact h'.taken6

theorem reserves_allocateIPv4 {ip : Option Bytes} (hpool : s.poolFor dnn = some (name, pool))
    (h : s.allocateIPv4 t name pool = .ok (.ok (ip, s'))) :
    Reserves s s' (s.leaseIPv4 dnn ip) none := by
  obtain ⟨hlookup, hname⟩ := poolFor_eq_some hpool
  rcases allocateIPv4_eq_ok h with ⟨-, rfl, rfl⟩ | ⟨-, ip, pool', hresult, rfl, rfl⟩
  · exact Reserves.refl s'
  · obtain ⟨hfree, hout, _, _⟩ := IPPool.allocate_eq_ok hresult
    have hlease : s.leaseIPv4 dnn (some ip) = some (name, ip) := by
      simp [leaseIPv4, hname]
    rw [hlease]
    refine ⟨sameHolders_setPool hlookup _, rfl, ?_, nofun,
      taken_insert_of_grant hlookup hout, by simp; rfl⟩
    rintro _ ⟨⟩
    rwa [takenIPv4, mem_taken hlookup]

theorem reserves_allocateIPv6 {net : Option Bytes}
    (h : s.allocateIPv6 t dnn = .ok (.ok (net, s'))) : Reserves s s' none (leaseIPv6 dnn net) := by
  rcases allocateIPv6_eq_ok h with ⟨-, rfl, rfl⟩ | ⟨-, pool, net, pool', hlookup, halloc, rfl, rfl⟩
  · exact Reserves.refl s'
  · obtain ⟨hfree, hout, _⟩ := IPv6Pool.allocate_eq_ok halloc
    refine ⟨⟨rfl, rfl, fun _ => rfl, rfl, rfl, rfl⟩, rfl, nofun, ?_, by simp; rfl,
      taken_insert_of_grant hlookup hout⟩
    rintro _ ⟨⟩
    rwa [takenIPv6, mem_taken hlookup]

structure GivesBack (s s' : Server) (x4 x6 : Option (String × Bytes)) : Prop where
  holders : SameHolders s s'
  taken4 : s'.takenIPv4 = {r | r ∈ s.takenIPv4 ∧ x4 ≠ some r}
  taken6 : s'.takenIPv6 = {r | r ∈ s.takenIPv6 ∧ x6 ≠ some r}

theorem GivesBack.refl (s : Server) : GivesBack s s none none := by
  refine ⟨SameHolders.refl s, ?_, ?_⟩ <;> simp

theorem GivesBack.and {x4 x6 : Option (String × Bytes)} (h : GivesBack s s' x4 none)
    (h' : GivesBack s' s'' none x6) : GivesBack s s'' x4 x6 := by
  have htaken6 : s'.takenIPv6 = s.takenIPv6 := by simpa using h.taken6
  have htaken4 : s''.takenIPv4 = s'.takenIPv4 := by simpa using h'.taken4
  refine ⟨h.holders.trans h'.holders, htaken4.trans h.taken4, ?_⟩
  rw [← htaken6]
  exact h'.taken6

theorem givesBack_releaseIPv4 (s : Server) (dnn : String) (ip : Option Bytes) :
    GivesBack s (s.releaseIPv4 dnn ip) (s.leaseIPv4 dnn ip) none := by
  cases ip with
  | none => exact GivesBack.refl s
  | some ip =>
    cases hpool : s.poolFor dnn with
    | none =>
      have hlease : s.leaseIPv4 dnn (some ip) = none := by
        simp [leaseIPv4, poolName, hpool]
      rw [releaseIPv4, hpool, hlease]
      exact GivesBack.refl s
    | some found =>
      obtain ⟨name, pool⟩ := found
      obtain ⟨hlookup, hname⟩ := poolFor_eq_some hpool
      have hlease : s.leaseIPv4 dnn (some ip) = some (name, ip) := by
        simp [leaseIPv4, hname]
      rw [releaseIPv4, hpool, hlease]
      exact ⟨sameHolders_setPool hlookup _,
        taken_insert_of_giveBack hlookup (IPPool.out_release pool ip), by simp; rfl⟩

theorem givesBack_releaseIPv6 (s : Server) (dnn : String) (net : Option Bytes)
    (h : ∀ r, leaseIPv6 dnn net = some r → r ∈ s.takenIPv6) :
    GivesBack s (s.releaseIPv6 dnn net) none (leaseIPv6 dnn net) := by
  cases net with
  | none => exact GivesBack.refl s
  | some net =>
    obtain ⟨pool, hlookup, hout⟩ := h (dnn, net) rfl
    rw [releaseIPv6, hlookup]
    exact ⟨⟨rfl, rfl, fun _ => rfl, rfl, rfl, rfl⟩, by simp; rfl,
      taken_insert_of_giveBack hlookup (IPv6Pool.out_release hout)⟩

theorem givesBack_release (s : Server) (dnn : String) (ip net : Option Bytes)
    (h : ∀ r, leaseIPv6 dnn net = some r → r ∈ s.takenIPv6) :
    GivesBack s ((s.releaseIPv4 dnn ip).releaseIPv6 dnn net) (s.leaseIPv4 dnn ip)
      (leaseIPv6 dnn net) := by
  have hip := givesBack_releaseIPv4 s dnn ip
  have htaken6 : (s.releaseIPv4 dnn ip).takenIPv6 = s.takenIPv6 := by simpa using hip.taken6
  exact hip.and (givesBack_releaseIPv6 _ dnn net (by rwa [htaken6]))

end Pools

/-! ## Holders that change -/

section Holders

variable {s : Server} {ref : Nat} {sess : Session} {pending : PendingSecondaryAuth}

theorem held_addSession (hheap : ∀ r p, s.sessions.lookup r = some p → p < s.heap.next)
    (ref : Nat) (sess : Session) : (s.addSession ref sess).heldIPv4 =
        update s.heldIPv4 (.session ref) (s.leaseIPv4 sess.dnn sess.ueIP) ∧
      (s.addSession ref sess).heldIPv6 =
        update s.heldIPv6 (.session ref) (leaseIPv6 sess.dnn sess.ueIPv6Prefix) := by
  constructor <;>
  · funext i
    cases i with
    | pending r => rfl
    | session r =>
      by_cases hr : r = ref
      · subst hr
        simp only [addSession, heldIPv4, heldIPv6, lookup_insert, bind_some,
          Heap.get_new, Heap.new_fst, if_pos, update_self]
        rfl
      · rw [update_of_ne (by simpa using hr)]
        simp only [addSession, heldIPv4, heldIPv6, lookup_insert_ne hr]
        refine bind_congr fun p hp => ?_
        rw [Heap.get_new_of_lt (hheap r p hp)] <;> rfl

theorem held_startSecondaryAuth (s : Server) (pending : PendingSecondaryAuth) :
    (s.startSecondaryAuth pending).heldIPv4 = update s.heldIPv4 (.pending pending.smContextRef)
          (s.leaseIPv4 pending.dnn pending.ipv4) ∧
      (s.startSecondaryAuth pending).heldIPv6 = update s.heldIPv6 (.pending pending.smContextRef)
          (leaseIPv6 pending.dnn pending.v6Prefix) := by
  constructor <;>
  · funext i
    cases i with
    | session r => rfl
    | pending r =>
      by_cases hr : r = pending.smContextRef
      · subst hr
        simp only [startSecondaryAuth, heldIPv4, heldIPv6, lookup_insert, update_self]
        rfl
      · rw [update_of_ne (by simpa using hr)]
        exact congrArg (fun found => bind found _) (lookup_insert_ne hr)

theorem held_deletePendingAuth (s : Server) (ref : Nat) :
    (s.deletePendingAuth ref).heldIPv4 = update s.heldIPv4 (.pending ref) none ∧
      (s.deletePendingAuth ref).heldIPv6 = update s.heldIPv6 (.pending ref) none := by
  constructor <;>
  · funext i
    cases i with
    | session r => rfl
    | pending r =>
      by_cases hr : r = ref
      · subst hr
        simp [deletePendingAuth, heldIPv4, heldIPv6]
      · rw [update_of_ne (by simpa using hr)]
        exact congrArg (fun found => bind found _) (lookup_erase_ne hr)

theorem held_eraseSession (s : Server) (ref : Nat) (tasks : List Task) :
    { s with sessions := s.sessions.erase ref, tasks := tasks }.heldIPv4 =
        update s.heldIPv4 (.session ref) none ∧
      { s with sessions := s.sessions.erase ref, tasks := tasks }.heldIPv6 =
        update s.heldIPv6 (.session ref) none := by
  constructor <;>
  · funext i
    cases i with
    | pending r => rfl
    | session r =>
      by_cases hr : r = ref
      · subst hr
        simp [heldIPv4, heldIPv6]
      · rw [update_of_ne (by simpa using hr)]
        exact congrArg (fun found => bind found _) (lookup_erase_ne hr)

end Holders

/-! ## The invariant -/

structure Inv (s : Server) : Prop where
  ipv4 : Balanced s.takenIPv4 s.heldIPv4
  ipv6 : Balanced s.takenIPv6 s.heldIPv6
  session_lt : ∀ ref p, s.sessions.lookup ref = some p → ref < s.nextRef ∧ p < s.heap.next
  pending_lt : ∀ ref pending, s.pendingAuth.lookup ref = some pending →
    ref < s.nextRef ∧ pending.smContextRef = ref
  apart : ∀ ref pending, s.pendingAuth.lookup ref = some pending → s.sessions.lookup ref = none

section Inv

variable {s s' : Server}

section

variable (h : s.Inv)
include h

theorem Inv.session_none (hge : s.nextRef ≤ ref) : s.sessions.lookup ref = none := by
  cases hp : s.sessions.lookup ref with
  | none => rfl
  | some p => exact absurd (h.session_lt ref p hp).1 (by omega)

theorem Inv.pending_none (hge : s.nextRef ≤ ref) : s.pendingAuth.lookup ref = none := by
  cases hp : s.pendingAuth.lookup ref with
  | none => rfl
  | some p => exact absurd (h.pending_lt ref p hp).1 (by omega)

theorem Inv.tables (hsame : SameHolders s s') :
    (∀ ref p, s'.sessions.lookup ref = some p → ref < s'.nextRef ∧ p < s'.heap.next) ∧
      (∀ ref pending, s'.pendingAuth.lookup ref = some pending →
        ref < s'.nextRef ∧ pending.smContextRef = ref) ∧
      ∀ ref pending, s'.pendingAuth.lookup ref = some pending → s'.sessions.lookup ref = none := by
  rw [hsame.sessions, hsame.pendingAuth, hsame.nextRef, hsame.next]
  exact ⟨h.session_lt, h.pending_lt, h.apart⟩

theorem Inv.of_same (hsame : SameHolders s s') (h4 : s'.takenIPv4 = s.takenIPv4)
    (h6 : s'.takenIPv6 = s.takenIPv6) : s'.Inv := by
  obtain ⟨hsessions, hpending, hapart⟩ := h.tables hsame
  refine ⟨?_, ?_, hsessions, hpending, hapart⟩
  · rw [h4, hsame.heldIPv4]
    exact h.ipv4
  · rw [h6, hsame.heldIPv6]
    exact h.ipv6

/-! ## The handlers -/

theorem Inv.grant {x4 x6 : Option (String × Bytes)} (hres : Reserves s s' x4 x6)
    {i : Holder} (h4 : s.heldIPv4 i = none) (h6 : s.heldIPv6 i = none) :
    Balanced s'.takenIPv4 (update s'.heldIPv4 i x4) ∧
      Balanced s'.takenIPv6 (update s'.heldIPv6 i x6) := by
  rw [hres.taken4, hres.taken6, hres.holders.heldIPv4, hres.holders.heldIPv6]
  exact ⟨h.ipv4.grant h4 hres.free4, h.ipv6.grant h6 hres.free6⟩

theorem Inv.openSession {sess : Session} (ulTEID : UInt32) (seid : UInt64)
    (hres : Reserves s s' (s.leaseIPv4 sess.dnn sess.ueIP)
      (leaseIPv6 sess.dnn sess.ueIPv6Prefix)) :
    ({ s' with nextRef := s'.nextRef + 1, nextTEID := ulTEID, nextSEID := seid }.addSession
      s'.nextRef sess).Inv := by
  have hsame := hres.holders
  obtain ⟨hsessions, hpending, hapart⟩ := h.tables hsame
  have hnone : s.sessions.lookup s'.nextRef = none := h.session_none (le_of_eq hsame.nextRef.symm)
  obtain ⟨h4, h6⟩ := h.grant hres (i := .session s'.nextRef) (by rw [heldIPv4, hnone]; rfl)
    (by rw [heldIPv6, hnone]; rfl)
  obtain ⟨hheld4, hheld6⟩ := held_addSession
    (s := { s' with nextRef := s'.nextRef + 1, nextTEID := ulTEID, nextSEID := seid })
    (fun r p hp => (hsessions r p hp).2) s'.nextRef sess
  refine ⟨?_, ?_, ?_, ?_, ?_⟩
  · rw [hheld4]
    rwa [← hsame.leaseIPv4] at h4
  · rw [hheld6]
    exact h6
  · intro ref p hp
    rcases lookup_insert_eq_some.1 hp with ⟨rfl, rfl⟩ | ⟨_, hold⟩
    · exact ⟨lt_succ_self _, lt_succ_self _⟩
    · obtain ⟨hlt, hptr⟩ := hsessions ref p hold
      exact ⟨lt_succ_of_lt hlt, lt_succ_of_lt hptr⟩
  · intro ref pending hp
    obtain ⟨hlt, href⟩ := hpending ref pending hp
    exact ⟨lt_succ_of_lt hlt, href⟩
  · intro ref pending hp
    have hne : ref ≠ s'.nextRef := (hpending ref pending hp).1.ne
    exact (lookup_insert_ne hne).trans (hapart ref pending hp)

theorem Inv.openPending (ulTEID : UInt32) (seid : UInt64) (href : pending.smContextRef = s'.nextRef)
    (hres : Reserves s s' (s.leaseIPv4 pending.dnn pending.ipv4)
      (leaseIPv6 pending.dnn pending.v6Prefix)) :
    ({ s' with nextRef := s'.nextRef + 1, nextTEID := ulTEID, nextSEID := seid }.startSecondaryAuth
      pending).Inv := by
  have hsame := hres.holders
  obtain ⟨hsessions, hpending, hapart⟩ := h.tables hsame
  have hnew : s.nextRef ≤ pending.smContextRef := le_of_eq (href.trans hsame.nextRef).symm
  have hnone := h.pending_none hnew
  obtain ⟨h4, h6⟩ := h.grant hres (i := .pending pending.smContextRef)
    (by rw [heldIPv4, hnone]; rfl) (by rw [heldIPv6, hnone]; rfl)
  obtain ⟨hheld4, hheld6⟩ := held_startSecondaryAuth
    { s' with nextRef := s'.nextRef + 1, nextTEID := ulTEID, nextSEID := seid } pending
  refine ⟨?_, ?_, ?_, ?_, ?_⟩
  · rw [hheld4]
    rwa [← hsame.leaseIPv4] at h4
  · rw [hheld6]
    exact h6
  · intro ref p hp
    obtain ⟨hlt, hptr⟩ := hsessions ref p hp
    exact ⟨lt_succ_of_lt hlt, hptr⟩
  · intro ref pending' hp
    rcases lookup_insert_eq_some.1 hp with ⟨rfl, rfl⟩ | ⟨_, hold⟩
    · exact ⟨by rw [href]; exact lt_succ_self _, rfl⟩
    · obtain ⟨hlt, href'⟩ := hpending ref pending' hold
      exact ⟨lt_succ_of_lt hlt, href'⟩
  · intro ref pending' hp
    rcases lookup_insert_eq_some.1 hp with ⟨rfl, _⟩ | ⟨_, hold⟩
    · exact (hsame.sessions ▸ h.session_none hnew :)
    · exact hapart ref pending' hold

end

theorem create_cases (h : s.handleCreateSMContext req = .ok (answer, s')) :
    (SameHolders s s' ∧ s'.takenIPv4 = s.takenIPv4 ∧ s'.takenIPv6 = s.takenIPv6) ∨
      ∃ s₁ t ip net, Reserves s s₁ (s.leaseIPv4 req.dnn ip) (leaseIPv6 req.dnn net) ∧
        (answer, s') = s₁.openContext req t ip net := by
  rcases handleCreateSMContext_eq_ok h with rfl | ⟨name, pool, t, ip, s₁, hpool, -, hip, hrest⟩
  · exact .inl ⟨SameHolders.refl s', rfl, rfl⟩
  have hres := reserves_allocateIPv4 hpool hip
  rcases hrest with rfl | ⟨net, s₂, hnet, hopen⟩
  · -- no prefix is left: the address goes back
    have hback := givesBack_releaseIPv4 s₁ req.dnn ip
    refine .inl ⟨hres.holders.trans hback.holders, ?_, ?_⟩
    · rw [hback.taken4, hres.holders.leaseIPv4, hres.taken4]
      ext r
      constructor
      · rintro ⟨hr | hr, hne⟩
        · exact absurd hr hne
        · exact hr
      · exact fun hr => ⟨.inr hr, fun hne => hres.free4 r hne hr⟩
    · rw [hback.taken6, hres.taken6]
      simp
  · exact .inr ⟨s₂, t, ip, net, hres.and (reserves_allocateIPv6 hnet), hopen⟩

theorem Inv.create (h : s.Inv) (hcreate : s.handleCreateSMContext req = .ok (answer, s'))
    (hencodes : req.dnn ∈ s.secondaryAuthDNNs ∨ ∃ b, req.n2SmInfo = .ok b) : s'.Inv := by
  rcases create_cases hcreate with ⟨hsame, h4, h6⟩ | ⟨s₁, t, ip, net, hres, hopen⟩
  · exact h.of_same hsame h4 h6
  · unfold openContext at hopen
    dsimp only at hopen
    split_ifs at hopen with hplain
    · obtain ⟨_, rfl⟩ := Prod.mk.inj hopen
      exact h.openPending _ _ rfl hres
    · rw [← hres.secondaryAuthDNNs] at hencodes
      obtain ⟨b, hb⟩ := hencodes.resolve_left hplain
      rw [hb] at hopen
      obtain ⟨_, rfl⟩ := Prod.mk.inj hopen
      exact h.openSession _ _ hres

section

variable (hp : s.pendingAuth.lookup ref = some pending)
include hp

theorem Inv.pending_held (h : s.Inv) :
    s.heldIPv4 (.pending ref) = s.leaseIPv4 pending.dnn pending.ipv4 ∧
      s.heldIPv6 (.pending ref) = leaseIPv6 pending.dnn pending.v6Prefix ∧
      s.heldIPv4 (.session ref) = none ∧ s.heldIPv6 (.session ref) = none := by
  simp [heldIPv4, heldIPv6, hp, h.apart ref pending hp]

theorem Inv.complete (h : s.Inv)
    (qos : SmPolicyQoS) (now : Time) : (s.completeSecondaryAuth pending qos now).Inv := by
  obtain ⟨hheld4, hheld6, hnone4, hnone6⟩ := h.pending_held hp
  obtain ⟨hlt, rfl⟩ := h.pending_lt ref pending hp
  obtain ⟨hdel4, hdel6⟩ := held_deletePendingAuth s pending.smContextRef
  have hheap : ∀ r p, (s.deletePendingAuth pending.smContextRef).sessions.lookup r = some p →
      p < s.heap.next := fun r p hp => (h.session_lt r p hp).2
  refine ⟨?_, ?_, ?_, ?_, ?_⟩
  · unfold completeSecondaryAuth
    rw [(held_addSession hheap ..).1, hdel4]
    have hover := h.ipv4.handOver (i := .pending pending.smContextRef) hnone4 (by simp)
    rw [hheld4] at hover
    exact hover
  · unfold completeSecondaryAuth
    rw [(held_addSession hheap ..).2, hdel6]
    have hover := h.ipv6.handOver (i := .pending pending.smContextRef) hnone6 (by simp)
    rw [hheld6] at hover
    exact hover
  · intro r p hp'
    rcases lookup_insert_eq_some.1 hp' with ⟨rfl, rfl⟩ | ⟨_, hold⟩
    · exact ⟨hlt, lt_succ_self _⟩
    · obtain ⟨hr, hptr⟩ := h.session_lt r p hold
      exact ⟨hr, lt_succ_of_lt hptr⟩
  · intro r pending' hp'
    exact h.pending_lt r pending' (lookup_erase_eq_some.1 hp').2
  · intro r pending' hp'
    obtain ⟨hne, hold⟩ := lookup_erase_eq_some.1 hp'
    show lookup r (s.sessions.insert pending.smContextRef s.heap.next) = none
    rw [lookup_insert_ne hne]
    exact h.apart r pending' hold

theorem Inv.reject (h : s.Inv) : (s.rejectSecondaryAuth pending).Inv := by
  obtain ⟨hheld4, hheld6, hnone4, hnone6⟩ := h.pending_held hp
  obtain ⟨hlt, rfl⟩ := h.pending_lt ref pending hp
  let s₁ : Server := { s.deletePendingAuth pending.smContextRef with
    sessions := s.sessions.erase pending.smContextRef }
  have hback : GivesBack s₁ (s.rejectSecondaryAuth pending)
      (s.leaseIPv4 pending.dnn pending.ipv4) (leaseIPv6 pending.dnn pending.v6Prefix) := by
    refine givesBack_release s₁ pending.dnn pending.ipv4 pending.v6Prefix fun r hr => ?_
    exact (h.ipv6.taken_iff r).2 ⟨_, hheld6.trans hr⟩
  have hsame := hback.holders
  have hs₁ : s₁.heldIPv4 = update s.heldIPv4 (.pending pending.smContextRef) none ∧
      s₁.heldIPv6 = update s.heldIPv6 (.pending pending.smContextRef) none := by
    obtain ⟨hdel4, hdel6⟩ := held_deletePendingAuth s pending.smContextRef
    obtain ⟨herase4, herase6⟩ := held_eraseSession (s.deletePendingAuth pending.smContextRef)
      pending.smContextRef s.tasks
    constructor
    · rw [← hdel4]
      refine herase4.trans (update_eq_self_iff.2 ?_)
      rw [hdel4, update_of_ne (by simp), hnone4]
    · rw [← hdel6]
      refine herase6.trans (update_eq_self_iff.2 ?_)
      rw [hdel6, update_of_ne (by simp), hnone6]
  refine ⟨?_, ?_, ?_, ?_, ?_⟩
  · rw [hback.taken4, hsame.heldIPv4, hs₁.1, ← hheld4]
    exact h.ipv4.giveBack _
  · rw [hback.taken6, hsame.heldIPv6, hs₁.2, ← hheld6]
    exact h.ipv6.giveBack _
  · rw [hsame.sessions, hsame.nextRef, hsame.next]
    exact fun r p hp' => h.session_lt r p (lookup_erase_eq_some.1 hp').2
  · rw [hsame.pendingAuth, hsame.nextRef]
    exact fun r pending' hp' => h.pending_lt r pending' (lookup_erase_eq_some.1 hp').2
  · rw [hsame.pendingAuth, hsame.sessions]
    intro r pending' hp'
    obtain ⟨hne, hold⟩ := lookup_erase_eq_some.1 hp'
    rw [lookup_erase_ne hne]
    exact h.apart r pending' hold

end

theorem Inv.release (h : s.Inv) (ref : Nat) (p : Ptr) (sendN4 : Bool) :
    (s.releaseSessionLocal ref p sendN4).2.Inv := by
  unfold releaseSessionLocal
  split_ifs with hfound
  · exact h
  · rw [not_not] at hfound
    have hheld4 : s.heldIPv4 (.session ref) = s.leaseIPv4 (s.heap.get p).dnn
        (s.heap.get p).ueIP := by
      simp [heldIPv4, hfound, Session.addresses]
    have hheld6 : s.heldIPv6 (.session ref) = leaseIPv6 (s.heap.get p).dnn
        (s.heap.get p).ueIPv6Prefix := by
      simp [heldIPv6, hfound, Session.addresses]
    have hback := givesBack_release s (s.heap.get p).dnn (s.heap.get p).ueIP
      (s.heap.get p).ueIPv6Prefix fun r hr => (h.ipv6.taken_iff r).2 ⟨_, hheld6.trans hr⟩
    have hsame := hback.holders
    dsimp only
    generalize (s.releaseIPv4 (s.heap.get p).dnn (s.heap.get p).ueIP).releaseIPv6
      (s.heap.get p).dnn (s.heap.get p).ueIPv6Prefix = s₁ at hback hsame ⊢
    obtain ⟨herase4, herase6⟩ := held_eraseSession s₁ ref
      (if sendN4 = true ∧ ¬ (s.heap.get p).n4Stale = true then
        s₁.tasks ++ [.sendPFCPSessionDeletion p] else s₁.tasks)
    refine ⟨?_, ?_, ?_, ?_, ?_⟩
    · rw [herase4, hsame.heldIPv4]
      show Balanced s₁.takenIPv4 _
      rw [hback.taken4, ← hheld4]
      exact h.ipv4.giveBack _
    · rw [herase6, hsame.heldIPv6]
      show Balanced s₁.takenIPv6 _
      rw [hback.taken6, ← hheld6]
      exact h.ipv6.giveBack _
    · rw [hsame.sessions, hsame.nextRef, hsame.next]
      exact fun r q hq => h.session_lt r q (lookup_erase_eq_some.1 hq).2
    · rw [hsame.pendingAuth, hsame.nextRef]
      exact h.pending_lt
    · rw [hsame.pendingAuth, hsame.sessions]
      intro r pending hp
      by_cases hr : r = ref
      · subst hr
        exact lookup_erase ..
      · rw [lookup_erase_ne hr]
        exact h.apart r pending hp

theorem addresses_markReleasing (cutoff : Time) (all n4Stale : Bool) (sess : Session) :
    (markReleasing cutoff all n4Stale sess).addresses = sess.addresses := by
  unfold markReleasing
  split <;> rfl

theorem sameHolders_markSessionsReleasing (s : Server) (cutoff : Time) (all n4Stale : Bool) :
    SameHolders s (s.markSessionsReleasing cutoff all n4Stale).2 := by
  have hfold : ∀ (entries : List (Sigma fun _ : Nat => Ptr)) (heap : Heap Session),
      (entries.foldl (fun heap e => heap.modify e.2 (markReleasing cutoff all n4Stale))
        heap).next = heap.next ∧
      ∀ p, ((entries.foldl (fun heap e => heap.modify e.2 (markReleasing cutoff all n4Stale))
        heap).get p).addresses = (heap.get p).addresses := by
    intro entries
    induction entries with
    | nil => exact fun heap => ⟨rfl, fun _ => rfl⟩
    | cons e entries ih =>
      intro heap
      obtain ⟨hnext, haddr⟩ := ih (heap.modify e.2 (markReleasing cutoff all n4Stale))
      refine ⟨hnext, fun p => (haddr p).trans ?_⟩
      exact Heap.get_modify_field Session.addresses
        (addresses_markReleasing cutoff all n4Stale) p
  obtain ⟨hnext, haddr⟩ := hfold s.sessions.entries s.heap
  exact ⟨rfl, hnext, haddr, rfl, rfl, rfl⟩

end Inv

/-! ## Runs -/

/-- What can happen to the contexts of the SMF. -/
inductive Event where
  | createSMContext (req : CreateSMContext)
  | authComplete (req : AuthComplete)
  | deleteSMContext (ref : Nat)
  | markSessionsReleasing (cutoff : Time) (all n4Stale : Bool)
  | releaseOne (t : ReleaseTarget) (accepted : Bool)
  | releaseGuardExpired (t : ReleaseTarget)

def next (s : Server) : Event → Server
  | .createSMContext req =>
    match s.handleCreateSMContext req with
    | .ok (_, s') => s'
    | _ => s
  | .authComplete req => (s.handleSecondaryAuthComplete req).2
  | .deleteSMContext ref => (s.handleDeleteSMContext ref).2
  | .markSessionsReleasing cutoff all n4Stale => (s.markSessionsReleasing cutoff all n4Stale).2
  | .releaseOne t accepted => s.releaseOne t accepted
  | .releaseGuardExpired t => s.releaseGuardExpired t

/-- What an event can do to the server. -/
theorem next_elim {Q : Server → Prop} (e : Event) (stay : Q s)
    (create : ∀ req answer s', e = .createSMContext req →
      s.handleCreateSMContext req = .ok (answer, s') → Q s')
    (complete : ∀ ref pending, s.pendingAuth.lookup ref = some pending →
      ∀ qos now, Q (s.completeSecondaryAuth pending qos now))
    (reject : ∀ ref pending, s.pendingAuth.lookup ref = some pending →
      Q (s.rejectSecondaryAuth pending))
    (release : ∀ ref p, Q (s.releaseSessionLocal ref p true).2)
    (mark : ∀ cutoff all n4Stale, e = .markSessionsReleasing cutoff all n4Stale →
      Q (s.markSessionsReleasing cutoff all n4Stale).2) : Q (s.next e) := by
  cases e with
  | createSMContext req =>
    unfold next
    dsimp only
    split
    · exact create req _ _ rfl ‹_›
    · exact stay
  | authComplete req =>
    show Q (s.handleSecondaryAuthComplete req).2
    unfold handleSecondaryAuthComplete getPendingAuth
    split
    · exact stay
    · split
      · exact stay
      · rename_i pending hp
        cases req.aaa with
        | success => exact complete _ pending hp _ _
        | unreachable | failure => exact reject _ pending hp
  | deleteSMContext ref =>
    show Q (s.handleDeleteSMContext ref).2
    unfold handleDeleteSMContext
    split
    · exact release ref _
    · exact stay
  | markSessionsReleasing cutoff all n4Stale => exact mark cutoff all n4Stale rfl
  | releaseOne t accepted =>
    show Q (s.releaseOne t accepted)
    unfold releaseOne
    split
    · exact stay
    · exact release t.ref t.sess
  | releaseGuardExpired t =>
    show Q (s.releaseGuardExpired t)
    unfold releaseGuardExpired
    split
    · exact release t.ref t.sess
    · exact stay

def Encodes (s : Server) : Event → Prop
  | .createSMContext req => req.dnn ∈ s.secondaryAuthDNNs ∨ ∃ b, req.n2SmInfo = .ok b
  | _ => True

/-- A server that has just been started: no contexts, and all addresses free. -/
structure Started (s : Server) : Prop where
  sessions : s.sessions = ∅
  pendingAuth : s.pendingAuth = ∅
  ipv4 : ∀ name pool, s.ipPools.lookup name = some pool → pool.allocated = ∅
  ipv6 : ∀ dnn pool, s.ipv6Pools.lookup dnn = some pool → pool.allocated = ∅

/-- The addresses that the pools count as taken are those that a session in the table or a
pending secondary authentication has. -/
structure Conserved (s : Server) : Prop where
  ipv4 : s.takenIPv4 = {x | ∃ holder, s.heldIPv4 holder = some x}
  ipv6 : s.takenIPv6 = {x | ∃ holder, s.heldIPv6 holder = some x}

theorem Inv.conserved (h : s.Inv) : s.Conserved :=
  ⟨Set.ext fun x => h.ipv4.taken_iff x, Set.ext fun x => h.ipv6.taken_iff x⟩

theorem Started.inv (h : s.Started) : s.Inv := by
  have hfree4 : s.takenIPv4 = ∅ := by
    ext x
    refine ⟨?_, fun hx => absurd hx (by simp)⟩
    rintro ⟨pool, hpool, hmem⟩
    rw [IPPool.Out, h.ipv4 _ pool hpool] at hmem
    exact absurd hmem (by simp)
  have hfree6 : s.takenIPv6 = ∅ := by
    ext x
    refine ⟨?_, fun hx => absurd hx (by simp)⟩
    rintro ⟨pool, hpool, idx, hmem, _⟩
    rw [h.ipv6 _ pool hpool] at hmem
    exact absurd hmem (by simp)
  have hheld : (∀ i, s.heldIPv4 i = none) ∧ ∀ i, s.heldIPv6 i = none := by
    constructor <;>
    · intro i
      cases i <;> simp [heldIPv4, heldIPv6, h.sessions, h.pendingAuth]
  refine ⟨⟨?_, ?_⟩, ⟨?_, ?_⟩, ?_, ?_, ?_⟩
  · simp [hfree4, hheld.1]
  · simp [hheld.1]
  · simp [hfree6, hheld.2]
  · simp [hheld.2]
  · simp [h.sessions]
  · simp [h.pendingAuth]
  · simp [h.pendingAuth]

theorem Inv.next (h : s.Inv) (e : Event) (hencodes : s.Encodes e) : (s.next e).Inv := by
  refine next_elim e h ?_ (fun _ _ => h.complete) (fun _ _ => h.reject)
    (fun ref p => h.release ref p true) ?_
  · rintro req answer s' rfl hcreate
    exact h.create hcreate hencodes
  · intro cutoff all n4Stale _
    exact h.of_same (sameHolders_markSessionsReleasing s cutoff all n4Stale) rfl rfl

/-- In every run in which the N2 SM information of each new context can be encoded, the pools
agree with the sessions and the pending authentications in every state. -/
theorem addresses_conserved {s t : Server} (hs : s.Started) {events : List Event}
    (run : Run ((System.ofFun next).when Encodes) s events t) : t.Conserved := by
  refine Inv.conserved (run.invariant hs.inv ?_)
  rintro s e _ h ⟨hencodes, rfl⟩
  exact h.next e hencodes

def onePool : Server where
  ipPools := (∅ : Map String IPPool).insert "internet"
    { subnet := ⟨[10, 45, 0, 0], [255, 255, 0, 0]⟩ }
  ipv6Pools := ∅

theorem started_onePool : onePool.Started := by
  refine ⟨rfl, rfl, fun name pool h => ?_, fun dnn pool h => absurd h (by simp [onePool])⟩
  rcases lookup_insert_eq_some.1 h with ⟨_, rfl⟩ | ⟨_, hnone⟩
  · rfl
  · exact absurd hnone (by simp)

/-- After a context that can be encoded, the pool and the session agree. -/
theorem addresses_conserved_onePool :
    (onePool.next (.createSMContext { dnn := "internet", n2SmInfo := .ok [] })).Conserved := by
  refine addresses_conserved started_onePool (Run.nil.snoc _ ⟨?_, rfl⟩)
  exact Or.inr ⟨[], rfl⟩

def failedCreate : Event :=
  .createSMContext { dnn := "internet", n2SmInfo := .error (.new "smf: encode") }

/-- After it there is no context, but the first address of the pool is taken. -/
theorem address_leaked : ¬ (onePool.next failedCreate).Conserved := by
  have hsessions : (onePool.next failedCreate).sessions.entries = [] := by decide +kernel
  have hpending : (onePool.next failedCreate).pendingAuth.entries = [] := by decide +kernel
  have htaken : ((onePool.next failedCreate).ipPools.lookup "internet").map (·.allocated) =
      some {[10, 45, 0, 2]} := by decide +kernel
  intro h
  obtain ⟨pool, hpool, halloc⟩ := map_eq_some_iff.1 htaken
  have hmem : ("internet", [10, 45, 0, 2]) ∈ (onePool.next failedCreate).takenIPv4 := by
    rw [takenIPv4, mem_taken hpool, IPPool.Out, halloc]
    decide
  rw [h.ipv4] at hmem
  obtain ⟨holder, hheld⟩ := hmem
  cases holder with
  | session ref => simp [heldIPv4, lookup, hsessions] at hheld
  | pending ref => simp [heldIPv4, lookup, hpending] at hheld

end Server

end Claudia5gc.Smf
