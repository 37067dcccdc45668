import Claudia5gc.Smf.N4
import Mathlib.Algebra.Order.Archimedean.Real.Basic

/-!
# Restarts of the UPF

A UPF that restarts has lost its sessions.  The SMF learns this from the Recovery Time Stamp in the
heartbeats: the first one after an association is the baseline, and a later one is a restart.
-/

namespace Claudia5gc.Smf

open Go Server List Option Function

variable {sess : Session} {t : ℝ}

/-! ## The association -/

inductive AssocState where
  | setupPending
  | associated
  | recovering
  deriving DecidableEq

/-- `pfcpAssociation`; there is no `remoteRTS` while the baseline is unknown. -/
structure PfcpAssociation where
  state : AssocState := .setupPending
  remoteRTS : Option Time := none
  deriving DecidableEq

inductive RecoveryCause where
  | peerRestart
  | peerNotResponding
  deriving DecidableEq

def second : Time := 1000000000

/-- `time.Time{}`, the first of January of the year 1. -/
def zeroTime : Time := -62135596800 * second

/-- `rtsOf`: whole seconds. -/
def rtsOf (t : Time) : Time := t / second * second

theorem rtsOf_rtsOf (t : Time) : rtsOf (rtsOf t) = rtsOf t := by
  unfold rtsOf
  rw [Int.mul_ediv_cancel _ (by decide)]

theorem rtsOf_le_rtsOf {t u : Time} (h : t ≤ u) : rtsOf t ≤ rtsOf u :=
  Int.mul_le_mul_of_nonneg_right (Int.ediv_le_ediv (by decide) h) (by decide)

structure Node where
  smf : Server
  assoc : PfcpAssociation := {}

namespace Node

variable (n : Node)

def setAssocState (state : AssocState) : Node :=
  { n with assoc := { n.assoc with state := state } }

def runAssociationSetup (accepted : Bool) : Bool × Node :=
  if accepted then (true, n.setAssocState .associated) else (false, n)

def beginRecovery (cause : RecoveryCause) (newRTS : Time) : Bool × Node :=
  if n.assoc.state ≠ .associated then (false, n)
  else
    let restart := cause = .peerRestart
    (true, {
      smf := (n.smf.markSessionsReleasing newRTS (¬ restart) restart).2
      assoc := { state := .recovering, remoteRTS := none } })

def observePeerRTS (ts : Option Time) : Bool × Node :=
  if n.assoc.state ≠ .associated then (false, n)
  else
    match ts.map rtsOf with
    | none => (false, n)
    | some peerRTS =>
      match n.assoc.remoteRTS with
      | none => (false, { n with assoc := { n.assoc with remoteRTS := some peerRTS } })
      | some old =>
        if old = peerRTS then (false, n)
        else if peerRTS < old then (false, n)
        else n.beginRecovery .peerRestart peerRTS

/-- How the transaction of a heartbeat ends: without a response, or with one and the time stamp
in it. -/
inductive Heartbeat where
  | lost
  | response (ts : Option Time)

def heartbeatOnce : Heartbeat → Node
  | .lost => (n.beginRecovery .peerNotResponding zeroTime).2
  | .response ts => (n.observePeerRTS ts).2

/-- What becomes of the session in `sendPFCPSessionEstablishment` when the UPF has accepted it. -/
def establishmentAccepted (p : Ptr) (now : Time) : Node :=
  let heap := n.smf.heap.modify p fun sess => { sess with n4EstablishedAt := some now }
  { n with smf := { n.smf with heap := heap } }

end Node

/-! ## Timelines -/

/-- What the clock reads at an instant, which is given in seconds. -/
noncomputable def clock (t : ℝ) : Time := ⌊t * 1000000000⌋

noncomputable def startRTS (t : ℝ) : Time := rtsOf (clock t)

theorem startRTS_le_startRTS {u : ℝ} (h : t ≤ u) : startRTS t ≤ startRTS u :=
  rtsOf_le_rtsOf (Int.floor_le_floor (mul_le_mul_of_nonneg_right h (by norm_num)))

/-- The SMF and the UPF at an instant, with the starts of the UPF so far and the instants at which
it has established the sessions. -/
structure Timeline where
  node : Node
  upf : Upf.Server := {}
  responses : List Ptr := []
  now : ℝ
  started : ℝ
  before : List ℝ := []
  establishedAt : Ptr → Option ℝ := fun _ => none

namespace Timeline

inductive Event where
  | createSMContext (req : Server.CreateSMContext)
  | authComplete (req : Server.AuthComplete)
  | deleteSMContext (ref : Nat)
  | releaseOne (t : Server.ReleaseTarget) (accepted : Bool)
  | releaseGuardExpired (t : Server.ReleaseTarget)
  | establish (p : Ptr) (upfNow : Int64)
  /-- The SMF reads the answer to it. -/
  | established (p : Ptr) (now : Time)
  | restart
  /-- The supervisor starts over, since the association was lost. -/
  | setupPending
  | associationSetup (accepted : Bool)
  | heartbeatOnce (heartbeat : Node.Heartbeat)
  /-- A Heartbeat Request of the UPF. -/
  | heartbeatRequest (ts : Option Time)

structure Label where
  instant : ℝ
  event : Event

variable (st : Timeline)

def onSmf (e : Server.Event) : Timeline :=
  { st with node := { st.node with smf := st.node.smf.next e } }

def establish (p : Ptr) (upfNow : Int64) (instant : ℝ) : Timeline :=
  let task := Task.sendPFCPSessionEstablishment p
  if task ∈ st.node.smf.tasks then
    let st := { st with node := { st.node with smf := st.node.smf.finish task } }
    match task.request st.node.smf upfNow with
    | none => st
    | some req =>
      match st.upf.dispatch req with
      | .ok (resp, upf) =>
        if resp.cause = .requestAccepted then
          { st with
            upf := upf
            responses := p :: st.responses
            establishedAt := update st.establishedAt p (some instant) }
        else { st with upf := upf }
      | _ => st
  else st

def occurs (instant : ℝ) : Event → Timeline
  | .createSMContext req => st.onSmf (.createSMContext req)
  | .authComplete req => st.onSmf (.authComplete req)
  | .deleteSMContext ref => st.onSmf (.deleteSMContext ref)
  | .releaseOne t accepted => st.onSmf (.releaseOne t accepted)
  | .releaseGuardExpired t => st.onSmf (.releaseGuardExpired t)
  | .establish p upfNow => st.establish p upfNow instant
  | .established p now =>
    if p ∈ st.responses then
      { st with
        responses := st.responses.erase p
        node := st.node.establishmentAccepted p now }
    else st
  | .restart =>
    { st with
      upf := { cfg := st.upf.cfg }
      started := instant
      before := st.started :: st.before }
  | .setupPending =>
    if st.node.assoc.state ≠ .associated then
      { st with node := st.node.setAssocState .setupPending }
    else st
  | .associationSetup accepted =>
    if st.node.assoc.state = .setupPending then
      { st with node := (st.node.runAssociationSetup accepted).2 }
    else st
  | .heartbeatOnce heartbeat => { st with node := st.node.heartbeatOnce heartbeat }
  | .heartbeatRequest ts => { st with node := (st.node.observePeerRTS ts).2 }

def next (l : Label) : Timeline :=
  { st.occurs l.instant l.event with now := l.instant }

/-- The time stamp in a heartbeat is that of a start of the UPF, if there is one. -/
def Reported (ts : Option Time) : Prop :=
  ∀ rts, ts = some rts → ∃ r ∈ st.started :: st.before, rts = startRTS r

/-- A step at an instant that is not in the past, with what the clock reads then, and with a time
stamp that the UPF has sent at some time. -/
def Possible (l : Label) : Prop :=
  st.now ≤ l.instant ∧ match l.event with
    | .createSMContext req => req.now = clock l.instant
    | .authComplete req => req.now = clock l.instant
    | .established _ now => now = clock l.instant
    | .heartbeatOnce (.response ts) => st.Reported ts
    | .heartbeatRequest ts => st.Reported ts
    | _ => True

end Timeline

def Session.Lost (sess : Session) : Prop := sess.state = .releasing ∧ sess.n4Stale = true

instance (sess : Session) : Decidable sess.Lost := inferInstanceAs (Decidable (_ ∧ _))

namespace Timeline

/-- The most recent start of the UPF with this time stamp. -/
def Reflected (st : Timeline) (rts : Time) (r : ℝ) : Prop :=
  IsGreatest {r | r ∈ st.started :: st.before ∧ startRTS r = rts} r

/-- While the SMF is associated and has a baseline, it knows of every session in its table that
was established before the most recent restart with this time stamp. -/
def Noticed (st : Timeline) : Prop :=
  st.node.assoc.state = .associated → ∀ rts, st.node.assoc.remoteRTS = some rts →
    ∀ r, st.Reflected rts r → ∀ p, st.node.smf.InTable p →
      ∀ e, st.establishedAt p = some e → e < r → (st.node.smf.heap.get p).Lost

def LostOr (st : Timeline) (good : Session → Prop) : Prop :=
  ∀ p, st.node.smf.InTable p → st.establishedAt p ≠ none →
    (st.node.smf.heap.get p).Lost ∨ good (st.node.smf.heap.get p)

/-- A restart is detected: it comes when no session can be lost, or when the time stamp of the last
start is the baseline, in a later second, and only for sessions that were established before that
second. -/
def Detectable (st : Timeline) (l : Label) : Prop :=
  match l.event with
  | .restart =>
    st.LostOr (fun _ => False) ∨ st.node.assoc.state = .associated ∧
        st.node.assoc.remoteRTS = some (startRTS st.started) ∧
        startRTS st.started < startRTS l.instant ∧
        st.LostOr fun sess => affected (startRTS l.instant) false sess = true
  | .established p _ => ∀ e, st.establishedAt p = some e → st.started ≤ e
  | .heartbeatOnce .lost =>
    st.node.assoc.remoteRTS = none ∨ st.node.assoc.remoteRTS = some (startRTS st.started)
  | _ => True

structure Started (st : Timeline) : Prop where
  sessions : st.node.smf.sessions = ∅
  tasks : st.node.smf.tasks = []
  assoc : st.node.assoc = {}
  responses : st.responses = []
  started : st.started ≤ st.now
  before : st.before = []
  establishedAt : ∀ p, st.establishedAt p = none

end Timeline

/-! ## What the events do to the sessions -/

namespace Server

variable {s s' s'' : Server} {p : Ptr}

/-- Sessions are added and leave the table, and those that were there are not written to. -/
structure Grows (s s' : Server) : Prop where
  next : s.heap.next ≤ s'.heap.next
  heap : ∀ p < s.heap.next, s'.heap.get p = s.heap.get p
  table : ∀ p, s'.InTable p → s.InTable p ∨ s.heap.next ≤ p ∧ p < s'.heap.next
  tasks : ∀ p, Task.sendPFCPSessionEstablishment p ∈ s'.tasks →
    Task.sendPFCPSessionEstablishment p ∈ s.tasks ∨ p < s'.heap.next

theorem SameBooks.grows (h : SameBooks s s') : Grows s s' := by
  refine ⟨by rw [h.heap], fun p _ => by rw [h.heap], fun p hp => ?_, fun p hp => ?_⟩
  · exact Or.inl ((h.inTable p).1 hp)
  · rw [h.tasks] at hp
    exact Or.inl hp

theorem Grows.refl (s : Server) : Grows s s :=
  SameBooks.grows ⟨fun _ => rfl, rfl, rfl⟩

theorem Grows.trans (h : Grows s s') (h' : Grows s' s'') : Grows s s'' := by
  refine ⟨h.next.trans h'.next, fun p hp => ?_, fun p hp => ?_, fun p hp => ?_⟩
  · rw [h'.heap p (hp.trans_le h.next), h.heap p hp]
  · rcases h'.table p hp with hp | ⟨hle, hlt⟩
    · exact (h.table p hp).imp_right fun hp => ⟨hp.1, hp.2.trans_le h'.next⟩
    · exact Or.inr ⟨h.next.trans hle, hlt⟩
  · rcases h'.tasks p hp with hp | hp
    · exact (h.tasks p hp).imp_right fun hlt => hlt.trans_le h'.next
    · exact Or.inr hp

theorem OnlyPools.grows (h : OnlyPools s s') : Grows s s' := h.same.grows

section

variable (s : Server)

theorem grows_addSession (ref : Nat) (sess : Session) : Grows s (s.addSession ref sess) := by
  refine ⟨Nat.le_succ _, fun p hp => Heap.get_new_of_lt hp, ?_, fun p hp => ?_⟩
  · rintro p ⟨r, hr⟩
    rcases Map.lookup_insert_eq_some.1 hr with ⟨_, rfl⟩ | ⟨_, hr⟩
    · exact Or.inr ⟨Nat.le_refl _, Nat.lt_succ_self _⟩
    · exact Or.inl ⟨r, hr⟩
  · unfold addSession at hp
    dsimp only at hp
    split at hp
    · rcases mem_append.1 hp with hp | hp
      · exact Or.inl hp
      · cases mem_singleton.1 hp
        exact Or.inr (Nat.lt_succ_self _)
    · exact Or.inl hp

theorem grows_openContext (req : CreateSMContext) (t : UInt8)
    (ip net : Option Bytes) : Grows s (s.openContext req t ip net).2 := by
  have hcount : Grows s { s with nextRef := s.nextRef + 1, nextTEID := s.nextTEID + 1,
                                 nextSEID := s.nextSEID + 1 } :=
    SameBooks.grows ⟨fun _ => rfl, rfl, rfl⟩
  unfold openContext
  dsimp only
  split
  · exact SameBooks.grows ⟨fun _ => rfl, rfl, rfl⟩
  · split
    · exact hcount
    · exact hcount.trans (grows_addSession _ _ _)

theorem grows_erase (ref : Nat) {tasks : List Task}
    (htasks : ∀ p, Task.sendPFCPSessionEstablishment p ∈ tasks →
      Task.sendPFCPSessionEstablishment p ∈ s.tasks) :
    Grows s { s with sessions := s.sessions.erase ref, tasks := tasks } := by
  refine ⟨Nat.le_refl _, fun _ _ => rfl, ?_, fun p hp => Or.inl (htasks p hp)⟩
  rintro p ⟨r, hr⟩
  exact Or.inl ⟨r, (Map.lookup_erase_eq_some.1 hr).2⟩

theorem grows_releaseSessionLocal (ref : Nat) (p : Ptr) (sendN4 : Bool) :
    Grows s (s.releaseSessionLocal ref p sendN4).2 := by
  unfold releaseSessionLocal
  split
  · exact Grows.refl s
  · refine (onlyPools_release ..).1.grows.trans (grows_erase _ ref fun q hq => ?_)
    split at hq
    · simpa using hq
    · exact hq

theorem grows_deletePendingAuth (ref : Nat) : Grows s (s.deletePendingAuth ref) :=
  SameBooks.grows ⟨fun _ => rfl, rfl, rfl⟩

theorem grows_rejectSecondaryAuth (pending : PendingSecondaryAuth) :
    Grows s (s.rejectSecondaryAuth pending) := by
  have herase := (grows_deletePendingAuth s pending.smContextRef).trans
    (grows_erase _ pending.smContextRef fun _ hp => hp)
  exact herase.trans (onlyPools_release _ pending.dnn pending.ipv4 pending.v6Prefix).1.grows

theorem grows_next (e : Event)
    (hmark : ∀ cutoff all n4Stale, e ≠ .markSessionsReleasing cutoff all n4Stale) :
    Grows s (s.next e) := by
  refine next_elim (Q := Grows s) e (Grows.refl s) ?_ ?_
    (fun _ pending _ => grows_rejectSecondaryAuth s pending)
    (fun ref p => grows_releaseSessionLocal s ref p true)
    (fun _ _ _ he => absurd he (hmark _ _ _))
  · intro req answer s' _ hcreate
    rcases create_addressed hcreate with ⟨honly, _⟩ | ⟨s₁, t, ip, net, honly, _, hopen⟩
    · exact honly.grows
    · have hgrows := honly.grows.trans (grows_openContext s₁ req t ip net)
      rwa [← hopen] at hgrows
  · intro ref pending _ qos now
    exact (grows_deletePendingAuth ..).trans (grows_addSession _ _ _)

end

/-! ## Marking -/

theorem markReleasing_of_releasing {cutoff : Time} {all n4Stale : Bool}
    (h : sess.state = .releasing) : markReleasing cutoff all n4Stale sess = sess := by
  simp [markReleasing, affected, h]

theorem markReleasing_markReleasing (cutoff : Time) (all n4Stale : Bool) (sess : Session) :
    markReleasing cutoff all n4Stale (markReleasing cutoff all n4Stale sess) =
      markReleasing cutoff all n4Stale sess := by
  by_cases h : affected cutoff all sess = true
  · exact markReleasing_of_releasing (by rw [markReleasing, if_pos h])
  · have hsame : markReleasing cutoff all n4Stale sess = sess := by rw [markReleasing, if_neg h]
    rw [hsame, hsame]

theorem inTable_iff (s : Server) (p : Ptr) :
    s.InTable p ↔ p ∈ s.sessions.entries.map fun e => e.2 := by
  constructor
  · rintro ⟨ref, href⟩
    exact mem_map.2 ⟨⟨ref, p⟩, AList.mem_lookup_iff.1 href, rfl⟩
  · intro hp
    obtain ⟨e, he, rfl⟩ := mem_map.1 hp
    exact ⟨e.1, AList.mem_lookup_iff.2 he⟩

theorem get_markSessionsReleasing (s : Server) (cutoff : Time) (all n4Stale : Bool) (p : Ptr) :
    (s.markSessionsReleasing cutoff all n4Stale).2.heap.get p =
      if p ∈ s.sessions.entries.map fun e => e.2 then
        markReleasing cutoff all n4Stale (s.heap.get p)
      else s.heap.get p :=
  Heap.get_foldl_modify (markReleasing_markReleasing cutoff all n4Stale) _ _ _ p

theorem next_markSessionsReleasing (s : Server) (cutoff : Time) (all n4Stale : Bool) :
    (s.markSessionsReleasing cutoff all n4Stale).2.heap.next = s.heap.next :=
  (sameHolders_markSessionsReleasing s cutoff all n4Stale).next

end Server

theorem Session.Lost.markReleasing (h : sess.Lost) (cutoff : Time) (all n4Stale : Bool) :
    (markReleasing cutoff all n4Stale sess).Lost := by
  rw [markReleasing_of_releasing h.1]
  exact h

theorem Session.lost_of_affected {cutoff : Time} (h : affected cutoff false sess = true) :
    (markReleasing cutoff false true sess).Lost := by
  rw [markReleasing, if_pos h]
  exact ⟨rfl, rfl⟩

/-! ## The invariant -/

namespace Timeline

variable {st st' : Timeline} {r : ℝ}

/-- The SMF knows of the sessions that were established before `r`. -/
def Handled (st : Timeline) (r : ℝ) : Prop :=
  ∀ p, st.node.smf.InTable p → ∀ e, st.establishedAt p = some e → e < r →
    (st.node.smf.heap.get p).Lost

theorem Handled.mono {r' : ℝ} (h : st.Handled r') (hr : r ≤ r') : st.Handled r :=
  fun p hp e he hlt => h p hp e he (hlt.trans_le hr)

/-- The last restart is still to be detected, and the heartbeat that tells of it will affect the
sessions that it should. -/
structure Awaited (st : Timeline) : Prop where
  state : st.node.assoc.state = .associated
  baseline : ∃ rts, st.node.assoc.remoteRTS = some rts ∧ rts < startRTS st.started ∧
    ∀ r ∈ st.before, startRTS r ≤ rts ∧ st.Handled r
  sessions : ∀ p, st.node.smf.InTable p → ∀ e, st.establishedAt p = some e → e < st.started →
    (st.node.smf.heap.get p).Lost ∨
      affected (startRTS st.started) false (st.node.smf.heap.get p) = true

/-- Sessions that are established, and those that are going to be, have been created. -/
structure Created (st : Timeline) : Prop where
  established : ∀ p e, st.establishedAt p = some e → p < st.node.smf.heap.next
  tasks : ∀ p, Task.sendPFCPSessionEstablishment p ∈ st.node.smf.tasks → p < st.node.smf.heap.next

structure Inv (st : Timeline) : Prop where
  before : ∀ r ∈ st.before, r ≤ st.started
  now : st.started ≤ st.now
  created : st.Created
  settled : st.Handled st.started ∨ st.Awaited

theorem Started.inv (h : st.Started) : st.Inv := by
  refine ⟨?_, h.started, ⟨?_, ?_⟩, Or.inl ?_⟩
  · rw [h.before]
    simp
  · intro p e he
    exact absurd ((h.establishedAt p).symm.trans he) (by simp)
  · rw [h.tasks]
    simp
  · intro p _ e he
    exact absurd ((h.establishedAt p).symm.trans he) (by simp)

section

variable (h : st.Inv)
include h

theorem Inv.noticed : st.Noticed := by
  intro _ rts hrts r hr p hp e he hlt
  obtain ⟨⟨hmem, hstamp⟩, _⟩ := hr
  rcases h.settled with hhandled | hawaited
  · -- every start is at most the last one
    have hle : r ≤ st.started := by
      rcases mem_cons.1 hmem with rfl | hmem
      · exact le_rfl
      · exact h.before r hmem
    exact hhandled.mono hle p hp e he hlt
  · -- the baseline is older than the last start
    obtain ⟨rts', hrts', hold, hbefore⟩ := hawaited.baseline
    obtain rfl : rts' = rts := some.inj (hrts'.symm.trans hrts)
    rcases mem_cons.1 hmem with rfl | hmem
    · exact absurd hstamp (ne_of_gt hold)
    · exact (hbefore r hmem).2 p hp e he hlt

theorem Inv.handled_of_baseline
    (hrts : ∀ rts, st.node.assoc.remoteRTS = some rts → startRTS st.started ≤ rts) :
    st.Handled st.started := by
  refine h.settled.resolve_right fun hawaited => ?_
  obtain ⟨rts, hsome, hlt, _⟩ := hawaited.baseline
  exact absurd hlt (not_lt.2 (hrts rts hsome))

theorem Inv.handled_of_state (hstate : st.node.assoc.state ≠ .associated) : st.Handled st.started :=
  h.settled.resolve_right fun hawaited => hstate hawaited.state

/-! ## Steps without a restart -/

/-- The times have not changed, except for the present. -/
structure SameStarts (st st' : Timeline) : Prop where
  started : st'.started = st.started
  before : st'.before = st.before
  now : st.now ≤ st'.now

theorem Inv.of_settled (hstarts : SameStarts st st') (hcreated : st'.Created)
    (hsettled : st'.Handled st.started ∨ st'.Awaited) : st'.Inv := by
  obtain ⟨hstarted, hbefore, hnow⟩ := hstarts
  refine ⟨?_, ?_, hcreated, ?_⟩
  · rw [hbefore, hstarted]
    exact h.before
  · rw [hstarted]
    exact h.now.trans hnow
  · rwa [hstarted]

/-- A step that neither writes to the sessions from before the last start nor to the
association. -/
theorem Inv.frame (hstarts : SameStarts st st') (hcreated : st'.Created)
    (hassoc : st'.node.assoc = st.node.assoc)
    (hsame : ∀ p, st'.node.smf.InTable p → ∀ e, st'.establishedAt p = some e → e < st.started →
      st.node.smf.InTable p ∧ st.establishedAt p = some e ∧
        st'.node.smf.heap.get p = st.node.smf.heap.get p) : st'.Inv := by
  have hhandled : ∀ r ≤ st.started, st.Handled r → st'.Handled r := by
    intro r hr hr' p hp e he hlt
    obtain ⟨hp, he, hget⟩ := hsame p hp e he (hlt.trans_le hr)
    rw [hget]
    exact hr' p hp e he hlt
  refine h.of_settled hstarts hcreated
    (h.settled.imp (hhandled _ le_rfl) fun hawaited => ⟨?_, ?_, ?_⟩)
  · rw [hassoc]
    exact hawaited.state
  · obtain ⟨rts, hrts, hlt, hbefore⟩ := hawaited.baseline
    rw [hassoc, hstarts.started, hstarts.before]
    refine ⟨rts, hrts, hlt, fun r hr => ⟨(hbefore r hr).1, ?_⟩⟩
    exact hhandled r (h.before r hr) (hbefore r hr).2
  · rw [hstarts.started]
    intro p hp e he hlt
    obtain ⟨hp, he, hget⟩ := hsame p hp e he hlt
    rw [hget]
    exact hawaited.sessions p hp e he hlt

theorem Inv.grows {smf : Server} (hgrows : Server.Grows st.node.smf smf) (ht : st.now ≤ t) :
    ({ st with node := { st.node with smf := smf }, now := t } : Timeline).Inv := by
  refine h.frame ⟨rfl, rfl, ht⟩ ⟨?_, ?_⟩ rfl ?_
  · exact fun p e he => (h.created.established p e he).trans_le hgrows.next
  · intro p hp
    rcases hgrows.tasks p hp with hp | hp
    · exact (h.created.tasks p hp).trans_le hgrows.next
    · exact hp
  · intro p hp e he _
    have hlt := h.created.established p e he
    refine ⟨(hgrows.table p hp).resolve_right fun hp => ?_, he, hgrows.heap p hlt⟩
    exact absurd hlt (Nat.not_lt.2 hp.1)

theorem Inv.establish (p : Ptr) (upfNow : Int64) (ht : st.now ≤ t) :
    ({ st.establish p upfNow t with now := t } : Timeline).Inv := by
  have hsmf : ∀ upf responses, ({ st with
      node := { st.node with
        smf := st.node.smf.finish (.sendPFCPSessionEstablishment p) }
      upf := upf, responses := responses, now := t } : Timeline).Inv := by
    intro upf responses
    refine h.frame ⟨rfl, rfl, ht⟩ ⟨h.created.established, ?_⟩ rfl fun q hq e he _ => ⟨hq, he, rfl⟩
    exact fun q hq => h.created.tasks q (mem_of_mem_erase hq)
  unfold Timeline.establish
  dsimp only
  split_ifs with htask
  · split
    · exact hsmf st.upf st.responses
    · split
      · rename_i resp upf _
        split
        · refine h.frame ⟨rfl, rfl, ht⟩ ⟨?_, ?_⟩ rfl ?_
          · intro q e he
            by_cases hq : q = p
            · subst hq
              exact h.created.tasks q htask
            · exact h.created.established q e ((update_of_ne hq _ _).symm.trans he)
          · exact fun q hq => h.created.tasks q (mem_of_mem_erase hq)
          · intro q hq e he hlt
            by_cases hqp : q = p
            · -- not before the last start
              subst hqp
              have he : update st.establishedAt q (some t) q = some e := he
              rw [update_self] at he
              obtain rfl := some.inj he
              exact absurd (h.now.trans ht) (not_le.2 hlt)
            · exact ⟨hq, (update_of_ne hqp _ _).symm.trans he, rfl⟩
        · exact hsmf upf st.responses
      · exact hsmf st.upf st.responses
  · exact h.frame ⟨rfl, rfl, ht⟩ ⟨h.created.established, h.created.tasks⟩ rfl
      fun q hq e he _ => ⟨hq, he, rfl⟩

theorem Inv.established (p : Ptr) (reading : Time) (ht : st.now ≤ t)
    (hlast : ∀ e, st.establishedAt p = some e → st.started ≤ e) (responses : List Ptr) :
    ({ st with responses := responses, node := st.node.establishmentAccepted p reading,
               now := t } : Timeline).Inv := by
  refine h.frame ⟨rfl, rfl, ht⟩ ⟨h.created.established, h.created.tasks⟩ rfl ?_
  intro q hq e he hlt
  refine ⟨hq, he, ?_⟩
  show (st.node.smf.heap.modify p fun sess =>
    { sess with n4EstablishedAt := some reading }).get q = _
  refine Heap.get_modify_of_ne ?_
  rintro rfl
  exact absurd (hlast e he) (not_le.2 hlt)

theorem Inv.assoc (hdone : st.Handled st.started) (assoc : PfcpAssociation) (ht : st.now ≤ t) :
    ({ st with node := { st.node with assoc := assoc }, now := t } : Timeline).Inv :=
  h.of_settled ⟨rfl, rfl, ht⟩ ⟨h.created.established, h.created.tasks⟩ (.inl hdone)

theorem Inv.wait (ht : st.now ≤ t) : ({ st with now := t } : Timeline).Inv :=
  h.frame ⟨rfl, rfl, ht⟩ ⟨h.created.established, h.created.tasks⟩ rfl
    fun _ hp _ he _ => ⟨hp, he, rfl⟩

/-! ## Recovery -/

/-- After a recovery there is nothing to detect when the SMF knew of all lost sessions before, or
when it has just marked the others. -/
theorem Inv.beginRecovery (cause : RecoveryCause) (rts : Time) (ht : st.now ≤ t)
    (hmarks : st.Handled st.started ∨
      st.Awaited ∧ cause = .peerRestart ∧ rts = startRTS st.started) :
    ({ st with node := (st.node.beginRecovery cause rts).2, now := t } : Timeline).Inv := by
  unfold Node.beginRecovery
  split
  · exact h.wait ht
  · refine h.of_settled ⟨rfl, rfl, ht⟩ ⟨?_, ?_⟩ (.inl ?_)
    · rw [next_markSessionsReleasing]
      exact h.created.established
    · rw [next_markSessionsReleasing]
      exact h.created.tasks
    · intro p hp e he hlt
      have hp : st.node.smf.InTable p := hp
      rw [get_markSessionsReleasing, if_pos ((inTable_iff _ p).1 hp)]
      rcases hmarks with hdone | ⟨hawaited, rfl, rfl⟩
      · exact (hdone p hp e he hlt).markReleasing _ _ _
      · rcases hawaited.sessions p hp e he hlt with hlost | haffected
        · exact hlost.markReleasing _ _ _
        · exact Session.lost_of_affected (by simpa using haffected)

theorem Inv.observePeerRTS {ts : Option Time} (hts : st.Reported ts) (ht : st.now ≤ t) :
    ({ st with node := (st.node.observePeerRTS ts).2, now := t } : Timeline).Inv := by
  unfold Node.observePeerRTS
  split
  · exact h.wait ht
  · cases ts with
    | none => exact h.wait ht
    | some stamp =>
      obtain ⟨r, hr, rfl⟩ := hts _ rfl
      have hstamp : rtsOf (startRTS r) = startRTS r := rtsOf_rtsOf _
      simp only [map_some, hstamp]
      split
      · -- the baseline is learned
        rename_i hnone
        refine h.assoc (h.handled_of_baseline fun rts hsome => ?_) _ ht
        exact absurd (hnone.symm.trans hsome) (by simp)
      · rename_i old hold
        split
        · exact h.wait ht
        · split
          · exact h.wait ht
          · rename_i hne hlater
            refine h.beginRecovery _ _ ht (h.settled.imp_right fun hawaited => ?_)
            refine ⟨hawaited, rfl, ?_⟩
            -- only the last start has a later time stamp than the baseline
            obtain ⟨rts, hrts, _, hbefore⟩ := hawaited.baseline
            obtain rfl : rts = old := some.inj (hrts.symm.trans hold)
            rcases mem_cons.1 hr with rfl | hr
            · rfl
            · exact absurd (lt_of_le_of_ne (hbefore r hr).1 (Ne.symm hne)) hlater

/-! ## Restarts -/

theorem Inv.restart (ht : st.now ≤ t) (hdetect : st.Detectable ⟨t, .restart⟩) (upf : Upf.Server) :
    ({ st with upf := upf, started := t, before := st.started :: st.before,
               now := t } : Timeline).Inv := by
  have hbefore : ∀ r ∈ st.started :: st.before, r ≤ st.started := by
    intro r hr
    rcases mem_cons.1 hr with rfl | hr
    · exact le_rfl
    · exact h.before r hr
  refine ⟨fun r hr => (hbefore r hr).trans (h.now.trans ht), le_rfl,
    ⟨h.created.established, h.created.tasks⟩, ?_⟩
  rcases hdetect with hnone | ⟨hstate, hrts, hlater, hsessions⟩
  · refine Or.inl fun p hp e he _ => ?_
    exact (hnone p hp (by simp [show st.establishedAt p = some e from he])).resolve_right id
  · have hdone : st.Handled st.started := by
      refine h.handled_of_baseline fun rts hsome => ?_
      obtain rfl := some.inj (hrts.symm.trans hsome)
      exact le_rfl
    refine Or.inr ⟨hstate, ⟨_, hrts, hlater, fun r hr => ⟨?_, ?_⟩⟩, fun p hp e he _ => ?_⟩
    · exact startRTS_le_startRTS (hbefore r hr)
    · exact fun p hp e he hlt => hdone.mono (hbefore r hr) p hp e he hlt
    · exact hsessions p hp (by simp [show st.establishedAt p = some e from he])

theorem Inv.next (l : Label) (hpossible : st.Possible l) (hdetect : st.Detectable l) :
    (st.next l).Inv := by
  obtain ⟨t, event⟩ := l
  obtain ⟨ht, hreading⟩ := hpossible
  cases event with
  | createSMContext _ | authComplete _ | deleteSMContext _ | releaseOne _ _
  | releaseGuardExpired _ => exact h.grows (grows_next _ _ nofun) ht
  | establish p upfNow => exact h.establish p upfNow ht
  | established p reading =>
    simp only [Timeline.next, occurs]
    split
    · exact h.established p reading ht hdetect _
    · exact h.wait ht
  | restart => exact h.restart ht hdetect _
  | setupPending =>
    simp only [Timeline.next, occurs]
    split_ifs with hstate
    · exact h.assoc (h.handled_of_state hstate) _ ht
    · exact h.wait ht
  | associationSetup accepted =>
    simp only [Timeline.next, occurs]
    split_ifs with hstate
    · have hdone := h.handled_of_state (by rw [hstate]; decide)
      cases accepted with
      | true => exact h.assoc hdone _ ht
      | false => exact h.wait ht
    · exact h.wait ht
  | heartbeatOnce heartbeat =>
    cases heartbeat with
    | lost =>
      refine h.beginRecovery _ _ ht (Or.inl (h.handled_of_baseline fun rts hsome => ?_))
      rcases hdetect with hnone | hlast
      · exact absurd (hnone.symm.trans hsome) (by simp)
      · obtain rfl := some.inj (hlast.symm.trans hsome)
        exact le_rfl
    | response ts => exact h.observePeerRTS hreading ht
  | heartbeatRequest ts => exact h.observePeerRTS hreading ht

end

/-- On every timeline on which restarts are detected, no session survives a restart
unnoticed. -/
theorem restarts_noticed {start : Timeline} (hstart : start.Started) {labels : List Label}
    (run : Run ((System.ofFun next).when fun st l => st.Possible l ∧ st.Detectable l)
      start labels st) : st.Noticed := by
  have hinv : st.Inv := by
    refine run.invariant (I := Inv) hstart.inv ?_
    rintro st l _ h ⟨⟨hpossible, hdetect⟩, rfl⟩
    exact h.next l hpossible hdetect
  exact hinv.noticed

/-! ## Timelines of one session -/

/-- An SMF with one pool, and a UPF that is started with it. -/
def start : Timeline where
  node := { smf := onePool }
  now := 0
  started := 0

theorem started_start : start.Started :=
  ⟨rfl, rfl, rfl, rfl, le_rfl, rfl, fun _ => rfl⟩

theorem clock_eq {n : Int} (h : t * 1000000000 = n) : clock t = n := by
  rw [clock, h, Int.floor_intCast]

theorem startRTS_eq {n : Int} (h : t * 1000000000 = n) : startRTS t = rtsOf n := by
  rw [startRTS, clock_eq h]

theorem startRTS_zero : startRTS 0 = 0 := startRTS_eq (n := 0) (by norm_num)

theorem reported_started {rts : Time} (h : startRTS st.started = rts) : st.Reported (some rts) := by
  rintro _ ⟨⟩
  exact ⟨st.started, mem_cons_self, h.symm⟩

/-- The association is set up, and a heartbeat is answered with the time stamp `rts`. -/
def associate (t : ℝ) (rts : Time) : List Label :=
  [⟨t, .associationSetup true⟩, ⟨t, .heartbeatOnce (.response (some rts))⟩]

/-- A session is created at 10.1 s and established at 10.2 s, and the answer is read at 10.3 s. -/
noncomputable def openSession : List Label :=
  [⟨101 / 10, .createSMContext { dnn := "internet", n2SmInfo := .ok [], now := 10100000000 }⟩,
    ⟨102 / 10, .establish 0 0⟩, ⟨103 / 10, .established 0 10300000000⟩]

/-- A restart at `t`, that a heartbeat tells of, and a new association. -/
def restartAt (t t' : ℝ) (rts : Time) : List Label :=
  [⟨t, .restart⟩, ⟨t', .heartbeatOnce (.response (some rts))⟩, ⟨t', .setupPending⟩] ++
    associate t' rts

/-- Associated, with one session. -/
noncomputable def served : Timeline := (associate 1 0 ++ openSession).foldl next start

theorem run_served : Run ((System.ofFun next).when fun st l => st.Possible l ∧ st.Detectable l)
    start (associate 1 0 ++ openSession) served := by
  refine Run.foldl_allowed ⟨⟨⟨?_, trivial⟩, trivial⟩, ⟨⟨?_, ?_⟩, trivial⟩, ⟨⟨?_, ?_⟩, trivial⟩,
    ⟨⟨?_, trivial⟩, trivial⟩, ⟨⟨?_, ?_⟩, ?_⟩, trivial⟩
  · show (0 : ℝ) ≤ 1
    norm_num
  · exact le_rfl
  · exact reported_started startRTS_zero
  · show (1 : ℝ) ≤ 101 / 10
    norm_num
  · exact (clock_eq (n := 10100000000) (by norm_num)).symm
  · show (101 / 10 : ℝ) ≤ 102 / 10
    norm_num
  · show (102 / 10 : ℝ) ≤ 103 / 10
    norm_num
  · exact (clock_eq (n := 10300000000) (by norm_num)).symm
  · rintro e he
    obtain rfl : (102 / 10 : ℝ) = e := some.inj he
    show (0 : ℝ) ≤ 102 / 10
    norm_num

/-- The restart comes at 20 s. -/
noncomputable def detected : Timeline := (restartAt 20 21 20000000000).foldl next served

/-- The session that the UPF has lost is known to be so. -/
theorem restarts_noticed_detected :
    detected.node.smf.InTable 0 ∧ (detected.node.smf.heap.get 0).Lost ∧ detected.Noticed := by
  have hrts : startRTS 20 = 20000000000 := startRTS_eq (n := 20000000000) (by norm_num)
  have hone : ∀ p, served.node.smf.InTable p → p = 0 := by
    intro p hp
    rw [inTable_iff] at hp
    exact mem_singleton.1 hp
  refine ⟨⟨0, by decide +kernel⟩, by decide +kernel, ?_⟩
  refine restarts_noticed started_start (run_served.append_allowed ?_)
  refine ⟨⟨⟨?_, trivial⟩, Or.inr ⟨by decide +kernel, ?_, ?_, ?_⟩⟩, ⟨⟨?_, ?_⟩, trivial⟩,
    ⟨⟨le_rfl, trivial⟩, trivial⟩, ⟨⟨le_rfl, trivial⟩, trivial⟩, ⟨⟨le_rfl, ?_⟩, trivial⟩, trivial⟩
  · show (103 / 10 : ℝ) ≤ 20
    norm_num
  · show some 0 = some (startRTS 0)
    rw [startRTS_zero]
  · show startRTS 0 < startRTS 20
    rw [startRTS_zero, hrts]
    decide
  · intro p hp _
    obtain rfl := hone p hp
    refine Or.inr ?_
    rw [hrts]
    decide +kernel
  · show (20 : ℝ) ≤ 21
    norm_num
  · exact reported_started hrts
  · exact reported_started hrts

/-- The restart comes at 10.5 s, when the session is not a second old. -/
noncomputable def sameSecond : Timeline := (restartAt (105 / 10) 11 10000000000).foldl next served

/-- The session is established and the UPF restarts before the first association. -/
noncomputable def noBaseline : Timeline :=
  (openSession ++ Label.mk 20 .restart :: associate 21 20000000000).foldl next start

noncomputable def heartbeatLost : Timeline :=
  (Label.mk 20 (.heartbeatOnce .lost) :: Label.mk 21 .restart :: Label.mk 22 .setupPending ::
    associate 22 21000000000).foldl next served

theorem not_noticed {t : ℝ} {n : Time} (hrts : startRTS t = n) (hlt : 102 / 10 < t)
    (hstarted : st.started = t) (hbefore : st.before = [0])
    (hestablished : st.establishedAt 0 = some (102 / 10))
    (hstate : st.node.assoc.state = .associated)
    (hremote : st.node.assoc.remoteRTS = some n) (hp : st.node.smf.InTable 0)
    (hkept : ¬ (st.node.smf.heap.get 0).Lost) : ¬ st.Noticed := by
  intro h
  subst hstarted
  refine hkept (h hstate n hremote st.started ⟨⟨mem_cons_self, hrts⟩, ?_⟩ 0 hp _
    hestablished hlt)
  rintro r ⟨hr, _⟩
  rw [hbefore] at hr
  rcases mem_cons.1 hr with rfl | hr
  · exact le_rfl
  · rw [mem_singleton.1 hr]
    linarith

def Survived (st : Timeline) : Prop :=
  (∃ labels, Run ((System.ofFun next).when Possible) start labels st) ∧ ¬ st.Noticed

theorem survived_sameSecond : sameSecond.Survived := by
  have hrts : startRTS (105 / 10) = 10000000000 := startRTS_eq (n := 10500000000) (by norm_num)
  refine ⟨⟨_, (run_served.weaken fun _ _ h => h.1).append_allowed ?_⟩, ?_⟩
  · refine ⟨⟨?_, trivial⟩, ⟨?_, reported_started hrts⟩, ⟨le_rfl, trivial⟩, ⟨le_rfl, trivial⟩,
      ⟨le_rfl, reported_started hrts⟩, trivial⟩
    · show (103 / 10 : ℝ) ≤ 105 / 10
      norm_num
    · show (105 / 10 : ℝ) ≤ 11
      norm_num
  · exact not_noticed hrts (by norm_num) rfl rfl rfl (by decide +kernel) rfl
      ⟨0, by decide +kernel⟩ (by decide +kernel)

theorem survived_noBaseline : noBaseline.Survived := by
  have hrts : startRTS 20 = 20000000000 := startRTS_eq (n := 20000000000) (by norm_num)
  refine ⟨⟨_, Run.foldl_allowed ?_⟩, ?_⟩
  · refine ⟨⟨?_, ?_⟩, ⟨?_, trivial⟩, ⟨?_, ?_⟩, ⟨?_, trivial⟩, ⟨?_, trivial⟩,
      ⟨le_rfl, reported_started hrts⟩, trivial⟩
    · show (0 : ℝ) ≤ 101 / 10
      norm_num
    · exact (clock_eq (n := 10100000000) (by norm_num)).symm
    · show (101 / 10 : ℝ) ≤ 102 / 10
      norm_num
    · show (102 / 10 : ℝ) ≤ 103 / 10
      norm_num
    · exact (clock_eq (n := 10300000000) (by norm_num)).symm
    · show (103 / 10 : ℝ) ≤ 20
      norm_num
    · show (20 : ℝ) ≤ 21
      norm_num
  · exact not_noticed hrts (by norm_num) rfl rfl rfl (by decide +kernel) rfl
      ⟨0, by decide +kernel⟩ (by decide +kernel)

theorem survived_heartbeatLost : heartbeatLost.Survived := by
  have hrts : startRTS 21 = 21000000000 := startRTS_eq (n := 21000000000) (by norm_num)
  refine ⟨⟨_, (run_served.weaken fun _ _ h => h.1).append_allowed ?_⟩, ?_⟩
  · refine ⟨⟨?_, trivial⟩, ⟨?_, trivial⟩, ⟨?_, trivial⟩, ⟨le_rfl, trivial⟩,
      ⟨le_rfl, reported_started hrts⟩, trivial⟩
    · show (103 / 10 : ℝ) ≤ 20
      norm_num
    · show (20 : ℝ) ≤ 21
      norm_num
    · show (21 : ℝ) ≤ 22
      norm_num
  · exact not_noticed hrts (by norm_num) rfl rfl rfl (by decide +kernel) rfl
      ⟨0, by decide +kernel⟩ (by decide +kernel)

/-- On the first timeline the session stays active, since it was established after the start of
the second in which the UPF has restarted.  On the second one it stays active, since there is no
baseline to compare with.  On the third one it is released with a request to the UPF. -/
theorem sessions_survive_restart :
    start.Started ∧ sameSecond.Survived ∧ noBaseline.Survived ∧ heartbeatLost.Survived :=
  ⟨started_start, survived_sameSecond, survived_noBaseline, survived_heartbeatLost⟩

end Timeline

end Claudia5gc.Smf
