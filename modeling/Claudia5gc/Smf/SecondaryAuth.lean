import Claudia5gc.Smf.AddressConservation

/-!
# The outcome of a secondary authentication

An SM context that waits for its secondary authentication should come to one end.  Either one
session is created and keeps the addresses, or the establishment is rejected, the addresses go back
once, and neither a session nor a PFCP session is there.
-/

namespace Claudia5gc.Smf

open Go Server AList

/-- How far the handler of an AUTH COMPLETE has come, with its local variables. -/
inductive Call where
  | lookedUp (pending : PendingSecondaryAuth)
  | relayed (pending : PendingSecondaryAuth) (aaa : Server.AAAResult)
  deriving DecidableEq

/-- The two ends. -/
inductive Terminal where
  | completed
  | rejected
  deriving DecidableEq

def terminalOf : Server.AAAResult → Terminal
  | .success => .completed
  | .unreachable | .failure => .rejected

/-- The server, the handlers that are under way, and the ends that were come to. -/
structure AuthState where
  server : Server
  calls : List Call := []
  terminals : List Terminal := []

inductive AuthStep where
  /-- A message arrives; its EAP message may be malformed. -/
  | lookup (malformed : Option Error)
  /-- The DN-AAA server answers a handler. -/
  | relay (call : Nat) (aaa : Server.AAAResult)
  /-- A handler that has its answer completes or rejects. -/
  | conclude (call : Nat) (qos : SmPolicyQoS) (now : Time)

namespace AuthState

def next (ref : Nat) (st : AuthState) : AuthStep → AuthState
  | .lookup (some _) => st
  | .lookup none =>
    match st.server.getPendingAuth ref with
    | none => st
    | some pending => { st with calls := st.calls ++ [.lookedUp pending] }
  | .relay i aaa =>
    match st.calls[i]? with
    | some (.lookedUp pending) => { st with calls := st.calls.set i (.relayed pending aaa) }
    | _ => st
  | .conclude i qos now =>
    match st.calls[i]? with
    | some (.relayed pending aaa) =>
      { server := st.server.concludeSecondaryAuth pending aaa qos now
        calls := st.calls.eraseIdx i
        terminals := st.terminals ++ [terminalOf aaa] }
    | _ => st

theorem handleSecondaryAuthComplete_eq_steps (s : Server) (req : Server.AuthComplete) :
    (s.handleSecondaryAuthComplete req).2 =
      ([AuthStep.lookup req.malformed, .relay 0 req.aaa, .conclude 0 req.qos req.now].foldl
        (next req.smContextRef) { server := s }).server := by
  unfold handleSecondaryAuthComplete
  cases hmal : req.malformed with
  | some e => rfl
  | none =>
    cases hp : s.getPendingAuth req.smContextRef with
    | none | some pending => simp [next, hp]

/-! ## What should hold -/

structure Waits (s : Server) (ref : Nat) (pending : PendingSecondaryAuth) : Prop where
  pending_eq : s.pendingAuth.lookup ref = some pending
  ref_eq : pending.smContextRef = ref
  session : s.sessions.lookup ref = none
  taken4 : ∀ r, s.leaseIPv4 pending.dnn pending.ipv4 = some r → r ∈ s.takenIPv4
  taken6 : ∀ r, leaseIPv6 pending.dnn pending.v6Prefix = some r → r ∈ s.takenIPv6

theorem waits_of_inv {s : Server} (h : s.Inv) {ref : Nat} {pending : PendingSecondaryAuth}
    (hp : s.pendingAuth.lookup ref = some pending) : Waits s ref pending := by
  obtain ⟨hheld4, hheld6, _, _⟩ := h.pending_held hp
  exact ⟨hp, (h.pending_lt ref pending hp).2, h.apart ref pending hp,
    fun r hr => (h.ipv4.taken_iff r).2 ⟨_, hheld4.trans hr⟩,
    fun r hr => (h.ipv6.taken_iff r).2 ⟨_, hheld6.trans hr⟩⟩

structure Created (s s' : Server) (ref : Nat) (pending : PendingSecondaryAuth) : Prop where
  pending_eq : s'.pendingAuth.lookup ref = none
  one : s'.heap.next = s.heap.next + 1
  session : s'.sessions.lookup ref = some s.heap.next
  addresses : (s'.heap.get s.heap.next).addresses = (pending.dnn, pending.ipv4, pending.v6Prefix)
  established : s'.tasks = s.tasks ++
    if pending.ipv4.isSome ∨ pduTypeNeedsIPv6 pending.grantedType then
      [.sendPFCPSessionEstablishment s.heap.next] else []
  taken4 : s'.takenIPv4 = s.takenIPv4
  taken6 : s'.takenIPv6 = s.takenIPv6

structure Rejected (s s' : Server) (ref : Nat) (pending : PendingSecondaryAuth) : Prop where
  pending_eq : s'.pendingAuth.lookup ref = none
  none : s'.heap.next = s.heap.next
  session : s'.sessions.lookup ref = Option.none
  established : s'.tasks = s.tasks
  taken4 : s'.takenIPv4 = {r | r ∈ s.takenIPv4 ∧ s.leaseIPv4 pending.dnn pending.ipv4 ≠ some r}
  taken6 : s'.takenIPv6 = {r | r ∈ s.takenIPv6 ∧ leaseIPv6 pending.dnn pending.v6Prefix ≠ some r}

/-- At most one end was come to since the context began to wait in `s`, with its effects and
no others. -/
def OneOutcome (s : Server) (ref : Nat) (pending : PendingSecondaryAuth) (st : AuthState) : Prop :=
  (st.terminals = [] ∧ st.server = s) ∨
    (st.terminals = [.completed] ∧ Created s st.server ref pending) ∨
    (st.terminals = [.rejected] ∧ Rejected s st.server ref pending)

/-! ## One handler at a time -/

section Conclude

variable {s : Server} {ref : Nat} {pending : PendingSecondaryAuth}

theorem tasks_releaseIPv4 (s : Server) (dnn : String) (ip : Option Bytes) :
    (s.releaseIPv4 dnn ip).tasks = s.tasks := by
  unfold releaseIPv4
  split
  · rfl
  · split <;> rfl

theorem tasks_releaseIPv6 (s : Server) (dnn : String) (net : Option Bytes) :
    (s.releaseIPv6 dnn net).tasks = s.tasks := by
  unfold releaseIPv6
  split
  · rfl
  · split <;> rfl

theorem Waits.complete (h : Waits s ref pending) (qos : SmPolicyQoS) (now : Time) :
    Created s (s.completeSecondaryAuth pending qos now) ref pending := by
  obtain rfl := h.ref_eq
  refine ⟨lookup_erase .., rfl, lookup_insert .., ?_, ?_, rfl, rfl⟩
  · show ((s.heap.new _).2.get s.heap.next).addresses = _
    rw [Heap.get_new, if_pos rfl]
    rfl
  · show (if pending.ipv4.isSome = true ∨ pduTypeNeedsIPv6 pending.grantedType = true then
      s.tasks ++ [.sendPFCPSessionEstablishment s.heap.next] else s.tasks) = _
    split <;> simp

theorem Waits.reject (h : Waits s ref pending) :
    Rejected s (s.rejectSecondaryAuth pending) ref pending := by
  obtain rfl := h.ref_eq
  have hback := givesBack_release
    { s.deletePendingAuth pending.smContextRef with
      sessions := s.sessions.erase pending.smContextRef }
    pending.dnn pending.ipv4 pending.v6Prefix h.taken6
  have hsame := hback.holders
  refine ⟨?_, hsame.next, ?_, ?_, hback.taken4, hback.taken6⟩
  · exact (congrArg (lookup _) hsame.pendingAuth).trans (lookup_erase ..)
  · exact (congrArg (lookup _) hsame.sessions).trans (lookup_erase ..)
  · exact (tasks_releaseIPv6 ..).trans (tasks_releaseIPv4 ..)

end Conclude

/-- No AUTH COMPLETE is looked up while another one is under way. -/
def OneAtATime (st : AuthState) : AuthStep → Prop
  | .lookup _ => st.calls = []
  | _ => True

/-- A handler is under way only while nothing has happened to the context, and then it is the
only one. -/
structure Inv (s : Server) (ref : Nat) (pending : PendingSecondaryAuth) (st : AuthState) :
    Prop where
  outcome : OneOutcome s ref pending st
  calls : st.calls = [] ∨ (st.server = s ∧ st.terminals = [] ∧
    (st.calls = [.lookedUp pending] ∨ ∃ aaa, st.calls = [.relayed pending aaa]))

section Inv

variable {s : Server} {ref : Nat} {pending : PendingSecondaryAuth} {st : AuthState}

theorem Inv.getElem?_calls (h : Inv s ref pending st) {i : Nat} {call : Call}
    (hi : st.calls[i]? = some call) : i = 0 ∧ st.calls = [call] ∧ st.server = s ∧
      st.terminals = [] ∧ (call = .lookedUp pending ∨ ∃ aaa, call = .relayed pending aaa) := by
  rcases h.calls with hnil | ⟨hs, ht, hone⟩
  · simp [hnil] at hi
  · obtain ⟨c, hc, hkind⟩ : ∃ c, st.calls = [c] ∧
        (c = .lookedUp pending ∨ ∃ aaa, c = .relayed pending aaa) := by
      rcases hone with hc | ⟨aaa, hc⟩
      · exact ⟨_, hc, .inl rfl⟩
      · exact ⟨_, hc, .inr ⟨aaa, rfl⟩⟩
    rw [hc, List.getElem?_eq_some_iff] at hi
    obtain ⟨hlt, hcall⟩ := hi
    obtain rfl : i = 0 := by simpa using hlt
    obtain rfl : c = call := hcall
    exact ⟨rfl, hc, hs, ht, hkind⟩

theorem Inv.next (hw : Waits s ref pending) (h : Inv s ref pending st) (l : AuthStep)
    (hone : st.OneAtATime l) : Inv s ref pending (st.next ref l) := by
  cases l with
  | lookup malformed =>
    cases malformed with
    | some e => exact h
    | none =>
      simp only [AuthState.next]
      split
      · exact h
      · rename_i pending' hp
        have hnil : st.calls = [] := hone
        -- the pending state is there, so no end was come to
        rcases h.outcome with ⟨hterm, hs⟩ | ⟨_, hcreated⟩ | ⟨_, hrejected⟩
        · rw [hs, getPendingAuth, hw.pending_eq] at hp
          obtain rfl := Option.some.inj hp
          exact ⟨.inl ⟨hterm, hs⟩, .inr ⟨hs, hterm, .inl (by simp [hnil])⟩⟩
        · exact absurd (hcreated.pending_eq.symm.trans hp) (by simp)
        · exact absurd (hrejected.pending_eq.symm.trans hp) (by simp)
  | relay i aaa =>
    simp only [AuthState.next]
    split
    · rename_i pending' hi
      obtain ⟨rfl, hcalls, hs, hterm, hkind⟩ := h.getElem?_calls hi
      obtain rfl : pending' = pending := by simpa using hkind
      exact ⟨.inl ⟨hterm, hs⟩, .inr ⟨hs, hterm, .inr ⟨aaa, by simp [hcalls]⟩⟩⟩
    · exact h
  | conclude i qos now =>
    simp only [AuthState.next]
    split
    · rename_i pending' aaa hi
      obtain ⟨rfl, hcalls, hs, hterm, hkind⟩ := h.getElem?_calls hi
      obtain rfl : pending' = pending := by
        rcases hkind with hkind | ⟨_, hkind⟩
        · cases hkind
        · exact (Call.relayed.inj hkind).1
      refine ⟨?_, .inl (by simp [hcalls])⟩
      rw [OneOutcome, hs, hterm]
      cases aaa with
      | success => exact .inr (.inl ⟨rfl, hw.complete qos now⟩)
      | unreachable | failure => exact .inr (.inr ⟨rfl, hw.reject⟩)
    · exact h

end Inv

/-- In every interleaving in which no AUTH COMPLETE is looked up while another one is under
way, the secondary authentication comes to at most one end. -/
theorem secondary_auth_one_outcome {s : Server} {ref : Nat} {pending : PendingSecondaryAuth}
    (hw : Waits s ref pending) {st : AuthState} {steps : List AuthStep}
    (run : Run ((System.ofFun (AuthState.next ref)).when OneAtATime) { server := s } steps st) :
    OneOutcome s ref pending st := by
  have hinit : Inv s ref pending { server := s } := ⟨.inl ⟨rfl, rfl⟩, .inl rfl⟩
  refine (run.invariant hinit ?_).outcome
  rintro st l _ h ⟨hone, rfl⟩
  exact h.next hw l hone

def waiting : Server :=
  { onePool with secondaryAuthDNNs := ["internet"] }.next
    (.createSMContext { dnn := "internet", n2SmInfo := .ok [] })

def waitingPending : PendingSecondaryAuth where
  smContextRef := 0
  supi := ""
  dnn := "internet"
  pduSessionID := 1
  grantedType := pduSessionTypeIPv4
  ipv4 := some [10, 45, 0, 2]
  v6Prefix := none
  ulTEID := 1
  seid := 1

theorem waits_waiting : Waits waiting 0 waitingPending := by
  have hstarted := started_onePool
  have hinv : ({ onePool with secondaryAuthDNNs := ["internet"] } : Server).Inv :=
    Server.Started.inv
      ⟨hstarted.sessions, hstarted.pendingAuth, hstarted.ipv4, hstarted.ipv6⟩
  have hencodes : Server.Encodes { onePool with secondaryAuthDNNs := ["internet"] }
      (.createSMContext { dnn := "internet", n2SmInfo := .ok [] }) := Or.inr ⟨[], rfl⟩
  exact waits_of_inv (hinv.next _ hencodes) (by decide +kernel)

/-- One AUTH COMPLETE to its end. -/
theorem secondary_auth_one_outcome_waiting : OneOutcome waiting 0 waitingPending
      ([AuthStep.lookup none, .relay 0 .success, .conclude 0 {} 0].foldl (next 0)
        { server := waiting }) := by
  have hrun : Run ((System.ofFun (AuthState.next 0)).when OneAtATime) { server := waiting } []
      { server := waiting } := Run.nil
  exact secondary_auth_one_outcome waits_waiting
    (((hrun.snoc (.lookup none) ⟨rfl, rfl⟩).snoc (.relay 0 .success) ⟨trivial, rfl⟩).snoc
      (.conclude 0 {} 0) ⟨trivial, rfl⟩)

/-- Two AUTH COMPLETE messages, the second of which arrives while the DN-AAA server is asked
about the first; it answers the first and cannot be reached for the second. -/
def twoCompletes : AuthState :=
  [AuthStep.lookup none, .lookup none, .relay 0 .success, .relay 1 .unreachable,
    .conclude 0 {} 0, .conclude 0 {} 0].foldl (next 0) { server := waiting }

/-- The session is created and established at the UPF, and then it is taken away and its
address is free. -/
theorem completed_and_rejected :
    Waits waiting 0 waitingPending ∧ ¬ OneOutcome waiting 0 waitingPending twoCompletes ∧
      twoCompletes.terminals = [.completed, .rejected] ∧
      twoCompletes.server.tasks = [.sendPFCPSessionEstablishment 0] ∧
      twoCompletes.server.sessions.lookup 0 = none ∧
      (twoCompletes.server.ipPools.lookup "internet").map (·.allocated) = some ∅ := by
  have hterminals : twoCompletes.terminals = [.completed, .rejected] := by decide +kernel
  refine ⟨waits_waiting, ?_, hterminals, by decide +kernel, by decide +kernel, by decide +kernel⟩
  rintro (⟨hnone, _⟩ | ⟨hone, _⟩ | ⟨hone, _⟩)
  · exact absurd (hterminals.symm.trans hnone) (by decide)
  · exact absurd (hterminals.symm.trans hone) (by decide)
  · exact absurd (hterminals.symm.trans hone) (by decide)

end AuthState

end Claudia5gc.Smf
