import Claudia5gc.Go.Run

/-!
# The serial queue of a UE

`EnqueueSerial` appends a task under `taskMu` and starts a drain goroutine unless
`taskDraining` says that there is one.  A step is one section under the mutex, the start of a
goroutine or the end of a task.  Calls are possible at any time, so a task may make them too.
-/

namespace Claudia5gc.Amf

open Go List

variable {τ : Type}

/-- What a drain goroutine does next: begin, as the call that set `taskDraining` has still to
execute its `go`, lock `taskMu`, or return from a task. -/
inductive Drainer (τ : Type) where
  | starting
  | locking
  | running (next : τ)

def Drainer.task? : Drainer τ → Option τ
  | running next => some next
  | _ => none

/-- The queue with its goroutines; `appended`, `started` and `finished` list the tasks in the
order in which that happened to them. -/
structure TaskQueue (τ : Type) where
  taskQueue : List τ := []
  taskDraining : Bool := false
  drainers : List (Drainer τ) := []
  appended : List τ := []
  started : List τ := []
  finished : List τ := []

namespace TaskQueue

def enqueueSerial (s : TaskQueue τ) (f : τ) : TaskQueue τ :=
  let s := { s with taskQueue := s.taskQueue ++ [f], appended := s.appended ++ [f] }
  if s.taskDraining then s
  else { s with taskDraining := true, drainers := s.drainers ++ [.starting] }

def drain (s : TaskQueue τ) (i : Nat) : Option (TaskQueue τ) :=
  match s.drainers[i]?, s.taskQueue with
  | none, _ => none
  | some .starting, _ => some { s with drainers := s.drainers.set i .locking }
  | some .locking, [] =>
    some { s with taskDraining := false, drainers := s.drainers.eraseIdx i }
  | some .locking, next :: rest =>
    some { s with
      taskQueue := rest, drainers := s.drainers.set i (.running next),
      started := s.started ++ [next] }
  | some (.running next), _ =>
    some { s with drainers := s.drainers.set i .locking, finished := s.finished ++ [next] }

inductive Label (τ : Type) where
  | enqueueSerial (f : τ)
  | drain (i : Nat)

def Label.isDrain : Label τ → Bool
  | drain _ => true
  | _ => false

def step : System (TaskQueue τ) (Label τ)
  | s, .enqueueSerial f, s' => s' = s.enqueueSerial f
  | s, .drain i, s' => s.drain i = some s'

/-- The flag stands for the one goroutine, and one that has gone has left nothing behind. -/
structure Serial (s : TaskQueue τ) : Prop where
  order : s.started ++ s.taskQueue = s.appended
  alone : s.finished ++ s.drainers.filterMap Drainer.task? = s.started
  drained : s.taskDraining = false ∧ s.drainers = [] ∧ s.taskQueue = [] ∨
    s.taskDraining = true ∧ ∃ d, s.drainers = [d]

variable {s s' t : TaskQueue τ} {l : Label τ} {ls : List (Label τ)} {n : Nat}

theorem Serial.finished_eq (h : Serial s) (hqueue : s.taskQueue = [])
    (hnone : s.drainers.filterMap Drainer.task? = []) : s.finished = s.appended := by
  rw [← h.order, ← h.alone, hqueue, hnone, append_nil, append_nil]

/-- What a step of the one goroutine does. -/
theorem Serial.drain_cases (h : Serial s) {i : Nat} (hd : s.drain i = some s') :
    s.taskDraining = true ∧ ((s.drainers = [.starting] ∧ s' = { s with drainers := [.locking] }) ∨
        (s.drainers = [.locking] ∧ s.taskQueue = [] ∧
          s' = { s with taskDraining := false, drainers := [] }) ∨
        (∃ next rest, s.drainers = [.locking] ∧ s.taskQueue = next :: rest ∧ s' = { s with
            taskQueue := rest, drainers := [.running next], started := s.started ++ [next] }) ∨
        ∃ next, s.drainers = [.running next] ∧
          s' = { s with drainers := [.locking], finished := s.finished ++ [next] }) := by
  obtain ⟨-, hnone, -⟩ | ⟨hdraining, d, hone⟩ := h.drained
  · simp [drain, hnone] at hd
  · refine ⟨hdraining, ?_⟩
    cases i with
    | succ i => simp [drain, hone] at hd
    | zero => cases d <;> cases hq : s.taskQueue <;> simp_all [drain]

theorem Serial.next (h : Serial s) (hs : step s l s') : Serial s' := by
  cases l with
  | enqueueSerial f =>
    obtain rfl := hs
    have horder : s.started ++ (s.taskQueue ++ [f]) = s.appended ++ [f] := by
      rw [← h.order, append_assoc]
    have halone := h.alone
    obtain ⟨hidle, hnone, -⟩ | ⟨hdraining, d, hone⟩ := h.drained
    · rw [hnone] at halone
      simpa [enqueueSerial, hidle, hnone] using
        ⟨horder, halone, .inr ⟨rfl, _, rfl⟩⟩
    · simpa [enqueueSerial, hdraining] using ⟨horder, halone, .inr ⟨rfl, d, hone⟩⟩
  | drain i =>
    obtain ⟨hdraining, ⟨hd, rfl⟩ | ⟨hd, hq, rfl⟩ | ⟨next, rest, hd, hq, rfl⟩ |
      ⟨next, hd, rfl⟩⟩ := h.drain_cases hs
    all_goals have halone := hd ▸ h.alone
    · exact ⟨h.order, halone, .inr ⟨hdraining, _, rfl⟩⟩
    · exact ⟨h.order, halone, .inl ⟨rfl, rfl, hq⟩⟩
    · refine ⟨?_, ?_, .inr ⟨hdraining, _, rfl⟩⟩
      · simpa [hq] using h.order
      · simpa [filterMap_cons, Drainer.task?] using halone
    · exact ⟨h.order, by simpa [filterMap_cons, Drainer.task?] using halone,
        .inr ⟨hdraining, _, rfl⟩⟩

/-- The drain steps until task `n` has finished. -/
def remaining (n : Nat) (s : TaskQueue τ) : Nat :=
  if n < s.finished.length then 0
  else 2 * (n - s.finished.length) + match s.drainers with
    | [.starting] => 3
    | [.locking] => 2
    | _ => 1

theorem Serial.progress (h : Serial s) (hs : step s l s') (hn : n < s.appended.length) :
    s.appended <+: s'.appended ∧ s'.remaining n ≤ s.remaining n - [l].countP Label.isDrain := by
  cases l with
  | enqueueSerial f =>
    obtain rfl := hs
    obtain ⟨hidle, hnone, hqueue⟩ | ⟨hdraining, -⟩ := h.drained
    · have hall := h.finished_eq hqueue (by rw [hnone]; rfl)
      simp [enqueueSerial, hidle, remaining, hall, hn]
    · simp [enqueueSerial, hdraining, remaining, Label.isDrain]
  | drain i =>
    obtain ⟨-, ⟨hd, rfl⟩ | ⟨hd, hq, rfl⟩ | ⟨next, rest, hd, hq, rfl⟩ | ⟨next, hd, rfl⟩⟩ :=
      h.drain_cases hs
    · simp [hd, remaining, Label.isDrain]
      grind
    · have hall := h.finished_eq hq (by rw [hd]; rfl)
      simp [remaining, hall, hn]
    · simp [hd, remaining, Label.isDrain]
      grind
    · simp [hd, remaining, Label.isDrain]
      grind

theorem Serial.run (h : Serial s) (run : Run step s ls t) (hn : n < s.appended.length) :
    Serial t ∧ s.appended <+: t.appended ∧
      t.remaining n ≤ s.remaining n - ls.countP Label.isDrain := by
  induction run with
  | nil => exact ⟨h, prefix_rfl, by simp⟩
  | snoc _ l last ih =>
    obtain ⟨ht, happ, hrem⟩ := ih
    obtain ⟨happ', hrem'⟩ := ht.progress last (Nat.lt_of_lt_of_le hn happ.length_le)
    refine ⟨ht.next last, happ.trans happ', Nat.le_trans hrem' ?_⟩
    rw [countP_append, ← Nat.sub_sub]
    exact Nat.sub_le_sub_right hrem _

theorem Serial.goroutine (h : Serial s) :
    s.drainers.length ≤ 1 ∧ (s.drainers = [] → s.taskQueue = []) ∧
      (s.finished ≠ s.appended → (s.drain 0).isSome) := by
  obtain ⟨-, hnone, hqueue⟩ | ⟨-, d, hone⟩ := h.drained
  · simp [hnone, hqueue, h.finished_eq hqueue (by rw [hnone]; rfl)]
  · cases d <;> cases hq : s.taskQueue <;> simp [drain, hone, hq]

end TaskQueue

end Claudia5gc.Amf
