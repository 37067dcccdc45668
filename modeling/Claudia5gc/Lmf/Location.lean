import Claudia5gc.Go.Run
import Mathlib.Logic.Function.Basic

/-!
# The location requests of one UE

A DetermineLocation leaves its cancel function in `pendingLoc`, which has one entry for a UE.
-/

namespace Claudia5gc.Lmf

open Go Function

inductive Phase where
  | received
  | locating (cancelled : Bool)
  | finished
  deriving DecidableEq

def Phase.cancel : Phase → Phase
  | .locating _ => .locating true
  | p => p

/-- The store and the deferred delete of a DetermineLocation; the load of a CancelLocation, with the
call of what it loaded, and its delete. -/
inductive Event where
  | register (r : Nat)
  | finish (r : Nat)
  | load (c : Nat)
  | delete (c : Nat)

/-- A cancel function is known by its request. `last` is the last change of the entry. -/
structure Server where
  pendingLoc : Option Nat := none
  phase : Nat → Phase := fun _ => .received
  loaded : Nat → Bool := fun _ => false
  last : Option Event := none

/-- A step that is not the next one of its request changes nothing. -/
def Server.next (s : Server) (e : Event) : Server :=
  match e with
  | .register r =>
    match s.phase r with
    | .received =>
      { s with pendingLoc := some r, phase := update s.phase r (.locating false), last := e }
    | _ => s
  | .finish r =>
    match s.phase r with
    | .locating _ =>
      { s with pendingLoc := none, phase := update s.phase r .finished, last := e }
    | _ => s
  | .load c =>
    match s.pendingLoc with
    | some r =>
      { s with phase := update s.phase r (s.phase r).cancel, loaded := update s.loaded c true }
    | none => s
  | .delete c =>
    if s.loaded c then
      { s with pendingLoc := none, loaded := update s.loaded c false, last := e }
    else s

/-- The request has stored its cancel function and not deleted it. -/
def Server.InProgress (s : Server) (r : Nat) : Prop := ∃ cancelled, s.phase r = .locating cancelled

/-- A CancelLocation cancels all requests in progress, and the end of a request leaves the entry of
another one. -/
def Reaches (s : Server) (e : Event) : Prop :=
  match e with
  | .load _ => ∀ r, (s.next e).phase r ≠ .locating false
  | .finish r => ∀ r', r' ≠ r → s.InProgress r' → s.pendingLoc = some r' →
      (s.next e).pendingLoc = some r'
  | .register _ | .delete _ => True

/-- A CancelLocation comes when the last change was the store of the only request that is in
progress and not cancelled, and no request ends when the last change was the store of another. -/
def Undisturbed (s : Server) : Event → Prop
  | .load _ => ∀ r, s.phase r = .locating false → s.last = some (.register r)
  | .finish r => s.InProgress r → ∀ r', r' ≠ r → s.InProgress r' → s.last ≠ some (.register r')
  | .register _ | .delete _ => True

/-- The entry is that of the last change. -/
def Server.Inv (s : Server) : Prop := ∀ r, s.pendingLoc = some r ↔ s.last = some (.register r)

variable {s : Server}

theorem phase_load (c r : Nat) : (s.next (.load c)).phase r =
    if s.pendingLoc = some r then (s.phase r).cancel else s.phase r := by
  unfold Server.next
  cases hslot : s.pendingLoc with
  | none => simp
  | some p =>
    by_cases hp : p = r
    · simp [hp]
    · simp [hp, update_of_ne (Ne.symm hp)]

theorem Phase.cancel_ne (p : Phase) : p.cancel ≠ .locating false := by
  cases p <;> simp [cancel]

theorem reaches_iff (h : s.Inv) (e : Event) : Reaches s e ↔ Undisturbed s e := by
  cases e with
  | register r | delete c => exact Iff.rfl
  | load c =>
    refine forall_congr' fun r => ?_
    rw [phase_load, ← h r]
    split
    · next hslot => simp [hslot, Phase.cancel_ne]
    · next hslot => simp [hslot]
  | finish r =>
    simp only [Reaches, Undisturbed, Server.next, Ne, ← h _]
    cases hphase : s.phase r with
    | received | finished => simp [Server.InProgress, hphase]
    | locating cancelled => simp [show s.InProgress r from ⟨_, hphase⟩]

theorem inv_next (h : s.Inv) (e : Event) : (s.next e).Inv := by
  intro r'
  cases e with
  | register r | finish r | delete c =>
    unfold Server.next
    dsimp only
    split
    · simp
    · exact h r'
  | load c =>
    unfold Server.next
    dsimp only
    split <;> exact h r'

/-- Over every interleaving, each CancelLocation cancels all requests in progress and no request
removes the entry of another when it ends, exactly when none is disturbed. -/
theorem cancelLocation_reaches_iff (es : List Event) :
    (∀ pre e, pre ++ [e] <+: es → Reaches (pre.foldl Server.next {}) e) ↔
      ∀ pre e, pre ++ [e] <+: es → Undisturbed (pre.foldl Server.next {}) e :=
  forall_steps_iff Server.next (I := Server.Inv) (fun _ e h => reaches_iff h e)
    (fun _ e h _ => inv_next h e) (fun _ => by simp) es

/-- Of two requests that overlap, a CancelLocation misses the first, and after the end of the first
it misses the second. -/
theorem overlapping_requests_missed :
    let s := [Event.register 0, .register 1].foldl Server.next {}
    (s.next (.load 0)).phase 0 = .locating false ∧ (s.next (.finish 0)).pendingLoc = none ∧
      ((s.next (.finish 0)).next (.load 0)).phase 1 = .locating false := by
  decide

end Claudia5gc.Lmf
