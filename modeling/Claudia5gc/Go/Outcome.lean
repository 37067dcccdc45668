import Mathlib.Logic.Basic
import Mathlib.Tactic.Common

/-!
# What a Go call can do

A Go call returns a value, returns an error, panics, or does not return.  `Proc σ α` is a call that
also reads and writes a state, which survives an error and a panic.  A slice expression may run up
to the capacity in Go; the model has none, so `slice` panics as soon as `hi` is above the length.
-/

namespace Claudia5gc.Go

variable {i : Nat} {text : String} {c : Prop}

/-- A byte slice.  A nil slice and an empty slice are the same value here. -/
abbrev Bytes := List UInt8

inductive Error where
  | new (text : String)
  | sentinel (text : String)
  | wrap (text : String) (cause : Error)
  deriving DecidableEq

def eof : Error := .sentinel "EOF"

/-- `errors.Is(err, target)` for a sentinel target: unwrap until it is met. -/
def Error.is (target : Error) : Error → Bool
  | .wrap text cause => decide (.wrap text cause = target) || is target cause
  | e => decide (e = target)

/-- The four ways in which a call can end. -/
inductive Outcome (α : Type) where
  | ok (value : α)
  | err (error : Error)
  | panic
  | hang
  deriving DecidableEq

namespace Outcome

variable {α β : Type}

/-- Sequencing: only `ok` goes on to the next statement. -/
protected def bind (x : Outcome α) (f : α → Outcome β) : Outcome β :=
  match x with
  | .ok a => f a
  | .err e => .err e
  | .panic => .panic
  | .hang => .hang

instance : Monad Outcome where
  pure := .ok
  bind := Outcome.bind

@[simp] theorem pure_eq (a : α) : (pure a : Outcome α) = .ok a := rfl

section

variable (f : α → Outcome β)

@[simp] theorem ok_bind (a : α) : (.ok a >>= f) = f a := rfl

@[simp] theorem err_bind (e : Error) : ((.err e : Outcome α) >>= f) = .err e := rfl

@[simp] theorem panic_bind : ((.panic : Outcome α) >>= f) = .panic := rfl

@[simp] theorem hang_bind : ((.hang : Outcome α) >>= f) = .hang := rfl

end

/-- The call comes back to its caller, with a value or with an error. -/
def Returns : Outcome α → Prop
  | .ok _ | .err _ => True
  | .panic | .hang => False

instance (x : Outcome α) : Decidable x.Returns :=
  match x with
  | .ok _ | .err _ => isTrue trivial
  | .panic | .hang => isFalse id

@[simp] theorem returns_ok (a : α) : (ok a).Returns := trivial
@[simp] theorem returns_err (e : Error) : (err e : Outcome α).Returns := trivial
@[simp] theorem not_returns_panic : ¬(panic : Outcome α).Returns := id
@[simp] theorem not_returns_hang : ¬(hang : Outcome α).Returns := id

variable {x : Outcome α}

theorem returns_iff : x.Returns ↔ (∃ a, x = .ok a) ∨ ∃ e, x = .err e := by
  cases x <;> simp

variable {f : α → Outcome β}

/-- A sequence returns when the first call returns and the second one does on
every value that the first can hand over. -/
theorem Returns.bind (hx : x.Returns)
    (hf : ∀ a, x = .ok a → (f a).Returns) : (x >>= f).Returns := by
  cases x with
  | ok a => exact hf a rfl
  | err e => trivial
  | panic | hang => exact hx

theorem ok_ne_err (a : α) (e : Error) : ok a ≠ .err e := nofun

theorem bind_ne_err (hx : ∀ e, x ≠ .err e)
    (hf : ∀ a e, f a ≠ .err e) (e : Error) : (x >>= f) ≠ .err e := by
  cases x with
  | ok a => exact hf a e
  | err e' => exact absurd rfl (hx e')
  | panic | hang => exact nofun

/-- A sequence that comes to a value has come to one in its first half. -/
theorem bind_eq_ok {b : β} : (x >>= f) = .ok b ↔ ∃ a, x = .ok a ∧ f a = .ok b := by
  cases x with
  | ok a =>
    constructor
    · exact fun h => ⟨a, rfl, h⟩
    · rintro ⟨a', ha, h⟩
      obtain rfl := ok.inj ha
      exact h
  | err e | panic | hang => simp

@[simp] theorem returns_map (f : α → β) (x : Outcome α) : (f <$> x).Returns ↔ x.Returns := by
  cases x <;> exact Iff.rfl

theorem returns_ite [Decidable c] {x y : Outcome α} (hx : c → x.Returns)
    (hy : ¬c → y.Returns) : (if c then x else y).Returns := by
  split
  · exact hx ‹_›
  · exact hy ‹_›

/-- The call comes to a value. -/
def Ends : Outcome α → Prop
  | .ok _ => True
  | .err _ | .panic | .hang => False

@[simp] theorem ends_ok (a : α) : (ok a).Ends := trivial

theorem ends_iff : x.Ends ↔ ∃ a, x = .ok a := by
  cases x <;> simp [Ends]

theorem Ends.bind (hx : x.Ends) (hf : ∀ a, x = .ok a → (f a).Ends) : (x >>= f).Ends := by
  obtain ⟨a, rfl⟩ := ends_iff.1 hx
  exact hf a rfl

theorem ends_ite [Decidable c] {x y : Outcome α} (hx : c → x.Ends)
    (hy : ¬c → y.Ends) : (if c then x else y).Ends := by
  split
  · exact hx ‹_›
  · exact hy ‹_›

end Outcome

/-! ## Index and slice expressions -/

section Slices

variable {α : Type}

def index (b : List α) (i : Nat) : Outcome α :=
  match b[i]? with
  | some x => .ok x
  | none => .panic

def slice (b : List α) (lo hi : Nat) : Outcome (List α) :=
  if lo ≤ hi ∧ hi ≤ b.length then .ok ((b.drop lo).take (hi - lo)) else .panic

def sliceFrom (b : List α) (lo : Nat) : Outcome (List α) :=
  if lo ≤ b.length then .ok (b.drop lo) else .panic

variable {b : List α}

theorem index_of_lt (h : i < b.length) : index b i = .ok b[i] := by
  simp [index, h]

theorem index_of_ge (h : b.length ≤ i) : index b i = .panic := by
  simp [index, h]

theorem index_ne_err (b : List α) (i : Nat) (e : Error) : index b i ≠ .err e := by
  rcases Nat.lt_or_ge i b.length with h | h
  · rw [index_of_lt h]
    exact nofun
  · rw [index_of_ge h]
    exact nofun

@[simp] theorem index_cons_zero (a : α) (b : List α) : index (a :: b) 0 = .ok a :=
  rfl

@[simp] theorem index_cons_succ (a : α) (b : List α) (i : Nat) :
    index (a :: b) (i + 1) = index b i := by
  simp [index]

theorem ends_index (h : i < b.length) : (index b i).Ends := by
  simp [index_of_lt h]

theorem slice_of_le {lo hi : Nat} (h : lo ≤ hi) (h' : hi ≤ b.length) :
    slice b lo hi = .ok ((b.drop lo).take (hi - lo)) := by
  simp [slice, h, h']

theorem sliceFrom_of_le {lo : Nat} (h : lo ≤ b.length) : sliceFrom b lo = .ok (b.drop lo) := by
  simp [sliceFrom, h]

end Slices

/-! ## Calls with state -/

/-- A call that reads and writes a state of type `σ`. -/
def Proc (σ α : Type) := σ → Outcome α × σ

namespace Proc

variable {σ α β γ : Type}

variable (x : Proc σ α)

def run (s : σ) : Outcome α × σ := x s

@[ext] theorem ext {x y : Proc σ α} (h : ∀ s, x.run s = y.run s) : x = y :=
  funext h

/-- Sequencing.  The state reached so far is kept whichever way the first call
ends. -/
protected def bind (x : Proc σ α) (f : α → Proc σ β) : Proc σ β := fun s =>
  match x s with
  | (.ok a, s') => f a s'
  | (.err e, s') => (.err e, s')
  | (.panic, s') => (.panic, s')
  | (.hang, s') => (.hang, s')

instance : Monad (Proc σ) where
  pure a := fun s => (.ok a, s)
  bind := Proc.bind

def get : Proc σ σ := fun s => (.ok s, s)

def modify (f : σ → σ) : Proc σ Unit := fun s => (.ok (), f s)

def fail (e : Error) : Proc σ α := fun s => (.err e, s)

/-- A call that has no state of its own. -/
def lift (x : Outcome α) : Proc σ α := fun s => (x, s)

/-- `v, err := f()`: the error becomes a value that the caller looks at. -/
def attempt : Proc σ (Except Error α) := fun s =>
  match x s with
  | (.ok a, s') => (.ok (.ok a), s')
  | (.err e, s') => (.ok (.error e), s')
  | (.panic, s') => (.panic, s')
  | (.hang, s') => (.hang, s')

/-- `v, _ := f()`: on an error the value is the zero value. -/
def orZero (zero : α) (x : Proc σ α) : Proc σ α := fun s =>
  match x s with
  | (.ok a, s') => (.ok a, s')
  | (.err _, s') => (.ok zero, s')
  | (.panic, s') => (.panic, s')
  | (.hang, s') => (.hang, s')

/-- `fmt.Errorf("text: %w", err)` around the error of a call. -/
def wrapErr (text : String) (x : Proc σ α) : Proc σ α := fun s =>
  match x s with
  | (.ok a, s') => (.ok a, s')
  | (.err e, s') => (.err (.wrap text e), s')
  | (.panic, s') => (.panic, s')
  | (.hang, s') => (.hang, s')

@[simp] theorem run_pure (a : α) (s : σ) : (pure a : Proc σ α).run s = (.ok a, s) :=
  rfl

theorem run_bind (f : α → Proc σ β) (s : σ) : (x >>= f).run s = match x.run s with
      | (.ok a, s') => (f a).run s'
      | (.err e, s') => (.err e, s')
      | (.panic, s') => (.panic, s')
      | (.hang, s') => (.hang, s') := rfl

@[simp] theorem run_get (s : σ) : (get : Proc σ σ).run s = (.ok s, s) := rfl

@[simp] theorem run_modify (f : σ → σ) (s : σ) : (modify f).run s = (.ok (), f s) :=
  rfl

@[simp] theorem run_fail (e : Error) (s : σ) : (fail e : Proc σ α).run s = (.err e, s) := rfl

@[simp] theorem run_lift (x : Outcome α) (s : σ) : (lift x).run s = (x, s) := rfl

theorem run_attempt (s : σ) : x.attempt.run s = match x.run s with
      | (.ok a, s') => (.ok (.ok a), s')
      | (.err e, s') => (.ok (.error e), s')
      | (.panic, s') => (.panic, s')
      | (.hang, s') => (.hang, s') := rfl

theorem run_of_attempt_ok {x : Proc σ α} {s s' : σ} {a : α}
    (h : x.attempt.run s = (.ok (.ok a), s')) : x.run s = (.ok a, s') := by
  rw [run_attempt] at h
  split at h <;> simp_all

theorem run_orZero (zero : α) (x : Proc σ α) (s : σ) : (x.orZero zero).run s = match x.run s with
      | (.ok a, s') => (.ok a, s')
      | (.err _, s') => (.ok zero, s')
      | (.panic, s') => (.panic, s')
      | (.hang, s') => (.hang, s') := rfl

theorem run_wrapErr (text : String) (x : Proc σ α) (s : σ) : (x.wrapErr text).run s =
      match x.run s with
      | (.ok a, s') => (.ok a, s')
      | (.err e, s') => (.err (.wrap text e), s')
      | (.panic, s') => (.panic, s')
      | (.hang, s') => (.hang, s') := rfl

theorem snd_run_wrapErr (text : String) (x : Proc σ α) (s : σ) :
    ((x.wrapErr text).run s).2 = (x.run s).2 := by
  rw [run_wrapErr]
  rcases x.run s with ⟨o, s'⟩
  cases o <;> rfl

theorem run_bind_assoc {γ : Type} (x : Proc σ α) (f : α → Proc σ β) (g : β → Proc σ γ) (s : σ) :
    (x >>= f >>= g).run s = (x >>= fun a => f a >>= g).run s := by
  rw [run_bind, run_bind, run_bind]
  rcases x.run s with ⟨o, s'⟩
  cases o with
  | ok a => exact (run_bind (f a) g s').symm
  | err e | panic | hang => rfl

section

variable {x : Proc σ α}

section

variable {s s' : σ}

theorem run_bind_ok {f : α → Proc σ β} {a : α}
    (h : x.run s = (.ok a, s')) : (x >>= f).run s = (f a).run s' := by
  rw [run_bind, h]

/-- A sequence that comes to a value has come to one in its first half. -/
theorem run_bind_eq_ok {f : α → Proc σ β} {b : β} (h : (x >>= f).run s = (.ok b, s')) :
    ∃ a s₁, x.run s = (.ok a, s₁) ∧ (f a).run s₁ = (.ok b, s') := by
  rw [run_bind] at h
  rcases hx : x.run s with ⟨o, s₁⟩
  rw [hx] at h
  cases o with
  | ok a => exact ⟨a, s₁, rfl, h⟩
  | err e | panic | hang => cases h

theorem run_bind_err {f : α → Proc σ β} {e : Error}
    (h : x.run s = (.err e, s')) : (x >>= f).run s = (.err e, s') := by
  rw [run_bind, h]

theorem run_wrapErr_eq_ok {a : α}
    (h : (x.wrapErr text).run s = (.ok a, s')) : x.run s = (.ok a, s') := by
  rw [run_wrapErr] at h
  rcases hrun : x.run s with ⟨o, s₁⟩
  rw [hrun] at h
  cases o with
  | ok b => exact h
  | err e | panic | hang => cases h

theorem run_attempt_eq_ok {r : Except Error α} (h : x.attempt.run s = (.ok r, s')) : match r with
    | .ok a => x.run s = (.ok a, s')
    | .error e => x.run s = (.err e, s') := by
  rw [run_attempt] at h
  rcases hrun : x.run s with ⟨o, s₁⟩
  rw [hrun] at h
  cases o with
  | ok b | err e => cases h; rfl
  | panic | hang => cases h

end

theorem run_wrapErr_lift_eq_ok {x : Outcome α} {a : α}
    (h : ((lift x).wrapErr text).run s = (.ok a, s')) : x = .ok a ∧ s = s' := by
  cases x with
  | ok b => exact Prod.mk.inj h
  | err e | panic | hang => cases h

end

theorem run_wrapErr_lift_bind_iff {x : Outcome α} {f : α → Proc σ β} {s : σ} {b : β} :
    (∃ s', ((lift x).wrapErr text >>= f).run s = (.ok b, s')) ↔
      ∃ a, x = .ok a ∧ ∃ s', (f a).run s = (.ok b, s') := by
  constructor
  · rintro ⟨s', h⟩
    obtain ⟨a, s₁, ha, h⟩ := run_bind_eq_ok h
    obtain ⟨hx, rfl⟩ := run_wrapErr_lift_eq_ok ha
    exact ⟨a, hx, s', h⟩
  · rintro ⟨a, rfl, h⟩
    exact h

end Proc

/-! ## Checks that stop at the first failure

A function that checks its input and returns at the first thing that is wrong is a chain in
`Except`.  These lemmas say what is known when such a chain has come to its end.
-/

section Except

open Except List

variable {ε α β : Type}

theorem Except.bind_eq_ok {x : Except ε α} {f : α → Except ε β} {b : β} :
    (x >>= f) = .ok b ↔ ∃ a, x = .ok a ∧ f a = .ok b := by
  cases x with
  | error e => exact ⟨nofun, nofun⟩
  | ok a =>
    constructor
    · intro h
      exact ⟨a, rfl, h⟩
    · rintro ⟨a', ha, h⟩
      obtain rfl := ok.inj ha
      exact h

/-- A loop of checks comes to its end when each of them does. -/
theorem Except.forM_eq_ok {f : α → Except ε Unit} {l : List α} :
    l.forM f = .ok () ↔ ∀ a ∈ l, f a = .ok () := by
  induction l with
  | nil => simp [forM_eq_forM, pure, Except.pure]
  | cons a l ih =>
    rw [forM_eq_forM] at ih ⊢
    rw [forM_cons, bind_eq_ok, forall_mem_cons]
    constructor
    · rintro ⟨_, ha, hl⟩
      exact ⟨ha, ih.1 hl⟩
    · rintro ⟨ha, hl⟩
      exact ⟨(), ha, ih.2 hl⟩

/-- A loop that reads every element keeps what each of them reads as. -/
theorem Except.mapM_eq_ok {f : α → Except ε β} {l : List α} {l' : List β}
    (h : l.mapM f = .ok l') : l' = l.filterMap fun a => (f a).toOption := by
  induction l generalizing l' with
  | nil =>
    exact (ok.inj h).symm
  | cons a l ih =>
    rw [mapM_cons] at h
    obtain ⟨b, hb, h⟩ := bind_eq_ok.1 h
    obtain ⟨bs, hbs, h⟩ := bind_eq_ok.1 h
    obtain rfl := (ok.inj h).symm
    rw [ih hbs, filterMap_cons_some]
    rw [hb]
    rfl

theorem Except.foldlM_keeps {σ : Type} {f : σ → α → Except ε σ} {P : σ → Prop}
    (hf : ∀ s a s', f s a = .ok s' → P s → P s') {l : List α} {s s' : σ}
    (h : l.foldlM f s = .ok s') (hs : P s) : P s' := by
  induction l generalizing s with
  | nil =>
    obtain rfl := ok.inj h
    exact hs
  | cons a l ih =>
    obtain ⟨s₁, hs₁, h⟩ := bind_eq_ok.1 h
    exact ih h (hf s a s₁ hs₁ hs)

end Except

end Claudia5gc.Go
