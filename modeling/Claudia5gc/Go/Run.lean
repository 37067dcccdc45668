import Mathlib.Data.List.Induction

/-!
# Runs of a system

A system is given by what one step, with its label, may do to a state.  The label says which
operation was called and what the outside world answered, so a statement about every run is one
about every order of the operations and about every answer.
-/

namespace Claudia5gc.Go

variable {σ ℓ : Type} {ls : List ℓ}

/-- What a step labelled `l` may do to a state. -/
abbrev System (σ ℓ : Type) := σ → ℓ → σ → Prop

def System.when (step : System σ ℓ) (ok : σ → ℓ → Prop) : System σ ℓ :=
  fun s l s' => ok s l ∧ step s l s'

inductive Run (step : System σ ℓ) (s : σ) : List ℓ → σ → Prop where
  | nil : Run step s [] s
  | snoc {ls : List ℓ} {t : σ} (run : Run step s ls t) (l : ℓ) {u : σ}
      (last : step t l u) : Run step s (ls ++ [l]) u

theorem Run.of_when {step : System σ ℓ} {ok : σ → ℓ → Prop} {s t : σ}
    (run : Run (step.when ok) s ls t) : Run step s ls t := by
  induction run with
  | nil => exact .nil
  | snoc _ l last ih => exact ih.snoc l last.2

/-- A run under a condition is one under a weaker condition. -/
theorem Run.weaken {step : System σ ℓ} {ok ok' : σ → ℓ → Prop} {s t : σ}
    (run : Run (step.when ok) s ls t) (h : ∀ s l, ok s l → ok' s l) :
    Run (step.when ok') s ls t := by
  induction run with
  | nil => exact .nil
  | snoc _ l last ih => exact ih.snoc l ⟨h _ _ last.1, last.2⟩

theorem Run.invariant {step : System σ ℓ} {I : σ → Prop} {s t : σ}
    (run : Run step s ls t) (init : I s) (keep : ∀ s l s', I s → step s l s' → I s') : I t := by
  induction run with
  | nil => exact init
  | snoc _ _ last ih => exact keep _ _ _ ih last

variable (next : σ → ℓ → σ)

/-- A system in which a step has one outcome. -/
def System.ofFun : System σ ℓ := fun s l s' => s' = next s l

theorem Run.foldl (s : σ) (ls : List ℓ) : Run (System.ofFun next) s ls (ls.foldl next s) := by
  induction ls using List.reverseRecOn with
  | nil => exact .nil
  | append_singleton ls l ih =>
    rw [List.foldl_append]
    exact ih.snoc l rfl

def Allowed (next : σ → ℓ → σ) (ok : σ → ℓ → Prop) : σ → List ℓ → Prop
  | _, [] => True
  | s, l :: ls => ok s l ∧ Allowed next ok (next s l) ls

theorem Run.append_allowed {next : σ → ℓ → σ} {ok : σ → ℓ → Prop} {s t : σ} {pre : List ℓ}
    (run : Run ((System.ofFun next).when ok) s pre t) (h : Allowed next ok t ls) :
    Run ((System.ofFun next).when ok) s (pre ++ ls) (ls.foldl next t) := by
  induction ls generalizing pre t with
  | nil =>
    rw [List.append_nil]
    exact run
  | cons l ls ih =>
    have hrest := ih (run.snoc l ⟨h.1, rfl⟩) h.2
    rwa [List.append_assoc] at hrest

theorem Run.foldl_allowed {next : σ → ℓ → σ} {ok : σ → ℓ → Prop} {s : σ}
    (h : Allowed next ok s ls) : Run ((System.ofFun next).when ok) s ls (ls.foldl next s) :=
  Run.nil.append_allowed h

/-- Two properties of the steps of such a system that are one under an invariant, which the
second of them keeps up: all steps of a run have the first when all of them have the second. -/
theorem forall_steps_iff {I : σ → Prop} {P Q : σ → ℓ → Prop}
    (hiff : ∀ s l, I s → (P s l ↔ Q s l)) (hkeep : ∀ s l, I s → Q s l → I (next s l))
    {s : σ} (hs : I s) (ls : List ℓ) : (∀ pre l, pre ++ [l] <+: ls → P (pre.foldl next s) l) ↔
      ∀ pre l, pre ++ [l] <+: ls → Q (pre.foldl next s) l := by
  induction ls generalizing s with
  | nil => simp
  | cons l ls ih =>
    have hsplit : ∀ R : σ → ℓ → Prop,
        (∀ pre l', pre ++ [l'] <+: l :: ls → R (pre.foldl next s) l') ↔
          R s l ∧ ∀ pre l', pre ++ [l'] <+: ls → R (pre.foldl next (next s l)) l' := by
      intro R
      constructor
      · intro h
        refine ⟨h [] l (by simp), fun pre l' hpre => ?_⟩
        exact h (l :: pre) l' (by simpa using hpre)
      · rintro ⟨hhead, htail⟩ pre l' hpre
        cases pre with
        | nil =>
          obtain rfl : l' = l := by simpa using hpre
          exact hhead
        | cons l₀ pre =>
          rw [List.cons_append, List.cons_prefix_cons] at hpre
          obtain ⟨rfl, hpre⟩ := hpre
          exact htail pre l' hpre
    rw [hsplit, hsplit, hiff s l hs]
    constructor
    · rintro ⟨hhead, htail⟩
      exact ⟨hhead, (ih (hkeep s l hs hhead)).1 htail⟩
    · rintro ⟨hhead, htail⟩
      exact ⟨hhead, (ih (hkeep s l hs hhead)).2 htail⟩

end Claudia5gc.Go
