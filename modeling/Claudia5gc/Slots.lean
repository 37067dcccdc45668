import Claudia5gc.Go.Memory
import Mathlib.Data.Multiset.AddSub
import Mathlib.Data.Multiset.ZeroCons
import Mathlib.Logic.Function.Basic
import Mathlib.Logic.Relation

/-!
# Resources held in slots

A client keeps resources of a server in numbered slots.  A slot that is emptied has its resource
deleted, either at once or in two steps: the deletion is announced, and completed when the other
side has agreed.
-/

namespace Claudia5gc

open Function Go List

@[ext] structure Slots (ι ρ : Type) where
  held : ι → Option ρ
  pending : ι → Option ρ
  created : List ρ
  deleted : Multiset ρ

namespace Slots

variable {ι ρ : Type}

/-- No resource is deleted twice or lost, and what is announced for a slot is in it. -/
structure Sound (c : Slots ι ρ) : Prop where
  pending : ∀ i r, c.pending i = some r → c.held i = some r
  single : ∀ i j r, c.held i = some r → c.held j = some r → i = j
  known : ∀ i r, c.held i = some r → r ∈ c.created
  alive : ∀ i r, c.held i = some r → r ∉ c.deleted
  once : c.deleted.Nodup
  deleted : ∀ r ∈ c.deleted, r ∈ c.created
  kept : ∀ r ∈ c.created, r ∈ c.deleted ∨ ∃ i, c.held i = some r

theorem Sound.empty : Sound (⟨fun _ => none, fun _ => none, [], 0⟩ : Slots ι ρ) :=
  ⟨nofun, nofun, nofun, nofun, Multiset.nodup_zero, by simp, nofun⟩

variable [DecidableEq ι]

def vacate (c : Slots ι ρ) (i : ι) (r : ρ) : Slots ι ρ :=
  { c with
    held := update c.held i none
    pending := update c.pending i none
    deleted := r ::ₘ c.deleted }

/-- What the client does. -/
inductive Step : Slots ι ρ → Slots ι ρ → Prop
  /-- A new resource is put into an empty slot. -/
  | acquire (c : Slots ι ρ) (i : ι) (r : ρ) (hempty : c.held i = none) (hnew : r ∉ c.created) :
      Step c { c with
        held := update c.held i (some r)
        created := c.created ++ [r] }
  /-- A resource is deleted at once. -/
  | release (c : Slots ι ρ) (i : ι) (r : ρ) (hheld : c.held i = some r)
      (hpending : c.pending i = none) : Step c (c.vacate i r)
  /-- The deletion of a resource is announced. -/
  | announce (c : Slots ι ρ) (i : ι) (r : ρ) (hheld : c.held i = some r) :
      Step c { c with pending := update c.pending i (some r) }
  /-- An announced deletion is completed. -/
  | complete (c : Slots ι ρ) (i : ι) (r : ρ) (hpending : c.pending i = some r) :
      Step c (c.vacate i r)

theorem update_none_eq_some {f : ι → Option ρ} {i j : ι} {r : ρ} :
    update f i none j = some r ↔ j ≠ i ∧ f j = some r := by
  simp [update_eq_some]

theorem Sound.vacate {c : Slots ι ρ} (h : c.Sound) {i : ι} {r : ρ} (hheld : c.held i = some r) :
    (c.vacate i r).Sound := by
  constructor
  · intro j r' hpending
    obtain ⟨hji, hpending⟩ := update_none_eq_some.mp hpending
    exact update_none_eq_some.mpr ⟨hji, h.pending j r' hpending⟩
  · intro j k r' hj hk
    exact h.single j k r' (update_none_eq_some.mp hj).2 (update_none_eq_some.mp hk).2
  · intro j r' hj
    exact h.known j r' (update_none_eq_some.mp hj).2
  · intro j r' hj hdeleted
    obtain ⟨hji, hj'⟩ := update_none_eq_some.mp hj
    rcases Multiset.mem_cons.mp hdeleted with rfl | hdeleted
    · exact hji (h.single j i r' hj' hheld)
    · exact h.alive j r' hj' hdeleted
  · exact Multiset.nodup_cons.mpr ⟨h.alive i r hheld, h.once⟩
  · intro r' hdeleted
    rcases Multiset.mem_cons.mp hdeleted with rfl | hdeleted
    · exact h.known i r' hheld
    · exact h.deleted r' hdeleted
  · intro r' hcreated
    rcases h.kept r' hcreated with hdeleted | ⟨j, hj⟩
    · exact .inl (Multiset.mem_cons_of_mem hdeleted)
    · by_cases hji : j = i
      · rw [hji, hheld] at hj
        exact .inl (Multiset.mem_cons.mpr (.inl (Option.some.inj hj).symm))
      · exact .inr ⟨j, update_none_eq_some.mpr ⟨hji, hj⟩⟩

theorem Sound.acquire {c : Slots ι ρ} (h : c.Sound) {i : ι} {r : ρ} (hempty : c.held i = none)
    (hnew : r ∉ c.created) : Sound { c with
      held := update c.held i (some r)
      created := c.created ++ [r] } := by
  -- The slot was empty, so whatever was held is held in another one.
  have hother : ∀ {j r'}, c.held j = some r' → j ≠ i := by
    intro j r' hj hji
    rw [hji, hempty] at hj
    cases hj
  constructor
  · intro j r' hpending
    have hj := h.pending j r' hpending
    exact update_eq_some.mpr (.inr ⟨hother hj, hj⟩)
  · intro j k r' hj hk
    rcases update_eq_some.mp hj with ⟨rfl, ⟨⟩⟩ | ⟨-, hj'⟩ <;>
      rcases update_eq_some.mp hk with ⟨rfl, ⟨⟩⟩ | ⟨-, hk'⟩
    · rfl
    · exact absurd (h.known k r hk') hnew
    · exact absurd (h.known j r hj') hnew
    · exact h.single j k r' hj' hk'
  · intro j r' hj
    rcases update_eq_some.mp hj with ⟨-, ⟨⟩⟩ | ⟨-, hj⟩
    · exact mem_append_right _ mem_cons_self
    · exact mem_append_left _ (h.known j r' hj)
  · intro j r' hj hdeleted
    rcases update_eq_some.mp hj with ⟨-, ⟨⟩⟩ | ⟨-, hj⟩
    · exact hnew (h.deleted r hdeleted)
    · exact h.alive j r' hj hdeleted
  · exact h.once
  · intro r' hdeleted
    exact mem_append_left _ (h.deleted r' hdeleted)
  · intro r' hcreated
    rcases mem_append.mp hcreated with hold | hlast
    · rcases h.kept r' hold with hdeleted | ⟨j, hj⟩
      · exact .inl hdeleted
      · exact .inr ⟨j, update_eq_some.mpr (.inr ⟨hother hj, hj⟩)⟩
    · rw [mem_singleton.mp hlast]
      exact .inr ⟨i, update_self i _ _⟩

theorem Sound.announce {c : Slots ι ρ} (h : c.Sound) {i : ι} {r : ρ} (hheld : c.held i = some r) :
    Sound { c with pending := update c.pending i (some r) } := by
  refine ⟨?_, h.single, h.known, h.alive, h.once, h.deleted, h.kept⟩
  intro j r' hpending
  rcases update_eq_some.mp hpending with ⟨rfl, hr⟩ | ⟨-, hpending⟩
  · exact hheld.trans hr
  · exact h.pending j r' hpending

theorem Sound.step {c c' : Slots ι ρ} (h : c.Sound) (hstep : Step c c') : c'.Sound := by
  cases hstep with
  | acquire i r hempty hnew => exact h.acquire hempty hnew
  | release i r hheld hpending => exact h.vacate hheld
  | announce i r hheld => exact h.announce hheld
  | complete i r hpending => exact h.vacate (h.pending i r hpending)

theorem Sound.steps {c c' : Slots ι ρ} (h : c.Sound) (hsteps : Relation.ReflTransGen Step c c') :
    c'.Sound := by
  induction hsteps with
  | refl => exact h
  | tail _ hstep ih => exact ih.step hstep

end Slots

end Claudia5gc
