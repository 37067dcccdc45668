import Claudia5gc.Go.Memory
import Mathlib.Data.Set.Insert
import Mathlib.Logic.Function.Basic
import Mathlib.Tactic.Common

/-!
# Leases

A pool hands out resources and takes them back.  It knows which resources are taken, not who has
them.  The holders know what they have.
-/

namespace Claudia5gc.Leases

open Function Go

variable {ι ρ : Type}

/-- What is taken is what is held, each resource by one holder. -/
structure Balanced (taken : Set ρ) (lease : ι → Option ρ) : Prop where
  taken_iff : ∀ r, r ∈ taken ↔ ∃ i, lease i = some r
  unshared : ∀ {i j r}, lease i = some r → lease j = some r → i = j

section Holders

variable [DecidableEq ι] {taken : Set ρ} {lease : ι → Option ρ} {i j : ι}

/-- A holder that has nothing gets what is free, or gets nothing. -/
theorem Balanced.grant (h : Balanced taken lease) (hi : lease i = none) {x : Option ρ}
    (hfree : ∀ r, x = some r → r ∉ taken) :
    Balanced {r | x = some r ∨ r ∈ taken} (update lease i x) := by
  refine ⟨fun r => ⟨?_, ?_⟩, ?_⟩
  · rintro (hx | hr)
    · exact ⟨i, by rw [update_self, hx]⟩
    · obtain ⟨k, hk⟩ := (h.taken_iff r).1 hr
      refine ⟨k, ?_⟩
      rw [update_of_ne, hk]
      rintro rfl
      exact absurd (hi.symm.trans hk) (by simp)
  · rintro ⟨k, hk⟩
    rcases update_eq_some.1 hk with ⟨_, hx⟩ | ⟨_, hk⟩
    · exact .inl hx
    · exact .inr ((h.taken_iff r).2 ⟨k, hk⟩)
  · intro k l r hk hl
    rcases update_eq_some.1 hk with ⟨hki, hx⟩ | ⟨_, hk'⟩
    · rcases update_eq_some.1 hl with ⟨hli, _⟩ | ⟨_, hl'⟩
      · exact hki.trans hli.symm
      · exact absurd ((h.taken_iff r).2 ⟨l, hl'⟩) (hfree r hx)
    · rcases update_eq_some.1 hl with ⟨_, hx⟩ | ⟨_, hl'⟩
      · exact absurd ((h.taken_iff r).2 ⟨k, hk'⟩) (hfree r hx)
      · exact h.unshared hk' hl'

theorem Balanced.giveBack (h : Balanced taken lease) (i : ι) :
    Balanced {r | r ∈ taken ∧ lease i ≠ some r} (update lease i none) := by
  have hold : ∀ {k r}, update lease i none k = some r → k ≠ i ∧ lease k = some r :=
    fun hk => (update_eq_some.1 hk).resolve_left fun hnone => nomatch hnone.2
  refine ⟨fun r => ⟨?_, ?_⟩, ?_⟩
  · rintro ⟨hr, hother⟩
    obtain ⟨k, hk⟩ := (h.taken_iff r).1 hr
    refine ⟨k, ?_⟩
    rw [update_of_ne, hk]
    rintro rfl
    exact hother hk
  · rintro ⟨k, hk⟩
    obtain ⟨hki, hk⟩ := hold hk
    exact ⟨(h.taken_iff r).2 ⟨k, hk⟩, fun hi => hki (h.unshared hk hi)⟩
  · intro k l r hk hl
    exact h.unshared (hold hk).2 (hold hl).2

theorem Balanced.handOver (h : Balanced taken lease) (hj : lease j = none) (hij : i ≠ j) :
    Balanced taken (update (update lease i none) j (lease i)) := by
  have hback := (h.giveBack i).grant (i := j) (x := lease i)
    (by rw [update_of_ne hij.symm, hj]) (fun r hr hfree => hfree.2 hr)
  suffices hsame : {r | lease i = some r ∨ r ∈ {r | r ∈ taken ∧ lease i ≠ some r}} = taken by
    rwa [hsame] at hback
  ext r
  constructor
  · rintro (hi | hr)
    · exact (h.taken_iff r).2 ⟨i, hi⟩
    · exact hr.1
  · intro hr
    by_cases hi : lease i = some r
    · exact .inl hi
    · exact .inr ⟨hr, hi⟩

end Holders

/-! ## Pools by name -/

section Pools

variable {κ π : Type} [DecidableEq κ] {out : π → ρ → Prop}

def taken (out : π → ρ → Prop) (pools : Map κ π) : Set (κ × ρ) :=
  {x | ∃ p, pools.lookup x.1 = some p ∧ out p x.2}

variable {pools : Map κ π} {k : κ} {p p' : π} {r : ρ}

theorem mem_taken (h : pools.lookup k = some p) : (k, r) ∈ taken out pools ↔ out p r := by
  show (∃ p, pools.lookup k = some p ∧ out p r) ↔ _
  rw [h]
  simp

theorem mem_taken_insert {x : κ × ρ} : x ∈ taken out (pools.insert k p') ↔
    (x.1 = k ∧ out p' x.2) ∨ (x.1 ≠ k ∧ x ∈ taken out pools) := by
  show (∃ p, AList.lookup x.1 (pools.insert k p') = some p ∧ _) ↔ _
  by_cases hx : x.1 = k
  · rw [hx, AList.lookup_insert]
    simp
  · simp [hx, taken]

theorem taken_insert_of_grant (h : pools.lookup k = some p)
    (hout : ∀ r', out p' r' ↔ r' = r ∨ out p r') :
    taken out (pools.insert k p') = {x | some (k, r) = some x ∨ x ∈ taken out pools} := by
  ext ⟨n, r'⟩
  rw [mem_taken_insert]
  show _ ↔ some (k, r) = some (n, r') ∨ _
  by_cases hn : n = k
  · subst hn
    rw [mem_taken h, hout]
    simp [eq_comm]
  · simp [hn, Ne.symm hn]

theorem taken_insert_of_giveBack (h : pools.lookup k = some p)
    (hout : ∀ r', out p' r' ↔ out p r' ∧ r ≠ r') :
    taken out (pools.insert k p') = {x | x ∈ taken out pools ∧ some (k, r) ≠ some x} := by
  ext ⟨n, r'⟩
  rw [mem_taken_insert]
  show _ ↔ _ ∧ ¬ some (k, r) = some (n, r')
  by_cases hn : n = k
  · subst hn
    rw [mem_taken h, hout]
    simp
  · simp [hn, Ne.symm hn]

end Pools

end Claudia5gc.Leases
