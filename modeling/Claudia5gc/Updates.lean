import Mathlib.Data.List.Nodup
import Mathlib.Logic.Function.Basic
import Mathlib.Tactic.Common

/-!
# Updates of a keyed collection

An update changes the value of one key.  Updates of different keys do not see each other, so what a
list of updates does to a key is what those of that key do, in their order.
-/

namespace Claudia5gc.Updates

open List

variable {κ ν ο : Type} [DecidableEq κ] (key : ο → κ) (act : ο → Option ν → Option ν)

/-- The collection after an update: the value of its key has changed. -/
def apply (m : κ → Option ν) (o : ο) : κ → Option ν :=
  Function.update m (key o) (act o (m (key o)))

theorem foldl_apply (ops : List ο) (m : κ → Option ν) (k : κ) : ops.foldl (apply key act) m k =
      (ops.filter fun o => key o = k).foldl (fun v o => act o v) (m k) := by
  induction ops generalizing m with
  | nil => rfl
  | cons o ops ih =>
    rw [foldl_cons, ih]
    by_cases hk : key o = k
    · subst hk
      rw [filter_cons_of_pos (by simp), foldl_cons, apply, Function.update_self]
    · rw [filter_cons_of_neg (by simpa using hk), apply, Function.update_of_ne (Ne.symm hk)]

theorem foldl_apply_map {μ : Type} (g : ν → μ) {act' : ο → Option μ → Option μ}
    (hact : ∀ o v, (act o v).map g = act' o (v.map g)) (ops : List ο) (m : κ → Option ν) :
    (fun k => (ops.foldl (apply key act) m k).map g) =
      ops.foldl (apply key act') fun k => (m k).map g := by
  induction ops generalizing m with
  | nil => rfl
  | cons o ops ih =>
    rw [foldl_cons, foldl_cons, ih]
    congr 1
    funext k
    by_cases hk : k = key o
    · subst hk
      simp [apply, hact]
    · simp [apply, hk]

section Grouped

variable {ι : Type} [DecidableEq ι] (kind : ο → ι)

/-- The updates kind by kind. -/
def grouped (order : List ι) (ops : List ο) : List ο :=
  order.flatMap fun i => ops.filter fun o => kind o = i

theorem flatMap_single {i : ι} {order : List ι} (l : List ο) (hnodup : order.Nodup)
    (hi : i ∈ order) : (order.flatMap fun j => if j = i then l else []) = l := by
  induction order with
  | nil => exact absurd hi (not_mem_nil)
  | cons j order ih =>
    rw [flatMap_cons]
    obtain ⟨hj, hnodup⟩ := nodup_cons.1 hnodup
    by_cases h : j = i
    · subst h
      have hrest : (order.flatMap fun j' => if j' = j then l else []) = [] := by
        rw [flatMap_eq_nil_iff]
        intro j' hj'
        rw [if_neg]
        rintro rfl
        exact hj hj'
      rw [if_pos rfl, hrest, append_nil]
    · rw [if_neg h, nil_append]
      exact ih hnodup ((mem_cons.1 hi).resolve_left (Ne.symm h))

theorem filter_grouped {order : List ι} {ops : List ο} (hnodup : order.Nodup)
    (hall : ∀ o ∈ ops, kind o ∈ order)
    (hkinds : ∀ o ∈ ops, ∀ o' ∈ ops, key o = key o' → kind o = kind o') (k : κ) :
    ((grouped kind order ops).filter fun o => key o = k) = ops.filter fun o => key o = k := by
  rw [grouped, filter_flatMap]
  by_cases hk : ∃ o ∈ ops, key o = k
  · obtain ⟨o, ho, rfl⟩ := hk
    rw [← flatMap_single (ops.filter fun o' => key o' = key o) hnodup (hall o ho)]
    congr 1
    funext i
    rw [filter_filter]
    split_ifs with hi
    · subst hi
      apply filter_congr
      intro o' ho'
      by_cases h : key o' = key o
      · simp [h, hkinds o' ho' o ho h]
      · simp [h]
    · rw [filter_eq_nil_iff]
      intro o' ho'
      simp only [Bool.and_eq_true, decide_eq_true_eq, not_and]
      intro h hi'
      exact hi (hi'.symm.trans (hkinds o' ho' o ho h))
  · have hnone : (ops.filter fun o => key o = k) = [] := by
      rw [filter_eq_nil_iff]
      intro o ho
      simpa using fun h => hk ⟨o, ho, h⟩
    rw [hnone, flatMap_eq_nil_iff]
    intro i _
    rw [filter_eq_nil_iff]
    intro o ho
    simpa using fun h => hk ⟨o, mem_of_mem_filter ho, h⟩

theorem foldl_grouped (order : List ι) {ops : List ο} (hnodup : order.Nodup)
    (hall : ∀ o ∈ ops, kind o ∈ order)
    (hkinds : ∀ o ∈ ops, ∀ o' ∈ ops, key o = key o' → kind o = kind o') (m : κ → Option ν) :
    (grouped kind order ops).foldl (apply key act) m = ops.foldl (apply key act) m := by
  funext k
  rw [foldl_apply, foldl_apply, filter_grouped key kind hnodup hall hkinds]

end Grouped

end Claudia5gc.Updates
