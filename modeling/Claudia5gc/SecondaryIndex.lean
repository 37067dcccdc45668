import Mathlib.Logic.Function.Basic
import Mathlib.Tactic.Common

/-!
# Secondary indexes

Records are kept in a table and found by a key of theirs through an index.  A record without the key
is not in the index.
-/

namespace Claudia5gc.SecondaryIndex

variable {κ ρ ι : Type} {key : ρ → Option κ}

section Entries

variable {entry entry' : κ → ι → Prop} {has has' : ι → ρ → Prop} {i : ι}

/-- The entries under a key are the identifiers of the records that have it. -/
def Indexes (has : ι → ρ → Prop) (key : ρ → Option κ) (entry : κ → ι → Prop) : Prop :=
  ∀ k i, entry k i ↔ ∃ r, has i r ∧ key r = some k

theorem Indexes.insert {r : ρ} (h : Indexes has key entry)
    (hhas : ∀ j x, has' j x ↔ (j = i ∧ r = x) ∨ has j x)
    (hentry : ∀ k j, entry' k j ↔ (key r = some k ∧ j = i) ∨ entry k j) :
    Indexes has' key entry' := by
  intro k j
  rw [hentry, h]
  simp only [hhas, or_and_right, exists_or, and_assoc, exists_and_left, exists_eq_left']
  rw [and_comm]

theorem Indexes.erase (h : Indexes has key entry) (hhas : ∀ j x, has' j x ↔ j ≠ i ∧ has j x)
    (hentry : ∀ k j, entry' k j ↔ j ≠ i ∧ entry k j) : Indexes has' key entry' := by
  intro k j
  rw [hentry, h]
  simp only [hhas, and_assoc, exists_and_left]

end Entries

variable [DecidableEq κ]

/-- Every entry leads to a record that is there and has the key. -/
def Sound (live : ρ → Prop) (key : ρ → Option κ) (find : κ → Option ρ) : Prop :=
  ∀ k r, find k = some r → live r ∧ key r = some k

/-- Every record that is there is found by its key. -/
def Complete (live : ρ → Prop) (key : ρ → Option κ) (find : κ → Option ρ) : Prop :=
  ∀ r, live r → ∀ k, key r = some k → find k = some r

/-- The index with an entry for a record. -/
def enter (key : Option κ) (r : ρ) (find : κ → Option ρ) : κ → Option ρ :=
  fun k => if key = some k then some r else find k

/-- The index without the entry under a key. -/
def leave (key : Option κ) (find : κ → Option ρ) : κ → Option ρ :=
  fun k => if key = some k then none else find k

variable {live live' gone : ρ → Prop} {find : κ → Option ρ}

@[simp] theorem enter_none (r : ρ) : enter none r find = find := rfl

@[simp] theorem enter_some (k : κ) (r : ρ) :
    enter (some k) r find = Function.update find k (some r) := by
  funext k'
  simp [enter, Function.update_apply, eq_comm]

@[simp] theorem leave_none : leave none find = find := rfl

@[simp] theorem leave_some (k : κ) : leave (some k) find = Function.update find k none := by
  funext k'
  simp [leave, Function.update_apply, eq_comm]

/-- A new record that replaces others leaves the index sound exactly when it takes over the
entries they had. -/
theorem sound_enter_iff (key' : ρ → Option κ) {r : ρ} (hsound : Sound live key find)
    (hfresh : ¬ live r) (hlive : ∀ x, live' x ↔ x = r ∨ (live x ∧ ¬ gone x))
    (hkey : ∀ x, live x → key' x = key x) : Sound live' key' (enter (key' r) r find) ↔
      ∀ k x, find k = some x → gone x → key' r = some k := by
  constructor
  · intro hafter k x hx hgone
    by_contra hother
    have hentry : enter (key' r) r find k = some x := by
      rw [enter, if_neg hother, hx]
    rcases (hlive x).1 (hafter k x hentry).1 with rfl | ⟨_, hstays⟩
    · exact hfresh (hsound k x hx).1
    · exact hstays hgone
  · intro htakes k x hx
    rw [enter] at hx
    split_ifs at hx with hk
    · obtain rfl := Option.some.inj hx
      exact ⟨(hlive r).2 (Or.inl rfl), hk⟩
    · obtain ⟨hx', hkx⟩ := hsound k x hx
      have hstays : ¬ gone x := fun hgone => hk (htakes k x hx hgone)
      exact ⟨(hlive x).2 (Or.inr ⟨hx', hstays⟩), (hkey x hx').trans hkx⟩

/-- An index stays sound when a record goes out. -/
theorem Sound.leave {r : ρ} (hsound : Sound live key find)
    (hlive : ∀ x, live x → x ≠ r → live' x) : Sound live' key (leave (key r) find) := by
  intro k x hx
  rw [SecondaryIndex.leave] at hx
  split at hx
  · exact absurd hx (by simp)
  · rename_i hk
    obtain ⟨hx', hkx⟩ := hsound k x hx
    refine ⟨hlive x hx' ?_, hkx⟩
    rintro rfl
    exact hk hkx

/-- The other records are found as before exactly when the entry that is taken back was the
record's own. -/
theorem leave_keeps_iff (key : ρ → Option κ) (find : κ → Option ρ) (r : ρ) :
    (∀ k x, x ≠ r → find k = some x → leave (key r) find k = some x) ↔
      ∀ k x, key r = some k → find k = some x → x = r := by
  constructor
  · intro hkeeps k x hk hx
    by_contra hne
    have hstill := hkeeps k x hne hx
    rw [leave, if_pos hk] at hstill
    exact absurd hstill (by simp)
  · intro hown k x hne hx
    rw [leave, if_neg, hx]
    intro hk
    exact hne (hown k x hk hx)

/-- An index stays complete when a record comes in whose key no other record has. -/
theorem Complete.enter (key' : ρ → Option κ) {r : ρ} (h : Complete live key find)
    (hlive : ∀ x, live' x → x = r ∨ live x) (hkey : ∀ x, live x → key' x = key x)
    (hown : ∀ x, live x → ∀ k, key' r = some k → key x ≠ some k) :
    Complete live' key' (enter (key' r) r find) := by
  intro x hx k hk
  rw [SecondaryIndex.enter]
  rcases hlive x hx with rfl | hx
  · rw [if_pos hk]
  · rw [hkey x hx] at hk
    rw [if_neg fun hr => hown x hx k hr hk]
    exact h x hx k hk

/-- An index stays complete when a record goes out: no other record has its key. -/
theorem Complete.leave {r : ρ} (h : Complete live key find) (hr : live r)
    (hlive : ∀ x, live' x → live x ∧ x ≠ r) : Complete live' key (leave (key r) find) := by
  intro x hx k hk
  obtain ⟨hx, hne⟩ := hlive x hx
  rw [SecondaryIndex.leave, if_neg]
  · exact h x hx k hk
  · intro hrk
    exact hne (Option.some.inj ((h x hx k hk).symm.trans (h r hr k hrk)))

end Claudia5gc.SecondaryIndex
