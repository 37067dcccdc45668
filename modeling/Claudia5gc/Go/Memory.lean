import Mathlib.Data.List.AList

/-!
# Pointers and maps

A pointer is a number that allocation hands out in order.  A heap says what each pointer points to.
Two variables that hold one pointer see each other's writes, which is what the indexes of a store of
contexts rely on.
-/

namespace Claudia5gc.Go

open AList Function

/-- A pointer to a value that the program allocated. -/
abbrev Ptr := Nat

/-- A map with one value for each of its keys. -/
abbrev Map (κ ν : Type) := AList fun _ : κ => ν

section

variable {κ ν : Type} [DecidableEq κ]

theorem update_eq_some {f : κ → Option ν} {k k' : κ} {v : Option ν} {x : ν} :
    update f k v k' = some x ↔ (k' = k ∧ v = some x) ∨ (k' ≠ k ∧ f k' = some x) := by
  by_cases h : k' = k
  · subst h
    simp
  · simp [h]

namespace Map

theorem lookup_insert_ite (m : Map κ ν) (k k' : κ) (v : ν) :
    lookup k' (m.insert k v) = if k' = k then some v else lookup k' m := by
  split
  · next h => rw [h, lookup_insert]
  · next h => rw [lookup_insert_ne h]

theorem lookup_erase_ite (m : Map κ ν) (k k' : κ) :
    lookup k' (m.erase k) = if k' = k then none else lookup k' m := by
  split
  · next h => rw [h, lookup_erase]
  · next h => rw [lookup_erase_ne h]

theorem lookup_insert_eq_some {m : Map κ ν} {k k' : κ} {v x : ν} :
    lookup k' (m.insert k v) = some x ↔ (k' = k ∧ v = x) ∨ (k' ≠ k ∧ lookup k' m = some x) := by
  rw [lookup_insert_ite]
  split <;> simp_all

theorem lookup_erase_eq_some {m : Map κ ν} {k k' : κ} {x : ν} :
    lookup k' (m.erase k) = some x ↔ k' ≠ k ∧ lookup k' m = some x := by
  rw [lookup_erase_ite]
  split <;> simp_all

theorem lookup_insert_fun (m : Map κ ν) (k : κ) (v : ν) : (fun k' => lookup k' (m.insert k v)) =
      update (fun k' => lookup k' m) k (some v) := by
  funext k'
  rw [lookup_insert_ite, update_apply]

theorem lookup_erase_fun (m : Map κ ν) (k : κ) : (fun k' => lookup k' (m.erase k)) =
      update (fun k' => lookup k' m) k none := by
  funext k'
  rw [lookup_erase_ite, update_apply]

end Map

end

/-- The values pointers point to, and the next pointer to hand out. -/
structure Heap (α : Type) where
  cells : Ptr → α
  next : Ptr

namespace Heap

variable {α : Type}

variable (h : Heap α)

def new (a : α) : Ptr × Heap α :=
  (h.next, ⟨fun p => if p = h.next then a else h.cells p, h.next + 1⟩)

def get (p : Ptr) : α := h.cells p

def modify (p : Ptr) (f : α → α) : Heap α :=
  { h with cells := fun q => if q = p then f (h.cells q) else h.cells q }

@[simp] theorem new_fst (a : α) : (h.new a).1 = h.next := rfl

@[simp] theorem new_next (a : α) : (h.new a).2.next = h.next + 1 := rfl

theorem get_new (a : α) (p : Ptr) : (h.new a).2.get p = if p = h.next then a else h.get p := rfl

@[simp] theorem get_new_next (a : α) : (h.new a).2.get h.next = a := if_pos rfl

theorem get_new_of_lt {h : Heap α} {a : α} {p : Ptr} (hp : p < h.next) :
    (h.new a).2.get p = h.get p := by
  rw [get_new, if_neg (Nat.ne_of_lt hp)]

@[simp] theorem modify_next (p : Ptr) (f : α → α) : (h.modify p f).next = h.next := rfl

@[simp] theorem get_modify_same (p : Ptr) (f : α → α) : (h.modify p f).get p = f (h.get p) := by
  simp [modify, get]

theorem get_modify_of_ne {h : Heap α} {p q : Ptr} {f : α → α} (hq : q ≠ p) :
    (h.modify p f).get q = h.get q := by
  simp [modify, get, hq]

/-- A write that leaves the field `g` alone leaves it alone behind every pointer. -/
theorem get_modify_field {β : Type} {h : Heap α} {p : Ptr} {f : α → α} (g : α → β)
    (hg : ∀ a, g (f a) = g a) (q : Ptr) : g ((h.modify p f).get q) = g (h.get q) := by
  by_cases hq : q = p
  · subst hq
    rw [get_modify_same, hg]
  · rw [get_modify_of_ne hq]

/-- Writes through all pointers of a list, of which a second one to the same cell does nothing
more. -/
theorem get_foldl_modify {ι : Type} {f : α → α} (hf : ∀ a, f (f a) = f a) (ptr : ι → Ptr)
    (l : List ι) (h : Heap α) (p : Ptr) : (l.foldl (fun h i => h.modify (ptr i) f) h).get p =
      if p ∈ l.map ptr then f (h.get p) else h.get p := by
  induction l generalizing h with
  | nil => simp
  | cons i l ih =>
    rw [List.foldl_cons, ih, List.map_cons]
    by_cases hp : p = ptr i
    · subst hp
      simp [hf]
    · simp [get_modify_of_ne hp, hp]

end Heap

/-! ## Values with one owner

Pointers that are handed around can be shared.  Where each pointer has one owner, the values
behind them can be seen as belonging to the owners, and what is done through one pointer is done
to the value of one owner.
-/

section Owned

open Function Heap

variable {ι α : Type}

/-- The pointers of the owners are allocated, and no two owners have one pointer. -/
structure Owned (own : ι → Option Ptr) (h : Heap α) : Prop where
  lt : ∀ i p, own i = some p → p < h.next
  inj : ∀ i j p, own i = some p → own j = some p → i = j

/-- The value of each owner. -/
def Heap.held (h : Heap α) (own : ι → Option Ptr) : ι → Option α := fun i => (own i).map h.get

variable {own own' : ι → Option Ptr} {h : Heap α}

/-- Owners can lose their pointers. -/
theorem Owned.mono (ho : Owned own h) (hsub : ∀ i p, own' i = some p → own i = some p) :
    Owned own' h :=
  ⟨fun i p hi => ho.lt i p (hsub i p hi),
    fun i j p hi hj => ho.inj i j p (hsub i p hi) (hsub j p hj)⟩

theorem Owned.modify (ho : Owned own h) (p : Ptr) (f : α → α) : Owned own (h.modify p f) :=
  ⟨ho.lt, ho.inj⟩

variable [DecidableEq ι]

/-- A write through the pointer of an owner changes the value of that owner. -/
theorem Owned.held_modify (ho : Owned own h) {i : ι} {p : Ptr} (hi : own i = some p) (f : α → α) :
    (h.modify p f).held own = update (h.held own) i ((h.held own i).map f) := by
  funext j
  by_cases hj : j = i
  · subst hj
    rw [update_self, held, held, hi]
    simp
  · rw [update_of_ne hj, held, held]
    cases hp : own j with
    | none => rfl
    | some q =>
      have hq : q ≠ p := by
        rintro rfl
        exact hj (ho.inj j i q hp hi)
      simp [get_modify_of_ne hq]

theorem Owned.update_none (ho : Owned own h) (i : ι) : Owned (update own i none) h := by
  refine ho.mono fun j p hj => ?_
  rcases update_eq_some.mp hj with ⟨-, hnone⟩ | ⟨-, hj⟩
  · cases hnone
  · exact hj

theorem held_update_none (own : ι → Option Ptr) (h : Heap α) (i : ι) :
    h.held (update own i none) = update (h.held own) i none :=
  comp_update ..

/-- A fresh pointer for an owner. -/
theorem Owned.new (ho : Owned own h) (i : ι) (a : α) :
    Owned (update own i (some h.next)) (h.new a).2 := by
  have hcases : ∀ j p, update own i (some h.next) j = some p →
      j = i ∧ p = h.next ∨ own j = some p ∧ p < h.next := by
    intro j p hj
    rcases update_eq_some.mp hj with ⟨hji, hp⟩ | ⟨-, hj⟩
    · exact .inl ⟨hji, (Option.some.inj hp).symm⟩
    · exact .inr ⟨hj, ho.lt j p hj⟩
  refine ⟨fun j p hj => ?_, fun j k p hj hk => ?_⟩
  · rcases hcases j p hj with ⟨-, rfl⟩ | ⟨-, hlt⟩
    · exact Nat.lt_succ_self _
    · exact Nat.lt_succ_of_lt hlt
  · -- the fresh pointer is above those of all others
    rcases hcases j p hj with ⟨rfl, rfl⟩ | ⟨hj, hlt⟩
    · rcases hcases k _ hk with ⟨rfl, -⟩ | ⟨-, hlt⟩
      · rfl
      · exact absurd hlt (Nat.lt_irrefl _)
    · rcases hcases k p hk with ⟨-, rfl⟩ | ⟨hk, -⟩
      · exact absurd hlt (Nat.lt_irrefl _)
      · exact ho.inj j k p hj hk

theorem Owned.held_new (ho : Owned own h) (i : ι) (a : α) :
    (h.new a).2.held (update own i (some h.next)) = update (h.held own) i (some a) := by
  funext j
  by_cases hji : j = i
  · subst hji
    simp [held, get_new]
  · rw [update_of_ne hji, held, held, update_of_ne hji]
    cases hp : own j with
    | none => rfl
    | some q => simp [get_new_of_lt (ho.lt j q hp)]

end Owned

end Claudia5gc.Go
