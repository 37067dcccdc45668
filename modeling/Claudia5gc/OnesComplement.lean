import Mathlib.Algebra.BigOperators.Group.List.Basic
import Mathlib.Data.Nat.ModEq

/-!
# One's complement sums

Words from zero to `m`, where `m` is the word with all bits set, are added with an end-around carry:
what runs over the top is added at the bottom.  Such a sum is determined by the ordinary sum: it is
the same number modulo `m`, and it is zero only if every word is.
-/

namespace Claudia5gc.OnesComplement

open Nat List

/-- The carry is added at the bottom. -/
def carry (m n : Nat) : Nat := n % (m + 1) + n / (m + 1)

/-- The one's complement sum of words. -/
def sum (m : Nat) (ws : List Nat) : Nat := ws.foldl (fun s w => carry m (s + w)) 0

/-- The word that stands for a number: the number modulo `m`, with `m` in the place of zero
except for zero itself. -/
def rep (m n : Nat) : Nat := if n = 0 then 0 else (n - 1) % m + 1

section Rep

variable {m : Nat}

@[simp] theorem rep_zero (m : Nat) : rep m 0 = 0 := rfl

theorem rep_le (hm : 0 < m) (n : Nat) : rep m n ≤ m := by
  unfold rep
  split
  · exact zero_le m
  · exact mod_lt _ hm

theorem rep_of_le {n : Nat} (h : n ≤ m) : rep m n = n := by
  unfold rep
  split_ifs with hzero
  · exact hzero.symm
  · rw [mod_eq_of_lt (by omega)]
    omega

theorem rep_eq_zero {n : Nat} : rep m n = 0 ↔ n = 0 := by
  unfold rep
  split <;> simp [*]

theorem rep_mod (m n : Nat) : rep m n % m = n % m := by
  unfold rep
  split_ifs with hzero
  · rw [hzero]
  · rw [Nat.mod_add_mod, Nat.sub_add_cancel (by omega)]

theorem rep_congr {n k : Nat} (hmod : n % m = k % m) (hzero : n = 0 ↔ k = 0) :
    rep m n = rep m k := by
  unfold rep
  by_cases h : n = 0
  · rw [if_pos h, if_pos (hzero.1 h)]
  · rw [if_neg h, if_neg fun hk => h (hzero.2 hk)]
    have hn : n = n - 1 + 1 := by omega
    have hk : k = k - 1 + 1 := by omega
    have hmod' : n - 1 + 1 ≡ k - 1 + 1 [MOD m] := by
      rw [← hn, ← hk]
      exact hmod
    rw [Nat.ModEq.add_right_cancel' 1 hmod']

theorem rep_add_rep (m n k : Nat) : rep m (rep m n + k) = rep m (n + k) := by
  apply rep_congr
  · rw [add_mod, rep_mod, ← add_mod]
  · rw [Nat.add_eq_zero_iff, Nat.add_eq_zero_iff, rep_eq_zero]

theorem rep_add_congr {n n' : Nat} (h : rep m n = rep m n') (k : Nat) :
    rep m (n + k) = rep m (n' + k) := by
  rw [← rep_add_rep, h, rep_add_rep]

theorem rep_eq_top (hm : 0 < m) {n : Nat} : rep m n = m ↔ n ≠ 0 ∧ n % m = 0 := by
  constructor
  · intro h
    refine ⟨fun hzero => ?_, ?_⟩
    · rw [hzero, rep_zero] at h
      omega
    · rw [← rep_mod, h, mod_self]
  · rintro ⟨hne, hmod⟩
    rw [rep_congr (k := m) (by rw [hmod, mod_self]) (by omega), rep_of_le (le_refl m)]

theorem rep_add_complement (hm : 0 < m) (n : Nat) : rep m (n + (m - rep m n)) = m := by
  have hle := rep_le hm n
  rw [← rep_add_rep, Nat.add_sub_cancel' hle, rep_of_le (Nat.le_refl m)]

end Rep

section Carry

variable {m : Nat}

theorem carry_eq (m n : Nat) : n = m * (n / (m + 1)) + carry m n := by
  have h := div_add_mod n (m + 1)
  rw [add_mul, one_mul] at h
  unfold carry
  omega

theorem rep_carry (m n : Nat) : rep m (carry m n) = rep m n := by
  apply rep_congr
  · conv_rhs => rw [carry_eq m n, mul_add_mod]
  · constructor
    · intro h
      obtain ⟨hlow, hhigh⟩ := Nat.add_eq_zero_iff.1 h
      rw [← div_add_mod n (m + 1), hlow, hhigh]
      simp
    · intro h
      rw [h]
      simp [carry]

theorem carry_lt {n : Nat} (hm : 0 < m) (h : m < n) : carry m n < n := by
  have heq := carry_eq m n
  have hdiv : 0 < n / (m + 1) := div_pos h (succ_pos m)
  have hmul : 0 < m * (n / (m + 1)) := Nat.mul_pos hm hdiv
  omega

theorem carry_le {n : Nat} (h : n ≤ 2 * m) : carry m n ≤ m := by
  rcases lt_or_ge n (m + 1) with hlow | hhigh
  · rw [carry, mod_eq_of_lt hlow, div_eq_of_lt hlow]
    omega
  · have hdiv : n / (m + 1) = 1 := by
      rw [Nat.div_eq_iff (by omega)]
      omega
    have heq := carry_eq m n
    rw [hdiv] at heq
    omega

theorem sum_eq_rep {ws : List Nat} (hws : ∀ w ∈ ws, w ≤ m) : sum m ws = rep m ws.sum := by
  have hfold : ∀ (ws : List Nat) (s : Nat), (∀ w ∈ ws, w ≤ m) → s ≤ m →
      ws.foldl (fun s w => carry m (s + w)) s = rep m (s + ws.sum) := by
    intro ws
    induction ws with
    | nil =>
      intro s _ hs
      exact (rep_of_le hs).symm
    | cons w ws ih =>
      intro s hws hs
      have hw := hws w mem_cons_self
      rw [foldl_cons, ih _ (fun w' hw' => hws w' (mem_cons_of_mem _ hw'))
        (carry_le (by omega)), sum_cons, ← add_assoc]
      exact rep_add_congr (rep_carry m (s + w)) _
  rw [sum, hfold ws 0 hws (zero_le m), zero_add]

end Carry

/-! ## Octets -/

/-- Octets as words of two, the last one padded with zero. -/
def words : List UInt8 → List Nat
  | [] => []
  | [a] => [a.toNat * 256]
  | a :: b :: rest => (a.toNat * 256 + b.toNat) :: words rest

theorem words_append {a : List UInt8} (ha : a.length % 2 = 0) (b : List UInt8) :
    words (a ++ b) = words a ++ words b := by
  induction a using words.induct with
  | case1 => rfl
  | case2 x => simp at ha
  | case3 x y rest ih =>
    simp only [length_cons] at ha
    rw [cons_append, cons_append, words, words, ih (by omega), cons_append]

theorem words_le (b : List UInt8) : ∀ w ∈ words b, w ≤ 65535 := by
  induction b using words.induct with
  | case1 => simp [words]
  | case2 x =>
    have := x.toNat_lt
    simp only [words, forall_mem_singleton]
    omega
  | case3 x y rest ih =>
    have hx := x.toNat_lt
    have hy := y.toNat_lt
    rw [words, forall_mem_cons]
    exact ⟨by omega, ih⟩

end Claudia5gc.OnesComplement
