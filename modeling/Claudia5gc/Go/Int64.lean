import Mathlib.Algebra.Group.Int.Defs
import Mathlib.Algebra.Group.Nat.Defs
import Mathlib.Data.Int.Order.Basic
import Mathlib.Tactic.Common

/-!
# Arithmetic on `int64`

Go's `int64` operators wrap around.  An operation does not overflow when the machine's
result stands for the result of the same operation on the integers.
-/

namespace Claudia5gc.Go

def AddExact (a b : Int64) : Prop := (a + b).toInt = a.toInt + b.toInt

def SubExact (a b : Int64) : Prop := (a - b).toInt = a.toInt - b.toInt

def MulExact (a b : Int64) : Prop := (a * b).toInt = a.toInt * b.toInt

instance (a b : Int64) : Decidable (AddExact a b) := inferInstanceAs (Decidable (_ = _))
instance (a b : Int64) : Decidable (SubExact a b) := inferInstanceAs (Decidable (_ = _))
instance (a b : Int64) : Decidable (MulExact a b) := inferInstanceAs (Decidable (_ = _))

theorem bmod_eq_of_range {x : Int} (hlo : -2 ^ 63 ≤ x) (hhi : x < 2 ^ 63) :
    x.bmod (2 ^ 64) = x := by
  apply Int.bmod_eq_of_le <;> omega

section

variable {a b : Int64}

theorem addExact_of_range (hlo : -2 ^ 63 ≤ a.toInt + b.toInt)
    (hhi : a.toInt + b.toInt < 2 ^ 63) : AddExact a b := by
  rw [AddExact, Int64.toInt_add, bmod_eq_of_range hlo hhi]

theorem subExact_of_range (hlo : -2 ^ 63 ≤ a.toInt - b.toInt)
    (hhi : a.toInt - b.toInt < 2 ^ 63) : SubExact a b := by
  rw [SubExact, Int64.toInt_sub, bmod_eq_of_range hlo hhi]

theorem mulExact_of_range (hlo : -2 ^ 63 ≤ a.toInt * b.toInt)
    (hhi : a.toInt * b.toInt < 2 ^ 63) : MulExact a b := by
  rw [MulExact, Int64.toInt_mul, bmod_eq_of_range hlo hhi]

theorem subExact_of_nonneg (ha : 0 ≤ a.toInt) (hb : 0 ≤ b.toInt) : SubExact a b := by
  have := a.toInt_lt
  have := b.toInt_lt
  apply subExact_of_range <;> omega

theorem toInt_div_of_pos (ha : 0 ≤ a.toInt) (hb : 0 < b.toInt) :
    (a / b).toInt = a.toInt / b.toInt := by
  have hle : a.toInt / b.toInt ≤ a.toInt := Int.ediv_le_self _ ha
  have hnonneg : 0 ≤ a.toInt / b.toInt := Int.ediv_nonneg ha (Int.le_of_lt hb)
  have := a.toInt_lt
  rw [Int64.toInt_div, Int.tdiv_eq_ediv_of_nonneg ha]
  apply bmod_eq_of_range <;> omega

end

theorem toInt_toInt64_of_lt {x : UInt64} (h : x.toNat < 2 ^ 63) : x.toInt64.toInt = x.toNat := by
  show x.toBitVec.toInt = x.toNat
  rw [BitVec.toInt_eq_toNat_of_lt]
  · rfl
  · show 2 * x.toNat < 2 ^ 64
    omega

end Claudia5gc.Go
