import Mathlib.Algebra.Group.Nat.Defs
import Mathlib.Data.List.GetD

/-!
# Digits and their bits

A list of octets is read as a number, least significant digit first, with digits of `w` bits.
Digits of seven bits that are packed into octets have the same bits as the octets, so that packing
and unpacking are statements about `bitAt`.
-/

namespace Claudia5gc

open List Nat

def bitAt (w : Nat) (xs : List UInt8) (j : Nat) : Bool := (xs.getD (j / w) 0).toNat.testBit (j % w)

section

variable {w : Nat} {xs ys : List UInt8} {x : UInt8} {j : Nat}

theorem bitAt_of_length_le (h : xs.length ≤ j / w) : bitAt w xs j = false := by
  rw [bitAt, getD_eq_default _ _ h]
  exact zero_testBit _

theorem bitAt_concat : bitAt w (xs ++ [x]) j =
      (bitAt w xs j || (decide (j / w = xs.length) && x.toNat.testBit (j % w))) := by
  rcases Nat.lt_trichotomy (j / w) xs.length with hlt | heq | hgt
  · have hne : j / w ≠ xs.length := Nat.ne_of_lt hlt
    rw [bitAt, bitAt, getD_append _ _ _ _ hlt, decide_eq_false hne, Bool.false_and, Bool.or_false]
  · rw [bitAt_of_length_le (Nat.le_of_eq heq.symm), bitAt, heq, getD_append_right _ _ _ _
      (Nat.le_refl _), Nat.sub_self, decide_eq_true rfl, Bool.true_and, Bool.false_or]
    rfl
  · have hne : j / w ≠ xs.length := Nat.ne_of_gt hgt
    have hlen : (xs ++ [x]).length ≤ j / w := by
      rw [length_append, length_singleton]
      omega
    rw [bitAt_of_length_le hlen, bitAt_of_length_le (Nat.le_of_lt hgt), decide_eq_false hne]
    rfl

theorem bitAt_modify_or {k : Nat} (hk : k < xs.length) : bitAt 8 (xs.modify k (· ||| x)) j =
      (bitAt 8 xs j || (decide (j / 8 = k) && x.toNat.testBit (j % 8))) := by
  by_cases hj : j / 8 = k
  · have hget : (xs.modify k (· ||| x)).getD k 0 = xs.getD k 0 ||| x := by
      rw [getD_eq_getElem?_getD, getElem?_modify_eq, getD_eq_getElem?_getD, getElem?_eq_getElem hk]
      rfl
    rw [bitAt, bitAt, hj, hget, UInt8.toNat_or, testBit_or, decide_eq_true rfl, Bool.true_and]
  · have hget : (xs.modify k (· ||| x)).getD (j / 8) 0 = xs.getD (j / 8) 0 := by
      rw [getD_eq_getElem?_getD, getElem?_modify_ne _ _ (Ne.symm hj), getD_eq_getElem?_getD]
    rw [bitAt, bitAt, hget, decide_eq_false hj, Bool.false_and, Bool.or_false]

theorem eq_of_bitAt (hlen : xs.length = ys.length) (hxs : ∀ x ∈ xs, x.toNat < 2 ^ w)
    (hys : ∀ y ∈ ys, y.toNat < 2 ^ w) (h : ∀ j < w * xs.length, bitAt w xs j = bitAt w ys j) :
    xs = ys := by
  refine ext_getElem hlen fun i hi hi' => UInt8.toNat_inj.mp (eq_of_testBit_eq fun t => ?_)
  rcases Nat.lt_or_ge t w with ht | ht
  · have hdiv : (w * i + t) / w = i := by
      rw [Nat.mul_add_div (by omega), Nat.div_eq_of_lt ht, Nat.add_zero]
    have hmod : (w * i + t) % w = t := by
      rw [mul_add_mod, mod_eq_of_lt ht]
    have hlt : w * i + t < w * xs.length := by
      have := mul_le_mul_left w (succ_le_of_lt hi)
      rw [mul_succ] at this
      omega
    have hbit := h _ hlt
    rwa [bitAt, bitAt, hdiv, hmod, getD_eq_getElem _ _ hi, getD_eq_getElem _ _ hi'] at hbit
  · have hpow : 2 ^ w ≤ 2 ^ t := Nat.pow_le_pow_right (by decide) ht
    rw [Nat.testBit_lt_two_pow (Nat.lt_of_lt_of_le (hxs _ (getElem_mem hi)) hpow),
      Nat.testBit_lt_two_pow (Nat.lt_of_lt_of_le (hys _ (getElem_mem hi')) hpow)]

end

/-! ## Shifts of an octet -/

theorem testBit_shiftLeft_octet (x : UInt8) {n : Nat} (hn : n < 8) (t : Nat) :
    (x <<< UInt8.ofNat n).toNat.testBit t =
      (decide (t < 8) && (decide (n ≤ t) && x.toNat.testBit (t - n))) := by
  have hshift : (UInt8.ofNat n).toNat % 8 = n := by
    rw [UInt8.toNat_ofNat']
    omega
  rw [UInt8.toNat_shiftLeft, hshift, testBit_mod_two_pow, testBit_shiftLeft]

theorem testBit_shiftRight_octet (x : UInt8) {n : Nat} (hn : n < 8) (t : Nat) :
    (x >>> UInt8.ofNat n).toNat.testBit t = x.toNat.testBit (n + t) := by
  have hshift : (UInt8.ofNat n).toNat % 8 = n := by
    rw [UInt8.toNat_ofNat']
    omega
  rw [UInt8.toNat_shiftRight, hshift, testBit_shiftRight]

end Claudia5gc
