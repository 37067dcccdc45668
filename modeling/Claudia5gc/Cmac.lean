import Mathlib.Algebra.CharP.Two
import Mathlib.Algebra.Field.ZMod
import Mathlib.Algebra.Polynomial.Div
import Mathlib.RingTheory.Polynomial.DegreeLT
import Mathlib.Tactic.ComputeDegree
import Mathlib.Tactic.LinearCombination

/-!
# CMAC over a block function of 128 bits

The code of RFC 4493: a chain of block functions over the message, whose last block is masked
with one of two subkeys, depending on whether the message fills it.  The subkeys come from
doubling a block in the field with 2^128 elements.
-/

namespace Claudia5gc.Cmac

open Polynomial List

variable (b : BitVec 128) {as bs : List UInt8}

/-! ## Doubling -/

section Poly

variable {w : Nat}

/-- A string of bits as a polynomial over the field with two elements, its least significant bit
the constant term. -/
noncomputable def poly (b : BitVec w) : (ZMod 2)[X] :=
  ∑ i ∈ Finset.range w, if b.getLsbD i then X ^ i else 0

theorem poly_xor (a b : BitVec w) : poly (a ^^^ b) = poly a + poly b := by
  rw [poly, poly, poly, ← Finset.sum_add_distrib]
  refine Finset.sum_congr rfl fun i _ => ?_
  rw [BitVec.getLsbD_xor]
  cases a.getLsbD i <;> cases b.getLsbD i <;> simp [CharTwo.add_self_eq_zero]

theorem mul_poly (hw : 0 < w) (b : BitVec w) :
    X * poly b = poly (b <<< 1) + if b.msb then X ^ w else 0 := by
  obtain ⟨w, rfl⟩ : ∃ v, w = v + 1 := ⟨w - 1, by omega⟩
  have hshift : poly (b <<< 1) = ∑ i ∈ Finset.range w, if b.getLsbD i then X ^ (i + 1) else 0 := by
    rw [poly, Finset.sum_range_succ']
    have hzero : (b <<< 1).getLsbD 0 = false := by simp
    rw [hzero, if_neg (by simp), add_zero]
    refine Finset.sum_congr rfl fun i hi => ?_
    have hlt : i < w := Finset.mem_range.1 hi
    rw [BitVec.getLsbD_shiftLeft]
    simp [hlt]
  have hmsb : b.msb = b.getLsbD w := BitVec.msb_eq_getLsbD_last b
  rw [hshift, hmsb, poly, Finset.mul_sum, Finset.sum_range_succ]
  congr 1
  · refine Finset.sum_congr rfl fun i _ => ?_
    rw [mul_ite, mul_zero, pow_succ']
  · rw [mul_ite, mul_zero, pow_succ']

theorem degree_poly_lt (b : BitVec w) : (poly b).degree < w := by
  rw [poly, ← mem_degreeLT]
  refine Submodule.sum_mem _ fun i hi => mem_degreeLT.2 ?_
  have hlt : (i : WithBot Nat) < w := by exact_mod_cast Finset.mem_range.1 hi
  split
  · exact (degree_X_pow_le i).trans_lt hlt
  · exact degree_zero.trans_lt (WithBot.bot_lt_coe w)

theorem poly_ofNat {n k : Nat} (hk : k ≤ w) (h : n < 2 ^ k) :
    poly (BitVec.ofNat w n) = ∑ i ∈ Finset.range k, if n.testBit i then X ^ i else 0 := by
  have hzero : ∀ i ∈ Finset.range w, i ∉ Finset.range k →
      (if (BitVec.ofNat w n).getLsbD i then X ^ i else 0 : (ZMod 2)[X]) = 0 := by
    intro i _ hi
    have hle : k ≤ i := by simpa using hi
    have hbit : n.testBit i = false :=
      Nat.testBit_lt_two_pow (h.trans_le (Nat.pow_le_pow_right (by decide) hle))
    rw [BitVec.getLsbD_ofNat, hbit]
    simp
  rw [poly, ← Finset.sum_subset (Finset.range_mono hk) hzero]
  refine Finset.sum_congr rfl fun i hi => ?_
  have hlt : i < w := (Finset.mem_range.1 hi).trans_le hk
  rw [BitVec.getLsbD_ofNat, decide_eq_true hlt, Bool.true_and]

end Poly

/-- The field with 2^128 elements is that of the polynomials modulo this one. -/
noncomputable def modulus : (ZMod 2)[X] := X ^ 128 + (X ^ 7 + X ^ 2 + X + 1)

/-- A shift by one bit, and the constant `const_Rb` when a one was shifted out. -/
def double (b : BitVec 128) : BitVec 128 := if b.msb then b <<< 1 ^^^ 0x87#128 else b <<< 1

theorem poly_const : poly 0x87#128 = X ^ 7 + X ^ 2 + X + 1 := by
  rw [poly_ofNat (k := 8) (by decide) (by decide)]
  simp [Finset.sum_range_succ, Nat.testBit]
  ring

theorem degree_low {n : Nat} (hn : 7 < n) : (X ^ 7 + X ^ 2 + X + 1 : (ZMod 2)[X]).degree < n := by
  have h : (X ^ 7 + X ^ 2 + X + 1 : (ZMod 2)[X]).degree ≤ 7 := by compute_degree
  exact h.trans_lt (by exact_mod_cast hn)

theorem monic_modulus : modulus.Monic := by
  apply monic_X_pow_add
  exact degree_low (by norm_num)

theorem degree_modulus : modulus.degree = (128 : Nat) := by
  unfold modulus
  rw [degree_add_eq_left_of_degree_lt]
  · exact degree_X_pow _
  · rw [degree_X_pow]
    exact degree_low (by norm_num)

/-- Doubling is the multiplication by `X` in the field. -/
theorem poly_double : poly (double b) = X * poly b %ₘ modulus := by
  have hdegree : (poly (double b)).degree < modulus.degree := by
    rw [degree_modulus]
    exact degree_poly_lt _
  have hmul : X * poly b = poly (b <<< 1) + if b.msb then X ^ 128 else 0 :=
    mul_poly (by decide) b
  have hunique (q : (ZMod 2)[X]) (hq : poly (double b) + modulus * q = X * poly b) :
      poly (double b) = X * poly b %ₘ modulus := by
    have hmonic := monic_modulus
    -- the remainder is unique for every modulus, which need not be unfolded for that
    generalize modulus = g at *
    exact (div_modByMonic_unique q _ hmonic ⟨hq, hdegree⟩).2.symm
  cases hmsb : b.msb with
  | true =>
    have hpoly : poly (double b) = poly (b <<< 1) + (X ^ 7 + X ^ 2 + X + 1) := by
      rw [← poly_const, ← poly_xor, double, hmsb, if_pos rfl]
    have hmul : X * poly b = poly (b <<< 1) + X ^ 128 := by simpa [hmsb] using hmul
    have hmodulus : modulus = X ^ 128 + (X ^ 7 + X ^ 2 + X + 1) := by unfold modulus; rfl
    have htwo := CharTwo.add_self_eq_zero (X ^ 7 + X ^ 2 + X + 1 : (ZMod 2)[X])
    refine hunique 1 ?_
    linear_combination hpoly + hmodulus - hmul + htwo
  | false =>
    have hdouble : double b = b <<< 1 := by simp [double, hmsb]
    have hmul : X * poly b = poly (b <<< 1) := by simpa [hmsb] using hmul
    refine hunique 0 ?_
    rw [hmul, hdouble, mul_zero, add_zero]

/-! ## Strings of octets -/

/-- A string of octets as a number, the first octet the most significant. -/
def number : List UInt8 → Nat
  | [] => 0
  | b :: bs => 256 ^ bs.length * b.toNat + number bs

theorem number_lt (bs : List UInt8) : number bs < 256 ^ bs.length := by
  induction bs with
  | nil => decide
  | cons b bs ih =>
    have hb := b.toNat_lt
    calc number (b :: bs) < 256 ^ bs.length * b.toNat + 256 ^ bs.length := by
          rw [number]
          omega
      _ = 256 ^ bs.length * (b.toNat + 1) := by ring
      _ ≤ 256 ^ bs.length * 256 := Nat.mul_le_mul_left _ hb
      _ = 256 ^ (b :: bs).length := by rw [length_cons, pow_succ]

theorem number_injective (hlen : as.length = bs.length) (h : number as = number bs) : as = bs := by
  induction as generalizing bs with
  | nil => exact (length_eq_zero_iff.1 hlen.symm).symm
  | cons a as ih =>
    cases bs with
    | nil => cases hlen
    | cons b bs =>
      have hlen : as.length = bs.length := Nat.succ.inj hlen
      have ha := number_lt as
      have hb := number_lt bs
      rw [number, number, hlen] at h
      rw [hlen] at ha
      have hpos : 0 < 256 ^ bs.length := Nat.pow_pos (by decide)
      have hdiv := congrArg (· / 256 ^ bs.length) h
      have hmod := congrArg (· % 256 ^ bs.length) h
      simp only [Nat.mul_add_div hpos, Nat.div_eq_of_lt ha, Nat.div_eq_of_lt hb, Nat.add_zero,
        Nat.mul_add_mod, Nat.mod_eq_of_lt ha, Nat.mod_eq_of_lt hb] at hdiv hmod
      rw [UInt8.toNat_inj.1 hdiv, ih hlen hmod]

theorem number_append (as bs : List UInt8) :
    number (as ++ bs) = 256 ^ bs.length * number as + number bs := by
  induction as with
  | nil => simp [number]
  | cons a as ih =>
    rw [cons_append, number, ih, number, length_append]
    ring

theorem number_xor (hlen : as.length = bs.length) :
    number (zipWith (· ^^^ ·) as bs) = number as ^^^ number bs := by
  induction as generalizing bs with
  | nil =>
    obtain rfl := length_eq_zero_iff.1 hlen.symm
    rfl
  | cons a as ih =>
    cases bs with
    | nil => cases hlen
    | cons b bs =>
      have hlen : as.length = bs.length := Nat.succ.inj hlen
      have hzip : (zipWith (· ^^^ ·) as bs).length = bs.length := by simp [hlen]
      have hpow : 256 ^ bs.length = 2 ^ (8 * bs.length) := by rw [pow_mul]; norm_num
      have ha := number_lt as
      have hb := number_lt bs
      have hx := number_lt (zipWith (· ^^^ ·) as bs)
      rw [hlen, hpow] at ha
      rw [hpow] at hb
      rw [hzip, hpow, ih hlen] at hx
      rw [zipWith_cons_cons, number, number, number, ih hlen, hzip, hlen, hpow, UInt8.toNat_xor]
      -- the last octets are the low bits, and the first one is above them
      refine Nat.eq_of_testBit_eq fun i => ?_
      rw [Nat.testBit_xor, Nat.testBit_two_pow_mul_add _ hx, Nat.testBit_two_pow_mul_add _ ha,
        Nat.testBit_two_pow_mul_add _ hb]
      split <;> rw [Nat.testBit_xor]

def block (bs : List UInt8) : BitVec 128 := BitVec.ofNat 128 (number bs)

theorem toNat_block (h : bs.length = 16) : (block bs).toNat = number bs := by
  have hlt := number_lt bs
  rw [h] at hlt
  exact Nat.mod_eq_of_lt hlt

theorem block_injective (ha : as.length = 16) (hb : bs.length = 16) (h : block as = block bs) :
    as = bs := by
  refine number_injective (ha.trans hb.symm) ?_
  rw [← toNat_block ha, ← toNat_block hb, h]

theorem block_xor (ha : as.length = 16) (hb : bs.length = 16) :
    block (zipWith (· ^^^ ·) as bs) = block as ^^^ block bs := by
  apply BitVec.eq_of_toNat_eq
  rw [BitVec.toNat_xor, toNat_block ha, toNat_block hb, toNat_block (by simp [ha, hb]),
    number_xor (ha.trans hb.symm)]

def digits : Nat → Nat → List UInt8
  | 0, _ => []
  | k + 1, n => UInt8.ofNat (n / 256 ^ k) :: digits k n

@[simp] theorem length_digits (k n : Nat) : (digits k n).length = k := by
  induction k with
  | zero => rfl
  | succ k ih => rw [digits, length_cons, ih]

theorem number_digits (k n : Nat) : number (digits k n) = n % 256 ^ k := by
  induction k with
  | zero => rw [digits, number, pow_zero, Nat.mod_one]
  | succ k ih =>
    rw [digits, number, length_digits, ih, Nat.mod_pow_succ, UInt8.toNat_ofNat']
    exact Nat.add_comm _ _

def octets (b : BitVec 128) : List UInt8 := digits 16 b.toNat

@[simp] theorem length_octets : (octets b).length = 16 := length_digits ..

theorem block_octets : block (octets b) = b := by
  apply BitVec.eq_of_toNat_eq
  rw [toNat_block (length_octets b), octets, number_digits]
  exact Nat.mod_eq_of_lt b.isLt

theorem octets_block (h : bs.length = 16) : octets (block bs) = bs :=
  block_injective (length_octets _) h (block_octets _)

/-! ## The code -/

variable (E : BitVec 128 → BitVec 128)

/-- The subkeys, from the image of the zero block. -/
def subkey1 : BitVec 128 := double (E 0)

def subkey2 : BitVec 128 := double (subkey1 E)

variable (m : List UInt8)

/-- The number of blocks of a message; the empty message has one. -/
def blocks : Nat := max 1 ((m.length + 15) / 16)

def part (i : Nat) : List UInt8 := (m.drop (16 * i)).take 16

/-- A one bit behind the octets, and zeros. -/
def pad (bs : List UInt8) : List UInt8 := bs ++ 0x80 :: replicate (15 - bs.length) 0

def lastBlock : BitVec 128 :=
  let last := part m (blocks m - 1)
  if last.length = 16 then block last ^^^ subkey1 E else block (pad last) ^^^ subkey2 E

/-- The chain over the blocks before the last one. -/
def chain (n : Nat) : BitVec 128 :=
  (range n).foldl (fun x i => E (x ^^^ block (part m i))) 0

/-- The authentication code of a message. -/
def mac : BitVec 128 :=
  E (lastBlock E m ^^^ chain E m (blocks m - 1))

end Claudia5gc.Cmac
