import Mathlib.Algebra.Order.Field.Power
import Mathlib.Data.Int.Log
import Mathlib.Data.Rat.Floor
import Mathlib.Tactic.Linarith
import Mathlib.Tactic.NormNum
import Mathlib.Tactic.Positivity
import Mathlib.Tactic.Ring

/-!
# Floating point numbers

`float64`: an operation computes the exact result and rounds it to the nearest number with 53 binary
digits, of two equally near ones to the one that is even.  Finite numbers are rationals here, so
that the exact result is there to be rounded.
-/

namespace Claudia5gc.Go

open Int

variable {q w : ℚ} {n : ℤ}

/-! ## Rounding to an integer -/

/-- The nearest integer, and of two the even one. -/
def roundEven (q : ℚ) : ℤ :=
  if q - ⌊q⌋ < 1 / 2 then ⌊q⌋
  else if 1 / 2 < q - ⌊q⌋ then ⌊q⌋ + 1
  else if ⌊q⌋ % 2 = 0 then ⌊q⌋ else ⌊q⌋ + 1

theorem abs_roundEven_sub_le_half (q : ℚ) : |(roundEven q : ℚ) - q| ≤ 1 / 2 := by
  have hfloor := floor_le q
  have hnext := lt_floor_add_one q
  unfold roundEven
  split_ifs <;> push_cast <;> rw [abs_le] <;> constructor <;> linarith

theorem abs_roundEven_sub_le (q : ℚ) (n : ℤ) : |(roundEven q : ℚ) - q| ≤ |(n : ℚ) - q| := by
  have hhalf := abs_roundEven_sub_le_half q
  by_cases hn : n = roundEven q
  · rw [hn]
  · -- another integer is at least one away from the nearest one
    have hone : (1 : ℚ) ≤ |(n : ℚ) - roundEven q| := by
      have hpos : 1 ≤ |n - roundEven q| := one_le_abs (sub_ne_zero.2 hn)
      exact_mod_cast hpos
    have htriangle : |(n : ℚ) - roundEven q| ≤ |(n : ℚ) - q| + |(roundEven q : ℚ) - q| := by
      rw [abs_sub_comm (roundEven q : ℚ) q]
      exact abs_sub_le (n : ℚ) q (roundEven q)
    linarith

theorem roundEven_abs_le (h : |q| ≤ n) : |roundEven q| ≤ n := by
  have hhalf := abs_le.1 (abs_roundEven_sub_le_half q)
  obtain ⟨hlow, hhigh⟩ := abs_le.1 h
  have hlt : (roundEven q : ℚ) < n + 1 := by linarith
  have hgt : -((n : ℚ) + 1) < roundEven q := by linarith
  have hlt' : roundEven q < n + 1 := by exact_mod_cast hlt
  have hgt' : -(n + 1) < roundEven q := by exact_mod_cast hgt
  exact abs_le.2 ⟨by omega, by omega⟩

/-! ## Rounding to a floating point number -/

/-- The unit in the last place: there are 53 binary digits, and no digit below the 1074th. -/
def ulp (q : ℚ) : ℚ := 2 ^ max (log 2 |q| - 52) (-1074)

def nearest (q : ℚ) : ℚ := roundEven (q / ulp q) * ulp q

/-- A number with 53 binary digits.  Large exponents are dealt with when a number overflows. -/
def IsFloat (q : ℚ) : Prop := ∃ m e : ℤ, |m| ≤ 2 ^ 53 ∧ -1074 ≤ e ∧ q = m * 2 ^ e

theorem ulp_pos (q : ℚ) : 0 < ulp q := by
  unfold ulp
  positivity

theorem abs_lt_ulp (q : ℚ) : |q| < 2 ^ 53 * ulp q := by
  have hlog : |q| < (2 : ℚ) ^ (log 2 |q| + 1) := by
    exact_mod_cast lt_zpow_succ_log_self (by norm_num : 1 < 2) |q|
  refine hlog.trans_le ?_
  unfold ulp
  rw [← zpow_natCast (2 : ℚ) 53, ← zpow_add₀ (by norm_num : (2 : ℚ) ≠ 0)]
  refine zpow_le_zpow_right₀ (by norm_num) ?_
  push_cast
  omega

theorem ulp_le_abs (hq : q ≠ 0) (hlog : -1022 ≤ log 2 |q|) : 2 ^ 52 * ulp q ≤ |q| := by
  have hpower : (2 : ℚ) ^ log 2 |q| ≤ |q| := by
    exact_mod_cast zpow_log_le_self (by norm_num : 1 < 2) (abs_pos.2 hq)
  refine le_trans (le_of_eq ?_) hpower
  unfold ulp
  rw [max_eq_left (by omega), ← zpow_natCast (2 : ℚ) 52, ← zpow_add₀ (by norm_num : (2 : ℚ) ≠ 0)]
  congr 1
  push_cast
  omega

theorem abs_nearest_sub_le_half_ulp (q : ℚ) : |nearest q - q| ≤ ulp q / 2 := by
  have hpos := ulp_pos q
  have hhalf := abs_roundEven_sub_le_half (q / ulp q)
  have hfactor : nearest q - q = (roundEven (q / ulp q) - q / ulp q) * ulp q := by
    unfold nearest
    field_simp
  rw [hfactor, abs_mul, abs_of_pos hpos]
  have hmul := mul_le_mul_of_nonneg_right hhalf hpos.le
  linarith

theorem isFloat_nearest (q : ℚ) : IsFloat (nearest q) := by
  refine ⟨roundEven (q / ulp q), max (log 2 |q| - 52) (-1074), ?_, le_max_right _ _, rfl⟩
  refine roundEven_abs_le ?_
  have hpos := ulp_pos q
  rw [abs_div, abs_of_pos hpos, div_le_iff₀ hpos]
  push_cast
  exact (abs_lt_ulp q).le

theorem abs_nearest_sub_le_mul_ulp (q : ℚ) (n : ℤ) : |nearest q - q| ≤ |n * ulp q - q| := by
  have hpos := ulp_pos q
  have hscale : ∀ m : ℤ, |m * ulp q - q| = |m - q / ulp q| * ulp q := by
    intro m
    have hfactor : m * ulp q - q = (m - q / ulp q) * ulp q := by field_simp
    rw [hfactor, abs_mul, abs_of_pos hpos]
  unfold nearest
  rw [hscale, hscale]
  exact mul_le_mul_of_nonneg_right (abs_roundEven_sub_le _ n) hpos.le

theorem abs_nearest_sub_le_of_abs_le (hw : |w| ≤ 2 ^ 52 * ulp q) (hq : 2 ^ 52 * ulp q ≤ |q|) :
    |nearest q - q| ≤ |w - q| := by
  obtain ⟨hlow, hhigh⟩ := abs_le.1 hw
  have hpower : ∀ n : ℤ, |nearest q - q| ≤ |n * ulp q - q| := abs_nearest_sub_le_mul_ulp q
  rcases le_total 0 q with hsign | hsign
  · rw [abs_of_nonneg hsign] at hq
    refine (hpower 4503599627370496).trans ?_
    push_cast
    rw [abs_of_nonpos (by linarith), abs_of_nonpos (by linarith)]
    linarith
  · rw [abs_of_nonpos hsign] at hq
    refine (hpower (-4503599627370496)).trans ?_
    push_cast
    rw [abs_of_nonneg (by linarith), abs_of_nonneg (by linarith)]
    linarith

@[simp] theorem nearest_zero : nearest 0 = 0 := by simp [nearest, roundEven]

/-- No floating point number is nearer. -/
theorem abs_nearest_sub_le (hw : IsFloat w) : |nearest q - q| ≤ |w - q| := by
  obtain ⟨m, e, hm, he, rfl⟩ := hw
  by_cases hunit : max (log 2 |q| - 52) (-1074) ≤ e
  · -- the number is a multiple of the unit
    obtain ⟨j, hj⟩ := eq_ofNat_of_zero_le (sub_nonneg.2 hunit)
    have hmultiple : (m : ℚ) * 2 ^ e = (m * 2 ^ j : ℤ) * ulp q := by
      have he' : e = (j : ℤ) + max (log 2 |q| - 52) (-1074) := by omega
      unfold ulp
      rw [he', zpow_add₀ (by norm_num : (2 : ℚ) ≠ 0), zpow_natCast]
      push_cast
      ring
    rw [hmultiple]
    exact abs_nearest_sub_le_mul_ulp q _
  · -- its unit is less than that of `q`
    rcases eq_or_ne q 0 with rfl | hq
    · rw [nearest_zero, sub_self, abs_zero]
      exact abs_nonneg _
    · refine abs_nearest_sub_le_of_abs_le ?_ (ulp_le_abs hq (by omega))
      have hsmall : (2 : ℚ) ^ e * 2 ≤ ulp q := by
        rw [← zpow_add_one₀ (by norm_num : (2 : ℚ) ≠ 0)]
        exact zpow_le_zpow_right₀ (by norm_num) (by omega)
      have hpos : (0 : ℚ) < 2 ^ e := by positivity
      have hm' : |(m : ℚ)| ≤ 2 ^ 53 := by exact_mod_cast hm
      have hmul := mul_le_mul_of_nonneg_right hm' hpos.le
      rw [abs_mul, abs_of_pos hpos]
      linarith

theorem nearest_eq_self (h : IsFloat q) : nearest q = q := by
  have hle := abs_nearest_sub_le h (q := q)
  rw [sub_self, abs_zero] at hle
  exact sub_eq_zero.1 (abs_nonpos_iff.1 hle)

theorem nearest_mono {q' : ℚ} (h : q ≤ q') : nearest q ≤ nearest q' := by
  by_contra hlt
  have hlt := not_le.1 hlt
  -- `q` is not below the middle of the two results, and `q'` not above it
  have hq := sq_le_sq.2 (abs_nearest_sub_le (isFloat_nearest q') (q := q))
  have hq' := sq_le_sq.2 (abs_nearest_sub_le (isFloat_nearest q) (q := q'))
  have hlow : nearest q + nearest q' ≤ 2 * q := by nlinarith
  have hhigh : 2 * q' ≤ nearest q + nearest q' := by nlinarith
  have heq : q = q' := by linarith
  rw [heq] at hlt
  exact lt_irrefl _ hlt

theorem nearest_le (hw : IsFloat w) (h : q ≤ w) : nearest q ≤ w :=
  (nearest_mono h).trans_eq (nearest_eq_self hw)

theorem le_nearest (hw : IsFloat w) (h : w ≤ q) : w ≤ nearest q :=
  (nearest_eq_self hw).symm.trans_le (nearest_mono h)

/-- The relative error of the rounding. -/
theorem abs_nearest_sub_le_mul (h : (2 : ℚ) ^ (-1022 : ℤ) ≤ |q|) :
    |nearest q - q| ≤ |q| / 2 ^ 53 := by
  have hpos : 0 < |q| := lt_of_lt_of_le (by positivity) h
  have hlog : -1022 ≤ log 2 |q| :=
    (zpow_le_iff_le_log (by norm_num : 1 < 2) hpos).1 (by exact_mod_cast h)
  have hhalf := abs_nearest_sub_le_half_ulp q
  have hulp := ulp_le_abs (abs_pos.1 hpos) hlog
  linarith

theorem isFloat_int (h : |n| ≤ 2 ^ 53) : IsFloat n :=
  ⟨n, 0, h, by norm_num, by simp⟩

theorem IsFloat.neg (h : IsFloat q) : IsFloat (-q) := by
  obtain ⟨m, e, hm, he, rfl⟩ := h
  exact ⟨-m, e, by rwa [abs_neg], he, by push_cast; ring⟩

theorem abs_nearest_le (hw : IsFloat w) (h : |q| ≤ w) : |nearest q| ≤ w := by
  obtain ⟨hlow, hhigh⟩ := abs_le.1 h
  exact abs_le.2 ⟨le_nearest hw.neg hlow, nearest_le hw hhigh⟩

theorem IsFloat.abs_le_digit {m e : ℤ} (hm : |m| ≤ 2 ^ 53) :
    |(m : ℚ) * 2 ^ e| / 2 ^ 53 ≤ (2 : ℚ) ^ e := by
  have hpos : (0 : ℚ) < 2 ^ e := by positivity
  have hm' : |(m : ℚ)| ≤ 2 ^ 53 := by exact_mod_cast hm
  rw [abs_mul, abs_of_pos hpos, div_le_iff₀ (by positivity), mul_comm ((2 : ℚ) ^ e)]
  exact mul_le_mul_of_nonneg_right hm' hpos.le

theorem eq_zero_of_abs_lt_digit {e : ℤ} (h : |(n : ℚ) * 2 ^ e| < 2 ^ e) : n = 0 := by
  have hpos : (0 : ℚ) < 2 ^ e := by positivity
  rw [abs_mul, abs_of_pos hpos, mul_lt_iff_lt_one_left hpos] at h
  have hlt : |n| < 1 := by exact_mod_cast h
  exact abs_lt_one_iff.1 hlt

theorem IsFloat.eq_of_close {a b : ℚ} (ha : IsFloat a) (hb : IsFloat b)
    (hcloseA : |a - b| < |a| / 2 ^ 53) (hcloseB : |a - b| < |b| / 2 ^ 53) : a = b := by
  obtain ⟨m, e, hm, _, rfl⟩ := ha
  obtain ⟨n, f, hn, _, rfl⟩ := hb
  have hdigitA := IsFloat.abs_le_digit (e := e) hm
  have hdigitB := IsFloat.abs_le_digit (e := f) hn
  have htwo : (2 : ℚ) ≠ 0 := by norm_num
  -- the difference is a multiple of the smaller digit
  rcases le_total e f with hle | hle
  · obtain ⟨j, hj⟩ := eq_ofNat_of_zero_le (sub_nonneg.2 hle)
    have hdiff : (m : ℚ) * 2 ^ e - n * 2 ^ f = (m - n * 2 ^ j : ℤ) * 2 ^ e := by
      rw [show f = (j : ℤ) + e by omega, zpow_add₀ htwo, zpow_natCast]
      push_cast
      ring
    rw [hdiff] at hcloseA
    have hzero := eq_zero_of_abs_lt_digit (hcloseA.trans_le hdigitA)
    rw [hzero] at hdiff
    exact sub_eq_zero.1 (by rw [hdiff]; simp)
  · obtain ⟨j, hj⟩ := eq_ofNat_of_zero_le (sub_nonneg.2 hle)
    have hdiff : (m : ℚ) * 2 ^ e - n * 2 ^ f = (m * 2 ^ j - n : ℤ) * 2 ^ f := by
      rw [show e = (j : ℤ) + f by omega, zpow_add₀ htwo, zpow_natCast]
      push_cast
      ring
    rw [hdiff] at hcloseB
    have hzero := eq_zero_of_abs_lt_digit (hcloseB.trans_le hdigitB)
    rw [hzero] at hdiff
    exact sub_eq_zero.1 (by rw [hdiff]; simp)

/-- A result that is very near a floating point number is rounded to it. -/
theorem nearest_eq_of_close (hw : IsFloat w) (hpos : 0 < w) (h : |q - w| ≤ w / 2 ^ 55) :
    nearest q = w := by
  have hnear := abs_nearest_sub_le hw (q := q)
  rw [abs_sub_comm w q] at hnear
  have hclose : |nearest q - w| ≤ w / 2 ^ 54 := by
    have htriangle := abs_sub_le (nearest q) q w
    linarith
  have hlow := (abs_le.1 hclose).1
  have habs : |nearest q| = nearest q := abs_of_nonneg (by nlinarith)
  refine (isFloat_nearest q).eq_of_close hw ?_ ?_
  · refine hclose.trans_lt ?_
    linarith
  · rw [abs_of_pos hpos]
    refine hclose.trans_lt ?_
    linarith

/-! ## Floating point numbers -/

inductive Float64 where
  | finite (q : ℚ)
  | inf (negative : Bool)
  | nan
  deriving DecidableEq

namespace Float64

/-- The number for an exact result; one that is too large is infinite. -/
def ofRat (q : ℚ) : Float64 :=
  if |nearest q| < 2 ^ 1024 then .finite (nearest q) else .inf (q < 0)

theorem ofRat_eq (h : |q| ≤ 2 ^ 53) : ofRat q = .finite (nearest q) := by
  have hfloat : IsFloat (2 ^ 53) := by
    have hint := isFloat_int (n := 2 ^ 53) (by norm_num)
    rwa [cast_pow, cast_ofNat] at hint
  refine if_pos ((abs_nearest_le hfloat h).trans_lt ?_)
  exact pow_lt_pow_right₀ (by norm_num) (by norm_num)

theorem ofRat_int (h : |n| ≤ 2 ^ 53) : ofRat n = .finite n := by
  rw [ofRat_eq (by exact_mod_cast h), nearest_eq_self (isFloat_int h)]

def mul : Float64 → Float64 → Float64
  | .finite a, .finite b => ofRat (a * b)
  | .finite a, .inf s => if a = 0 then .nan else .inf (xor s (a < 0))
  | .inf s, .finite b => if b = 0 then .nan else .inf (xor s (b < 0))
  | .inf s, .inf t => .inf (xor s t)
  | .nan, _ => .nan
  | _, .nan => .nan

def sub : Float64 → Float64 → Float64
  | .finite a, .finite b => ofRat (a - b)
  | .finite _, .inf s => .inf !s
  | .inf s, .finite _ => .inf s
  | .inf s, .inf t => if s = t then .nan else .inf s
  | .nan, _ => .nan
  | _, .nan => .nan

def lt : Float64 → Float64 → Bool
  | .finite a, .finite b => a < b
  | .finite _, .inf s => !s
  | .inf s, .finite _ => s
  | .inf s, .inf t => s && !t
  | .nan, _ => false
  | _, .nan => false

def le : Float64 → Float64 → Bool
  | .nan, _ => false
  | _, .nan => false
  | a, b => !b.lt a

def abs : Float64 → Float64
  | .finite q => .finite |q|
  | .inf _ => .inf false
  | .nan => .nan

/-- `math.Round`: half away from zero. -/
def round : Float64 → Float64
  | .finite q => ofRat (if q < 0 then -⌊-q + 1 / 2⌋ else ⌊q + 1 / 2⌋ : ℤ)
  | x => x

def ceil : Float64 → Float64
  | .finite q => ofRat ⌈q⌉
  | x => x

def isInf : Float64 → Bool
  | .inf _ => true
  | _ => false

def isNaN : Float64 → Bool
  | .nan => true
  | _ => false

/-- `uint64(x)`, for a number in the range of the type. -/
def toUInt64 : Float64 → UInt64
  | .finite q => UInt64.ofNat ⌊q⌋.toNat
  | _ => 0

end Float64

end Claudia5gc.Go
