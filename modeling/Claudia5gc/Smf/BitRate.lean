import Claudia5gc.Go.Float64
import Mathlib.Data.List.DropRight

/-!
# Bit rates

The PCF and the UDM give the rates of a session as text, such as "1.5 Gbps".  The SMF reads them as
whole kbps, rounded up.
-/

namespace Claudia5gc.Smf

open Go Float64 List UInt64

variable {u : BitRateUnit} {n : Number} {s : String} {k : ℚ} {m : ℤ}

/-! ## The pattern -/

inductive BitRateUnit where
  | bps
  | Kbps
  | Mbps
  | Gbps
  | Tbps
  deriving DecidableEq

namespace BitRateUnit

def text : BitRateUnit → List Char
  | .bps => ['b', 'p', 's']
  | .Kbps => ['K', 'b', 'p', 's']
  | .Mbps => ['M', 'b', 'p', 's']
  | .Gbps => ['G', 'b', 'p', 's']
  | .Tbps => ['T', 'b', 'p', 's']

def all : List BitRateUnit := [.bps, .Kbps, .Mbps, .Gbps, .Tbps]

def ofText (text : List Char) : Option BitRateUnit := all.find? fun u => u.text = text

def kbps : BitRateUnit → ℚ
  | .bps => 1 / 1000
  | .Kbps => 1
  | .Mbps => 1000
  | .Gbps => 1000000
  | .Tbps => 1000000000

def perKbps (u : BitRateUnit) : Float64 := .ofRat u.kbps

end BitRateUnit

def isSpace (c : Char) : Bool :=
  c.toNat ∈ [0x09, 0x0A, 0x0B, 0x0C, 0x0D, 0x20, 0x85, 0xA0, 0x1680, 0x2028, 0x2029, 0x202F, 0x205F,
    0x3000] ∨ 0x2000 ≤ c.toNat ∧ c.toNat ≤ 0x200A

def trimSpace (s : List Char) : List Char := (s.dropWhile isSpace).rdropWhile isSpace

def isDigit (c : Char) : Bool := '0' ≤ c ∧ c ≤ '9'

/-- The number of a bit rate: its digits before and after the point. -/
structure Number where
  whole : List Char
  frac : List Char
  deriving DecidableEq

/-- `\d+(?:\.\d+)?` -/
def scanNumber (text : List Char) : Option Number :=
  let whole := text.takeWhile isDigit
  if whole = [] then none
  else
    match text.dropWhile isDigit with
    | [] => some ⟨whole, []⟩
    | c :: frac => if c = '.' ∧ frac ≠ [] ∧ frac.all isDigit then some ⟨whole, frac⟩ else none

def findBitRate (s : List Char) : Option (Number × BitRateUnit) :=
  match scanNumber (s.takeWhile (· ≠ ' ')), s.dropWhile (· ≠ ' ') with
  | some number, _ :: unit => (BitRateUnit.ofText unit).map fun u => (number, u)
  | _, _ => none

/-! ## Parsing -/

/-- The number that decimal digits stand for. -/
def digits (text : List Char) : Nat := text.foldl (fun n c => 10 * n + (c.toNat - '0'.toNat)) 0

def Number.value (n : Number) : ℚ := digits n.whole + digits n.frac / 10 ^ n.frac.length

def parseFloat (n : Number) : Option Float64 :=
  match ofRat n.value with
  | .inf _ => none
  | v => some v

def maxBitRateKbps : UInt64 := 1000000000000

def parseBitRateKbps (s : String) : UInt64 × Bool :=
  match findBitRate (trimSpace s.toList) with
  | none => (0, false)
  | some (number, unit) =>
    match parseFloat number with
    | none => (0, false)
    | some v =>
      if v.le (.finite 0) ∨ v.isInf ∨ v.isNaN then (0, false)
      else
        let k := v.mul unit.perKbps
        if (ofRat maxBitRateKbps.toNat).lt k then (0, false)
        else
          -- a product near a whole number is taken for that number
          let r := k.round
          let k := if (k.sub r).abs.lt (.ofRat (1 / 1000000)) then r else k
          (k.ceil.toUInt64, true)

/-! ## What the pattern says -/

def Number.Written (n : Number) (text : List Char) : Prop :=
  n.whole ≠ [] ∧ n.whole.all isDigit ∧ (n.frac = [] ∧ text = n.whole ∨
      n.frac ≠ [] ∧ n.frac.all isDigit ∧ text = n.whole ++ '.' :: n.frac)

def IsBitRate (s : List Char) (n : Number) (u : BitRateUnit) : Prop :=
  ∃ text, n.Written text ∧ s = text ++ ' ' :: u.text

/-! ## Scanning -/

theorem BitRateUnit.ofText_eq_some_iff {text : List Char} :
    ofText text = some u ↔ u.text = text := by
  constructor
  · intro h
    simpa using find?_some h
  · rintro rfl
    cases u <;> decide

theorem scanNumber_eq_some_iff {text : List Char} : scanNumber text = some n ↔ n.Written text := by
  have hsplit := takeWhile_append_dropWhile (p := isDigit) (l := text)
  have hwhole : (text.takeWhile isDigit).all isDigit = true := all_takeWhile
  constructor
  · intro h
    unfold scanNumber at h
    dsimp only at h
    split at h
    · cases h
    · rename_i hne
      split at h
      · rename_i hrest
        cases h
        rw [hrest, append_nil] at hsplit
        exact ⟨hne, hwhole, Or.inl ⟨rfl, hsplit.symm⟩⟩
      · rename_i c frac hrest
        split at h
        · rename_i hfrac
          obtain ⟨rfl, hnil, hdigits⟩ := hfrac
          cases h
          rw [hrest] at hsplit
          exact ⟨hne, hwhole, Or.inr ⟨hnil, hdigits, hsplit.symm⟩⟩
        · cases h
  · obtain ⟨whole, frac⟩ := n
    rintro ⟨hne, hdigits, ⟨hfrac, htext⟩ | ⟨hfrac, hfracDigits, htext⟩⟩
    · subst hfrac htext
      have htake : text.takeWhile isDigit = text := by
        rw [takeWhile_eq_self_iff]
        exact all_eq_true.1 hdigits
      have hdrop : text.dropWhile isDigit = [] := by
        rw [dropWhile_eq_nil_iff]
        exact all_eq_true.1 hdigits
      unfold scanNumber
      rw [htake, hdrop, if_neg hne]
    · subst htext
      have hall := all_eq_true.1 hdigits
      have hpoint : isDigit '.' = false := by decide
      unfold scanNumber
      rw [takeWhile_append_of_pos hall, dropWhile_append_of_pos hall,
        takeWhile_cons_of_neg (by simp [hpoint]), dropWhile_cons_of_neg (by simp [hpoint]),
        append_nil, if_neg hne]
      exact if_pos ⟨rfl, hfrac, hfracDigits⟩

theorem Number.Written.no_blank {text : List Char} (h : n.Written text) :
    ∀ c ∈ text, decide (c ≠ ' ') = true := by
  have hdigit : ∀ c, isDigit c = true → decide (c ≠ ' ') = true := by
    intro c hc
    refine decide_eq_true ?_
    rintro rfl
    exact absurd hc (by decide)
  obtain ⟨_, hwhole, ⟨_, rfl⟩ | ⟨_, hfrac, rfl⟩⟩ := h
  · exact fun c hc => hdigit c (all_eq_true.1 hwhole c hc)
  · intro c hc
    rcases mem_append.1 hc with hc | hc
    · exact hdigit c (all_eq_true.1 hwhole c hc)
    · rcases mem_cons.1 hc with rfl | hc
      · decide
      · exact hdigit c (all_eq_true.1 hfrac c hc)

theorem findBitRate_eq_some_iff {s : List Char} :
    findBitRate s = some (n, u) ↔ IsBitRate s n u := by
  constructor
  · intro h
    have hsplit := takeWhile_append_dropWhile (p := fun c : Char => decide (c ≠ ' ')) (l := s)
    unfold findBitRate at h
    split at h
    · rename_i number c unit hnumber hrest
      obtain ⟨u', hu', h⟩ := Option.map_eq_some_iff.1 h
      cases h
      refine ⟨_, scanNumber_eq_some_iff.1 hnumber, ?_⟩
      -- the number ends at a blank
      obtain rfl : c = ' ' := by
        have hhead := head?_dropWhile_not (fun c : Char => decide (c ≠ ' ')) s
        rw [hrest] at hhead
        simpa using hhead
      rw [BitRateUnit.ofText_eq_some_iff.1 hu', ← hrest]
      exact hsplit.symm
    · cases h
  · rintro ⟨text, hwritten, rfl⟩
    have hall := hwritten.no_blank
    unfold findBitRate
    rw [takeWhile_append_of_pos hall, dropWhile_append_of_pos hall,
      takeWhile_cons_of_neg (by simp), dropWhile_cons_of_neg (by simp), append_nil,
      scanNumber_eq_some_iff.2 hwritten]
    dsimp only
    rw [BitRateUnit.ofText_eq_some_iff.2 rfl]
    rfl

theorem findBitRate_eq_none_iff {s : List Char} :
    findBitRate s = none ↔ ∀ n u, ¬ IsBitRate s n u := by
  constructor
  · intro h n u hrate
    exact absurd (h.symm.trans (findBitRate_eq_some_iff.2 hrate)) (by simp)
  · intro h
    rw [Option.eq_none_iff_forall_ne_some]
    rintro ⟨n, u⟩ hfound
    exact h n u (findBitRate_eq_some_iff.1 hfound)

/-! ## The errors of the computation -/

namespace BitRateUnit

theorem kbps_bounds (u : BitRateUnit) : 1 / 1000 ≤ u.kbps ∧ u.kbps ≤ 1000000000 := by
  cases u <;> norm_num [kbps]

theorem perKbps_eq (u : BitRateUnit) : u.perKbps = .finite (nearest u.kbps) := by
  obtain ⟨hlow, hhigh⟩ := u.kbps_bounds
  refine ofRat_eq ?_
  rw [abs_of_nonneg (by linarith)]
  linarith

theorem nearest_kbps (hu : u ≠ .bps) : ∃ n : ℤ, 0 < n ∧ u.kbps = n ∧ nearest u.kbps = n := by
  have hwhole : ∀ n : ℤ, 0 < n → |n| ≤ 2 ^ 53 → u.kbps = n →
      ∃ n : ℤ, 0 < n ∧ u.kbps = n ∧ nearest u.kbps = n := by
    intro n hpos hn hu
    exact ⟨n, hpos, hu, by rw [hu, nearest_eq_self (isFloat_int hn)]⟩
  cases u with
  | bps => exact absurd rfl hu
  | Kbps => exact hwhole 1 (by norm_num) (by norm_num) (by norm_num [kbps])
  | Mbps => exact hwhole 1000 (by norm_num) (by norm_num) (by norm_num [kbps])
  | Gbps => exact hwhole 1000000 (by norm_num) (by norm_num) (by norm_num [kbps])
  | Tbps => exact hwhole 1000000000 (by norm_num) (by norm_num) (by norm_num [kbps])

end BitRateUnit

def product (d : ℚ) (u : BitRateUnit) : ℚ := nearest (nearest d * nearest u.kbps)

/-- What is made of the product: a whole number that is near it, or the product. -/
def snap (k : ℚ) : ℚ :=
  if |nearest (k - ⌊k + 1 / 2⌋)| < nearest (1 / 1000000) then ⌊k + 1 / 2⌋ else k

theorem small_le {q : ℚ} (h : 1 / 10 ^ 30 ≤ q) : (2 : ℚ) ^ (-1022 : ℤ) ≤ q := by
  refine le_trans ?_ h
  calc (2 : ℚ) ^ (-1022 : ℤ) ≤ 2 ^ (-100 : ℤ) := zpow_le_zpow_right₀ (by norm_num) (by norm_num)
    _ ≤ 1 / 10 ^ 30 := by norm_num

theorem nearest_bounds {q : ℚ} (h : 1 / 10 ^ 30 ≤ q) :
    q * (1 - 1 / 2 ^ 53) ≤ nearest q ∧ nearest q ≤ q * (1 + 1 / 2 ^ 53) := by
  have hpos : 0 < q := lt_of_lt_of_le (by norm_num) h
  have herror := abs_nearest_sub_le_mul (q := q) (by rw [abs_of_pos hpos]; exact small_le h)
  rw [abs_of_pos hpos] at herror
  obtain ⟨hlow, hhigh⟩ := abs_le.1 herror
  constructor <;> linarith

theorem product_bounds {d : ℚ} (hd : 1 / 10 ^ 15 ≤ d) (u : BitRateUnit) :
    d * u.kbps * (1 - 1 / 2 ^ 53) ^ 3 ≤ product d u ∧
      product d u ≤ d * u.kbps * (1 + 1 / 2 ^ 53) ^ 3 := by
  obtain ⟨hunit, _⟩ := u.kbps_bounds
  have hdpos : 0 < d := lt_of_lt_of_le (by norm_num) hd
  have hless : (0 : ℚ) < 1 - 1 / 2 ^ 53 := by norm_num
  obtain ⟨hd₁, hd₂⟩ := nearest_bounds (q := d) (le_trans (by norm_num) hd)
  obtain ⟨hu₁, hu₂⟩ := nearest_bounds (q := u.kbps) (le_trans (by norm_num) hunit)
  have hd₀ : 0 ≤ nearest d := le_trans (by positivity) hd₁
  have hu₀ : 0 ≤ nearest u.kbps := le_trans (by positivity) hu₁
  have hlow : d * u.kbps * (1 - 1 / 2 ^ 53) ^ 2 ≤ nearest d * nearest u.kbps := by
    calc d * u.kbps * (1 - 1 / 2 ^ 53) ^ 2
        = d * (1 - 1 / 2 ^ 53) * (u.kbps * (1 - 1 / 2 ^ 53)) := by ring
      _ ≤ nearest d * nearest u.kbps := mul_le_mul hd₁ hu₁ (by positivity) hd₀
  have hhigh : nearest d * nearest u.kbps ≤ d * u.kbps * (1 + 1 / 2 ^ 53) ^ 2 := by
    calc nearest d * nearest u.kbps
        ≤ d * (1 + 1 / 2 ^ 53) * (u.kbps * (1 + 1 / 2 ^ 53)) :=
          mul_le_mul hd₂ hu₂ hu₀ (by positivity)
      _ = d * u.kbps * (1 + 1 / 2 ^ 53) ^ 2 := by ring
  have hsmall : 1 / 10 ^ 30 ≤ nearest d * nearest u.kbps := by
    have hproduct : 1 / 10 ^ 15 * (1 / 1000) ≤ d * u.kbps :=
      mul_le_mul hd hunit (by norm_num) hdpos.le
    have hscaled := mul_le_mul_of_nonneg_right hproduct (by positivity :
      (0 : ℚ) ≤ (1 - 1 / 2 ^ 53) ^ 2)
    exact le_trans (le_trans (by norm_num) hscaled) hlow
  obtain ⟨hk₁, hk₂⟩ := nearest_bounds hsmall
  constructor
  · calc d * u.kbps * (1 - 1 / 2 ^ 53) ^ 3
        = d * u.kbps * (1 - 1 / 2 ^ 53) ^ 2 * (1 - 1 / 2 ^ 53) := by ring
      _ ≤ nearest d * nearest u.kbps * (1 - 1 / 2 ^ 53) := mul_le_mul_of_nonneg_right hlow hless.le
      _ ≤ product d u := hk₁
  · calc product d u ≤ nearest d * nearest u.kbps * (1 + 1 / 2 ^ 53) := hk₂
      _ ≤ d * u.kbps * (1 + 1 / 2 ^ 53) ^ 2 * (1 + 1 / 2 ^ 53) :=
          mul_le_mul_of_nonneg_right hhigh (by norm_num)
      _ = d * u.kbps * (1 + 1 / 2 ^ 53) ^ 3 := by ring

theorem abs_product_sub_le {d : ℚ} (hd : 1 / 10 ^ 15 ≤ d) (u : BitRateUnit) :
    |product d u - d * u.kbps| ≤ d * u.kbps / 2 ^ 51 := by
  obtain ⟨hlow, hhigh⟩ := product_bounds hd u
  rw [abs_le]
  constructor <;> linarith

/-! ## Whole numbers near the product -/

theorem isFloat_twoPow (e : ℤ) (he : -1074 ≤ e) : IsFloat (2 ^ e) :=
  ⟨1, e, by norm_num, he, by simp⟩

theorem limit_bounds : (2 : ℚ) ^ (-20 : ℤ) < nearest (1 / 1000000) := by
  have hfloat : IsFloat (1025 * 2 ^ (-30 : ℤ)) := ⟨1025, -30, by norm_num, by norm_num, by norm_num⟩
  refine lt_of_lt_of_le ?_ (le_nearest hfloat ?_) <;> norm_num

theorem snap_of_near {n : ℤ} (h : |k - n| ≤ 2 ^ (-20 : ℤ)) : snap k = n := by
  have hround : ⌊k + 1 / 2⌋ = n := by
    have hsmall : (2 : ℚ) ^ (-20 : ℤ) ≤ 1 / 4 := by norm_num
    obtain ⟨hlow, hhigh⟩ := abs_le.1 (h.trans hsmall)
    rw [Int.floor_eq_iff]
    constructor <;> linarith
  unfold snap
  rw [hround]
  exact if_pos ((abs_nearest_le (isFloat_twoPow _ (by norm_num)) h).trans_lt limit_bounds)

theorem snap_of_far (h : ∀ n : ℤ, 1 / 1000000 ≤ |k - n|) : snap k = k := by
  refine if_neg (not_lt.2 ?_)
  have hfar := h ⌊k + 1 / 2⌋
  rcases le_total 0 (k - ⌊k + 1 / 2⌋) with hsign | hsign
  · rw [abs_of_nonneg hsign] at hfar
    exact (nearest_mono hfar).trans (le_abs_self _)
  · rw [abs_of_nonpos hsign] at hfar
    have hneg : nearest (-(1 / 1000000)) = -nearest (1 / 1000000) := by decide +kernel
    have hmono := nearest_mono (le_neg.1 hfar)
    rw [hneg] at hmono
    exact (le_neg.1 hmono).trans (neg_le_abs _)

/-! ## The result -/

theorem abs_round_le (h₀ : 0 ≤ k) (h : k ≤ 10 ^ 12) :
    |⌊k + 1 / 2⌋| ≤ 2 ^ 52 ∧ |k - ⌊k + 1 / 2⌋| ≤ 1 := by
  have hfloor := Int.floor_le (k + 1 / 2)
  have hnext := Int.lt_floor_add_one (k + 1 / 2)
  have hlow : (-1 : ℚ) < ⌊k + 1 / 2⌋ := by linarith
  have hhigh : (⌊k + 1 / 2⌋ : ℚ) ≤ 2 ^ 52 := by linarith
  have hlow' : -1 < ⌊k + 1 / 2⌋ := by exact_mod_cast hlow
  have hhigh' : ⌊k + 1 / 2⌋ ≤ 2 ^ 52 := by exact_mod_cast hhigh
  refine ⟨abs_le.2 ⟨by omega, hhigh'⟩, ?_⟩
  rw [abs_le]
  constructor <;> linarith

theorem ceil_snap_eq (h₀ : 0 ≤ k) (h : k ≤ 10 ^ 12) :
    (if ((finite k).sub (finite k).round).abs.lt (.ofRat (1 / 1000000)) then
      (finite k).round else .finite k).ceil.toUInt64 = ofNat ⌈snap k⌉.toNat := by
  obtain ⟨hround, hdist⟩ := abs_round_le h₀ h
  have hr : (finite k).round = .finite ⌊k + 1 / 2⌋ := by
    show ofRat ((if k < 0 then -⌊-k + 1 / 2⌋ else ⌊k + 1 / 2⌋ : ℤ) : ℚ) = _
    rw [if_neg (not_lt.2 h₀)]
    exact ofRat_int (hround.trans (by norm_num))
  have hsub : (finite k).sub (.finite ⌊k + 1 / 2⌋) = .finite (nearest (k - ⌊k + 1 / 2⌋)) :=
    ofRat_eq (hdist.trans (by norm_num))
  have hlimit : ofRat (1 / 1000000) = .finite (nearest (1 / 1000000)) :=
    ofRat_eq (by norm_num)
  have hif : (if ((finite k).sub (.finite ⌊k + 1 / 2⌋)).abs.lt (.ofRat (1 / 1000000)) then
      finite ⌊k + 1 / 2⌋ else .finite k) = .finite (snap k) := by
    rw [hsub, hlimit]
    simp only [Float64.abs, Float64.lt, decide_eq_true_eq, snap]
    split <;> rfl
  have hceil : |⌈snap k⌉| ≤ 2 ^ 53 := by
    have hsnap : |snap k| ≤ 2 ^ 52 := by
      unfold snap
      split
      · exact_mod_cast hround
      · rw [abs_of_nonneg h₀]
        linarith
    obtain ⟨hlow, hhigh⟩ := abs_le.1 hsnap
    refine abs_le.2 ⟨?_, ?_⟩
    · have hge : -(2 : ℚ) ^ 53 ≤ ⌈snap k⌉ := le_trans (by linarith) (Int.le_ceil _)
      exact_mod_cast hge
    · refine Int.ceil_le.2 ?_
      push_cast
      linarith
  rw [hr, hif]
  show (ofRat (⌈snap k⌉ : ℤ)).toUInt64 = _
  rw [ofRat_int hceil]
  show ofNat ⌊((⌈snap k⌉ : ℤ) : ℚ)⌋.toNat = _
  rw [Int.floor_intCast]

theorem ofRat_maxBitRateKbps : ofRat maxBitRateKbps.toNat = .finite (10 ^ 12) := by
  have hint := ofRat_int (n := 10 ^ 12) (by norm_num)
  push_cast at hint
  exact hint

theorem ceil_snap_le (h : k ≤ 10 ^ 12) : ⌈snap k⌉ ≤ 10 ^ 12 := by
  unfold snap
  split
  · rw [Int.ceil_intCast, ← Int.lt_add_one_iff, Int.floor_lt]
    push_cast
    linarith
  · rw [Int.ceil_le]
    exact_mod_cast h

theorem parseBitRateKbps_le {k : UInt64} (h : parseBitRateKbps s = (k, true)) :
    k.toNat ≤ 10 ^ 12 := by
  unfold parseBitRateKbps at h
  split at h
  · cases h
  rename_i n u hfind
  split at h
  · cases h
  rename_i v hv
  split at h
  · cases h
  rename_i hpos
  rw [ofRat_maxBitRateKbps, u.perKbps_eq] at h
  dsimp only at h
  split at h
  · cases h
  rename_i hk
  rw [not_or, not_or] at hpos
  -- neither the number nor the product is infinite
  match v, hpos with
  | .inf _, hpos => exact absurd rfl hpos.2.1
  | .nan, hpos => exact absurd rfl hpos.2.2
  | .finite q, hpos =>
    have hq : 0 < q := by simpa [le, lt] using hpos.1
    have hunit : 0 ≤ nearest u.kbps :=
      nearest_zero ▸ nearest_mono (le_trans (by norm_num) u.kbps_bounds.1)
    have hproduct : 0 ≤ q * nearest u.kbps := by positivity
    have hnonneg : 0 ≤ nearest (q * nearest u.kbps) := nearest_zero ▸ nearest_mono hproduct
    have hmul : (finite q).mul (.finite (nearest u.kbps)) =
        .finite (nearest (q * nearest u.kbps)) := by
      by_contra hinf
      have : (finite q).mul (.finite (nearest u.kbps)) = .inf false := by
        show ofRat _ = _
        unfold ofRat
        split_ifs with hfin
        · exact absurd (if_pos hfin) hinf
        · simp [not_lt.2 hproduct]
      rw [this] at hk
      exact hk rfl
    rw [hmul] at h hk
    have hle : nearest (q * nearest u.kbps) ≤ 10 ^ 12 := by simpa [lt] using hk
    rw [ceil_snap_eq hnonneg hle] at h
    have hceil := ceil_snap_le hle
    rw [← (Prod.mk.inj h).1, toNat_ofNat']
    exact (Nat.mod_le _ _).trans (by omega)

/-- What is computed for a number that is neither too large nor too small. -/
theorem parseBitRateKbps_eq (hrate : IsBitRate (trimSpace s.toList) n u)
    (hlow : 1 / 10 ^ 15 ≤ n.value) (hhigh : n.value ≤ 10 ^ 15) (hk : product n.value u ≤ 10 ^ 12) :
    parseBitRateKbps s = (ofNat ⌈snap (product n.value u)⌉.toNat, true) := by
  obtain ⟨hunit, _⟩ := u.kbps_bounds
  have hpos : 0 < n.value := lt_of_lt_of_le (by norm_num) hlow
  have hv : parseFloat n = some (.finite (nearest n.value)) := by
    unfold parseFloat
    rw [ofRat_eq (by rw [abs_of_pos hpos]; linarith)]
  have hvpos : 0 < nearest n.value :=
    lt_of_lt_of_le (by positivity) (nearest_bounds (le_trans (by norm_num) hlow)).1
  have hmpos : 0 < nearest u.kbps :=
    lt_of_lt_of_le (by positivity) (nearest_bounds (le_trans (by norm_num) hunit)).1
  have hk₀ : 0 ≤ product n.value u := le_trans (by positivity) (product_bounds hlow u).1
  have hmul : (finite (nearest n.value)).mul u.perKbps = .finite (product n.value u) := by
    rw [u.perKbps_eq]
    refine ofRat_eq ?_
    rw [abs_of_pos (by positivity)]
    -- otherwise the product would be as large
    by_contra hlarge
    have hfloat := le_nearest (isFloat_twoPow 53 (by norm_num)) (w := 2 ^ (53 : ℤ))
      (q := nearest n.value * nearest u.kbps) (not_le.1 hlarge).le
    have habove : (2 : ℚ) ^ (53 : ℤ) ≤ 10 ^ 12 := hfloat.trans hk
    norm_num at habove
  unfold parseBitRateKbps
  rw [findBitRate_eq_some_iff.2 hrate]
  dsimp only
  rw [hv]
  dsimp only
  rw [if_neg (by simp [le, lt, isInf, isNaN, hvpos]), hmul,
    ofRat_maxBitRateKbps, if_neg (by simpa [lt] using hk)]
  rw [ceil_snap_eq hk₀ hk]

/-! ## Rates that are read exactly -/

def exactKbps (n : Number) (u : BitRateUnit) : ℚ := n.value * u.kbps

def Resolved (n : Number) (u : BitRateUnit) : Prop :=
  (∃ m : ℤ, exactKbps n u = m ∧ (exactKbps n u < 2 ^ 33 ∨ ∃ d : ℤ, n.value = d)) ∨
    ∀ m : ℤ, 1 / 10 ^ 6 + exactKbps n u / 2 ^ 51 ≤ |exactKbps n u - m|

section Exact

variable {n : Number} {u : BitRateUnit}

theorem Number.value_nonneg (n : Number) : 0 ≤ n.value := by
  unfold Number.value
  positivity

theorem value_bounds (hlow : 1 / 10 ^ 6 ≤ exactKbps n u) (hhigh : exactKbps n u ≤ 10 ^ 12) :
    1 / 10 ^ 15 ≤ n.value ∧ n.value ≤ 10 ^ 15 := by
  obtain ⟨hunit, hunit'⟩ := u.kbps_bounds
  have hpos := n.value_nonneg
  unfold exactKbps at hlow hhigh
  have hmore := mul_le_mul_of_nonneg_left hunit' hpos
  have hless := mul_le_mul_of_nonneg_left hunit hpos
  constructor <;> linarith

theorem snap_intCast (m : ℤ) : snap m = m := snap_of_near (by rw [sub_self, abs_zero]; positivity)

theorem far_result (hlow : 1 / 10 ^ 15 ≤ n.value) (hhigh : exactKbps n u ≤ 10 ^ 12)
    (hfar : ∀ m : ℤ, 1 / 10 ^ 6 + exactKbps n u / 2 ^ 51 ≤ |exactKbps n u - m|) :
    product n.value u ≤ 10 ^ 12 ∧ ⌈snap (product n.value u)⌉ = ⌈exactKbps n u⌉ := by
  obtain ⟨herrorLow, herrorHigh⟩ := abs_le.1 (abs_product_sub_le hlow u)
  change -(exactKbps n u / 2 ^ 51) ≤ product n.value u - exactKbps n u at herrorLow
  change product n.value u - exactKbps n u ≤ exactKbps n u / 2 ^ 51 at herrorHigh
  have hceil := Int.le_ceil (exactKbps n u)
  have hbelow := Int.ceil_lt_add_one (exactKbps n u)
  -- the rate is away from the whole numbers around it, and so is the product
  have habove := hfar ⌈exactKbps n u⌉
  rw [abs_of_nonpos (by linarith)] at habove
  have hunder := hfar (⌈exactKbps n u⌉ - 1)
  push_cast at hunder
  rw [abs_of_pos (by linarith)] at hunder
  have htop : (⌈exactKbps n u⌉ : ℚ) ≤ 10 ^ 12 := by
    have hle : ⌈exactKbps n u⌉ ≤ 10 ^ 12 := Int.ceil_le.2 (by push_cast; exact hhigh)
    exact_mod_cast hle
  have hsnap : snap (product n.value u) = product n.value u := by
    refine snap_of_far fun m => ?_
    have hm := hfar m
    have htriangle := abs_sub_le (exactKbps n u) (product n.value u) m
    have herror : |exactKbps n u - product n.value u| ≤ exactKbps n u / 2 ^ 51 := by
      rw [abs_le]
      constructor <;> linarith
    linarith
  refine ⟨by linarith, ?_⟩
  rw [hsnap, Int.ceil_eq_iff]
  constructor <;> linarith

theorem whole_product {d : ℤ} (hd : n.value = d) (hm : exactKbps n u = m) (hpos : 0 < m)
    (hmax : m ≤ 10 ^ 12) (hd₀ : 0 ≤ d) (hdmax : d ≤ 10 ^ 15) : product n.value u = m := by
  have hfloatM : IsFloat (m : ℚ) := isFloat_int (abs_le.2 ⟨by omega, by omega⟩)
  have hfloatD : IsFloat (d : ℚ) := isFloat_int (abs_le.2 ⟨by omega, by omega⟩)
  unfold product
  rw [hd, nearest_eq_self hfloatD]
  unfold exactKbps at hm
  rw [hd] at hm
  by_cases hu : u = .bps
  · -- the constant for the bps is very near a thousandth
    subst hu
    have hposQ : (0 : ℚ) < m := by exact_mod_cast hpos
    refine nearest_eq_of_close hfloatM hposQ ?_
    have hconst : |nearest (1 / 1000) - 1 / 1000| ≤ 1 / 1000 / 2 ^ 55 := by decide +kernel
    have hdm : (d : ℚ) = 1000 * m := by
      change (d : ℚ) * (1 / 1000) = m at hm
      linarith
    have hfactor : (d : ℚ) * nearest (BitRateUnit.kbps .bps) - m =
        1000 * m * (nearest (1 / 1000) - 1 / 1000) := by
      rw [hdm]
      change 1000 * (m : ℚ) * nearest (1 / 1000) - m = _
      ring
    rw [hfactor, abs_mul, abs_of_pos (by positivity)]
    have hscaled := mul_le_mul_of_nonneg_left hconst (by positivity : (0 : ℚ) ≤ 1000 * m)
    refine hscaled.trans (le_of_eq ?_)
    ring
  · obtain ⟨j, _, hj, hjnear⟩ := BitRateUnit.nearest_kbps hu
    rw [hjnear, ← hj, hm, nearest_eq_self hfloatM]

theorem isFloat_beside (hpos : 0 < m) (hmax : m < 2 ^ 33) :
    IsFloat (m + 2 ^ (-20 : ℤ)) ∧ IsFloat (m - 2 ^ (-20 : ℤ)) := by
  refine ⟨⟨m * 2 ^ 20 + 1, -20, abs_le.2 ⟨by omega, by omega⟩, by norm_num, ?_⟩,
    ⟨m * 2 ^ 20 - 1, -20, abs_le.2 ⟨by omega, by omega⟩, by norm_num, ?_⟩⟩ <;>
    push_cast <;> norm_num <;> ring

theorem near_product (hu : u ≠ .bps) (hm : exactKbps n u = m) (hpos : 0 < m) (hmax : m < 2 ^ 33)
    (hlow : 1 / 10 ^ 15 ≤ n.value) : |product n.value u - m| ≤ 2 ^ (-20 : ℤ) := by
  obtain ⟨j, hjpos, hj, hjnear⟩ := BitRateUnit.nearest_kbps hu
  have hjposQ : (0 : ℚ) < j := by exact_mod_cast hjpos
  have hmaxQ : (m : ℚ) < 2 ^ 33 := by exact_mod_cast hmax
  obtain ⟨hd₁, hd₂⟩ := nearest_bounds (q := n.value) (le_trans (by norm_num) hlow)
  unfold exactKbps at hm
  rw [hj] at hm
  have hz : |nearest n.value * j - m| ≤ 2 ^ (-20 : ℤ) := by
    have hlowZ := mul_le_mul_of_nonneg_right hd₁ hjposQ.le
    have hhighZ := mul_le_mul_of_nonneg_right hd₂ hjposQ.le
    have hunit : (2 : ℚ) ^ (-20 : ℤ) = 2 ^ 33 / 2 ^ 53 := by norm_num
    rw [hunit, abs_le]
    constructor
    · linarith
    · linarith
  obtain ⟨hmore, hless⟩ := isFloat_beside hpos hmax
  obtain ⟨hzlow, hzhigh⟩ := abs_le.1 hz
  unfold product
  rw [hjnear, abs_le]
  constructor
  · have hle := le_nearest hless (q := nearest n.value * j) (by linarith)
    linarith
  · have hle := nearest_le hmore (q := nearest n.value * j) (by linarith)
    linarith

theorem whole_result (hm : exactKbps n u = m) (hpos : 0 < exactKbps n u)
    (hmax : exactKbps n u ≤ 10 ^ 12) (hlow : 1 / 10 ^ 15 ≤ n.value) (hhigh : n.value ≤ 10 ^ 15)
    (hwhole : exactKbps n u < 2 ^ 33 ∨ ∃ d : ℤ, n.value = d) :
    product n.value u ≤ 10 ^ 12 ∧ ⌈snap (product n.value u)⌉ = ⌈exactKbps n u⌉ := by
  rw [hm] at hpos hmax
  have hpos' : 0 < m := by exact_mod_cast hpos
  have hmax' : m ≤ 10 ^ 12 := by exact_mod_cast hmax
  have hexact : ∀ d : ℤ, n.value = d → product n.value u = m := by
    intro d hd
    rw [hd] at hhigh
    have hd₀ : (0 : ℚ) ≤ d := hd ▸ n.value_nonneg
    exact whole_product hd hm hpos' hmax' (by exact_mod_cast hd₀) (by exact_mod_cast hhigh)
  have hdone : ∀ d : ℤ, n.value = d →
      product n.value u ≤ 10 ^ 12 ∧ ⌈snap (product n.value u)⌉ = ⌈exactKbps n u⌉ := by
    intro d hd
    rw [hexact d hd, snap_intCast, hm]
    exact ⟨hmax, rfl⟩
  rcases hwhole with hsmall | ⟨d, hd⟩
  · by_cases hu : u = .bps
    · -- a whole number of kbps is one of bps
      refine hdone (1000 * m) ?_
      subst hu
      change n.value * (1 / 1000) = m at hm
      push_cast
      linarith
    · rw [hm] at hsmall
      have hnear := near_product hu hm hpos' (by exact_mod_cast hsmall) hlow
      refine ⟨?_, by rw [snap_of_near hnear, hm]⟩
      have hunit : (2 : ℚ) ^ (-20 : ℤ) ≤ 1 := by norm_num
      have hle := (abs_le.1 (hnear.trans hunit)).2
      linarith
  · exact hdone d hd

section

variable (hrate : IsBitRate (trimSpace s.toList) n u)
include hrate

theorem parseBitRateKbps_of_resolved
    (hpos : 0 < exactKbps n u) (hmax : exactKbps n u ≤ 10 ^ 12) (h : Resolved n u) :
    parseBitRateKbps s = (ofNat ⌈exactKbps n u⌉.toNat, true) := by
  have hleast : 1 / 10 ^ 6 ≤ exactKbps n u := by
    rcases h with ⟨m, hm, _⟩ | hfar
    · rw [hm] at hpos ⊢
      have hone : (1 : ℚ) ≤ m := by
        have hpos' : 0 < m := by exact_mod_cast hpos
        exact_mod_cast hpos'
      linarith
    · have hzero := hfar 0
      rw [Int.cast_zero, sub_zero, abs_of_pos hpos] at hzero
      linarith
  obtain ⟨hlow, hhigh⟩ := value_bounds hleast hmax
  have hresult : product n.value u ≤ 10 ^ 12 ∧ ⌈snap (product n.value u)⌉ = ⌈exactKbps n u⌉ := by
    rcases h with ⟨m, hm, hwhole⟩ | hfar
    · exact whole_result hm hpos hmax hlow hhigh hwhole
    · exact far_result hlow hmax hfar
  rw [parseBitRateKbps_eq hrate hlow hhigh hresult.1, hresult.2]

theorem parseBitRateKbps_of_zero (h : exactKbps n u = 0) : parseBitRateKbps s = (0, false) := by
  have hvalue : n.value = 0 := by
    rcases mul_eq_zero.1 h with h | h
    · exact h
    · have hunit := u.kbps_bounds.1
      rw [h] at hunit
      norm_num at hunit
  have hv : parseFloat n = some (.finite 0) := by
    unfold parseFloat
    rw [hvalue, ofRat_eq (by norm_num), nearest_zero]
  unfold parseBitRateKbps
  rw [findBitRate_eq_some_iff.2 hrate]
  dsimp only
  rw [hv]
  exact if_pos (Or.inl (by decide))

theorem parseBitRateKbps_of_large
    (h : 10 ^ 12 * (1 + 1 / 2 ^ 51) < exactKbps n u) : parseBitRateKbps s = (0, false) := by
  obtain ⟨hunit, hunit'⟩ := u.kbps_bounds
  have hlow : 1 / 10 ^ 15 ≤ n.value := by
    have hmore := mul_le_mul_of_nonneg_left hunit' n.value_nonneg
    unfold exactKbps at h
    linarith
  have hvpos : 0 < nearest n.value :=
    lt_of_lt_of_le (by positivity) (nearest_bounds (le_trans (by norm_num) hlow)).1
  have hmpos : 0 < nearest u.kbps := by
    exact lt_of_lt_of_le (by positivity) (nearest_bounds (le_trans (by norm_num) hunit)).1
  have hk : 10 ^ 12 < product n.value u := by
    refine lt_of_lt_of_le ?_ (product_bounds hlow u).1
    have hscaled := mul_lt_mul_of_pos_right h (by positivity : (0 : ℚ) < (1 - 1 / 2 ^ 53) ^ 3)
    exact lt_trans (by norm_num) hscaled
  -- the product is too large, or infinite
  have hlt : (finite (10 ^ 12)).lt ((finite (nearest n.value)).mul u.perKbps) = true := by
    rw [u.perKbps_eq]
    show (finite (10 ^ 12)).lt (ofRat (nearest n.value * nearest u.kbps)) = true
    unfold ofRat
    split
    · exact decide_eq_true hk
    · have hsign : ¬ nearest n.value * nearest u.kbps < 0 := not_lt.2 (by positivity)
      simp [lt, hsign]
  unfold parseBitRateKbps
  rw [findBitRate_eq_some_iff.2 hrate]
  dsimp only
  unfold parseFloat ofRat
  by_cases hfinite : |nearest n.value| < 2 ^ 1024
  · rw [if_pos hfinite]
    dsimp only
    rw [if_neg (by simp [le, lt, isInf, isNaN, hvpos])]
    have hmax := ofRat_maxBitRateKbps
    unfold ofRat at hmax
    rw [hmax, if_pos hlt]
  · rw [if_neg hfinite]

end

end Exact

/-- White space around the text is left out.  A rate in the range is read as that rate, rounded
up, unless it is so near a whole number that the computation cannot tell them apart.  A text of
another form, a rate of zero and a rate above the range are rejected. -/
theorem parseBitRateKbps_exact (s : String) :
    (∀ n u, IsBitRate (trimSpace s.toList) n u → 0 < exactKbps n u → exactKbps n u ≤ 10 ^ 12 →
      Resolved n u → parseBitRateKbps s = (ofNat ⌈exactKbps n u⌉.toNat, true)) ∧
    ((∀ n u, IsBitRate (trimSpace s.toList) n u →
      exactKbps n u = 0 ∨ 10 ^ 12 * (1 + 1 / 2 ^ 51) < exactKbps n u) →
      parseBitRateKbps s = (0, false)) := by
  refine ⟨fun n u hrate hpos hmax h => parseBitRateKbps_of_resolved hrate hpos hmax h, fun h => ?_⟩
  cases hfound : findBitRate (trimSpace s.toList) with
  | none =>
    unfold parseBitRateKbps
    rw [hfound]
  | some found =>
    obtain ⟨n, u⟩ := found
    have hrate := findBitRate_eq_some_iff.1 hfound
    rcases h n u hrate with hzero | hlarge
    · exact parseBitRateKbps_of_zero hrate hzero
    · exact parseBitRateKbps_of_large hrate hlarge

example : parseBitRateKbps "0.1 Mbps" = (100, true) := by decide +kernel

/-- A blank before the text does no harm.  (Rates near a whole number are read wrong: one that is
nearly zero becomes zero, one just above a whole number is rounded down, and a large whole number
may be rounded up.) -/
theorem blank_accepted_and_rate_lost :
    ((∀ n u, ¬ IsBitRate " 1 Kbps".toList n u) ∧ parseBitRateKbps " 1 Kbps" = (1, true)) ∧
    (IsBitRate "0.0000001 Kbps".toList ⟨['0'], ['0', '0', '0', '0', '0', '0', '1']⟩ .Kbps ∧
      exactKbps ⟨['0'], ['0', '0', '0', '0', '0', '0', '1']⟩ .Kbps = 1 / 10 ^ 7 ∧
      parseBitRateKbps "0.0000001 Kbps" = (0, true)) ∧
    parseBitRateKbps "1000.0000001 Kbps" = (1000, true) ∧
    parseBitRateKbps "262.98 Tbps" = (262980000001, true) := by
  refine ⟨⟨findBitRate_eq_none_iff.1 (by decide +kernel), by decide +kernel⟩,
    ⟨findBitRate_eq_some_iff.1 (by decide +kernel), by decide +kernel, by decide +kernel⟩,
    by decide +kernel, by decide +kernel⟩

end Claudia5gc.Smf
