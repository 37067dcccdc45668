import Claudia5gc.Go.Int64
import Claudia5gc.TokenBucket
import Mathlib.Tactic.NormNum

/-!
# The rate policer of the UPF

The token bucket of package `qos`, with the `int64` arithmetic of the source.  Tokens are counted in
micro-bits: one kbps for one nanosecond is one micro-bit, so a refill is a product of integers.
-/

namespace Claudia5gc.Upf

open Go List

variable {b' : Bucket} {now : Int64} {n : UInt32}

/-! ## The code -/

def minBurstMs : Int64 := 1
def maxBurstMs : Int64 := 1000
def defaultBurstMs : Int64 := 100

def floorBytes : Int64 := 3 * 1500

def unlimitedKbps : UInt64 := 0xFFFFFFFF

def ubitPerBit : Int64 := 1000000

def clampBurstMs (ms : Int64) : Int64 :=
  if ms = 0 then defaultBurstMs
  else if ms < minBurstMs then minBurstMs
  else if ms > maxBurstMs then maxBurstMs
  else ms

/-- A policer for one direction of one QER. -/
structure Bucket where
  burstMs : Int64
  rate : UInt64 := 0
  depth : Int64 := 0
  fillNs : Int64 := 0
  tokens : Int64 := 0
  last : Int64
  deriving DecidableEq

namespace Bucket

def boundedRate (rateKbps : UInt64) : UInt64 :=
  let rateKbps := if rateKbps = 0 then 1 else rateKbps
  if rateKbps ≥ unlimitedKbps then unlimitedKbps - 1 else rateKbps

variable (b : Bucket)

variable (rateKbps : UInt64)

def depthBits : Int64 :=
  let bits := rateKbps.toInt64 * b.burstMs
  let floor := floorBytes * 8
  if bits < floor then floor else bits

def setRate : Bucket :=
  let rateKbps := boundedRate rateKbps
  let depth := b.depthBits rateKbps * ubitPerBit
  let r := rateKbps.toInt64
  { b with rate := rateKbps, depth := depth, fillNs := (depth + r - 1) / r }

def new (burstMs now : Int64) : Bucket :=
  let b : Bucket := { burstMs := clampBurstMs burstMs, last := now }
  let b := b.setRate rateKbps
  { b with tokens := b.depth }

def refill (now : Int64) : Bucket :=
  let el := now - b.last
  if el ≤ 0 then b
  else
    let b := { b with last := now }
    -- the clamp comes before the product, which could not be formed for an idle bucket
    if el ≥ b.fillNs then { b with tokens := b.depth }
    else
      let b := { b with tokens := b.tokens + el * b.rate.toInt64 }
      if b.tokens > b.depth then { b with tokens := b.depth } else b

/-- `SetRate`: what has been gained at the old rate is settled first. -/
def changeRate (now : Int64) : Bucket :=
  let b := (b.refill now).setRate rateKbps
  if b.tokens > b.depth then { b with tokens := b.depth } else b

/-- The micro-bits of an `n`-octet packet. -/
def cost (n : Int64) : Int64 := n * 8 * ubitPerBit

/-- `Admit`: a packet that does not conform takes nothing. -/
def admits (n now : Int64) : Bool × Bucket :=
  let b := b.refill now
  if b.tokens ≥ cost n then (true, { b with tokens := b.tokens - cost n }) else (false, b)

def refund (n : Int64) : Bucket :=
  let b := { b with tokens := b.tokens + cost n }
  if b.tokens > b.depth then { b with tokens := b.depth } else b

/-! ## The bucket that the code stands for -/

def ideal : TokenBucket Int where
  rate := b.rate.toNat
  depth := b.depth.toInt
  tokens := b.tokens.toInt
  last := b.last.toInt

/-- What holds of every bucket that the UPF makes. -/
structure Ok (b : Bucket) : Prop where
  burst : 1 ≤ b.burstMs.toInt ∧ b.burstMs.toInt ≤ 1000
  rate : 1 ≤ b.rate.toNat ∧ b.rate.toNat < 2 ^ 32 - 1
  depth : b.depth.toInt = max (b.rate.toNat * b.burstMs.toInt) 36000 * 1000000
  fillNs : b.fillNs.toInt = (b.depth.toInt + b.rate.toNat - 1) / b.rate.toNat
  nonneg : 0 ≤ b.tokens.toInt
  le_depth : b.tokens.toInt ≤ b.depth.toInt
  last : 0 ≤ b.last.toInt

/-! ## Setting the rate -/

def SetRateExact : Prop :=
  let r := (boundedRate rateKbps).toInt64
  let depth := b.depthBits (boundedRate rateKbps) * ubitPerBit
  MulExact r b.burstMs ∧ MulExact floorBytes 8 ∧
    MulExact (b.depthBits (boundedRate rateKbps)) ubitPerBit ∧
    AddExact depth r ∧ SubExact (depth + r) 1

theorem clampBurstMs_range (ms : Int64) :
    1 ≤ (clampBurstMs ms).toInt ∧ (clampBurstMs ms).toInt ≤ 1000 := by
  unfold clampBurstMs
  split_ifs with hzero hmin hmax
  · decide
  · decide
  · decide
  · rw [Int64.lt_iff_toInt_lt] at hmin
    rw [gt_iff_lt, Int64.lt_iff_toInt_lt] at hmax
    have hlo : minBurstMs.toInt = 1 := rfl
    have hhi : maxBurstMs.toInt = 1000 := rfl
    omega

theorem toNat_boundedRate :
    1 ≤ (boundedRate rateKbps).toNat ∧ (boundedRate rateKbps).toNat < 2 ^ 32 - 1 := by
  unfold boundedRate
  dsimp only
  by_cases hzero : rateKbps = 0
  · subst hzero
    decide
  · split_ifs with hbig
    · decide
    · have hlt : rateKbps.toNat < 2 ^ 32 - 1 :=
        UInt64.lt_iff_toNat_lt.1 (UInt64.not_le.1 hbig)
      have hne : rateKbps.toNat ≠ 0 := fun h => hzero (UInt64.toNat_inj.1 h)
      omega

theorem boundedRate_of_range {rateKbps : UInt64} (hlo : 1 ≤ rateKbps)
    (hhi : rateKbps < unlimitedKbps) : boundedRate rateKbps = rateKbps := by
  have hne : rateKbps ≠ 0 := by
    rintro rfl
    exact absurd hlo (by decide)
  unfold boundedRate
  rw [if_neg hne, if_neg (UInt64.not_le.2 hhi)]

theorem toInt_rate {rate : UInt64} (h : rate.toNat < 2 ^ 32 - 1) :
    rate.toInt64.toInt = rate.toNat :=
  toInt_toInt64_of_lt (by omega)

theorem rate_mul_burst_le {r m : Int} (hr : 1 ≤ r ∧ r < 2 ^ 32 - 1) (hm : 1 ≤ m ∧ m ≤ 1000) :
    1 ≤ r * m ∧ r * m ≤ 4294967294000 := by
  have hlo : 1 * 1 ≤ r * m := mul_le_mul hr.1 hm.1 (by omega) (by omega)
  have hhi : r * m ≤ 4294967294 * 1000 := mul_le_mul (by omega) hm.2 (by omega) (by omega)
  omega

theorem depth_mul_range {r m : Int} (hr : 1 ≤ r ∧ r < 2 ^ 32 - 1) (hm : 1 ≤ m ∧ m ≤ 1000) :
    36000000000 ≤ max (r * m) 36000 * 1000000 ∧
      max (r * m) 36000 * 1000000 ≤ 4294967294000000000 := by
  have hprod := rate_mul_burst_le hr hm
  omega

theorem toInt_depthBits {b : Bucket} {rate : UInt64}
    (hburst : 1 ≤ b.burstMs.toInt ∧ b.burstMs.toInt ≤ 1000)
    (hrate : 1 ≤ rate.toNat ∧ rate.toNat < 2 ^ 32 - 1) : MulExact rate.toInt64 b.burstMs ∧
      (b.depthBits rate).toInt = max (rate.toNat * b.burstMs.toInt) 36000 := by
  have hr := toInt_rate hrate.2
  have hprod := rate_mul_burst_le (r := rate.toNat) (by omega) hburst
  have hexact : MulExact rate.toInt64 b.burstMs := by
    apply mulExact_of_range <;> rw [hr] <;> omega
  have hbits : (rate.toInt64 * b.burstMs).toInt = rate.toNat * b.burstMs.toInt := by
    rw [← hr]
    exact hexact
  have hfloor : (floorBytes * 8).toInt = 36000 := by decide
  refine ⟨hexact, ?_⟩
  unfold depthBits
  dsimp only
  split_ifs with hlow
  · rw [Int64.lt_iff_toInt_lt, hbits, hfloor] at hlow
    omega
  · rw [Int64.lt_iff_toInt_lt, hbits, hfloor] at hlow
    omega

theorem toInt_fillNs (depth r : Int64)
    (hdepth : 0 ≤ depth.toInt ∧ depth.toInt ≤ 4294967294000000000)
    (hr : 1 ≤ r.toInt ∧ r.toInt < 2 ^ 32 - 1) : AddExact depth r ∧ SubExact (depth + r) 1 ∧
      ((depth + r - 1) / r).toInt = (depth.toInt + r.toInt - 1) / r.toInt := by
  have hadd : AddExact depth r := by
    apply addExact_of_range <;> omega
  have hsum : (depth + r).toInt = depth.toInt + r.toInt := hadd
  have hsub : SubExact (depth + r) 1 := by
    apply subExact_of_range <;> rw [hsum, Int64.toInt_one] <;> omega
  have hdiff : (depth + r - 1).toInt = depth.toInt + r.toInt - 1 := by
    rw [← hsum]
    exact hsub
  refine ⟨hadd, hsub, ?_⟩
  rw [toInt_div_of_pos _ (by omega), hdiff]
  omega

theorem setRate_spec {b : Bucket} (rateKbps : UInt64)
    (hburst : 1 ≤ b.burstMs.toInt ∧ b.burstMs.toInt ≤ 1000) : b.SetRateExact rateKbps ∧
      (b.setRate rateKbps).depth.toInt =
        max ((boundedRate rateKbps).toNat * b.burstMs.toInt) 36000 * 1000000 ∧
      (b.setRate rateKbps).fillNs.toInt =
        ((b.setRate rateKbps).depth.toInt + (boundedRate rateKbps).toNat - 1)
          / (boundedRate rateKbps).toNat := by
  have hrate := toNat_boundedRate rateKbps
  have hr := toInt_rate hrate.2
  obtain ⟨hmul, hbits⟩ := toInt_depthBits (b := b) hburst hrate
  have hrange := depth_mul_range (r := (boundedRate rateKbps).toNat) (by omega) hburst
  have hub : ubitPerBit.toInt = 1000000 := rfl
  have hdepth : MulExact (b.depthBits (boundedRate rateKbps)) ubitPerBit := by
    apply mulExact_of_range <;> rw [hbits, hub] <;> omega
  have hval : (b.setRate rateKbps).depth.toInt
      = max ((boundedRate rateKbps).toNat * b.burstMs.toInt) 36000 * 1000000 := by
    rw [← hbits, ← hub]
    exact hdepth
  obtain ⟨hadd, hsub, hfill⟩ := toInt_fillNs (b.setRate rateKbps).depth
    (boundedRate rateKbps).toInt64 (by rw [hval]; omega) (by rw [hr]; omega)
  refine ⟨⟨hmul, by decide, hdepth, hadd, hsub⟩, hval, ?_⟩
  rw [← hr]
  exact hfill

/-! ## Filling up -/

section Refill

variable {b : Bucket}

theorem Ok.depth_range (hb : b.Ok) :
    36000000000 ≤ b.depth.toInt ∧ b.depth.toInt ≤ 4294967294000000000 := by
  have hrate := hb.rate
  rw [hb.depth]
  exact depth_mul_range (by omega) hb.burst

theorem Ok.sound (hb : b.Ok) : b.ideal.Sound where
  rate := by
    show (0 : Int) ≤ b.rate.toNat
    omega
  nonneg := hb.nonneg
  le_depth := hb.le_depth

theorem Ok.new (rateKbps : UInt64) (burstMs now : Int64) (hnow : 0 ≤ now.toInt) :
    (Bucket.new rateKbps burstMs now).Ok := by
  obtain ⟨_, hdepth, hfill⟩ :=
    setRate_spec (b := { burstMs := clampBurstMs burstMs, last := now }) rateKbps
      (clampBurstMs_range burstMs)
  have hburst := clampBurstMs_range burstMs
  have hrate := toNat_boundedRate rateKbps
  refine ⟨hburst, hrate, hdepth, hfill, ?_, le_refl _, hnow⟩
  show 0 ≤ (setRate _ rateKbps).depth.toInt
  omega

def RefillExact (b : Bucket) (now : Int64) : Prop :=
  SubExact now b.last ∧ (0 < now - b.last → now - b.last < b.fillNs →
      MulExact (now - b.last) b.rate.toInt64 ∧ AddExact b.tokens ((now - b.last) * b.rate.toInt64))

theorem Ok.gain_lt (hb : b.Ok) {el : Int} (hlt : el < b.fillNs.toInt) :
    el * b.rate.toNat < b.depth.toInt := by
  have hrate := hb.rate
  have hpos : (0 : Int) < b.rate.toNat := by omega
  rw [hb.fillNs] at hlt
  have hmul : (el + 1) * b.rate.toNat ≤ b.depth.toInt + b.rate.toNat - 1 := by
    rw [← Int.le_ediv_iff_mul_le hpos]
    omega
  rw [add_mul, one_mul] at hmul
  omega

theorem Ok.depth_le_gain (hb : b.Ok) {el : Int} (hle : b.fillNs.toInt ≤ el) :
    b.depth.toInt ≤ el * b.rate.toNat := by
  have hrate := hb.rate
  have hpos : (0 : Int) < b.rate.toNat := by omega
  rw [hb.fillNs] at hle
  have hmul : b.depth.toInt + b.rate.toNat - 1 < (el + 1) * b.rate.toNat := by
    rw [← Int.ediv_lt_iff_lt_mul hpos]
    omega
  rw [add_mul, one_mul] at hmul
  omega

theorem Ok.refillExact (hb : b.Ok) (hnow : 0 ≤ now.toInt) : b.RefillExact now := by
  have hsub : SubExact now b.last := subExact_of_nonneg hnow hb.last
  refine ⟨hsub, fun hpos hlt => ?_⟩
  rw [Int64.lt_iff_toInt_lt] at hpos hlt
  have hgain := hb.gain_lt hlt
  have hdepth := hb.depth_range
  have hr := toInt_rate hb.rate.2
  have hnonneg : 0 ≤ (now - b.last).toInt * b.rate.toNat := mul_nonneg hpos.le (by omega)
  have hmul : MulExact (now - b.last) b.rate.toInt64 := by
    apply mulExact_of_range <;> rw [hr] <;> omega
  refine ⟨hmul, ?_⟩
  have hprod : ((now - b.last) * b.rate.toInt64).toInt
      = (now - b.last).toInt * b.rate.toNat := by
    rw [← hr]
    exact hmul
  have hnn := hb.nonneg
  have hle := hb.le_depth
  apply addExact_of_range <;> rw [hprod] <;> omega

theorem refill_eq (b : Bucket) (now : Int64) :
    b.refill now = { b with tokens := (b.refill now).tokens, last := (b.refill now).last } := by
  unfold refill
  dsimp only
  split_ifs <;> rfl

/-- What is above the depth is spilled. -/
theorem ideal_capped (b : Bucket) :
    (if b.tokens > b.depth then { b with tokens := b.depth } else b).ideal =
      { b.ideal with tokens := min b.depth.toInt b.tokens.toInt } := by
  split_ifs with hover
  · rw [gt_iff_lt, Int64.lt_iff_toInt_lt] at hover
    exact TokenBucket.ext rfl rfl (min_eq_left hover.le).symm rfl
  · rw [gt_iff_lt, Int64.lt_iff_toInt_lt, not_lt] at hover
    exact TokenBucket.ext rfl rfl (min_eq_right hover).symm rfl

/-- `refill` fills the token bucket up. -/
theorem Ok.ideal_refill (hb : b.Ok) (hnow : 0 ≤ now.toInt) :
    (b.refill now).ideal = b.ideal.refill now.toInt := by
  obtain ⟨hsub, hrest⟩ := hb.refillExact hnow
  have hel : (now - b.last).toInt = now.toInt - b.last.toInt := hsub
  have hzero := Int64.toInt_zero
  unfold Bucket.refill TokenBucket.refill
  by_cases hearly : now - b.last ≤ 0
  · rw [if_pos hearly]
    rw [Int64.le_iff_toInt_le, hel, hzero] at hearly
    rw [if_pos (show now.toInt ≤ b.ideal.last by show _ ≤ b.last.toInt; omega)]
  · rw [if_neg hearly]
    rw [Int64.le_iff_toInt_le, hel, hzero] at hearly
    rw [if_neg (show ¬ now.toInt ≤ b.ideal.last by show ¬ _ ≤ b.last.toInt; omega)]
    by_cases hfull : now - b.last ≥ b.fillNs
    · rw [if_pos hfull]
      rw [ge_iff_le, Int64.le_iff_toInt_le, hel] at hfull
      have hgain := hb.depth_le_gain hfull
      have hnn := hb.nonneg
      refine TokenBucket.ext rfl rfl ?_ rfl
      show b.depth.toInt = min b.depth.toInt
        (b.tokens.toInt + (now.toInt - b.last.toInt) * b.rate.toNat)
      omega
    · rw [if_neg hfull]
      have hlt : now - b.last < b.fillNs := Int64.not_le.1 hfull
      have hpos : 0 < now - b.last := by
        rw [Int64.lt_iff_toInt_lt, hel, hzero]
        omega
      obtain ⟨hmul, hadd⟩ := hrest hpos hlt
      have hsum : (b.tokens + (now - b.last) * b.rate.toInt64).toInt
          = b.tokens.toInt + (now.toInt - b.last.toInt) * b.rate.toNat := by
        rw [← hel, ← toInt_rate hb.rate.2]
        exact hadd.trans (congrArg _ hmul)
      refine (ideal_capped { b with
        tokens := b.tokens + (now - b.last) * b.rate.toInt64, last := now }).trans ?_
      rw [hsum]
      rfl

theorem Ok.of_ideal (hb : b.Ok) {tokens last : Int64}
    (hsound : ({ b with tokens := tokens, last := last } : Bucket).ideal.Sound)
    (hlast : 0 ≤ last.toInt) : ({ b with tokens := tokens, last := last } : Bucket).Ok :=
  ⟨hb.burst, hb.rate, hb.depth, hb.fillNs, hsound.nonneg, hsound.le_depth, hlast⟩

theorem Ok.refill (hb : b.Ok) (hnow : 0 ≤ now.toInt) : (b.refill now).Ok := by
  have hideal := hb.ideal_refill hnow
  have hlast : 0 ≤ (b.refill now).ideal.last := by
    rw [hideal, TokenBucket.refill_last]
    exact le_max_of_le_right hnow
  have hsound : (b.refill now).ideal.Sound := by
    rw [hideal]
    exact hb.sound.refill now.toInt
  rw [refill_eq] at hsound ⊢
  exact hb.of_ideal hsound hlast

end Refill

/-! ## Packets -/

/-- What happens to a bucket: a packet is offered, or the cost of one is put back. -/
inductive Step where
  | offer (n : UInt32) (now : Int64)
  | refund (n : UInt32)
  deriving DecidableEq

def octets (n : UInt32) : Int64 := n.toUInt64.toInt64

def ubits (n : UInt32) : Int := n.toNat * 8 * 1000000

def next (b : Bucket) : Step → Bucket
  | .offer n now => (b.admits (octets n) now).2
  | .refund n => b.refund (octets n)

/-- The micro-bits that a step lets through; what is put back counts against it. -/
def net (b : Bucket) : Step → Int
  | .offer n now => if (b.admits (octets n) now).1 then ubits n else 0
  | .refund n => -ubits n

/-- The reading is one of a clock that started at zero. -/
def Step.Timed : Step → Prop
  | .offer _ now => 0 ≤ now
  | .refund _ => True

instance (s : Step) : Decidable s.Timed :=
  match s with
  | .offer _ now => inferInstanceAs (Decidable (0 ≤ now))
  | .refund _ => isTrue trivial

def Step.ideal : Step → TokenBucket.Step Int
  | .offer n now => .offer (ubits n) now.toInt
  | .refund n => .refund (ubits n)

/-- The `int64` operations of a step. -/
def Step.Exact (b : Bucket) : Step → Prop
  | .offer n now =>
    (MulExact (octets n) 8 ∧ MulExact (octets n * 8) ubitPerBit) ∧ b.RefillExact now ∧
      (cost (octets n) ≤ (b.refill now).tokens → SubExact (b.refill now).tokens (cost (octets n)))
  | .refund n =>
    (MulExact (octets n) 8 ∧ MulExact (octets n * 8) ubitPerBit) ∧
      AddExact b.tokens (cost (octets n))

theorem ubits_range (n : UInt32) : 0 ≤ ubits n ∧ ubits n < 34359738368000000 := by
  have := n.toNat_lt
  unfold ubits
  omega

theorem toInt_cost (n : UInt32) : (MulExact (octets n) 8 ∧ MulExact (octets n * 8) ubitPerBit) ∧
      (cost (octets n)).toInt = ubits n := by
  have hlt := n.toNat_lt
  have hoctets : (octets n).toInt = n.toNat := by
    rw [octets, toInt_toInt64_of_lt]
    · rfl
    · show n.toNat < 2 ^ 63
      omega
  have height : (8 : Int64).toInt = 8 := rfl
  have hub : ubitPerBit.toInt = 1000000 := rfl
  have hmul : MulExact (octets n) 8 := by
    apply mulExact_of_range <;> rw [hoctets, height] <;> omega
  have hbits : (octets n * 8).toInt = n.toNat * 8 := by
    rw [← hoctets, ← height]
    exact hmul
  have hmul' : MulExact (octets n * 8) ubitPerBit := by
    apply mulExact_of_range <;> rw [hbits, hub] <;> omega
  refine ⟨⟨hmul, hmul'⟩, ?_⟩
  show (octets n * 8 * ubitPerBit).toInt = n.toNat * 8 * 1000000
  rw [← hbits, ← hub]
  exact hmul'

section Packets

variable {b : Bucket} {s : Step}

theorem Step.cost_ideal_nonneg (s : Step) : 0 ≤ s.ideal.cost := by
  cases s with
  | offer n now | refund n => exact (ubits_range n).1

theorem Step.nonneg_of_timed (hs : (Step.offer n now).Timed) : 0 ≤ now.toInt := by
  have h := Int64.le_iff_toInt_le.1 hs
  rwa [Int64.toInt_zero] at h

/-- No operation of a step overflows. -/
theorem Ok.exact (hb : b.Ok) (hs : s.Timed) : s.Exact b := by
  cases s with
  | offer n now =>
    obtain ⟨hmul, hcost⟩ := toInt_cost n
    have hnow := Step.nonneg_of_timed hs
    have hrefill := hb.refill hnow
    refine ⟨hmul, hb.refillExact hnow, fun _ => ?_⟩
    have hubits := ubits_range n
    have hrange := hrefill.depth_range
    have hnn := hrefill.nonneg
    have hle := hrefill.le_depth
    apply subExact_of_range <;> rw [hcost] <;> omega
  | refund n =>
    obtain ⟨hmul, hcost⟩ := toInt_cost n
    refine ⟨hmul, ?_⟩
    have hubits := ubits_range n
    have hrange := hb.depth_range
    have hnn := hb.nonneg
    have hle := hb.le_depth
    apply addExact_of_range <;> rw [hcost] <;> omega

theorem admits_of_le {n : Int64} (h : cost n ≤ (b.refill now).tokens) : b.admits n now =
      (true, { b.refill now with tokens := (b.refill now).tokens - cost n }) :=
  if_pos h

theorem admits_of_not_le {n : Int64} (h : ¬ cost n ≤ (b.refill now).tokens) :
    b.admits n now = (false, b.refill now) :=
  if_neg h

theorem admits_fst (b : Bucket) (n now : Int64) :
    (b.admits n now).1 = decide (cost n ≤ (b.refill now).tokens) := by
  by_cases h : cost n ≤ (b.refill now).tokens
  · rw [admits_of_le h, decide_eq_true h]
  · rw [admits_of_not_le h, decide_eq_false h]

section

variable (hb : b.Ok)
include hb

theorem Ok.cost_le_iff (hnow : 0 ≤ now.toInt) :
    cost (octets n) ≤ (b.refill now).tokens ↔ ubits n ≤ (b.ideal.refill now.toInt).tokens := by
  rw [Int64.le_iff_toInt_le, (toInt_cost n).2, ← hb.ideal_refill hnow]
  rfl

theorem Ok.ideal_refund (n : UInt32) :
    (b.refund (octets n)).ideal = b.ideal.next (.refund (ubits n)) := by
  have hadd : AddExact b.tokens (cost (octets n)) := (hb.exact (s := .refund n) trivial).2
  have hsum : (b.tokens + cost (octets n)).toInt = b.tokens.toInt + ubits n := by
    rw [← (toInt_cost n).2]
    exact hadd
  rw [refund, ideal_capped, hsum, TokenBucket.next]
  dsimp only [ideal]

theorem Ok.ideal_charged (hnow : 0 ≤ now) (hfits : cost (octets n) ≤ (b.refill now).tokens) :
    ({ b.refill now with tokens := (b.refill now).tokens - cost (octets n) } : Bucket).ideal =
      { b.ideal.refill now.toInt with
        tokens := (b.ideal.refill now.toInt).tokens - ubits n } := by
  obtain ⟨_, _, hsub⟩ := hb.exact (s := .offer n now) hnow
  have hdiff : ((b.refill now).tokens - cost (octets n)).toInt
      = (b.refill now).tokens.toInt - ubits n := by
    rw [← (toInt_cost n).2]
    exact hsub hfits
  rw [← hb.ideal_refill (Step.nonneg_of_timed (n := n) hnow)]
  dsimp only [ideal]
  rw [hdiff]

theorem Ok.ideal_admits (n : UInt32) (hnow : 0 ≤ now) :
    (b.admits (octets n) now).2.ideal = b.ideal.next (.offer (ubits n) now.toInt) := by
  have hnow' := Step.nonneg_of_timed (n := n) hnow
  have hiff := hb.cost_le_iff (n := n) hnow'
  by_cases hfits : cost (octets n) ≤ (b.refill now).tokens
  · rw [TokenBucket.next, if_pos (hiff.1 hfits), admits_of_le hfits]
    exact hb.ideal_charged hnow hfits
  · rw [TokenBucket.next, if_neg (fun h => hfits (hiff.2 h)), admits_of_not_le hfits]
    exact hb.ideal_refill hnow'

/-- A step of the code is the step of the token bucket. -/
theorem Ok.ideal_next (hs : s.Timed) : (b.next s).ideal = b.ideal.next s.ideal := by
  cases s with
  | offer n now => exact hb.ideal_admits n hs
  | refund n => exact hb.ideal_refund n

theorem Ok.ideal_net (hs : s.Timed) : b.net s = b.ideal.net s.ideal := by
  cases s with
  | offer n now =>
    have hiff := hb.cost_le_iff (n := n) (Step.nonneg_of_timed hs)
    rw [Step.ideal, net, TokenBucket.net, admits_fst]
    simp only [decide_eq_true_eq, hiff]
  | refund n => rfl

end

theorem next_eq (b : Bucket) (s : Step) :
    b.next s = { b with tokens := (b.next s).tokens, last := (b.next s).last } := by
  cases s with
  | offer n now =>
    show (b.admits (octets n) now).2 = { b with
      tokens := (b.admits (octets n) now).2.tokens, last := (b.admits (octets n) now).2.last }
    unfold admits
    dsimp only
    split_ifs
    · rw [refill_eq]
    · exact refill_eq b now
  | refund n =>
    show b.refund (octets n) = { b with
      tokens := (b.refund (octets n)).tokens, last := (b.refund (octets n)).last }
    unfold refund
    dsimp only
    split_ifs <;> rfl

theorem Ok.next (hb : b.Ok) (hs : s.Timed) : (b.next s).Ok := by
  have hideal := hb.ideal_next hs
  have hlast : 0 ≤ (b.next s).ideal.last := by
    rw [hideal]
    exact le_trans hb.last (TokenBucket.last_le_next b.ideal s.ideal)
  have hsound : (b.next s).ideal.Sound := by
    rw [hideal]
    exact hb.sound.next s.cost_ideal_nonneg
  rw [next_eq] at hsound ⊢
  exact hb.of_ideal hsound hlast

end Packets

/-! ## What readings, refunds and new rates leave -/

section Settled

variable {b : Bucket}

theorem eq_of_ideal {tokens last tokens' last' : Int64}
    (h : ({ b with tokens := tokens, last := last } : Bucket).ideal =
      ({ b with tokens := tokens', last := last' } : Bucket).ideal) :
    ({ b with tokens := tokens, last := last } : Bucket) =
      { b with tokens := tokens', last := last' } := by
  have htokens : tokens = tokens' := Int64.toInt_inj.1 (congrArg TokenBucket.tokens h)
  have hlast : last = last' := Int64.toInt_inj.1 (congrArg TokenBucket.last h)
  rw [htokens, hlast]

theorem Ok.refill_refill (hb : b.Ok) {t : Int64} (hnow : 0 ≤ now.toInt) (h : now ≤ t) :
    (b.refill now).refill t = b.refill t := by
  have hle : now.toInt ≤ t.toInt := Int64.le_iff_toInt_le.1 h
  have ht : 0 ≤ t.toInt := hnow.trans hle
  have hideal : ((b.refill now).refill t).ideal = (b.refill t).ideal := by
    rw [(hb.refill hnow).ideal_refill ht, hb.ideal_refill hnow, hb.ideal_refill ht]
    exact TokenBucket.refill_refill hb.sound hle
  rw [refill_eq (b.refill now) t, refill_eq b now, refill_eq b t] at hideal ⊢
  exact eq_of_ideal hideal

-- About any bucket, so that the kernel has no refill to unfold.
theorem refund_charged (n : Int64) (hle : b.tokens ≤ b.depth) :
    ({ b with tokens := b.tokens - cost n } : Bucket).refund n = b := by
  have hback : b.tokens - cost n + cost n = b.tokens := Int64.sub_add_cancel _ _
  unfold refund
  rw [hback, if_neg (Int64.not_lt.2 hle)]

theorem Ok.refund_admits (hb : b.Ok) (hnow : 0 ≤ now.toInt)
    (hfits : cost (octets n) ≤ (b.refill now).tokens) :
    (b.admits (octets n) now).2.refund (octets n) = b.refill now := by
  rw [admits_of_le hfits]
  exact refund_charged _ (Int64.le_iff_toInt_le.2 (hb.refill hnow).le_depth)

theorem Ok.refill_of_le (hb : b.Ok) (hnow : 0 ≤ now.toInt) (h : now.toInt ≤ b.last.toInt) :
    b.refill now = b := by
  have hsub : SubExact now b.last := subExact_of_nonneg hnow hb.last
  apply if_pos
  rw [Int64.le_iff_toInt_le, hsub, Int64.toInt_zero]
  omega

theorem Ok.changeRate (hb : b.Ok) (rateKbps : UInt64) (hnow : 0 ≤ now.toInt) :
    (b.changeRate rateKbps now).Ok ∧ (b.changeRate rateKbps now).rate = boundedRate rateKbps ∧
      (b.changeRate rateKbps now).last = (b.refill now).last ∧
      (b.changeRate rateKbps now).tokens.toInt =
        min (b.refill now).tokens.toInt (b.changeRate rateKbps now).depth.toInt := by
  have hok := hb.refill hnow
  obtain ⟨_, hdepth, hfill⟩ := setRate_spec (b := b.refill now) rateKbps hok.burst
  have hrate := toNat_boundedRate rateKbps
  have hpos : 0 ≤ ((b.refill now).setRate rateKbps).depth.toInt := by
    omega
  unfold Bucket.changeRate
  by_cases hover : ((b.refill now).setRate rateKbps).tokens >
      ((b.refill now).setRate rateKbps).depth
  · rw [if_pos hover]
    rw [gt_iff_lt, Int64.lt_iff_toInt_lt] at hover
    exact ⟨⟨hok.burst, hrate, hdepth, hfill, hpos, le_refl _, hok.last⟩, rfl, rfl,
      (min_eq_right hover.le).symm⟩
  · rw [if_neg hover]
    rw [gt_iff_lt, Int64.lt_iff_toInt_lt, not_lt] at hover
    exact ⟨⟨hok.burst, hrate, hdepth, hfill, hok.nonneg, hover, hok.last⟩, rfl, rfl,
      (min_eq_left hover).symm⟩

theorem Ok.tokens_changeRate (hb : b.Ok) (rateKbps : UInt64) (hnow : 0 ≤ now.toInt) :
    ((b.changeRate rateKbps now).refill now).tokens.toInt =
      min (b.refill now).tokens.toInt (b.changeRate rateKbps now).depth.toInt := by
  obtain ⟨hok, _, hlast, htokens⟩ := hb.changeRate rateKbps hnow
  have hread : (b.refill now).last.toInt = max b.last.toInt now.toInt := by
    have h := congrArg TokenBucket.last (hb.ideal_refill hnow)
    rwa [TokenBucket.refill_last] at h
  rw [hok.refill_of_le hnow, htokens]
  rw [hlast, hread]
  exact le_max_right ..

end Settled

/-! ## Whole runs -/

def netBetween (t₁ t₂ : Int) (b : Bucket) : List Step → Int
  | [] => 0
  | s :: steps =>
    (if t₁ ≤ (b.next s).last.toInt ∧ (b.next s).last.toInt ≤ t₂ then b.net s else 0) +
      netBetween t₁ t₂ (b.next s) steps

section Runs

variable {b : Bucket} {steps : List Step}

theorem Ok.run (hb : b.Ok) (hsteps : ∀ s ∈ steps, s.Timed) : (steps.foldl Bucket.next b).Ok := by
  induction steps generalizing b with
  | nil => exact hb
  | cons s steps ih =>
    apply ih
    · exact hb.next (hsteps s (by simp))
    · intro s' hs'
      exact hsteps s' (by simp [hs'])

theorem Ok.netBetween_ideal (hb : b.Ok) (hsteps : ∀ s ∈ steps, s.Timed) (t₁ t₂ : Int) :
    b.netBetween t₁ t₂ steps = b.ideal.netBetween t₁ t₂ (steps.map Step.ideal) := by
  induction steps generalizing b with
  | nil => rfl
  | cons s steps ih =>
    have hs : s.Timed := hsteps s (by simp)
    have htail := ih (hb.next hs) (fun s' hs' => hsteps s' (by simp [hs']))
    rw [netBetween, map_cons, TokenBucket.netBetween, htail, hb.ideal_net hs,
      ← hb.ideal_next hs]
    rfl

theorem Ok.netBetween_le (hb : b.Ok) (hsteps : ∀ s ∈ steps, s.Timed) {t₁ t₂ : Int} (h : t₁ ≤ t₂) :
    b.netBetween t₁ t₂ steps ≤ b.depth.toInt + b.rate.toNat * (t₂ - t₁) := by
  have hcosts : ∀ s ∈ steps.map Step.ideal, 0 ≤ s.cost := by
    intro s hs
    obtain ⟨s', _, rfl⟩ := mem_map.1 hs
    exact s'.cost_ideal_nonneg
  rw [hb.netBetween_ideal hsteps, mul_comm]
  exact TokenBucket.netBetween_le hb.sound hcosts h

/-- A bucket that has been left alone for `fillNs` lets a packet of three times 1500 octets
through. -/
theorem Ok.admits_of_idle (hb : b.Ok) (hn : n ≤ 4500)
    (hnow : b.last.toInt + b.fillNs.toInt ≤ now.toInt) : (b.admits (octets n) now).1 = true := by
  have hdepth := hb.depth_range
  have hlast := hb.last
  have hfull : b.depth.toInt ≤ (now.toInt - b.last.toInt) * b.rate.toNat :=
    hb.depth_le_gain (by omega)
  have hpos : b.last.toInt < now.toInt := by
    by_contra hle
    have : (now.toInt - b.last.toInt) * b.rate.toNat ≤ 0 :=
      mul_nonpos_of_nonpos_of_nonneg (by omega) (by omega)
    omega
  have hn' : n.toNat ≤ 4500 := UInt32.le_iff_toNat_le.1 hn
  have hnn := hb.nonneg
  rw [admits_fst, decide_eq_true_eq, hb.cost_le_iff (by omega), TokenBucket.refill,
    if_neg (show ¬ now.toInt ≤ b.ideal.last by show ¬ _ ≤ b.last.toInt; omega)]
  show n.toNat * 8 * 1000000 ≤ min b.depth.toInt
    (b.tokens.toInt + (now.toInt - b.last.toInt) * b.rate.toNat)
  omega

theorem run_eq (b : Bucket) (steps : List Step) : steps.foldl Bucket.next b = { b with
      tokens := (steps.foldl Bucket.next b).tokens, last := (steps.foldl Bucket.next b).last } := by
  induction steps generalizing b with
  | nil => rfl
  | cons s steps ih =>
    rw [foldl_cons, ih, next_eq]

/-- The bucket can become `b'` by packets that are offered and put back. -/
def Reaches (b b' : Bucket) : Prop :=
  ∃ steps : List Step, (∀ s ∈ steps, s.Timed) ∧ steps.foldl Bucket.next b = b'

theorem Reaches.refl (b : Bucket) : b.Reaches b := ⟨[], by simp, rfl⟩

theorem Reaches.next (h : b.Reaches b') {s : Step} (hs : s.Timed) : b.Reaches (b'.next s) := by
  obtain ⟨steps, hsteps, rfl⟩ := h
  refine ⟨steps ++ [s], ?_, by simp⟩
  intro s' hs'
  rcases mem_append.1 hs' with hs' | hs'
  · exact hsteps s' hs'
  · rwa [mem_singleton.1 hs']

theorem Reaches.trans {b'' : Bucket} (h : b.Reaches b') (h' : b'.Reaches b'') : b.Reaches b'' := by
  obtain ⟨steps, hsteps, rfl⟩ := h
  obtain ⟨steps', hsteps', rfl⟩ := h'
  exact ⟨steps ++ steps', fun s hs => (mem_append.1 hs).elim (hsteps s) (hsteps' s),
    foldl_append⟩

theorem Reaches.ok (h : b.Reaches b') (hb : b.Ok) : b'.Ok ∧ b'.rate = b.rate := by
  obtain ⟨steps, hsteps, rfl⟩ := h
  exact ⟨hb.run hsteps, by rw [run_eq]⟩

end Runs

/-- A bucket polices its rate: whatever packets are offered and refunded, in whatever order
their clock readings come, it lets through no more than its depth and what its rate gives
between any two values of its clock; it holds between nothing and its depth, no operation
overflows, and a packet of three times 1500 octets gets through after a while. -/
theorem new_conforms (r : UInt64) (hlo : 1 ≤ r) (hhi : r < unlimitedKbps)
    (burstMs start : Int64) (hstart : 0 ≤ start) (steps : List Step)
    (hsteps : ∀ s ∈ steps, s.Timed) :
    SetRateExact { burstMs := clampBurstMs burstMs, last := start } r ∧ (∀ t₁ t₂ : Int, t₁ ≤ t₂ →
        (Bucket.new r burstMs start).netBetween t₁ t₂ steps ≤
          (Bucket.new r burstMs start).depth.toInt + r.toNat * (t₂ - t₁)) ∧
      0 ≤ (steps.foldl next (Bucket.new r burstMs start)).tokens ∧
      (steps.foldl next (Bucket.new r burstMs start)).tokens ≤ (Bucket.new r burstMs start).depth ∧
      (∀ s : Step, s.Timed → s.Exact (steps.foldl next (Bucket.new r burstMs start))) ∧
      ∃ wait : Int, ∀ n : UInt32, n ≤ 4500 → ∀ now : Int64,
        (steps.foldl next (Bucket.new r burstMs start)).last.toInt + wait ≤ now.toInt →
          ((steps.foldl next (Bucket.new r burstMs start)).admits (octets n) now).1 = true := by
  have hnew : (Bucket.new r burstMs start).Ok :=
    Ok.new r burstMs start (Step.nonneg_of_timed (n := 0) hstart)
  have hrun := hnew.run hsteps
  have hrate : (Bucket.new r burstMs start).rate = r := boundedRate_of_range hlo hhi
  have hset := (setRate_spec (b := { burstMs := clampBurstMs burstMs, last := start }) r
    (clampBurstMs_range burstMs)).1
  refine ⟨hset, ?_, ?_, ?_, ?_, ?_⟩
  · intro t₁ t₂ h
    have hwindow := hnew.netBetween_le hsteps h
    rwa [hrate] at hwindow
  · rw [Int64.le_iff_toInt_le, Int64.toInt_zero]
    exact hrun.nonneg
  · have hdepth := hrun.le_depth
    rw [run_eq] at hdepth ⊢
    exact Int64.le_iff_toInt_le.2 hdepth
  · intro s hs
    exact hrun.exact hs
  · exact ⟨_, fun n hn now hnow => hrun.admits_of_idle hn hnow⟩

/-- A packet in time, one that comes late, and a refund. -/
theorem new_conforms_late_refund : (Bucket.new 36000 1 0).netBetween 0 1000000
        [.offer 4500 0, .offer 1500 1000000, .offer 3000 0, .refund 1500] ≤
      (Bucket.new 36000 1 0).depth.toInt + 36000 * (1000000 - 0) :=
  (new_conforms 36000 (by decide) (by decide) 1 0 (by decide)
    [.offer 4500 0, .offer 1500 1000000, .offer 3000 0, .refund 1500]
    (by decide)).2.1 0 1000000 (by decide)

def readBetween (t₁ t₂ : Int) (b : Bucket) : List Step → Int
  | [] => 0
  | .offer n now :: steps =>
    (if t₁ ≤ now.toInt ∧ now.toInt ≤ t₂ then b.net (.offer n now) else 0) +
      readBetween t₁ t₂ (b.next (.offer n now)) steps
  | .refund n :: steps => readBetween t₁ t₂ (b.next (.refund n)) steps

/-- A packet whose reading is a millisecond old is let through on what the bucket gained in
that millisecond: 7500 octets get through at reading 0 of a bucket that holds 4500. -/
theorem late_reading_exceeds_depth :
    ¬ (Bucket.new 36000 1 0).readBetween 0 0 [.offer 4500 0, .offer 1500 1000000, .offer 3000 0] ≤
      (Bucket.new 36000 1 0).depth.toInt + 36000 * (0 - 0) := by
  decide +kernel

end Bucket

end Claudia5gc.Upf
