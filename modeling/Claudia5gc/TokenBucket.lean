import Mathlib.Algebra.Order.Ring.Defs
import Mathlib.Algebra.BigOperators.Group.List.Basic
import Mathlib.Tactic.Linarith
import Mathlib.Tactic.Ring

/-!
# Token buckets

A token bucket gains tokens at a constant rate up to its depth.  A packet is let through when the
bucket holds its cost, which is then taken out.
-/

namespace Claudia5gc

@[ext] structure TokenBucket (R : Type) where
  rate : R
  depth : R
  tokens : R
  last : R

namespace TokenBucket

/-- What happens to a bucket. -/
inductive Step (R : Type) where
  /-- A packet is offered at a clock reading. -/
  | offer (cost now : R)
  /-- The cost of a packet is put back. -/
  | refund (cost : R)

def Step.cost {R : Type} : Step R → R
  | .offer cost _ => cost
  | .refund cost => cost

variable {R : Type} [CommRing R] [LinearOrder R]

def refill (b : TokenBucket R) (now : R) : TokenBucket R :=
  if now ≤ b.last then b
  else { b with tokens := min b.depth (b.tokens + (now - b.last) * b.rate), last := now }

def next (b : TokenBucket R) : Step R → TokenBucket R
  | .offer cost now =>
    if cost ≤ (b.refill now).tokens then
      { b.refill now with tokens := (b.refill now).tokens - cost }
    else b.refill now
  | .refund cost => { b with tokens := min b.depth (b.tokens + cost) }

/-- What a step lets through; what is put back counts against it. -/
def net (b : TokenBucket R) : Step R → R
  | .offer cost now => if cost ≤ (b.refill now).tokens then cost else 0
  | .refund cost => -cost

def netBetween (t₁ t₂ : R) (b : TokenBucket R) : List (Step R) → R
  | [] => 0
  | s :: steps =>
    (if t₁ ≤ (b.next s).last ∧ (b.next s).last ≤ t₂ then b.net s else 0) +
      netBetween t₁ t₂ (b.next s) steps

/-- The bucket holds no less than nothing and no more than its depth. -/
structure Sound (b : TokenBucket R) : Prop where
  rate : 0 ≤ b.rate
  nonneg : 0 ≤ b.tokens
  le_depth : b.tokens ≤ b.depth

/-! ## One step -/

section OneStep

variable {b : TokenBucket R}

section

variable (b : TokenBucket R)

@[simp] theorem refill_rate (now : R) : (b.refill now).rate = b.rate := by
  unfold refill
  split <;> rfl

@[simp] theorem refill_depth (now : R) : (b.refill now).depth = b.depth := by
  unfold refill
  split <;> rfl

theorem refill_last (now : R) : (b.refill now).last = max b.last now := by
  unfold refill
  split_ifs with h
  · exact (max_eq_left h).symm
  · exact (max_eq_right (le_of_not_ge h)).symm

@[simp] theorem next_rate (s : Step R) : (b.next s).rate = b.rate := by
  cases s with
  | offer cost now =>
    rw [next]
    split <;> simp
  | refund cost => rfl

@[simp] theorem next_depth (s : Step R) : (b.next s).depth = b.depth := by
  cases s with
  | offer cost now =>
    rw [next]
    split <;> simp
  | refund cost => rfl

theorem next_offer_last (cost now : R) : (b.next (.offer cost now)).last = max b.last now := by
  rw [← refill_last, next]
  split <;> rfl

theorem last_le_next (s : Step R) : b.last ≤ (b.next s).last := by
  cases s with
  | offer cost now =>
    rw [next_offer_last]
    exact le_max_left ..
  | refund cost => exact le_refl _

theorem net_offer_add_tokens (cost now : R) :
    b.net (.offer cost now) + (b.next (.offer cost now)).tokens = (b.refill now).tokens := by
  rw [net, next]
  split
  · exact add_sub_cancel ..
  · exact zero_add _

theorem refill_tokens_le (now : R) :
    (b.refill now).tokens ≤ b.tokens + ((b.refill now).last - b.last) * b.rate := by
  unfold refill
  split
  · simp
  · exact min_le_right ..

end

variable [IsStrictOrderedRing R]

theorem Sound.refill (hb : b.Sound) (now : R) : (b.refill now).Sound := by
  unfold TokenBucket.refill
  split_ifs with hlater
  · exact hb
  · have helapsed : 0 ≤ now - b.last := sub_nonneg.2 (le_of_not_ge hlater)
    have hgain : 0 ≤ (now - b.last) * b.rate := mul_nonneg helapsed hb.rate
    refine ⟨hb.rate, le_min ?_ ?_, min_le_left ..⟩
    · exact hb.nonneg.trans hb.le_depth
    · exact add_nonneg hb.nonneg hgain

theorem Sound.next (hb : b.Sound) {s : Step R} (hs : 0 ≤ s.cost) : (b.next s).Sound := by
  cases s with
  | offer cost now =>
    have hrefill := hb.refill now
    have hcost : 0 ≤ cost := hs
    rw [TokenBucket.next]
    split_ifs with hfits
    · refine ⟨hrefill.rate, sub_nonneg.2 hfits, ?_⟩
      linarith [hrefill.le_depth]
    · exact hrefill
  | refund cost =>
    have hcost : 0 ≤ cost := hs
    refine ⟨hb.rate, le_min ?_ ?_, min_le_left ..⟩
    · exact hb.nonneg.trans hb.le_depth
    · exact add_nonneg hb.nonneg hcost

/-- The tokens are the slack of the bound: what a step lets through comes out of them or
out of the time that passes. -/
theorem net_add_tokens_le (b : TokenBucket R) (s : Step R) :
    b.net s + (b.next s).tokens ≤ b.tokens + ((b.next s).last - b.last) * b.rate := by
  cases s with
  | offer cost now =>
    rw [net_offer_add_tokens, next_offer_last, ← refill_last]
    exact refill_tokens_le b now
  | refund cost =>
    have hput : min b.depth (b.tokens + cost) ≤ b.tokens + cost := min_le_right ..
    show -cost + min b.depth (b.tokens + cost) ≤ b.tokens + (b.last - b.last) * b.rate
    linarith

theorem net_add_tokens_le_depth (hb : b.Sound) {s : Step R} (hs : b.last < (b.next s).last) :
    b.net s + (b.next s).tokens ≤ b.depth := by
  cases s with
  | offer cost now =>
    rw [net_offer_add_tokens, ← refill_depth b now]
    exact (hb.refill now).le_depth
  | refund cost => exact absurd hs (lt_irrefl _)

end OneStep

/-! ## Whole runs -/

section Runs

variable {b : TokenBucket R} {t₁ t₂ : R} {steps : List (Step R)}

theorem netBetween_of_lt (h : t₂ < b.last) : netBetween t₁ t₂ b steps = 0 := by
  induction steps generalizing b with
  | nil => rfl
  | cons s steps ih =>
    have hpast : t₂ < (b.next s).last := h.trans_le (last_le_next b s)
    rw [netBetween, if_neg (fun hin => absurd hin.2 (not_le.2 hpast)), zero_add]
    exact ih hpast

variable [IsStrictOrderedRing R]

theorem netBetween_le_of_mem (hb : b.Sound) (hsteps : ∀ s ∈ steps, 0 ≤ s.cost)
    (h₁ : t₁ ≤ b.last) (h₂ : b.last ≤ t₂) :
    netBetween t₁ t₂ b steps ≤ b.tokens + (t₂ - b.last) * b.rate := by
  have hrest : 0 ≤ (t₂ - b.last) * b.rate := mul_nonneg (sub_nonneg.2 h₂) hb.rate
  induction steps generalizing b with
  | nil =>
    show 0 ≤ _
    linarith [hb.nonneg]
  | cons s steps ih =>
    have hlast := last_le_next b s
    by_cases hin : (b.next s).last ≤ t₂
    · have hnext : (b.next s).Sound := hb.next (hsteps s (by simp))
      have hgain := mul_nonneg (sub_nonneg.2 hin) hb.rate
      have htail := ih hnext (fun s' hs' => hsteps s' (by simp [hs'])) (h₁.trans hlast) hin
        (by rw [next_rate]; exact hgain)
      have hhead := net_add_tokens_le b s
      rw [next_rate] at htail
      rw [netBetween, if_pos ⟨h₁.trans hlast, hin⟩]
      calc b.net s + netBetween t₁ t₂ (b.next s) steps
          ≤ b.net s + (b.next s).tokens + (t₂ - (b.next s).last) * b.rate := by linarith
        _ ≤ b.tokens + ((b.next s).last - b.last) * b.rate
              + (t₂ - (b.next s).last) * b.rate := by linarith
        _ = b.tokens + (t₂ - b.last) * b.rate := by ring
    · have hpast : t₂ < (b.next s).last := lt_of_not_ge hin
      rw [netBetween, if_neg (fun h => hin h.2), zero_add, netBetween_of_lt hpast]
      linarith [hb.nonneg]

/-- Between any two values of its clock a bucket lets through no more than its depth and
what it gains in between. -/
theorem netBetween_le (hb : b.Sound) (hsteps : ∀ s ∈ steps, 0 ≤ s.cost) (h : t₁ ≤ t₂) :
    netBetween t₁ t₂ b steps ≤ b.depth + (t₂ - t₁) * b.rate := by
  have hspan : 0 ≤ (t₂ - t₁) * b.rate := mul_nonneg (sub_nonneg.2 h) hb.rate
  have hdepth : 0 ≤ b.depth := hb.nonneg.trans hb.le_depth
  induction steps generalizing b with
  | nil =>
    show 0 ≤ _
    linarith
  | cons s steps ih =>
    have hnext : (b.next s).Sound := hb.next (hsteps s (by simp))
    have htail : ∀ s' ∈ steps, 0 ≤ s'.cost := fun s' hs' => hsteps s' (by simp [hs'])
    by_cases hbefore : b.last < t₁
    · by_cases hin : t₁ ≤ (b.next s).last ∧ (b.next s).last ≤ t₂
      · -- the step that enters the stretch: a full bucket is the most it can start with
        have hhead := net_add_tokens_le_depth hb (hbefore.trans_le hin.1)
        have hrest := netBetween_le_of_mem hnext htail hin.1 hin.2
        have hgain : (t₂ - (b.next s).last) * b.rate ≤ (t₂ - t₁) * b.rate :=
          mul_le_mul_of_nonneg_right (by linarith [hin.1]) hb.rate
        rw [next_rate] at hrest
        rw [netBetween, if_pos hin]
        linarith
      · have hrest := ih hnext htail (by rw [next_rate]; exact hspan)
          (by rw [next_depth]; exact hdepth)
        rw [next_rate, next_depth] at hrest
        rw [netBetween, if_neg hin, zero_add]
        exact hrest
    · have hstart : t₁ ≤ b.last := le_of_not_gt hbefore
      by_cases hover : b.last ≤ t₂
      · have hall := netBetween_le_of_mem hb hsteps hstart hover
        have hgain : (t₂ - b.last) * b.rate ≤ (t₂ - t₁) * b.rate :=
          mul_le_mul_of_nonneg_right (by linarith) hb.rate
        linarith [hb.le_depth]
      · rw [netBetween_of_lt (lt_of_not_ge hover)]
        linarith

end Runs

/-! ## Filling up in two goes -/

section Refill

variable [IsStrictOrderedRing R] {b : TokenBucket R}

theorem refill_refill (hb : b.Sound) {s t : R} (h : s ≤ t) :
    (b.refill s).refill t = b.refill t := by
  by_cases hs : s ≤ b.last
  · rw [refill, refill, if_pos hs]
    rfl
  · have hs' : b.last < s := lt_of_not_ge hs
    have ht : ¬ t ≤ b.last := not_le.2 (hs'.trans_le h)
    have hgain : 0 ≤ (t - s) * b.rate := mul_nonneg (sub_nonneg.2 h) hb.rate
    by_cases hst : t ≤ s
    · obtain rfl : s = t := le_antisymm h hst
      rw [refill, refill_last, if_pos (le_max_right _ _)]
    · have hfirst : b.refill s =
          { b with tokens := min b.depth (b.tokens + (s - b.last) * b.rate), last := s } := by
        rw [refill, if_neg hs]
      rw [hfirst, refill, refill, if_neg hst, if_neg ht]
      congr 1
      have hsum : b.tokens + (s - b.last) * b.rate + (t - s) * b.rate
          = b.tokens + (t - b.last) * b.rate := by ring
      rw [min_add, hsum, ← min_assoc, min_eq_left (a := b.depth) (by linarith)]

end Refill

end TokenBucket

end Claudia5gc
