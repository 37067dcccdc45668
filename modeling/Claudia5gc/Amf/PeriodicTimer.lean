import Claudia5gc.Amf.Registration

/-!
# The periodic registration timer

T3512 goes to the UE as a GPRS Timer 3, a unit and a multiple of at most 31, and the AMF bases its
mobile reachable timer on the seconds it was configured with.  `EncodeGPRSTimer3` tries five of the
seven units and falls back to minutes.
-/

namespace Claudia5gc.Amf

open Go Nas Handler

def gprsTimer3Secs (b : UInt8) : Option Int :=
  let val : Int := (b &&& 0x1F).toNat
  match (b >>> 5).toNat with
  | 0 => some (val * 600)
  | 1 => some (val * 3600)
  | 2 => some (val * 36000)
  | 3 => some (val * 2)
  | 4 => some (val * 30)
  | 5 => some (val * 60)
  | 6 => some (val * 1152000)
  | _ => none

def t3512Representable (secs : Int) : Bool := gprsTimer3Secs (encodeGPRSTimer3 secs) == some secs

def minT3512Secs : Int := 60
def maxT3512Secs : Int := 86400

def t3512Accepted (secs : Int) : Bool :=
  decide (minT3512Secs ≤ secs) && decide (secs ≤ maxT3512Secs) && t3512Representable secs

/-- `mobileReachableDuration` in seconds, from the effective values and the value sent. -/
def mobileReachableSecs (t3512Secs guardSecs t3512SentSecs : Int) : Int :=
  (if t3512Secs < t3512SentSecs then t3512SentSecs else t3512Secs) + guardSecs

/-! ## What the octet stands for -/

def MultipleOf (unit secs : Int) : Prop := ∃ n, 1 ≤ n ∧ n ≤ 31 ∧ secs = n * unit

/-- The units that `EncodeGPRSTimer3` tries, with their codes and in its order. -/
def encoderUnits : List (UInt8 × Int) := [(1, 3600), (0, 600), (5, 60), (4, 30), (3, 2)]

/-- A multiple of one of the units that `EncodeGPRSTimer3` tries. -/
def ExactlyEncoded (secs : Int) : Prop := ∃ p ∈ encoderUnits, MultipleOf p.2 secs

def wholeMinutes (secs : Int) : Int := max 1 (min (secs / 60) 31)

section Encode

variable {secs : Int}

theorem fits_iff (hpos : 0 < secs) {unit : Int} (hunit : 0 < unit) :
    decide (secs.tmod unit = 0 ∧ 1 ≤ secs.tdiv unit ∧ secs.tdiv unit ≤ 31) = true ↔
      MultipleOf unit secs := by
  have hnonneg : 0 ≤ secs := Int.le_of_lt hpos
  rw [decide_eq_true_eq, Int.tmod_eq_emod_of_nonneg hnonneg, Int.tdiv_eq_ediv_of_nonneg hnonneg]
  constructor
  · rintro ⟨hmod, hge, hle⟩
    exact ⟨secs / unit, hge, hle, (Int.ediv_mul_cancel (Int.dvd_of_emod_eq_zero hmod)).symm⟩
  · rintro ⟨n, hge, hle, rfl⟩
    rw [Int.mul_emod_left, Int.mul_ediv_cancel _ (Int.ne_of_gt hunit)]
    exact ⟨rfl, hge, hle⟩

/-- The octet is made of a unit that fits, or there is none and it has whole minutes. -/
def TimerOctet (secs : Int) (octet : UInt8) : Prop :=
  (∃ p ∈ encoderUnits, ∃ n, 1 ≤ n ∧ n ≤ 31 ∧ secs = n * p.2 ∧
    octet = (p.1 <<< 5) ||| UInt8.ofInt n) ∨
  ¬ExactlyEncoded secs ∧ octet = ((5 : UInt8) <<< 5) ||| UInt8.ofInt (wholeMinutes secs)

/-- One turn: the first unit that fits is taken. -/
theorem timerOctet_turn (hpos : 0 < secs) {code : UInt8} {unit : Int}
    (hmem : (code, unit) ∈ encoderUnits) {rest : UInt8}
    (hrest : ¬MultipleOf unit secs → TimerOctet secs rest) : TimerOctet secs
      (if decide (secs.tmod unit = 0 ∧ 1 ≤ secs.tdiv unit ∧ secs.tdiv unit ≤ 31) = true then
        (code <<< 5) ||| UInt8.ofInt (secs.tdiv unit) else rest) := by
  have hunit : ∀ p ∈ encoderUnits, 0 < p.2 := by decide
  by_cases hfits : MultipleOf unit secs
  · rw [if_pos ((fits_iff hpos (hunit _ hmem)).mpr hfits)]
    obtain ⟨n, hge, hle, rfl⟩ := hfits
    rw [Int.mul_tdiv_cancel _ (Int.ne_of_gt (hunit _ hmem))]
    exact .inl ⟨_, hmem, n, hge, hle, rfl, rfl⟩
  · rw [if_neg (mt (fits_iff hpos (hunit _ hmem)).mp hfits)]
    exact hrest hfits

theorem encodeGPRSTimer3_cases (hpos : 0 < secs) : TimerOctet secs (encodeGPRSTimer3 secs) := by
  unfold encodeGPRSTimer3
  dsimp only
  rw [if_neg (Int.ne_of_gt hpos)]
  refine timerOctet_turn hpos (by decide) fun h3600 => ?_
  refine timerOctet_turn hpos (by decide) fun h600 => ?_
  refine timerOctet_turn hpos (by decide) fun h60 => ?_
  refine timerOctet_turn hpos (by decide) fun h30 => ?_
  refine timerOctet_turn hpos (by decide) fun h2 => ?_
  right
  constructor
  · rintro ⟨p, hp, hmultiple⟩
    simp only [encoderUnits, List.mem_cons, List.not_mem_nil, or_false] at hp
    rcases hp with rfl | rfl | rfl | rfl | rfl <;> contradiction
  · have hmins : (if min (secs.tdiv 60) 31 = 0 then 1 else min (secs.tdiv 60) 31) =
        wholeMinutes secs := by
      rw [Int.tdiv_eq_ediv_of_nonneg (Int.le_of_lt hpos), wholeMinutes]
      split <;> omega
    rw [hmins]

theorem gprsTimer3Secs_timer {p : UInt8 × Int} (hp : p ∈ encoderUnits) {n : Int} (hge : 1 ≤ n)
    (hle : n ≤ 31) : gprsTimer3Secs ((p.1 <<< 5) ||| UInt8.ofInt n) = some (n * p.2) := by
  have hall : ∀ p ∈ encoderUnits, ∀ m < 32,
      gprsTimer3Secs ((p.1 <<< 5) ||| UInt8.ofInt (m : Nat)) = some ((m : Nat) * p.2) := by
    decide
  obtain ⟨m, rfl⟩ := Int.eq_ofNat_of_zero_le (show 0 ≤ n by omega)
  exact hall p hp m (by omega)

theorem gprsTimer3Secs_encode_exact (h : ExactlyEncoded secs) :
    gprsTimer3Secs (encodeGPRSTimer3 secs) = some secs := by
  have hpos : 0 < secs := by
    obtain ⟨p, hp, n, hge, -, rfl⟩ := h
    have hunit : ∀ p ∈ encoderUnits, 0 < p.2 := by decide
    exact Int.mul_pos (by omega) (hunit p hp)
  rcases encodeGPRSTimer3_cases hpos with ⟨p, hp, n, hge, hle, hsecs, hoctet⟩ | ⟨hnot, -⟩
  · rw [hoctet, gprsTimer3Secs_timer hp hge hle, ← hsecs]
  · exact absurd h hnot

theorem gprsTimer3Secs_encode_rounded (hpos : 0 < secs) (h : ¬ExactlyEncoded secs) :
    gprsTimer3Secs (encodeGPRSTimer3 secs) = some (wholeMinutes secs * 60) := by
  rcases encodeGPRSTimer3_cases hpos with ⟨p, hp, n, hge, hle, hsecs, -⟩ | ⟨-, hoctet⟩
  · exact absurd ⟨p, hp, n, hge, hle, hsecs⟩ h
  · rw [hoctet]
    refine gprsTimer3Secs_timer (p := (5, 60)) (by decide) ?_ ?_
    · rw [wholeMinutes]
      omega
    · rw [wholeMinutes]
      omega

end Encode

theorem gprsTimer3Secs_of_accepted {secs : Int} (h : t3512Accepted secs = true) :
    gprsTimer3Secs (encodeGPRSTimer3 secs) = some secs := by
  rw [t3512Accepted, Bool.and_eq_true] at h
  exact eq_of_beq h.2

/-! ## What is sent and what is recorded -/

theorem run_setT3512Value {env : Env} (h : 0 < env.t3512Secs) (ue : Ptr) (s : Handler) :
    ∃ s', (setT3512Value env ue).run s = (.ok (some (encodeGPRSTimer3 env.t3512Secs)), s') ∧
      (s'.ctx ue).t3512SentSecs = env.t3512Secs := by
  refine ⟨((update ue fun c => { c with t3512SentSecs := env.t3512Secs }).run s).2, ?_, ?_⟩
  · rw [setT3512Value, if_neg (by omega), run_update_bind]
    rfl
  · rw [ctx_update, if_pos rfl]

theorem sent_le_mobileReachableSecs (t3512Secs guardSecs t3512SentSecs : Int) :
    t3512SentSecs + guardSecs ≤ mobileReachableSecs t3512Secs guardSecs t3512SentSecs := by
  rw [mobileReachableSecs]
  split <;> omega

/-- What the UE decodes of the octet in a Registration Accept, compared with what the AMF has
recorded when the message is built. -/
theorem t3512_at_ue {env : Env} (hpos : 0 < env.t3512Secs) (ue : Ptr) (s : Handler) :
    ∃ octet s' decoded, (setT3512Value env ue).run s = (.ok (some octet), s') ∧
      gprsTimer3Secs octet = some decoded ∧ 0 < decoded ∧
      (ExactlyEncoded env.t3512Secs → decoded = env.t3512Secs) ∧
      (¬ExactlyEncoded env.t3512Secs → decoded = wholeMinutes env.t3512Secs * 60) ∧
      (60 ≤ env.t3512Secs ∨ ExactlyEncoded env.t3512Secs → decoded ≤ (s'.ctx ue).t3512SentSecs) ∧
      ∀ secs decoded', env.t3512Secs ≤ secs → (ExactlyEncoded env.t3512Secs ↔ ExactlyEncoded secs) →
        gprsTimer3Secs (encodeGPRSTimer3 secs) = some decoded' → decoded ≤ decoded' := by
  obtain ⟨s', hrun, hsent⟩ := run_setT3512Value hpos ue s
  by_cases hexact : ExactlyEncoded env.t3512Secs
  · refine ⟨_, s', env.t3512Secs, hrun, gprsTimer3Secs_encode_exact hexact, hpos, fun _ => rfl,
      fun h => absurd hexact h, fun _ => Int.le_of_eq hsent.symm, ?_⟩
    intro secs decoded' hle hsame hdecoded
    rw [gprsTimer3Secs_encode_exact (hsame.mp hexact)] at hdecoded
    rw [← Option.some.inj hdecoded]
    exact hle
  · refine ⟨_, s', wholeMinutes env.t3512Secs * 60, hrun,
      gprsTimer3Secs_encode_rounded hpos hexact, ?_, fun h => absurd h hexact, fun _ => rfl, ?_, ?_⟩
    · rw [wholeMinutes]
      omega
    · rintro (hminute | h)
      · rw [hsent, wholeMinutes]
        omega
      · exact absurd h hexact
    · intro secs decoded' hle hsame hdecoded
      rw [gprsTimer3Secs_encode_rounded (by omega) (mt hsame.mpr hexact)] at hdecoded
      rw [← Option.some.inj hdecoded, wholeMinutes, wholeMinutes]
      omega

def labAMF : Handler :=
  .newHandler ((Manager.newManager ⟨"001", "01", 1, 1, 1⟩ false false).allocateUEContext 7).2

/-- A minute is sent as it is. -/
theorem t3512_at_ue_minute : ∃ octet s' decoded,
    (setT3512Value { t3512Secs := 60 } 0).run labAMF = (.ok (some octet), s') ∧
      gprsTimer3Secs octet = some decoded ∧ decoded = 60 ∧ decoded ≤ (s'.ctx 0).t3512SentSecs := by
  obtain ⟨octet, s', decoded, hrun, hdecoded, -, hexact, -, hle, -⟩ :=
    t3512_at_ue (show 0 < ({ t3512Secs := 60 } : Env).t3512Secs by decide) 0 labAMF
  have hminute : ExactlyEncoded 60 := ⟨(5, 60), by decide, 1, by decide, by decide, rfl⟩
  exact ⟨octet, s', decoded, hrun, hdecoded, hexact hminute, hle (.inr hminute)⟩

/-- The UE decodes less for 63 seconds than for 62, half an hour for forty hours, and more than
the AMF records for 45 seconds. -/
theorem t3512_not_monotone_not_exact : gprsTimer3Secs (encodeGPRSTimer3 62) = some 62 ∧
    gprsTimer3Secs (encodeGPRSTimer3 63) = some 60 ∧
    MultipleOf 36000 144000 ∧ gprsTimer3Secs (encodeGPRSTimer3 144000) = some 1860 ∧
    (((setT3512Value { t3512Secs := 45 } 0).run labAMF).2.ctx 0).t3512SentSecs = 45 ∧
    gprsTimer3Secs (encodeGPRSTimer3 45) = some 60 := by
  refine ⟨by decide, by decide, ⟨4, by decide, by decide, rfl⟩, by decide, ?_, by decide⟩
  obtain ⟨s', hrun, hsent⟩ :=
    run_setT3512Value (show 0 < ({ t3512Secs := 45 } : Env).t3512Secs by decide) 0 labAMF
  rw [hrun]
  exact hsent

end Claudia5gc.Amf
