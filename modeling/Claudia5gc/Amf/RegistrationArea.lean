import Claudia5gc.Amf.Registration
import Claudia5gc.Nas.ElementRoundTrip

/-!
# The registration area

The TAI list of a Registration Accept is the area in which the UE stays registered.  The AMF puts
the TACs it serves into it and adds the TAC of the UE at the end, if it is not among them; the
encoder keeps the first sixteen.
-/

namespace Claudia5gc.Amf

open Go Nas List Handler UInt32

variable {tacs : List UInt32} {plmn : Bytes} {current : UInt32} {cfg : Config}

/-! ## What the UE reads -/

def readTACs : Bytes → Option (List UInt32)
  | [] => some []
  | a :: b :: c :: rest =>
    (readTACs rest).map (ofNat (a.toNat * 65536 + b.toNat * 256 + c.toNat) :: ·)
  | _ => none

/-- A TAI list of type 00, as the UE reads it: the number of elements less one, the PLMN and the
TACs. -/
def readTAIList : Bytes → Option (List UInt32)
  | octet :: _ :: _ :: _ :: rest =>
    if octet &&& 0x60 = 0 ∧ rest.length = 3 * ((octet &&& 0x1F).toNat + 1) then readTACs rest
    else none
  | _ => none

def tacOctets (tac : UInt32) : Bytes := [(tac >>> 16).toUInt8, (tac >>> 8).toUInt8, tac.toUInt8]

theorem readTACs_tacOctets {tac : UInt32} (h : tac < 16777216) (rest : Bytes) :
    readTACs (tacOctets tac ++ rest) = (readTACs rest).map (tac :: ·) := by
  have hlt : tac.toNat < 16777216 := lt_iff_toNat_lt.mp h
  have hoctets : ofNat ((tac >>> 16).toUInt8.toNat * 65536 +
      (tac >>> 8).toUInt8.toNat * 256 + tac.toUInt8.toNat) = tac := by
    apply UInt32.toNat_inj.mp
    simp only [UInt32.toNat_ofNat', UInt32.toNat_toUInt8, UInt32.toNat_shiftRight,
      reduceToNat, Nat.reduceMod, Nat.shiftRight_eq_div_pow, Nat.reducePow]
    omega
  rw [tacOctets, cons_append, cons_append, cons_append, nil_append, readTACs, hoctets]

theorem readTACs_flatMap (h : ∀ t ∈ tacs, t < 16777216) :
    readTACs (tacs.flatMap tacOctets) = some tacs := by
  induction tacs with
  | nil => rfl
  | cons tac tacs ih =>
    obtain ⟨htac, htacs⟩ := forall_mem_cons.mp h
    rw [flatMap_cons, readTACs_tacOctets htac, ih htacs]
    rfl

theorem length_flatMap_tacOctets (tacs : List UInt32) :
    (tacs.flatMap tacOctets).length = 3 * tacs.length := by
  induction tacs with
  | nil => rfl
  | cons tac tacs ih =>
    rw [flatMap_cons, length_append, ih, length_cons]
    show 3 + _ = _
    omega

theorem readTAIList_encodeTAIList {mcc mnc : String}
    (hplmn : encodeMCCMNC mcc mnc = .ok plmn) (hne : tacs ≠ []) (h : ∀ t ∈ tacs, t < 16777216) :
    ∃ b, encodeTAIList mcc mnc tacs = .ok b ∧ readTAIList b = some (tacs.take 16) := by
  have hlen : (tacs.take 16).length - 1 < 16 := by
    rw [length_take]
    omega
  have hpos : 0 < (tacs.take 16).length := by
    rw [length_take]
    have := length_pos_of_ne_nil hne
    omega
  obtain ⟨m0, m1, m2, n0, n1, n2, -, rfl⟩ := encodeMCCMNC_ok hplmn
  have hcount : ∀ n < 16, (UInt8.ofNat n &&& 0x1F) &&& 0x60 = 0 ∧
      ((UInt8.ofNat n &&& 0x1F) &&& 0x1F).toNat = n := by decide
  obtain ⟨htype, hnumber⟩ := hcount _ hlen
  refine ⟨(UInt8.ofNat ((tacs.take 16).length - 1) &&& 0x1F) ::
    (plmnOctets m0 m1 m2 n0 n1 n2 ++ (tacs.take 16).flatMap tacOctets), ?_, ?_⟩
  · rw [encodeTAIList, if_neg hne, hplmn]
    rfl
  · rw [plmnOctets, cons_append, cons_append, cons_append, nil_append,
      readTAIList, if_pos, readTACs_flatMap fun t ht => h t (mem_of_mem_take ht)]
    refine ⟨htype, ?_⟩
    rw [length_flatMap_tacOctets, hnumber]
    omega

/-! ## The area of a UE -/

/-- The UE reads at most sixteen different TACs, all of them served or its own, and its own among
them. -/
def AreaOf (served : List UInt32) (current : UInt32) (list : Bytes) : Prop :=
  ∃ tacs, readTAIList list = some tacs ∧ tacs.length ≤ 16 ∧ tacs.Nodup ∧
    (∀ t ∈ tacs, t ∈ served ∨ t = current) ∧ current ∈ tacs

theorem mem_take_iff {served : List UInt32} :
    current ∈ (if current ∈ served then served else served ++ [current]).take 16 ↔
      current ∈ served.take 16 ∨ served.length < 16 := by
  by_cases hmem : current ∈ served
  · rw [if_pos hmem]
    constructor
    · exact .inl
    · rintro (h | h)
      · exact h
      · rwa [take_of_length_le (Nat.le_of_lt h)]
  · rw [if_neg hmem, take_append, mem_append]
    constructor
    · rintro (h | h)
      · exact .inl h
      · right
        have := length_pos_of_mem h
        rw [length_take, length_singleton] at this
        omega
    · rintro (h | h)
      · exact .inl h
      · right
        rw [take_of_length_le (by rw [length_singleton]; omega)]
        exact mem_singleton_self current

theorem buildTAIList_areaOf_iff
    (hplmn : encodeMCCMNC cfg.plmnMCC cfg.plmnMNC = .ok plmn) (hdistinct : cfg.servedTACs.Nodup)
    (hserved : ∀ t ∈ cfg.servedTACs, t < 16777216) (hcurrent : current < 16777216) :
    ∃ list, buildTAIList cfg current = .ok list ∧ (AreaOf cfg.servedTACs current list ↔
        current ∈ cfg.servedTACs.take 16 ∨ cfg.servedTACs.length < 16) := by
  have hmem : ∀ t ∈ (if current ∈ cfg.servedTACs then cfg.servedTACs
      else cfg.servedTACs ++ [current]), t ∈ cfg.servedTACs ∨ t = current := by
    intro t ht
    split at ht
    · exact .inl ht
    · rwa [mem_append, mem_singleton] at ht
  have hnodup : (if current ∈ cfg.servedTACs then cfg.servedTACs
      else cfg.servedTACs ++ [current]).Nodup := by
    split_ifs with hnew
    · exact hdistinct
    · exact nodup_append.mpr ⟨hdistinct, nodup_singleton _, fun a ha b hb hab =>
        hnew (mem_singleton.mp hb ▸ hab ▸ ha)⟩
  have hne : (if current ∈ cfg.servedTACs then cfg.servedTACs
      else cfg.servedTACs ++ [current]) ≠ [] := by
    split
    · exact ne_nil_of_mem ‹_›
    · simp
  obtain ⟨list, hlist, hread⟩ := readTAIList_encodeTAIList hplmn hne fun t ht => by
    rcases hmem t ht with h | rfl
    · exact hserved t h
    · exact hcurrent
  refine ⟨list, hlist, ?_⟩
  rw [← mem_take_iff]
  constructor
  · rintro ⟨tacs, htacs, -, -, -, hin⟩
    rw [hread] at htacs
    rwa [Option.some.inj htacs]
  · intro hin
    refine ⟨_, hread, ?_, hnodup.sublist (take_sublist _ _),
      fun t ht => hmem t (mem_of_mem_take ht), hin⟩
    rw [length_take]
    omega

theorem run_registrationAccept {ue : Ptr} {s : Handler} {list : Bytes}
    (h : buildTAIList cfg (s.ctx ue).tac = .ok list) (env : Env) (guti : GUTI5G) :
    ∃ accept s', (registrationAccept cfg env ue guti).run s = (.ok accept, s') ∧
      accept.taiList = list := by
  unfold registrationAccept
  rw [run_load_bind, Proc.run_bind, Proc.run_lift, h]
  dsimp only
  unfold setT3512Value
  split
  · exact ⟨_, _, rfl, rfl⟩
  · exact ⟨_, _, rfl, rfl⟩

/-- The TAI list of a Registration Accept is an area of the UE exactly if its TAC is among the first
sixteen that are served, or fewer than sixteen are. -/
theorem registrationAccept_areaOf_iff {cfg : Config} {ue : Ptr} {s : Handler} {plmn : Bytes}
    (hplmn : encodeMCCMNC cfg.plmnMCC cfg.plmnMNC = .ok plmn) (hdistinct : cfg.servedTACs.Nodup)
    (hserved : ∀ t ∈ cfg.servedTACs, t < 16777216) (hcurrent : (s.ctx ue).tac < 16777216)
    (env : Env) (guti : GUTI5G) :
    ∃ accept s', (registrationAccept cfg env ue guti).run s = (.ok accept, s') ∧
      (AreaOf cfg.servedTACs (s.ctx ue).tac accept.taiList ↔
        (s.ctx ue).tac ∈ cfg.servedTACs.take 16 ∨ cfg.servedTACs.length < 16) := by
  obtain ⟨list, hlist, hiff⟩ := buildTAIList_areaOf_iff hplmn hdistinct hserved hcurrent
  obtain ⟨accept, s', hrun, rfl⟩ := run_registrationAccept hlist env guti
  exact ⟨accept, s', hrun, hiff⟩

def serving (tacs : List UInt32) : Config := { Config.minimal with servedTACs := tacs }

def ueInArea : Handler :=
  ((update 0 fun c => { c with tac := 17 }).run
    (.newHandler ((Manager.newManager ⟨"001", "01", 1, 1, 1⟩ false false).allocateUEContext 7).2)).2

/-- Two TACs are served, and the UE is in a third. -/
theorem registrationAccept_areaOf_third : ∃ accept s',
    (registrationAccept (serving [1, 2]) {} 0 ⟨"001", "01", 1, 1, 1, 1⟩).run ueInArea =
      (.ok accept, s') ∧ AreaOf [1, 2] 17 accept.taiList := by
  have hplmn : encodeMCCMNC (serving [1, 2]).plmnMCC (serving [1, 2]).plmnMNC =
      .ok [0x00, 0xF1, 0x10] := by decide +kernel
  obtain ⟨accept, s', hrun, hiff⟩ :=
    registrationAccept_areaOf_iff hplmn (by decide) (by simp [serving])
    (show (ueInArea.ctx 0).tac < 16777216 by decide) {} ⟨"001", "01", 1, 1, 1, 1⟩
  exact ⟨accept, s', hrun, hiff.mpr (.inr (by decide))⟩

/-- Sixteen other TACs are served, and the TAI list has no room for the one of the UE. -/
theorem registrationAccept_without_current :
    ∃ accept s', (registrationAccept (serving (range' 1 16 |>.map ofNat)) {} 0
        ⟨"001", "01", 1, 1, 1, 1⟩).run ueInArea = (.ok accept, s') ∧ (ueInArea.ctx 0).tac = 17 ∧
      readTAIList accept.taiList = some (range' 1 16 |>.map ofNat) ∧
      ¬AreaOf (range' 1 16 |>.map ofNat) 17 accept.taiList := by
  have hlist : buildTAIList (serving (range' 1 16 |>.map ofNat))
      (ueInArea.ctx 0).tac = .ok [0x0F, 0x00, 0xF1, 0x10, 0, 0, 1, 0, 0, 2, 0, 0, 3, 0, 0, 4, 0, 0,
        5, 0, 0, 6, 0, 0, 7, 0, 0, 8, 0, 0, 9, 0, 0, 10, 0, 0, 11, 0, 0, 12, 0, 0, 13, 0, 0, 14,
        0, 0, 15, 0, 0, 16] := by
    decide +kernel
  obtain ⟨accept, s', hrun, htai⟩ := run_registrationAccept hlist {} ⟨"001", "01", 1, 1, 1, 1⟩
  have hread : readTAIList accept.taiList = some (range' 1 16 |>.map ofNat) := by
    rw [htai]
    decide
  refine ⟨accept, s', hrun, rfl, hread, ?_⟩
  rintro ⟨tacs, htacs, -, -, -, hin⟩
  rw [hread] at htacs
  rw [← Option.some.inj htacs] at hin
  exact absurd hin (by decide)

end Claudia5gc.Amf
