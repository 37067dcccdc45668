import Claudia5gc.Go.Decimal
import Claudia5gc.Nas.UplinkTransport
import Mathlib.Data.List.Basic

/-!
# Information elements, written and read back

What the decoders make of the octets that the encoders write, element by element: PLMN and 5G-GUTI,
NSSAI, the half octets, the security capability.  The encoders take every value of the Go types and
mask what does not fit; what is read back is the value as the octets hold it.
-/

namespace Claudia5gc.Nas

open Go List Outcome SNSSAI Proc UInt8

variable (setID : UInt16) (pointer : UInt8) {b v : Bytes} {g : GUTIMobileIdentity} {iei : UInt8}

/-! ## Bits of an octet -/

theorem forall_octet {P : UInt8 → Prop} (h : ∀ n < 256, P (UInt8.ofNat n)) (b : UInt8) : P b := by
  have := h b.toNat b.toNat_lt
  rwa [UInt8.ofNat_toNat] at this

theorem and_0F_eq_self_iff (b : UInt8) : b &&& 0x0F = b ↔ b < 16 :=
  forall_octet (P := fun b => b &&& 0x0F = b ↔ b < 16) (by decide +kernel) b

theorem and_07_eq_self_iff (b : UInt8) : b &&& 0x07 = b ↔ b < 8 :=
  forall_octet (P := fun b => b &&& 0x07 = b ↔ b < 8) (by decide +kernel) b

theorem and_01_eq_self_iff (b : UInt8) : b &&& 0x01 = b ↔ b < 2 :=
  forall_octet (P := fun b => b &&& 0x01 = b ↔ b < 2) (by decide +kernel) b

theorem halves {hi lo : UInt8} (hhi : hi < 16) (hlo : lo < 16) :
    ((hi <<< 4) ||| lo) &&& 0x0F = lo ∧ (((hi <<< 4) ||| lo) >>> 4) &&& 0x0F = hi := by
  have hall : ∀ h < 16, ∀ l < 16,
      ((ofNat h <<< 4) ||| ofNat l) &&& 0x0F = ofNat l ∧
        (((ofNat h <<< 4) ||| ofNat l) >>> 4) &&& 0x0F = ofNat h := by
    decide +kernel
  have := hall hi.toNat (lt_iff_toNat_lt.mp hhi) lo.toNat (lt_iff_toNat_lt.mp hlo)
  rwa [UInt8.ofNat_toNat, UInt8.ofNat_toNat] at this

/-! ## PLMN -/

theorem sprintDigits_of_decimal {ds : List UInt8} (h : Decimal ds) :
    sprintDigits ds = digitString ds := by
  have hmap : ds.map (fun d => toString d.toNat) = ds.map fun d => String.singleton (digitChar d) :=
    map_congr_left fun d hd => toString_of_lt_ten (toNat_lt_ten (h d hd))
  rw [sprintDigits, hmap, digitString]
  clear hmap h
  induction ds with
  | nil => rfl
  | cons d ds ih => rw [map_cons, map_cons, String.join_cons, String.ofList_cons, ih]

/-- The three octets of a PLMN; the last digit of an MNC with two digits is 0xF. -/
def plmnOctets (m0 m1 m2 n0 n1 n2 : UInt8) : Bytes :=
  [(m1 <<< 4) ||| m0, (n2 <<< 4) ||| m2, (n1 <<< 4) ||| n0]

def mncString (n0 n1 n2 : UInt8) : String :=
  if n2 = 0xF then digitString [n0, n1] else digitString [n0, n1, n2]

/-- The digits of a PLMN. -/
structure PLMNDigits (m0 m1 m2 n0 n1 n2 : UInt8) : Prop where
  mcc : Decimal [m0, m1, m2]
  mnc : Decimal [n0, n1]
  third : n2 < 10 ∨ n2 = 0xF

section PLMN

variable {m0 m1 m2 n0 n1 n2 : UInt8}

theorem decodeMCCMNC_plmnOctets (h : PLMNDigits m0 m1 m2 n0 n1 n2) :
    decodeMCCMNC (plmnOctets m0 m1 m2 n0 n1 n2) =
      .ok (digitString [m0, m1, m2], mncString n0 n1 n2) := by
  obtain ⟨hmcc, hmnc, hthird⟩ := h
  have hnibble : ∀ {ds : List UInt8}, Decimal ds → ∀ d ∈ ds, d < 16 :=
    fun hds d hd => UInt8.lt_trans (hds d hd) (by decide)
  have hn2 : n2 < 16 := by
    rcases hthird with h | rfl
    · exact UInt8.lt_trans h (by decide)
    · decide
  obtain ⟨h1, h2⟩ := halves (hnibble hmcc m1 (by simp)) (hnibble hmcc m0 (by simp))
  obtain ⟨h3, h4⟩ := halves hn2 (hnibble hmcc m2 (by simp))
  obtain ⟨h5, h6⟩ := halves (hnibble hmnc n1 (by simp)) (hnibble hmnc n0 (by simp))
  have hmnc3 : n2 ≠ 0xF → Decimal [n0, n1, n2] := by
    intro hne d hd
    have hn : n2 < 10 := hthird.resolve_right hne
    simp only [mem_cons, not_mem_nil, or_false] at hd
    rcases hd with rfl | rfl | rfl
    · exact hmnc _ (by simp)
    · exact hmnc _ (by simp)
    · exact hn
  show ok (sprintDigits [_, _, _], if _ then sprintDigits [_, _] else
    sprintDigits [_, _, _]) = _
  rw [h1, h2, h3, h4, h5, h6, sprintDigits_of_decimal hmcc, sprintDigits_of_decimal hmnc, mncString]
  by_cases hF : n2 = 0xF
  · rw [if_pos hF, if_pos hF]
  · rw [if_neg hF, if_neg hF, sprintDigits_of_decimal (hmnc3 hF)]

end PLMN

theorem bcd_lt (c : UInt8) : bcd c < 10 :=
  forall_octet (P := fun c => bcd c < 10) (by decide +kernel) c

theorem bcd_digit {d : UInt8} (h : d < 10) : bcd (0x30 + d) = d := by
  have hall : ∀ n < 10, bcd (0x30 + ofNat n) = ofNat n := by decide
  have := hall d.toNat (toNat_lt_ten h)
  rwa [UInt8.ofNat_toNat] at this

theorem encodeMCCMNC_of_decimal {mcc mnc : String} (hmcc : IsDecimal 3 mcc)
    (hmnc : IsDecimal 2 mnc ∨ IsDecimal 3 mnc) :
    ∃ m0 m1 m2 n0 n1 n2, PLMNDigits m0 m1 m2 n0 n1 n2 ∧ mcc = digitString [m0, m1, m2] ∧
      mnc = mncString n0 n1 n2 ∧ encodeMCCMNC mcc mnc = .ok (plmnOctets m0 m1 m2 n0 n1 n2) := by
  obtain ⟨ms, hlen, hms, rfl⟩ := hmcc.exists_digits
  obtain ⟨m0, m1, m2, rfl⟩ := length_eq_three.mp hlen
  have hm0 := bcd_digit (hms m0 (by simp))
  have hm1 := bcd_digit (hms m1 (by simp))
  have hm2 := bcd_digit (hms m2 (by simp))
  have hmccOctets := stringBytes_digitString hms
  rcases hmnc with hmnc | hmnc
  · obtain ⟨ns, hlen', hns, rfl⟩ := hmnc.exists_digits
    obtain ⟨n0, n1, rfl⟩ := length_eq_two.mp hlen'
    have hmncOctets := stringBytes_digitString hns
    refine ⟨m0, m1, m2, n0, n1, 0xF, ⟨hms, hns, .inr rfl⟩, rfl, rfl, ?_⟩
    rw [encodeMCCMNC, hmccOctets, hmncOctets]
    show ok [_, _, _] = _
    rw [hm0, hm1, hm2, bcd_digit (hns n0 (by simp)), bcd_digit (hns n1 (by simp))]
    rfl
  · obtain ⟨ns, hlen', hns, rfl⟩ := hmnc.exists_digits
    obtain ⟨n0, n1, n2, rfl⟩ := length_eq_three.mp hlen'
    have hmncOctets := stringBytes_digitString hns
    have hn2 : n2 < 10 := hns n2 (by simp)
    have hne : n2 ≠ 0xF := by
      rintro rfl
      exact absurd hn2 (by decide)
    refine ⟨m0, m1, m2, n0, n1, n2, ⟨hms, fun d hd => hns d ?_, .inl hn2⟩, rfl, ?_, ?_⟩
    · simp only [mem_cons, not_mem_nil, or_false] at hd ⊢
      tauto
    · rw [mncString, if_neg hne]
    · rw [encodeMCCMNC, hmccOctets, hmncOctets]
      show ok [_, _, _] = _
      rw [hm0, hm1, hm2, bcd_digit (hns n0 (by simp)), bcd_digit (hns n1 (by simp)), bcd_digit hn2]
      rfl

theorem encodeMCCMNC_ok {mcc mnc : String} (h : encodeMCCMNC mcc mnc = .ok b) :
    ∃ m0 m1 m2 n0 n1 n2, PLMNDigits m0 m1 m2 n0 n1 n2 ∧ b = plmnOctets m0 m1 m2 n0 n1 n2 := by
  unfold encodeMCCMNC at h
  dsimp only at h
  split at h
  · cases h
    exact ⟨0, 0, 0, 0, 0, 0, ⟨by decide, by decide, by decide⟩, rfl⟩
  · have hrest : ∀ c0 c1 n2 : UInt8, n2 < 10 ∨ n2 = 0xF → (do
        let c2 ← index (stringBytes mcc) 2
        let d1 ← index (stringBytes mnc) 1
        let d0 ← index (stringBytes mnc) 0
        return [(bcd c1 <<< 4) ||| bcd c0, (n2 <<< 4) ||| bcd c2, (bcd d1 <<< 4) ||| bcd d0] :
          Outcome Bytes) = .ok b →
        ∃ m0 m1 m2 n0 n1 n2, PLMNDigits m0 m1 m2 n0 n1 n2 ∧ b = plmnOctets m0 m1 m2 n0 n1 n2 := by
      intro c0 c1 n2 hn2 hb
      obtain ⟨c2, -, hb⟩ := bind_eq_ok.mp hb
      obtain ⟨d1, -, hb⟩ := bind_eq_ok.mp hb
      obtain ⟨d0, -, hb⟩ := bind_eq_ok.mp hb
      cases hb
      exact ⟨bcd c0, bcd c1, bcd c2, bcd d0, bcd d1, n2,
        ⟨by simp [Decimal, bcd_lt], by simp [Decimal, bcd_lt], hn2⟩, rfl⟩
    obtain ⟨c1, -, h⟩ := bind_eq_ok.mp h
    obtain ⟨c0, -, h⟩ := bind_eq_ok.mp h
    split at h
    · obtain ⟨n2, hn2, h⟩ := bind_eq_ok.mp h
      obtain ⟨d2, -, hd2⟩ := bind_eq_ok.mp hn2
      cases hd2
      exact hrest c0 c1 _ (.inl (bcd_lt _)) h
    · exact hrest c0 c1 0xF (.inr rfl) h

/-! ## 5G-GUTI -/

theorem toNat_beUInt32 (b0 b1 b2 b3 : UInt8) : (beUInt32 b0 b1 b2 b3).toNat =
      b0.toNat * 16777216 + b1.toNat * 65536 + b2.toNat * 256 + b3.toNat := by
  have h0 : b0.toNat < 256 := b0.toNat_lt
  have h1 : b1.toNat < 256 := b1.toNat_lt
  have h2 : b2.toNat < 256 := b2.toNat_lt
  have h3 : b3.toNat < 256 := b3.toNat_lt
  have hlow : beUInt32 b0 b1 b2 b3 = b0.toUInt32 <<< 24 ||| sdOfBytes b1 b2 b3 := by
    simp only [beUInt32, sdOfBytes, UInt32.or_assoc]
  have hshift : b0.toNat <<< 24 % 4294967296 = b0.toNat <<< 24 :=
    Nat.mod_eq_of_lt (by rw [Nat.shiftLeft_eq]; omega)
  rw [hlow, UInt32.toNat_or, toNat_sdOfBytes, UInt32.toNat_shiftLeft, toNat_toUInt32]
  simp only [UInt32.reduceToNat, Nat.reducePow, Nat.reduceMod, hshift]
  rw [← Nat.shiftLeft_add_eq_or_of_lt (by omega), Nat.shiftLeft_eq]
  omega

theorem beUInt32_octets (v : UInt32) :
    beUInt32 (v >>> 24).toUInt8 (v >>> 16).toUInt8 (v >>> 8).toUInt8 v.toUInt8 = v := by
  have hv := v.toNat_lt
  apply UInt32.toNat_inj.mp
  rw [toNat_beUInt32]
  simp only [UInt32.toNat_toUInt8, UInt32.toNat_shiftRight, UInt32.reduceToNat, Nat.reduceMod,
    Nat.shiftRight_eq_div_pow, Nat.reducePow]
  omega

def amfRef (setID : UInt16) (pointer : UInt8) : UInt16 :=
  ((setID &&& 0x3FF) <<< 6) ||| (pointer &&& 0x3F).toUInt16

theorem toNat_amfRef :
    (amfRef setID pointer).toNat = setID.toNat % 1024 * 64 + pointer.toNat % 64 := by
  have hset : setID.toNat &&& 1023 = setID.toNat % 1024 := Nat.and_two_pow_sub_one_eq_mod _ 10
  have hpointer : pointer.toNat &&& 63 = pointer.toNat % 64 := Nat.and_two_pow_sub_one_eq_mod _ 6
  have hshift : (setID.toNat % 1024) <<< 6 % 65536 = (setID.toNat % 1024) <<< 6 :=
    Nat.mod_eq_of_lt (by rw [Nat.shiftLeft_eq]; omega)
  simp only [amfRef, UInt16.toNat_or, UInt16.toNat_shiftLeft, UInt16.toNat_and,
    toNat_toUInt16,
    UInt8.toNat_and, UInt16.reduceToNat, UInt8.reduceToNat, Nat.reduceMod, Nat.reducePow, hset,
    hpointer, hshift]
  rw [← Nat.shiftLeft_add_eq_or_of_lt (Nat.mod_lt _ (by decide)), Nat.shiftLeft_eq]

theorem amfRef_setID : amfRef setID pointer >>> 6 = setID % 1024 := by
  apply UInt16.toNat_inj.mp
  rw [UInt16.toNat_shiftRight, toNat_amfRef, UInt16.toNat_mod]
  simp only [UInt16.reduceToNat, Nat.reduceMod, Nat.shiftRight_eq_div_pow, Nat.reducePow]
  omega

theorem amfRef_pointer : (amfRef setID pointer &&& 0x3F).toUInt8 = pointer % 64 := by
  have hand : (amfRef setID pointer).toNat &&& 63 = (amfRef setID pointer).toNat % 64 :=
    Nat.and_two_pow_sub_one_eq_mod _ 6
  apply UInt8.toNat_inj.mp
  rw [UInt16.toNat_toUInt8, UInt16.toNat_and, UInt8.toNat_mod]
  simp only [UInt16.reduceToNat, reduceToNat]
  rw [hand, toNat_amfRef]
  omega

/-- The fields of a 5G-GUTI fit into its octets. -/
structure GUTIMobileIdentity.WellFormed (g : GUTIMobileIdentity) : Prop where
  mcc : IsDecimal 3 g.mcc
  mnc : IsDecimal 2 g.mnc ∨ IsDecimal 3 g.mnc
  amfSetID : g.amfSetID < 1024
  amfID : g.amfID < 64

def gutiIdentity (g : GUTIMobileIdentity) : MobileIdentity :=
  { type := mobileIdentityGUTI, guti := some g }

theorem decodeMobileIdentity_encode5GGUTI {m0 m1 m2 n0 n1 n2 : UInt8}
    (h : PLMNDigits m0 m1 m2 n0 n1 n2)
    (hplmn : encodeMCCMNC g.mcc g.mnc = .ok (plmnOctets m0 m1 m2 n0 n1 n2)) :
    ∃ b, encode5GGUTI g = .ok b ∧ b.length = 11 ∧ decodeMobileIdentity b = .ok (gutiIdentity
      { g with
        mcc := digitString [m0, m1, m2], mnc := mncString n0 n1 n2
        amfSetID := g.amfSetID % 1024, amfID := g.amfID % 64 }) := by
  have hguti : encode5GGUTI g = .ok ([0xF0 ||| mobileIdentityGUTI] ++
      plmnOctets m0 m1 m2 n0 n1 n2 ++ [g.amfRegionID] ++
      [(amfRef g.amfSetID g.amfID >>> 8).toUInt8, (amfRef g.amfSetID g.amfID).toUInt8] ++
      [(g.tmsi >>> 24).toUInt8, (g.tmsi >>> 16).toUInt8, (g.tmsi >>> 8).toUInt8,
        g.tmsi.toUInt8]) := by
    rw [encode5GGUTI, hplmn]
    rfl
  refine ⟨_, hguti, rfl, ?_⟩
  have hdecode : decodeGUTI ([0xF0 ||| mobileIdentityGUTI] ++
      plmnOctets m0 m1 m2 n0 n1 n2 ++ [g.amfRegionID] ++
      [(amfRef g.amfSetID g.amfID >>> 8).toUInt8, (amfRef g.amfSetID g.amfID).toUInt8] ++
      [(g.tmsi >>> 24).toUInt8, (g.tmsi >>> 16).toUInt8, (g.tmsi >>> 8).toUInt8,
        g.tmsi.toUInt8]) = (do
      let plmn ← decodeMCCMNC (plmnOctets m0 m1 m2 n0 n1 n2)
      return {
        mcc := plmn.1, mnc := plmn.2, amfRegionID := g.amfRegionID
        amfSetID := beUInt16 (amfRef g.amfSetID g.amfID >>> 8).toUInt8
          (amfRef g.amfSetID g.amfID).toUInt8 >>> 6
        amfID := (beUInt16 (amfRef g.amfSetID g.amfID >>> 8).toUInt8
          (amfRef g.amfSetID g.amfID).toUInt8 &&& 0x3F).toUInt8
        tmsi := beUInt32 (g.tmsi >>> 24).toUInt8 (g.tmsi >>> 16).toUInt8 (g.tmsi >>> 8).toUInt8
          g.tmsi.toUInt8 }) := rfl
  rw [beUInt16_octets, amfRef_setID, amfRef_pointer, beUInt32_octets, decodeMCCMNC_plmnOctets h,
    ok_bind] at hdecode
  simp only [cons_append, append_assoc, nil_append] at hdecode ⊢
  rw [decodeMobileIdentity_cons, if_neg (by decide), if_pos (by decide), hdecode]
  rfl

theorem isDecimal_mncString {m0 m1 m2 n0 n1 n2 : UInt8} (h : PLMNDigits m0 m1 m2 n0 n1 n2) :
    IsDecimal 2 (mncString n0 n1 n2) ∨ IsDecimal 3 (mncString n0 n1 n2) := by
  obtain ⟨-, hmnc, hthird⟩ := h
  rw [mncString]
  split
  · exact .inl (isDecimal_digitString hmnc)
  · next hne =>
    have hn2 : n2 < 10 := hthird.resolve_right hne
    refine .inr (isDecimal_digitString fun d hd => ?_)
    rw [mem_cons, mem_cons, mem_singleton] at hd
    rcases hd with rfl | rfl | rfl
    · exact hmnc _ (by simp)
    · exact hmnc _ (by simp)
    · exact hn2

theorem GUTIMobileIdentity.WellFormed.readBack (h : g.WellFormed) :
    ∃ b, encode5GGUTI g = .ok b ∧ b.length = 11 ∧ decodeMobileIdentity b = .ok (gutiIdentity g)
  := by
  obtain ⟨m0, m1, m2, n0, n1, n2, hdigits, hmcc, hmnc, hplmn⟩ :=
    encodeMCCMNC_of_decimal h.mcc h.mnc
  obtain ⟨b, hb, hlen, hread⟩ := decodeMobileIdentity_encode5GGUTI hdigits hplmn
  have hset : g.amfSetID % 1024 = g.amfSetID := UInt16.toNat_inj.mp <| by
    exact Nat.mod_eq_of_lt (UInt16.lt_iff_toNat_lt.mp h.amfSetID)
  have hpointer : g.amfID % 64 = g.amfID := UInt8.toNat_inj.mp <| by
    exact Nat.mod_eq_of_lt (lt_iff_toNat_lt.mp h.amfID)
  refine ⟨b, hb, hlen, ?_⟩
  rw [hread, hset, hpointer, ← hmcc, ← hmnc]

theorem encode5GGUTI_ok (h : encode5GGUTI g = .ok b) :
    b.length = 11 ∧ ∃ g', g'.WellFormed ∧ decodeMobileIdentity b = .ok (gutiIdentity g') := by
  obtain ⟨p, hp⟩ : ∃ p, encodeMCCMNC g.mcc g.mnc = .ok p := by
    obtain ⟨p, hp, -⟩ := bind_eq_ok.mp h
    exact ⟨p, hp⟩
  obtain ⟨m0, m1, m2, n0, n1, n2, hdigits, rfl⟩ := encodeMCCMNC_ok hp
  obtain ⟨b', hb', hlen, hread⟩ := decodeMobileIdentity_encode5GGUTI hdigits hp
  obtain rfl : b = b' := ok.inj (h.symm.trans hb')
  refine ⟨hlen, _, ?_, hread⟩
  refine ⟨isDecimal_digitString hdigits.mcc, isDecimal_mncString hdigits, ?_, ?_⟩
  · exact Nat.mod_lt _ (by decide)
  · exact Nat.mod_lt _ (by decide)

/-! ## NSSAI -/

def SNSSAI.threeOctets (s : SNSSAI) : SNSSAI := { s with sd := s.sd % 16777216 }

theorem length_encodeSNSSAILV_pos (s : SNSSAI) : 0 < (encodeSNSSAILV s).length := by
  rw [encodeSNSSAILV]
  split <;> exact Nat.succ_pos _

theorem index_of_getElem?_drop {i k : Nat} {x : UInt8} (h : (b.drop i)[k]? = some x) :
    index b (i + k) = .ok x := by
  rw [getElem?_drop] at h
  rw [index, h]

theorem run_decodeNSSAIStep {rest : Bytes} {i : Nat} {s : SNSSAI}
    (hdrop : b.drop i = encodeSNSSAILV s ++ rest) (n : NSSAI) : (decodeNSSAIStep b).run ⟨i, n⟩ =
      (.ok (.next ()), ⟨i + (encodeSNSSAILV s).length, n ++ [s.threeOctets]⟩) := by
  obtain ⟨sst, sd⟩ := s
  have hlen : b.length = i + ((encodeSNSSAILV ⟨sst, sd⟩).length + rest.length) := by
    have hlength := congrArg length hdrop
    have hpos := length_encodeSNSSAILV_pos ⟨sst, sd⟩
    rw [length_drop, length_append] at hlength
    omega
  by_cases hsd : sd = sdNotPresent
  · have hencode : encodeSNSSAILV ⟨sst, sd⟩ = [1, sst] := if_pos hsd
    rw [hencode] at hdrop hlen ⊢
    have h0 : index b i = .ok 1 := index_of_getElem?_drop (k := 0) (by rw [hdrop]; rfl)
    have h1 : index b (i + 1) = .ok sst := index_of_getElem?_drop (by rw [hdrop]; rfl)
    have hone : (1 : UInt8).toNat = 1 := rfl
    have hthree : threeOctets ⟨sst, sd⟩ = ⟨sst, sdNotPresent⟩ := by
      rw [threeOctets, hsd]
      rfl
    simp only [length_cons, length_nil] at hlen
    simp only [decodeNSSAIStep, run_bind, run_get, run_lift, h0, h1, hone,
      if_neg (show ¬b.length ≤ i by omega), if_neg (show ¬b.length < i + 1 + 1 by omega),
      if_neg (show ¬(1 : UInt8) = 4 by decide), hthree]
    rfl
  · have hencode : encodeSNSSAILV ⟨sst, sd⟩ =
        [4, sst, (sd >>> 16).toUInt8, (sd >>> 8).toUInt8, sd.toUInt8] := if_neg hsd
    rw [hencode] at hdrop hlen ⊢
    have h0 : index b i = .ok 4 := index_of_getElem?_drop (k := 0) (by rw [hdrop]; rfl)
    have h1 : index b (i + 1) = .ok sst := index_of_getElem?_drop (by rw [hdrop]; rfl)
    have h2 : index b (i + 1 + 1) = .ok (sd >>> 16).toUInt8 :=
      index_of_getElem?_drop (k := 2) (by rw [hdrop]; rfl)
    have h3 : index b (i + 1 + 2) = .ok (sd >>> 8).toUInt8 :=
      index_of_getElem?_drop (k := 3) (by rw [hdrop]; rfl)
    have h4 : index b (i + 1 + 3) = .ok sd.toUInt8 :=
      index_of_getElem?_drop (k := 4) (by rw [hdrop]; rfl)
    have hfour : (4 : UInt8).toNat = 4 := rfl
    simp only [length_cons, length_nil] at hlen
    simp only [decodeNSSAIStep, run_bind, run_get, run_lift, h0, h1, h2, h3, h4, hfour,
      if_neg (show ¬b.length ≤ i by omega), if_neg (show ¬b.length < i + 1 + 4 by omega), if_true,
      sdOfBytes_octets]
    rfl

-- Induction on the S-NSSAIs; those in front of `i` have been read.
theorem reaches_decodeNSSAI (b : Bytes) (ss : NSSAI) : ∀ (i : Nat) (n : NSSAI),
    i ≤ b.length → b.drop i = encodeNSSAI ss →
    Proc.Reaches (fun s : NSSAILoop => decide (s.i < b.length)) (fun _ => decodeNSSAIStep b)
      (fun s => b.length - s.i) () ⟨i, n⟩ () ⟨b.length, n ++ ss.map threeOctets⟩ := by
  induction ss with
  | nil =>
    intro i n hi hdrop
    have hend : b.length ≤ i := drop_eq_nil_iff.mp hdrop
    obtain rfl : i = b.length := by omega
    rw [map_nil, append_nil]
    exact .refl
  | cons s ss ih =>
    intro i n hi hdrop
    have hpos := length_encodeSNSSAILV_pos s
    have hlen : b.length = i + ((encodeSNSSAILV s).length + (encodeNSSAI ss).length) := by
      have hlength := congrArg length hdrop
      rw [length_drop, encodeNSSAI, flatMap_cons, length_append] at hlength
      rw [encodeNSSAI]
      omega
    have hrest : b.drop (i + (encodeSNSSAILV s).length) = encodeNSSAI ss := by
      rw [← drop_drop, hdrop, encodeNSSAI, flatMap_cons, drop_left]
      rfl
    refine (Proc.Reaches.step ?_ ?_ (run_decodeNSSAIStep (by rw [hdrop]; rfl) n)).trans ?_
    · rw [decide_eq_true_eq]
      dsimp only
      omega
    · dsimp only
      omega
    · have hreaches := ih _ (n ++ [s.threeOctets]) (by omega) hrest
      rwa [append_assoc, singleton_append] at hreaches

theorem decodeNSSAI_encodeNSSAI (n : NSSAI) :
    decodeNSSAI (encodeNSSAI n) = .ok (n.map threeOctets, none) := by
  have hrun := (reaches_decodeNSSAI (encodeNSSAI n) n 0 [] (Nat.zero_le _) rfl).run (by simp)
    (Nat.sub_le (encodeNSSAI n).length 0)
  rw [decodeNSSAI, hrun]
  rfl

theorem run_readNSSAI_encode {n : NSSAI} (h : (encodeNSSAI n).length ≤ 255) (r : Bytes) :
    readNSSAI.run (ofNat (encodeNSSAI n).length :: (encodeNSSAI n ++ r)) =
      (.ok (n.map threeOctets), r) := by
  rw [readNSSAI, run_bind_ok (run_readLV_append h r), decodeNSSAI_encodeNSSAI]
  rfl

/-- The SDs fit into three octets. -/
def NSSAI.WellFormed (n : NSSAI) : Prop := ∀ s ∈ n, s.sd < 16777216

theorem threeOctets_eq_self_iff (s : SNSSAI) : s.threeOctets = s ↔ s.sd < 16777216 := by
  obtain ⟨sst, sd⟩ := s
  rw [threeOctets, mk.injEq, UInt32.lt_iff_toNat_lt, ← UInt32.toNat_inj,
    UInt32.toNat_mod, show (16777216 : UInt32).toNat = 16777216 from rfl]
  dsimp only
  constructor
  · intro h
    omega
  · intro h
    exact ⟨rfl, Nat.mod_eq_of_lt h⟩

theorem map_threeOctets_eq_self_iff (n : NSSAI) : n.map threeOctets = n ↔ NSSAI.WellFormed n := by
  have hid : n.map threeOctets = n ↔ n.map threeOctets = n.map id := by
    rw [map_id]
  rw [hid, map_inj_left]
  exact forall₂_congr fun s _ => threeOctets_eq_self_iff s

theorem map_threeOctets_option_iff (o : Option NSSAI) :
    o.map (map threeOctets) = o ↔ ∀ n ∈ o, NSSAI.WellFormed n := by
  cases o with
  | none => simp
  | some n => simp [map_threeOctets_eq_self_iff]

/-! ## Half octets -/

theorem halfOctet (h : iei < 16) (v : UInt8) : ((iei <<< 4) ||| (v &&& 0x0F)) >>> 4 = iei ∧
      ((iei <<< 4) ||| (v &&& 0x0F)) &&& 0x0F = v &&& 0x0F := by
  have hall : ∀ h < 16, ∀ n < 256,
      ((ofNat h <<< 4) ||| (ofNat n &&& 0x0F)) >>> 4 = ofNat h ∧
        ((ofNat h <<< 4) ||| (ofNat n &&& 0x0F)) &&& 0x0F = ofNat n &&& 0x0F := by
    decide +kernel
  have := hall iei.toNat (lt_iff_toNat_lt.mp h) v.toNat v.toNat_lt
  rwa [UInt8.ofNat_toNat, UInt8.ofNat_toNat] at this

theorem ngksi_readBack (k : NGKSI) : encodeNGKSI k &&& 0x07 = k.keySetIdentifier &&& 0x07 ∧
      (encodeNGKSI k >>> 3) &&& 0x01 = k.type &&& 0x01 := by
  have hall : ∀ t < 2, ∀ i < 8, ((ofNat t <<< 3) ||| ofNat i) &&& 0x07 = ofNat i ∧
        (((ofNat t <<< 3) ||| ofNat i) >>> 3) &&& 0x01 = ofNat t := by
    decide
  have hbits := hall (k.type &&& 0x01).toNat ?_ (k.keySetIdentifier &&& 0x07).toNat ?_
  · rwa [UInt8.ofNat_toNat, UInt8.ofNat_toNat] at hbits
  · exact Nat.lt_succ_of_le Nat.and_le_right
  · exact Nat.lt_succ_of_le Nat.and_le_right

theorem algorithms_readBack (a : NASSecurityAlgorithms) :
    decodeNASSecurityAlgorithms (encodeNASSecurityAlgorithms a) =
      ⟨a.cipheringAlgorithmID &&& 0x0F, a.integrityAlgorithmID &&& 0x0F⟩ := by
  have hall : ∀ c : UInt8, ∀ i < 16, (((c <<< 4) ||| ofNat i) >>> 4) &&& 0x0F = c &&& 0x0F ∧
        ((c <<< 4) ||| ofNat i) &&& 0x0F = ofNat i :=
    forall_octet (by decide +kernel)
  have hbits := hall a.cipheringAlgorithmID (a.integrityAlgorithmID &&& 0x0F).toNat ?_
  · rw [UInt8.ofNat_toNat] at hbits
    rw [decodeNASSecurityAlgorithms, encodeNASSecurityAlgorithms, hbits.1, hbits.2]
  · exact Nat.lt_succ_of_le Nat.and_le_right

/-! ## One optional element -/

section Element

variable {α : Type} (r : Bytes)

theorem run_readLV_next (f : Bytes → α) (h : v.length ≤ 255) :
    (readLV >>= fun v => pure (Ctl.next (f v))).run (ofNat v.length :: v ++ r) =
      (.ok (.next (f v)), r) := by
  rw [cons_append, run_bind_ok (run_readLV_append h r)]
  rfl

theorem run_readLVE_next (f : Bytes → α) (h : v.length ≤ 65535) :
    (readLVE >>= fun v => pure (Ctl.next (f v))).run (be16 v.length ++ v ++ r) =
      (.ok (.next (f v)), r) := by
  rw [run_bind_ok (run_readLVE_append h r)]
  rfl

theorem run_readNSSAI_next (f : NSSAI → α) {n : NSSAI} (h : (encodeNSSAI n).length ≤ 255) :
    (readNSSAI >>= fun n => pure (Ctl.next (f n))).run
      (ofNat (encodeNSSAI n).length :: encodeNSSAI n ++ r) =
      (.ok (.next (f (n.map threeOctets))), r) := by
  rw [cons_append, run_bind_ok (run_readNSSAI_encode h r)]
  rfl

theorem run_readIdentity_next (f : Option MobileIdentity → α) {mi : MobileIdentity}
    (hlen : b.length ≤ 65535) (hmi : decodeMobileIdentity b = .ok mi) :
    (readLVE >>= fun v => lift (decodeMobileIdentityOrNil v) >>= fun mi =>
      pure (Ctl.next (f mi))).run (be16 b.length ++ b ++ r) = (.ok (.next (f (some mi))), r) := by
  rw [run_bind_ok (run_readLVE_append hlen r), decodeMobileIdentityOrNil, hmi]
  rfl

end Element

/-! ## The loop over the optional elements -/

def ieTurn {α : Type} (body : UInt8 → α → Proc Reader (Ctl α)) (a : α) : Proc Reader (Ctl α) := do
  match ← readByte.attempt with
  | .error _ => pure (.done a)
  | .ok iei => body iei a

/-- The loop comes to stand with `a'` in front of `r'`. -/
abbrev ReadsTo {α : Type} (body : UInt8 → α → Proc Reader (Ctl α)) : α → Bytes → α → Bytes → Prop :=
  Proc.Reaches (fun r : Reader => decide (1 ≤ r.length)) (ieTurn body) length

namespace ReadsTo

variable {α β : Type} {body : UInt8 → α → Proc Reader (Ctl α)} {a a' : α} {r : Bytes}

theorem element {content : Bytes} (h : (body iei a).run (content ++ r) = (.ok (.next a'), r)) :
    ReadsTo body a (iei :: (content ++ r)) a' r := by
  refine Proc.Reaches.step (by simp) ?_ ?_
  · rw [length_cons, length_append]
    omega
  · exact h

theorem optional {encode : β → Bytes} {o : Option β} {k : Option β → α}
    (h : ∀ b ∈ o, ReadsTo body (k none) (encode b ++ r) (k (some b)) r) :
    ReadsTo body (k none) (optionalIE encode o ++ r) (k o) r := by
  cases o with
  | none => exact .refl
  | some b => exact h b rfl

theorem nonzero {encode : β → Bytes} {zero v : β} {_ : Decidable (v ≠ zero)} {k : β → α}
    (h : v ≠ zero → ReadsTo body (k zero) (encode v ++ r) (k v) r) :
    ReadsTo body (k zero) ((if v ≠ zero then encode v else []) ++ r) (k v) r := by
  by_cases hv : v = zero
  · rw [if_neg (not_not.mpr hv), hv]
    exact .refl
  · rw [if_pos hv]
    exact h hv

theorem run_forEachIE (h : ReadsTo body a r a' []) : (forEachIE 1 body a).run r = (.ok a', []) :=
  Proc.Reaches.run h rfl (Nat.le_refl _)

end ReadsTo

end Claudia5gc.Nas
