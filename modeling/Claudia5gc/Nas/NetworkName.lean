import Claudia5gc.Bits
import Claudia5gc.Nas.UplinkTransport

/-!
# Network names, written and read back

`EncodeNetworkName` packs the septets of the GSM alphabet into octets, or falls back to UTF-16.
Packed octets have the bits of the septets, one after the other, so that each septet is found again
where it was put; the number of unused bits in the last octet says how many septets there are, also
when seven bits are unused and an eighth septet of zeros would fit.
-/

namespace Claudia5gc.Nas

open Go List Outcome Proc Nat

variable {packed septets : Bytes} {s spareBits : UInt8} {i n : Nat} {text : String}

/-! ## Packing septets -/

theorem septet_bits (hs : s.toNat < 128) (i j : Nat) :
    ((decide (j / 8 = i * 7 / 8) && (s <<< UInt8.ofNat (i * 7 % 8)).toNat.testBit (j % 8)) ||
      (decide (1 < i * 7 % 8) && (decide (j / 8 = i * 7 / 8 + 1) &&
        (s >>> UInt8.ofNat (8 - i * 7 % 8)).toNat.testBit (j % 8)))) =
      (decide (j / 7 = i) && s.toNat.testBit (j % 7)) := by
  have hseven : ∀ t, s.toNat.testBit t = true → t < 7 := fun t ht =>
    (Nat.pow_lt_pow_iff_right (by decide)).mp (Nat.lt_of_le_of_lt (ge_two_pow_of_testBit ht) hs)
  have hleft := testBit_shiftLeft_octet s (show i * 7 % 8 < 8 by omega) (j % 8)
  rw [Bool.eq_iff_iff]
  simp only [hleft, Bool.or_eq_true, Bool.and_eq_true, decide_eq_true_eq]
  constructor
  · rintro (⟨hoctet, -, hle, hbit⟩ | ⟨hshift, hoctet, hbit⟩)
    · have hlt := hseven _ hbit
      rw [show j % 8 - i * 7 % 8 = j % 7 by omega] at hbit
      exact ⟨by omega, hbit⟩
    · rw [testBit_shiftRight_octet s (by omega)] at hbit
      have hlt := hseven _ hbit
      rw [show 8 - i * 7 % 8 + j % 8 = j % 7 by omega] at hbit
      exact ⟨by omega, hbit⟩
  · rintro ⟨rfl, hbit⟩
    by_cases hoctet : j / 8 = j / 7 * 7 / 8
    · rw [show j % 7 = j % 8 - j / 7 * 7 % 8 by omega] at hbit
      exact .inl ⟨hoctet, by omega, by omega, hbit⟩
    · rw [testBit_shiftRight_octet s (by omega), show 8 - j / 7 * 7 % 8 + j % 8 = j % 7 by omega]
      exact .inr ⟨by omega, by omega, hbit⟩

def packTurn (packed : Bytes) (i : Nat) (s : UInt8) : Bytes :=
  let octet := i * 7 / 8
  let shift := UInt8.ofNat (i * 7 % 8)
  let packed := packed.modify octet (· ||| (s <<< shift))
  if 1 < shift then packed.modify (octet + 1) (· ||| (s >>> (8 - shift))) else packed

theorem length_packTurn (packed : Bytes) (i : Nat) (s : UInt8) :
    (packTurn packed i s).length = packed.length := by
  rw [packTurn]
  split
  · rw [length_modify, length_modify]
  · rw [length_modify]

theorem packTurn_eq (packed : Bytes) (i : Nat) (s : UInt8) : packTurn packed i s =
    if 1 < i * 7 % 8 then (packed.modify (i * 7 / 8) (· ||| s <<< UInt8.ofNat (i * 7 % 8))).modify
      (i * 7 / 8 + 1) (· ||| s >>> UInt8.ofNat (8 - i * 7 % 8))
    else packed.modify (i * 7 / 8) (· ||| s <<< UInt8.ofNat (i * 7 % 8)) := by
  have hone : ∀ n < 8, 1 < UInt8.ofNat n ↔ 1 < n := by decide
  have height : ∀ n < 8, (8 : UInt8) - UInt8.ofNat n = UInt8.ofNat (8 - n) := by decide
  have hmod : i * 7 % 8 < 8 := mod_lt _ (by decide)
  simp only [packTurn, hone _ hmod, height _ hmod]

theorem bitAt_packTurn (hs : s.toNat < 128) (hlen : i * 7 + 7 ≤ packed.length * 8) (j : Nat) :
    bitAt 8 (packTurn packed i s) j =
      (bitAt 8 packed j || (decide (j / 7 = i) && s.toNat.testBit (j % 7))) := by
  rw [← septet_bits hs i j, ← Bool.or_assoc, ← bitAt_modify_or (by omega), packTurn_eq]
  by_cases hshift : 1 < i * 7 % 8
  · rw [if_pos hshift, bitAt_modify_or, decide_eq_true hshift, Bool.true_and]
    rw [length_modify]
    omega
  · rw [if_neg hshift, decide_eq_false hshift, Bool.false_and, Bool.or_false]

theorem bitAt_packGSM7From (rest : Bytes) : ∀ (pre packed : Bytes),
    (∀ s ∈ rest, s.toNat < 128) → (pre.length + rest.length) * 7 ≤ packed.length * 8 →
    (∀ j, bitAt 8 packed j = bitAt 7 pre j) →
    (packGSM7From pre.length packed rest).length = packed.length ∧
      ∀ j, bitAt 8 (packGSM7From pre.length packed rest) j = bitAt 7 (pre ++ rest) j := by
  induction rest with
  | nil =>
    intro pre packed _ _ hbits
    rw [packGSM7From, append_nil]
    exact ⟨rfl, hbits⟩
  | cons s rest ih =>
    intro pre packed hrest hlen hbits
    obtain ⟨hs, hrest⟩ := forall_mem_cons.mp hrest
    rw [length_cons] at hlen
    have hnext := ih (pre ++ [s]) (packTurn packed pre.length s) hrest
      (by rw [length_packTurn, length_append, length_singleton]; omega)
      (fun j => by rw [bitAt_packTurn hs (by omega), bitAt_concat, hbits])
    rwa [length_packTurn, length_append, length_singleton, append_assoc, singleton_append] at hnext

theorem bitAt_replicate_zero (n j : Nat) : bitAt 8 (replicate n 0) j = false := by
  have hzero : (replicate n (0 : UInt8)).getD (j / 8) 0 = 0 := by
    rw [getD_eq_getElem?_getD, getElem?_replicate]
    split <;> rfl
  rw [bitAt, hzero]
  exact zero_testBit _

theorem packGSM7_bits (h : ∀ s ∈ septets, s.toNat < 128) :
    (packGSM7 septets).1.length = (septets.length * 7 + 7) / 8 ∧
      ∀ j, bitAt 8 (packGSM7 septets).1 j = bitAt 7 septets j := by
  have hpack := bitAt_packGSM7From septets [] (replicate ((septets.length * 7 + 7) / 8) 0) h
    (by rw [length_replicate, length_nil]; omega)
    (fun j => by rw [bitAt_replicate_zero, bitAt_of_length_le (zero_le _)])
  rwa [length_replicate, nil_append] at hpack

/-! ## Unpacking them -/

theorem and_7F_lt (v : UInt8) : (v &&& 0x7F).toNat < 128 := by
  exact lt_succ_of_le and_le_right

theorem testBit_and_7F (v : UInt8) {t : Nat} (ht : t < 7) :
    (v &&& 0x7F).toNat.testBit t = v.toNat.testBit t := by
  have hall : ∀ t < 7, (127 : Nat).testBit t = true := by decide
  rw [UInt8.toNat_and, testBit_and, show (0x7F : UInt8).toNat = 127 from rfl, hall t ht,
    Bool.and_true]

/-- The septet that the loop takes out of the octets in turn `i`. -/
def septetAt (packed : Bytes) (i : Nat) : UInt8 :=
  let v := packed.getD (i * 7 / 8) 0 >>> UInt8.ofNat (i * 7 % 8)
  (if 1 < i * 7 % 8 ∧ i * 7 / 8 + 1 < packed.length then
    v ||| packed.getD (i * 7 / 8 + 1) 0 <<< UInt8.ofNat (8 - i * 7 % 8) else v) &&& 0x7F

theorem run_unpackSeptet (hi : i * 7 / 8 < packed.length) (septets : Bytes) :
    (unpackSeptet packed septets).run i =
      (.ok (.next (septets ++ [septetAt packed i])), i + 1) := by
  simp only [unpackSeptet, septetAt, run_bind, run_get, run_lift, index_of_lt hi,
    getD_eq_getElem _ _ hi]
  split_ifs with hnext
  · rw [run_bind, index_of_lt hnext.2, getD_eq_getElem _ _ hnext.2]
    rfl
  · rfl

-- A septet ends in the octet in which it starts or in the next one, which may be missing.
theorem testBit_septetAt (packed : Bytes) (i : Nat) {t : Nat} (ht : t < 7) :
    (septetAt packed i).toNat.testBit t = bitAt 8 packed (i * 7 + t) := by
  have hmod : i * 7 % 8 < 8 := mod_lt _ (by decide)
  rw [septetAt, testBit_and_7F _ ht]
  rcases Nat.lt_or_ge (i * 7 % 8 + t) 8 with hsame | hover
  · have hfirst : bitAt 8 packed (i * 7 + t) =
        (packed.getD (i * 7 / 8) 0).toNat.testBit (i * 7 % 8 + t) := by
      rw [bitAt, show (i * 7 + t) / 8 = i * 7 / 8 by omega,
        show (i * 7 + t) % 8 = i * 7 % 8 + t by omega]
    rw [hfirst]
    split
    · rw [UInt8.toNat_or, testBit_or, testBit_shiftRight_octet _ hmod,
        testBit_shiftLeft_octet _ (show 8 - i * 7 % 8 < 8 by omega),
        decide_eq_false (show ¬8 - i * 7 % 8 ≤ t by omega)]
      simp
    · rw [testBit_shiftRight_octet _ hmod]
  · have hnone : (packed.getD (i * 7 / 8) 0).toNat.testBit (i * 7 % 8 + t) = false :=
      Nat.testBit_lt_two_pow (Nat.lt_of_lt_of_le (UInt8.toNat_lt _)
        (Nat.pow_le_pow_right Nat.two_pos hover))
    split
    · rw [UInt8.toNat_or, testBit_or, testBit_shiftRight_octet _ hmod, hnone, Bool.false_or,
        testBit_shiftLeft_octet _ (show 8 - i * 7 % 8 < 8 by omega),
        decide_eq_true (show t < 8 by omega), decide_eq_true (show 8 - i * 7 % 8 ≤ t by omega),
        bitAt, show (i * 7 + t) / 8 = i * 7 / 8 + 1 by omega,
        show (i * 7 + t) % 8 = t - (8 - i * 7 % 8) by omega]
      rfl
    · rw [testBit_shiftRight_octet _ hmod, hnone, bitAt_of_length_le (by omega)]

theorem run_unpackLoop {total : Nat} (htotal : total * 7 ≤ packed.length * 8) :
    ∀ (n : Nat) (septets : Bytes), septets.length + n = total →
    ((loop (fun i => decide (i < total)) (unpackSeptet packed) n septets).run
      septets.length).1 = .ok (septets ++ (range' septets.length n).map (septetAt packed)) := by
  intro n
  induction n with
  | zero =>
    intro septets hlen
    rw [run_loop_exit (by simp [← hlen])]
    simp
  | succ n ih =>
    intro septets hlen
    have hlen' : (septets ++ [septetAt packed septets.length]).length = septets.length + 1 := by
      simp
    rw [run_loop_step, run_unpackSeptet (by omega), ← hlen']
    swap
    · exact decide_eq_true (by omega)
    refine (ih _ (by omega)).trans ?_
    rw [hlen', append_assoc, range'_succ]
    rfl

theorem unpackGSM7_eq (packed : Bytes) (spareBits : UInt8) : unpackGSM7 packed spareBits =
    .ok ((range' 0 ((packed.length * 8 - spareBits.toNat) / 7)).map (septetAt packed)) := by
  rw [unpackGSM7]
  split_ifs with hempty
  · rw [hempty, Nat.zero_mul, Nat.zero_sub]
    rfl
  · exact run_unpackLoop (by omega) _ [] (Nat.zero_add _)

theorem map_septetAt_packGSM7 (h : ∀ s ∈ septets, s.toNat < 128) :
    (range' 0 septets.length).map (septetAt (packGSM7 septets).1) = septets := by
  obtain ⟨-, hbits⟩ := packGSM7_bits h
  refine eq_of_bitAt (w := 7) (by simp) ?_ h fun j hj => ?_
  · intro s hs
    obtain ⟨i, -, rfl⟩ := mem_map.mp hs
    exact and_7F_lt _
  · rw [length_map, length_range'] at hj
    have hget : ((range' 0 septets.length).map (septetAt (packGSM7 septets).1)).getD (j / 7) 0 =
        septetAt (packGSM7 septets).1 (j / 7) := by
      rw [getD_eq_getElem _ _ (by simp; omega)]
      simp
    rw [← hbits, bitAt, hget, testBit_septetAt _ _ (mod_lt _ (by decide))]
    congr 1
    omega

theorem unpackGSM7_packGSM7 (h : ∀ s ∈ septets, s.toNat < 128) :
    unpackGSM7 (packGSM7 septets).1 (packGSM7 septets).2 = .ok septets := by
  obtain ⟨hlen, -⟩ := packGSM7_bits h
  -- The unused bits are less than eight, so that they leave room for no septet but these.
  have hspare : (packGSM7 septets).2.toNat =
      (packGSM7 septets).1.length * 8 - septets.length * 7 := by
    rw [hlen, packGSM7, UInt8.toNat_ofNat', mod_eq_of_lt (by omega)]
  have htotal : ((packGSM7 septets).1.length * 8 - (packGSM7 septets).2.toNat) / 7 =
      septets.length := by omega
  rw [unpackGSM7_eq, htotal, map_septetAt_packGSM7 h]

/-! ## The GSM alphabet -/

theorem gsm7Reverse_basicSet :
    ∀ p ∈ gsm7BasicSet, p.2.toNat < 128 ∧ gsm7Reverse p.2 = some p.1 := by
  decide +kernel

theorem gsm7Runes_mapM {text : List Char} : ∀ {septets : Bytes},
    (text.mapM fun r => (gsm7BasicSet.find? fun p => p.1 == r).map Prod.snd) = some septets →
    (∀ s ∈ septets, s.toNat < 128) ∧ gsm7Runes septets = .ok text := by
  induction text with
  | nil =>
    intro septets h
    obtain rfl : [] = septets := Option.some.inj h
    exact ⟨fun _ hs => absurd hs not_mem_nil, rfl⟩
  | cons r text ih =>
    intro septets h
    simp only [mapM_cons, Option.bind_eq_bind, Option.bind_eq_some_iff, Option.map_eq_some_iff,
      Option.pure_def, Option.some.injEq] at h
    obtain ⟨s, ⟨p, hfind, rfl⟩, rest, hrest, rfl⟩ := h
    obtain ⟨hlt, hruns⟩ := ih hrest
    obtain ⟨hs, hback⟩ := gsm7Reverse_basicSet p (mem_of_find?_eq_some hfind)
    obtain rfl : p.1 = r := by simpa using find?_some hfind
    refine ⟨forall_mem_cons.mpr ⟨hs, hlt⟩, ?_⟩
    rw [gsm7Runes, hback, hruns]
    rfl

/-! ## UTF-16 -/

theorem ucs2Units_be16 (hn : n < 65536) (rest : Bytes) :
    ucs2Units (be16 n ++ rest) = UInt16.ofNat n :: ucs2Units rest := by
  have hhigh : UInt8.ofNat (n / 256) = (UInt16.ofNat n >>> 8).toUInt8 := by
    apply UInt8.toNat_inj.mp
    simp only [UInt8.toNat_ofNat', UInt16.toNat_toUInt8, UInt16.toNat_shiftRight,
      UInt16.toNat_ofNat', UInt16.reduceToNat, shiftRight_eq_div_pow, reduceMod, reducePow]
    omega
  have hlow : UInt8.ofNat n = (UInt16.ofNat n).toUInt8 := by
    apply UInt8.toNat_inj.mp
    simp only [UInt8.toNat_ofNat', UInt16.toNat_toUInt8, UInt16.toNat_ofNat']
    omega
  have hunit := beUInt16_octets (UInt16.ofNat n)
  rw [← hhigh, ← hlow] at hunit
  exact congrArg (· :: ucs2Units rest) hunit

theorem utf16Decode_unit {u : UInt16} (h : u < 0xD800 ∨ 0xE000 ≤ u) (units : List UInt16) :
    utf16Decode (u :: units) = Char.ofNat u.toNat :: utf16Decode units := by
  have hunit : utf16Unit u = Char.ofNat u.toNat := by
    rw [utf16Unit, if_neg]
    simp only [UInt16.le_iff_toNat_le, UInt16.lt_iff_toNat_lt, UInt16.reduceToNat] at h ⊢
    omega
  cases units with
  | nil => rw [utf16Decode.eq_2, hunit, utf16Decode.eq_1]
  | cons v units =>
    rw [utf16Decode, hunit, if_neg]
    simp only [UInt16.le_iff_toNat_le, UInt16.lt_iff_toNat_lt, UInt16.reduceToNat] at h ⊢
    omega

theorem utf16Decode_pair (hn : n < 0x100000) (units : List UInt16) :
    utf16Decode (UInt16.ofNat (0xD800 + n / 0x400) :: UInt16.ofNat (0xDC00 + n % 0x400) :: units) =
      Char.ofNat (0x10000 + n) :: utf16Decode units := by
  have hhigh : (UInt16.ofNat (0xD800 + n / 0x400)).toNat = 0xD800 + n / 0x400 := by
    rw [UInt16.toNat_ofNat']
    omega
  have hlow : (UInt16.ofNat (0xDC00 + n % 0x400)).toNat = 0xDC00 + n % 0x400 := by
    rw [UInt16.toNat_ofNat']
    omega
  rw [utf16Decode, if_pos, hhigh, hlow,
    show 0x10000 + (0xD800 + n / 0x400 - 0xD800) * 0x400 + (0xDC00 + n % 0x400 - 0xDC00) =
      0x10000 + n by omega]
  · simp only [UInt16.le_iff_toNat_le, UInt16.lt_iff_toNat_lt, hhigh, hlow, UInt16.reduceToNat]
    omega

def runeOctets (r : Char) : Bytes :=
  if r.toNat < 0x10000 then be16 r.toNat
  else
    let n := r.toNat - 0x10000
    be16 (0xD800 + n / 0x400) ++ be16 (0xDC00 + n % 0x400)

theorem utf16Octets_eq (text : String) : utf16Octets text = text.toList.flatMap runeOctets := rfl

theorem utf16Decode_runeOctets (r : Char) (rest : Bytes) :
    utf16Decode (ucs2Units (runeOctets r ++ rest)) = r :: utf16Decode (ucs2Units rest) := by
  have hvalid : r.toNat < 0xD800 ∨ 0xDFFF < r.toNat ∧ r.toNat < 0x110000 := r.valid
  by_cases hplane : r.toNat < 0x10000
  · have hunit : (UInt16.ofNat r.toNat).toNat = r.toNat := by
      rw [UInt16.toNat_ofNat', mod_eq_of_lt hplane]
    rw [runeOctets, if_pos hplane, ucs2Units_be16 hplane, utf16Decode_unit, hunit, Char.ofNat_toNat]
    simp only [UInt16.le_iff_toNat_le, UInt16.lt_iff_toNat_lt, hunit, UInt16.reduceToNat]
    omega
  · rw [runeOctets, if_neg hplane]
    rw [append_assoc, ucs2Units_be16 (by omega), ucs2Units_be16 (by omega),
      utf16Decode_pair (by omega), show 0x10000 + (r.toNat - 0x10000) = r.toNat by omega,
      Char.ofNat_toNat]

theorem length_runeOctets (r : Char) : (runeOctets r).length % 2 = 0 := by
  rw [runeOctets]
  split <;> simp [be16]

theorem utf16Decode_utf16Octets (text : String) :
    utf16Decode (ucs2Units (utf16Octets text)) = text.toList := by
  rw [utf16Octets_eq]
  induction text.toList with
  | nil => rfl
  | cons r text ih => rw [flatMap_cons, utf16Decode_runeOctets, ih]

theorem length_utf16Octets (text : String) : (utf16Octets text).length % 2 = 0 := by
  rw [utf16Octets_eq]
  induction text.toList with
  | nil => rfl
  | cons r text ih => rw [flatMap_cons, length_append, add_mod, ih, length_runeOctets]

/-! ## The element -/

theorem decodeNetworkName_cons (header : UInt8) (body : Bytes) :
    decodeNetworkName (header :: body) = if (header >>> 4) &&& 0x07 = 0x01 then
        let len := body.length
        if len % 2 ≠ 0 then .err (.new s!"nas: UCS-2 network name has odd length {len}")
        else .ok ⟨(header >>> 4) &&& 0x07, decide (header &&& 0x08 ≠ 0),
          String.ofList (utf16Decode (ucs2Units body))⟩
      else if (header >>> 4) &&& 0x07 = 0x00 then
        unpackGSM7 body (header &&& 0x07) >>= fun septets => gsm7Runes septets >>= fun runes =>
          .ok ⟨(header >>> 4) &&& 0x07, decide (header &&& 0x08 ≠ 0), String.ofList runes⟩
      else
        let codingScheme := (header >>> 4) &&& 0x07
        .err (.new s!"nas: unsupported network name coding scheme {codingScheme}") := rfl

def nameHeader (coding spareBits : UInt8) : UInt8 :=
  let codingBits : UInt8 := (coding &&& 0x07) <<< 4
  0x80 ||| codingBits ||| (spareBits &&& 0x07)

theorem nameHeader_fields (hspare : spareBits.toNat < 8) :
    (nameHeader 0x00 spareBits >>> 4) &&& 0x07 = 0x00 ∧
      nameHeader 0x00 spareBits &&& 0x07 = spareBits := by
  have hall : ∀ n < 8, (nameHeader 0x00 (UInt8.ofNat n) >>> 4) &&& 0x07 = 0x00 ∧
      nameHeader 0x00 (UInt8.ofNat n) &&& 0x07 = UInt8.ofNat n := by decide
  have hback := hall spareBits.toNat hspare
  rwa [UInt8.ofNat_toNat] at hback

theorem spareBits_lt (septets : Bytes) : (packGSM7 septets).2.toNat < 8 := by
  rw [packGSM7, UInt8.toNat_ofNat', mod_eq_of_lt (by omega)]
  omega

/-- What `EncodeNetworkName` writes after the length octet. -/
def nameContents (text : String) : Bytes :=
  match gsm7Septets text with
  | some septets => nameHeader 0x00 (packGSM7 septets).2 :: (packGSM7 septets).1
  | none => nameHeader 0x01 0 :: utf16Octets text

theorem encodeNetworkName_eq (h : text ≠ "") (iei : UInt8) : encodeNetworkName iei text =
      let len := (nameContents text).length
      if 255 < len then .err (.new s!"nas: network name too long: {len} octets")
      else .ok (iei :: UInt8.ofNat len :: nameContents text) := by
  rw [encodeNetworkName, if_neg h, nameContents]
  cases gsm7Septets text <;> rfl

theorem encodeNetworkName_ok {iei : UInt8} {b : Bytes} (h : encodeNetworkName iei text = .ok b) :
    text ≠ "" ∧ (nameContents text).length ≤ 255 ∧
      b = iei :: UInt8.ofNat (nameContents text).length :: nameContents text := by
  by_cases hempty : text = ""
  · rw [encodeNetworkName, if_pos hempty] at h
    exact nomatch h
  · rw [encodeNetworkName_eq hempty] at h
    dsimp only at h
    split at h
    · exact nomatch h
    · exact ⟨hempty, by omega, (ok.inj h).symm⟩

theorem decodeNetworkName_nameContents (text : String) :
    ∃ n, decodeNetworkName (nameContents text) = .ok n ∧ n.text = text := by
  rw [nameContents]
  cases hseptets : gsm7Septets text with
  | some septets =>
    obtain ⟨hlt, hrunes⟩ := gsm7Runes_mapM hseptets
    obtain ⟨hscheme, hbits⟩ := nameHeader_fields (spareBits_lt septets)
    refine ⟨⟨0x00, decide (nameHeader 0x00 (packGSM7 septets).2 &&& 0x08 ≠ 0), text⟩, ?_, rfl⟩
    rw [decodeNetworkName_cons, hscheme, hbits, if_neg (by decide), if_pos rfl,
      unpackGSM7_packGSM7 hlt, ok_bind, hrunes, ok_bind, String.ofList_toList]
  | none =>
    refine ⟨⟨0x01, false, text⟩, ?_, rfl⟩
    rw [decodeNetworkName_cons, if_pos (by decide)]
    rw [if_neg (not_not.mpr (length_utf16Octets text)), utf16Decode_utf16Octets,
      String.ofList_toList]
    rfl

/-- Whatever name is written is read back as it was, and a name that no contents of at most 255
octets stand for is rejected. -/
theorem networkName_readBack (iei : UInt8) (text : String) :
    (∀ b, encodeNetworkName iei text = .ok b →
      ∃ (contents : Bytes) (n : NetworkName), b = iei :: UInt8.ofNat contents.length :: contents ∧
        contents.length ≤ 255 ∧ decodeNetworkName contents = .ok n ∧ n.text = text) ∧
    ((∀ (contents : Bytes) (n : NetworkName), contents.length ≤ 255 →
        decodeNetworkName contents = .ok n → n.text ≠ text) →
      ∃ e, encodeNetworkName iei text = .err e) := by
  obtain ⟨n, hdecode, htext⟩ := decodeNetworkName_nameContents text
  constructor
  · intro b hb
    obtain ⟨-, hlen, rfl⟩ := encodeNetworkName_ok hb
    exact ⟨_, n, rfl, hlen, hdecode, htext⟩
  · intro hnone
    by_cases hempty : text = ""
    · exact ⟨_, if_pos hempty⟩
    · have hlong : 255 < (nameContents text).length := by
        by_contra hfits
        exact hnone _ n (by omega) hdecode htext
      exact ⟨_, (encodeNetworkName_eq hempty iei).trans (if_pos hlong)⟩

theorem length_gsm7Runes : ∀ {runes : List Char},
    gsm7Runes septets = .ok runes → runes.length = septets.length := by
  induction septets with
  | nil =>
    intro runes h
    obtain rfl : [] = runes := ok.inj h
    rfl
  | cons s septets ih =>
    intro runes h
    rw [gsm7Runes] at h
    split at h
    · cases h
    · obtain ⟨rest, hrest, hcons⟩ := bind_eq_ok.mp h
      obtain rfl := ok.inj hcons
      rw [length_cons, length_cons, ih hrest]

theorem length_utf16Decode (units : List UInt16) : (utf16Decode units).length ≤ units.length := by
  fun_induction utf16Decode units with
  | case1 | case2 u => exact Nat.le_refl _
  | case3 u v rest _ ih =>
    simp only [length_cons]
    omega
  | case4 u v rest _ ih =>
    simp only [length_cons] at ih ⊢
    omega

theorem length_ucs2Units (body : Bytes) : (ucs2Units body).length ≤ body.length := by
  fun_induction ucs2Units body with
  | case1 hi lo rest ih =>
    simp only [length_cons]
    omega
  | case2 => exact zero_le _

theorem length_unpackGSM7 (h : unpackGSM7 packed spareBits = .ok septets) :
    septets.length * 7 ≤ packed.length * 8 := by
  rw [unpackGSM7_eq] at h
  obtain rfl := ok.inj h
  rw [length_map, length_range']
  omega

theorem length_text_le {contents : Bytes} {n : NetworkName}
    (h : decodeNetworkName contents = .ok n) : n.text.toList.length * 7 ≤ contents.length * 8 := by
  cases contents with
  | nil => exact nomatch h
  | cons header body =>
    rw [decodeNetworkName_cons] at h
    split at h
    · dsimp only at h
      split at h
      · exact nomatch h
      · obtain rfl := ok.inj h
        have hdecode := length_utf16Decode (ucs2Units body)
        have hunits := length_ucs2Units body
        rw [String.toList_ofList, length_cons]
        omega
    · split at h
      · obtain ⟨septets, hseptets, h⟩ := bind_eq_ok.mp h
        obtain ⟨runes, hrunes, h⟩ := bind_eq_ok.mp h
        obtain rfl := ok.inj h
        have hlen := length_unpackGSM7 hseptets
        rw [String.toList_ofList, length_gsm7Runes hrunes, length_cons]
        omega
      · exact nomatch h

/-- Thirteen septets, with five unused bits in the last octet, and three hundred, which are too
many. -/
theorem networkName_readBack_lab :
    (∃ (contents : Bytes) (n : NetworkName), encodeNetworkName 0x43 "ClaudIA+OCUDU" =
        .ok (0x43 :: UInt8.ofNat contents.length :: contents) ∧
      contents.length ≤ 255 ∧ decodeNetworkName contents = .ok n ∧ n.text = "ClaudIA+OCUDU") ∧
    ∃ e, encodeNetworkName 0x43 (String.ofList (replicate 300 'A')) = .err e := by
  constructor
  · have hok : encodeNetworkName 0x43 "ClaudIA+OCUDU" =
        .ok [0x43, 13, 0x85, 67, 118, 184, 78, 78, 6, 87, 207, 97, 149, 88, 5] := by
      decide +kernel
    obtain ⟨contents, n, hb, hlen, hdecode, htext⟩ :=
      (networkName_readBack 0x43 "ClaudIA+OCUDU").1 _ hok
    exact ⟨contents, n, hb ▸ hok, hlen, hdecode, htext⟩
  · refine (networkName_readBack 0x43 _).2 fun contents n hlen hdecode htext => ?_
    have hroom := length_text_le hdecode
    rw [htext, String.toList_ofList, length_replicate] at hroom
    omega

end Claudia5gc.Nas
