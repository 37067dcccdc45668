import Claudia5gc.Amf.Session
import Claudia5gc.Nas.UplinkTransport

/-!
# A slice that the UE sends back

The slice differentiator goes through four forms between the subscription and the request of the UE:
a string of hexadecimal digits, a number, three octets, and a string again.  The last one is
compared with the first, letter by letter.
-/

namespace Claudia5gc.Amf

open Go Nas List

/-! ## The forms of an SD -/

/-- No SD, or six digits as `%06x` writes them that do not mean that there is none. -/
def CanonicalSD (sd : String) : Prop :=
  sd = "" ∨ (sd.toList.length = 6 ∧ (∀ c ∈ sd.toList, c ∈ lowerHexDigits) ∧ sd ≠ "ffffff")

instance (sd : String) : Decidable (CanonicalSD sd) :=
  -- The characters of the SD are looked at, not those of `Char`.
  have : Decidable (∀ c ∈ sd.toList, c ∈ lowerHexDigits) := decidableBAll _ _
  inferInstanceAs (Decidable (_ ∨ _))

variable (e : SNSSAISubscribed)

def echo : SNSSAITransport where
  sst := e.sst
  sd := if nasSD e.sd = sdNotPresent then none else some (nasSD e.sd)

theorem nasSD_lt (sd : String) : (nasSD sd).toNat < 16777216 := by
  unfold nasSD
  split
  · split
    · next b0 b1 b2 _ =>
      have h0 : b0.toNat < 256 := b0.toNat_lt
      have h1 : b1.toNat < 256 := b1.toNat_lt
      have h2 : b2.toNat < 256 := b2.toNat_lt
      rw [toNat_sdOfBytes]
      omega
    · decide
  · decide

theorem exists_six {l : List Char} (hlen : l.length = 6) :
    ∃ c0 c1 c2 c3 c4 c5, l = [c0, c1, c2, c3, c4, c5] := by
  match l, hlen with
  | [c0, c1, c2, c3, c4, c5], _ => exact ⟨c0, c1, c2, c3, c4, c5, rfl⟩

theorem nasSD_of_digits {sd : String} {d0 d1 d2 d3 d4 d5 : Nat}
    (h0 : d0 < 16) (h1 : d1 < 16) (h2 : d2 < 16) (h3 : d3 < 16) (h4 : d4 < 16) (h5 : d5 < 16)
    (hsd : sd.toList =
      [hexDigit d0, hexDigit d1, hexDigit d2, hexDigit d3, hexDigit d4, hexDigit d5]) :
    (nasSD sd).toNat = d0 * 1048576 + d1 * 65536 + d2 * 4096 + d3 * 256 + d4 * 16 + d5 := by
  have hsize : sd.utf8ByteSize = 6 := by
    rw [← String.ofList_toList (s := sd), hsd, utf8ByteSize_ofList_digits]
    · rfl
    · simp [hexDigit_mem]
  have hne : sd ≠ "" := by
    intro h
    rw [h] at hsize
    cases hsize
  have hdecode : hexDecode sd =
      ([UInt8.ofNat (d0 * 16 + d1), UInt8.ofNat (d2 * 16 + d3), UInt8.ofNat (d4 * 16 + d5)],
        false) := by
    simp only [hexDecode, hsd, hexDecodeChars, fromHexChar_hexDigit _ h0,
      fromHexChar_hexDigit _ h1, fromHexChar_hexDigit _ h2, fromHexChar_hexDigit _ h3,
      fromHexChar_hexDigit _ h4, fromHexChar_hexDigit _ h5]
  rw [nasSD, if_pos ⟨hne, hsize⟩, hdecode]
  simp only [toNat_sdOfBytes, UInt8.toNat_ofNat']
  omega

theorem sprint06x_nasSD {sd : String} (hlen : sd.toList.length = 6)
    (hdigits : ∀ c ∈ sd.toList, c ∈ lowerHexDigits) : sprint06x (nasSD sd) = sd := by
  obtain ⟨c0, c1, c2, c3, c4, c5, hsd⟩ := exists_six hlen
  rw [hsd] at hdigits
  simp only [forall_mem_cons] at hdigits
  obtain ⟨hc0, hc1, hc2, hc3, hc4, hc5, -⟩ := hdigits
  obtain ⟨d0, h0, rfl⟩ := exists_hexDigit c0 hc0
  obtain ⟨d1, h1, rfl⟩ := exists_hexDigit c1 hc1
  obtain ⟨d2, h2, rfl⟩ := exists_hexDigit c2 hc2
  obtain ⟨d3, h3, rfl⟩ := exists_hexDigit c3 hc3
  obtain ⟨d4, h4, rfl⟩ := exists_hexDigit c4 hc4
  obtain ⟨d5, h5, rfl⟩ := exists_hexDigit c5 hc5
  have hn := nasSD_of_digits h0 h1 h2 h3 h4 h5 hsd
  apply String.toList_inj.mp
  rw [toList_sprint06x (nasSD_lt sd), hn, hsd]
  simp only [cons.injEq, and_true]
  refine ⟨hexDigit_congr ?_, hexDigit_congr ?_, hexDigit_congr ?_, hexDigit_congr ?_,
    hexDigit_congr ?_, hexDigit_congr ?_⟩
  all_goals omega

theorem requestedSNSSAI_echo_iff : (requestedSNSSAI (echo e)).sd = e.sd ↔ CanonicalSD e.sd := by
  have hlt := nasSD_lt e.sd
  unfold requestedSNSSAI echo
  by_cases hnone : nasSD e.sd = sdNotPresent
  · rw [if_pos hnone]
    constructor
    · intro h
      exact .inl h.symm
    · intro h
      rcases h with h | ⟨hlen, hdigits, hne⟩
      · exact h.symm
      · have hwritten := sprint06x_nasSD hlen hdigits
        rw [hnone] at hwritten
        exact absurd hwritten.symm hne
  · rw [if_neg hnone]
    show sprint06x (nasSD e.sd) = e.sd ↔ _
    constructor
    · intro h
      have hlist := toList_sprint06x hlt
      rw [h] at hlist
      refine .inr ⟨by rw [hlist]; rfl, ?_, ?_⟩
      · rw [hlist]
        simp [hexDigit_mem]
      · intro hsd
        rw [hsd] at hnone
        exact hnone (by decide)
    · intro h
      rcases h with h | ⟨hlen, hdigits, hne⟩
      · rw [h] at hnone
        exact absurd rfl hnone
      · exact sprint06x_nasSD hlen hdigits

/-! ## The way there and back -/

theorem encodeNSSAI_buildAllowedNSSAI_singleton :
    encodeNSSAI (buildAllowedNSSAI [e]) = encodeSNSSAITransport (echo e) := by
  show encodeSNSSAILV ⟨e.sst, nasSD e.sd⟩ ++ [] = _
  rw [append_nil, encodeSNSSAILV, encodeSNSSAITransport, echo]
  by_cases hnone : nasSD e.sd = sdNotPresent
  · rw [if_pos hnone, if_pos hnone]
    rfl
  · rw [if_neg hnone, if_neg hnone]
    rfl

theorem encodeNSSAI_buildAllowedNSSAI_append (before after : List SNSSAISubscribed) :
    encodeNSSAI (buildAllowedNSSAI (before ++ after)) =
      encodeNSSAI (buildAllowedNSSAI before) ++ encodeNSSAI (buildAllowedNSSAI after) := by
  rw [buildAllowedNSSAI, map_append, encodeNSSAI, flatMap_append]
  rfl

theorem threeOctets_echo : (echo e).threeOctets = echo e := by
  have hmod : nasSD e.sd % 16777216 = nasSD e.sd := by
    apply UInt32.toNat_inj.mp
    exact Nat.mod_eq_of_lt (nasSD_lt e.sd)
  unfold SNSSAITransport.threeOctets echo
  split <;> simp [hmod]

def ResolvesTo (allowed : List SNSSAISubscribed) (e : SNSSAISubscribed) (body : Bytes) : Prop :=
  ∃ t a, decodeULNASTransport body = .ok t ∧
    resolveSessionSNSSAI t.snssai allowed = some a ∧ a.sst = e.sst ∧ a.sd = e.sd

theorem resolveSessionSNSSAI_echo_iff {allowed : List SNSSAISubscribed} {e : SNSSAISubscribed}
    (he : e ∈ allowed) :
    (∃ a, resolveSessionSNSSAI (some (echo e)) allowed = some a ∧ a.sst = e.sst ∧
      a.sd = e.sd) ↔ CanonicalSD e.sd := by
  have hsame : ∀ a : SNSSAISubscribed, sameSubscribed a (requestedSNSSAI (echo e)) = true ↔
      a.sst = e.sst ∧ a.sd = (requestedSNSSAI (echo e)).sd := by
    intro a
    rw [sameSubscribed, Bool.and_eq_true, decide_eq_true_eq, decide_eq_true_eq]
    rfl
  rw [← requestedSNSSAI_echo_iff]
  unfold resolveSessionSNSSAI
  constructor
  · intro h
    obtain ⟨a, hresolved, -, hsd⟩ := h
    dsimp only at hresolved
    split at hresolved
    · next a' hfind =>
      have hmatch := find?_some hfind
      have hfound := (hsame a').mp hmatch
      rw [Option.some.injEq] at hresolved
      rw [← hfound.2, hresolved, hsd]
    · rw [if_pos (ne_nil_of_mem he)] at hresolved
      cases hresolved
  · intro hsd
    have hfind : (allowed.find? fun a => sameSubscribed a (requestedSNSSAI (echo e))).isSome :=
      find?_isSome.mpr ⟨e, he, (hsame e).mpr ⟨rfl, hsd.symm⟩⟩
    obtain ⟨a, ha⟩ := Option.isSome_iff_exists.mp hfind
    have hmatch := find?_some ha
    have hfound := (hsame a).mp hmatch
    refine ⟨a, ?_, hfound.1, hfound.2.trans hsd⟩
    dsimp only
    rw [ha]

/-- Of an Allowed NSSAI with the entry `e` the UE sends back the octets that stand for `e`.
The request is accepted, with the slice of `e`, exactly when the SD of `e` is canonical. -/
theorem echoed_slice_resolves_iff (before after : List SNSSAISubscribed)
    (e : SNSSAISubscribed) (msg : ULNASTransport) (octets : Bytes) (hmsg : msg.Encodable)
    (hoctets : encodeNSSAI (buildAllowedNSSAI (before ++ e :: after)) =
      encodeNSSAI (buildAllowedNSSAI before) ++ (octets ++ encodeNSSAI (buildAllowedNSSAI after))) :
    ResolvesTo (before ++ e :: after) e (ulNASTransportOctets msg (some octets)) ↔
      CanonicalSD e.sd := by
  have hmem : e ∈ before ++ e :: after := mem_append_right _ mem_cons_self
  have hocts : octets = encodeSNSSAITransport (echo e) := by
    have hsplit : encodeNSSAI (buildAllowedNSSAI (e :: after)) =
        encodeNSSAI (buildAllowedNSSAI [e]) ++ encodeNSSAI (buildAllowedNSSAI after) :=
      encodeNSSAI_buildAllowedNSSAI_append [e] after
    rw [encodeNSSAI_buildAllowedNSSAI_append, hsplit,
      encodeNSSAI_buildAllowedNSSAI_singleton] at hoctets
    exact (append_cancel_right (append_cancel_left hoctets)).symm
  have hdecode : decodeULNASTransport (ulNASTransportOctets msg (some octets)) =
      .ok ({ msg with snssai := some (echo e) } : ULNASTransport).readBack := by
    have hecho : ({ msg with snssai := some (echo e) } : ULNASTransport).Encodable := hmsg
    rw [hocts]
    exact decodeULNASTransport_octets hecho
  have hsnssai : ({ msg with snssai := some (echo e) } : ULNASTransport).readBack.snssai =
      some (echo e) := congrArg some (threeOctets_echo e)
  rw [← resolveSessionSNSSAI_echo_iff hmem, ResolvesTo, hdecode]
  constructor
  · intro ⟨t, a, ht, hresolved, hslice⟩
    rw [Outcome.ok.injEq] at ht
    rw [← ht, hsnssai] at hresolved
    exact ⟨a, hresolved, hslice⟩
  · intro ⟨a, hresolved, hslice⟩
    refine ⟨_, a, rfl, ?_, hslice⟩
    rw [hsnssai]
    exact hresolved

def sessionRequest : ULNASTransport where
  payloadContainerType := 1
  payloadContainer := [0x2E, 0x05, 0x01, 0xC1, 0xFF, 0xFF]
  pduSessionID := some 5
  requestType := some 1
  dnn := some [0x08, 0x69, 0x6E, 0x74, 0x65, 0x72, 0x6E, 0x65, 0x74]

theorem echoed_slice_resolves_00000a :
    ResolvesTo [{ sst := 1, sd := "" }, { sst := 1, sd := "00000a" }]
      { sst := 1, sd := "00000a" }
      (ulNASTransportOctets sessionRequest (some [4, 1, 0, 0, 0x0A])) :=
  (echoed_slice_resolves_iff [{ sst := 1, sd := "" }] [] { sst := 1, sd := "00000a" }
    sessionRequest [4, 1, 0, 0, 0x0A] (by decide) (by decide)).mpr (by decide)

/-- An SD with a digit in upper case comes back in lower case and is refused. -/
theorem echoed_slice_refused :
    ¬∀ (before after : List SNSSAISubscribed) (e : SNSSAISubscribed) (msg : ULNASTransport)
      (octets : Bytes), msg.Encodable → encodeNSSAI (buildAllowedNSSAI (before ++ e :: after)) =
        encodeNSSAI (buildAllowedNSSAI before) ++ (octets ++
          encodeNSSAI (buildAllowedNSSAI after)) →
      ResolvesTo (before ++ e :: after) e (ulNASTransportOctets msg (some octets)) := by
  intro h
  obtain ⟨t, a, ht, hresolved, -⟩ := h [] [] { sst := 1, sd := "00000A" } sessionRequest
    [4, 1, 0, 0, 0x0A] (by decide) (by decide)
  have hdecode : decodeULNASTransport
      (ulNASTransportOctets sessionRequest (some [4, 1, 0, 0, 0x0A])) = .ok { sessionRequest with
        snssai := some ⟨1, some 10⟩
        dnn := some [0x69, 0x6E, 0x74, 0x65, 0x72, 0x6E, 0x65, 0x74] } := by
    decide +kernel
  rw [hdecode, Outcome.ok.injEq] at ht
  rw [← ht] at hresolved
  have hrefused : resolveSessionSNSSAI (some ⟨1, some 10⟩) [{ sst := 1, sd := "00000A" }] =
      none := by
    decide +kernel
  exact absurd (hrefused.symm.trans hresolved) nofun

end Claudia5gc.Amf
