import Claudia5gc.Amf.NasHandler
import Claudia5gc.Crypto.Suci

/-!
# The SUCI on its way to the UDM

The AMF renders a SUCI as text for the AUSF, which hands it on to the UDM, and the UDM parses it.
The text has no place for the identifier of the home network's public key and a constant in that of
the SUPI format.
-/

namespace Claudia5gc.Amf

open Go Nas Crypto.Suci Outcome List

/-! ## The characters of the fields -/

section Fields

variable {b : Bytes} {s : SUCIMobileIdentity}

theorem sprintDigits_spec {ds : List UInt8} (h : ∀ d ∈ ds, d.toNat < 16) :
    '-' ∉ (sprintDigits ds).toList ∧ ds.length ≤ (sprintDigits ds).toList.length := by
  have hall : ∀ n < 16, '-' ∉ (toString n).toList ∧ 1 ≤ (toString n).toList.length := by decide
  rw [sprintDigits, String.toList_join]
  induction ds with
  | nil => simp
  | cons d ds ih =>
    obtain ⟨hhyphen, hlength⟩ := hall d.toNat (h d mem_cons_self)
    obtain ⟨hrest, hle⟩ := ih fun e he => h e (mem_cons_of_mem _ he)
    simp only [map_cons, flatMap_cons, mem_append, length_append, length_cons]
    exact ⟨fun hmem => hmem.elim hhyphen hrest, by omega⟩

theorem hyphen_decodeRoutingIndicator (b : Bytes) : '-' ∉ (decodeRoutingIndicator b).toList := by
  have hall : ∀ n < 16, Char.ofNat (0x30 + n) ≠ '-' := by decide
  unfold decodeRoutingIndicator
  dsimp only
  split
  · decide
  · rw [asciiDigits, String.toList_ofList]
    intro hmem
    obtain ⟨d, hd, hchar⟩ := mem_map.mp hmem
    have hnibble := mem_flatMap.mp (takeWhile_subset _ hd)
    obtain ⟨byt, -, hd⟩ := hnibble
    refine hall d.toNat ?_ hchar
    rcases mem_pair.mp hd with rfl | rfl <;>
      exact Nat.lt_succ_of_le Nat.and_le_right

theorem decodeMCCMNC_spec {mcc mnc : String} (h : decodeMCCMNC b = .ok (mcc, mnc)) :
    '-' ∉ mcc.toList ∧ '-' ∉ mnc.toList ∧ 2 ≤ mnc.toList.length := by
  obtain ⟨d0, -, h⟩ := bind_eq_ok.mp h
  obtain ⟨d1, -, h⟩ := bind_eq_ok.mp h
  obtain ⟨d2, -, h⟩ := bind_eq_ok.mp h
  obtain ⟨rfl, rfl⟩ := Prod.mk.inj (ok.inj h)
  have hnibbles : ∀ ds : List UInt8, ∀ d ∈ ds.map (· &&& 0x0F), d.toNat < 16 := by
    intro ds d hd
    obtain ⟨x, -, rfl⟩ := mem_map.mp hd
    exact Nat.lt_succ_of_le Nat.and_le_right
  refine ⟨(sprintDigits_spec (hnibbles [d0, d0 >>> 4, d1])).1, ?_⟩
  split
  · exact sprintDigits_spec (hnibbles [d2, d2 >>> 4])
  · obtain ⟨hhyphen, hlength⟩ := sprintDigits_spec (hnibbles [d2, d2 >>> 4, d1 >>> 4])
    exact ⟨hhyphen, Nat.le_of_succ_le hlength⟩

theorem decodeSUCI_spec (h : decodeSUCI b = .ok s) :
    ('-' ∉ s.mcc.toList ∧ '-' ∉ s.mnc.toList ∧ 2 ≤ s.mnc.toList.length) ∧
      '-' ∉ s.routingIndicator.toList ∧ s.protectionSchemeID.toNat < 16 := by
  unfold decodeSUCI at h
  split at h
  · cases h
  · obtain ⟨b0, -, h⟩ := bind_eq_ok.mp h
    obtain ⟨plmn, -, h⟩ := bind_eq_ok.mp h
    obtain ⟨⟨mcc, mnc⟩, hplmn, h⟩ := bind_eq_ok.mp h
    obtain ⟨routing, -, h⟩ := bind_eq_ok.mp h
    obtain ⟨b6, -, h⟩ := bind_eq_ok.mp h
    obtain ⟨b7, -, h⟩ := bind_eq_ok.mp h
    obtain ⟨output, -, h⟩ := bind_eq_ok.mp h
    obtain rfl := ok.inj h
    exact ⟨decodeMCCMNC_spec hplmn, hyphen_decodeRoutingIndicator routing,
      Nat.lt_succ_of_le Nat.and_le_right⟩

theorem decodeMobileIdentity_suci {mi : MobileIdentity} (h : decodeMobileIdentity b = .ok mi)
    (hsuci : mi.suci = some s) : mi.type = mobileIdentitySUCI ∧ decodeSUCI b = .ok s := by
  cases b with
  | nil => cases h
  | cons b0 r =>
    rw [decodeMobileIdentity_cons] at h
    split at h
    · rename_i htype
      obtain ⟨s', hs', h⟩ := bind_eq_ok.mp h
      obtain rfl := ok.inj h
      obtain rfl := Option.some.inj hsuci
      exact ⟨htype, hs'⟩
    · split at h
      · obtain ⟨guti, -, h⟩ := bind_eq_ok.mp h
        obtain rfl := ok.inj h
        cases hsuci
      · split at h
        · obtain rfl := ok.inj h
          cases hsuci
        · obtain rfl := ok.inj h
          cases hsuci

end Fields

/-! ## The text -/

def parsedSUCI (s : SUCIMobileIdentity) : SUCI where
  supiFormat := 0
  mcc := s.mcc
  mnc := s.mnc
  routingIndicator := s.routingIndicator
  protectionScheme := s.protectionSchemeID
  homeNetworkPublicKeyID := 0
  schemeOutput := s.schemeOutput

theorem parseSUCIString_suciText {b : Bytes} {s : SUCIMobileIdentity} (h : decodeSUCI b = .ok s)
    (hmcc : s.mcc.toList.length = 3) (hmnc : s.mnc.toList.length ≤ 3) :
    parseSUCIString (suciText s) = .ok (parsedSUCI s) := by
  obtain ⟨⟨hmcc', hmnc', htwo⟩, hrouting, hscheme⟩ := decodeSUCI_spec h
  have hdecimal : ∀ n < 16, '-' ∉ (toString n).toList ∧ parseUint8 (toString n).toList = .ok n := by
    decide
  obtain ⟨hpsi', hpsi⟩ := hdecimal _ hscheme
  have htext : (suciText s).toList = "suci".toList ++ '-' :: ((s.mcc.toList ++ s.mnc.toList) ++
      '-' :: (s.routingIndicator.toList ++ '-' :: (['0'] ++
        '-' :: ((toString s.protectionSchemeID.toNat).toList ++
          '-' :: (hexEncode s.schemeOutput).toList)))) := by
    simp [suciText, String.toList_append]
  have hfields : splitN '-' 6 (suciText s).toList = ["suci".toList, s.mcc.toList ++ s.mnc.toList,
      s.routingIndicator.toList, ['0'], (toString s.protectionSchemeID.toNat).toList,
      (hexEncode s.schemeOutput).toList] := by
    rw [htext, splitN_append (by decide), splitN_append (by simp [hmcc', hmnc']),
      splitN_append hrouting, splitN_append (by decide), splitN_append hpsi', splitN]
  have hhex : hexDecodeChars (hexEncode s.schemeOutput).toList = (s.schemeOutput, false) :=
    hexDecode_hexEncode s.schemeOutput
  have hlen : ¬((s.mcc.toList ++ s.mnc.toList).length < 5 ∨
      6 < (s.mcc.toList ++ s.mnc.toList).length) := by
    rw [length_append]
    omega
  unfold parseSUCIString
  rw [if_neg (by rw [htext]; simp), hfields]
  dsimp only
  rw [if_neg hlen, hpsi]
  rw [hhex]
  dsimp only
  rw [take_left' hmcc, drop_left' hmcc, String.ofList_toList, String.ofList_toList,
    String.ofList_toList, UInt8.ofNat_toNat]
  rfl

/-- A SUCI that decodes is rendered in the same way in a Registration Request and in an Identity
Response, and the UDM reads all of it from the text but the SUPI format and the identifier of the
key. -/
theorem suci_reaches_udm {b : Bytes} {mi : MobileIdentity} {s : SUCIMobileIdentity}
    (h : decodeMobileIdentity b = .ok mi) (hsuci : mi.suci = some s)
    (hmcc : s.mcc.toList.length = 3) (hmnc : s.mnc.toList.length ≤ 3) :
    ∃ text, (∀ rr : RegistrationRequest, rr.mobileIdentity = mi → extractIdentity rr = text) ∧
      (∀ cfg env ue (r : IdentityResponse), r.mobileIdentity = mi →
        Handler.handleIdentityResponse cfg env ue r = do
          let authReq ← (Handler.phase1AuthenticateWithSUCI cfg env ue text).wrapErr
            "registration phase1 (suci)"
          Handler.sendPlainViaDownlink env ue (.authenticationRequest authReq)) ∧
      parseSUCIString text = .ok (parsedSUCI s) := by
  obtain ⟨htype, hdecode⟩ := decodeMobileIdentity_suci h hsuci
  refine ⟨suciText s, ?_, ?_, parseSUCIString_suciText hdecode hmcc hmnc⟩
  · rintro rr rfl
    rw [extractIdentity, if_pos htype, hsuci]
    rfl
  · rintro cfg env ue r rfl
    rw [Handler.handleIdentityResponse, hsuci]
    exact if_neg (not_not.mpr htype)

def fifthKeySUCI : Bytes := [0x09, 0x00, 0xF1, 0x10, 0x00, 0x00, 0x01, 0x05, 0xAB]

/-- Its MCC, MNC, routing indicator, scheme and scheme output reach the UDM. -/
theorem suci_reaches_udm_fifthKey : ∃ mi s text, decodeMobileIdentity fifthKeySUCI = .ok mi ∧
    mi.suci = some s ∧ parseSUCIString text = .ok (parsedSUCI s) ∧ s.mcc = "001" ∧
    s.mnc = "01" := by
  have hdecode : decodeMobileIdentity fifthKeySUCI =
      .ok { type := 1, suci := some ⟨1, "001", "01", "0000", 1, 5, [0xAB]⟩ } := by decide
  obtain ⟨text, -, -, hparse⟩ := suci_reaches_udm hdecode rfl (by decide) (by decide)
  exact ⟨_, _, text, hdecode, rfl, hparse, rfl, rfl⟩

/-- The UDM reads another SUPI format and another key, and of an MCC whose first digit is ten it
takes the last character for the MNC. -/
theorem suci_not_preserved :
    (∃ s u, decodeSUCI fifthKeySUCI = .ok s ∧ parseSUCIString (suciText s) = .ok u ∧
      s.supiFormat = 1 ∧ u.supiFormat = 0 ∧ s.homeNetworkPublicKeyID = 5 ∧
      u.homeNetworkPublicKeyID = 0) ∧
    ∃ s u, decodeSUCI [0x01, 0x1A, 0xF2, 0x43, 0x00, 0x00, 0x00, 0x00] = .ok s ∧
      parseSUCIString (suciText s) = .ok u ∧ s.mcc = "1012" ∧ u.mcc = "101" ∧ s.mnc = "34" ∧
      u.mnc = "234" := by
  exact ⟨⟨_, _, rfl, rfl, by decide⟩, ⟨_, _, rfl, rfl, by decide⟩⟩

end Claudia5gc.Amf
