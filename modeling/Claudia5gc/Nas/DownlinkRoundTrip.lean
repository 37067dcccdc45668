import Claudia5gc.Nas.ElementRoundTrip

/-!
# Downlink messages, written and read back

The messages of the AMF through `Encode` and `Decode`.  Each encoder appends its optional elements
in a fixed order, and each decoder takes them in any order; the proofs follow the encoder, one
optional element after the other, whatever is left out.
-/

namespace Claudia5gc.Nas

open Go MobileIdentity RegistrationAccept SNSSAI List

def plainHeader (type : MessageType) : Header :=
  { extendedProtocolDiscriminator := 0x7E, securityHeaderType := 0x00, messageType := type }

theorem decode_plain (type : MessageType) (b : Bytes) :
    decode ([0x7E, 0x00, type] ++ b) = decodeBody (plainHeader type) b := by
  simp [decode, sliceFrom, plainHeader, show ¬b.length + 1 + 1 + 1 < 3 by omega]

/-! ## Registration Accept -/

structure RegistrationAccept.Fits (m : RegistrationAccept) : Prop where
  guti : ∀ g ∈ m.fiveGGUTI.bind guti, g.WellFormed
  taiList : m.taiList.length ≤ 255
  allowedNSSAI : ∀ n ∈ m.allowedNSSAI, NSSAI.WellFormed n ∧ (encodeNSSAI n).length ≤ 255
  configuredNSSAI : ∀ n ∈ m.configuredNSSAI, NSSAI.WellFormed n ∧ (encodeNSSAI n).length ≤ 255
  networkFeatureSupport : m.networkFeatureSupport.length ≤ 255

def registrationAcceptIEs (ra : RegistrationAccept) : Bytes :=
  (if ra.taiList ≠ [] then tlv 0x54 ra.taiList else []) ++
  (optionalIE (fun n => tlv 0x15 (encodeNSSAI n)) ra.allowedNSSAI ++
  (optionalIE (fun n => tlv 0x31 (encodeNSSAI n)) ra.configuredNSSAI ++
  ((if ra.networkFeatureSupport ≠ [] then tlv 0x21 ra.networkFeatureSupport else []) ++
  optionalIE (fun v => [0x5E, 0x01, v]) ra.t3512Value)))

theorem encodeRegistrationAccept_eq (ra : RegistrationAccept) : encodeRegistrationAccept ra = (do
      let guti ← encodeGUTIElement ra.fiveGGUTI
      return [0x01, ra.registrationResult] ++ (guti ++ registrationAcceptIEs ra)) := by
  obtain ⟨result, guti, tai, allowed, configured, nfs, t3512⟩ := ra
  cases allowed <;> cases configured <;> cases t3512 <;>
    simp only [encodeRegistrationAccept, registrationAcceptIEs, optionalIE, append_assoc]

theorem readsTo_registrationAcceptIEs {m : RegistrationAccept} (htai : m.taiList.length ≤ 255)
    (hallowed : ∀ n ∈ m.allowedNSSAI, (encodeNSSAI n).length ≤ 255)
    (hconfigured : ∀ n ∈ m.configuredNSSAI, (encodeNSSAI n).length ≤ 255)
    (hnfs : m.networkFeatureSupport.length ≤ 255) (guti : Option MobileIdentity) :
    ReadsTo registrationAcceptIE ⟨m.registrationResult, guti, [], none, none, [], none⟩
      (registrationAcceptIEs m) { m with
        fiveGGUTI := guti
        allowedNSSAI := m.allowedNSSAI.map (map threeOctets)
        configuredNSSAI := m.configuredNSSAI.map (map threeOctets) } [] := by
  obtain ⟨result, _, tai, allowed, configured, nfs, t3512⟩ := m
  rw [registrationAcceptIEs, ← append_nil (optionalIE _ t3512)]
  refine Proc.Reaches.trans (ReadsTo.nonzero
    (k := fun tai => mk result guti tai none none [] none) fun _ => ?_) ?_
  · exact .element (run_readLV_next _ _ htai)
  refine Proc.Reaches.trans (ReadsTo.optional
    (k := fun allowed => mk result guti tai
      (allowed.map (map threeOctets)) none [] none) fun n hn => ?_) ?_
  · exact .element (run_readNSSAI_next _ _ (hallowed n hn))
  refine Proc.Reaches.trans (ReadsTo.optional
    (k := fun configured => mk result guti tai
      (allowed.map (map threeOctets))
      (configured.map (map threeOctets)) [] none) fun n hn => ?_) ?_
  · exact .element (run_readNSSAI_next _ _ (hconfigured n hn))
  refine Proc.Reaches.trans (ReadsTo.nonzero
    (k := fun nfs => mk result guti tai
      (allowed.map (map threeOctets))
      (configured.map (map threeOctets)) nfs none) fun _ => ?_) ?_
  · exact .element (run_readLV_next _ _ hnfs)
  exact ReadsTo.optional
    (k := fun t3512 => mk result guti tai
      (allowed.map (map threeOctets))
      (configured.map (map threeOctets)) nfs t3512)
    fun v _ => .element rfl

theorem encodeGUTIElement_of_wellFormed {mi : Option MobileIdentity}
    (h : ∀ g ∈ mi.bind guti, g.WellFormed) : ∃ b, encodeGUTIElement mi = .ok b ∧
      ((b = [] ∧ mi.bind guti = none) ∨ ∃ gutiBytes g,
        b = tlve 0x77 gutiBytes ∧ gutiBytes.length = 11 ∧ mi.bind guti = some g ∧
        decodeMobileIdentity gutiBytes = .ok (gutiIdentity g)) := by
  rw [encodeGUTIElement]
  cases hguti : mi.bind guti with
  | none => exact ⟨[], rfl, .inl ⟨rfl, rfl⟩⟩
  | some g =>
    obtain ⟨gutiBytes, hencode, hlen, hread⟩ := (h g hguti).readBack
    refine ⟨tlve 0x77 gutiBytes, ?_, .inr ⟨gutiBytes, g, rfl, hlen, rfl, hread⟩⟩
    dsimp only
    rw [hencode]
    rfl

/-- Every Registration Accept whose values fit is read back through `Encode` and `Decode`, with
every combination of its elements.  The mobile identity is read back as its 5G-GUTI. -/
theorem registrationAccept_readBack {m : RegistrationAccept} (h : m.Fits) :
    ∃ b, encode (.registrationAccept m) = .ok b ∧
      decode b = .ok ⟨plainHeader msgTypeRegistrationAccept, .registrationAccept { m with
        fiveGGUTI := (m.fiveGGUTI.bind guti).map gutiIdentity }⟩ := by
  obtain ⟨guti, hguti, hread⟩ := encodeGUTIElement_of_wellFormed h.guti
  have hbody : encodeBody (.registrationAccept m) =
      .ok ([0x01, m.registrationResult] ++ (guti ++ registrationAcceptIEs m)) := by
    show encodeRegistrationAccept m = _
    rw [encodeRegistrationAccept_eq, hguti]
    rfl
  have hies := readsTo_registrationAcceptIEs h.taiList (fun n hn => (h.allowedNSSAI n hn).2)
    (fun n hn => (h.configuredNSSAI n hn).2) h.networkFeatureSupport
  rw [(map_threeOctets_option_iff _).mpr fun n hn => (h.allowedNSSAI n hn).1,
    (map_threeOctets_option_iff _).mpr fun n hn => (h.configuredNSSAI n hn).1] at hies
  have hreads : ReadsTo registrationAcceptIE ⟨m.registrationResult, none, [], none, none, [], none⟩
      (guti ++ registrationAcceptIEs m) { m with
        fiveGGUTI := (m.fiveGGUTI.bind MobileIdentity.guti).map gutiIdentity } [] := by
    rcases hread with ⟨rfl, hnone⟩ | ⟨gutiBytes, g, rfl, hlen, hsome, hdecode⟩
    · rw [hnone]
      exact hies none
    · rw [hsome]
      exact (ReadsTo.element (run_readIdentity_next _ _ (by omega) hdecode)).trans
        (hies _)
  refine ⟨_, by rw [encode, hbody]; rfl, ?_⟩
  have hdecode : decodeRegistrationAccept ([0x01, m.registrationResult] ++
      (guti ++ registrationAcceptIEs m)) = .ok { m with
        fiveGGUTI := (m.fiveGGUTI.bind MobileIdentity.guti).map gutiIdentity } := by
    exact congrArg Prod.fst hreads.run_forEachIE
  rw [decode_plain, decodeBody]
  show (Body.registrationAccept <$> decodeRegistrationAccept _ >>= _) = _
  rw [hdecode]
  rfl

def fullRegistrationAccept : RegistrationAccept where
  registrationResult := 0x01
  fiveGGUTI := some (gutiIdentity
    { mcc := "001", mnc := "01", amfRegionID := 0x02, amfSetID := 1, amfID := 1
      tmsi := 0xC0FFEE01 })
  taiList := [0x00, 0x00, 0xF1, 0x10, 0x00, 0x00, 0x01]
  allowedNSSAI := some [⟨1, sdNotPresent⟩, ⟨2, 0x000001⟩]
  configuredNSSAI := some [⟨1, sdNotPresent⟩]
  networkFeatureSupport := [0x01, 0x00]
  t3512Value := some 0x21

theorem registrationAccept_readBack_full :
    ∃ b, encode (.registrationAccept fullRegistrationAccept) = .ok b ∧
      decode b = .ok ⟨plainHeader msgTypeRegistrationAccept,
        .registrationAccept fullRegistrationAccept⟩ := by
  refine registrationAccept_readBack ⟨?_, by decide, ?_, ?_, by decide⟩
  · rintro g ⟨⟩
    exact ⟨by decide +kernel, by decide +kernel, by decide, by decide⟩
  · rintro n ⟨⟩
    exact ⟨by unfold NSSAI.WellFormed; decide, by decide⟩
  · rintro n ⟨⟩
    exact ⟨by unfold NSSAI.WellFormed; decide, by decide⟩

end Claudia5gc.Nas
