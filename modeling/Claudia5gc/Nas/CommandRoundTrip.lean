import Claudia5gc.Nas.DownlinkRoundTrip
import Claudia5gc.Nas.NetworkName

/-!
# Commands of the AMF, written and read back

The Authentication Request, the Security Mode Command and the Configuration Update Command through
`Encode` and `Decode`.  For each of them the message that is read back is computed first, for every
message whose elements fit their length octets; it is the message that was written where every field
fits its bits.
-/

namespace Claudia5gc.Nas

open Go ConfigurationUpdateCommand List Proc.Reaches ReadsTo Outcome Proc UInt8

variable {c : ConfigurationUpdateCommand} {identity : Option MobileIdentity} {text : String}
  {b guti : Bytes}

def ReadsBack (m : DownlinkBody) (body : Body) : Prop :=
  ∃ b, encode m = .ok b ∧ decode b = .ok ⟨plainHeader m.messageType, body⟩

theorem readsBack_iff {α : Type} (k : α → Body) {m : DownlinkBody} {o : Outcome α}
    {read : α} (hencode : encodeBody m = .ok b) (hdispatch : decodeBodyOf m.messageType b = k <$> o)
    (hdecode : o = .ok read) (body : Body) : ReadsBack m body ↔ k read = body := by
  have hmessage : encode m = .ok ([0x7E, 0x00, m.messageType] ++ b) := by
    rw [encode, hencode]
    rfl
  have hread : decode ([0x7E, 0x00, m.messageType] ++ b) =
      .ok ⟨plainHeader m.messageType, k read⟩ := by
    show (decodeBodyOf m.messageType b >>= _) = _
    rw [hdispatch, hdecode]
    rfl
  constructor
  · rintro ⟨b', hb', hbody⟩
    rw [← ok.inj (hmessage.symm.trans hb'), hread] at hbody
    exact congrArg Message.body (ok.inj hbody)
  · rintro rfl
    exact ⟨_, hmessage, hread⟩

/-! ## Fields of fewer than eight bits -/

def NGKSI.fourBits (k : NGKSI) : NGKSI := ⟨k.keySetIdentifier &&& 0x07, k.type &&& 0x01⟩

/-- The ngKSI fits its four bits. -/
structure NGKSI.InRange (k : NGKSI) : Prop where
  keySetIdentifier : k.keySetIdentifier < 8
  type : k.type < 2

theorem NGKSI.fourBits_eq_self_iff (k : NGKSI) : k.fourBits = k ↔ k.InRange := by
  rw [fourBits, NGKSI.mk.injEq, and_07_eq_self_iff, and_01_eq_self_iff]
  exact ⟨fun h => ⟨h.1, h.2⟩, fun h => ⟨h.1, h.2⟩⟩

theorem map_eq_self_iff {α : Type} {f : α → α} {p : α → Prop} (h : ∀ a, f a = a ↔ p a)
    (o : Option α) : o.map f = o ↔ ∀ a ∈ o, p a := by
  cases o with
  | none => simp
  | some a => simp [h]

/-! ## Authentication Request -/

structure AuthenticationRequest.Fits (ar : AuthenticationRequest) : Prop where
  abba : ar.abba.length = 2
  rand : ar.rand.length = 16
  autn : ar.autn.length = 16
  eapMessage : ar.eapMessage.length ≤ 65535

theorem copyInto_of_length_eq {dst src : Bytes} (h : src.length = dst.length) :
    copyInto dst src = src := by
  rw [copyInto, ← h, take_length, h, drop_length, append_nil]

theorem run_authenticationRequestIE_rand (ar : AuthenticationRequest) {rand : Bytes}
    (hrand : rand.length = 16) (hzero : ar.rand.length = 16) (r : Bytes) :
    (authenticationRequestIE 0x21 ar).run (rand ++ r) = (.ok (.next { ar with rand }), r) := by
  show ((readBytes 16).orZero [] >>= fun v =>
    pure (Ctl.next { ar with rand := copyInto ar.rand v })).run _ = _
  rw [← hrand, run_bind_ok (run_readBytes_append rand r),
    copyInto_of_length_eq (hrand.trans hzero.symm)]
  rfl

theorem run_authenticationRequestIE_autn (ar : AuthenticationRequest) {autn : Bytes}
    (hautn : autn.length = 16) (hzero : ar.autn.length = 16) (r : Bytes) :
    (authenticationRequestIE 0x20 ar).run (0x10 :: autn ++ r) =
      (.ok (.next { ar with autn }), r) := by
  have hread : readLV.run (0x10 :: (autn ++ r)) = (.ok autn, r) := by
    rw [show (0x10 : UInt8) = ofNat autn.length by rw [hautn]; rfl]
    exact run_readLV_append (by omega) r
  show (readLV >>= fun v => pure (Ctl.next { ar with autn := copyInto ar.autn v })).run _ = _
  rw [cons_append, run_bind_ok hread, copyInto_of_length_eq (hautn.trans hzero.symm)]
  rfl

/-- Everything is read back but the EAP message. -/
theorem decodeAuthenticationRequest_encode {ar : AuthenticationRequest} (h : ar.Fits) :
    decodeAuthenticationRequest (encodeAuthenticationRequest ar) =
      .ok { ar with ngksi := ar.ngksi.fourBits, eapMessage := [] } := by
  obtain ⟨ngksi, abba, rand, autn, eap⟩ := ar
  obtain ⟨a0, a1, rfl⟩ := length_eq_two.mp h.abba
  have hreads : ReadsTo authenticationRequestIE
      { ngksi := ngksi.fourBits, abba := [a0, a1] }
      (0x21 :: (rand ++ (0x20 :: (0x10 :: autn ++ []))))
      { ngksi := ngksi.fourBits, abba := [a0, a1], rand, autn } [] :=
    trans
      (element (run_authenticationRequestIE_rand _ h.rand (length_replicate ..) _))
      (element (run_authenticationRequestIE_autn _ h.autn (length_replicate ..) _))
  have hoctets : encodeAuthenticationRequest ⟨ngksi, [a0, a1], rand, autn, eap⟩ =
      encodeNGKSI ngksi :: 0x02 :: a0 :: a1 ::
        (0x21 :: (rand ++ (0x20 :: (0x10 :: autn ++ [])))) := by
    simp [encodeAuthenticationRequest]
  have habba : requireLV.attempt.run
      (0x02 :: a0 :: a1 :: (0x21 :: (rand ++ (0x20 :: (0x10 :: autn ++ []))))) =
      (.ok (.ok [a0, a1]), 0x21 :: (rand ++ (0x20 :: (0x10 :: autn ++ [])))) := by
    rw [run_attempt, run_requireLV_fits (by simp [lvFits])]
    simp [lvValue, lvTail]
  obtain ⟨hksi, htype⟩ := ngksi_readBack ngksi
  rw [hoctets, decodeAuthenticationRequest, if_neg (by simp), authenticationRequestBody,
    run_bind_ok (run_readByte_orZero_cons _ _), run_bind_ok habba, hksi, htype]
  exact congrArg Prod.fst hreads.run_forEachIE

theorem authenticationRequest_readsBack_iff {ar : AuthenticationRequest} (h : ar.Fits) :
    ReadsBack (.authenticationRequest ar) (.authenticationRequest ar) ↔
      ar.ngksi.InRange ∧ ar.eapMessage = [] := by
  rw [readsBack_iff .authenticationRequest rfl rfl (decodeAuthenticationRequest_encode h),
    Body.authenticationRequest.injEq, ← NGKSI.fourBits_eq_self_iff]
  obtain ⟨ngksi, abba, rand, autn, eap⟩ := ar
  simp [eq_comm]

/-! ## Security Mode Command -/

/-- The flags are the bits of the octets that are replayed. -/
def UESecurityCapability.Verbatim (c : UESecurityCapability) : Prop :=
  match c.raw with
  | b0 :: b1 :: _ =>
    c.ea0 = decide (b0 &&& 0x80 ≠ 0) ∧ c.ea1 = decide (b0 &&& 0x40 ≠ 0) ∧
    c.ea2 = decide (b0 &&& 0x20 ≠ 0) ∧ c.ea3 = decide (b0 &&& 0x10 ≠ 0) ∧
    c.ia0 = decide (b1 &&& 0x80 ≠ 0) ∧ c.ia1 = decide (b1 &&& 0x40 ≠ 0) ∧
    c.ia2 = decide (b1 &&& 0x20 ≠ 0) ∧ c.ia3 = decide (b1 &&& 0x10 ≠ 0)
  | _ => False

theorem decodeUESecurityCapability_encode (c : UESecurityCapability) :
    ∃ c', decodeUESecurityCapabilityOrZero (encodeUESecurityCapability c) = .ok c' ∧
      (c' = c ↔ c.Verbatim) := by
  obtain ⟨ea0, ea1, ea2, ea3, ia0, ia1, ia2, ia3, raw⟩ := c
  match raw with
  | [] => exact ⟨_, rfl, iff_of_false (fun h => nomatch congrArg UESecurityCapability.raw h) id⟩
  | [b] => exact ⟨_, rfl, iff_of_false (fun h => nomatch congrArg UESecurityCapability.raw h) id⟩
  | b0 :: b1 :: rest =>
    refine ⟨⟨decide (b0 &&& 0x80 ≠ 0), decide (b0 &&& 0x40 ≠ 0), decide (b0 &&& 0x20 ≠ 0),
      decide (b0 &&& 0x10 ≠ 0), decide (b1 &&& 0x80 ≠ 0), decide (b1 &&& 0x40 ≠ 0),
      decide (b1 &&& 0x20 ≠ 0), decide (b1 &&& 0x10 ≠ 0), b0 :: b1 :: rest⟩, rfl, ?_⟩
    rw [UESecurityCapability.mk.injEq, UESecurityCapability.Verbatim]
    simp only [and_true, eq_comm]

theorem encodeUESecurityCapability_pos (c : UESecurityCapability) :
    1 ≤ (encodeUESecurityCapability c).length := by
  rw [encodeUESecurityCapability]
  split
  · exact length_pos_of_ne_nil ‹_›
  · exact Nat.le_succ 1

/-- The variable elements fit their length octets. -/
structure SecurityModeCommand.Fits (smc : SecurityModeCommand) : Prop where
  capability : (encodeUESecurityCapability smc.replayedUESecurityCapabilities).length ≤ 255
  nasMessageContainer : smc.nasMessageContainer.length ≤ 65535

/-- Every field fits its bits, and the capability is what its octets say. -/
structure SecurityModeCommand.InRange (smc : SecurityModeCommand) : Prop where
  ciphering : smc.selectedNASSecurityAlgorithms.cipheringAlgorithmID < 16
  integrity : smc.selectedNASSecurityAlgorithms.integrityAlgorithmID < 16
  ngksi : smc.ngksi.InRange
  capability : smc.replayedUESecurityCapabilities.Verbatim
  imeisvRequest : ∀ v ∈ smc.imeisvRequest, v < 8

theorem run_securityModeCommandIE_imeisvRequest (smc : SecurityModeCommand) (v : UInt8)
    (r : Bytes) : (securityModeCommandIE (0xE0 ||| (v &&& 0x07)) smc).run ([] ++ r) =
      (.ok (.next { smc with imeisvRequest := some (v &&& 0x07) }), r) := by
  have hall : ∀ n < 256, (0xE0 ||| (ofNat n &&& 0x07)) >>> 4 = (0xE : UInt8) ∧
      (0xE0 ||| (ofNat n &&& 0x07)) &&& 0x07 = ofNat n &&& 0x07 := by
    decide +kernel
  obtain ⟨hiei, hvalue⟩ := forall_octet (P := fun v => (0xE0 ||| (v &&& 0x07)) >>> 4 = 0xE ∧
    (0xE0 ||| (v &&& 0x07)) &&& 0x07 = v &&& 0x07) hall v
  rw [securityModeCommandIE, if_pos hiei, hvalue]
  rfl

def securityModeCommandIEs (imeisv additional : Option UInt8) (container : Bytes) : Bytes :=
  optionalIE (fun v => [0xE0 ||| (v &&& 0x07)]) imeisv ++
  (optionalIE (fun v => [0x36, 0x01, v]) additional ++
  ((if container ≠ [] then tlve 0x71 container else []) ++ []))

theorem encodeSecurityModeCommand_eq (smc : SecurityModeCommand) : encodeSecurityModeCommand smc =
      encodeNASSecurityAlgorithms smc.selectedNASSecurityAlgorithms :: encodeNGKSI smc.ngksi ::
      ofNat (encodeUESecurityCapability smc.replayedUESecurityCapabilities).length ::
      (encodeUESecurityCapability smc.replayedUESecurityCapabilities ++
        securityModeCommandIEs smc.imeisvRequest smc.additional5GSecurityInfo
          smc.nasMessageContainer) := by
  obtain ⟨algorithms, ngksi, capability, imeisv, additional, container⟩ := smc
  cases imeisv <;> cases additional <;>
    simp [encodeSecurityModeCommand, securityModeCommandIEs, optionalIE, tlve]

theorem readsTo_securityModeCommandIEs {container : Bytes} (h : container.length ≤ 65535)
    (imeisv additional : Option UInt8) (algorithms : NASSecurityAlgorithms) (ngksi : NGKSI)
    (capability : UESecurityCapability) :
    ReadsTo securityModeCommandIE ⟨algorithms, ngksi, capability, none, none, []⟩
      (securityModeCommandIEs imeisv additional container)
      ⟨algorithms, ngksi, capability, imeisv.map (· &&& 0x07), additional, container⟩ [] := by
  refine trans (optional (k := fun imeisv =>
    SecurityModeCommand.mk algorithms ngksi capability (imeisv.map (· &&& 0x07)) none [])
    fun v _ => .element (run_securityModeCommandIE_imeisvRequest _ v _)) ?_
  refine trans (optional (k := fun additional =>
    SecurityModeCommand.mk algorithms ngksi capability (imeisv.map (· &&& 0x07)) additional [])
    fun v _ => .element rfl) ?_
  refine nonzero (k := fun container =>
    SecurityModeCommand.mk algorithms ngksi capability (imeisv.map (· &&& 0x07)) additional
      container)
    fun _ => ?_
  exact .element (run_readLVE_next _ _ h)

theorem securityModeCommand_readsBack_iff {smc : SecurityModeCommand} (h : smc.Fits) :
    ReadsBack (.securityModeCommand smc) (.securityModeCommand smc) ↔ smc.InRange := by
  obtain ⟨capability, hcapability, hverbatim⟩ :=
    decodeUESecurityCapability_encode smc.replayedUESecurityCapabilities
  obtain ⟨hksi, htype⟩ := ngksi_readBack smc.ngksi
  have hdecode : decodeSecurityModeCommand (encodeSecurityModeCommand smc) =
      .ok ⟨⟨smc.selectedNASSecurityAlgorithms.cipheringAlgorithmID &&& 0x0F,
        smc.selectedNASSecurityAlgorithms.integrityAlgorithmID &&& 0x0F⟩, smc.ngksi.fourBits,
        capability, smc.imeisvRequest.map (· &&& 0x07), smc.additional5GSecurityInfo,
        smc.nasMessageContainer⟩ := by
    have hpos := encodeUESecurityCapability_pos smc.replayedUESecurityCapabilities
    rw [encodeSecurityModeCommand_eq, decodeSecurityModeCommand,
      if_neg (by simp only [length_cons, length_append]; omega),
      securityModeCommandBody, run_bind_ok (run_readByte_orZero_cons _ _),
      run_bind_ok (run_readByte_orZero_cons _ _),
      run_bind_ok (run_readLV_append h.capability _), hcapability, hksi, htype, algorithms_readBack]
    exact congrArg Prod.fst (ReadsTo.run_forEachIE
      (readsTo_securityModeCommandIEs h.nasMessageContainer _ _ _ _ _))
  rw [readsBack_iff .securityModeCommand rfl rfl hdecode, Body.securityModeCommand.injEq]
  rw [SecurityModeCommand.mk.injEq, NASSecurityAlgorithms.mk.injEq, and_0F_eq_self_iff,
    and_0F_eq_self_iff, NGKSI.fourBits_eq_self_iff, hverbatim, map_eq_self_iff and_07_eq_self_iff]
  constructor
  · rintro ⟨⟨hc, hi⟩, hn, hv, him, -, -⟩
    exact ⟨hc, hi, hn, hv, him⟩
  · rintro ⟨hc, hi, hn, hv, him⟩
    exact ⟨⟨hc, hi⟩, hn, hv, him, rfl, rfl⟩

/-! ## Configuration Update Command -/

/-- The variable elements fit their length octets. -/
structure ConfigurationUpdateCommand.Fits (c : ConfigurationUpdateCommand) : Prop where
  taiList : c.taiList.length ≤ 255
  allowedNSSAI : ∀ n ∈ c.allowedNSSAI, (encodeNSSAI n).length ≤ 255
  fullName : (nameContents c.fullNameForNetwork).length ≤ 255
  shortName : (nameContents c.shortNameForNetwork).length ≤ 255
  configuredNSSAI : ∀ n ∈ c.configuredNSSAI, (encodeNSSAI n).length ≤ 255

/-- The identity, if there is one, is a 5G-GUTI whose fields fit, and nothing else. -/
def PlainGUTI (identity : Option MobileIdentity) : Prop :=
  ∀ mi ∈ identity, ∃ g : GUTIMobileIdentity, g.WellFormed ∧ mi = gutiIdentity g

/-- Every field fits its bits, and the identity is a 5G-GUTI. -/
structure ConfigurationUpdateCommand.InRange (c : ConfigurationUpdateCommand) : Prop where
  configUpdateIndication : ∀ v ∈ c.configUpdateIndication, v < 16
  fiveGGUTI : PlainGUTI c.fiveGGUTI
  allowedNSSAI : ∀ n ∈ c.allowedNSSAI, NSSAI.WellFormed n
  configuredNSSAI : ∀ n ∈ c.configuredNSSAI, NSSAI.WellFormed n
  networkSlicingIndication : ∀ v ∈ c.networkSlicingIndication, v < 16

def nameElement (iei : UInt8) (text : String) : Bytes := tlv iei (nameContents text)

theorem encodeOptionalName_of_fits (h : (nameContents text).length ≤ 255)
    (iei : UInt8) (wrap : String) : encodeOptionalName iei text wrap =
      .ok (if text ≠ "" then nameElement iei text else []) := by
  by_cases hempty : text = ""
  · rw [encodeOptionalName, if_pos hempty, if_neg (not_not.mpr hempty)]
  · rw [encodeOptionalName, if_neg hempty, if_pos hempty, encodeNetworkName_eq hempty]
    rw [if_neg (by omega)]
    rfl

theorem run_readName_next {α : Type} (f : String → α) (a : α)
    (h : (nameContents text).length ≤ 255) (r : Bytes) :
    (readLV >>= fun v => (lift (decodeNetworkName v)).attempt >>= fun o =>
      match o with
      | .ok n => pure (Ctl.next (f n.text))
      | .error _ => pure (Ctl.next a)).run
        (ofNat (nameContents text).length :: nameContents text ++ r) =
      (.ok (.next (f text)), r) := by
  obtain ⟨n, hn, htext⟩ := decodeNetworkName_nameContents text
  have hattempt : (lift (decodeNetworkName (nameContents text))).attempt.run r =
      (.ok (.ok n), r) := by
    rw [run_attempt, run_lift, hn]
  rw [cons_append, run_bind_ok (run_readLV_append h r), run_bind_ok hattempt]
  dsimp only
  rw [htext]
  rfl

theorem run_configurationUpdateCommandIE_indication (c : ConfigurationUpdateCommand) (v : UInt8)
    (r : Bytes) : (configurationUpdateCommandIE (0xD0 ||| (v &&& 0x0F)) c).run ([] ++ r) =
      (.ok (.next { c with configUpdateIndication := some (v &&& 0x0F) }), r) := by
  obtain ⟨hiei, hvalue⟩ := halfOctet (show (0xD : UInt8) < 16 by decide) v
  rw [show (0xD : UInt8) <<< 4 = 0xD0 by decide] at hiei hvalue
  rw [configurationUpdateCommandIE, if_pos hiei, hvalue]
  rfl

theorem run_configurationUpdateCommandIE_slicing (c : ConfigurationUpdateCommand) (v : UInt8)
    (r : Bytes) : (configurationUpdateCommandIE (0x90 ||| (v &&& 0x0F)) c).run ([] ++ r) =
      (.ok (.next { c with networkSlicingIndication := some (v &&& 0x0F) }), r) := by
  obtain ⟨hiei, hvalue⟩ := halfOctet (show (0x9 : UInt8) < 16 by decide) v
  rw [show (0x9 : UInt8) <<< 4 = 0x90 by decide] at hiei hvalue
  rw [configurationUpdateCommandIE, hiei, if_neg (by decide), if_pos rfl, hvalue]
  rfl

def configurationUpdateCommandIEs (c : ConfigurationUpdateCommand) : Bytes :=
  (if c.taiList ≠ [] then tlv 0x54 c.taiList else []) ++
  (optionalIE (fun n => tlv 0x15 (encodeNSSAI n)) c.allowedNSSAI ++
  ((if c.fullNameForNetwork ≠ "" then nameElement 0x43 c.fullNameForNetwork else []) ++
  ((if c.shortNameForNetwork ≠ "" then nameElement 0x45 c.shortNameForNetwork else []) ++
  (optionalIE (fun n => tlv 0x31 (encodeNSSAI n)) c.configuredNSSAI ++
  (optionalIE (fun v => [0x90 ||| (v &&& 0x0F)]) c.networkSlicingIndication ++ [])))))

theorem encodeConfigurationUpdateCommand_eq (h : c.Fits) : encodeConfigurationUpdateCommand c = (do
      let guti ← encodeGUTIElement c.fiveGGUTI
      return optionalIE (fun v => [0xD0 ||| (v &&& 0x0F)]) c.configUpdateIndication ++
        (guti ++ configurationUpdateCommandIEs c)) := by
  rw [encodeConfigurationUpdateCommand, encodeOptionalName_of_fits h.fullName,
    encodeOptionalName_of_fits h.shortName]
  obtain ⟨indication, guti, tai, allowed, full, short, configured, slicing⟩ := c
  cases indication <;> cases allowed <;> cases configured <;> cases slicing <;>
    simp only [ok_bind, configurationUpdateCommandIEs, optionalIE, append_assoc,
      append_nil, nil_append]

theorem readsTo_configurationUpdateCommandIEs (h : c.Fits) (indication : Option UInt8)
    (guti : Option MobileIdentity) :
    ReadsTo configurationUpdateCommandIE ⟨indication, guti, [], none, "", "", none, none⟩
      (configurationUpdateCommandIEs c)
      ⟨indication, guti, c.taiList, c.allowedNSSAI.map (map SNSSAI.threeOctets),
        c.fullNameForNetwork, c.shortNameForNetwork, c.configuredNSSAI.map (map SNSSAI.threeOctets),
        c.networkSlicingIndication.map (· &&& 0x0F)⟩ [] := by
  obtain ⟨htai, hallowed, hfull, hshort, hconfigured⟩ := h
  obtain ⟨_, _, tai, allowed, full, short, configured, slicing⟩ := c
  refine trans (nonzero (k := fun tai =>
    mk indication guti tai none "" "" none none) fun _ => ?_) ?_
  · exact .element (run_readLV_next _ _ htai)
  refine trans (optional (k := fun allowed =>
    mk indication guti tai (allowed.map (map SNSSAI.threeOctets))
      "" "" none none) fun n hn => ?_) ?_
  · exact .element (run_readNSSAI_next _ _ (hallowed n hn))
  refine trans (nonzero (k := fun full =>
    mk indication guti tai (allowed.map (map SNSSAI.threeOctets))
      full "" none none) fun _ => ?_) ?_
  · exact .element (run_readName_next (mk _ _ _ _ · _ _ _) _ hfull _)
  refine trans (nonzero (k := fun short =>
    mk indication guti tai (allowed.map (map SNSSAI.threeOctets))
      full short none none) fun _ => ?_) ?_
  · exact .element (run_readName_next (mk _ _ _ _ _ · _ _) _ hshort _)
  refine trans (optional (k := fun configured =>
    mk indication guti tai (allowed.map (map SNSSAI.threeOctets))
      full short (configured.map (map SNSSAI.threeOctets)) none) fun n hn => ?_) ?_
  · exact .element (run_readNSSAI_next _ _ (hconfigured n hn))
  exact optional (k := fun slicing =>
    mk indication guti tai (allowed.map (map SNSSAI.threeOctets))
      full short (configured.map (map SNSSAI.threeOctets)) (slicing.map (· &&& 0x0F)))
    fun v _ => .element (run_configurationUpdateCommandIE_slicing _ v _)

theorem encodeGUTIElement_cases (h : encodeGUTIElement identity = .ok b) :
    (b = [] ∧ identity.bind MobileIdentity.guti = none) ∨ ∃ gutiBytes g,
      b = tlve 0x77 gutiBytes ∧ gutiBytes.length = 11 ∧ g.WellFormed ∧
      decodeMobileIdentity gutiBytes = .ok (gutiIdentity g) := by
  rw [encodeGUTIElement] at h
  cases hguti : identity.bind MobileIdentity.guti with
  | none =>
    rw [hguti] at h
    exact .inl ⟨(ok.inj h).symm, rfl⟩
  | some g =>
    rw [hguti] at h
    obtain ⟨gutiBytes, hencode, hb⟩ := bind_eq_ok.mp h
    obtain ⟨hlen, g', hwell, hread⟩ := encode5GGUTI_ok hencode
    exact .inr ⟨gutiBytes, g', (ok.inj hb).symm, hlen, hwell, hread⟩

theorem PlainGUTI.encodeGUTIElement (h : PlainGUTI identity) :
    (identity = none ∧ Nas.encodeGUTIElement identity = .ok []) ∨ ∃ gutiBytes mi,
      identity = some mi ∧ Nas.encodeGUTIElement identity = .ok (tlve 0x77 gutiBytes) ∧
      decodeMobileIdentity gutiBytes = .ok mi := by
  cases identity with
  | none => exact .inl ⟨rfl, rfl⟩
  | some mi =>
    obtain ⟨g, hwell, rfl⟩ := h mi rfl
    obtain ⟨gutiBytes, hencode, -, hread⟩ := hwell.readBack
    refine .inr ⟨gutiBytes, gutiIdentity g, rfl, ?_, hread⟩
    show (encode5GGUTI g >>= _) = _
    rw [hencode]
    rfl

theorem decodeConfigurationUpdateCommand_encode (h : c.Fits)
    (hguti : encodeGUTIElement c.fiveGGUTI = .ok guti) {mi : Option MobileIdentity}
    (hread : ∀ indication r, ReadsTo configurationUpdateCommandIE
      ⟨indication, none, [], none, "", "", none, none⟩ (guti ++ r)
      ⟨indication, mi, [], none, "", "", none, none⟩ r) :
    ReadsBack (.configurationUpdateCommand c) (.configurationUpdateCommand c) ↔
      c.configUpdateIndication.map (· &&& 0x0F) = c.configUpdateIndication ∧ mi = c.fiveGGUTI ∧
      c.allowedNSSAI.map (map SNSSAI.threeOctets) = c.allowedNSSAI ∧
      c.configuredNSSAI.map (map SNSSAI.threeOctets) = c.configuredNSSAI ∧
      c.networkSlicingIndication.map (· &&& 0x0F) = c.networkSlicingIndication := by
  have hencode : encodeBody (.configurationUpdateCommand c) =
      .ok (optionalIE (fun v => [0xD0 ||| (v &&& 0x0F)]) c.configUpdateIndication ++
        (guti ++ configurationUpdateCommandIEs c)) := by
    show encodeConfigurationUpdateCommand c = _
    rw [encodeConfigurationUpdateCommand_eq h, hguti]
    rfl
  have hreads : ReadsTo configurationUpdateCommandIE {}
      (optionalIE (fun v => [0xD0 ||| (v &&& 0x0F)]) c.configUpdateIndication ++
        (guti ++ configurationUpdateCommandIEs c)) _ [] :=
    trans (optional (k := fun indication => mk
        (indication.map (· &&& 0x0F)) none [] none "" "" none none)
      fun v _ => .element (run_configurationUpdateCommandIE_indication _ v _))
      ((hread _ _).trans (readsTo_configurationUpdateCommandIEs h _ _))
  have hdecode : decodeConfigurationUpdateCommand
      (optionalIE (fun v => [0xD0 ||| (v &&& 0x0F)]) c.configUpdateIndication ++
        (guti ++ configurationUpdateCommandIEs c)) = .ok _ :=
    congrArg Prod.fst hreads.run_forEachIE
  rw [readsBack_iff .configurationUpdateCommand hencode rfl hdecode,
    Body.configurationUpdateCommand.injEq]
  rw [mk.injEq]
  simp only [true_and]

theorem plainGUTI_iff (hguti : encodeGUTIElement identity = .ok guti) :
    ∃ read : Option MobileIdentity, (read = identity ↔ PlainGUTI identity) ∧
      ∀ indication r, ReadsTo configurationUpdateCommandIE
        ⟨indication, none, [], none, "", "", none, none⟩ (guti ++ r)
        ⟨indication, read, [], none, "", "", none, none⟩ r := by
  rcases encodeGUTIElement_cases hguti with ⟨rfl, hnone⟩ | ⟨gutiBytes, g, rfl, hlen, hwell, hread⟩
  · refine ⟨none, ⟨?_, fun hplain => ?_⟩, fun _ _ => .refl⟩
    · rintro rfl mi hmi
      exact nomatch hmi
    · rcases hplain.encodeGUTIElement with ⟨rfl, -⟩ | ⟨gutiBytes, mi, -, hencode, -⟩
      · rfl
      · exact nomatch hguti.symm.trans hencode
  · refine ⟨some (gutiIdentity g), ⟨?_, fun hplain => ?_⟩, fun _ _ =>
      .element (run_readIdentity_next _ _ (by omega) hread)⟩
    · rintro rfl mi hmi
      exact ⟨g, hwell, (Option.some.inj hmi).symm⟩
    · rcases hplain.encodeGUTIElement with ⟨rfl, hencode⟩ | ⟨gutiBytes', mi, rfl, hencode, hread'⟩
      · exact nomatch hguti.symm.trans hencode
      · have hsame : gutiBytes = gutiBytes' := by
          have htail := (cons.inj (ok.inj (hguti.symm.trans hencode))).2
          exact append_inj_right htail rfl
        rw [← hsame, hread] at hread'
        exact congrArg some (ok.inj hread')

theorem configurationUpdateCommand_readsBack_iff (h : c.Fits) :
    ReadsBack (.configurationUpdateCommand c) (.configurationUpdateCommand c) ↔ c.InRange := by
  by_cases hguti : ∃ guti, encodeGUTIElement c.fiveGGUTI = .ok guti
  · obtain ⟨guti, hguti⟩ := hguti
    obtain ⟨read, hidentity, hread⟩ := plainGUTI_iff hguti
    rw [decodeConfigurationUpdateCommand_encode h hguti hread, hidentity,
      map_eq_self_iff and_0F_eq_self_iff, map_eq_self_iff and_0F_eq_self_iff,
      map_threeOctets_option_iff, map_threeOctets_option_iff]
    exact ⟨fun ⟨hi, hg, ha, hc, hs⟩ => ⟨hi, hg, ha, hc, hs⟩,
      fun ⟨hi, hg, ha, hc, hs⟩ => ⟨hi, hg, ha, hc, hs⟩⟩
  · -- Nothing is sent for an identity that cannot be written.
    refine iff_of_false ?_ fun hrange => hguti ?_
    · rintro ⟨b, hb, -⟩
      obtain ⟨body, hbody, -⟩ := bind_eq_ok.mp hb
      have hencode : encodeConfigurationUpdateCommand c = .ok body := hbody
      obtain ⟨guti, hok, -⟩ := bind_eq_ok.mp hencode
      exact hguti ⟨guti, hok⟩
    · rcases hrange.fiveGGUTI.encodeGUTIElement with ⟨-, hencode⟩ | ⟨gutiBytes, mi, -, hencode, -⟩
      · exact ⟨_, hencode⟩
      · exact ⟨_, hencode⟩

/-! ## The three messages -/

/-- Each message whose elements fit their length octets is read back as it was written exactly if
its fields fit their bits, and for an Authentication Request if it has no EAP message. -/
theorem commands_readBack_iff (c : ConfigurationUpdateCommand) (smc : SecurityModeCommand)
    (ar : AuthenticationRequest) : (c.Fits →
      (ReadsBack (.configurationUpdateCommand c) (.configurationUpdateCommand c) ↔ c.InRange)) ∧
    (smc.Fits → (ReadsBack (.securityModeCommand smc) (.securityModeCommand smc) ↔ smc.InRange)) ∧
    (ar.Fits → (ReadsBack (.authenticationRequest ar) (.authenticationRequest ar) ↔
        ar.ngksi.InRange ∧ ar.eapMessage = [])) :=
  ⟨configurationUpdateCommand_readsBack_iff, securityModeCommand_readsBack_iff,
    authenticationRequest_readsBack_iff⟩

def fullConfigurationUpdateCommand : ConfigurationUpdateCommand where
  configUpdateIndication := some 0x01
  fiveGGUTI := some (gutiIdentity ⟨"001", "01", 0x02, 0x040, 0x05, 0xDEADBEEF⟩)
  taiList := [0x00, 0x00, 0xF1, 0x10, 0x00, 0x00, 0x01]
  allowedNSSAI := some [⟨1, 0x010203⟩]
  fullNameForNetwork := "ClaudIA±OCUDU"
  shortNameForNetwork := "ClaudIA"
  configuredNSSAI := some [⟨1, 0x010203⟩, ⟨2, 0xFFFFFF⟩]
  networkSlicingIndication := some 0x03

def replayingSecurityModeCommand : SecurityModeCommand where
  selectedNASSecurityAlgorithms := ⟨2, 2⟩
  ngksi := ⟨3, 0⟩
  replayedUESecurityCapabilities :=
    ⟨true, true, true, true, false, true, true, true, [0xF0, 0x70, 0xF0, 0x70]⟩
  imeisvRequest := some 1
  additional5GSecurityInfo := some 0x02
  nasMessageContainer := [0x7E, 0x00, 0x41]

theorem commands_readBack_full :
    ReadsBack (.configurationUpdateCommand fullConfigurationUpdateCommand)
      (.configurationUpdateCommand fullConfigurationUpdateCommand) ∧
    ReadsBack (.securityModeCommand replayingSecurityModeCommand)
      (.securityModeCommand replayingSecurityModeCommand) ∧
    ReadsBack (.authenticationRequest {}) (.authenticationRequest {}) := by
  obtain ⟨hconfiguration, hsecurity, hauthentication⟩ :=
    commands_readBack_iff fullConfigurationUpdateCommand replayingSecurityModeCommand {}
  refine ⟨(hconfiguration ⟨by decide, ?_, by decide +kernel, by decide +kernel, ?_⟩).mpr
      ⟨?_, ?_, ?_, ?_, ?_⟩,
    (hsecurity ⟨by decide, by decide⟩).mpr ⟨by decide, by decide, ⟨by decide, by decide⟩, ?_, ?_⟩,
    (hauthentication ⟨rfl, rfl, rfl, by decide⟩).mpr ⟨⟨by decide, by decide⟩, rfl⟩⟩
  · rintro n ⟨⟩
    decide
  · rintro n ⟨⟩
    decide
  · rintro v ⟨⟩
    decide
  · rintro mi ⟨⟩
    exact ⟨_, ⟨by decide +kernel, by decide +kernel, by decide, by decide⟩, rfl⟩
  · rintro n ⟨⟩
    unfold NSSAI.WellFormed
    decide
  · rintro n ⟨⟩
    unfold NSSAI.WellFormed
    decide
  · rintro v ⟨⟩
    decide
  · exact ⟨rfl, rfl, rfl, rfl, rfl, rfl, rfl, rfl⟩
  · rintro v ⟨⟩
    decide

/-- An EAP-Request of eight octets in an Authentication Request is not sent. -/
theorem authenticationRequest_loses_eapMessage :
    AuthenticationRequest.Fits { eapMessage := [0x01, 0x01, 0x00, 0x08, 0x32, 0x01, 0x00, 0x00] } ∧
    ReadsBack
      (.authenticationRequest { eapMessage := [0x01, 0x01, 0x00, 0x08, 0x32, 0x01, 0x00, 0x00] })
      (.authenticationRequest {}) ∧
    ¬ReadsBack
      (.authenticationRequest { eapMessage := [0x01, 0x01, 0x00, 0x08, 0x32, 0x01, 0x00, 0x00] })
      (.authenticationRequest
        { eapMessage := [0x01, 0x01, 0x00, 0x08, 0x32, 0x01, 0x00, 0x00] }) := by
  have hfits : AuthenticationRequest.Fits
      { eapMessage := [0x01, 0x01, 0x00, 0x08, 0x32, 0x01, 0x00, 0x00] } :=
    ⟨rfl, rfl, rfl, by decide⟩
  refine ⟨hfits, ?_, fun h => ?_⟩
  · rw [readsBack_iff .authenticationRequest rfl rfl (decodeAuthenticationRequest_encode hfits)]
    rfl
  · exact absurd ((authenticationRequest_readsBack_iff hfits).mp h).2 (by decide)

end Claudia5gc.Nas
