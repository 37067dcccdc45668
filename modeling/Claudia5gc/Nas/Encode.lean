import Claudia5gc.Nas.Decode
import Claudia5gc.Go.Base64

/-!
# Encoding of downlink messages

The messages that the AMF sends, in octets.  Most encoders cannot fail; the ones that
can are the network name, which has to fit one length octet, the payload container,
which has to fit two, and the PLMN, whose digits are read without a length check on
the MNC.
-/

namespace Claudia5gc.Nas

open Go Outcome UInt8

/-! ## Information elements -/

def be16 (n : Nat) : Bytes := [ofNat (n / 256), ofNat n]

def bcd (c : UInt8) : UInt8 := if 0x30 ≤ c ∧ c ≤ 0x39 then c - 0x30 else 0

variable (mcc mnc : String)

def encodeMCCMNC : Outcome Bytes := do
  let mcc := stringBytes mcc
  let mnc := stringBytes mnc
  if mcc.length ≠ 3 then return [0x00, 0x00, 0x00] else
  let b1 := (bcd (← index mcc 1) <<< 4) ||| bcd (← index mcc 0)
  let mncD3 ← if mnc.length = 3 then bcd <$> index mnc 2 else pure 0xF
  let b2 := (mncD3 <<< 4) ||| bcd (← index mcc 2)
  let b3 := (bcd (← index mnc 1) <<< 4) ||| bcd (← index mnc 0)
  return [b1, b2, b3]

/-- A PLMN that is too short to be encoded makes the encoder panic, not fail. -/
theorem encodeMCCMNC_ne_err (e : Error) : encodeMCCMNC mcc mnc ≠ .err e := by
  unfold encodeMCCMNC
  dsimp only
  split
  · exact nofun
  · have hrest : ∀ (b1 mncD3 : UInt8) (e : Error), (do
        let d ← index (stringBytes mcc) 2
        let d2 ← index (stringBytes mnc) 1
        let d1 ← index (stringBytes mnc) 0
        return [b1, (mncD3 <<< 4) ||| bcd d, (bcd d2 <<< 4) ||| bcd d1] : Outcome Bytes) ≠
          .err e := by
      intro b1 mncD3
      refine bind_ne_err (index_ne_err _ _) fun _ => ?_
      refine bind_ne_err (index_ne_err _ _) fun _ => ?_
      exact bind_ne_err (index_ne_err _ _) fun _ _ => ok_ne_err _ _
    refine bind_ne_err (index_ne_err _ _) (fun _ => ?_) e
    refine bind_ne_err (index_ne_err _ _) fun _ e => ?_
    split
    · refine bind_ne_err ?_ (fun mncD3 => hrest _ mncD3) e
      exact bind_ne_err (index_ne_err _ _) fun _ _ => ok_ne_err _ _
    · exact hrest _ _ e

def encode5GGUTI (g : GUTIMobileIdentity) : Outcome Bytes := do
  let plmn ← encodeMCCMNC g.mcc g.mnc
  let amfRef := ((g.amfSetID &&& 0x3FF) <<< 6) ||| (g.amfID &&& 0x3F).toUInt16
  return [0xF0 ||| mobileIdentityGUTI] ++ plmn ++ [g.amfRegionID] ++
    [(amfRef >>> 8).toUInt8, amfRef.toUInt8] ++
    [(g.tmsi >>> 24).toUInt8, (g.tmsi >>> 16).toUInt8, (g.tmsi >>> 8).toUInt8, g.tmsi.toUInt8]

def encodeSNSSAILV (s : SNSSAI) : Bytes :=
  if s.sd = sdNotPresent then [1, s.sst]
  else [4, s.sst, (s.sd >>> 16).toUInt8, (s.sd >>> 8).toUInt8, s.sd.toUInt8]

def encodeNSSAI (n : NSSAI) : Bytes := n.flatMap encodeSNSSAILV

def sdFromString (sd : String) : UInt32 :=
  match hexDecode sd with
  | ([b0, b1, b2], false) => sdOfBytes b0 b1 b2
  | _ => sdNotPresent

def encodeUESecurityCapability (c : UESecurityCapability) : Bytes :=
  let bit (flag : Bool) (mask : UInt8) : UInt8 := if flag then mask else 0
  if c.raw ≠ [] then c.raw
  else
    [bit c.ea0 0x80 ||| bit c.ea1 0x40 ||| bit c.ea2 0x20 ||| bit c.ea3 0x10,
     bit c.ia0 0x80 ||| bit c.ia1 0x40 ||| bit c.ia2 0x20 ||| bit c.ia3 0x10]

def encodeNASSecurityAlgorithms (a : NASSecurityAlgorithms) : UInt8 :=
  (a.cipheringAlgorithmID <<< 4) ||| (a.integrityAlgorithmID &&& 0x0F)

/-- The octet with an ngKSI in its low half. -/
def encodeNGKSI (k : NGKSI) : UInt8 := ((k.type &&& 0x01) <<< 3) ||| (k.keySetIdentifier &&& 0x07)

theorem toNat_encodeNGKSI_lt (k : NGKSI) : (encodeNGKSI k).toNat < 16 := by
  have htype : (k.type &&& 0x01).toNat ≤ 1 := by
    exact Nat.and_le_right
  have hksi : (k.keySetIdentifier &&& 0x07).toNat ≤ 7 := by
    exact Nat.and_le_right
  have hshift : ((k.type &&& 0x01) <<< 3).toNat < 2 ^ 4 := by
    rw [UInt8.toNat_shiftLeft, Nat.shiftLeft_eq]
    simp only [reduceToNat, Nat.reduceMod, Nat.reducePow]
    omega
  rw [encodeNGKSI, UInt8.toNat_or]
  exact Nat.or_lt_two_pow hshift (by omega)

def encodeTAIList (tacs : List UInt32) : Outcome Bytes := do
  if tacs = [] then return [] else
  let tacs := tacs.take 16
  let plmn ← encodeMCCMNC mcc mnc
  return [ofNat (tacs.length - 1) &&& 0x1F] ++ plmn ++
    tacs.flatMap fun (tac : UInt32) => [(tac >>> 16).toUInt8, (tac >>> 8).toUInt8, tac.toUInt8]

theorem encodeTAIList_ne_err (tacs : List UInt32) (e : Error) :
    encodeTAIList mcc mnc tacs ≠ .err e := by
  unfold encodeTAIList
  split
  · exact nofun
  · exact bind_ne_err (encodeMCCMNC_ne_err mcc mnc) (fun _ _ => ok_ne_err _ _) e

/-- `EncodeGPRSTimer3`.  Go divides towards zero. -/
def encodeGPRSTimer3 (seconds : Int) : UInt8 :=
  let fits (unit : Int) : Bool :=
    seconds.tmod unit = 0 ∧ 1 ≤ seconds.tdiv unit ∧ seconds.tdiv unit ≤ 31
  let timer (code : UInt8) (value : Int) : UInt8 := (code <<< 5) ||| ofInt value
  if seconds = 0 then 0x00
  else if fits 3600 then timer 1 (seconds.tdiv 3600)
  else if fits 600 then timer 0 (seconds.tdiv 600)
  else if fits 60 then timer 5 (seconds.tdiv 60)
  else if fits 30 then timer 4 (seconds.tdiv 30)
  else if fits 2 then timer 3 (seconds.tdiv 2)
  else
    let mins := min (seconds.tdiv 60) 31
    timer 5 (if mins = 0 then 1 else mins)

def newNetworkFeatureSupport (imsVoPS3GPP : Bool) : Bytes :=
  [if imsVoPS3GPP then 0x01 else 0x00, 0x00]

/-! ## Network name -/

/-- `gsm7Septets`; `none` when a rune is outside the basic set. -/
def gsm7Septets (text : String) : Option Bytes :=
  text.toList.mapM fun r => (gsm7BasicSet.find? fun p => p.1 == r).map Prod.snd

def packGSM7From : Nat → Bytes → Bytes → Bytes
  | _, packed, [] => packed
  | i, packed, s :: septets =>
    let octet := i * 7 / 8
    let shift := ofNat (i * 7 % 8)
    let packed := packed.modify octet (· ||| (s <<< shift))
    let packed :=
      if 1 < shift then packed.modify (octet + 1) (· ||| (s >>> (8 - shift))) else packed
    packGSM7From (i + 1) packed septets

/-- `packGSM7`: the octets and the number of unused bits in the last one. -/
def packGSM7 (septets : Bytes) : Bytes × UInt8 :=
  let bitLen := septets.length * 7
  let octetLen := (bitLen + 7) / 8
  (packGSM7From 0 (List.replicate octetLen 0) septets, ofNat (octetLen * 8 - bitLen))

def utf16Octets (text : String) : Bytes :=
  text.toList.flatMap fun r =>
    if r.toNat < 0x10000 then be16 r.toNat
    else
      let n := r.toNat - 0x10000
      be16 (0xD800 + n / 0x400) ++ be16 (0xDC00 + n % 0x400)

def encodeNetworkName (iei : UInt8) (text : String) : Outcome Bytes :=
  if text = "" then .err (.new "nas: empty network name")
  else
    let (coding, body, spareBits) : UInt8 × Bytes × UInt8 :=
      match gsm7Septets text with
      | some septets => (0x00, packGSM7 septets)
      | none => (0x01, utf16Octets text, 0)
    let len := body.length + 1
    if 255 < len then .err (.new s!"nas: network name too long: {len} octets")
    else
      let codingBits : UInt8 := (coding &&& 0x07) <<< 4
      let header : UInt8 := 0x80 ||| codingBits ||| (spareBits &&& 0x07)
      .ok ([iei, ofNat len, header] ++ body)

/-! ## Messages -/

structure DLNASTransport where
  payloadContainerType : UInt8
  payloadContainer : Bytes
  pduSessionID : Option UInt8 := none
  cause5GMM : Option UInt8 := none
  deriving DecidableEq

structure DeregistrationRequestNW where
  cause5GMM : UInt8
  reregistrationRequired : Bool
  accessType : UInt8
  deriving DecidableEq

inductive DownlinkBody where
  | authenticationRequest (m : AuthenticationRequest)
  | identityRequest (m : IdentityRequest)
  | securityModeCommand (m : SecurityModeCommand)
  | registrationAccept (m : RegistrationAccept)
  | registrationReject (cause5GMM : UInt8)
  | serviceAccept (m : ServiceAccept)
  | deregistrationAcceptUE
  | deregistrationRequestNW (m : DeregistrationRequestNW)
  | dlNASTransport (m : DLNASTransport)
  | configurationUpdateCommand (m : ConfigurationUpdateCommand)
  | nssaaAuthCommand (m : NSSAAuth)
  | nssaaAuthResult (m : NSSAAuth)
  deriving DecidableEq

def msgTypeRegistrationReject : MessageType := 0x44
def msgTypeDeregistrationRequestNW : MessageType := 0x47
def msgTypeDLNASTransport : MessageType := 0x68

def DownlinkBody.messageType : DownlinkBody → MessageType
  | .authenticationRequest _ => msgTypeAuthenticationRequest
  | .identityRequest _ => msgTypeIdentityRequest
  | .securityModeCommand _ => msgTypeSecurityModeCommand
  | .registrationAccept _ => msgTypeRegistrationAccept
  | .registrationReject _ => msgTypeRegistrationReject
  | .serviceAccept _ => msgTypeServiceAccept
  | .deregistrationAcceptUE => msgTypeDeregistrationAcceptUE
  | .deregistrationRequestNW _ => msgTypeDeregistrationRequestNW
  | .dlNASTransport _ => msgTypeDLNASTransport
  | .configurationUpdateCommand _ => msgTypeConfigurationUpdateCommand
  | .nssaaAuthCommand _ => msgTypeNetworkSliceSpecificAuthCommand
  | .nssaaAuthResult _ => msgTypeNetworkSliceSpecificAuthResult

def encodeAuthenticationRequest (ar : AuthenticationRequest) : Bytes :=
  [encodeNGKSI ar.ngksi, ofNat ar.abba.length] ++ ar.abba ++
    [0x21] ++ ar.rand ++ [0x20, 0x10] ++ ar.autn

def encodeIdentityRequest (ir : IdentityRequest) : Bytes := [ir.identityType &&& 0x07]

def encodeSecurityModeCommand (smc : SecurityModeCommand) : Bytes :=
  let caps := encodeUESecurityCapability smc.replayedUESecurityCapabilities
  [encodeNASSecurityAlgorithms smc.selectedNASSecurityAlgorithms, encodeNGKSI smc.ngksi,
    ofNat caps.length] ++ caps ++
  (match smc.imeisvRequest with
    | some v => [0xE0 ||| (v &&& 0x07)]
    | none => []) ++
  (match smc.additional5GSecurityInfo with
    | some v => [0x36, 0x01, v]
    | none => []) ++
  (if smc.nasMessageContainer ≠ [] then
    [0x71] ++ be16 smc.nasMessageContainer.length ++ smc.nasMessageContainer
  else [])

/-- An optional element with one length octet. -/
def tlv (iei : UInt8) (value : Bytes) : Bytes := [iei, ofNat value.length] ++ value

/-- An optional element with two length octets. -/
def tlve (iei : UInt8) (value : Bytes) : Bytes := [iei] ++ be16 value.length ++ value

/-- The 5G-GUTI of a Registration Accept or a Configuration Update Command. -/
def encodeGUTIElement (mi : Option MobileIdentity) : Outcome Bytes :=
  match mi.bind MobileIdentity.guti with
  | none => .ok []
  | some guti => do
    let gutiBytes ← encode5GGUTI guti
    return [0x77] ++ be16 gutiBytes.length ++ gutiBytes

def encodeRegistrationAccept (ra : RegistrationAccept) : Outcome Bytes := do
  let guti ← encodeGUTIElement ra.fiveGGUTI
  return [0x01, ra.registrationResult] ++ guti ++
    (if ra.taiList ≠ [] then tlv 0x54 ra.taiList else []) ++ (match ra.allowedNSSAI with
      | some nssai => tlv 0x15 (encodeNSSAI nssai)
      | none => []) ++
    (match ra.configuredNSSAI with
      | some nssai => tlv 0x31 (encodeNSSAI nssai)
      | none => []) ++
    (if ra.networkFeatureSupport ≠ [] then tlv 0x21 ra.networkFeatureSupport else []) ++
    (match ra.t3512Value with
      | some v => [0x5E, 0x01, v]
      | none => [])

def encodeServiceAccept (a : ServiceAccept) : Bytes :=
  let mask (iei : UInt8) : Option UInt16 → Bytes
    | some v => [iei, 0x02, (v >>> 8).toUInt8, v.toUInt8]
    | none => []
  mask 0x50 a.pduSessionStatus ++ mask 0x26 a.pduSessionReactivationResult

def encodeDeregistrationRequestNW (r : DeregistrationRequestNW) : Bytes :=
  let reReg : UInt8 := if r.reregistrationRequired then 0x04 else 0
  [0x70 ||| reReg ||| (r.accessType &&& 0x03)] ++
    (if r.cause5GMM ≠ 0 then [0x58, r.cause5GMM] else [])

def encodeDLNASTransport (msg : DLNASTransport) : Outcome Bytes :=
  if 65535 < msg.payloadContainer.length then .err (.new "nas: payload container too long")
  else
    .ok ([msg.payloadContainerType] ++ be16 msg.payloadContainer.length ++ msg.payloadContainer ++
      (match msg.pduSessionID with
        | some psi => [ieiPDUSessionID, psi]
        | none => []) ++
      (match msg.cause5GMM with
        | some cause => [0x58, cause]
        | none => []))

def encodeOptionalName (iei : UInt8) (text wrap : String) : Outcome Bytes :=
  if text = "" then .ok []
  else
    match encodeNetworkName iei text with
    | .err e => .err (.wrap wrap e)
    | o => o

def encodeConfigurationUpdateCommand (c : ConfigurationUpdateCommand) : Outcome Bytes := do
  let guti ← encodeGUTIElement c.fiveGGUTI
  let full ← encodeOptionalName 0x43 c.fullNameForNetwork "nas: full name for network"
  let short ← encodeOptionalName 0x45 c.shortNameForNetwork "nas: short name for network"
  return (match c.configUpdateIndication with
      | some v => [0xD0 ||| (v &&& 0x0F)]
      | none => []) ++ guti ++
    (if c.taiList ≠ [] then tlv 0x54 c.taiList else []) ++ (match c.allowedNSSAI with
      | some nssai => tlv 0x15 (encodeNSSAI nssai)
      | none => []) ++ full ++ short ++
    (match c.configuredNSSAI with
      | some nssai => tlv 0x31 (encodeNSSAI nssai)
      | none => []) ++
    (match c.networkSlicingIndication with
      | some v => [0x90 ||| (v &&& 0x0F)]
      | none => [])

def encodeNSSAABody (m : NSSAAuth) : Bytes :=
  encodeSNSSAILV m.snssai ++ be16 m.eapMessage.length ++ m.eapMessage

def encodeBody : DownlinkBody → Outcome Bytes
  | .authenticationRequest m => .ok (encodeAuthenticationRequest m)
  | .identityRequest m => .ok (encodeIdentityRequest m)
  | .securityModeCommand m => .ok (encodeSecurityModeCommand m)
  | .registrationAccept m => encodeRegistrationAccept m
  | .registrationReject cause => .ok [cause]
  | .serviceAccept m => .ok (encodeServiceAccept m)
  | .deregistrationAcceptUE => .ok []
  | .deregistrationRequestNW m => .ok (encodeDeregistrationRequestNW m)
  | .dlNASTransport m => encodeDLNASTransport m
  | .configurationUpdateCommand m => encodeConfigurationUpdateCommand m
  | .nssaaAuthCommand m => .ok (encodeNSSAABody m)
  | .nssaaAuthResult m => .ok (encodeNSSAABody m)

/-- `Encode` of a message with a plain security header. -/
def encode (body : DownlinkBody) : Outcome Bytes := do
  return [0x7E, 0x00, body.messageType] ++ (← encodeBody body)

/-! ## 5GSM messages built by the AMF -/

def wrapPDUSessionEstablishmentAcceptBody (pduSessionID pti : UInt8) (body : Bytes) : Bytes :=
  [0x2E, pduSessionID, pti, 0xC2] ++ body

def wrapPDUSessionReleaseCommandBody (pduSessionID pti cause : UInt8) : Bytes :=
  [0x2E, pduSessionID, pti, 0xD3, cause]

end Claudia5gc.Nas
