import Claudia5gc.Nas.AuthSecurity
import Claudia5gc.Nas.ConfigurationUpdate
import Claudia5gc.Nas.Registration
import Claudia5gc.Nas.Transport

/-!
# The 5GMM decoder

`Decode` is what the AMF runs on the octets of an uplink NAS message, protected or not, before
anything about the sender is known.  It strips the header and hands the rest to the decoder of the
message type.
-/

namespace Claudia5gc.Nas

open Go Outcome

/-! ## Message types -/

abbrev MessageType := UInt8

def msgTypeRegistrationRequest : MessageType := 0x41
def msgTypeRegistrationAccept : MessageType := 0x42
def msgTypeRegistrationComplete : MessageType := 0x43
def msgTypeDeregistrationRequestUE : MessageType := 0x45
def msgTypeDeregistrationAcceptUE : MessageType := 0x46
def msgTypeServiceRequest : MessageType := 0x4C
def msgTypeServiceAccept : MessageType := 0x4E
def msgTypeNetworkSliceSpecificAuthCommand : MessageType := 0x50
def msgTypeNetworkSliceSpecificAuthComplete : MessageType := 0x51
def msgTypeNetworkSliceSpecificAuthResult : MessageType := 0x52
def msgTypeConfigurationUpdateCommand : MessageType := 0x54
def msgTypeConfigurationUpdateComplete : MessageType := 0x55
def msgTypeAuthenticationRequest : MessageType := 0x56
def msgTypeAuthenticationResponse : MessageType := 0x57
def msgTypeAuthenticationFailure : MessageType := 0x59
def msgTypeIdentityRequest : MessageType := 0x5B
def msgTypeIdentityResponse : MessageType := 0x5C
def msgTypeSecurityModeCommand : MessageType := 0x5D
def msgTypeSecurityModeComplete : MessageType := 0x5E
def msgTypeSecurityModeReject : MessageType := 0x5F
def msgTypeULNASTransport : MessageType := 0x67

structure Header where
  extendedProtocolDiscriminator : UInt8
  securityHeaderType : UInt8
  messageAuthenticationCode : Bytes := [0, 0, 0, 0]
  sequenceNumber : UInt8 := 0
  messageType : MessageType
  deriving DecidableEq

/-- The types that the `Body` field of a `Message` takes. -/
inductive Body where
  | registrationRequest (m : RegistrationRequest)
  | registrationAccept (m : RegistrationAccept)
  | registrationComplete
  | authenticationRequest (m : AuthenticationRequest)
  | authenticationResponse (m : AuthenticationResponse)
  | authenticationFailure (m : AuthenticationFailure)
  | securityModeCommand (m : SecurityModeCommand)
  | securityModeComplete (m : SecurityModeComplete)
  | securityModeReject (m : SecurityModeReject)
  | identityRequest (m : IdentityRequest)
  | identityResponse (m : IdentityResponse)
  | ulNASTransport (m : ULNASTransport)
  | deregistrationRequest (m : DeregistrationRequest)
  | deregistrationAcceptUE
  | serviceRequest (m : ServiceRequest)
  | serviceAccept (m : ServiceAccept)
  | configurationUpdateCommand (m : ConfigurationUpdateCommand)
  | configurationUpdateComplete
  | nssaaAuthCommand (m : NSSAAuth)
  | nssaaAuthComplete (m : NSSAAuth)
  | nssaaAuthResult (m : NSSAAuth)
  | raw (data : Bytes)
  deriving DecidableEq

structure Message where
  header : Header
  body : Body
  deriving DecidableEq

/-- The `switch` of `decodeBody` over the message type. -/
def decodeBodyOf (type : MessageType) (b : Bytes) : Outcome Body :=
  if type = msgTypeRegistrationRequest then
    .registrationRequest <$> decodeRegistrationRequest b
  else if type = msgTypeRegistrationAccept then
    .registrationAccept <$> decodeRegistrationAccept b
  else if type = msgTypeRegistrationComplete then .ok .registrationComplete
  else if type = msgTypeAuthenticationRequest then
    .authenticationRequest <$> decodeAuthenticationRequest b
  else if type = msgTypeAuthenticationResponse then
    .authenticationResponse <$> decodeAuthenticationResponse b
  else if type = msgTypeAuthenticationFailure then
    .authenticationFailure <$> decodeAuthenticationFailure b
  else if type = msgTypeSecurityModeCommand then
    .securityModeCommand <$> decodeSecurityModeCommand b
  else if type = msgTypeSecurityModeComplete then
    .securityModeComplete <$> decodeSecurityModeComplete b
  else if type = msgTypeSecurityModeReject then
    .securityModeReject <$> decodeSecurityModeReject b
  else if type = msgTypeIdentityRequest then
    .identityRequest <$> decodeIdentityRequest b
  else if type = msgTypeIdentityResponse then
    .identityResponse <$> decodeIdentityResponse b
  else if type = msgTypeULNASTransport then
    .ulNASTransport <$> decodeULNASTransport b
  else if type = msgTypeDeregistrationRequestUE then
    .deregistrationRequest <$> decodeDeregistrationRequest b
  else if type = msgTypeDeregistrationAcceptUE then .ok .deregistrationAcceptUE
  else if type = msgTypeServiceRequest then .serviceRequest <$> decodeServiceRequest b
  else if type = msgTypeServiceAccept then .serviceAccept <$> decodeServiceAccept b
  else if type = msgTypeConfigurationUpdateCommand then
    .configurationUpdateCommand <$> decodeConfigurationUpdateCommand b
  else if type = msgTypeConfigurationUpdateComplete then
    .ok .configurationUpdateComplete
  else if type = msgTypeNetworkSliceSpecificAuthCommand then
    .nssaaAuthCommand <$> decodeNSSAABody b
  else if type = msgTypeNetworkSliceSpecificAuthComplete then
    .nssaaAuthComplete <$> decodeNSSAABody b
  else if type = msgTypeNetworkSliceSpecificAuthResult then
    .nssaaAuthResult <$> decodeNSSAABody b
  else .ok (.raw b)

def decodeBody (header : Header) (b : Bytes) : Outcome Message := do
  return { header, body := ← decodeBodyOf header.messageType b }

def decode (data : Bytes) : Outcome Message := do
  if data.length < 3 then .err (.new "nas: PDU too short") else
  let epd ← index data 0
  let sht := (← index data 1) &&& 0x0F
  if sht = 0x00 then
    if data.length < 3 then .err (.new "nas: plain PDU too short") else
    let messageType ← index data 2
    decodeBody { extendedProtocolDiscriminator := epd, securityHeaderType := sht, messageType }
      (← sliceFrom data 3)
  else
    if data.length < 9 then .err (.new "nas: security PDU too short") else
    let messageAuthenticationCode ← slice data 2 6
    let sequenceNumber ← index data 6
    let inner ← sliceFrom data 7
    if inner.length < 3 then .err (.new "nas: inner PDU too short") else
    let messageType ← index inner 2
    decodeBody {
      extendedProtocolDiscriminator := epd, securityHeaderType := sht,
      messageAuthenticationCode, sequenceNumber, messageType }
      (← sliceFrom inner 3)

/-! ## Where the decoder panics -/

def messageOf : Bytes → Option (MessageType × Bytes)
  | epd :: sht :: octet :: rest =>
    if sht &&& 0x0F = 0x00 then some (octet, rest)
    else
      match (epd :: sht :: octet :: rest).drop 7 with
      | _ :: _ :: messageType :: b => some (messageType, b)
      | _ => none
  | _ => none

def bodyNSSAIs (type : MessageType) (b : Bytes) : List Bytes :=
  if type = msgTypeRegistrationRequest then registrationRequestNSSAIs b
  else if type = msgTypeRegistrationAccept then registrationAcceptNSSAIs b
  else if type = msgTypeConfigurationUpdateCommand then lenientWalk.reached b
  else []

/-- The values in a PDU that are decoded as an NSSAI. -/
def reachedNSSAIs (data : Bytes) : List Bytes :=
  match messageOf data with
  | some (type, b) => bodyNSSAIs type b
  | none => []

theorem decode_eq (data : Bytes) : match messageOf data with
    | some (type, b) =>
      ∃ header : Header, header.messageType = type ∧ decode data = decodeBody header b
    | none => ∃ e, decode data = .err e := by
  match data with
  | [] => exact ⟨_, rfl⟩
  | [_] => exact ⟨_, rfl⟩
  | [_, _] => exact ⟨_, rfl⟩
  | epd :: sht :: octet :: rest =>
    rw [messageOf]
    by_cases hsht : sht &&& 0x0F = 0x00
    · rw [if_pos hsht]
      refine ⟨⟨epd, 0x00, [0, 0, 0, 0], 0, octet⟩, rfl, ?_⟩
      simp [decode, hsht, sliceFrom, show ¬rest.length + 1 + 1 + 1 < 3 by omega]
    · rw [if_neg hsht]
      generalize hdata : epd :: sht :: octet :: rest = data
      have hlen3 : ¬data.length < 3 := by
        rw [← hdata]
        simp only [List.length_cons]
        omega
      have hsht' : index data 1 = .ok sht := by rw [← hdata]; rfl
      have hepd : index data 0 = .ok epd := by rw [← hdata]; rfl
      rw [decode, if_neg hlen3, hepd, ok_bind, hsht', ok_bind]
      rw [if_neg hsht]
      by_cases hlen : data.length < 9
      · rw [if_pos hlen]
        have hinner : (data.drop 7).length < 3 := by
          rw [List.length_drop]
          omega
        match data.drop 7, hinner with
        | [], _ => exact ⟨_, rfl⟩
        | [_], _ => exact ⟨_, rfl⟩
        | [_, _], _ => exact ⟨_, rfl⟩
      · rw [if_neg hlen, slice_of_le (by omega) (by omega), ok_bind,
          index_of_lt (by omega), ok_bind, sliceFrom_of_le (by omega), ok_bind]
        match data.drop 7 with
        | [] => exact ⟨_, rfl⟩
        | [_] => exact ⟨_, rfl⟩
        | [_, _] => exact ⟨_, rfl⟩
        | _ :: _ :: type :: b =>
          refine ⟨⟨epd, sht &&& 0x0F, (data.drop 2).take 4, data[6], type⟩, rfl, ?_⟩
          rfl

theorem returns_decodeBodyOf {type : MessageType}
    (hrr : type ≠ msgTypeRegistrationRequest) (hra : type ≠ msgTypeRegistrationAccept)
    (hcu : type ≠ msgTypeConfigurationUpdateCommand) (b : Bytes) :
    (decodeBodyOf type b).Returns := by
  have hmap {α : Type} {f : α → Body} {x : Outcome α} (hx : x.Returns) :
      (f <$> x).Returns := (returns_map f x).mpr hx
  rw [decodeBodyOf, if_neg hrr, if_neg hra]
  refine returns_ite (fun _ => trivial) fun _ => ?_
  refine returns_ite
    (fun _ => hmap (returns_decodeAuthenticationRequest b)) fun _ => ?_
  refine returns_ite
    (fun _ => hmap (returns_decodeAuthenticationResponse b)) fun _ => ?_
  refine returns_ite
    (fun _ => hmap (returns_decodeAuthenticationFailure b)) fun _ => ?_
  refine returns_ite
    (fun _ => hmap (returns_decodeSecurityModeCommand b)) fun _ => ?_
  refine returns_ite
    (fun _ => hmap (returns_decodeSecurityModeComplete b)) fun _ => ?_
  refine returns_ite
    (fun _ => hmap (returns_decodeSecurityModeReject b)) fun _ => ?_
  refine returns_ite
    (fun _ => hmap (returns_decodeIdentityRequest b)) fun _ => ?_
  refine returns_ite
    (fun _ => hmap (returns_decodeIdentityResponse b)) fun _ => ?_
  refine returns_ite
    (fun _ => hmap (returns_decodeULNASTransport b)) fun _ => ?_
  refine returns_ite
    (fun _ => hmap (returns_decodeDeregistrationRequest b)) fun _ => ?_
  refine returns_ite (fun _ => trivial) fun _ => ?_
  refine returns_ite
    (fun _ => hmap (returns_decodeServiceRequest b)) fun _ => ?_
  refine returns_ite
    (fun _ => hmap (returns_decodeServiceAccept b)) fun _ => ?_
  rw [if_neg hcu]
  refine returns_ite (fun _ => trivial) fun _ => ?_
  refine returns_ite (fun _ => hmap (returns_decodeNSSAABody b)) fun _ => ?_
  refine returns_ite (fun _ => hmap (returns_decodeNSSAABody b)) fun _ => ?_
  exact returns_ite (fun _ => hmap (returns_decodeNSSAABody b)) fun _ => trivial

theorem returns_decodeBodyOf_iff (type : MessageType) (b : Bytes) : (decodeBodyOf type b).Returns ↔
      ∀ v ∈ bodyNSSAIs type b, ¬EndsEmpty v := by
  by_cases hrr : type = msgTypeRegistrationRequest
  · rw [decodeBodyOf, bodyNSSAIs, if_pos hrr, if_pos hrr, returns_map]
    exact returns_decodeRegistrationRequest_iff b
  by_cases hra : type = msgTypeRegistrationAccept
  · rw [decodeBodyOf, bodyNSSAIs, if_neg hrr, if_neg hrr, if_pos hra, if_pos hra, returns_map]
    exact returns_decodeRegistrationAccept_iff b
  by_cases hcu : type = msgTypeConfigurationUpdateCommand
  · subst hcu
    exact (returns_map _ _).trans (returns_decodeConfigurationUpdateCommand_iff b)
  · rw [bodyNSSAIs, if_neg hrr, if_neg hra, if_neg hcu]
    simp [returns_decodeBodyOf hrr hra hcu b]

/-- `Decode` returns a message or an error exactly when none of the values that
it decodes as an NSSAI ends in the length octet of an empty S-NSSAI. -/
theorem returns_decode_iff (data : Bytes) :
    (decode data).Returns ↔ ∀ v ∈ reachedNSSAIs data, ¬EndsEmpty v := by
  have heq := decode_eq data
  rw [reachedNSSAIs]
  cases hmsg : messageOf data with
  | none =>
    rw [hmsg] at heq
    obtain ⟨e, he⟩ := heq
    simp [he]
  | some m =>
    obtain ⟨type, b⟩ := m
    rw [hmsg] at heq
    obtain ⟨header, rfl, hdec⟩ := heq
    have hbody : (decodeBody header b).Returns ↔ (decodeBodyOf header.messageType b).Returns := by
      rw [decodeBody]
      cases decodeBodyOf header.messageType b <;> exact Iff.rfl
    rw [hdec, hbody]
    exact returns_decodeBodyOf_iff header.messageType b

/-- A plain Registration Request with a requested NSSAI of one zero octet takes
the decoder down. -/
theorem decode_registrationRequest_panics :
    decode [0x7E, 0x00, 0x41, 0x79, 0x00, 0x01, 0x00, 0x2F, 0x01, 0x00] = .panic := by
  decide +kernel

end Claudia5gc.Nas
