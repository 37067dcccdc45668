import Claudia5gc.Nas.Ie

/-!
# Registration and deregistration messages

The decoders of REGISTRATION REQUEST, REGISTRATION ACCEPT and DEREGISTRATION REQUEST.  The first two
hand elements to `decodeNSSAI` and inherit its panic: `returns_decodeRegistrationRequest_iff` and
`returns_decodeRegistrationAccept_iff` say on which octets.
-/

namespace Claudia5gc.Nas

open Go Proc Layout

/-! ## Registration Request -/

/-- `RegistrationRequest`, with the optional elements that the decoder sets. -/
structure RegistrationRequest where
  registrationType : UInt8
  followOnRequest : Bool
  ngksi : NGKSI
  mobileIdentity : MobileIdentity
  fiveGMMCapability : Bytes := []
  ueSecurityCapability : Option UESecurityCapability := none
  requestedNSSAI : Option NSSAI := none
  deriving DecidableEq

def iei5GMMCapability : UInt8 := 0x10
def ieiUESecurityCapability : UInt8 := 0x2E
def ieiRequestedNSSAI : UInt8 := 0x2F

/-- The elements of a Registration Request with a two-octet length: the NAS
message container, the EPS NAS message container, the additional GUTI, the
payload container and the LADN indication, the last under two IEIs. -/
def registrationRequestTLVE : List UInt8 := [0x71, 0x70, 0x77, 0x7B, 0x74, 0x7E]

def registrationRequestIE (iei : UInt8) (r : RegistrationRequest) :
    Proc Reader (Ctl RegistrationRequest) :=
  if iei = iei5GMMCapability then do
    let v ← requireLV
    return .next { r with fiveGMMCapability := v }
  else if iei = ieiUESecurityCapability then do
    let capBytes ← requireLV
    let cap ← lift (decodeUESecurityCapability capBytes)
    return .next { r with ueSecurityCapability := some cap }
  else if iei = ieiRequestedNSSAI then do
    let nssaiBytes ← requireLV
    match ← lift (decodeNSSAI nssaiBytes) with
    | (_, some err) => fail err
    | (nssai, none) => return .next { r with requestedNSSAI := some nssai }
  else if iei ∈ registrationRequestTLVE then do
    skipLVE
    return .next r
  else if iei < 0x80 then do
    skipLV
    return .next r
  else return .next r

def registrationRequestHead : Proc Reader RegistrationRequest := do
  let combined ← readByte
  let miHi ← readByte
  let miLo ← readByte
  let miBytes ← (readBytes (beNat miHi miLo)).wrapErr "nas: mobile identity"
  let mi ← lift (decodeMobileIdentity miBytes)
  return {
    registrationType := combined &&& 0x07
    followOnRequest := (combined >>> 3) &&& 0x01 = 1
    ngksi := { type := (combined >>> 7) &&& 0x01
               keySetIdentifier := (combined >>> 4) &&& 0x07 }
    mobileIdentity := mi }

def decodeRegistrationRequest (b : Bytes) : Outcome RegistrationRequest :=
  let len := b.length
  if len < 3 then .err (.new s!"nas: RegistrationRequest too short: {len}")
  else ((registrationRequestHead >>= forEachIE 1 registrationRequestIE).run b).1

def registrationRequestOptional : Bytes → Option Bytes
  | _ :: hi :: lo :: r =>
    if beNat hi lo ≤ r.length ∧ mobileIdentityFits (r.take (beNat hi lo)) then
      some (r.drop (beNat hi lo))
    else none
  | _ => none

def registrationRequestWalk : IEWalk where
  layout iei :=
    if iei ∈ registrationRequestTLVE then .lve else if iei < 0x80 then .lv else .bare
  handed iei r := if iei = ieiRequestedNSSAI then some (lvValue r) else none
  rejects iei r :=
    if iei = iei5GMMCapability then !lvFits r
    else if iei = ieiUESecurityCapability then
      !lvFits r || decide ((lvValue r).length < 2)
    else if iei = ieiRequestedNSSAI then
      !lvFits r || decide (nssaiEnd (lvValue r) = .truncated)
    else false

/-- The values that the decoder hands to `DecodeNSSAI`. -/
def registrationRequestNSSAIs (b : Bytes) : List Bytes :=
  match registrationRequestOptional b with
  | some r => registrationRequestWalk.reached r
  | none => []

section RequestWalk

variable {a : RegistrationRequest} {r : Bytes}

private theorem rejects_securityCapability :
    registrationRequestWalk.rejects ieiUESecurityCapability r =
      (!lvFits r || decide ((lvValue r).length < 2)) := rfl

private theorem rejects_requestedNSSAI : registrationRequestWalk.rejects ieiRequestedNSSAI r =
      (!lvFits r || decide (nssaiEnd (lvValue r) = .truncated)) := rfl

private theorem foresees_securityCapability :
    registrationRequestWalk.Foresees EndsEmpty ieiUESecurityCapability r
      ((registrationRequestIE ieiUESecurityCapability a).run r) := by
  have htrap : ¬registrationRequestWalk.Traps EndsEmpty ieiUESecurityCapability r :=
    not_traps_of_none rfl
  refine foresees_requireLV (fun h => ⟨?_, htrap⟩) fun hfit => ?_
  · simp [rejects_securityCapability, h]
  rcases Nat.lt_or_ge (lvValue r).length 2 with hlen | hlen
  · obtain ⟨e, he⟩ := decodeUESecurityCapability_err hlen
    rw [he]
    exact ⟨by simp [rejects_securityCapability, hlen], htrap⟩
  · obtain ⟨c, hc⟩ := decodeUESecurityCapability_ok hlen
    rw [hc]
    refine ⟨rfl, ?_, htrap⟩
    rw [rejects_securityCapability, hfit, decide_eq_false (Nat.not_lt.mpr hlen)]
    rfl

private theorem foresees_requestedNSSAI :
    registrationRequestWalk.Foresees EndsEmpty ieiRequestedNSSAI r
      ((registrationRequestIE ieiRequestedNSSAI a).run r) := by
  have hhanded : registrationRequestWalk.handed ieiRequestedNSSAI r = some (lvValue r) := rfl
  refine foresees_requireLV (fun h => ⟨?_, not_traps_of_handed hhanded ?_⟩) fun hfit => ?_
  · simp [rejects_requestedNSSAI, h]
  · rw [lvValue_of_truncated h, EndsEmpty, nssaiEnd]
    decide
  have heq := decodeNSSAI_eq (lvValue r)
  cases hend : nssaiEnd (lvValue r) <;> rw [hend] at heq
  · obtain ⟨n, hn⟩ := heq
    rw [hn]
    exact ⟨rfl, by simp [rejects_requestedNSSAI, hfit, hend],
      not_traps_of_handed hhanded (by simp [EndsEmpty, hend])⟩
  · obtain ⟨n, e, hn⟩ := heq
    rw [hn]
    exact ⟨by simp [rejects_requestedNSSAI, hend],
      not_traps_of_handed hhanded (by simp [EndsEmpty, hend])⟩
  · rw [heq]
    exact ⟨lvValue r, hhanded, hend⟩

theorem registrationRequestWalk_follows :
    registrationRequestWalk.Follows EndsEmpty registrationRequestIE := by
  intro iei a r
  by_cases h2F : iei = ieiRequestedNSSAI
  · exact h2F ▸ foresees_requestedNSSAI
  by_cases h2E : iei = ieiUESecurityCapability
  · exact h2E ▸ foresees_securityCapability
  have htrap : ¬registrationRequestWalk.Traps EndsEmpty iei r :=
    not_traps_of_none (by simp [registrationRequestWalk, h2F])
  by_cases h10 : iei = iei5GMMCapability
  · subst h10
    exact foresees_requireLV (fun h => ⟨by simp [registrationRequestWalk, h], htrap⟩)
      fun hfit => ⟨rfl, by simp [registrationRequestWalk, hfit], htrap⟩
  have hrej : registrationRequestWalk.rejects iei r = false := by
    simp [registrationRequestWalk, h10, h2E, h2F]
  rw [registrationRequestIE, if_neg h10, if_neg h2E, if_neg h2F]
  split
  · rename_i hE
    rw [run_bind_ok (run_skipLVE r)]
    exact ⟨by simp [registrationRequestWalk, hE, tail], hrej, htrap⟩
  · rename_i hE
    split_ifs with hlt
    · rw [run_bind_ok (run_skipLV r)]
      exact ⟨by simp [registrationRequestWalk, hE, hlt, tail], hrej, htrap⟩
    · exact ⟨by simp [registrationRequestWalk, hE, hlt, tail], hrej, htrap⟩

end RequestWalk

variable (b : Bytes)

theorem run_registrationRequestHead : match registrationRequestOptional b with
    | some r => ∃ m, registrationRequestHead.run b = (.ok m, r)
    | none => ∃ e r, registrationRequestHead.run b = (.err e, r) := by
  match b with
  | [] => exact ⟨_, _, rfl⟩
  | [_] => exact ⟨_, _, rfl⟩
  | [_, _] => exact ⟨_, _, rfl⟩
  | c :: hi :: lo :: r =>
    rw [registrationRequestHead, run_bind_ok (run_readByte_cons c _),
      run_bind_ok (run_readByte_cons hi _), run_bind_ok (run_readByte_cons lo _),
      run_bind, run_wrapErr, registrationRequestOptional]
    by_cases hlen : beNat hi lo ≤ r.length
    · rw [run_readBytes_of_le hlen]
      cases hfits : mobileIdentityFits (r.take (beNat hi lo))
      · obtain ⟨e, he⟩ := decodeMobileIdentity_err hfits
        simp [hlen, run_bind, he]
      · obtain ⟨mi, hmi⟩ := decodeMobileIdentity_ok hfits
        simp [hlen, run_bind, hmi]
    · obtain ⟨e, he⟩ := run_readBytes_of_lt (Nat.lt_of_not_le hlen)
      simp [hlen, he]

theorem returns_decodeRegistrationRequest_iff : (decodeRegistrationRequest b).Returns ↔
      ∀ v ∈ registrationRequestNSSAIs b, ¬EndsEmpty v := by
  have hhead := run_registrationRequestHead b
  rw [decodeRegistrationRequest, registrationRequestNSSAIs]
  split_ifs with hlen
  · have hnone : registrationRequestOptional b = none := by
      match b with
      | [] | [_] | [_, _] => rfl
      | _ :: _ :: _ :: _ => simp at hlen; omega
    simp [hnone]
  · cases hopt : registrationRequestOptional b with
    | none =>
      rw [hopt] at hhead
      obtain ⟨e, r, he⟩ := hhead
      rw [run_bind_err he]
      simp
    | some r =>
      rw [hopt] at hhead
      obtain ⟨m, hm⟩ := hhead
      rw [run_bind_ok hm]
      exact IEWalk.returns_forEachIE_iff registrationRequestWalk_follows m r

/-! ## Registration Accept -/

structure RegistrationAccept where
  registrationResult : UInt8 := 0
  fiveGGUTI : Option MobileIdentity := none
  taiList : Bytes := []
  allowedNSSAI : Option NSSAI := none
  configuredNSSAI : Option NSSAI := none
  networkFeatureSupport : Bytes := []
  t3512Value : Option UInt8 := none
  deriving DecidableEq

def registrationAcceptIE (iei : UInt8) (ra : RegistrationAccept) :
    Proc Reader (Ctl RegistrationAccept) :=
  if iei = 0x77 then do
    let gutiBytes ← readLVE
    let mi ← lift (decodeMobileIdentityOrNil gutiBytes)
    return .next { ra with fiveGGUTI := mi }
  else if iei = 0x54 then do
    let taiBytes ← readLV
    return .next { ra with taiList := taiBytes }
  else if iei = 0x15 then do
    let nssai ← readNSSAI
    return .next { ra with allowedNSSAI := some nssai }
  else if iei = 0x31 then do
    let nssai ← readNSSAI
    return .next { ra with configuredNSSAI := some nssai }
  else if iei = 0x21 then do
    let nfsBytes ← readLV
    return .next { ra with networkFeatureSupport := nfsBytes }
  else if iei = 0x5E then do
    let valB ← readLV
    match valB with
    | v :: _ => return .next { ra with t3512Value := some v }
    | [] => return .next ra
  else if iei < 0x80 then do
    skipLV
    return .next ra
  else return .next ra

def decodeRegistrationAccept : Outcome RegistrationAccept :=
  if b.length < 2 then .err (.new "nas: RegistrationAccept too short")
  else
    (run (do
      let valBytes ← readLV
      forEachIE 1 registrationAcceptIE { registrationResult := valBytes.headD 0 }) b).1

def registrationAcceptNSSAIs : List Bytes :=
  if b.length < 2 then [] else lenientWalk.reached (lvTail b)

theorem lenientWalk_follows_registrationAccept :
    lenientWalk.Follows EndsEmpty registrationAcceptIE := by
  intro iei a r
  by_cases h15 : iei = 0x15
  · subst h15
    exact foresees_readNSSAI (fun n => ⟨_, rfl⟩) (by rfl) (by rfl) (by rfl)
  by_cases h31 : iei = 0x31
  · subst h31
    exact foresees_readNSSAI (fun n => ⟨_, rfl⟩) (by rfl) (by rfl) (by rfl)
  have htrap : ¬lenientWalk.Traps EndsEmpty iei r :=
    not_traps_of_none (by simp [lenientWalk, h15, h31])
  unfold registrationAcceptIE
  split
  · rename_i h
    subst h
    refine foresees_readLVE (fun v => ?_) rfl rfl htrap
    obtain ⟨mi, hmi⟩ := decodeMobileIdentityOrNil_ok v
    exact ⟨_, by rw [hmi]; rfl⟩
  rename_i h77
  split
  · rename_i h
    subst h
    exact foresees_readLV (fun v => ⟨_, rfl⟩) rfl rfl htrap
  split
  · rename_i h
    subst h
    exact foresees_readLV (fun v => ⟨_, rfl⟩) rfl rfl htrap
  split
  · rename_i h
    subst h
    refine foresees_readLV (fun v => ?_) rfl rfl htrap
    cases v <;> exact ⟨_, rfl⟩
  split_ifs with hlt
  · rw [run_bind_ok (run_skipLV r)]
    exact ⟨by simp [lenientWalk, h77, hlt, tail], rfl, htrap⟩
  · exact ⟨by simp [lenientWalk, h77, hlt, tail], rfl, htrap⟩

theorem returns_decodeRegistrationAccept_iff : (decodeRegistrationAccept b).Returns ↔
      ∀ v ∈ registrationAcceptNSSAIs b, ¬EndsEmpty v := by
  rw [decodeRegistrationAccept, registrationAcceptNSSAIs]
  split
  · simp
  · rw [run_bind_ok (run_readLV b)]
    exact IEWalk.returns_forEachIE_iff lenientWalk_follows_registrationAccept _ _

/-! ## Deregistration Request -/

structure DeregistrationRequest where
  switchOff : Bool
  accessType : UInt8
  ngksi : NGKSI
  mobileIdentity : MobileIdentity
  deriving DecidableEq

def deregistrationRequestBody : Proc Reader DeregistrationRequest := do
  let combined ← readByte
  let miHi ← readByte.wrapErr "nas: DeregistrationRequest: mobile identity length hi"
  let miLo ← readByte.wrapErr "nas: DeregistrationRequest: mobile identity length lo"
  let miBytes ← (readBytes (beNat miHi miLo)).wrapErr
    "nas: DeregistrationRequest: mobile identity"
  let mi ← (lift (decodeMobileIdentity miBytes)).wrapErr
    "nas: DeregistrationRequest: decode mobile identity"
  return {
    switchOff := (combined >>> 3) &&& 0x01 = 1
    accessType := combined &&& 0x03
    ngksi := { type := (combined >>> 7) &&& 0x01
               keySetIdentifier := (combined >>> 4) &&& 0x07 }
    mobileIdentity := mi }

def decodeDeregistrationRequest : Outcome DeregistrationRequest :=
  let len := b.length
  if len < 1 then .err (.new s!"nas: DeregistrationRequest too short: {len} bytes")
  else (deregistrationRequestBody.run b).1

theorem forward_deregistrationRequestBody : Forward deregistrationRequestBody :=
  forward_readByte.bind fun _ => (forward_readByte.wrapErr _).bind fun _ =>
    (forward_readByte.wrapErr _).bind fun _ =>
    ((forward_readBytes _).wrapErr _).bind fun v =>
    (Proc.Total.wrapErr (.lift (returns_decodeMobileIdentity v)) _).bind fun _ => .pure _

theorem returns_decodeDeregistrationRequest : (decodeDeregistrationRequest b).Returns := by
  rw [decodeDeregistrationRequest]
  split
  · trivial
  · exact (forward_deregistrationRequestBody b).1

end Claudia5gc.Nas
