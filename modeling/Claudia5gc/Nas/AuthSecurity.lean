import Claudia5gc.Nas.Ie

/-!
# Authentication, identity and security mode messages

The decoders of the messages of the authentication and security mode control procedures, and of the
slice-specific authentication that follows registration.  All of them return on every input.
-/

namespace Claudia5gc.Nas

open Go Outcome

variable (b : Bytes)

/-! ## Authentication -/

def copyInto (dst src : Bytes) : Bytes := src.take dst.length ++ dst.drop src.length

structure AuthenticationRequest where
  ngksi : NGKSI := {}
  abba : Bytes := [0, 0]
  rand : Bytes := List.replicate 16 0
  autn : Bytes := List.replicate 16 0
  eapMessage : Bytes := []
  deriving DecidableEq

variable (iei : UInt8)

def authenticationRequestIE (ar : AuthenticationRequest) :
    Proc Reader (Ctl AuthenticationRequest) :=
  if iei = 0x21 then do
    let randBytes ← (readBytes 16).orZero []
    return .next { ar with rand := copyInto ar.rand randBytes }
  else if iei = 0x20 then do
    let autnBytes ← readLV
    return .next { ar with autn := copyInto ar.autn autnBytes }
  else if iei = 0x78 then do
    let eapMessage ← readLVE
    return .next { ar with eapMessage }
  else do
    let _ ← readLV
    return .next ar

def authenticationRequestBody : Proc Reader AuthenticationRequest := do
  let ngksi ← readByte.orZero 0
  let abba ← match ← requireLV.attempt with
    | .ok (a0 :: a1 :: _) => pure [a0, a1]
    | _ => pure [0, 0]
  forEachIE 1 authenticationRequestIE {
    ngksi := { keySetIdentifier := ngksi &&& 0x07, type := (ngksi >>> 3) &&& 0x01 }
    abba }

def decodeAuthenticationRequest (b : Bytes) : Outcome AuthenticationRequest :=
  if b.length < 1 then .err (.new "nas: AuthenticationRequest too short")
  else (authenticationRequestBody.run b).1

structure AuthenticationResponse where
  res : Bytes := []
  eapMessage : Bytes := []
  deriving DecidableEq

def authenticationResponseIE (ar : AuthenticationResponse) :
    Proc Reader (Ctl AuthenticationResponse) :=
  if iei = 0x2D then do
    let res ← readLV
    return .next { ar with res }
  else if iei = 0x78 then do
    let eapMessage ← readLVE
    return .next { ar with eapMessage }
  else do
    let _ ← readLV
    return .next ar

def decodeAuthenticationResponse (b : Bytes) : Outcome AuthenticationResponse :=
  ((forEachIE 1 authenticationResponseIE {}).run b).1

structure AuthenticationFailure where
  cause5GMM : UInt8 := 0
  auts : Bytes := []
  deriving DecidableEq

def authenticationFailureIE (af : AuthenticationFailure) :
    Proc Reader (Ctl AuthenticationFailure) :=
  if iei = 0x30 then do
    let auts ← readLV
    return .next { af with auts }
  else do
    let _ ← readLV
    return .next af

def decodeAuthenticationFailure (b : Bytes) : Outcome AuthenticationFailure :=
  if b.length < 1 then .err (.new "nas: AuthenticationFailure empty")
  else
    (Proc.run (do
      let cause ← readByte.orZero 0
      forEachIE 1 authenticationFailureIE { cause5GMM := cause }) b).1

theorem forward_readLV_next {α : Type} (f : Bytes → α) :
    Forward (readLV >>= fun v => pure (Ctl.next (f v))) :=
  forward_readLV.bind fun _ => .pure _

theorem forward_readLVE_next {α : Type} (f : Bytes → α) :
    Forward (readLVE >>= fun v => pure (Ctl.next (f v))) :=
  forward_readLVE.bind fun _ => .pure _

theorem forward_authenticationRequestIE (ar : AuthenticationRequest) :
    Forward (authenticationRequestIE iei ar) :=
  .ite (fun _ => ((forward_readBytes 16).orZero []).bind fun _ => .pure _) fun _ =>
    .ite (fun _ => forward_readLV_next _) fun _ =>
    .ite (fun _ => forward_readLVE_next _) fun _ => forward_readLV_next _

theorem returns_decodeAuthenticationRequest : (decodeAuthenticationRequest b).Returns := by
  have hbody : Forward authenticationRequestBody := by
    refine (forward_readByte.orZero 0).bind fun _ => forward_requireLV.attempt.bind ?_
    intro v
    split
    all_goals exact forward_forEachIE Nat.one_pos forward_authenticationRequestIE _
  rw [decodeAuthenticationRequest]
  split
  · trivial
  · exact (hbody b).1

theorem returns_decodeAuthenticationResponse : (decodeAuthenticationResponse b).Returns := by
  refine (forward_forEachIE Nat.one_pos (fun iei ar => ?_) _ b).1
  exact .ite (fun _ => forward_readLV_next _) fun _ =>
    .ite (fun _ => forward_readLVE_next _) fun _ => forward_readLV_next _

theorem returns_decodeAuthenticationFailure : (decodeAuthenticationFailure b).Returns := by
  rw [decodeAuthenticationFailure]
  split
  · trivial
  · refine ((forward_readByte.orZero 0).bind (fun _ => ?_) b).1
    refine forward_forEachIE Nat.one_pos (fun iei af => ?_) _
    exact .ite (fun _ => forward_readLV_next _) fun _ => forward_readLV_next _

/-! ## Identity -/

structure IdentityRequest where
  identityType : MobileIdentityType
  deriving DecidableEq

def decodeIdentityRequest (b : Bytes) : Outcome IdentityRequest := do
  if b.length < 1 then .err (.new "nas: IdentityRequest empty") else
  return { identityType := (← index b 0) &&& 0x07 }

structure IdentityResponse where
  mobileIdentity : MobileIdentity
  deriving DecidableEq

def decodeIdentityResponse (b : Bytes) : Outcome IdentityResponse := do
  if b.length < 3 then .err (.new "nas: IdentityResponse too short") else
  let l := beNat (← index b 0) (← index b 1)
  let need := 2 + l
  let got := b.length
  if got < need then
    .err (.new s!"nas: IdentityResponse truncated: need {need} got {got}")
  else
  let mi ← decodeMobileIdentity (← slice b 2 (2 + l))
  return { mobileIdentity := mi }

theorem returns_decodeIdentityRequest : (decodeIdentityRequest b).Returns := by
  cases b <;> simp [decodeIdentityRequest]

theorem returns_decodeIdentityResponse : (decodeIdentityResponse b).Returns := by
  rw [decodeIdentityResponse]
  split_ifs with hlen
  · trivial
  · rw [index_of_lt (by omega), ok_bind, index_of_lt (by omega), ok_bind]
    dsimp only
    split_ifs with hl
    · trivial
    · rw [slice_of_le (by omega) (by omega), ok_bind]
      exact (returns_decodeMobileIdentity _).bind fun _ _ => trivial

/-! ## Security mode control -/

structure SecurityModeCommand where
  selectedNASSecurityAlgorithms : NASSecurityAlgorithms := {}
  ngksi : NGKSI := {}
  replayedUESecurityCapabilities : UESecurityCapability := {}
  imeisvRequest : Option UInt8 := none
  additional5GSecurityInfo : Option UInt8 := none
  nasMessageContainer : Bytes := []
  deriving DecidableEq

def decodeUESecurityCapabilityOrZero (b : Bytes) : Outcome UESecurityCapability :=
  match decodeUESecurityCapability b with
  | .err _ => .ok {}
  | o => o

theorem returns_decodeUESecurityCapabilityOrZero :
    (decodeUESecurityCapabilityOrZero b).Returns := by
  have h := returns_decodeUESecurityCapability b
  rw [decodeUESecurityCapabilityOrZero]
  split
  · trivial
  · exact h

def securityModeCommandIE (smc : SecurityModeCommand) : Proc Reader (Ctl SecurityModeCommand) :=
  if iei >>> 4 = 0xE then
    pure (.next { smc with imeisvRequest := some (iei &&& 0x07) })
  else if iei = 0x36 then do
    match ← readLV with
    | val :: _ => return .next { smc with additional5GSecurityInfo := some val }
    | [] => return .next smc
  else if iei = 0x71 then do
    let nasMessageContainer ← readLVE
    return .next { smc with nasMessageContainer }
  else if iei < 0x80 then do
    let _ ← readLV
    return .next smc
  else return .next smc

def securityModeCommandBody : Proc Reader SecurityModeCommand := do
  let algByte ← readByte.orZero 0
  let ngksi ← readByte.orZero 0
  let capBytes ← readLV
  let cap ← Proc.lift (decodeUESecurityCapabilityOrZero capBytes)
  forEachIE 1 securityModeCommandIE {
    selectedNASSecurityAlgorithms := decodeNASSecurityAlgorithms algByte
    ngksi := { keySetIdentifier := ngksi &&& 0x07, type := (ngksi >>> 3) &&& 0x01 }
    replayedUESecurityCapabilities := cap }

def decodeSecurityModeCommand (b : Bytes) : Outcome SecurityModeCommand :=
  let len := b.length
  if len < 4 then .err (.new s!"nas: SecurityModeCommand too short: {len}")
  else (securityModeCommandBody.run b).1

structure SecurityModeReject where
  cause5GMM : UInt8
  deriving DecidableEq

def decodeSecurityModeReject (b : Bytes) : Outcome SecurityModeReject := do
  if b.length < 1 then .err (.new "nas: SecurityModeReject too short") else
  return { cause5GMM := ← index b 0 }

structure SecurityModeComplete where
  imeisv : Option MobileIdentity := none
  nasMessageContainer : Bytes := []
  deriving DecidableEq

def securityModeCompleteIE (smc : SecurityModeComplete) : Proc Reader (Ctl SecurityModeComplete) :=
  if iei = 0x77 then do
    let imeiBytes ← readLVE
    let mi ← Proc.lift (decodeMobileIdentityOrNil imeiBytes)
    return .next { smc with imeisv := mi }
  else if iei = 0x71 then do
    let nasMessageContainer ← readLVE
    return .next { smc with nasMessageContainer }
  else if iei < 0x80 then do
    let _ ← readLV
    return .next smc
  else return .next smc

def decodeSecurityModeComplete (b : Bytes) : Outcome SecurityModeComplete :=
  ((forEachIE 1 securityModeCompleteIE {}).run b).1

theorem forward_securityModeCommandIE (smc : SecurityModeCommand) :
    Forward (securityModeCommandIE iei smc) := by
  refine .ite (fun _ => .pure _) fun _ => .ite (fun _ => ?_) fun _ =>
    .ite (fun _ => forward_readLVE_next _) fun _ =>
    .ite (fun _ => forward_readLV_next _) fun _ => .pure _
  refine forward_readLV.bind fun v => ?_
  cases v <;> exact .pure _

theorem returns_decodeSecurityModeCommand : (decodeSecurityModeCommand b).Returns := by
  have hbody : Forward securityModeCommandBody :=
    (forward_readByte.orZero 0).bind fun _ => (forward_readByte.orZero 0).bind fun _ =>
      forward_readLV.bind fun v =>
      (Proc.Total.lift (returns_decodeUESecurityCapabilityOrZero v)).bind fun _ =>
      forward_forEachIE Nat.one_pos forward_securityModeCommandIE _
  rw [decodeSecurityModeCommand]
  split
  · trivial
  · exact (hbody b).1

theorem returns_decodeSecurityModeReject : (decodeSecurityModeReject b).Returns := by
  cases b <;> simp [decodeSecurityModeReject]

theorem forward_securityModeCompleteIE (smc : SecurityModeComplete) :
    Forward (securityModeCompleteIE iei smc) := by
  refine .ite (fun _ => ?_) fun _ => .ite (fun _ => forward_readLVE_next _) fun _ =>
    .ite (fun _ => forward_readLV_next _) fun _ => .pure _
  refine forward_readLVE.bind fun v => ?_
  exact (Proc.Total.lift (returns_decodeMobileIdentityOrNil v)).bind fun _ => .pure _

theorem returns_decodeSecurityModeComplete : (decodeSecurityModeComplete b).Returns :=
  (forward_forEachIE Nat.one_pos forward_securityModeCompleteIE _ b).1

/-! ## Slice-specific authentication -/

/-- `NSSAAuthCommand`, `NSSAAuthComplete` and `NSSAAuthResult`, three types with
the same fields. -/
structure NSSAAuth where
  snssai : SNSSAI
  eapMessage : Bytes
  deriving DecidableEq

/-- `decodeSNSSAILV`: the S-NSSAI and the number of octets it takes. -/
def decodeSNSSAILV (b : Bytes) : Outcome (SNSSAI × Nat) := do
  if b.length < 1 then .err (.new "nas: S-NSSAI IE missing length") else
  let length := (← index b 0).toNat
  if length < 1 ∨ b.length < 1 + length then
    .err (.new s!"nas: S-NSSAI IE truncated (len {length})")
  else
  let sst ← index b 1
  let sd ←
    if 4 ≤ length then do
      pure (sdOfBytes (← index b 2) (← index b 3) (← index b 4))
    else pure sdNotPresent
  return ({ sst, sd }, 1 + length)

def decodeEAPMessageLVE (b : Bytes) : Outcome Bytes := do
  if b.length < 2 then .err (.new "nas: EAP message IE missing length") else
  let length := beNat (← index b 0) (← index b 1)
  if b.length < 2 + length then
    .err (.new s!"nas: EAP message IE truncated (len {length})")
  else slice b 2 (2 + length)

def decodeNSSAABody (b : Bytes) : Outcome NSSAAuth := do
  let (snssai, n) ← decodeSNSSAILV b
  let eapMessage ← decodeEAPMessageLVE (← sliceFrom b n)
  return { snssai, eapMessage }

theorem decodeSNSSAILV_spec : (∃ e, decodeSNSSAILV b = .err e) ∨
      ∃ s n, decodeSNSSAILV b = .ok (s, n) ∧ n ≤ b.length := by
  rw [decodeSNSSAILV]
  split_ifs with hlen
  · exact .inl ⟨_, rfl⟩
  · rw [index_of_lt (by omega), ok_bind]
    dsimp only
    split
    · exact .inl ⟨_, rfl⟩
    · rename_i hl
      rw [index_of_lt (by omega), ok_bind]
      split
      · rw [index_of_lt (by omega), ok_bind, index_of_lt (by omega),
          ok_bind, index_of_lt (by omega)]
        exact .inr ⟨_, _, rfl, by omega⟩
      · exact .inr ⟨_, _, rfl, by omega⟩

theorem returns_decodeEAPMessageLVE : (decodeEAPMessageLVE b).Returns := by
  rw [decodeEAPMessageLVE]
  split_ifs with hlen
  · trivial
  · rw [index_of_lt (by omega), ok_bind, index_of_lt (by omega), ok_bind]
    dsimp only
    split
    · trivial
    · rw [slice_of_le (by omega) (by omega)]
      trivial

theorem returns_decodeNSSAABody : (decodeNSSAABody b).Returns := by
  rw [decodeNSSAABody]
  rcases decodeSNSSAILV_spec b with ⟨e, he⟩ | ⟨s, n, hs, hn⟩
  · rw [he]
    trivial
  · rw [hs, ok_bind]
    dsimp only
    rw [sliceFrom_of_le hn, ok_bind]
    exact (returns_decodeEAPMessageLVE _).bind fun _ _ => trivial

end Claudia5gc.Nas
