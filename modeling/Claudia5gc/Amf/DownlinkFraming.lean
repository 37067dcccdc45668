import Claudia5gc.Amf.KeyProcedures

/-!
# Framing of the downlink messages of a registration

A NAS message begins with the discriminator, a plain security header and the message
type; the routines that build PDUs put these octets in front of the body, and the
protected ones put the security header in front of that.  The handler of the
Authentication Failure is the one that hands a body without them to the gNB.
-/

namespace Claudia5gc.Amf

open Go Crypto Nas Proc Handler Outcome Still Keeps List Option

variable (cfg : Config) (sec : SecurityContext) (type : MessageType) (env : Env)
  {af : AuthenticationFailure} {pdu : Bytes} {e : Event} {s s' : Handler} {ue : Ptr}
  {count : UInt32} {sht : UInt8}

/-! ## What the UE gets -/

/-- The message in a downlink PDU: behind the security header if there is one, and
deciphered if that header says so. -/
def received (sec : SecurityContext) (pdu : Bytes) : Outcome Bytes :=
  if isProtected pdu then
    if securityHeaderType pdu = securityHeaderIntegrityProtectedAndCiphered ∨
        securityHeaderType pdu = securityHeaderIntegrityProtectedAndCipheredWithNewSC then
      hardwired sec.cipheringAlgID sec.knasenc sec.downlinkCount 0x01 0x01 (pdu.drop 7)
    else .ok (pdu.drop 7)
  else .ok pdu

def Complete (sec : SecurityContext) (type : MessageType) (pdu : Bytes) : Prop :=
  ∃ b, received sec pdu = .ok (0x7E :: 0x00 :: type :: b) ∧
    ∃ header : Header, header.messageType = type ∧
      decode (0x7E :: 0x00 :: type :: b) = decodeBody header b

def Event.Delivers (sec : SecurityContext) (ue : Ptr) (type : MessageType) (e : Event) : Prop :=
  ∀ who pdu, e.nasPDU = some (who, pdu) → who = ue ∧ Complete sec type pdu

section

variable {sec : SecurityContext} {type : MessageType} {pdu b : Bytes}

theorem complete_of_received (h : received sec pdu = .ok (0x7E :: 0x00 :: type :: b)) :
    Complete sec type pdu :=
  ⟨b, h, decode_eq (0x7E :: 0x00 :: type :: b)⟩

theorem Event.delivers_of_none (h : e.nasPDU = none) : e.Delivers sec ue type := by
  intro who pdu hpdu
  rw [h] at hpdu
  cases hpdu

theorem Event.delivers_of_complete (h : e.nasPDU = some (ue, pdu)) (hpdu : Complete sec type pdu) :
    e.Delivers sec ue type := by
  intro who pdu' he
  rw [h] at he
  obtain ⟨rfl, rfl⟩ := Prod.mk.inj (some.inj he)
  exact ⟨rfl, hpdu⟩

/-! ## What the routines build -/

variable {body : DownlinkBody}

theorem encode_eq_cons (h : encode body = .ok pdu) :
    ∃ b, pdu = 0x7E :: 0x00 :: body.messageType :: b := by
  obtain ⟨b, -, hpdu⟩ := bind_eq_ok.mp h
  exact ⟨b, (ok.inj hpdu).symm⟩

theorem complete_of_encode (h : encode body = .ok pdu) : Complete sec body.messageType pdu := by
  obtain ⟨b, hb⟩ := encode_eq_cons h
  refine complete_of_received (b := b) ?_
  rw [received, isProtected_encode h, hb]
  rfl

theorem hardwired_hardwired {id : UInt8} {key message ciphered : Bytes}
    {bearer dir : UInt8} (h : hardwired id key count bearer dir message = .ok ciphered) :
    hardwired id key count bearer dir ciphered = .ok message := by
  by_cases hid : id = 0
  · rw [hardwired, if_pos hid] at h ⊢
    exact congrArg ok (ok.inj h).symm
  · rw [hardwired, if_neg hid] at h ⊢
    exact Nea.nea2_nea2 h

theorem protect_eq_ok {crypt : Algorithm} {knasint knasenc : Bytes}
    (h : protect Nia.nia2 crypt knasint knasenc count sht body = .ok pdu) :
    ∃ inner ciphered mac : Bytes, encode body = .ok inner ∧
      crypt knasenc count 0x01 0x01 inner = .ok ciphered ∧ mac.length = 4 ∧
      pdu = [0x7E, sht] ++ mac ++ [count.toUInt8] ++ ciphered := by
  obtain ⟨inner, hinner, h⟩ := bind_eq_ok.mp h
  obtain ⟨ciphered, hciphered, h⟩ := bind_eq_ok.mp h
  obtain ⟨mac, hmac, h⟩ := bind_eq_ok.mp h
  exact ⟨inner, ciphered, mac, hinner, hciphered, Nia.length_of_nia2 hmac, (ok.inj h).symm⟩

theorem received_protected (hsht : sht &&& 0x0F ≠ 0) {mac ciphered : Bytes}
    (hmac : mac.length = 4) (sqn : UInt8) : received sec ([0x7E, sht] ++ mac ++ [sqn] ++ ciphered) =
      if sht &&& 0x0F = securityHeaderIntegrityProtectedAndCiphered ∨
          sht &&& 0x0F = securityHeaderIntegrityProtectedAndCipheredWithNewSC then
        hardwired sec.cipheringAlgID sec.knasenc sec.downlinkCount 0x01 0x01 ciphered
      else .ok ciphered := by
  have hdrop : ([0x7E, sht] ++ mac ++ [sqn] ++ ciphered).drop 7 = ciphered :=
    drop_left' (by simp [hmac])
  have hprotected : isProtected ([0x7E, sht] ++ mac ++ [sqn] ++ ciphered) = true := by
    simp [isProtected, hsht]
  rw [received, hdrop, if_pos hprotected]
  rfl

theorem complete_of_secured
    (h : protect Nia.nia2 (hardwired sec.cipheringAlgID) sec.knasint sec.knasenc
      sec.downlinkCount securityHeaderIntegrityProtectedAndCiphered body = .ok pdu) :
    Complete sec body.messageType pdu := by
  obtain ⟨inner, ciphered, mac, hinner, hciphered, hmac, rfl⟩ := protect_eq_ok h
  obtain ⟨b, rfl⟩ := encode_eq_cons hinner
  refine complete_of_received (b := b) ?_
  rw [received_protected (by decide) hmac, if_pos (by decide)]
  exact hardwired_hardwired hciphered

theorem complete_of_integrityOnly {knasint knasenc : Bytes}
    (h : protect Nia.nia2 (hardwired 0) knasint knasenc count
      securityHeaderIntegrityProtectedWithNewSC body = .ok pdu) :
    Complete sec body.messageType pdu := by
  obtain ⟨inner, ciphered, mac, hinner, hciphered, hmac, rfl⟩ := protect_eq_ok h
  obtain ⟨b, rfl⟩ := encode_eq_cons hinner
  refine complete_of_received (b := b) ?_
  rw [received_protected (by decide) hmac, if_neg (by decide)]
  exact congrArg ok (ok.inj hciphered).symm

theorem not_complete_encodeAuthenticationRequest (ar : AuthenticationRequest) :
    ¬Complete sec type (encodeAuthenticationRequest ar) := by
  rintro ⟨b, hreceived, -⟩
  rw [received, isProtected_encodeAuthenticationRequest] at hreceived
  have hfirst : encodeNGKSI ar.ngksi = 0x7E := (cons.inj (ok.inj hreceived)).1
  have hlt := toNat_encodeNGKSI_lt ar.ngksi
  rw [hfirst] at hlt
  exact absurd hlt (by decide)

end

/-! ## The handlers -/

namespace Handler

abbrev Framed (sec : SecurityContext) (ue : Ptr) (type : MessageType) : Handler → Handler → Prop :=
  Frame (fun _ => ()) (Event.Delivers sec ue type)

instance : UEContext.Reads UEContext.calm fun _ => () := ⟨fun _ => rfl⟩

section Framed

variable {sec : SecurityContext} {ue : Ptr} {type : MessageType} {α : Type}

theorem Frame.framed {τ : Type} {π : UEContext → τ} {P : Event → Prop}
    (h : Frame π P s s') (hP : ∀ e, P e → e.nasPDU = none) : Framed sec ue type s s' :=
  ⟨fun _ => rfl, h.2.mono fun e he => Event.delivers_of_none (hP e he)⟩

instance : Slicing (Framed sec ue type) where
  of_kept h := h.framed fun _ he => he.nasPDU
  of_keyed h := h.framed fun _ he => he.nasPDU

theorem Still.framed {x : Proc Handler α} (h : Keeps Still x) : Keeps (Framed sec ue type) x :=
  fun s => Frame.framed (h s) fun _ he => he.2

theorem framed_send (he : e.nasPDU = some (ue, pdu)) (h : Complete sec type pdu) :
    Keeps (Framed sec ue type) (send env e) :=
  keeps_send env (Event.delivers_of_complete he h)

theorem framed_sendPlainViaDownlink (body : DownlinkBody) :
    Keeps (Framed sec ue body.messageType) (sendPlainViaDownlink env ue body) := by
  intro s
  refine bind_run (keeps_sendNASPlain body s) fun pdu s' hrun => ?_
  exact framed_send env rfl (complete_of_encode (run_wrapErr_lift_eq_ok hrun).1) s'

theorem complete_of_run_sendNASSecured {body : DownlinkBody}
    (hsec : s.sec ue = sec) (h : (sendNASSecured ue body).run s = (.ok pdu, s')) :
    Complete sec body.messageType pdu := by
  subst hsec
  exact complete_of_secured (run_sendNASSecured_iff.mp ⟨s', h⟩)

theorem framed_sendInitialContextSetupRequest (kgnb : Bytes)
    (pduSessions : List PDUSessionSetupItemCxtReq) (h : Complete sec type pdu) :
    Keeps (Framed sec ue type) (sendInitialContextSetupRequest env ue pdu kgnb pduSessions) :=
  (keeps_load ue).bind fun _ => framed_send env rfl h

theorem framed_handleRegistrationUpdate (rr : RegistrationRequest) (hsec : s.sec ue = sec) :
    Framed sec ue msgTypeRegistrationAccept s
      ((handleRegistrationUpdate cfg env ue rr).run s).2 := by
  have hbuild : Keeps Still (buildRegistrationUpdateAccept cfg env ue) :=
    still_buildRegistrationUpdateAccept cfg env ue
  refine bind_run ((framed hbuild).wrapErr _ s) fun regAccept s₁ hrun₁ => ?_
  have hsec₁ : s₁.sec ue = sec := by
    have hkept := (hbuild s).1 ue
    rw [run_wrapErr_eq_ok hrun₁] at hkept
    exact (Prod.mk.inj hkept).1.trans hsec
  refine bind_run ((keeps_sendNASSecured ue _).wrapErr _ s₁) fun pdu s₂ hrun₂ => ?_
  have hpdu := complete_of_run_sendNASSecured hsec₁ (run_wrapErr_eq_ok hrun₂)
  refine (still_refreshKgNB ue).bind (fun kgnb => ?_) s₂
  refine ((framed_sendInitialContextSetupRequest env kgnb [] hpdu).wrapErr _).bind fun _ => ?_
  exact (still_setConnected ue).bind fun _ => still_notifyUEReachable ue

def registrationAnswer (cfg : Config) (env : Env) (ue : Ptr) (s : Handler)
    (rr : RegistrationRequest) : MessageType :=
  if (s.ctx ue).securityCtx.active ∧ (rr.registrationType = registrationTypePeriodic ∨
        rr.registrationType = registrationTypeMobility) then msgTypeRegistrationAccept
  else
    match ((phase1InitiateAuthentication cfg env ue rr).run s).1 with
    | .ok _ => msgTypeAuthenticationRequest
    | _ => msgTypeIdentityRequest

theorem framed_handleRegistrationRequest (rr : RegistrationRequest) (hsec : s.sec ue = sec) :
    Framed sec ue (registrationAnswer cfg env ue s rr) s
      ((handleRegistrationRequest cfg env ue rr).run s).2 := by
  unfold handleRegistrationRequest registrationAnswer
  rw [run_load_bind]
  split
  next => exact framed_handleRegistrationUpdate cfg env rr hsec
  next =>
    have hphase1 : Keeps Still (phase1InitiateAuthentication cfg env ue rr) :=
      still_phase1InitiateAuthentication cfg env ue rr
    refine bind_run ((framed hphase1).attempt s) fun r s₁ hrun => ?_
    cases r with
    | ok authReq =>
      rw [show (phase1InitiateAuthentication cfg env ue rr).run s = (.ok authReq, s₁) from
        run_attempt_eq_ok hrun]
      exact (still_takeRequestedNSSAI ue rr).bind
        (fun _ => framed_sendPlainViaDownlink env (.authenticationRequest authReq)) s₁
    | error e =>
      rw [show (phase1InitiateAuthentication cfg env ue rr).run s = (.err e, s₁) from
        run_attempt_eq_ok hrun]
      have hfail : Keeps (Framed sec ue msgTypeIdentityRequest)
          (if Error.is errNeedSUCI e then sendIdentityRequest env ue
          else Proc.fail (.wrap "registration phase1" e)) :=
        .ite (fun _ => framed_sendPlainViaDownlink env _) fun _ => .fail _
      exact hfail s₁

theorem framed_handleIdentityResponse (r : IdentityResponse) :
    Keeps (Framed sec ue msgTypeAuthenticationRequest)
      (handleIdentityResponse cfg env ue r) := by
  unfold handleIdentityResponse
  split
  · exact .pure _
  · refine .ite (fun _ => .pure _) fun _ => ?_
    exact ((framed (still_phase1AuthenticateWithSUCI cfg env ue _)).wrapErr _).bind
      fun authReq => framed_sendPlainViaDownlink env (.authenticationRequest authReq)

theorem framed_handleAuthenticationResponse (r : AuthenticationResponse) :
    Keeps (Framed sec ue msgTypeSecurityModeCommand)
      (handleAuthenticationResponse cfg env ue r) := by
  refine handleAuthenticationResponse_elim cfg env ue r (keeps_phase2ProcessAuthResponse cfg env ue
    r (fun _ _ he => Event.delivers_of_none he) (fun _ _ => rfl) fun _ _ => rfl)
    fun smcReq s => ?_
  refine bind_run (keeps_sendNASIntegrityOnly ue _ _ s) fun pdu s' hrun => ?_
  have hprotect := run_sendNASIntegrityOnly_iff.mp ⟨s', hrun⟩
  exact framed_send env rfl (complete_of_integrityOnly hprotect) s'

theorem framed_completeRegistration (regAccept : RegistrationAccept) (hsec : s.sec ue = sec) :
    Framed sec ue msgTypeRegistrationAccept s
      ((completeRegistration env ue regAccept).run s).2 := by
  refine bind_run (keeps_sendNASSecured ue _ s) fun pdu s₁ hrun => ?_
  have hpdu := complete_of_run_sendNASSecured hsec hrun
  refine (still_refreshKgNB ue).bind (fun kgnb => ?_) s₁
  refine (framed_sendInitialContextSetupRequest env kgnb [] hpdu).bind fun _ => ?_
  exact still_setConnected ue

theorem framed_finishRegistration (hsec : s.sec ue = sec) :
    Framed sec ue msgTypeRegistrationAccept s ((finishRegistration cfg env ue).run s).2 := by
  have hphase3 : Keeps Silent (phase3ProcessSMCComplete cfg env ue) :=
    silent_phase3ProcessSMCComplete cfg env ue
  have hframed : Keeps (Framed sec ue msgTypeRegistrationAccept)
      (phase3ProcessSMCComplete cfg env ue) :=
    silent_phase3ProcessSMCComplete cfg env ue
  refine bind_run (hframed.attempt s) fun r s₁ hrun => ?_
  cases r with
  | ok regAccept =>
    have hsec₁ := (hphase3 s).1 ue
    rw [show (phase3ProcessSMCComplete cfg env ue).run s = (.ok regAccept, s₁) from
      run_attempt_eq_ok hrun] at hsec₁
    exact framed_completeRegistration env regAccept (hsec₁.trans hsec)
  | error e =>
    -- The Registration Reject is built and not sent.
    have hreject : Keeps (Framed sec ue msgTypeRegistrationAccept) (do
        let _ ← (sendNASSecured ue (.registrationReject 0x49)).attempt) :=
      (keeps_sendNASSecured ue _).attempt.bind fun _ => .pure _
    dsimp only
    split
    next => exact hreject s₁
    next => exact Std.Refl.refl s₁

theorem framed_handleSecurityModeComplete (body : Body) (hsec : s.sec ue = sec) :
    Framed sec ue msgTypeRegistrationAccept s
      ((handleSecurityModeComplete cfg env ue body).run s).2 := by
  have htake : Keeps Still (takeBody ue body) :=
    keeps_takeBody ue body (fun _ _ => rfl) fun _ _ => rfl
  rw [run_handleSecurityModeComplete]
  refine bind_run (framed htake s) fun _ s₁ hrun => ?_
  have hkept := (htake s).1 ue
  rw [hrun] at hkept
  exact framed_finishRegistration cfg env ((Prod.mk.inj hkept).1.trans hsec)

end Framed

/-! ## The resynchronisation -/

/-- The AUSF answers the failure of a challenge with another one. -/
def Resynchronises (env : Env) (af : AuthenticationFailure) : Prop :=
  af.cause5GMM = causeSynchFailure ∧ af.auts.length = 14 ∧ env.resyncAuth.isOk

theorem framed_handleAuthenticationFailure {env : Env} (h : ¬Resynchronises env af) :
    Keeps (Framed sec ue type) (handleAuthenticationFailure cfg env ue af) := by
  refine .ite (fun hsynch => ?_) fun _ => .pure _
  intro s
  cases hresync : env.resyncAuth with
  | ok ausf => exact absurd ⟨hsynch.1, hsynch.2, by rw [hresync]; rfl⟩ h
  | error e =>
    have hphase1 : Keeps Still (phase1ResyncAuth cfg env ue af.auts) :=
      still_phase1ResyncAuth cfg env ue af.auts
    refine bind_run ((framed hphase1).wrapErr _ s) fun authReq s' hrun => ?_
    -- Without an answer there is no challenge to send.
    have hfails := run_wrapErr_eq_ok hrun
    rw [phase1ResyncAuth, run_load_bind, run_emit_bind, run_bind, hresync] at hfails
    cases hfails

theorem trace_handleAuthenticationFailure {env : Env} (ue : Ptr) (h : Resynchronises env af)
    (s : Handler) : ∃ asked authReq, ((handleAuthenticationFailure cfg env ue af).run s).2.trace =
      s.trace ++ [asked, .downlinkNASTransport ue (encodeAuthenticationRequest authReq)] := by
  obtain ⟨hcause, hauts, hok⟩ := h
  cases hresync : env.resyncAuth with
  | error e =>
    rw [hresync] at hok
    cases hok
  | ok ausf =>
    obtain ⟨authReq, s₁, hphase1, htrace⟩ : ∃ authReq s₁,
        (phase1ResyncAuth cfg env ue af.auts).run s = (.ok authReq, s₁) ∧
          ∃ asked, s₁.trace = s.trace ++ [asked] := by
      rw [phase1ResyncAuth, run_load_bind, run_emit_bind, hresync]
      exact ⟨_, _, rfl, _, rfl⟩
    obtain ⟨asked, htrace⟩ := htrace
    have hwrap : ((phase1ResyncAuth cfg env ue af.auts).wrapErr "nas: resync auth").run s =
        (.ok authReq, s₁) := by
      rw [run_wrapErr, hphase1]
    refine ⟨asked, authReq, ?_⟩
    rw [handleAuthenticationFailure, if_pos ⟨hcause, hauts⟩, run_bind_ok hwrap, snd_run_send]
    rw [htrace, append_assoc]
    rfl

theorem not_framed_handleAuthenticationFailure {env : Env} (h : Resynchronises env af)
    (sec : SecurityContext) (type : MessageType) (s : Handler) :
    ¬Emits (Event.Delivers sec ue type) s
      ((handleAuthenticationFailure cfg env ue af).run s).2 := by
  intro hemits
  obtain ⟨asked, authReq, htrace⟩ := trace_handleAuthenticationFailure cfg ue h s
  have hdelivers := hemits.of_append htrace (mem_cons_of_mem _ (mem_singleton.mpr rfl))
  exact not_complete_encodeAuthenticationRequest authReq (hdelivers _ _ rfl).2

/-! ## A 5G-GUTI that the AMF does not know -/

def msgTypeServiceReject : MessageType := 0x4D
def causeUEIdentityNotDerived : UInt8 := 9
def causeImplicitlyDeregistered : UInt8 := 10

def rejectForUnknownTMSI (msgType : MessageType) (typeKnown : Bool) : Bytes × String × String :=
  if typeKnown ∧ msgType = msgTypeRegistrationRequest then
    ([0x7E, 0x00, msgTypeRegistrationReject, causeImplicitlyDeregistered],
      "RegistrationReject", "TS 24.501 §5.5.1.3.5")
  else
    ([0x7E, 0x00, msgTypeServiceReject, causeUEIdentityNotDerived],
      "ServiceReject", "TS 24.501 §5.6.1.5.2")

/-- The message that an initial message with an unknown 5G-GUTI is answered with. -/
def intendedReject (msgType : MessageType) (typeKnown : Bool) : MessageType :=
  if typeKnown ∧ msgType = msgTypeRegistrationRequest then msgTypeRegistrationReject
  else msgTypeServiceReject

theorem complete_rejectForUnknownTMSI (msgType : MessageType) (typeKnown : Bool) :
    Complete sec (intendedReject msgType typeKnown) (rejectForUnknownTMSI msgType typeKnown).1 := by
  unfold intendedReject rejectForUnknownTMSI
  split
  · exact complete_of_received (b := [causeImplicitlyDeregistered]) rfl
  · exact complete_of_received (b := [causeUEIdentityNotDerived]) rfl

/-! ## The messages of a registration -/

def intended (cfg : Config) (env : Env) (ue : Ptr) (s : Handler) (msg : Message) :
    Option MessageType :=
  if msg.header.messageType = msgTypeRegistrationRequest then
    match msg.body with
    | .registrationRequest rr => some (registrationAnswer cfg env ue s rr)
    | _ => none
  else if msg.header.messageType = msgTypeIdentityResponse then
    some msgTypeAuthenticationRequest
  else if msg.header.messageType = msgTypeAuthenticationResponse then
    some msgTypeSecurityModeCommand
  else if msg.header.messageType = msgTypeAuthenticationFailure then
    some msgTypeAuthenticationRequest
  else if msg.header.messageType = msgTypeSecurityModeComplete then
    some msgTypeRegistrationAccept
  else none

/-- The message is a failure of a challenge that the AUSF answers with another one. -/
def ResynchronisedBy (env : Env) (msg : Message) : Prop :=
  msg.header.messageType = msgTypeAuthenticationFailure ∧
    ∃ af, msg.body = .authenticationFailure af ∧ Resynchronises env af

section

variable {cfg : Config} {env : Env} {ue : Ptr} {msg : Message} {s : Handler}

theorem framed_dispatch_registrationRequest {rr : RegistrationRequest}
    (htype : msg.header.messageType = msgTypeRegistrationRequest)
    (hbody : msg.body = .registrationRequest rr) :
    Framed (s.sec ue) ue (registrationAnswer cfg env ue s rr) s
      ((dispatch cfg env ue msg).run s).2 := by
  have hdispatch : dispatch cfg env ue msg = handleRegistrationRequest cfg env ue rr := by
    simp [dispatch, htype, hbody]
  rw [hdispatch]
  exact framed_handleRegistrationRequest cfg env rr rfl

theorem framed_dispatch_identityResponse
    (htype : msg.header.messageType = msgTypeIdentityResponse) :
    Keeps (Framed sec ue msgTypeAuthenticationRequest) (dispatch cfg env ue msg) := by
  simp +decide only [dispatch, htype, ↓reduceIte]
  split
  · exact framed_handleIdentityResponse cfg env _
  · exact .fail _

theorem framed_dispatch_authenticationResponse
    (htype : msg.header.messageType = msgTypeAuthenticationResponse) :
    Keeps (Framed sec ue msgTypeSecurityModeCommand) (dispatch cfg env ue msg) := by
  simp +decide only [dispatch, htype, ↓reduceIte]
  split
  · exact framed_handleAuthenticationResponse cfg env _
  · exact .fail _

theorem framed_dispatch_securityModeComplete
    (htype : msg.header.messageType = msgTypeSecurityModeComplete) :
    Framed (s.sec ue) ue msgTypeRegistrationAccept s ((dispatch cfg env ue msg).run s).2 := by
  have hdispatch : dispatch cfg env ue msg = handleSecurityModeComplete cfg env ue msg.body := by
    simp +decide [dispatch, htype]
  rw [hdispatch]
  exact framed_handleSecurityModeComplete cfg env msg.body rfl

theorem framed_dispatch_authenticationFailure
    (htype : msg.header.messageType = msgTypeAuthenticationFailure) :
    Emits (Event.Delivers sec ue type) s ((dispatch cfg env ue msg).run s).2 ↔
      ¬ResynchronisedBy env msg := by
  simp +decide only [dispatch, htype, ↓reduceIte]
  constructor
  · rintro hemits ⟨-, af, hbody, hresync⟩
    rw [hbody] at hemits
    exact not_framed_handleAuthenticationFailure cfg hresync sec type s hemits
  · intro hnot
    split
    · next af hbody =>
      have hresync : ¬Resynchronises env af := fun hresync => hnot ⟨htype, af, hbody, hresync⟩
      exact (framed_handleAuthenticationFailure cfg sec type hresync s).2
    · exact Emits.of_eq rfl

/-- Everything that is sent for a message of the registration is a whole message of the
type that the AMF means to send, unless a resynchronisation is answered; and so is the
reject for a UE that the AMF does not know. -/
theorem delivers_iff {type : MessageType} (h : intended cfg env ue s msg = some type) :
    (Emits (Event.Delivers (s.sec ue) ue type) s ((dispatch cfg env ue msg).run s).2 ↔
        ¬ResynchronisedBy env msg) ∧
      ∀ msgType typeKnown, Complete (s.sec ue) (intendedReject msgType typeKnown)
        (rejectForUnknownTMSI msgType typeKnown).1 := by
  refine ⟨?_, complete_rejectForUnknownTMSI (s.sec ue)⟩
  by_cases hfailure : msg.header.messageType = msgTypeAuthenticationFailure
  · exact framed_dispatch_authenticationFailure (s.sec ue) type hfailure
  · have hnot : ¬ResynchronisedBy env msg := fun hresync => hfailure hresync.1
    refine iff_of_true ?_ hnot
    unfold intended at h
    split at h
    · next htype =>
      split at h
      · next rr hbody =>
        obtain rfl := some.inj h
        exact (framed_dispatch_registrationRequest htype hbody).2
      · cases h
    split at h
    · next htype =>
      obtain rfl := some.inj h
      exact (framed_dispatch_identityResponse (s.sec ue) htype s).2
    split at h
    · next htype =>
      obtain rfl := some.inj h
      exact (framed_dispatch_authenticationResponse (s.sec ue) htype s).2
    split at h
    · next htype =>
      obtain rfl := some.inj h
      exact (framed_dispatch_securityModeComplete htype).2
    · cases h

def registering : Handler :=
  newHandler ((Manager.newManager ⟨"001", "01", 1, 1, 1⟩ false false).allocateUEContext 7).2

def resynchronising : Env where
  resyncAuth := .ok ⟨"1", Vector.replicate 16 1, Vector.replicate 16 1⟩

def synchFailure (auts : Bytes) : Message where
  header :=
    { extendedProtocolDiscriminator := 0x7E
      securityHeaderType := 0
      messageType := msgTypeAuthenticationFailure }
  body := .authenticationFailure { cause5GMM := causeSynchFailure, auts := auts }

theorem delivers_iff_synchFailure :
    intended .minimal resynchronising 0 registering (synchFailure []) =
        some msgTypeAuthenticationRequest ∧
      (Emits (Event.Delivers (registering.sec 0) 0 msgTypeAuthenticationRequest) registering
          ((dispatch .minimal resynchronising 0 (synchFailure [])).run registering).2 ↔
        ¬ResynchronisedBy resynchronising (synchFailure [])) :=
  ⟨by decide, (delivers_iff (by decide)).1⟩

/-- The second challenge goes out from the ngKSI on. -/
theorem challenge_without_header :
    intended .minimal resynchronising 0 registering (synchFailure (replicate 14 0)) =
        some msgTypeAuthenticationRequest ∧
      (((dispatch .minimal resynchronising 0 (synchFailure (replicate 14 0))).run
          registering).2.trace.getLast?.bind Event.nasPDU).map (fun sent => sent.2.take 5) =
        some [0x00, 0x02, 0x00, 0x00, 0x21] ∧
      ¬Emits (Event.Delivers (registering.sec 0) 0 msgTypeAuthenticationRequest) registering
        ((dispatch .minimal resynchronising 0 (synchFailure (replicate 14 0))).run
          registering).2 := by
  have hresync : ResynchronisedBy resynchronising (synchFailure (replicate 14 0)) :=
    ⟨rfl, _, rfl, rfl, rfl, rfl⟩
  refine ⟨by decide, by decide, fun hemits => ?_⟩
  exact (framed_dispatch_authenticationFailure _ _ rfl).mp hemits hresync

end

end Handler

end Claudia5gc.Amf
