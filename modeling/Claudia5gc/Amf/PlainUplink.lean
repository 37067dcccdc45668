import Claudia5gc.Amf.Frames
import Claudia5gc.Amf.Integrity

/-!
# Plain PDUs once security is active

`HandleNASMessage` removes the protection of protected PDUs, and dispatches plain ones as they are.
Which message types it has handlers for decides what an unprotected PDU can do; the security
context goes with a Security Mode Reject only.
-/

namespace Claudia5gc.Amf.Handler

open Go Nas Proc UEContext Event Outcome

variable {cfg : Config} {env : Env} {ue : Ptr} {pdu : Bytes} {s s' : Handler} {msg : Message}

/-- The cases of the `switch` of `HandleNASMessage`. -/
def handledTypes : List MessageType :=
  [msgTypeRegistrationRequest, msgTypeAuthenticationResponse, msgTypeAuthenticationFailure,
    msgTypeSecurityModeComplete, msgTypeSecurityModeReject, msgTypeRegistrationComplete,
    msgTypeULNASTransport, msgTypeDeregistrationRequestUE, msgTypeDeregistrationAcceptNW,
    msgTypeIdentityResponse, msgTypeServiceRequest, msgTypeConfigurationUpdateComplete,
    msgTypeNetworkSliceSpecificAuthComplete]

/-- The messages that TS 24.501 §4.4.4.3 lets through unprotected. -/
def unprotectedTypes : List MessageType :=
  [msgTypeRegistrationRequest, msgTypeIdentityResponse, msgTypeAuthenticationResponse,
    msgTypeAuthenticationFailure, msgTypeSecurityModeReject, msgTypeDeregistrationRequestUE,
    msgTypeServiceRequest]

def DecodesTo (types : List MessageType) (pdu : Bytes) : Prop :=
  ∃ msg, decode pdu = .ok msg ∧ msg.header.messageType ∈ types

theorem dispatch_of_not_handled (h : msg.header.messageType ∉ handledTypes) :
    dispatch cfg env ue msg = return () := by
  simp only [handledTypes, List.mem_cons, List.not_mem_nil, or_false, not_or] at h
  obtain ⟨h1, h2, h3, h4, h5, h6, h7, h8, h9, h10, h11, h12, h13⟩ := h
  unfold dispatch
  rw [if_neg h1, if_neg h2, if_neg h3, if_neg h4, if_neg h5, if_neg h6, if_neg h7, if_neg h8,
    if_neg h9, if_neg h10, if_neg h11, if_neg h12, if_neg h13]

theorem run_handleNASMessage_plain (hpdu : isProtected pdu = false) :
    (handleNASMessage cfg env ue pdu).run s = (handlePlainNAS cfg env ue pdu).run s := by
  unfold handleNASMessage
  rw [run_load_bind, hpdu, Bool.and_false]
  rfl

theorem run_handlePlainNAS (h : decode pdu = .ok msg) :
    (handlePlainNAS cfg env ue pdu).run s = (dispatch cfg env ue msg).run s := by
  unfold handlePlainNAS
  rw [h]
  rfl

theorem snd_run_handlePlainNAS (h : ¬DecodesTo handledTypes pdu) :
    ((handlePlainNAS cfg env ue pdu).run s).2 = s := by
  cases hdecode : decode pdu with
  | ok msg =>
    rw [run_handlePlainNAS hdecode, dispatch_of_not_handled fun hin => h ⟨msg, hdecode, hin⟩]
    rfl
  | err e | panic | hang =>
    unfold handlePlainNAS
    rw [hdecode]
    rfl

/-! ## The security context -/

/-- Keys in use stay in use, if perhaps not the same keys. -/
def StaysActive (ue : Ptr) (s s' : Handler) : Prop :=
  (s.ctx ue).securityCtx.active = true → (s'.ctx ue).securityCtx.active = true

instance : Std.Refl (StaysActive ue) := ⟨fun _ h => h⟩

instance : IsTrans Handler (StaysActive ue) := ⟨fun _ _ _ h h' => h' ∘ h⟩

theorem staysActive_of_active (h : (s'.ctx ue).securityCtx.active = (s.ctx ue).securityCtx.active) :
    StaysActive ue s s' :=
  h.trans

instance : Messaging (StaysActive ue) ue :=
  .ofCalm ue fun h => staysActive_of_active (congrArg (·.2.active) (h.1 ue))

instance : Slicing (StaysActive ue) :=
  ⟨fun h => staysActive_of_active (congrArg (·.2.active) (h.1 ue))⟩

theorem Quiet.staysActive {α : Type} {x : Proc Handler α} (h : Keeps Quiet x) :
    Keeps (StaysActive ue) x :=
  h.mono fun _ _ h => staysActive_of_active (congrArg Standing.active (h.1 ue))

theorem staysActive_takeKeys (kausf : Bytes) : Keeps (StaysActive ue) (takeKeys cfg ue kausf) := by
  intro s _
  have hkeys : ((takeKeys cfg ue kausf).run s).2.ctx ue = establishSecurity cfg kausf (s.ctx ue) :=
    (ctx_update s ue ue _).trans (if_pos rfl)
  rw [hkeys]
  rfl

theorem staysActive_handleAuthenticationResponse (r : AuthenticationResponse) :
    Keeps (StaysActive ue) (handleAuthenticationResponse cfg env ue r) :=
  handleAuthenticationResponse_elim cfg env ue r
    (phase2ProcessAuthResponse_elim cfg env ue r staysActive_takeKeys) fun _ =>
      Quiet.staysActive (quiet_securityModeCommand env ue _)

theorem staysActive_handleSecurityModeComplete (body : Body) :
    Keeps (StaysActive ue) (handleSecurityModeComplete cfg env ue body) :=
  handleSecurityModeComplete_elim cfg env ue body (silent_phase3ProcessSMCComplete cfg env ue)
    (Quiet.staysActive (keeps_sendNASSecured ue _)) (quiet_completeRegistration env ue)

def IsReject (msg : Message) : Prop :=
  msg.header.messageType = msgTypeSecurityModeReject ∧ ∃ r, msg.body = .securityModeReject r

theorem staysActive_dispatch (h : ¬IsReject msg) :
    Keeps (StaysActive ue) (dispatch cfg env ue msg) := by
  have hstill {α : Type} {x : Proc Handler α} (h : Keeps Still x) : Keeps (StaysActive ue) x :=
    Quiet.staysActive (Still.quiet h)
  refine dispatch_elim cfg env ue msg ?_ ?_ ?_ ?_ ?_ ?_ ?_ ?_ ?_ ?_ ?_ ?_ ?_ ?_
  · exact fun _ => .fail _
  · exact .pure _
  · exact fun rr _ _ => quiet_handleRegistrationRequest cfg env ue rr hstill
  · exact staysActive_handleAuthenticationResponse
  · exact fun af _ _ => quiet_handleAuthenticationFailure cfg env ue hstill af
  · exact fun _ => staysActive_handleSecurityModeComplete msg.body
  · exact fun r htype hbody => absurd ⟨htype, r, hbody⟩ h
  · exact keeps_handleRegistrationComplete cfg env
  · exact fun t => keeps_handleULNASTransport cfg env t
  · exact fun r => quiet_handleDeregistration cfg env ue r
  · exact still_teardown cfg env ue
  · exact fun r _ _ => quiet_handleIdentityResponse cfg env ue hstill r
  · exact fun r => quiet_handleServiceRequest cfg env ue r
  · exact fun r => keeps_handleNSSAAComplete cfg env r

theorem dispatch_reject (h : IsReject msg) :
    dispatch cfg env ue msg = handleSecurityModeReject ue := by
  obtain ⟨htype, r, hbody⟩ := h
  unfold dispatch
  rw [htype, hbody]
  rfl

theorem active_handlePlainNAS_iff (h : (s.ctx ue).securityCtx.active = true) :
    (((handlePlainNAS cfg env ue pdu).run s).2.ctx ue).securityCtx.active = true ↔
      ¬∃ msg, decode pdu = .ok msg ∧ IsReject msg := by
  by_cases hok : ∃ msg, decode pdu = .ok msg
  · obtain ⟨msg, hdecode⟩ := hok
    rw [run_handlePlainNAS hdecode]
    by_cases hreject : IsReject msg
    · have herased : ((handleSecurityModeReject ue).run s).2.ctx ue =
          { s.ctx ue with securityCtx := {} } := (ctx_update s ue ue _).trans (if_pos rfl)
      rw [dispatch_reject hreject, herased]
      exact ⟨nofun, fun hnot => absurd ⟨msg, hdecode, hreject⟩ hnot⟩
    · refine ⟨fun _ => ?_, fun _ => staysActive_dispatch hreject s h⟩
      rintro ⟨msg', hdecode', hreject'⟩
      obtain rfl := ok.inj (hdecode.symm.trans hdecode')
      exact hreject hreject'
  · rw [snd_run_handlePlainNAS fun ⟨msg, hdecode, _⟩ => hok ⟨msg, hdecode⟩]
    exact ⟨fun _ ⟨msg, hdecode, _⟩ => hok ⟨msg, hdecode⟩, fun _ => h⟩

/-- No handler runs for a plain PDU unless the message may come unprotected, and the context
stays as it is. -/
def Gated (cfg : Config) (env : Env) (ue : Ptr) (pdu : Bytes) (s : Handler) : Prop :=
  ¬DecodesTo unprotectedTypes pdu → ¬DecodesTo handledTypes pdu ∧
    ((handleNASMessage cfg env ue pdu).run s).2.ctx ue = s.ctx ue

/-- With security active, a plain PDU is kept from the handlers exactly if it is none of the six
messages that have a handler and may not come unprotected, and it leaves the security context in
use exactly if it is no Security Mode Reject. -/
theorem plain_uplink_iff (cfg : Config) (env : Env) (ue : Ptr) (pdu : Bytes) (s : Handler)
    (hactive : (s.ctx ue).securityCtx.active = true) (hplain : isProtected pdu = false) :
    (Gated cfg env ue pdu s ↔ ¬DecodesTo
      [msgTypeSecurityModeComplete, msgTypeRegistrationComplete, msgTypeULNASTransport,
        msgTypeDeregistrationAcceptNW, msgTypeConfigurationUpdateComplete,
        msgTypeNetworkSliceSpecificAuthComplete] pdu) ∧
    ((((handleNASMessage cfg env ue pdu).run s).2.ctx ue).securityCtx.active = true ↔
      ¬∃ msg, decode pdu = .ok msg ∧ IsReject msg) := by
  have hrun := @run_handleNASMessage_plain cfg env ue pdu s hplain
  refine ⟨⟨?_, ?_⟩, ?_⟩
  · rintro hgated ⟨msg, hdecode, htype⟩
    have hother : ∀ t ∈ [msgTypeSecurityModeComplete, msgTypeRegistrationComplete,
        msgTypeULNASTransport, msgTypeDeregistrationAcceptNW, msgTypeConfigurationUpdateComplete,
        msgTypeNetworkSliceSpecificAuthComplete], t ∈ handledTypes ∧ t ∉ unprotectedTypes := by
      decide +kernel
    obtain ⟨hhandled, hprotected⟩ := hother _ htype
    refine (hgated ?_).1 ⟨msg, hdecode, hhandled⟩
    rintro ⟨msg', hdecode', hin⟩
    obtain rfl := ok.inj (hdecode.symm.trans hdecode')
    exact hprotected hin
  · intro hnot hplainType
    have hsplit : ∀ t ∈ handledTypes, t ∈ unprotectedTypes ∨ t ∈ [msgTypeSecurityModeComplete,
        msgTypeRegistrationComplete, msgTypeULNASTransport, msgTypeDeregistrationAcceptNW,
        msgTypeConfigurationUpdateComplete, msgTypeNetworkSliceSpecificAuthComplete] := by
      decide +kernel
    have hunhandled : ¬DecodesTo handledTypes pdu := by
      rintro ⟨msg, hdecode, hin⟩
      rcases hsplit _ hin with hin | hin
      · exact hplainType ⟨msg, hdecode, hin⟩
      · exact hnot ⟨msg, hdecode, hin⟩
    rw [hrun, snd_run_handlePlainNAS hunhandled]
    exact ⟨hunhandled, rfl⟩
  · rw [hrun]
    exact active_handlePlainNAS_iff hactive

/-- A plain message of a type without a handler. -/
theorem plain_uplink_unknown : Gated .minimal {} 0 [0x7E, 0x00, 0x70] registeredUE ∧
      (((handleNASMessage .minimal {} 0 [0x7E, 0x00, 0x70]).run registeredUE).2.ctx
        0).securityCtx.active = true := by
  have hdecode : decode [0x7E, 0x00, 0x70] =
      .ok { header := { extendedProtocolDiscriminator := 0x7E, securityHeaderType := 0,
                        messageType := 0x70 }, body := .raw [] } := by decide +kernel
  obtain ⟨hgated, hreject⟩ := plain_uplink_iff .minimal {} 0 [0x7E, 0x00, 0x70] registeredUE rfl rfl
  refine ⟨hgated.mpr ?_, hreject.mpr ?_⟩
  · rintro ⟨msg, hmsg, hin⟩
    obtain rfl := ok.inj (hdecode.symm.trans hmsg)
    exact absurd hin (by decide)
  · rintro ⟨msg, hmsg, htype, -⟩
    obtain rfl := ok.inj (hdecode.symm.trans hmsg)
    exact absurd htype (by decide)

/-- A plain Deregistration Accept takes a UE with keys in use out of the network, and a plain
Security Mode Reject erases the keys. -/
theorem plain_uplink_not_gated : ¬Gated .minimal {} 0 [0x7E, 0x00, 0x48] registeredUE ∧
      (registeredUE.ctx 0).state = .registered ∧
      (((handleNASMessage .minimal {} 0 [0x7E, 0x00, 0x48]).run registeredUE).2.ctx 0).state =
        .deregistered ∧
      (registeredUE.ctx 0).securityCtx.active = true ∧
      (((handleNASMessage .minimal {} 0 [0x7E, 0x00, 0x5F, 0x18]).run registeredUE).2.ctx
        0).securityCtx.active = false := by
  have hstate : (((handleNASMessage .minimal {} 0 [0x7E, 0x00, 0x48]).run registeredUE).2.ctx
      0).state = .deregistered := by decide +kernel
  refine ⟨fun h => ?_, rfl, hstate, rfl, by decide +kernel⟩
  have hdecode : decode [0x7E, 0x00, 0x48] =
      .ok { header := { extendedProtocolDiscriminator := 0x7E, securityHeaderType := 0,
                        messageType := 0x48 }, body := .raw [] } := by decide +kernel
  refine (h ?_).1 ⟨_, hdecode, by decide⟩
  rintro ⟨msg, hmsg, hin⟩
  obtain rfl := ok.inj (hdecode.symm.trans hmsg)
  exact absurd hin (by decide)

end Claudia5gc.Amf.Handler
