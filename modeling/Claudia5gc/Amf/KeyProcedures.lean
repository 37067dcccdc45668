import Claudia5gc.Amf.Integrity
import Claudia5gc.Amf.KeyUse
import Claudia5gc.Amf.RegistrationFailure

/-!
# The procedures, as steps of the security context

Every procedure of a UE takes the security context through the steps of `SecurityStep`.
None of them drops a PDU that it has built but the handler of the Security Mode Complete,
for a UE whose tracking area is excluded.
-/

namespace Claudia5gc.Amf.Handler

open Go Crypto Nas Proc Still Keeps BuildsAt

variable (cfg : Config) (pdu : Bytes) (env : Env) (body : DownlinkBody) (psi pti : UInt8)
  (t : ULNASTransport)

section

variable {drops : Prop} {ue : Ptr}

/-! ## The builders -/

theorem snd_run_cipher (sec : SecurityContext) (innerPDU : Bytes) (s : Handler) :
    ((cipher sec innerPDU).run s).2 = s := by
  unfold cipher
  split
  · rfl
  · exact snd_run_wrapErr_lift _ _ s

theorem builds_sendNASIntegrityOnly {sht : UInt8} (hsht : sht &&& 0x0F ≠ 0) :
    Builds ue (sendNASIntegrityOnly ue body sht) := by
  intro s
  refine read_bind (snd_run_wrapErr_lift _ _ s) fun innerPDU _ => ?_
  refine read_bind rfl fun c hload => ?_
  obtain rfl : s.ctx ue = c := Outcome.ok.inj (Prod.mk.inj hload).1
  refine read_bind (snd_run_wrapErr_lift _ _ s) fun mac hmac => ?_
  exact .count ⟨sht, mac, innerPDU, hsht, rfl, (run_wrapErr_lift_eq_ok hmac).1⟩

theorem builds_sendNASSecured : Builds ue (sendNASSecured ue body) := by
  intro s
  refine read_bind (snd_run_wrapErr_lift _ _ s) fun innerPDU _ => ?_
  refine read_bind rfl fun c hload => ?_
  obtain rfl : s.ctx ue = c := Outcome.ok.inj (Prod.mk.inj hload).1
  refine read_bind (snd_run_cipher _ _ s) fun ciphered _ => ?_
  refine read_bind (snd_run_wrapErr_lift _ _ s) fun mac hmac => ?_
  exact .count ⟨_, mac, ciphered, by decide, rfl, (run_wrapErr_lift_eq_ok hmac).1⟩

theorem Protects.builds {x : Proc Handler Bytes} (h : Protects ue x) : Builds ue x := by
  induction h with
  | secured body => exact builds_sendNASSecured body
  | wrapErr _ text ih => exact ih.wrapErr text
  | fail e => exact .fail e

theorem secures_send_plain {pdu : Bytes} (h : isProtected pdu = false) :
    Keeps (Secures drops ue) (send env (.downlinkNASTransport ue pdu)) := by
  intro s
  rw [snd_run_send]
  exact .single (.plain pdu _ h rfl rfl ⟨trivial, rfl⟩)

instance : Slicing (Secures drops ue) where
  of_kept h := secures_of_silent h.reads
  of_keyed h := secures_of_silent h.reads

instance : Messaging (Secures drops ue) ue where
  Carries pdu _ x := Hands drops ue pdu x
  protect hx hf := hx.builds.bind hf
  send env _ _ he := .send env ⟨(usual_of_nasPDU he).ordinary.keyless, he⟩
  after hx := .after (hx.mono fun _ _ h => h.reads)
  bind := Hands.bind
  wrapErr := Hands.wrapErr
  attempt := Hands.attempt
  plain env _ := secures_send_plain env

/-! ## Keys -/

theorem secures_takeKeys (kausf : Bytes) : Keeps (Secures drops ue) (takeKeys cfg ue kausf) := by
  intro s
  refine .single (.rekey cfg kausf (s.ctx ue) (sec_update s ue _) ?_)
  rfl

theorem secures_handleSecurityModeReject : Keeps (Secures drops ue) (handleSecurityModeReject ue) :=
  fun s => .single (.reset (sec_update s ue _) rfl)

theorem secures_command (smcReq : SecurityModeCommand) (displaced : Option Ptr) :
    Keeps (Secures drops ue) (do
      match displaced with
      | none => pure ()
      | some stale => spawn (.releaseDisplacedContext stale)
      let pdu ← sendNASIntegrityOnly ue (.securityModeCommand smcReq)
        securityHeaderIntegrityProtectedWithNewSC
      send env (.downlinkNASTransport ue pdu)) := by
  have hrest : Keeps (Secures drops ue) (do
      let pdu ← sendNASIntegrityOnly ue (.securityModeCommand smcReq)
        securityHeaderIntegrityProtectedWithNewSC
      send env (.downlinkNASTransport ue pdu)) :=
    (builds_sendNASIntegrityOnly _ (by decide)).bind fun _ => .send env ⟨trivial, rfl⟩
  cases displaced with
  | none => exact hrest
  | some stale => exact (still_spawn _).bind fun _ => hrest

theorem secures_handleAuthenticationResponse (r : AuthenticationResponse) :
    Keeps (Secures drops ue) (handleAuthenticationResponse cfg env ue r) :=
  ((phase2ProcessAuthResponse_elim cfg env ue r (secures_takeKeys cfg)).wrapErr _).bind
    fun (smcReq, displaced) => secures_command env smcReq displaced

theorem secures_of_phase2 {cfg : Config} {env : Env} {r : AuthenticationResponse} {s s₁ : Handler}
    {smcReq : SecurityModeCommand} {displaced : Option Ptr}
    (h : (phase2ProcessAuthResponse cfg env ue r).run s = (.ok (smcReq, displaced), s₁)) :
    Secures drops ue s₁ ((handleAuthenticationResponse cfg env ue r).run s).2 := by
  have hwrap : ((phase2ProcessAuthResponse cfg env ue r).wrapErr "registration phase2").run s =
      (.ok (smcReq, displaced), s₁) := by
    rw [run_wrapErr, h]
  rw [handleAuthenticationResponse, run_bind_ok hwrap]
  exact secures_command env smcReq displaced s₁

theorem secures_unwrapNASSecurity : Keeps (Secures drops ue) (unwrapNASSecurity ue pdu) := by
  intro s
  rcases Nat.lt_or_ge pdu.length 7 with hlt | hge
  · obtain ⟨e, hrun⟩ := run_unwrapNASSecurity_of_lt ue hlt s
    rw [hrun]
    exact .refl
  · rw [run_unwrapNASSecurity hge]
    split
    · exact .single (.uplink (sec_update s ue countUplink) rfl)
    · exact .refl
    · exact .refl
    · exact .refl

/-! ## The Security Mode Complete -/

theorem secures_drop (hdrops : drops) {x : Proc Handler Bytes} (hx : Builds ue x) :
    Keeps (Secures drops ue) (do let _ ← x.attempt) := by
  refine bind (attempt fun s => ?_) fun _ => .pure _
  rcases hrun : x.run s with ⟨o, s'⟩
  obtain ⟨htrace, ⟨pdu, -, -, hsec⟩ | ⟨-, hsec⟩⟩ := hx s o s' hrun
  · exact .single (.drop hdrops hsec htrace)
  · exact .single (.silent hsec (Emits.of_eq htrace))

/-- Phase 3 will not admit the UE in its tracking area. -/
def AreaExcluded (cfg : Config) (env : Env) (c : UEContext) : Prop :=
  match env.amSubscriptionData with
  | .ok _ => areaAllowed cfg env c = false
  | .error e => Error.is errServiceAreaRestricted e = true

theorem areaExcluded_congr {c c' : UEContext} (h : c'.area = c.area) :
    AreaExcluded cfg env c' ↔ AreaExcluded cfg env c := by
  unfold AreaExcluded
  rw [areaAllowed_congr cfg env h]

theorem areaExcluded_of_phase3 {cfg : Config} {env : Env} {s s' : Handler} {e : Error}
    (hrun : (phase3ProcessSMCComplete cfg env ue).run s = (.err e, s'))
    (his : Error.is errServiceAreaRestricted e = true) : AreaExcluded cfg env (s.ctx ue) := by
  unfold AreaExcluded
  cases hsub : env.amSubscriptionData with
  | ok amSub =>
    have hadmits := (phase3_fails_iff cfg env ue s).mp ⟨e, s', hrun⟩
    by_contra hallowed
    exact hadmits ⟨⟨amSub, hsub⟩, eq_true_of_ne_false hallowed⟩
  | error e' =>
    rw [phase3ProcessSMCComplete, run_load_bind, run_emit_bind, run_bind, hsub] at hrun
    obtain rfl : .wrap "udm: get AM subscription" e' = e := Outcome.err.inj (Prod.mk.inj hrun).1
    exact his

theorem secures_finishRegistration (s : Handler)
    (hdrops : AreaExcluded cfg env (s.ctx ue) → drops) :
    Secures drops ue s ((finishRegistration cfg env ue).run s).2 := by
  refine bind_run ((silent_phase3ProcessSMCComplete cfg env ue).attempt s) fun r s' hrun => ?_
  cases r with
  | ok regAccept => exact quiet_completeRegistration env ue regAccept s'
  | error e =>
    have hfails : (phase3ProcessSMCComplete cfg env ue).run s = (.err e, s') :=
      run_attempt_eq_ok hrun
    dsimp only
    split
    next his =>
      exact secures_drop (hdrops (areaExcluded_of_phase3 hfails his)) (builds_sendNASSecured _) s'
    next => exact .refl

theorem secures_handleSecurityModeComplete (body : Body) (s : Handler)
    (hdrops : AreaExcluded cfg env (s.ctx ue) → drops) :
    Secures drops ue s ((handleSecurityModeComplete cfg env ue body).run s).2 := by
  have htake : Keeps Still (takeBody ue body) :=
    keeps_takeBody ue body (fun _ _ => rfl) fun _ _ => rfl
  have htakeArea : Keeps (Frame UEContext.area fun _ => True) (takeBody ue body) :=
    keeps_takeBody ue body (fun _ _ => rfl) fun _ _ => rfl
  rw [run_handleSecurityModeComplete]
  refine bind_run (secures htake s) fun _ s₁ hrun => ?_
  have harea := (htakeArea s).1 ue
  rw [hrun] at harea
  exact secures_finishRegistration cfg env s₁ fun hexcluded =>
    hdrops ((areaExcluded_congr cfg env harea).mp hexcluded)

/-! ## Procedures of the network -/

section Network

variable {R : Handler → Handler → Prop} [Messaging R ue]

theorem protects_encodeDownlinkLPP (lppPDU : Bytes) :
    Protects ue (encodeDownlinkLPP ue lppPDU) := by
  unfold encodeDownlinkLPP
  split
  · exact .fail _
  · exact .wrapErr (.secured _) _

theorem keeps_initiateNetworkPDUSessionRelease :
    Keeps R (initiateNetworkPDUSessionRelease env ue psi) := by
  refine (keeps_load ue).bind fun c => ?_
  split
  · exact .fail _
  · refine Messaging.protect (.wrapErr (.secured _) _) fun nasPDU => ?_
    refine Messaging.bind (Messaging.wrapErr (Messaging.send env rfl) _) fun _ => ?_
    exact still_modify (fun _ _ => rfl) fun _ => rfl

theorem keeps_initiateNetworkQoSModification (fiveQI ambrDLMbps ambrULMbps : Int) : Keeps R
    (initiateNetworkQoSModification cfg env ue psi fiveQI ambrDLMbps ambrULMbps) := by
  refine (keeps_load ue).bind fun c => ?_
  split
  · exact .fail _
  · refine .ite (fun _ => .fail _) fun _ => bind (still_emit ⟨trivial, rfl, rfl⟩) fun _ => ?_
    refine ((keeps_answer _).wrapErr _).bind fun (n1SmCmdBody, n2SmInfo) => ?_
    exact Messaging.protect (.wrapErr (.secured _) _) fun _ => Messaging.send env rfl

theorem keeps_sendDownlinkLPP (lppPDU : Bytes) : Keeps R (sendDownlinkLPP env ue lppPDU) := by
  refine Messaging.protect (protects_encodeDownlinkLPP lppPDU) fun nasPDU => ?_
  refine Messaging.after (keeps_load ue) (fun _ => ⟨_, _, rfl⟩) fun c => ?_
  refine Messaging.after (still_modify (fun _ _ => rfl) fun _ => rfl) (fun _ => ⟨_, _, rfl⟩)
    fun _ => ?_
  refine Messaging.bind (Messaging.attempt (Messaging.send env rfl)) fun r => ?_
  cases r with
  | ok _ => exact .pure _
  | error e => exact bind (still_modify (fun _ _ => rfl) fun _ => rfl) fun _ => .fail _

theorem keeps_networkProcedure [Slicing R] (input : NetworkInput) :
    Keeps R (networkProcedure cfg env ue input) := by
  cases input with
  | deregistration cause5GMM accessType reregRequired =>
    exact ((quiet_sendNASSecuredViaDownlink env ue _).wrapErr _).bind fun _ =>
      still_transitionTo ue _
  | pduSessionRelease psi => exact keeps_initiateNetworkPDUSessionRelease env psi
  | t3592 psi => exact still_completeNetworkPDUSessionRelease cfg ue psi
  | qosModification psi fiveQI ambrDLMbps ambrULMbps =>
    exact keeps_initiateNetworkQoSModification cfg env psi fiveQI ambrDLMbps ambrULMbps
  | downlinkLPP lppPDU => exact keeps_sendDownlinkLPP env lppPDU
  | downlinkLPPNoWait lppPDU =>
    exact Messaging.protect (protects_encodeDownlinkLPP lppPDU) fun _ =>
      Messaging.wrapErr (Messaging.send env rfl) _
  | uePolicy container => exact quiet_sendUEPolicyContainer env ue container
  | revokeSlice sst sd =>
    refine (silent_revokeNSSAA ue sst sd).bind fun allowed => ?_
    exact .ite (fun _ => quiet_sendNSSAAConfigUpdate env ue) fun _ => .pure _
  | reauthSlice sst sd =>
    refine (silent_reauthNSSAA ue sst sd).bind fun queued => ?_
    exact .ite (fun _ => keeps_startNSSAA cfg env) fun _ => .pure _

end Network

/-! ## Every step -/

theorem secures_dispatch (msg : Message) (s : Handler)
    (hdrops : msg.header.messageType = msgTypeSecurityModeComplete →
      AreaExcluded cfg env (s.ctx ue) → drops) :
    Secures drops ue s ((dispatch cfg env ue msg).run s).2 := by
  refine dispatch_elim (Q := fun x => Secures drops ue s (x.run s).2) cfg env ue msg
    ?_ ?_ ?_ ?_ ?_ ?_ ?_ ?_ ?_ ?_ ?_ ?_ ?_ ?_
  · exact fun _ => .refl
  · exact .refl
  · exact fun rr _ _ => quiet_handleRegistrationRequest cfg env ue rr Still.secures s
  · exact fun r => secures_handleAuthenticationResponse cfg env r s
  · exact fun af _ _ => quiet_handleAuthenticationFailure cfg env ue Still.secures af s
  · exact fun htype => secures_handleSecurityModeComplete cfg env msg.body s (hdrops htype)
  · exact fun _ _ _ => secures_handleSecurityModeReject s
  · exact keeps_handleRegistrationComplete cfg env s
  · exact fun t => keeps_handleULNASTransport cfg env t s
  · exact fun r => quiet_handleDeregistration cfg env ue r s
  · exact still_teardown cfg env ue s
  · exact fun r _ _ => quiet_handleIdentityResponse cfg env ue Still.secures r s
  · exact fun r => quiet_handleServiceRequest cfg env ue r s
  · exact fun r => keeps_handleNSSAAComplete cfg env r s

/-- `HandleNASMessage` up to the dispatch. -/
def openNAS (ue : Ptr) (pdu : Bytes) : Proc Handler Message := do
  if (← load ue).securityCtx.active && isProtected pdu then
    let pdu ← (unwrapNASSecurity ue pdu).wrapErr "nas security unwrap"
    (Proc.lift (decode pdu)).wrapErr "nas decode"
  else (Proc.lift (decode pdu)).wrapErr "nas decode"

theorem run_handleNASMessage_openNAS (ue : Ptr) (pdu : Bytes) (s : Handler) :
    (handleNASMessage cfg env ue pdu).run s = (openNAS ue pdu >>= dispatch cfg env ue).run s := by
  unfold handleNASMessage openNAS
  rw [run_bind_assoc, run_load_bind, run_load_bind]
  split
  · rw [run_bind_assoc]
    rfl
  · rfl

theorem keeps_openNAS {τ : Type} {π : UEContext → τ} {P : Event → Prop}
    (h : ∀ c, π (countUplink c) = π c) : Keeps (Frame π P) (openNAS ue pdu) := by
  refine (keeps_load ue).bind fun c => .ite (fun _ => ?_) fun _ => ?_
  · exact ((keeps_unwrapNASSecurity ue pdu h).wrapErr _).bind fun _ => .wrapErr (.lift _) _
  · exact .wrapErr (.lift _) _

theorem secures_openNAS : Keeps (Secures drops ue) (openNAS ue pdu) := by
  refine (keeps_load ue).bind fun c => .ite (fun _ => ?_) fun _ => ?_
  · exact ((secures_unwrapNASSecurity pdu).wrapErr _).bind fun _ => .wrapErr (.lift _) _
  · exact .wrapErr (.lift _) _

def Excludes (cfg : Config) (ue : Ptr) (s : Handler) : UEInput → Prop
  | .nas pdu env =>
    (∃ msg s₁, (openNAS ue pdu).run s = (.ok msg, s₁) ∧
      msg.header.messageType = msgTypeSecurityModeComplete) ∧ AreaExcluded cfg env (s.ctx ue)
  | _ => False

theorem secures_ueStep {cfg : Config} {s s' : Handler} {input : UEInput}
    (h : ueStep cfg ue s input s') : Secures (Excludes cfg ue s input) ue s s' := by
  cases input with
  | nas pdu env =>
    rw [h, run_handleNASMessage_openNAS]
    refine bind_run (secures_openNAS pdu s) fun msg s₁ hrun => ?_
    refine secures_dispatch cfg env msg s₁ fun htype hexcluded => ⟨⟨msg, s₁, hrun, htype⟩, ?_⟩
    have hopen : Keeps (Frame UEContext.area fun _ => True) (openNAS ue pdu) :=
      keeps_openNAS pdu fun _ => rfl
    have harea := (hopen s).1 ue
    rw [hrun] at harea
    exact (areaExcluded_congr cfg env harea).mp hexcluded
  | network input env =>
    rw [h]
    exact keeps_networkProcedure cfg env input s
  | background before g after =>
    rw [h.2]
    have hsilent : Keeps Silent (background cfg g) := still_background cfg g
    exact secures_of_silent (hsilent { s with goroutines := before ++ after })

end

end Claudia5gc.Amf.Handler
