import Claudia5gc.Amf.KeyProcedures

/-!
# The identity of a resynchronisation

A UE that finds the sequence number of a challenge out of range answers with an Authentication
Failure, and the AMF asks the AUSF again, for the identity it has in the SUCI field of the context.
That field is written whenever the UE presents an identity; the challenge may have been asked for
under another one.
-/

namespace Claudia5gc.Amf

open Go Nas Proc UEContext Event List Option

variable (cfg : Config) (rr : RegistrationRequest) {presented : String} {text : Option String}

namespace Handler

/-! ## What does not touch the identity -/

/-- Every context keeps the identity that was presented last, and the AUSF is not asked. -/
abbrev Unasked : Handler → Handler → Prop := Frame UEContext.suci fun e => e.asksAUSF = false

section Unasked

variable {ue : Ptr}

theorem unasked_handleAuthenticationResponse (env : Env) (r : AuthenticationResponse) :
    Keeps Unasked (handleAuthenticationResponse cfg env ue r) :=
  handleAuthenticationResponse_elim cfg env ue r
    (keeps_phase2ProcessAuthResponse cfg env ue r (fun _ h _ => h) (fun _ _ => rfl) fun _ _ => rfl)
    fun _ => (keeps_sendNASIntegrityOnly ue _ _).bind fun _ => quiet_send env ⟨trivial, rfl⟩

theorem unasked_handleSecurityModeReject : Keeps Unasked (handleSecurityModeReject ue) :=
  Keeps.bind (keeps_update fun _ => rfl) fun _ => keeps_emit rfl

end Unasked

/-! ## Phase 1 -/

structure Presents (who : Ptr) (text : Option String) (calls : List Event)
    (s s' : Handler) : Prop where
  suci : ∀ ue, (s'.ctx ue).suci = if ue = who then text.getD (s.ctx ue).suci else (s.ctx ue).suci
  calls : ∃ new, s'.trace = s.trace ++ new ∧ new.filter Event.asksAUSF = calls

section Presents

variable {who : Ptr} {text : Option String} {calls : List Event} {s s₁ s' : Handler}

theorem Presents.of_unasked (h : Unasked s s') : Presents who none [] s s' := by
  obtain ⟨hsuci, new, htrace, hnew⟩ := h
  refine ⟨fun ue => ?_, new, htrace, filter_eq_nil_iff.mpr fun e he => ?_⟩
  · rw [hsuci ue, getD_none, ite_self]
  · rw [hnew e he]
    exact Bool.false_ne_true

theorem Presents.comp {text' : Option String} {calls' : List Event}
    (h : Presents who text calls s s₁) (h' : Presents who text' calls' s₁ s') :
    Presents who (text'.or text) (calls ++ calls') s s' := by
  obtain ⟨new, htrace, hnew⟩ := h.calls
  obtain ⟨new', htrace', hnew'⟩ := h'.calls
  refine ⟨fun ue => ?_, new ++ new', ?_, ?_⟩
  · rw [h'.suci ue, h.suci ue]
    cases text' <;> split <;> rfl
  · rw [htrace', htrace, append_assoc]
  · rw [filter_append, hnew, hnew']

theorem Presents.after (h : Presents who text calls s s₁) (h' : Unasked s₁ s') :
    Presents who text calls s s' := by
  simpa using h.comp (.of_unasked h')

theorem Presents.bind {α β : Type} {x : Proc Handler α} {f : α → Proc Handler β}
    (h : Presents who text calls s (x.run s).2) (hf : ∀ a, Keeps Unasked (f a)) :
    Presents who text calls s ((x >>= f).run s).2 := by
  rw [run_bind]
  rcases hrun : x.run s with ⟨o, s₁⟩
  rw [hrun] at h
  cases o with
  | ok a => exact h.after (hf a s₁)
  | err e | panic | hang => exact h

theorem Presents.wrapErr {α : Type} {x : Proc Handler α}
    (h : Presents who text calls s (x.run s).2) (message : String) :
    Presents who text calls s ((x.wrapErr message).run s).2 := by
  rw [snd_run_wrapErr]
  exact h

theorem presents_update {f : UEContext → UEContext} (hf : ∀ c, (f c).suci = presented) :
    Presents who (some presented) [] s ((update who f).run s).2 := by
  refine ⟨fun ue => ?_, [], (append_nil _).symm, rfl⟩
  rw [ctx_update]
  split
  · exact hf _
  · rfl

theorem presents_ask {e : Event} (he : e.asksAUSF = true)
    (answered : Except Error AUSFInitResponse) (message : String) :
    Presents who none [e] s ((emit e >>= fun _ => (answer answered).wrapErr message >>= fun ausf =>
      authenticationRequest who ausf).run s).2 := by
  have hemit : Presents who none [e] s { s with trace := s.trace ++ [e] } := by
    refine ⟨fun ue => ?_, [e], rfl, ?_⟩
    · rw [getD_none, ite_self]
      rfl
    · rw [filter_cons_of_pos he, filter_nil]
  refine hemit.after (Keeps.bind (R := Unasked) ((keeps_answer _).wrapErr _) (fun ausf => ?_) _)
  exact still_authenticationRequest who ausf

end Presents

/-- The identity under which Phase 1 asks the AUSF, unless it needs the SUCI first. -/
def resolved (s : Handler) (rr : RegistrationRequest) : Option String :=
  match ((resolveIdentity rr).run s).1 with
  | .ok id => some id
  | _ => none

/-- What Phase 1 asks the AUSF. -/
def askedBy (cfg : Config) (who : Ptr) (s : Handler) (rr : RegistrationRequest) : List Event :=
  match s.resolved rr with
  | some id => [.initiateAuth who id cfg.servingNetName]
  | none => []

theorem snd_run_resolveIdentity (s : Handler) : ((resolveIdentity rr).run s).2 = s := by
  unfold resolveIdentity
  split
  · split
    · rfl
    · rw [run_bind_ok (run_get s)]
      dsimp only
      split
      · rfl
      · split <;> rfl
  · rfl

theorem resolved_congr {s s' : Handler} (htmsi : s'.mgr.uesByTMSI = s.mgr.uesByTMSI)
    (hsupi : ∀ ue, (s'.ctx ue).supi = (s.ctx ue).supi) : s'.resolved rr = s.resolved rr := by
  have hrun : ((resolveIdentity rr).run s').1 = ((resolveIdentity rr).run s).1 := by
    unfold resolveIdentity
    split
    · split
      · rfl
      · next guti _ =>
        rw [run_bind_ok (run_get s'), run_bind_ok (run_get s), Manager.getByTMSI,
          Manager.getByTMSI, htmsi]
        cases s.mgr.uesByTMSI.lookup guti.tmsi with
        | none => rfl
        | some existing =>
          dsimp only
          rw [hsupi existing]
          split <;> rfl
    · rfl
  unfold resolved
  rw [hrun]

theorem presents_phase1InitiateAuthentication (env : Env) (who : Ptr) (rr : RegistrationRequest)
    (s : Handler) : Presents who (some (extractIdentity rr)) (askedBy cfg who s rr) s
      ((phase1InitiateAuthentication cfg env who rr).run s).2 := by
  rw [phase1InitiateAuthentication, run_update_bind]
  have htake : Presents who (some (extractIdentity rr)) [] s
      ((update who (takeRegistrationRequest rr)).run s).2 := presents_update fun _ => rfl
  have hresolved : ((update who (takeRegistrationRequest rr)).run s).2.resolved rr =
      s.resolved rr := by
    refine resolved_congr rr rfl fun ue => ?_
    rw [ctx_update]
    split
    · next hue => rw [hue]; rfl
    · rfl
  generalize ((update who (takeRegistrationRequest rr)).run s).2 = s₁ at htake hresolved ⊢
  unfold askedBy
  rw [← hresolved, resolved, run_bind]
  have hread := snd_run_resolveIdentity rr s₁
  rcases hrun : (resolveIdentity rr).run s₁ with ⟨o, s₂⟩
  rw [hrun] at hread
  subst hread
  cases o with
  | ok id => exact htake.comp (presents_ask rfl env.initiateAuth _)
  | err e | panic | hang => exact htake

def resyncIdentity (c : UEContext) : String := if c.suci = "" then c.supi else c.suci

inductive Presented (cfg : Config) (who : Ptr) (s : Handler) (msg : Message) :
    Option String → List Event → Prop
  | nothing : Presented cfg who s msg none []
  | registrationRequest (rr : RegistrationRequest)
      (htype : msg.header.messageType = msgTypeRegistrationRequest)
      (hbody : msg.body = .registrationRequest rr) :
      Presented cfg who s msg (some (extractIdentity rr)) (askedBy cfg who s rr)
  | identityResponse (r : IdentityResponse) (suci : SUCIMobileIdentity)
      (htype : msg.header.messageType = msgTypeIdentityResponse)
      (hbody : msg.body = .identityResponse r) (hsuci : r.mobileIdentity.suci = some suci) :
      Presented cfg who s msg (some (suciText suci))
        [.initiateAuth who (suciText suci) cfg.servingNetName]
  | authenticationFailure (af : AuthenticationFailure)
      (htype : msg.header.messageType = msgTypeAuthenticationFailure)
      (hbody : msg.body = .authenticationFailure af) :
      Presented cfg who s msg none [.resyncAuth who (resyncIdentity (s.ctx who)) cfg.servingNetName
        (s.ctx who).pendingRAND af.auts]

section Dispatch

variable {who : Ptr} {s : Handler}

theorem presents_handleRegistrationRequest (env : Env) (rr : RegistrationRequest) :
    Unasked s ((handleRegistrationRequest cfg env who rr).run s).2 ∨
      Presents who (some (extractIdentity rr)) (askedBy cfg who s rr) s
        ((handleRegistrationRequest cfg env who rr).run s).2 := by
  unfold handleRegistrationRequest
  rw [run_load_bind]
  split
  · exact .inl (quiet_handleRegistrationUpdate cfg env who rr s)
  · right
    have hphase1 := presents_phase1InitiateAuthentication cfg env who rr s
    have hattempt : Presents who (some (extractIdentity rr)) (askedBy cfg who s rr) s
        ((phase1InitiateAuthentication cfg env who rr).attempt.run s).2 := by
      rw [run_attempt]
      rcases hrun : (phase1InitiateAuthentication cfg env who rr).run s with ⟨o, s₁⟩
      rw [hrun] at hphase1
      cases o <;> exact hphase1
    refine hattempt.bind fun r => ?_
    cases r with
    | error e => exact .ite (fun _ => quiet_sendPlainViaDownlink env who _) fun _ => .fail _
    | ok authReq =>
      exact (still_takeRequestedNSSAI who rr).bind fun _ => quiet_sendPlainViaDownlink env who _

theorem presents_handleIdentityResponse (env : Env) (r : IdentityResponse) :
    Unasked s ((handleIdentityResponse cfg env who r).run s).2 ∨
      ∃ suci, r.mobileIdentity.suci = some suci ∧ Presents who (some (suciText suci))
          [.initiateAuth who (suciText suci) cfg.servingNetName] s
          ((handleIdentityResponse cfg env who r).run s).2 := by
  unfold handleIdentityResponse
  cases hsuci : r.mobileIdentity.suci with
  | none => exact .inl (Std.Refl.refl _)
  | some suci =>
    dsimp only
    split
    · exact .inl (Std.Refl.refl _)
    · refine .inr ⟨suci, rfl, ?_⟩
      have hphase1 : Presents who (some (suciText suci))
          [.initiateAuth who (suciText suci) cfg.servingNetName] s
          ((phase1AuthenticateWithSUCI cfg env who (suciText suci)).run s).2 := by
        have htake : Presents who (some (suciText suci)) [] s
            ((update who fun c => { c with suci := suciText suci }).run s).2 :=
          presents_update fun _ => rfl
        exact htake.comp (presents_ask rfl env.initiateAuth _)
      exact (hphase1.wrapErr _).bind fun _ => quiet_sendPlainViaDownlink env who _

theorem presents_phase1ResyncAuth (env : Env) (auts : Bytes) :
    Presents who none [.resyncAuth who (resyncIdentity (s.ctx who)) cfg.servingNetName
      (s.ctx who).pendingRAND auts] s ((phase1ResyncAuth cfg env who auts).run s).2 := by
  exact presents_ask rfl env.resyncAuth _

theorem presents_resync (env : Env) {af : AuthenticationFailure}
    (h : af.cause5GMM = causeSynchFailure ∧ af.auts.length = 14) :
    Presents who none [.resyncAuth who (resyncIdentity (s.ctx who)) cfg.servingNetName
      (s.ctx who).pendingRAND af.auts] s
      ((handleAuthenticationFailure cfg env who af).run s).2 := by
  unfold handleAuthenticationFailure
  rw [if_pos h]
  exact ((presents_phase1ResyncAuth cfg env af.auts).wrapErr _).bind fun _ =>
    quiet_send env ⟨trivial, rfl⟩

theorem presents_dispatch (env : Env) (msg : Message) :
    ∃ text calls, Presented cfg who s msg text calls ∧
      Presents who text calls s ((dispatch cfg env who msg).run s).2 := by
  have hunasked {x : Proc Handler Unit} (h : Keeps Unasked x) :
      ∃ text calls, Presented cfg who s msg text calls ∧ Presents who text calls s (x.run s).2 :=
    ⟨none, [], .nothing, .of_unasked (h s)⟩
  refine dispatch_elim (Q := fun x => ∃ text calls, Presented cfg who s msg text calls ∧
    Presents who text calls s (x.run s).2) cfg env who msg
    ?_ ?_ ?_ ?_ ?_ ?_ ?_ ?_ ?_ ?_ ?_ ?_ ?_ ?_
  · exact fun _ => hunasked (.fail _)
  · exact hunasked (.pure _)
  · intro rr htype hbody
    rcases presents_handleRegistrationRequest cfg env rr with h | h
    · exact ⟨none, [], .nothing, .of_unasked h⟩
    · exact ⟨_, _, .registrationRequest rr htype hbody, h⟩
  · exact fun r => hunasked (unasked_handleAuthenticationResponse cfg env r)
  · intro af htype hbody
    by_cases h : af.cause5GMM = causeSynchFailure ∧ af.auts.length = 14
    · exact ⟨_, _, .authenticationFailure af htype hbody, presents_resync cfg env h⟩
    · have hignored : Keeps Unasked (handleAuthenticationFailure cfg env who af) := by
        unfold handleAuthenticationFailure
        rw [if_neg h]
        exact .pure _
      exact hunasked hignored
  · exact fun _ => hunasked (keeps_handleSecurityModeComplete cfg env who msg.body)
  · exact fun _ _ _ => hunasked unasked_handleSecurityModeReject
  · exact hunasked (keeps_handleRegistrationComplete cfg env)
  · exact fun t => hunasked (keeps_handleULNASTransport cfg env t)
  · exact fun r => hunasked (quiet_handleDeregistration cfg env who r)
  · exact hunasked (still_teardown cfg env who)
  · intro r htype hbody
    rcases presents_handleIdentityResponse cfg env r with h | ⟨suci, hsuci, h⟩
    · exact ⟨none, [], .nothing, .of_unasked h⟩
    · exact ⟨_, _, .identityResponse r suci htype hbody hsuci, h⟩
  · exact fun r => hunasked (quiet_handleServiceRequest cfg env who r)
  · exact fun r => hunasked (keeps_handleNSSAAComplete cfg env r)

end Dispatch

end Handler

/-! ## Runs -/

/-- The identity under which the AUSF has given a challenge for `ue`, if the event is such a
call. -/
def Event.challenged (env : Env) (ue : Ptr) : Event → Option String
  | .initiateAuth ue' id _ => if ue' = ue ∧ env.initiateAuth.isOk then some id else none
  | .resyncAuth ue' id _ _ _ => if ue' = ue ∧ env.resyncAuth.isOk then some id else none
  | _ => none

def challengedBy (env : Env) (ue : Ptr) (events : List Event) (old : Option String) :
    Option String :=
  events.foldl (fun pending e => (e.challenged env ue).or pending) old

theorem challengedBy_filter (env : Env) (ue : Ptr) (events : List Event) (old : Option String) :
    challengedBy env ue (events.filter Event.asksAUSF) old = challengedBy env ue events old := by
  unfold challengedBy
  induction events generalizing old with
  | nil => rfl
  | cons e events ih =>
    by_cases he : e.asksAUSF = true
    · rw [filter_cons_of_pos he, foldl_cons, foldl_cons, ih]
    · have hnone : e.challenged env ue = none := by
        cases e with
        | initiateAuth | resyncAuth => exact absurd rfl he
        | _ => rfl
      rw [filter_cons_of_neg he, foldl_cons, hnone, none_or, ih]

/-- The AMF, and the identity under which the pending challenge of a UE was asked for. -/
structure Challenge where
  amf : Handler
  initiated : Option String

def Handler.UEInput.env : Handler.UEInput → Env
  | .nas _ env => env
  | .network _ env => env
  | .background .. => {}

namespace Challenge

open Handler

def step (cfg : Config) (ue : Ptr) : System Challenge (Ptr × UEInput)
  | v, (who, input), v' =>
    ueStep cfg who v.amf input v'.amf ∧ v'.initiated =
        challengedBy input.env ue (v'.amf.trace.drop v.amf.trace.length) v.initiated

def Targets (cfg : Config) (ue : Ptr) (v : Challenge) : Prop :=
  ∀ id, v.initiated = some id → ∀ env (af : AuthenticationFailure),
    af.cause5GMM = causeSynchFailure → af.auts.length = 14 →
    ∃ new, ((handleAuthenticationFailure cfg env ue af).run v.amf).2.trace = v.amf.trace ++ new ∧
      new.filter Event.asksAUSF =
        [.resyncAuth ue id cfg.servingNetName (v.amf.ctx ue).pendingRAND af.auts]

/-- The message does not part the presented identity from the one of the challenge: a
Registration Request does not have its 5G-GUTI resolved, what replaces a challenge is another
challenge, and no failure is reported before an identity is presented. -/
structure Agrees (env : Env) (ue : Ptr) (initiated : Option String) (s : Handler)
    (msg : Message) : Prop where
  resolved : ∀ rr, msg.header.messageType = msgTypeRegistrationRequest →
    msg.body = .registrationRequest rr → ∀ id, s.resolved rr = some id →
    env.initiateAuth.isOk = true → id = extractIdentity rr
  unresolved : ∀ rr, msg.header.messageType = msgTypeRegistrationRequest →
    msg.body = .registrationRequest rr → (s.resolved rr = none ∨ env.initiateAuth.isOk = false) →
    ∀ id, initiated = some id → id = extractIdentity rr
  response : ∀ r suci, msg.header.messageType = msgTypeIdentityResponse →
    msg.body = .identityResponse r → r.mobileIdentity.suci = some suci →
    env.initiateAuth.isOk = false → ∀ id, initiated = some id → id = suciText suci
  failure : ∀ af, msg.header.messageType = msgTypeAuthenticationFailure →
    msg.body = .authenticationFailure af → (s.ctx ue).suci ≠ ""

def Orderly (ue : Ptr) (v : Challenge) : Ptr × UEInput → Prop
  | (who, .nas pdu env) => who = ue → ∀ msg s₁, (openNAS ue pdu).run v.amf = (.ok msg, s₁) →
    Agrees env ue v.initiated s₁ msg
  | _ => True

/-- The pending challenge was asked for under the identity that was presented last. -/
def Inv (ue : Ptr) (v : Challenge) : Prop :=
  ∀ id, v.initiated = some id → (v.amf.ctx ue).suci = id ∧ id ≠ ""

theorem suciText_ne (suci : SUCIMobileIdentity) : suciText suci ≠ "" := by
  intro h
  have hlist := congrArg String.toList h
  simp [suciText] at hlist

theorem gutiText_ne (guti : GUTIMobileIdentity) : gutiText guti ≠ "" := by
  intro h
  have hlist := congrArg String.toList h
  simp [gutiText] at hlist

theorem extractIdentity_ne : extractIdentity rr ≠ "" := by
  unfold extractIdentity
  dsimp only
  split
  · cases rr.mobileIdentity.suci with
    | none => decide
    | some suci => exact suciText_ne suci
  · split
    · cases rr.mobileIdentity.guti with
      | none => decide
      | some guti => exact gutiText_ne guti
    · decide

section

variable {cfg : Config} {ue : Ptr} {v v' : Challenge}

theorem Inv.targets (h : Inv ue v) : Targets cfg ue v := by
  intro id hid env af hcause hauts
  obtain ⟨hsuci, hne⟩ := h id hid
  have hidentity : resyncIdentity (v.amf.ctx ue) = id := by
    unfold resyncIdentity
    rw [hsuci, if_neg hne]
  rw [← hidentity]
  exact (presents_resync cfg env ⟨hcause, hauts⟩).calls

theorem eq_of_or_ite {c : Prop} [Decidable c] {asked id : String} {old : Option String}
    (h : (if c then some asked else none).or old = some id) :
    (c ∧ asked = id) ∨ (¬c ∧ old = some id) := by
  split at h
  · next hc => exact .inl ⟨hc, some.inj h⟩
  · next hc => exact .inr ⟨hc, h⟩

theorem challenged_of_ne {who : Ptr} (hwho : who ≠ ue) (env : Env) (s : Handler) (msg : Message)
    {calls : List Event} (h : Presented cfg who s msg text calls)
    (old : Option String) : challengedBy env ue calls old = old := by
  cases h with
  | nothing => rfl
  | registrationRequest rr htype hbody =>
    unfold askedBy
    split
    · simp [challengedBy, Event.challenged, hwho]
    · rfl
  | identityResponse r suci htype hbody hsuci => simp [challengedBy, Event.challenged, hwho]
  | authenticationFailure af htype hbody => simp [challengedBy, Event.challenged, hwho]

theorem inv_of_presented {env : Env} {s s' : Handler} {msg : Message} {initiated : Option String}
    {calls : List Event} (h : Inv ue ⟨s, initiated⟩)
    (hagrees : Agrees env ue initiated s msg) (hpresented : Presented cfg ue s msg text calls)
    (hpresents : Presents ue text calls s s') :
    Inv ue ⟨s', challengedBy env ue calls initiated⟩ := by
  have hsuci := hpresents.suci ue
  rw [if_pos rfl] at hsuci
  intro id hid
  cases hpresented with
  | nothing =>
    rw [hsuci]
    exact h id hid
  | registrationRequest rr htype hbody =>
    rw [hsuci]
    suffices heq : id = extractIdentity rr by
      rw [heq]
      exact ⟨rfl, extractIdentity_ne rr⟩
    unfold askedBy at hid
    cases hresolved : s.resolved rr with
    | none =>
      rw [hresolved] at hid
      exact hagrees.unresolved rr htype hbody (.inl hresolved) id hid
    | some asked =>
      rw [hresolved] at hid
      obtain ⟨⟨-, hok⟩, rfl⟩ | ⟨hfailed, hold⟩ := eq_of_or_ite hid
      · exact hagrees.resolved rr htype hbody asked hresolved hok
      · exact hagrees.unresolved rr htype hbody (.inr (by simpa using hfailed)) id hold
  | identityResponse r suci htype hbody hr =>
    rw [hsuci]
    suffices heq : id = suciText suci by
      rw [heq]
      exact ⟨rfl, suciText_ne suci⟩
    obtain ⟨-, hasked⟩ | ⟨hfailed, hold⟩ := eq_of_or_ite hid
    · exact hasked.symm
    · exact hagrees.response r suci htype hbody hr (by simpa using hfailed) id hold
  | authenticationFailure af htype hbody =>
    rw [hsuci]
    have hne := hagrees.failure af htype hbody
    obtain ⟨-, hasked⟩ | ⟨-, hold⟩ := eq_of_or_ite hid
    · rw [resyncIdentity, if_neg hne] at hasked
      exact ⟨hasked, hasked ▸ hne⟩
    · exact h id hold

theorem Inv.of_unasked (h : Inv ue v) {env : Env} (hunasked : Unasked v.amf v'.amf)
    (hinitiated : v'.initiated =
      challengedBy env ue (v'.amf.trace.drop v.amf.trace.length) v.initiated) : Inv ue v' := by
  have hpresents : Presents ue none [] v.amf v'.amf := .of_unasked hunasked
  obtain ⟨new, htrace, hnew⟩ := hpresents.calls
  rw [htrace, drop_left, ← challengedBy_filter, hnew] at hinitiated
  intro id hid
  rw [hinitiated] at hid
  rw [hunasked.1 ue]
  exact h id hid

theorem Inv.step (h : Inv ue v) {l : Ptr × UEInput}
    (hstep : (step cfg ue).when (Orderly ue) v l v') : Inv ue v' := by
  obtain ⟨who, input⟩ := l
  obtain ⟨horderly, hamf, hinitiated⟩ := hstep
  cases input with
  | network input env =>
    refine h.of_unasked ?_ hinitiated
    rw [hamf]
    exact keeps_networkProcedure cfg env input v.amf
  | background before g after =>
    refine h.of_unasked ?_ hinitiated
    obtain ⟨-, hamf⟩ := hamf
    rw [hamf]
    have hbackground : Keeps Unasked (Handler.background cfg g) := still_background cfg g
    exact hbackground { v.amf with goroutines := before ++ after }
  | nas pdu env =>
    have hopen : Keeps Unasked (openNAS who pdu) := keeps_openNAS pdu fun _ => rfl
    have hunasked := hopen v.amf
    have hrun : v'.amf = ((openNAS who pdu >>= dispatch cfg env who).run v.amf).2 := by
      rw [hamf, run_handleNASMessage_openNAS]
    rw [run_bind] at hrun
    rcases hmsg : (openNAS who pdu).run v.amf with ⟨o, s₁⟩
    rw [hmsg] at hrun hunasked
    cases o with
    | ok msg =>
      obtain ⟨text, calls, hpresented, hpresents⟩ := presents_dispatch (s := s₁) cfg env msg
      rw [← hrun] at hpresents
      obtain ⟨new, htrace, hnew⟩ := ((Presents.of_unasked hunasked).comp hpresents).calls
      rw [htrace, drop_left, ← challengedBy_filter, hnew] at hinitiated
      change v'.initiated = challengedBy env ue calls v.initiated at hinitiated
      have hopened : Inv ue ⟨s₁, v.initiated⟩ := by
        intro id hid
        rw [hunasked.1 ue]
        exact h id hid
      by_cases hwho : who = ue
      · subst hwho
        have hinv := inv_of_presented hopened (horderly rfl msg s₁ hmsg) hpresented hpresents
        rw [← hinitiated] at hinv
        exact hinv
      · rw [challenged_of_ne hwho env s₁ msg hpresented] at hinitiated
        have hsuci := hpresents.suci ue
        rw [if_neg (Ne.symm hwho)] at hsuci
        intro id hid
        rw [hinitiated] at hid
        rw [hsuci]
        exact hopened id hid
    | err e | panic | hang => exact h.of_unasked (by rw [hrun]; exact hunasked) hinitiated

/-- In every run in which the messages of the UE agree, whatever the other UEs and the network
do, a resynchronisation is for the identity of the pending challenge. -/
theorem targets_of_run {start : Challenge} {ls : List (Ptr × UEInput)}
    (hstart : start.initiated = none)
    (hrun : Run ((step cfg ue).when (Orderly ue)) start ls v) : Targets cfg ue v := by
  have hinit : Inv ue start := by
    intro id hid
    rw [hstart] at hid
    cases hid
  have hinv : Inv ue v := hrun.invariant hinit fun _ _ _ h hstep => h.step hstep
  exact hinv.targets

end

/-! ## A run -/

/-- A UE that has a SUPI and a 5G-GUTI from an earlier registration. -/
def known : Handler :=
  let mgr := ((Manager.newManager ⟨"001", "01", 1, 1, 1⟩ false false).allocateUEContext 7).2
  let mgr := (mgr.setSUPI 0 "imsi-001010000000001").2
  newHandler (mgr.assignGUTI 0 (.error (.new ""))).2

def challenging : Env where
  initiateAuth := .ok ⟨"1", Vector.replicate 16 1, Vector.replicate 16 1⟩

def suciRequest : Bytes :=
  [0x7E, 0x00, 0x41, 0x79, 0x00, 0x0D, 0x01, 0x00, 0xF1, 0x10, 0xF0, 0xFF, 0x00, 0x00, 0x00,
    0x00, 0x00, 0x00, 0x10]

/-- A Registration Request with the 5G-GUTI that the AMF has given out. -/
def gutiRequest : Bytes :=
  [0x7E, 0x00, 0x41, 0x79, 0x00, 0x0B, 0xF2, 0x00, 0xF1, 0x10, 0x01, 0x00, 0x41, 0x00, 0x00,
    0x00, 0x01]

def challengedWith (pdu : Bytes) : Challenge :=
  let amf := ((handleNASMessage .minimal challenging 0 pdu).run known).2
  { amf, initiated := challengedBy challenging 0 (amf.trace.drop known.trace.length) none }

theorem agrees_suciRequest (msg : Message) (s₁ : Handler)
    (h : (openNAS 0 suciRequest).run known = (.ok msg, s₁)) : Agrees challenging 0 none s₁ msg := by
  obtain ⟨hmsg, -⟩ := Prod.mk.inj h
  obtain rfl := Outcome.ok.inj hmsg
  refine ⟨?_, ?_, ?_, ?_⟩
  · intro rr _ hbody id hid _
    cases hbody
    exact (some.inj hid).symm
  · exact fun _ _ _ _ id hid => nomatch hid
  · exact fun _ _ htype => absurd htype (by decide)
  · exact fun _ htype => absurd htype (by decide)

theorem targets_of_run_suci :
    (challengedWith suciRequest).initiated = some "suci-00101-0-0-0-0000000010" ∧
      Targets .minimal 0 (challengedWith suciRequest) := by
  have hstep : ((step .minimal 0).when (Orderly 0)) ⟨known, none⟩ (0, .nas suciRequest challenging)
      (challengedWith suciRequest) :=
    ⟨fun _ => agrees_suciRequest, rfl, rfl⟩
  exact ⟨by decide +kernel, targets_of_run rfl (Run.nil.snoc _ hstep)⟩

/-- The challenge is asked for under the SUPI and the resynchronisation under the 5G-GUTI. -/
theorem guti_resynchronised :
    ¬∀ (cfg : Config) (ue : Ptr) (start v : Challenge) (ls : List (Ptr × UEInput)),
      start.initiated = none → Run (step cfg ue) start ls v → Targets cfg ue v := by
  intro h
  have hstep : step .minimal 0 ⟨known, none⟩ (0, .nas gutiRequest challenging)
      (challengedWith gutiRequest) := ⟨rfl, rfl⟩
  have htargets := h .minimal 0 ⟨known, none⟩ _ _ rfl (Run.nil.snoc _ hstep)
  have hinitiated : (challengedWith gutiRequest).initiated = some "imsi-001010000000001" := by
    decide +kernel
  let af : AuthenticationFailure := { cause5GMM := 21, auts := replicate 14 0 }
  obtain ⟨new, htrace, hnew⟩ := htargets _ hinitiated {} af rfl rfl
  have hcalls : (((handleAuthenticationFailure .minimal {} 0 af).run
      (challengedWith gutiRequest).amf).2.trace.drop
        (challengedWith gutiRequest).amf.trace.length).filter Event.asksAUSF =
      [.resyncAuth 0 "guti-0010101000100000001" Config.minimal.servingNetName
        (Vector.replicate 16 1) (replicate 14 0)] := by
    decide +kernel
  rw [htrace, drop_left, hnew] at hcalls
  have hid := (Event.resyncAuth.inj (cons.inj hcalls).1).2.1
  exact absurd hid (by decide)

end Challenge

end Claudia5gc.Amf
