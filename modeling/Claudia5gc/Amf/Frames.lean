import Claudia5gc.Amf.NasHandler

/-!
# What the handlers leave alone

Most of what the handlers do is messages, calls and bookkeeping: the keys and the slices of every
context stay as they are, and none of the events is one that the history of a UE records.  The call
of the SMF is the exception among the latter that is still quiet about the contexts.
-/

namespace Claudia5gc.Amf.Handler

open Go Nas Proc UEContext Event Keeps UEContext

variable (cfg : Config) (env : Env) (ue : Ptr) (rr : RegistrationRequest) (psi pti : UInt8)
  (t : ULNASTransport) {e : Event} {f : UEContext → UEContext}

/-- Every context keeps its standing, and the events are ordinary ones. -/
abbrev Quiet : Handler → Handler → Prop := Frame standing Event.Ordinary

/-- Every context keeps its security context and its standing, and the events are ordinary
ones that carry no NAS PDU. -/
abbrev Still : Handler → Handler → Prop :=
  Frame guarded fun e => e.Ordinary ∧ e.nasPDU = none

/-- Every context keeps its security context, no event marks a change of keys, and none
carries a NAS PDU. -/
abbrev Silent : Handler → Handler → Prop :=
  Frame securityCtx fun e => e.Keyless ∧ e.nasPDU = none

theorem Still.silent {α : Type} {x : Proc Handler α} (h : Keeps Still x) : Keeps Silent x :=
  h.mono fun _ _ hframe => hframe.mono Prod.fst fun _ he => ⟨he.1.keyless, he.2⟩

theorem Still.quiet {α : Type} {x : Proc Handler α} (h : Keeps Still x) : Keeps Quiet x :=
  h.mono fun _ _ hframe => hframe.mono Prod.snd fun _ he => he.1

/-! ## Single writes -/

section Writes

variable {τ : Type} {π : UEContext → τ} {P : Event → Prop}

theorem quiet_send [Allows Usual P] (h : e.Usual) : Keeps (Frame π P) (send env e) :=
  keeps_send env (Allows.allow h)

theorem proj_of_modify {s : Handler} {mgr : Manager} (hmgr : mgr.ues = s.mgr.ues.modify ue f)
    (hf : ∀ c, π (f c) = π c) (ue' : Ptr) : π (mgr.ues.get ue') = π (s.ctx ue') := by
  have hupdate := ctx_update s ue ue' f
  rw [hmgr]
  change π (((update ue f).run s).2.ctx ue') = _
  rw [hupdate]
  split
  · next hue => rw [hf, hue]
  · rfl

theorem keeps_setSUPI (supi : String) (h : ∀ c, π { c with supi := supi } = π c) :
    Keeps (Frame π P) (setSUPI ue supi) := by
  refine get_bind fun s => ?_
  refine ⟨proj_of_modify ue (f := ({ · with supi := supi })) ?_ h, Emits.of_eq rfl⟩
  unfold Manager.setSUPI
  dsimp only
  split <;> rfl

theorem keeps_assignGUTI (h : ∀ c guti, π { c with guti := some guti } = π c) :
    Keeps (Frame π P) (assignGUTI env ue) := by
  refine get_bind fun s => ?_
  refine ⟨proj_of_modify ue
    (f := ({ · with guti := some (s.mgr.assignGUTI ue env.nextTMSI).1 })) ?_ (h · _),
    Emits.of_eq rfl⟩
  unfold Manager.assignGUTI Manager.nextTMSI
  dsimp only
  split
  · split <;> rfl
  · rfl

theorem keeps_phase2ProcessAuthResponse (authResp : AuthenticationResponse)
    (hP : ∀ e : Event, e.asksAUSF = false → e.nasPDU = none → P e)
    (hsupi : ∀ c supi, π { c with supi := supi } = π c)
    (hkeys : ∀ kausf c, π (establishSecurity cfg kausf c) = π c) :
    Keeps (Frame π P) (phase2ProcessAuthResponse cfg env ue authResp) := by
  refine .ite (fun _ => .fail _) fun _ => ?_
  refine (keeps_load ue).bind fun c => bind (keeps_emit (hP _ rfl rfl)) fun _ => ?_
  refine ((keeps_answer _).wrapErr _).bind fun confirm => ?_
  refine (keeps_setSUPI ue _ fun c => hsupi c _).bind fun displaced => ?_
  refine bind ?_ fun c => .pure _
  refine bind (keeps_update (hkeys confirm.kausf)) fun _ => ?_
  exact (keeps_load ue).bind fun c => bind (keeps_emit (hP _ rfl rfl)) fun _ => .pure _

theorem proj_grantSlices (candidates subscribed : List SNSSAISubscribed) (h : ∀ c allowed pending,
      π { c with allowedNSSAI := allowed, pendingNSSAA := pending } = π c) (c : UEContext) :
    π (grantSlices cfg candidates subscribed c) = π c := by
  unfold grantSlices splitPendingNSSAA
  split
  · exact h c _ _
  · dsimp only
    split
    · exact h c _ _
    · exact h c _ _

theorem keeps_takeRequestedNSSAI (h : ∀ c nssai, π { c with requestedNSSAI := nssai } = π c) :
    Keeps (Frame π P) (takeRequestedNSSAI ue rr) := by
  unfold takeRequestedNSSAI
  split
  · exact .pure _
  · exact keeps_update fun c => h c _

theorem keeps_applyRetransmittedRegistrationRequest (container : Bytes)
    (h : ∀ c nssai, π { c with requestedNSSAI := nssai } = π c) :
    Keeps (Frame π P) (applyRetransmittedRegistrationRequest ue container) := by
  refine bind (.attempt (.lift _)) fun r => ?_
  cases r with
  | error e => exact .pure _
  | ok inner =>
    dsimp only
    split
    · exact .ite (fun _ => keeps_takeRequestedNSSAI ue _ h) fun _ => .pure _
    · exact .pure _

theorem keeps_takeSecurityModeComplete (smc : SecurityModeComplete)
    (hpei : ∀ c pei, π { c with pei := pei } = π c)
    (hnssai : ∀ c nssai, π { c with requestedNSSAI := nssai } = π c) :
    Keeps (Frame π P) (takeSecurityModeComplete ue smc) := by
  have hcontainer : Keeps (Frame π P) (if smc.nasMessageContainer ≠ [] then
      applyRetransmittedRegistrationRequest ue smc.nasMessageContainer else pure ()) :=
    .ite (fun _ => keeps_applyRetransmittedRegistrationRequest ue _ hnssai) fun _ => .pure _
  unfold takeSecurityModeComplete
  dsimp only
  split
  · exact hcontainer
  · refine .ite (fun _ => ?_) fun _ => hcontainer
    exact bind (keeps_update fun c => hpei c _) fun _ => hcontainer

end Writes

/-! ## Bookkeeping -/

/-- The bookkeeping of the procedures keeps the relation. -/
class Bookkeeping (R : Handler → Handler → Prop) : Prop extends Std.Refl R, IsTrans Handler R where
  of_kept : ∀ {s s' : Handler}, Frame kept Routine s s' → R s s'

/-- Changes of the slices keep it as well. -/
class Slicing (R : Handler → Handler → Prop) : Prop extends Bookkeeping R where
  of_keyed : ∀ {s s' : Handler}, Frame keyed Internal s s' → R s s'

section Instances

variable {τ υ : Type} {π : UEContext → τ} {ρ : UEContext → υ} {P Q : Event → Prop}

theorem Frame.reads [Reads ρ π] [Allows Q P] {s s' : Handler} (h : Frame ρ Q s s') :
    Frame π P s s' :=
  ⟨fun ue => Reads.congr (h.1 ue), h.2.mono fun _ => Allows.allow⟩

instance [Reads kept π] [Allows Routine P] : Bookkeeping (Frame π P) := ⟨Frame.reads⟩

instance [Reads keyed π] [Allows Internal P] : Slicing (Frame π P) := ⟨Frame.reads⟩

end Instances

section Bookkeeping

variable {R : Handler → Handler → Prop} [Bookkeeping R]

theorem Bookkeeping.keeps {α : Type} {x : Proc Handler α} (h : Keeps (Frame kept Routine) x) :
    Keeps R x :=
  h.mono fun _ _ => of_kept

theorem still_modify {f : Handler → Handler} (hctx : ∀ s ue, (f s).ctx ue = s.ctx ue)
    (htrace : ∀ s, (f s).trace = s.trace) : Keeps R (modify f) :=
  Bookkeeping.keeps fun s => ⟨fun ue => congrArg kept (hctx s ue), Emits.of_eq (htrace s)⟩

theorem still_update {ue : Ptr} (h : ∀ c, (f c).kept = c.kept) : Keeps R (update ue f) :=
  Bookkeeping.keeps (keeps_update h)

theorem still_emit (h : e.Routine) : Keeps R (emit e) := Bookkeeping.keeps (keeps_emit h)

theorem still_send (h : e.Routine) : Keeps R (send env e) := Bookkeeping.keeps (keeps_send env h)

theorem still_spawn (g : Goroutine) : Keeps R (spawn g) := Bookkeeping.keeps (keeps_spawn g)

theorem still_authenticationRequest (ausf : AUSFInitResponse) :
    Keeps R (authenticationRequest ue ausf) := by
  refine bind (still_update fun _ => rfl) fun _ => ?_
  exact (keeps_load ue).bind fun _ => .pure _

theorem still_resolveIdentity : Keeps R (resolveIdentity rr) := by
  refine .ite (fun _ => ?_) fun _ => .pure _
  split
  · exact .fail _
  · refine get.bind fun s => ?_
    split
    · exact .fail _
    · exact .ite (fun _ => .pure _) fun _ => .fail _

theorem still_setSUPI (supi : String) : Keeps R (setSUPI ue supi) :=
  Bookkeeping.keeps (keeps_setSUPI ue supi fun _ => rfl)

theorem still_assignGUTI : Keeps R (assignGUTI env ue) :=
  Bookkeeping.keeps (keeps_assignGUTI env ue fun _ _ => rfl)

theorem still_transitionTo (state : GMM5State) : Keeps R (transitionTo ue state) :=
  still_update fun _ => rfl

theorem still_candidateSlices : Keeps R (candidateSlices cfg env ue) := by
  refine (keeps_load ue).bind fun c => .ite (fun _ => ?_) fun _ => .pure _
  refine bind (still_emit ⟨trivial, rfl, rfl⟩) fun _ => ?_
  split <;> exact .pure _

theorem still_applyAMPolicy : Keeps R (applyAMPolicy cfg env ue) := by
  refine .ite (fun _ => .pure _) fun _ => ?_
  refine (keeps_load ue).bind fun _ => bind (still_emit ⟨trivial, rfl, rfl⟩) fun _ => ?_
  split
  on_goal 2 => refine bind (still_update fun _ => rfl) fun _ => ?_
  all_goals
    refine (keeps_load ue).bind fun c => ?_
    split
    · exact .pure _
    · exact .ite (fun _ => .pure _) fun _ => .fail _

theorem still_fetchUEPolicy : Keeps R (fetchUEPolicy cfg env ue) := by
  refine .ite (fun _ => .pure _) fun _ => ?_
  refine (keeps_load ue).bind fun _ => bind (still_emit ⟨trivial, rfl, rfl⟩) fun _ => ?_
  split
  · exact .pure _
  · exact .ite (fun _ => still_update fun _ => rfl) fun _ => .pure _

theorem still_setT3512Value : Keeps R (setT3512Value env ue) := by
  refine .ite (fun _ => .pure _) fun _ => ?_
  exact bind (still_update fun _ => rfl) fun _ => .pure _

theorem still_registrationAccept (guti : GUTI5G) : Keeps R (registrationAccept cfg env ue guti) :=
  (keeps_load ue).bind fun _ => (Keeps.lift _).bind fun _ =>
    (still_setT3512Value env ue).bind fun _ => .pure _

theorem still_buildRegistrationUpdateAccept : Keeps R (buildRegistrationUpdateAccept cfg env ue) :=
  (still_assignGUTI env ue).bind fun guti => (still_transitionTo ue _).bind fun _ =>
    still_registrationAccept cfg env ue guti

/-! ### Sessions -/

theorem still_deleteSMContext (smContextRef : String) :
    Keeps R (deleteSMContext cfg smContextRef) :=
  .ite (fun _ => still_emit ⟨trivial, rfl, rfl⟩) fun _ => .pure _

theorem still_dropSession : Keeps R (update ue (dropSession psi)) :=
  still_update fun _ => rfl

theorem still_releaseExisting : Keeps R (releaseExisting cfg ue psi) := by
  refine (keeps_load ue).bind fun c => ?_
  split
  · exact .pure _
  · exact (still_deleteSMContext cfg _).bind fun _ => still_dropSession ue psi

theorem still_completeNetworkPDUSessionRelease :
    Keeps R (completeNetworkPDUSessionRelease cfg ue psi) := by
  refine get.bind fun s => ?_
  dsimp only
  split
  · exact .pure _
  · refine bind (still_modify (fun _ _ => rfl) fun _ => rfl) fun _ => ?_
    exact (still_deleteSMContext cfg _).bind fun _ => still_dropSession ue psi

theorem still_handleULSMS (smsContainer : Bytes) : Keeps R (handleULSMS cfg env ue smsContainer) :=
  .ite (fun _ => .pure _) fun _ => (keeps_load ue).bind fun _ => still_emit ⟨trivial, rfl, rfl⟩

theorem still_handleULLPP (lppPDU : Bytes) : Keeps R (handleULLPP ue lppPDU) := by
  refine get.bind fun s => ?_
  dsimp only
  split
  · exact .pure _
  · refine bind (still_modify (fun _ _ => rfl) fun _ => rfl) fun _ => ?_
    exact still_emit ⟨trivial, rfl, rfl⟩

theorem still_takePagedPDUSessions : Keeps R (takePagedPDUSessions ue) := by
  refine (keeps_load ue).bind fun c => ?_
  exact bind (still_update fun _ => rfl) fun _ => .pure _

theorem still_releaseInactive (victim : UInt8 × PDUSession) :
    Keeps R (releaseInactive cfg ue victim) := by
  refine get.bind fun s => .ite (fun _ => still_spawn _) fun _ => ?_
  refine (still_dropSession ue _).bind fun _ => ?_
  exact .ite (fun _ => still_spawn _) fun _ => .pure _

theorem still_releaseInactivePDUSessions (status : Option UInt16) :
    Keeps R (releaseInactivePDUSessions cfg ue status) := by
  unfold releaseInactivePDUSessions
  split
  · exact .pure _
  · refine (keeps_load ue).bind fun c => ?_
    exact (Keeps.forM _ fun _ _ => still_releaseInactive cfg ue _).bind fun _ => .pure _

theorem still_activateTargets (targets : List (UInt8 × PDUSession)) :
    Keeps R (activateTargets env targets) := by
  induction targets with
  | nil => exact .pure _
  | cons target targets ih =>
    refine bind (still_emit ⟨trivial, rfl, rfl⟩) fun _ => ih.bind fun items => ?_
    split <;> exact .pure _

theorem still_activatePDUSessions (uplinkDataStatus : Option UInt16) (released : List UInt8) :
    Keeps R (activatePDUSessions cfg env ue uplinkDataStatus released) := by
  refine (still_takePagedPDUSessions ue).bind fun paged => ?_
  refine .ite (fun _ => .pure _) fun _ => .ite (fun _ => .pure _) fun _ => ?_
  exact (keeps_load ue).bind fun c => still_activateTargets env _

/-! ### The handlers -/

theorem kept_setKgNB (c : UEContext) (k : Bytes) : (c.setKgNB k).kept = c.kept := by
  unfold setKgNB
  split <;> rfl

theorem still_refreshKgNB : Keeps R (refreshKgNB ue) := by
  refine (keeps_load ue).bind fun c => ?_
  exact bind (still_update fun c => kept_setKgNB c _) fun _ => .pure _

theorem still_setConnected : Keeps R (setConnected ue) :=
  still_update fun _ => rfl

theorem still_notifyUEReachable : Keeps R (notifyUEReachable ue) :=
  (still_takePagedPDUSessions ue).bind fun _ => .pure _

theorem still_takeRequestedNSSAI : Keeps R (takeRequestedNSSAI ue rr) :=
  Bookkeeping.keeps (keeps_takeRequestedNSSAI ue rr fun _ _ => rfl)

theorem still_takeSecurityModeComplete (smc : SecurityModeComplete) :
    Keeps R (takeSecurityModeComplete ue smc) :=
  Bookkeeping.keeps (keeps_takeSecurityModeComplete ue smc (fun _ _ => rfl) fun _ _ => rfl)

theorem still_releaseSession (sess : PDUSession) : Keeps R (releaseSession cfg ue sess) :=
  (still_deleteSMContext cfg _).bind fun _ => still_dropSession ue _

theorem still_releaseAMPolicy : Keeps R (releaseAMPolicy cfg ue) := by
  refine (keeps_load ue).bind fun c => .ite (fun _ => .pure _) fun _ => ?_
  have hforget : Keeps R (update ue fun c => { c with amPolicyAssocID := "" }) :=
    still_update fun _ => rfl
  exact .ite (fun _ => bind (still_emit ⟨trivial, rfl, rfl⟩) fun _ => hforget) fun _ => hforget

theorem still_releasePCFPolicy : Keeps R (releasePCFPolicy cfg ue) := by
  refine (keeps_load ue).bind fun c => .ite (fun _ => .pure _) fun _ => ?_
  have hforget : Keeps R (update ue fun c => { c with policyAssociationID := "" }) :=
    still_update fun _ => rfl
  exact .ite (fun _ => bind (still_emit ⟨trivial, rfl, rfl⟩) fun _ => hforget) fun _ => hforget

theorem still_teardown : Keeps R (teardown cfg env ue) := by
  have hrest : Keeps R (do
      releaseAMPolicy cfg ue
      releasePCFPolicy cfg ue
      transitionTo ue .deregistered
      update ue fun c => { c with pendingRemoval := true }
      let _ ← (send env (.ueContextReleaseCommand ue 3 2)).attempt) := by
    refine (still_releaseAMPolicy cfg ue).bind fun _ => ?_
    refine (still_releasePCFPolicy cfg ue).bind fun _ => ?_
    refine (still_transitionTo ue _).bind fun _ => ?_
    refine bind (still_update fun _ => rfl) fun _ => ?_
    exact bind (.attempt (still_send env ⟨trivial, rfl, rfl⟩)) fun _ => .pure _
  refine (keeps_load ue).bind fun c => ?_
  refine (Keeps.forM _ fun sess _ => still_releaseSession cfg ue sess).bind fun _ => ?_
  exact .ite (fun _ => Keeps.bind (still_emit ⟨trivial, rfl, rfl⟩) fun _ => hrest) fun _ => hrest

/-! ### Goroutines -/

theorem still_releaseDisplacedContext (stale : Ptr) :
    Keeps R (releaseDisplacedContext cfg stale) := by
  refine (keeps_load stale).bind fun c => ?_
  refine (Keeps.forM _ fun sess _ => still_deleteSMContext cfg sess.smfInstanceID).bind
    fun _ => ?_
  exact still_modify (fun _ _ => rfl) fun _ => rfl

theorem still_background (g : Goroutine) : Keeps R (background cfg g) := by
  cases g with
  | releaseDisplacedContext stale => exact still_releaseDisplacedContext cfg stale
  | deleteSMContext ref => exact still_emit ⟨trivial, rfl, rfl⟩
  | completeNetworkPDUSessionRelease ue psi =>
    exact still_completeNetworkPDUSessionRelease cfg ue psi

end Bookkeeping

/-! ## Phase 1 -/

theorem still_initiateAuth (id : String) : Keeps Still (initiateAuth cfg env ue id) :=
  (keeps_emit ⟨trivial, rfl⟩).bind fun _ => ((keeps_answer _).wrapErr _).bind fun ausf =>
    still_authenticationRequest ue ausf

theorem still_phase1InitiateAuthentication :
    Keeps Still (phase1InitiateAuthentication cfg env ue rr) := by
  refine bind (keeps_update fun _ => rfl) fun _ => ?_
  exact (still_resolveIdentity rr).bind fun id => still_initiateAuth cfg env ue id

theorem still_phase1AuthenticateWithSUCI (suci : String) :
    Keeps Still (phase1AuthenticateWithSUCI cfg env ue suci) := by
  refine bind (keeps_update fun _ => rfl) fun _ => ?_
  exact still_initiateAuth cfg env ue suci

theorem still_phase1ResyncAuth (auts : Bytes) : Keeps Still (phase1ResyncAuth cfg env ue auts) := by
  refine (keeps_load ue).bind fun c => (keeps_emit ⟨trivial, rfl⟩).bind fun _ => ?_
  exact ((keeps_answer _).wrapErr _).bind fun ausf => still_authenticationRequest ue ausf

/-! ## Slices -/

section Slices

variable {R : Handler → Handler → Prop} [Slicing R]

theorem silent_update {ue : Ptr} (h : ∀ c, (f c).keyed = c.keyed) : Keeps R (update ue f) :=
  (keeps_update h).mono fun _ _ => Slicing.of_keyed

theorem silent_emit (h : e.Internal) : Keeps R (emit e) :=
  (keeps_emit h).mono fun _ _ => Slicing.of_keyed

theorem silent_phase3ProcessSMCComplete : Keeps R (phase3ProcessSMCComplete cfg env ue) := by
  refine (keeps_load ue).bind fun c => bind (silent_emit ⟨trivial, rfl, rfl⟩) fun _ => ?_
  refine ((keeps_answer _).wrapErr _).bind fun amSub => ?_
  refine bind (silent_emit ⟨trivial, rfl, rfl⟩) fun _ => ?_
  refine (still_candidateSlices cfg env ue).bind fun candidates => ?_
  refine bind (silent_update (proj_grantSlices cfg _ _ fun _ _ _ => rfl)) fun _ => ?_
  refine bind (silent_update fun _ => rfl) fun _ => ?_
  refine (still_assignGUTI env ue).bind fun guti => ?_
  refine (still_transitionTo ue _).bind fun _ => ?_
  refine (keeps_load ue).bind fun c => bind (silent_emit ⟨trivial, rfl, rfl⟩) fun _ => ?_
  refine bind (silent_update fun _ => rfl) fun _ => ?_
  refine (still_applyAMPolicy cfg env ue).bind fun _ => ?_
  refine (still_fetchUEPolicy cfg env ue).bind fun _ => ?_
  exact still_registrationAccept cfg env ue guti

theorem silent_beginFirstPending : Keeps R (beginFirstPending ue) := by
  refine (keeps_load ue).bind fun c => ?_
  split
  · exact .pure _
  · refine bind (bind (silent_update fun _ => rfl) fun _ => ?_) fun _ => .pure _
    exact (keeps_load ue).bind fun _ => .pure _

theorem silent_startNSSAACommand : Keeps R (startNSSAACommand cfg ue) :=
  .ite (fun _ => .pure _) fun _ => silent_beginFirstPending ue

theorem keyed_closeSlice (authorized : Bool) (slice : SNSSAISubscribed) (c : UEContext) :
    (closeSlice authorized slice c).keyed = c.keyed := by
  cases authorized <;> rfl

theorem silent_processNSSAAComplete (complete : NSSAAuth) :
    Keeps R (processNSSAAComplete cfg env ue complete) := by
  refine .ite (fun _ => .fail _) fun _ => (keeps_load ue).bind fun c => ?_
  split
  · exact .fail _
  · refine .ite (fun _ => .fail _) fun _ => bind (silent_emit ⟨trivial, rfl, rfl⟩) fun _ => ?_
    refine bind (silent_update (keyed_closeSlice _ _)) fun _ => ?_
    exact (silent_beginFirstPending ue).bind fun _ => .pure _

theorem silent_revokeNSSAA (sst : UInt8) (sd : String) : Keeps R (revokeNSSAA ue sst sd) := by
  refine (keeps_load ue).bind fun c => .ite (fun _ => ?_) fun _ => .pure _
  exact bind (silent_update fun _ => rfl) fun _ => .pure _

theorem silent_reauthNSSAA (sst : UInt8) (sd : String) : Keeps R (reauthNSSAA ue sst sd) := by
  refine (keeps_load ue).bind fun c => ?_
  split
  · exact bind (silent_update fun _ => rfl) fun _ => .pure _
  · exact .pure _

end Slices

/-! ## Messages -/

theorem snd_run_wrapErr_lift {α : Type} (x : Outcome α) (text : String) (s : Handler) :
    (((Proc.lift x : Proc Handler α).wrapErr text).run s).2 = s := by
  cases x <;> rfl

theorem isProtected_encode {body : DownlinkBody} {pdu : Bytes} (h : encode body = .ok pdu) :
    isProtected pdu = false := by
  unfold encode at h
  cases hbody : encodeBody body with
  | ok octets =>
    rw [hbody] at h
    obtain rfl := Outcome.ok.inj h
    rfl
  | err e | panic | hang =>
    rw [hbody] at h
    cases h

theorem isProtected_encodeAuthenticationRequest (ar : AuthenticationRequest) :
    isProtected (encodeAuthenticationRequest ar) = false := by
  have hne : encodeNGKSI ar.ngksi ≠ 0x7E := by
    intro h
    have hlt := toNat_encodeNGKSI_lt ar.ngksi
    rw [h] at hlt
    exact absurd hlt (by decide)
  simp [isProtected, encodeAuthenticationRequest, hne]

/-- What builds a protected PDU, or fails. -/
inductive Protects (ue : Ptr) : Proc Handler Bytes → Prop
  | secured (body : DownlinkBody) : Protects ue (sendNASSecured ue body)
  | wrapErr {x : Proc Handler Bytes} (h : Protects ue x) (text : String) :
    Protects ue (x.wrapErr text)
  | fail (e : Error) : Protects ue (Proc.fail e)

/-- The messages to `ue` keep the relation as well: a protected PDU is built and then carried by
what follows. -/
class Messaging (R : Handler → Handler → Prop) (ue : Ptr) extends Bookkeeping R where
  Carries : Bytes → {α : Type} → Proc Handler α → Prop
  protect : ∀ {α : Type} {x : Proc Handler Bytes} {f : Bytes → Proc Handler α}, Protects ue x →
    (∀ pdu, Carries pdu (f pdu)) → Keeps R (x >>= f)
  send : ∀ (env : Env) {pdu : Bytes} {e : Event}, e.nasPDU = some (ue, pdu) →
    Carries pdu (send env e)
  after : ∀ {pdu : Bytes} {α β : Type} {x : Proc Handler α} {f : α → Proc Handler β},
    Keeps (Frame kept Routine) x → (∀ s, ∃ a s', x.run s = (.ok a, s')) →
    (∀ a, Carries pdu (f a)) → Carries pdu (x >>= f)
  bind : ∀ {pdu : Bytes} {α β : Type} {x : Proc Handler α} {f : α → Proc Handler β},
    Carries pdu x → (∀ a, Keeps R (f a)) → Carries pdu (x >>= f)
  wrapErr : ∀ {pdu : Bytes} {α : Type} {x : Proc Handler α}, Carries pdu x → ∀ text,
    Carries pdu (x.wrapErr text)
  attempt : ∀ {pdu : Bytes} {α : Type} {x : Proc Handler α}, Carries pdu x → Carries pdu x.attempt
  plain : ∀ (env : Env) {pdu : Bytes}, isProtected pdu = false →
    Keeps R (Handler.send env (.downlinkNASTransport ue pdu))

theorem usual_of_nasPDU {p : Ptr × Bytes} (h : e.nasPDU = some p) : e.Usual := by
  cases e with
  | downlinkNASTransport | initialContextSetupRequest | pduSessionResourceSetupRequest
  | pduSessionResourceReleaseCommand | pduSessionResourceModifyRequest => exact ⟨trivial, rfl⟩
  | _ => cases h

/-- Carrying a PDU means nothing to a relation that does not look at the COUNTs. -/
abbrev Messaging.ofCalm {R : Handler → Handler → Prop} [Std.Refl R] [IsTrans Handler R]
    (h : ∀ {s s' : Handler}, Frame calm Usual s s' → R s s') : Messaging R ue :=
  have hkeeps {α : Type} {x : Proc Handler α} (hx : Keeps (Frame calm Usual) x) : Keeps R x :=
    hx.mono fun _ _ => h
  { of_kept := fun hkept => h hkept.reads
    Carries := fun _ _ x => Keeps R x
    protect := by
      intro α x f hx hf
      refine Keeps.bind ?_ hf
      induction hx with
      | secured body => exact hkeeps (keeps_sendNASSecured ue body)
      | wrapErr _ text ih => exact ih.wrapErr text
      | fail e => exact .fail e
    send := fun env _ _ he => hkeeps (keeps_send env (usual_of_nasPDU he))
    after := fun hx _ hf => Keeps.bind (hx.mono fun _ _ hkept => h hkept.reads) hf
    bind := Keeps.bind
    wrapErr := Keeps.wrapErr
    attempt := Keeps.attempt
    plain := fun env _ _ => hkeeps (keeps_send env ⟨trivial, rfl⟩) }

instance {τ : Type} {π : UEContext → τ} {P : Event → Prop} [Reads calm π] [Allows Usual P] :
    Messaging (Frame π P) ue :=
  .ofCalm ue Frame.reads

section Messages

variable {R : Handler → Handler → Prop} [Messaging R ue]

theorem quiet_sendPlainViaDownlink (body : DownlinkBody) :
    Keeps R (sendPlainViaDownlink env ue body) := by
  intro s
  refine bind_run ?_ fun pdu s' hrun => ?_
  · rw [sendNASPlain, snd_run_wrapErr_lift]
    exact Std.Refl.refl s
  · exact Messaging.plain env (isProtected_encode (run_wrapErr_lift_eq_ok hrun).1) s'

theorem quiet_sendNASSecuredViaDownlink (body : DownlinkBody) :
    Keeps R (sendNASSecuredViaDownlink env ue body) :=
  Messaging.protect (.secured body) fun _ => Messaging.send env rfl

theorem quiet_attemptViaDownlink (body : DownlinkBody) :
    Keeps R (do let _ ← (sendNASSecuredViaDownlink env ue body).attempt) :=
  (quiet_sendNASSecuredViaDownlink env ue body).attempt.bind fun _ => .pure _

theorem quiet_rejectULNASTransport (cause : UInt8) :
    Keeps R (rejectULNASTransport env ue psi t cause) :=
  quiet_sendNASSecuredViaDownlink env ue _

theorem quiet_acceptSession (dnn : Bytes) (snssai : SNSSAISubscribed) (a : SMContextAnswer) :
    Keeps R (acceptSession env ue psi pti dnn snssai a) :=
  Messaging.protect (.secured _) fun _ => Messaging.after (still_update fun _ => rfl)
    (fun _ => ⟨_, _, rfl⟩) fun _ => Messaging.send env rfl

theorem quiet_handlePDUSessionRelease : Keeps R (handlePDUSessionRelease cfg env ue psi pti) := by
  refine (keeps_load ue).bind fun c => ?_
  split
  · exact .pure _
  · refine Messaging.protect (.secured _) fun nasPDU => ?_
    have hrest : Messaging.Carries R ue nasPDU (do
        send env (.pduSessionResourceReleaseCommand ue psi nasPDU)
        update ue (dropSession psi)) :=
      Messaging.bind (Messaging.send env rfl) fun _ => still_dropSession ue psi
    split
    · exact Messaging.after (still_spawn _) (fun _ => ⟨_, _, rfl⟩) fun _ => hrest
    · exact hrest

theorem quiet_handlePDUSessionModification (n1SmMsg : Bytes) :
    Keeps R (handlePDUSessionModification cfg env ue psi n1SmMsg) := by
  refine (keeps_load ue).bind fun c => ?_
  split
  · exact .pure _
  · refine .ite (fun _ => .pure _) fun _ => bind (still_emit ⟨trivial, rfl, rfl⟩) fun _ => ?_
    split
    · exact .pure _
    · exact Messaging.protect (.secured _) fun _ => Messaging.send env rfl

theorem carries_sendInitialContextSetupRequest (nasPDU kgnb : Bytes)
    (pduSessions : List PDUSessionSetupItemCxtReq) : Messaging.Carries R ue nasPDU
      (sendInitialContextSetupRequest env ue nasPDU kgnb pduSessions) :=
  Messaging.after (keeps_load ue) (fun _ => ⟨_, _, rfl⟩) fun _ => Messaging.send env rfl

theorem quiet_handleRegistrationUpdate : Keeps R (handleRegistrationUpdate cfg env ue rr) := by
  refine ((still_buildRegistrationUpdateAccept cfg env ue).wrapErr _).bind fun _ => ?_
  refine Messaging.protect (.wrapErr (.secured _) _) fun nasPDU => ?_
  refine Messaging.after (still_refreshKgNB ue) (fun _ => ⟨_, _, rfl⟩) fun _ => ?_
  refine Messaging.bind (Messaging.wrapErr ?_ _) fun _ => ?_
  · exact carries_sendInitialContextSetupRequest env ue _ _ _
  · exact (still_setConnected ue).bind fun _ => still_notifyUEReachable ue

theorem quiet_completeRegistration (regAccept : RegistrationAccept) :
    Keeps R (completeRegistration env ue regAccept) := by
  refine Messaging.protect (.secured _) fun nasPDU => ?_
  refine Messaging.after (still_refreshKgNB ue) (fun _ => ⟨_, _, rfl⟩) fun _ => ?_
  exact Messaging.bind (carries_sendInitialContextSetupRequest env ue _ _ _) fun _ =>
    still_setConnected ue

theorem quiet_sendUEPolicyContainer (container : Bytes) :
    Keeps R (sendUEPolicyContainer env ue container) := by
  refine .ite (fun _ => .fail _) fun _ => (keeps_load ue).bind fun c => ?_
  refine .ite (fun _ => .fail _) fun _ => ?_
  refine Messaging.protect (.wrapErr (.secured _) _) fun nasPDU => ?_
  exact Messaging.after (still_update fun _ => rfl) (fun _ => ⟨_, _, rfl⟩) fun _ =>
    Messaging.send env rfl

theorem quiet_sendNetworkNameConfigUpdate : Keeps R (sendNetworkNameConfigUpdate cfg env ue) :=
  .ite (fun _ => .pure _) fun _ => quiet_attemptViaDownlink env ue _

theorem quiet_deliverPendingPolicy : Keeps R (deliverPendingPolicy env ue) := by
  refine (keeps_load ue).bind fun c => bind (still_update fun _ => rfl) fun _ => ?_
  refine .ite (fun _ => ?_) fun _ => .pure _
  exact (quiet_sendUEPolicyContainer env ue _).attempt.bind fun _ => .pure _

theorem quiet_sendNSSAAConfigUpdate : Keeps R (sendNSSAAConfigUpdate env ue) :=
  (keeps_load ue).bind fun _ => quiet_attemptViaDownlink env ue _

theorem quiet_reportSlice (out : NSSAACompleteOutcome) : Keeps R (reportSlice env ue out) := by
  refine (quiet_sendNASSecuredViaDownlink env ue _).attempt.bind fun _ => ?_
  split
  · exact quiet_attemptViaDownlink env ue _
  · exact .ite (fun _ => quiet_sendNSSAAConfigUpdate env ue) fun _ => .pure _

theorem quiet_handleServiceRequest (svcReq : ServiceRequest) :
    Keeps R (handleServiceRequest cfg env ue svcReq) := by
  refine (still_refreshKgNB ue).bind fun _ => ?_
  refine (still_releaseInactivePDUSessions cfg ue _).bind fun _ => ?_
  refine (still_activatePDUSessions cfg env ue _ _).bind fun _ => ?_
  refine (keeps_load ue).bind fun _ => ?_
  refine Messaging.protect (.wrapErr (.secured _) _) fun nasPDU => ?_
  refine Messaging.bind (Messaging.wrapErr ?_ _) fun _ => ?_
  · exact carries_sendInitialContextSetupRequest env ue _ _ _
  · exact (still_setConnected ue).bind fun _ => still_notifyUEReachable ue

theorem quiet_handleDeregistration (deregReq : DeregistrationRequest) :
    Keeps R (handleDeregistration cfg env ue deregReq) := by
  refine (still_transitionTo ue _).bind fun _ => .ite (fun _ => ?_) fun _ => ?_
  · exact (quiet_sendNASSecuredViaDownlink env ue _).attempt.bind fun _ =>
      still_teardown cfg env ue
  · exact still_teardown cfg env ue

end Messages

/-! ## Handlers in parts -/

theorem quiet_securityModeCommand (smcReq : SecurityModeCommand) : Keeps Quiet (do
      let pdu ← sendNASIntegrityOnly ue (.securityModeCommand smcReq)
        securityHeaderIntegrityProtectedWithNewSC
      send env (.downlinkNASTransport ue pdu)) :=
  (keeps_sendNASIntegrityOnly ue _ _).bind fun _ => keeps_send env trivial

section Parts

variable {R : Handler → Handler → Prop}

theorem phase2ProcessAuthResponse_elim [Bookkeeping R] (authResp : AuthenticationResponse)
    (hkeys : ∀ kausf, Keeps R (takeKeys cfg ue kausf)) :
    Keeps R (phase2ProcessAuthResponse cfg env ue authResp) := by
  refine .ite (fun _ => .fail _) fun _ => ?_
  refine (keeps_load ue).bind fun c => bind (still_emit ⟨trivial, rfl, rfl⟩) fun _ => ?_
  refine ((keeps_answer _).wrapErr _).bind fun confirm => ?_
  refine (still_setSUPI ue confirm.supi).bind fun displaced => ?_
  exact (hkeys confirm.kausf).bind fun _ => .pure _

theorem handleAuthenticationResponse_elim [Bookkeeping R] (r : AuthenticationResponse)
    (hphase2 : Keeps R (phase2ProcessAuthResponse cfg env ue r)) (hcommand : ∀ smcReq, Keeps R (do
      let pdu ← sendNASIntegrityOnly ue (.securityModeCommand smcReq)
        securityHeaderIntegrityProtectedWithNewSC
      send env (.downlinkNASTransport ue pdu))) :
    Keeps R (handleAuthenticationResponse cfg env ue r) := by
  refine (hphase2.wrapErr _).bind fun (smcReq, displaced) => ?_
  dsimp only
  split
  · exact hcommand smcReq
  · exact (still_spawn _).bind fun _ => hcommand smcReq

theorem handleSecurityModeComplete_elim [Bookkeeping R] (body : Body)
    (hphase3 : Keeps R (phase3ProcessSMCComplete cfg env ue))
    (hreject : Keeps R (sendNASSecured ue (.registrationReject 0x49)))
    (haccept : ∀ regAccept, Keeps R (completeRegistration env ue regAccept)) :
    Keeps R (handleSecurityModeComplete cfg env ue body) := by
  unfold handleSecurityModeComplete
  split
  · refine (still_takeSecurityModeComplete ue _).bind fun _ =>
      hphase3.attempt_bind (fun e => ?_) haccept
    exact .ite (fun _ => hreject.attempt.bind fun _ => .pure _) fun _ => .fail _
  · refine hphase3.attempt_bind (fun e => ?_) haccept
    exact .ite (fun _ => hreject.attempt.bind fun _ => .pure _) fun _ => .fail _

end Parts

/-! ## The handlers that keep the keys and change slices -/

section Handlers

variable {R : Handler → Handler → Prop} {ue : Ptr} [Messaging R ue] [Slicing R]

theorem keeps_startNSSAA : Keeps R (startNSSAA cfg env ue) := by
  refine (silent_startNSSAACommand cfg ue).bind fun cmd => ?_
  split
  · exact .pure _
  · exact quiet_attemptViaDownlink env ue _

theorem keeps_handleRegistrationComplete : Keeps R (handleRegistrationComplete cfg env ue) :=
  (still_notifyUEReachable ue).bind fun _ => (quiet_deliverPendingPolicy env ue).bind fun _ =>
    (quiet_sendNetworkNameConfigUpdate cfg env ue).bind fun _ => keeps_startNSSAA cfg env

theorem keeps_establishSession : Keeps R (establishSession cfg env ue psi pti t) := by
  refine (still_releaseExisting cfg ue psi).bind fun _ => bind (.lift _) fun body => ?_
  refine bind (.attempt (.lift _)) fun r => ?_
  cases r with
  | error e => exact .pure _
  | ok request =>
    refine (keeps_load ue).bind fun c => .ite (fun _ => .pure _) fun _ => ?_
    split
    · exact quiet_rejectULNASTransport env ue psi t _
    · refine .ite (fun _ => .pure _) fun _ => (keeps_load ue).bind fun _ => ?_
      refine bind (silent_emit ⟨trivial, rfl, rfl⟩) fun _ => ?_
      split
      · exact .pure _
      · exact quiet_acceptSession env ue psi pti _ _ _

theorem keeps_handleULNASTransport : Keeps R (handleULNASTransport cfg env ue t) := by
  refine .ite (fun _ => .pure _) fun _ => ?_
  refine .ite (fun _ => still_handleULSMS cfg env ue _) fun _ => ?_
  refine .ite (fun _ => still_handleULLPP ue _) fun _ => ?_
  split
  · refine .ite (fun _ => keeps_establishSession cfg env _ _ t) fun _ => ?_
    refine .ite (fun _ => quiet_handlePDUSessionRelease cfg env ue _ _) fun _ => ?_
    refine .ite (fun _ => still_completeNetworkPDUSessionRelease cfg ue _) fun _ => ?_
    exact .ite (fun _ => quiet_handlePDUSessionModification cfg env ue _ _) fun _ => .pure _
  · exact .pure _

theorem keeps_handleNSSAAComplete (complete : NSSAAuth) :
    Keeps R (handleNSSAAComplete cfg env ue complete) := by
  refine (silent_processNSSAAComplete cfg env ue complete).attempt.bind fun r => ?_
  cases r with
  | error e => exact .pure _
  | ok out => exact quiet_reportSlice env ue out

end Handlers

theorem keeps_handleSecurityModeComplete {τ : Type} {π : UEContext → τ} {P : Event → Prop}
    [Reads calm π] [Reads keyed π] [Allows Usual P] [Allows Internal P] (body : Body) :
    Keeps (Frame π P) (handleSecurityModeComplete cfg env ue body) :=
  handleSecurityModeComplete_elim cfg env ue body (silent_phase3ProcessSMCComplete cfg env ue)
    (keeps_sendNASSecured ue _) (quiet_completeRegistration env ue)

/-! ## The messages of Phase 1 -/

section Phase1

variable {R : Handler → Handler → Prop} [Messaging R ue]
  (hstill : ∀ {α : Type} {x : Proc Handler α}, Keeps Still x → Keeps R x)

include hstill

theorem quiet_handleRegistrationRequest : Keeps R (handleRegistrationRequest cfg env ue rr) := by
  refine (keeps_load ue).bind fun c => ?_
  refine .ite (fun _ => quiet_handleRegistrationUpdate cfg env ue rr) fun _ => ?_
  refine (hstill (still_phase1InitiateAuthentication cfg env ue rr)).attempt.bind fun r => ?_
  cases r with
  | error e => exact .ite (fun _ => quiet_sendPlainViaDownlink env ue _) fun _ => .fail _
  | ok authReq =>
    exact (still_takeRequestedNSSAI ue rr).bind fun _ =>
      quiet_sendPlainViaDownlink env ue _

theorem quiet_handleIdentityResponse (r : IdentityResponse) :
    Keeps R (handleIdentityResponse cfg env ue r) := by
  unfold handleIdentityResponse
  split
  · exact .pure _
  · refine .ite (fun _ => .pure _) fun _ => ?_
    exact ((hstill (still_phase1AuthenticateWithSUCI cfg env ue _)).wrapErr _).bind fun _ =>
      quiet_sendPlainViaDownlink env ue _

theorem quiet_handleAuthenticationFailure (af : AuthenticationFailure) :
    Keeps R (handleAuthenticationFailure cfg env ue af) := by
  refine .ite (fun _ => ?_) fun _ => .pure _
  exact ((hstill (still_phase1ResyncAuth cfg env ue _)).wrapErr _).bind fun authReq =>
    Messaging.plain env (isProtected_encodeAuthenticationRequest authReq)

end Phase1

/-! ## The call of the SMF -/

def Forwards (ue : Ptr) (allowed : List SNSSAISubscribed) : Event → Prop
  | .callSMF ue' _ _ _ _ snssai =>
    ue' = ue ∧ ∃ t, resolveSessionSNSSAI t allowed = some snssai
  | e => e.Ordinary

section

variable {ue : Ptr} {allowed : List SNSSAISubscribed}

theorem forwards_of_ordinary (h : e.Ordinary) : Forwards ue allowed e := by
  cases e with
  | callSMF => exact h.elim
  | _ => exact h

theorem forwards_of_quiet {α : Type} {x : Proc Handler α} (h : Keeps Quiet x) :
    Keeps (Frame standing (Forwards ue allowed)) x :=
  h.mono fun _ _ h => h.mono id fun _ => forwards_of_ordinary

theorem forwards_createSession
    {snssai : SNSSAISubscribed} (h : ∃ t, resolveSessionSNSSAI t allowed = some snssai) :
    Keeps (Frame standing (Forwards ue allowed))
      (createSession cfg env ue psi pti t snssai) := by
  refine .ite (fun _ => .pure _) fun _ => (keeps_load ue).bind fun c => ?_
  refine bind (keeps_emit ⟨rfl, h⟩) fun _ => ?_
  split
  · exact .pure _
  · exact forwards_of_quiet (quiet_acceptSession env ue psi pti _ snssai _)

theorem forwards_resolved : Keeps (Frame standing (Forwards ue allowed))
      (if psi = 0 then return () else
        match resolveSessionSNSSAI t.snssai allowed with
        | none => rejectULNASTransport env ue psi t causePayloadNotForwarded
        | some snssai => createSession cfg env ue psi pti t snssai) := by
  refine .ite (fun _ => .pure _) fun _ => ?_
  split
  · exact forwards_of_quiet (quiet_rejectULNASTransport env ue psi t _)
  · next hresolve => exact forwards_createSession cfg env psi pti t ⟨_, hresolve⟩

end

theorem frame_establishSession (s : Handler) :
    Frame standing (Forwards ue (s.ctx ue).allowedNSSAI) s
      ((establishSession cfg env ue psi pti t).run s).2 := by
  have hquiet := Still.quiet (still_releaseExisting cfg ue psi)
  refine bind_run (forwards_of_quiet hquiet s) fun _ s₁ hrun => ?_
  have hallowed : (s₁.ctx ue).allowedNSSAI = (s.ctx ue).allowedNSSAI := by
    have hstanding := (hquiet s).1 ue
    rw [hrun] at hstanding
    exact congrArg Standing.allowedNSSAI hstanding
  refine read_bind rfl fun body => ?_
  refine read_bind (snd_run_attempt_lift _ s₁) fun r => ?_
  cases r with
  | error e => exact Std.Refl.refl s₁
  | ok _ =>
    rw [← hallowed]
    exact forwards_resolved cfg env psi pti t s₁

theorem frame_handleULNASTransport (s : Handler) :
    Frame standing (Forwards ue (s.ctx ue).allowedNSSAI) s
      ((handleULNASTransport cfg env ue t).run s).2 := by
  unfold handleULNASTransport
  split
  · exact Std.Refl.refl s
  split
  · exact forwards_of_quiet (Still.quiet (still_handleULSMS cfg env ue _)) s
  split
  · exact forwards_of_quiet (Still.quiet (still_handleULLPP ue _)) s
  split
  · unfold handleN1SM
    split
    · exact frame_establishSession cfg env ue _ _ t s
    split
    · exact forwards_of_quiet (quiet_handlePDUSessionRelease cfg env ue _ _) s
    split
    · exact forwards_of_quiet (Still.quiet (still_completeNetworkPDUSessionRelease cfg ue _)) s
    split
    · exact forwards_of_quiet (quiet_handlePDUSessionModification cfg env ue _ _) s
    · exact Std.Refl.refl s
  · exact Std.Refl.refl s

end Claudia5gc.Amf.Handler
