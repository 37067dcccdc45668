import Claudia5gc.Amf.Frames
import Claudia5gc.Amf.Index
import Claudia5gc.Amf.Lifecycle

/-!
# The handler lives the lives of its UEs

`life ue s` forgets everything about the AMF but the standing of one UE and the marks in the events
that are about it.  Whatever PDU comes for a UE, its life goes on by steps of `Life.Step` and that
of every other UE stays where it was.
-/

namespace Claudia5gc.Amf

open Go Nas Proc List Keeps

variable (env : Env) {e : Event} {s s' : Handler} {f : UEContext → UEContext} {m : Mark}
  {x : Proc Handler Unit} {cfg : Config}

def Event.mark (ue : Ptr) : Event → Option Mark
  | .authenticated ue' knasint => if ue' = ue then some (.authenticated knasint) else none
  | .securityReset ue' => if ue' = ue then some .securityReset else none
  | .registered ue' sec =>
    if ue' = ue then some (.registered sec.active sec.knasint) else none
  | .amSubscriptionData ue' sub =>
    if ue' = ue then some (.subscription sub.allowedNSSAI) else none
  | _ => none

def Event.Local : Event → Prop
  | .callSMF .. => False
  | _ => True

theorem Event.Ordinary.mark_eq_none (h : e.Ordinary) (ue : Ptr) : e.mark ue = none := by
  cases e with
  | amSubscriptionData | authenticated | securityReset | registered => exact h.elim
  | _ => rfl

namespace Handler

def life (ue : Ptr) (s : Handler) : Life where
  standing := (s.ctx ue).standing
  history := s.trace.filterMap (Event.mark ue)

theorem life_of_frame {P : Event → Prop} (ue : Ptr) (h : Frame UEContext.standing P s s')
    (hP : ∀ e, P e → e.mark ue = none) : life ue s' = life ue s := by
  obtain ⟨hstanding, new, htrace, hnew⟩ := h
  have hmarks : new.filterMap (Event.mark ue) = [] :=
    filterMap_eq_nil_iff.mpr fun e he => hP e (hnew e he)
  unfold life
  rw [hstanding, htrace, filterMap_append, hmarks, append_nil]

theorem mark_of_forwards {ue : Ptr} {allowed : List SNSSAISubscribed} (h : Forwards ue allowed e)
    (ue' : Ptr) : e.mark ue' = none := by
  cases e with
  | amSubscriptionData | authenticated | securityReset | registered => exact h.elim
  | _ => rfl

structure Advances (cfg : Config) (ue : Ptr) (s s' : Handler) : Prop where
  own : Life.Steps cfg.nssaa (life ue s) (life ue s')
  other : ∀ ue', ue' ≠ ue → life ue' s' = life ue' s
  events : Emits Event.Local s s'

section

variable {cfg : Config} {ue : Ptr}

instance : Std.Refl (Advances cfg ue) :=
  ⟨fun _ => ⟨.refl, fun _ _ => rfl, Emits.of_eq rfl⟩⟩

instance : IsTrans Handler (Advances cfg ue) where
  trans _ _ _ h₁ h₂ :=
    ⟨h₁.own.trans h₂.own, fun ue' hne => (h₂.other ue' hne).trans (h₁.other ue' hne),
      h₁.events.trans h₂.events⟩

theorem advances_of_quiet (h : Quiet s s') : Advances cfg ue s s' where
  own := by rw [life_of_frame ue h fun e he => he.mark_eq_none ue]
  other ue' _ := life_of_frame ue' h fun e he => he.mark_eq_none ue'
  events := h.2.mono fun e he => by
    cases e with
    | callSMF => exact he.elim
    | _ => trivial

instance : Messaging (Advances cfg ue) ue := .ofCalm ue fun h => advances_of_quiet h.reads

theorem Quiet.advances {α : Type} {x : Proc Handler α} (h : Keeps Quiet x) :
    Keeps (Advances cfg ue) x :=
  h.mono fun _ _ => advances_of_quiet

theorem advances_of_step (new : List Event) (hother : ∀ ue', ue' ≠ ue → s'.ctx ue' = s.ctx ue')
    (htrace : s'.trace = s.trace ++ new)
    (hnew : ∀ e ∈ new, e.Local ∧ ∀ ue', ue' ≠ ue → e.mark ue' = none)
    (hstep : Life.Step cfg.nssaa (life ue s)
      ⟨(s'.ctx ue).standing, (life ue s).history ++ new.filterMap (Event.mark ue)⟩) :
    Advances cfg ue s s' where
  own := by
    refine .single ?_
    have hlife : life ue s' =
        ⟨(s'.ctx ue).standing, (life ue s).history ++ new.filterMap (Event.mark ue)⟩ := by
      unfold life
      rw [htrace, filterMap_append]
    rw [hlife]
    exact hstep
  other ue' hne := by
    have hmarks : new.filterMap (Event.mark ue') = [] :=
      filterMap_eq_nil_iff.mpr fun e he => (hnew e he).2 ue' hne
    unfold life
    rw [hother ue' hne, htrace, filterMap_append, hmarks, append_nil]
  events := ⟨new, htrace, fun e he => (hnew e he).1⟩

theorem advances_update (hstep : Life.Step cfg.nssaa (life ue s)
      { life ue s with standing := (f (s.ctx ue)).standing }) :
    Advances cfg ue s ((update ue f).run s).2 := by
  refine advances_of_step [] (fun ue' hne => ?_) (append_nil _).symm
    (fun _ he => absurd he not_mem_nil) ?_
  · rw [ctx_update, if_neg hne]
  · rw [ctx_update, if_pos rfl, filterMap_nil, append_nil]
    exact hstep

theorem advances_emit (he : e.Local) (hown : e.mark ue = some m)
    (hother : ∀ ue', ue' ≠ ue → e.mark ue' = none) (hstep : Life.Step cfg.nssaa (life ue s)
      { life ue s with history := (life ue s).history ++ [m] }) :
    Advances cfg ue s ((emit e).run s).2 := by
  refine advances_of_step [e] (fun _ _ => rfl) rfl (fun e' he' => ?_) ?_
  · rw [mem_singleton.mp he']
    exact ⟨he, hother⟩
  · rw [filterMap_cons_some hown]
    exact hstep

/-! ## Keys -/

theorem advances_update_emit (he : e.Local)
    (hown : e.mark ue = some m) (hother : ∀ ue', ue' ≠ ue → e.mark ue' = none)
    (hstep : Life.Step cfg.nssaa (life ue s)
      ⟨(f (s.ctx ue)).standing, (life ue s).history ++ [m]⟩) :
    Advances cfg ue s ((emit e).run ((update ue f).run s).2).2 := by
  have hctx : ∀ ue', ((emit e).run ((update ue f).run s).2).2.ctx ue' =
      if ue' = ue then f (s.ctx ue) else s.ctx ue' := fun ue' => ctx_update s ue ue' f
  refine advances_of_step [e] (fun ue' hne => ?_) rfl (fun e' he' => ?_) ?_
  · rw [hctx, if_neg hne]
  · rw [mem_singleton.mp he']
    exact ⟨he, hother⟩
  · rw [hctx, if_pos rfl, filterMap_cons_some hown]
    exact hstep

theorem advances_takeKeys (kausf : Bytes) : Keeps (Advances cfg ue) (takeKeys cfg ue kausf) := by
  intro s
  have hkey : ((update ue (establishSecurity cfg kausf)).run s).2.ctx ue =
      establishSecurity cfg kausf (s.ctx ue) := by
    rw [ctx_update, if_pos rfl]
  change Advances cfg ue s ((emit (.authenticated ue
    (((update ue (establishSecurity cfg kausf)).run s).2.ctx ue).securityCtx.knasint)).run
      ((update ue (establishSecurity cfg kausf)).run s).2).2
  rw [hkey]
  exact advances_update_emit trivial (if_pos rfl) (fun _ hne => if_neg (Ne.symm hne))
    (.authenticate (life ue s) _)

theorem advances_handleSecurityModeReject : Keeps (Advances cfg ue) (handleSecurityModeReject ue) :=
  fun s => advances_update_emit trivial (if_pos rfl) (fun _ hne => if_neg (Ne.symm hne))
    (.reset (life ue s))

theorem advances_handleAuthenticationResponse (r : AuthenticationResponse) :
    Keeps (Advances cfg ue) (handleAuthenticationResponse cfg env ue r) :=
  handleAuthenticationResponse_elim cfg env ue r
    (phase2ProcessAuthResponse_elim cfg env ue r advances_takeKeys) fun _ =>
      Quiet.advances (quiet_securityModeCommand env ue _)

/-! ## Slices -/

theorem filterAllowedNSSAI_subset (requested subscribed : List SNSSAISubscribed) :
    filterAllowedNSSAI requested subscribed ⊆ subscribed := by
  unfold filterAllowedNSSAI
  split
  · exact List.Subset.refl _
  · exact filter_subset_self _

theorem standing_grantSlices (candidates subscribed : List SNSSAISubscribed) (c : UEContext) :
    (grantSlices cfg candidates subscribed c).standing =
      c.standing.grant cfg.nssaa (filterAllowedNSSAI candidates subscribed) := by
  unfold grantSlices splitPendingNSSAA Standing.grant
  cases cfg.nssaa with
  | false => rfl
  | true =>
    rw [if_neg (by decide), if_pos rfl]
    dsimp only
    split
    · next hpending =>
      have hnone := (append_eq_nil_iff.mp hpending).2
      have hall : (filterAllowedNSSAI candidates subscribed).filter (!·.subjectToNSSAA) =
          filterAllowedNSSAI candidates subscribed := by
        refine filter_eq_self.mpr fun s hs => ?_
        have hs := filter_eq_nil_iff.mp hnone s hs
        simpa using hs
      rw [hall]
      rfl
    · rfl

theorem standing_closeSlice (authorized : Bool) (slice : SNSSAISubscribed) (c : UEContext) :
    (closeSlice authorized slice c).standing = c.standing.close authorized slice := by
  cases authorized <;> rfl

theorem advances_beginFirstPending : Keeps (Advances cfg ue) (beginFirstPending ue) := by
  intro s
  unfold beginFirstPending
  rw [run_load_bind]
  split
  · exact Std.Refl.refl s
  · next slice rest hpending =>
    refine bind_run ?_ fun _ s₂ _ => Std.Refl.refl s₂
    refine bind_run (advances_update ?_) fun _ s₂ _ => Std.Refl.refl s₂
    exact .start (life ue s) hpending

theorem advances_startNSSAA : Keeps (Advances cfg ue) (startNSSAA cfg env ue) := by
  have hcommand : Keeps (Advances cfg ue) (startNSSAACommand cfg ue) :=
    .ite (fun _ => .pure _) fun _ => advances_beginFirstPending
  refine hcommand.bind fun cmd => ?_
  split
  · exact .pure _
  · exact quiet_attemptViaDownlink env ue _

theorem advances_processNSSAAComplete (complete : NSSAAuth) :
    Keeps (Advances cfg ue) (processNSSAAComplete cfg env ue complete) := by
  refine .ite (fun _ => .fail _) fun _ s => ?_
  rw [run_load_bind]
  split
  · exact Std.Refl.refl s
  next slice hprogress =>
  split
  · exact Std.Refl.refl s
  have hemit : Keeps Quiet (emit (.nssaaAuthenticate (s.ctx ue).supi slice.sst slice.sd
      complete.eapMessage)) := keeps_emit trivial
  refine bind_run (Quiet.advances hemit s) fun _ s₁ hrun => ?_
  have hprogress₁ : (life ue s₁).standing.nssaaInProgress = some slice := by
    have hstanding := (hemit s).1 ue
    rw [hrun] at hstanding
    exact (congrArg Standing.nssaaInProgress hstanding).trans hprogress
  refine bind_run (advances_update ?_) fun _ s₂ _ => ?_
  · rw [standing_closeSlice]
    exact .close (life ue s₁) _ hprogress₁
  · exact advances_beginFirstPending.bind (fun _ => .pure _) s₂

theorem advances_handleNSSAAComplete (complete : NSSAAuth) :
    Keeps (Advances cfg ue) (handleNSSAAComplete cfg env ue complete) := by
  refine (advances_processNSSAAComplete env complete).attempt.bind fun r => ?_
  cases r with
  | error e => exact .pure _
  | ok out => exact quiet_reportSlice env ue out

/-! ## Registration -/

theorem advances_grant (amSub : UDMAMSubscription) {α : Type}
    {rest : Proc Handler α} (hrest : Keeps (Advances cfg ue) rest) : Keeps (Advances cfg ue) (do
      emit (.amSubscriptionData ue amSub)
      let candidates ← candidateSlices cfg env ue
      update ue (grantSlices cfg candidates amSub.allowedNSSAI)
      rest) := by
  intro s
  have hcandidates := Still.quiet (still_candidateSlices cfg env ue)
  refine bind_run (advances_emit trivial (if_pos rfl)
    (fun _ hne => if_neg (Ne.symm hne)) (.subscribe (life ue s) _)) fun _ s₁ hrun₁ => ?_
  refine bind_run (Quiet.advances hcandidates s₁) fun candidates s₂ hrun₂ => ?_
  refine bind_run (advances_update ?_) fun _ s₃ _ => hrest s₃
  have hlife : life ue s₂ = life ue s₁ := by
    have hquiet := hcandidates s₁
    rw [hrun₂] at hquiet
    exact life_of_frame ue hquiet fun e he => he.mark_eq_none ue
  have hsub : .subscription amSub.allowedNSSAI ∈ (life ue s₂).history := by
    rw [hlife]
    obtain rfl := (Prod.mk.inj hrun₁).2
    exact mem_filterMap.mpr
      ⟨.amSubscriptionData ue amSub, mem_append_right _ mem_cons_self, if_pos rfl⟩
  rw [standing_grantSlices]
  exact .grant (life ue s₂) hsub (filterAllowedNSSAI_subset _ _)

theorem advances_registered {α : Type} {rest : Proc Handler α}
    (hrest : Keeps (Advances cfg ue) rest) : Keeps (Advances cfg ue) (do
      emit (.registered ue (← load ue).securityCtx)
      rest) := by
  intro s
  rw [run_load_bind]
  exact bind_run (advances_emit trivial (if_pos rfl)
    (fun _ hne => if_neg (Ne.symm hne)) (.register (life ue s))) fun _ s₁ _ => hrest s₁

theorem advances_phase3ProcessSMCComplete :
    Keeps (Advances cfg ue) (phase3ProcessSMCComplete cfg env ue) := by
  refine (keeps_load ue).bind fun c => bind (still_emit ⟨trivial, rfl, rfl⟩) fun _ => ?_
  refine ((keeps_answer _).wrapErr _).bind fun amSub => ?_
  refine advances_grant env amSub ?_
  refine bind (still_update fun _ => rfl) fun _ => ?_
  refine (still_assignGUTI env ue).bind fun guti => ?_
  refine (still_transitionTo ue _).bind fun _ => advances_registered ?_
  refine bind (still_update fun _ => rfl) fun _ => ?_
  refine (still_applyAMPolicy cfg env ue).bind fun _ => ?_
  refine (still_fetchUEPolicy cfg env ue).bind fun _ => ?_
  exact still_registrationAccept cfg env ue guti

theorem advances_handleSecurityModeComplete (body : Body) :
    Keeps (Advances cfg ue) (handleSecurityModeComplete cfg env ue body) :=
  handleSecurityModeComplete_elim cfg env ue body (advances_phase3ProcessSMCComplete env)
    (Quiet.advances (keeps_sendNASSecured ue _)) (quiet_completeRegistration env ue)

theorem advances_handleRegistrationComplete :
    Keeps (Advances cfg ue) (handleRegistrationComplete cfg env ue) := by
  refine (still_notifyUEReachable ue).bind fun _ => ?_
  refine (quiet_deliverPendingPolicy env ue).bind fun _ => ?_
  refine (quiet_sendNetworkNameConfigUpdate cfg env ue).bind fun _ => ?_
  exact advances_startNSSAA env

/-! ## Every PDU -/

/-- What the handling of a PDU for `ue` amounts to. -/
inductive Handled (cfg : Config) (ue : Ptr) (s s' : Handler) : Prop
  | advances (h : Advances cfg ue s s')
  | transport (h : Frame UEContext.standing (Forwards ue (s.ctx ue).allowedNSSAI) s s')

theorem handled_of_quiet (h : Keeps Quiet x) : Keeps (Handled cfg ue) x :=
  h.mono fun _ _ h => .advances (advances_of_quiet h)

theorem handled_of_advances (h : Keeps (Advances cfg ue) x) : Keeps (Handled cfg ue) x :=
  h.mono fun _ _ h => .advances h

theorem handled_dispatch (msg : Message) : Keeps (Handled cfg ue) (dispatch cfg env ue msg) := by
  refine dispatch_elim cfg env ue msg ?_ ?_ ?_ ?_ ?_ ?_ ?_ ?_ ?_ ?_ ?_ ?_ ?_ ?_
  · exact fun _ => handled_of_quiet (.fail _)
  · exact handled_of_quiet (.pure _)
  · exact fun rr _ _ => handled_of_quiet (quiet_handleRegistrationRequest cfg env ue rr Still.quiet)
  · exact fun r => handled_of_advances (advances_handleAuthenticationResponse env r)
  · exact fun af _ _ =>
      handled_of_quiet (quiet_handleAuthenticationFailure cfg env ue Still.quiet af)
  · exact fun _ => handled_of_advances (advances_handleSecurityModeComplete env msg.body)
  · exact fun _ _ _ => handled_of_advances advances_handleSecurityModeReject
  · exact handled_of_advances (advances_handleRegistrationComplete env)
  · exact fun t s => .transport (frame_handleULNASTransport cfg env ue t s)
  · exact fun r => handled_of_quiet (quiet_handleDeregistration cfg env ue r)
  · exact handled_of_quiet (still_teardown cfg env ue)
  · exact fun r _ _ => handled_of_quiet (quiet_handleIdentityResponse cfg env ue Still.quiet r)
  · exact fun r => handled_of_quiet (quiet_handleServiceRequest cfg env ue r)
  · exact fun r => handled_of_advances (advances_handleNSSAAComplete env r)

theorem Handled.of_quiet {s₁ : Handler} (hquiet : Quiet s s₁) (h : Handled cfg ue s₁ s') :
    Handled cfg ue s s' := by
  cases h with
  | advances h => exact .advances (IsTrans.trans _ _ _ (advances_of_quiet hquiet) h)
  | transport h =>
    have hallowed : (s₁.ctx ue).allowedNSSAI = (s.ctx ue).allowedNSSAI :=
      congrArg Standing.allowedNSSAI (hquiet.1 ue)
    rw [hallowed] at h
    exact .transport
      (IsTrans.trans _ _ _ (hquiet.mono id fun _ => forwards_of_ordinary) h)

theorem handled_bind {α : Type} {x : Proc Handler α} {f : α → Proc Handler Unit}
    (hx : Keeps Quiet x) (hf : ∀ a, Keeps (Handled cfg ue) (f a)) :
    Keeps (Handled cfg ue) (x >>= f) := by
  intro s
  have hquiet := hx s
  rw [run_bind]
  rcases hrun : x.run s with ⟨o, s₁⟩
  rw [hrun] at hquiet
  cases o with
  | ok a => exact .of_quiet hquiet (hf a s₁)
  | err e | panic | hang => exact .advances (advances_of_quiet hquiet)

theorem handled_handlePlainNAS (pdu : Bytes) :
    Keeps (Handled cfg ue) (handlePlainNAS cfg env ue pdu) :=
  handled_bind (wrapErr (.lift _) _) fun msg => handled_dispatch env msg

theorem handled_handleNASMessage (cfg : Config) (env : Env) (ue : Ptr) (pdu : Bytes) :
    Keeps (Handled cfg ue) (handleNASMessage cfg env ue pdu) := by
  refine handled_bind (keeps_load ue) fun c => .ite (fun _ => ?_) fun _ => ?_
  · exact handled_bind ((keeps_unwrapNASSecurity ue pdu fun _ => rfl).wrapErr _) fun plain =>
      handled_handlePlainNAS env plain
  · exact handled_handlePlainNAS env pdu

theorem Handled.steps (h : Handled cfg ue s s') (ue' : Ptr) :
    Life.Steps cfg.nssaa (life ue' s) (life ue' s') := by
  cases h with
  | advances h =>
    by_cases hue : ue' = ue
    · rw [hue]
      exact h.own
    · rw [h.other ue' hue]
  | transport h => rw [life_of_frame ue' h fun e he => mark_of_forwards he ue']

end

/-! ## Every run -/

theorem life_step {input : Input} (h : step cfg s input s') (ue : Ptr) :
    Life.Steps cfg.nssaa (life ue s) (life ue s') := by
  cases input with
  | nas ue' pdu env =>
    rw [h]
    exact (handled_handleNASMessage cfg env ue' pdu s).steps ue
  | background before g after =>
    rw [h.2]
    have hquiet := Still.quiet (still_background cfg g) { s with goroutines := before ++ after }
    have hlife := life_of_frame ue hquiet fun e he => he.mark_eq_none ue
    rw [hlife]
    exact .refl

theorem life_run {t : Handler} {inputs : List Input} (run : Run (step cfg) s inputs t) (ue : Ptr) :
    Life.Steps cfg.nssaa (life ue s) (life ue t) := by
  refine run.invariant (I := fun t => Life.Steps cfg.nssaa (life ue s) (life ue t)) .refl ?_
  intro t input t' hsteps hstep
  exact hsteps.trans (life_step hstep ue)

/-- The handler right after `AllocateUEContext`; the events are counted from here. -/
def allocated (s : Handler) (ranID : Int64) : Handler :=
  { s with mgr := (s.mgr.allocateUEContext ranID).2, trace := [] }

/-- The context that `AllocateUEContext` has returned. -/
def newUE (s : Handler) (ranID : Int64) : Ptr := (s.mgr.allocateUEContext ranID).1

theorem life_allocated (s : Handler) (ranID : Int64) :
    life (newUE s ranID) (allocated s ranID) = Life.fresh := by
  have hctx : (allocated s ranID).ctx (newUE s ranID) =
      { amfUENGAPId := s.mgr.ngapIDCounter + 1, ranUENGAPId := ranID } :=
    Manager.get_allocateUEContext_self s.mgr ranID
  unfold life
  rw [hctx]
  rfl

end Handler

end Claudia5gc.Amf
