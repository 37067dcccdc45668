import Claudia5gc.Amf.SliceSelection

/-!
# A registration that fails in Phase 3

Phase 3 fails in two places.  The UDM may not answer; then nothing has been written yet.  Or the
service area restriction of the PCF excludes the tracking area of the UE; then the context is
registered already, has its 5G-GUTI in the index, and keeps the AM policy association it got with
the restriction.
-/

namespace Claudia5gc.Amf

open Go Nas Proc

variable (cfg : Config) (env : Env) (ue : Ptr) (body : Body) (s : Handler)

/-- The fields of a context that decide whether its tracking area is excluded. -/
def UEContext.area (c : UEContext) : Option ServiceAreaRestriction × UInt32 :=
  (c.servAreaRes, c.tac)

namespace Handler

/-! ## `handleSecurityModeComplete` in two parts -/

def takeBody (ue : Ptr) : Body → Proc Handler Unit
  | .securityModeComplete smc => takeSecurityModeComplete ue smc
  | _ => return ()

def finishRegistration (cfg : Config) (env : Env) (ue : Ptr) : Proc Handler Unit := do
  match ← (phase3ProcessSMCComplete cfg env ue).attempt with
  | .error e =>
    if Error.is errServiceAreaRestricted e then
      let _ ← (sendNASSecured ue (.registrationReject 0x49)).attempt
    else Proc.fail (.wrap "registration phase3" e)
  | .ok regAccept => completeRegistration env ue regAccept

theorem run_handleSecurityModeComplete : (handleSecurityModeComplete cfg env ue body).run s =
      (takeBody ue body >>= fun _ => finishRegistration cfg env ue).run s := by
  cases body <;> rfl

theorem keeps_takeBody {τ : Type} {π : UEContext → τ} {P : Event → Prop}
    (hpei : ∀ c pei, π { c with pei := pei } = π c)
    (hnssai : ∀ c nssai, π { c with requestedNSSAI := nssai } = π c) :
    Keeps (Frame π P) (takeBody ue body) := by
  cases body with
  | securityModeComplete smc => exact keeps_takeSecurityModeComplete ue smc hpei hnssai
  | _ => exact .pure _

/-! ## The AM policy -/

def restrictionInForce (env : Env) (c : UEContext) : Option ServiceAreaRestriction :=
  match env.createAMPolicy with
  | .ok a => a.servAreaRes
  | .error _ => c.servAreaRes

def areaAllowed (cfg : Config) (env : Env) (c : UEContext) : Bool :=
  !cfg.amPolicy || (restrictionInForce env c).all (isAllowedTA c.tac)

theorem areaAllowed_congr {c c' : UEContext} (h : c'.area = c.area) :
    areaAllowed cfg env c' = areaAllowed cfg env c := by
  obtain ⟨hres, htac⟩ := Prod.mk.inj h
  unfold areaAllowed restrictionInForce
  rw [hres, htac]

theorem run_applyAMPolicy : ∃ s', (applyAMPolicy cfg env ue).run s =
        (if areaAllowed cfg env (s.ctx ue) then .ok () else .err errServiceAreaRestricted, s') ∧
      (s'.ctx ue).state = (s.ctx ue).state ∧ s'.mgr.getByTMSI = s.mgr.getByTMSI ∧
      (cfg.amPolicy = true → ∀ a, env.createAMPolicy = .ok a →
        (s'.ctx ue).amPolicyAssocID = a.polAssoID) := by
  unfold applyAMPolicy areaAllowed restrictionInForce
  cases cfg.amPolicy with
  | false => exact ⟨s, rfl, rfl, rfl, fun h => nomatch h⟩
  | true =>
    -- The check, in the state that the answer of the PCF leaves.
    have hcheck {check : UEContext → Proc Handler Unit} {s₁ : Handler} {c : UEContext}
        (hctx : s₁.ctx ue = c) (hnone : c.servAreaRes = none → check c = return ())
        (hsome : ∀ sar, c.servAreaRes = some sar → check c =
          if isAllowedTA c.tac sar then return () else Proc.fail errServiceAreaRestricted) :
        (load ue >>= check).run s₁ = (if c.servAreaRes.all (isAllowedTA c.tac) then .ok ()
          else .err errServiceAreaRestricted, s₁) := by
      rw [run_load_bind, hctx]
      cases hres : c.servAreaRes with
      | none =>
        rw [hnone hres]
        rfl
      | some sar =>
        rw [hsome sar hres]
        dsimp only [Option.all_some]
        split <;> rfl
    rw [Bool.not_true, if_neg Bool.false_ne_true, run_load_bind, run_emit_bind]
    cases env.createAMPolicy with
    | error e =>
      exact ⟨_, hcheck rfl (fun h => by rw [h]) fun sar h => by rw [h], rfl, rfl,
        fun _ a ha => nomatch ha⟩
    | ok a =>
      let asked : Handler := { s with trace := s.trace ++
        [.createAMPolicyAssociation (s.ctx ue).supi cfg.plmnMCC cfg.plmnMNC] }
      let write (c : UEContext) : UEContext := { c with
        amPolicyAssocID := a.polAssoID
        rfsp := if 0 < a.rfsp then a.rfsp else c.rfsp
        servAreaRes := a.servAreaRes }
      have hctx : ((update ue write).run asked).2.ctx ue = write (s.ctx ue) := by
        rw [ctx_update, if_pos rfl]
        rfl
      refine ⟨((update ue write).run asked).2, ?_, ?_, rfl, ?_⟩
      · rw [run_update_bind]
        exact hcheck hctx (fun h => by rw [h]) fun sar h => by rw [h]
      · rw [hctx]
      · intro _ a' ha
        cases ha
        rw [hctx]

/-! ## Phase 3 -/

theorem run_assignGUTI_bind {α : Type} (f : GUTI5G → Proc Handler α) (s : Handler) :
    (assignGUTI env ue >>= f).run s = (f (s.mgr.assignGUTI ue env.nextTMSI).1).run
      { s with mgr := (s.mgr.assignGUTI ue env.nextTMSI).2 } := rfl

/-- The writes of Phase 3 before it asks for the AM policy. -/
def enterRegistration (cfg : Config) (env : Env) (ue : Ptr) (amSub : UDMAMSubscription)
    (candidates : List SNSSAISubscribed) : Proc Handler GUTI5G := do
  update ue (grantSlices cfg candidates amSub.allowedNSSAI)
  update ue fun c => { c with subscribedAMBR := (amSub.ambrUplink, amSub.ambrDownlink) }
  let guti ← assignGUTI env ue
  transitionTo ue .registered
  emit (.registered ue (← load ue).securityCtx)
  update ue fun c => { c with rfsp := cfg.defaultRFSP }
  return guti

theorem keeps_enterRegistration (amSub : UDMAMSubscription) (candidates : List SNSSAISubscribed) :
    Keeps (Frame UEContext.area fun _ => True)
      (enterRegistration cfg env ue amSub candidates) := by
  refine Keeps.bind (keeps_update (proj_grantSlices cfg _ _ fun _ _ _ => rfl)) fun _ => ?_
  refine Keeps.bind (keeps_update fun _ => rfl) fun _ => ?_
  refine (keeps_assignGUTI env ue fun _ _ => rfl).bind fun guti => ?_
  refine Keeps.bind (keeps_update fun _ => rfl) fun _ => ?_
  refine (keeps_load ue).bind fun c => (keeps_emit trivial).bind fun _ => ?_
  exact Keeps.bind (keeps_update fun _ => rfl) fun _ => .pure _

theorem run_enterRegistration (amSub : UDMAMSubscription)
    (candidates : List SNSSAISubscribed) (s : Handler) :
    ∃ guti s₁, (enterRegistration cfg env ue amSub candidates).run s = (.ok guti, s₁) ∧
      (s₁.ctx ue).state = .registered ∧ s₁.mgr.getByTMSI guti.tmsi = some ue := by
  rw [enterRegistration, run_update_bind, run_update_bind, run_assignGUTI_bind, transitionTo,
    run_update_bind, run_load_bind, run_emit_bind, run_update_bind]
  refine ⟨_, _, rfl, ?_, ?_⟩
  · rw [ctx_update, if_pos rfl]
    change (((update ue _).run _).2.ctx ue).state = _
    rw [ctx_update, if_pos rfl]
  · exact (Manager.getByTMSI_assignGUTI _).mpr (.inl ⟨rfl, rfl⟩)

theorem run_phase3 {env : Env} {amSub : UDMAMSubscription}
    (hsub : env.amSubscriptionData = .ok amSub) :
    ∃ guti s₁, (phase3ProcessSMCComplete cfg env ue).run s =
        (applyAMPolicy cfg env ue >>= fun _ => fetchUEPolicy cfg env ue >>= fun _ =>
          registrationAccept cfg env ue guti).run s₁ ∧
      (s₁.ctx ue).state = .registered ∧ s₁.mgr.getByTMSI guti.tmsi = some ue ∧
      (s₁.ctx ue).area = (s.ctx ue).area := by
  have hanswer : ∀ s' : Handler,
      ((answer env.amSubscriptionData).wrapErr "udm: get AM subscription").run s' =
        (.ok amSub, s') := by
    intro s'
    rw [hsub]
    rfl
  rw [phase3ProcessSMCComplete, run_load_bind, run_emit_bind, run_bind_ok (hanswer _),
    run_emit_bind]
  obtain ⟨s₂, hrun, hctx⟩ := run_candidateSlices cfg env ue
    { s with trace := s.trace ++ [_] ++ [.amSubscriptionData ue amSub] }
  generalize candidates cfg env _ = slices at hrun
  rw [run_bind_ok hrun]
  obtain ⟨guti, s₁, henter, hstate, htmsi⟩ := run_enterRegistration cfg env ue amSub slices s₂
  have harea := (keeps_enterRegistration cfg env ue amSub slices s₂).1 ue
  rw [henter, hctx] at harea
  refine ⟨guti, s₁, ?_, hstate, htmsi, harea⟩
  change (enterRegistration cfg env ue amSub slices >>= fun guti => applyAMPolicy cfg env ue >>=
    fun _ => fetchUEPolicy cfg env ue >>= fun _ => registrationAccept cfg env ue guti).run s₂ = _
  rw [run_bind_ok henter]

theorem run_fetchUEPolicy : ∃ s', (fetchUEPolicy cfg env ue).run s = (.ok (), s') := by
  unfold fetchUEPolicy
  split
  · exact ⟨s, rfl⟩
  · split
    · exact ⟨_, rfl⟩
    · split
      · exact ⟨_, rfl⟩
      · exact ⟨_, rfl⟩

theorem registrationAccept_ne_err (guti : GUTI5G) (s : Handler)
    (e : Error) : ((registrationAccept cfg env ue guti).run s).1 ≠ .err e := by
  have hlist : ∀ e, buildTAIList cfg (s.ctx ue).tac ≠ .err e := encodeTAIList_ne_err _ _ _
  unfold registrationAccept
  rw [run_load_bind, run_bind, run_lift]
  cases htai : buildTAIList cfg (s.ctx ue).tac with
  | ok taiList =>
    dsimp only
    unfold setT3512Value
    split
    · exact Outcome.ok_ne_err _ e
    · exact Outcome.ok_ne_err _ e
  | err e' => exact absurd htai (hlist e')
  | panic | hang => exact nofun

/-- The UDM answers, and the tracking area of the UE is not excluded. -/
def Admits (cfg : Config) (env : Env) (c : UEContext) : Prop :=
  (∃ amSub, env.amSubscriptionData = .ok amSub) ∧ areaAllowed cfg env c = true

theorem phase3_fails_iff : (∃ e s', (phase3ProcessSMCComplete cfg env ue).run s = (.err e, s')) ↔
      ¬Admits cfg env (s.ctx ue) := by
  cases hsub : env.amSubscriptionData with
  | error e =>
    have hrun : ∃ e s', (phase3ProcessSMCComplete cfg env ue).run s = (.err e, s') := by
      rw [phase3ProcessSMCComplete, run_load_bind, run_emit_bind, run_bind, hsub]
      exact ⟨_, _, rfl⟩
    refine ⟨fun _ hadmits => ?_, fun _ => hrun⟩
    obtain ⟨⟨amSub, hok⟩, -⟩ := hadmits
    rw [hsub] at hok
    cases hok
  | ok amSub =>
    obtain ⟨guti, s₁, hphase3, -, -, harea⟩ := run_phase3 cfg ue s hsub
    obtain ⟨s₂, hpolicy, -⟩ := run_applyAMPolicy cfg env ue s₁
    rw [areaAllowed_congr cfg env harea] at hpolicy
    rw [hphase3]
    cases hallowed : areaAllowed cfg env (s.ctx ue) with
    | true =>
      rw [hallowed] at hpolicy
      obtain ⟨s₃, hfetch⟩ := run_fetchUEPolicy cfg env ue s₂
      rw [run_bind_ok hpolicy, run_bind_ok hfetch]
      refine iff_of_false ?_ (not_not.mpr ⟨⟨amSub, hsub⟩, hallowed⟩)
      rintro ⟨e, s', hrun⟩
      exact registrationAccept_ne_err cfg env ue guti s₃ e (congrArg Prod.fst hrun)
    | false =>
      rw [hallowed] at hpolicy
      rw [run_bind_err hpolicy]
      refine iff_of_true ⟨_, _, rfl⟩ fun hadmits => ?_
      have hallowed' := hadmits.2
      rw [hallowed] at hallowed'
      cases hallowed'

theorem phase3_excluded {env : Env} {amSub : UDMAMSubscription}
    (hsub : env.amSubscriptionData = .ok amSub)
    (hexcluded : areaAllowed cfg env (s.ctx ue) = false) :
    ∃ s', (phase3ProcessSMCComplete cfg env ue).run s = (.err errServiceAreaRestricted, s') ∧
      (s'.ctx ue).state = .registered ∧ (∃ tmsi, s'.mgr.getByTMSI tmsi = some ue) ∧
      ∀ a, env.createAMPolicy = .ok a → (s'.ctx ue).amPolicyAssocID = a.polAssoID := by
  obtain ⟨guti, s₁, hphase3, hstate, htmsi, harea⟩ := run_phase3 cfg ue s hsub
  obtain ⟨s₂, hpolicy, hstate₂, htmsi₂, hassoc⟩ := run_applyAMPolicy cfg env ue s₁
  rw [areaAllowed_congr cfg env harea, hexcluded] at hpolicy
  have hconfigured : cfg.amPolicy = true := by
    unfold areaAllowed at hexcluded
    cases hcfg : cfg.amPolicy with
    | true => rfl
    | false =>
      rw [hcfg] at hexcluded
      cases hexcluded
  refine ⟨s₂, ?_, hstate₂.trans hstate, ⟨guti.tmsi, ?_⟩, hassoc hconfigured⟩
  · rw [hphase3, run_bind_err hpolicy]
  · rw [htmsi₂]
    exact htmsi

/-! ## What a failure leaves behind -/

def RejectPDU (ue : Ptr) (pdu : Bytes) : Prop :=
  ∃ cause s s', (sendNASPlain (.registrationReject cause)).run s = (.ok pdu, s') ∨
    (sendNASSecured ue (.registrationReject cause)).run s = (.ok pdu, s') ∨
    ∃ sht, (sendNASIntegrityOnly ue (.registrationReject cause) sht).run s = (.ok pdu, s')

def HandsReject (ue : Ptr) (e : Event) : Prop :=
  ∃ pdu, e.nasPDU = some (ue, pdu) ∧ RejectPDU ue pdu

/-- The UE is unregistered after a failed attempt, and has been told so once. -/
structure CleanFailure (ue : Ptr) (s s' : Handler) : Prop where
  unregistered : (s'.ctx ue).state ≠ .registered
  tmsi : ∀ tmsi, s'.mgr.getByTMSI tmsi = some ue → s.mgr.getByTMSI tmsi = some ue
  amPolicy : (s'.ctx ue).amPolicyAssocID = ""
  reject : ∃ before e after, s'.trace = s.trace ++ before ++ e :: after ∧ HandsReject ue e ∧
    ∀ e' ∈ before ++ after, ¬HandsReject ue e'

def Phase3Fails (cfg : Config) (env : Env) (ue : Ptr) (body : Body) (s : Handler) : Prop :=
  ∃ s₁ e s₂, (takeBody ue body).run s = (.ok (), s₁) ∧
    (phase3ProcessSMCComplete cfg env ue).run s₁ = (.err e, s₂)

theorem emits_of_phase3Fails {cfg : Config} {env : Env} {ue : Ptr} {body : Body} {s : Handler}
    (h : Phase3Fails cfg env ue body s) :
    Emits (fun e => e.nasPDU = none) s ((handleSecurityModeComplete cfg env ue body).run s).2 := by
  obtain ⟨s₁, e, s₂, htake, hphase3⟩ := h
  have hemits₁ : Emits (fun e => e.nasPDU = none) s s₁ := by
    have hframe := (keeps_takeBody (P := fun e => e.nasPDU = none) (π := fun _ => ()) ue body
      (fun _ _ => rfl) (fun _ _ => rfl) s).2
    rw [htake] at hframe
    exact hframe
  have hemits₂ : Emits (fun e => e.nasPDU = none) s₁ s₂ := by
    have hsilent : Keeps Silent (phase3ProcessSMCComplete cfg env ue) :=
      silent_phase3ProcessSMCComplete cfg env ue
    have hframe := (hsilent s₁).2
    rw [hphase3] at hframe
    exact hframe.mono fun _ he => he.2
  have hattempt : (phase3ProcessSMCComplete cfg env ue).attempt.run s₁ = (.ok (.error e), s₂) := by
    rw [run_attempt, hphase3]
  refine (hemits₁.trans hemits₂).trans ?_
  rw [run_handleSecurityModeComplete, run_bind_ok htake, finishRegistration, run_bind_ok hattempt]
  dsimp only
  split
  · exact ((keeps_sendNASSecured (π := UEContext.standing) ue _).attempt.bind
      (fun _ => Keeps.pure _) s₂).2
  · exact Emits.of_eq rfl

theorem admits_takeBody {cfg : Config} {env : Env} {ue : Ptr} {body : Body} {s s₁ : Handler}
    {r : Outcome Unit} (htake : (takeBody ue body).run s = (r, s₁)) :
    Admits cfg env (s₁.ctx ue) ↔ Admits cfg env (s.ctx ue) := by
  have hframe := (keeps_takeBody (P := fun _ => True) (π := UEContext.area) ue body
    (fun _ _ => rfl) (fun _ _ => rfl) s).1 ue
  rw [htake] at hframe
  unfold Admits
  rw [areaAllowed_congr cfg env hframe]

theorem phase3Fails_iff : Phase3Fails cfg env ue body s ↔
      (∃ s₁, (takeBody ue body).run s = (.ok (), s₁)) ∧ ¬Admits cfg env (s.ctx ue) := by
  constructor
  · rintro ⟨s₁, e, s₂, htake, hphase3⟩
    refine ⟨⟨s₁, htake⟩, ?_⟩
    rw [← admits_takeBody htake]
    exact (phase3_fails_iff cfg env ue s₁).mp ⟨e, s₂, hphase3⟩
  · rintro ⟨⟨s₁, htake⟩, hadmits⟩
    rw [← admits_takeBody htake] at hadmits
    obtain ⟨e, s₂, hphase3⟩ := (phase3_fails_iff cfg env ue s₁).mpr hadmits
    exact ⟨s₁, e, s₂, htake, hphase3⟩

/-- A failure of Phase 3 is never a clean one.  So it is harmless only where there is none:
when the Security Mode Complete can be read, the UDM answers and the tracking area of the UE
is not excluded. -/
theorem clean_failure_iff (cfg : Config) (env : Env) (ue : Ptr) (body : Body) (s : Handler) :
    (Phase3Fails cfg env ue body s →
      CleanFailure ue s ((handleSecurityModeComplete cfg env ue body).run s).2) ↔
    ((∃ s₁, (takeBody ue body).run s = (.ok (), s₁)) → Admits cfg env (s.ctx ue)) := by
  constructor
  · intro hclean htake
    by_contra hadmits
    have hfails := (phase3Fails_iff cfg env ue body s).mpr ⟨htake, hadmits⟩
    obtain ⟨before, e, after, htrace, ⟨pdu, hpdu, -⟩, -⟩ := (hclean hfails).reject
    obtain ⟨new, hnew, hnone⟩ := emits_of_phase3Fails hfails
    rw [hnew, List.append_assoc] at htrace
    have hmem : e ∈ new := by
      rw [List.append_cancel_left htrace]
      exact List.mem_append_right before List.mem_cons_self
    rw [hnone e hmem] at hpdu
    cases hpdu
  · intro hadmits hfails
    obtain ⟨htake, hnot⟩ := (phase3Fails_iff cfg env ue body s).mp hfails
    exact absurd (hadmits htake) hnot

def policed : Config := { Config.minimal with amPolicy := true }

def excluding : Env where
  amSubscriptionData := .ok ⟨[], 1, 1⟩
  createAMPolicy := .ok ⟨"ampol-1", 0, some
    { restrictionType := "NOT_ALLOWED_AREAS", notAllowedTACs := ["000000"] }⟩

def newcomer : Handler :=
  newHandler ((Manager.newManager ⟨"001", "01", 1, 1, 1⟩ false false).allocateUEContext 7).2

theorem excluded_stays_registered :
    ¬∀ (cfg : Config) (env : Env) (ue : Ptr) (body : Body) (s : Handler),
      Phase3Fails cfg env ue body s →
      CleanFailure ue s ((handleSecurityModeComplete cfg env ue body).run s).2 := by
  intro h
  have hexcluded : areaAllowed policed excluding (newcomer.ctx 0) = false := by decide +kernel
  obtain ⟨s', hphase3, -⟩ := phase3_excluded policed 0 newcomer rfl hexcluded
  have hclean := h policed excluding 0 .registrationComplete newcomer
    ⟨newcomer, _, s', rfl, hphase3⟩
  have hregistered : (((handleSecurityModeComplete policed excluding 0 .registrationComplete).run
      newcomer).2.ctx 0).state = .registered := by
    decide +kernel
  exact hclean.unregistered hregistered

end Handler

end Claudia5gc.Amf
