import Claudia5gc.Amf.SliceSelection

/-!
# What the UE knows of its slices

The UE learns its Allowed NSSAI from the Registration Accept and, when slices have gone through
their own authentication, from a Configuration Update Command.  The command is sent when the last
pending slice is done, and only if that slice succeeded.
-/

namespace Claudia5gc.Amf

open Go Nas Proc Handler

variable (cfg : Config) {s t : Handler} {ue : Ptr} {env : Env} {n : NSSAI}
  {out : NSSAACompleteOutcome}

/-! ## The system -/

/-- What moves the queue of pending slices. -/
inductive NSSAAInput where
  | start (env : Env)
  | complete (msg : NSSAAuth) (env : Env)

/-- The AMF, with the Allowed NSSAI that was last delivered to the UE. -/
structure NSSAAView where
  amf : Handler
  shown : NSSAI

namespace NSSAAView

/-- The Allowed NSSAI of the command of `sendNSSAAConfigUpdate`, if the command can be built
and the gNB takes it. -/
def updateShown (env : Env) (ue : Ptr) (s : Handler) : Option NSSAI :=
  let allowed := buildAllowedNSSAI (s.ctx ue).allowedNSSAI
  match (sendNASSecuredViaDownlink env ue (.configurationUpdateCommand
      { configUpdateIndication := some 0xD1, allowedNSSAI := some allowed })).run s with
  | (.ok (), _) => some allowed
  | _ => none

def reportShown (env : Env) (ue : Ptr) (out : NSSAACompleteOutcome) (s : Handler) : Option NSSAI :=
  let s := ((sendNASSecuredViaDownlink env ue
    (.nssaaAuthResult out.result)).attempt.run s).2
  if out.nextCommand = none ∧ out.allowedChanged = true then updateShown env ue s else none

def completeShown (cfg : Config) (env : Env) (ue : Ptr) (msg : NSSAAuth) (s : Handler) :
    Option NSSAI :=
  match (processNSSAAComplete cfg env ue msg).run s with
  | (.ok out, t) => reportShown env ue out t
  | _ => none

def next (cfg : Config) (ue : Ptr) (s : NSSAAView) : NSSAAInput → NSSAAView
  | .start env => { s with amf := ((startNSSAA cfg env ue).run s.amf).2 }
  | .complete msg env =>
    { amf := ((handleNSSAAComplete cfg env ue msg).run s.amf).2
      shown := (completeShown cfg env ue msg s.amf).getD s.shown }

/-- No slice is waiting or in progress. -/
def Drained (c : UEContext) : Prop := c.pendingNSSAA = [] ∧ c.nssaaInProgress = none

instance (c : UEContext) : Decidable (Drained c) := inferInstanceAs (Decidable (_ ∧ _))

/-- The UE knows the Allowed NSSAI of the AMF. -/
def Agrees (ue : Ptr) (s : NSSAAView) : Prop :=
  s.shown = buildAllowedNSSAI (s.amf.ctx ue).allowedNSSAI

instance (ue : Ptr) (s : NSSAAView) : Decidable (Agrees ue s) :=
  inferInstanceAs (Decidable (_ = _))

def Delivering (cfg : Config) (ue : Ptr) : NSSAAView → NSSAAInput → Prop
  | s, .complete msg env =>
    ∀ out t, (processNSSAAComplete cfg env ue msg).run s.amf = (.ok out, t) →
      out.nextCommand = none →
      if out.allowedChanged then (reportShown env ue out t).isSome else Agrees ue s
  | _, _ => True

/-! ## What the steps do -/

theorem standing_reportSlice (env : Env) (ue : Ptr) (out : NSSAACompleteOutcome) (s : Handler) :
    (((reportSlice env ue out).run s).2.ctx ue).standing = (s.ctx ue).standing := by
  have hquiet : Proc.Keeps Handler.Quiet (reportSlice env ue out) :=
    quiet_reportSlice env ue out
  exact (hquiet s).1 ue

theorem updateShown_eq (h : updateShown env ue s = some n) :
    n = buildAllowedNSSAI (s.ctx ue).allowedNSSAI := by
  unfold updateShown at h
  dsimp only at h
  split at h
  · exact (Option.some.inj h).symm
  · cases h

theorem reportShown_eq
    (h : reportShown env ue out s = some n) : n = buildAllowedNSSAI (s.ctx ue).allowedNSSAI := by
  unfold reportShown at h
  split at h
  · have hquiet : Proc.Keeps Handler.Quiet
        (sendNASSecuredViaDownlink env ue (.nssaaAuthResult out.result)) :=
      quiet_sendNASSecuredViaDownlink env ue _
    have hstanding := (hquiet.attempt s).1 ue
    rw [updateShown_eq h]
    exact congrArg (fun st : Standing => buildAllowedNSSAI st.allowedNSSAI) hstanding
  · cases h

theorem reportShown_of_failed (h : ¬out.allowedChanged = true) : reportShown env ue out s = none :=
  if_neg fun hsent => h hsent.2

theorem run_handleNSSAAComplete (env : Env) (ue : Ptr) (msg : NSSAAuth) (s : Handler) :
    ((handleNSSAAComplete cfg env ue msg).run s).2 = s ∧ completeShown cfg env ue msg s = none ∨
    ∃ slice out s₁ t, (s.ctx ue).nssaaInProgress = some slice ∧
      (processNSSAAComplete cfg env ue msg).run s = (.ok out, t) ∧
      s₁.ctx ue = closeSlice out.allowedChanged slice (s.ctx ue) ∧
      (beginFirstPending ue).run s₁ = (.ok out.nextCommand, t) ∧
      (((handleNSSAAComplete cfg env ue msg).run s).2.ctx ue).standing = (t.ctx ue).standing ∧
      completeShown cfg env ue msg s = reportShown env ue out t := by
  rcases run_processNSSAAComplete cfg env ue msg s with
    ⟨err, hrun⟩ | ⟨slice, out, s₁, t, hprogress, -, hrun, -, hclosed, hnext⟩
  · left
    rw [handleNSSAAComplete, run_bind, run_attempt, completeShown, hrun]
    exact ⟨rfl, rfl⟩
  · refine .inr ⟨slice, out, s₁, t, hprogress, hrun, hclosed, hnext, ?_, ?_⟩
    · rw [handleNSSAAComplete, run_bind, run_attempt, hrun]
      exact standing_reportSlice env ue out t
    · rw [completeShown, hrun]

theorem nssaaInProgress_beginFirstPending {cmd : NSSAAuth}
    (h : (beginFirstPending ue).run s = (.ok (some cmd), t)) :
    (t.ctx ue).nssaaInProgress ≠ none := by
  rcases run_beginFirstPending ue s with
    ⟨-, hrun⟩ | ⟨slice, rest, cmd', t', -, hrun, hctx⟩
  · cases h.symm.trans hrun
  · rw [(Prod.mk.inj (h.symm.trans hrun)).2, hctx]
    exact Option.some_ne_none slice

theorem state_beginFirstPending (h : (beginFirstPending ue).run s = (.ok none, t)) : t = s := by
  rcases run_beginFirstPending ue s with ⟨-, hrun⟩ | ⟨_, _, _, _, -, hrun, -⟩
  · exact (Prod.mk.inj (h.symm.trans hrun)).2
  · cases h.symm.trans hrun

/-! ## Every run -/

theorem agrees_complete {cfg : Config} {msg : NSSAAuth} {s : NSSAAView}
    (h : Drained (s.amf.ctx ue) → Agrees ue s) (hok : Delivering cfg ue s (.complete msg env)) :
    let s' := next cfg ue s (.complete msg env)
    Drained (s'.amf.ctx ue) → Agrees ue s' := by
  intro s' hdrained
  rcases run_handleNSSAAComplete cfg env ue msg s.amf with
    ⟨hsame, hshown⟩ | ⟨slice, out, s₁, t, hprogress, hrun, hclosed, hnext, hstanding, hshown⟩
  · -- Refused: the state is the one before.
    have hs' : s' = s := by
      show NSSAAView.mk _ _ = s
      rw [hsame, hshown]
      rfl
    rw [hs'] at hdrained ⊢
    exact h hdrained
  · have hallowed : (s'.amf.ctx ue).allowedNSSAI = (t.ctx ue).allowedNSSAI :=
      congrArg Standing.allowedNSSAI hstanding
    have hprogress' : (s'.amf.ctx ue).nssaaInProgress = (t.ctx ue).nssaaInProgress :=
      congrArg Standing.nssaaInProgress hstanding
    cases hcmd : out.nextCommand with
    | some cmd =>
      -- The next slice is in progress, so the queue is not drained.
      rw [hcmd] at hnext
      exact absurd (hprogress'.symm.trans hdrained.2) (nssaaInProgress_beginFirstPending hnext)
    | none =>
      have hdelivering := hok out t hrun hcmd
      show (completeShown cfg env ue msg s.amf).getD s.shown = _
      rw [hallowed, hshown]
      split at hdelivering
      · obtain ⟨n, hn⟩ := Option.isSome_iff_exists.mp hdelivering
        rw [hn, reportShown_eq hn]
        rfl
      · next hfailed =>
        -- Nothing was allowed in this step, and nothing is sent.
        rw [hcmd] at hnext
        have hkept : (t.ctx ue).allowedNSSAI = (s.amf.ctx ue).allowedNSSAI := by
          rw [state_beginFirstPending hnext, hclosed, Bool.eq_false_iff.mpr hfailed]
          rfl
        rw [reportShown_of_failed hfailed, hkept]
        exact hdelivering

theorem agrees_start {cfg : Config} {env : Env} {s : NSSAAView}
    (h : Drained (s.amf.ctx ue) → Agrees ue s) : let s' := next cfg ue s (.start env)
    Drained (s'.amf.ctx ue) → Agrees ue s' := by
  intro s' hdrained
  have hstart : s'.amf = s.amf ∨ (s'.amf.ctx ue).nssaaInProgress ≠ none := by
    show ((startNSSAA cfg env ue).run s.amf).2 = s.amf ∨
      (((startNSSAA cfg env ue).run s.amf).2.ctx ue).nssaaInProgress ≠ none
    unfold startNSSAA startNSSAACommand
    split
    · exact .inl rfl
    · rcases run_beginFirstPending ue s.amf with
        ⟨-, hrun⟩ | ⟨slice, rest, cmd, t, -, hrun, hctx⟩
      · rw [run_bind_ok hrun]
        exact .inl rfl
      · rw [run_bind_ok hrun]
        have hquiet : Keeps Handler.Quiet (do
            let _ ← (sendNASSecuredViaDownlink env ue (.nssaaAuthCommand cmd)).attempt) :=
          (quiet_sendNASSecuredViaDownlink env ue _).attempt.bind fun _ => .pure _
        have hprogress := congrArg Standing.nssaaInProgress ((hquiet t).1 ue)
        refine .inr fun hnone => ?_
        have hsome := nssaaInProgress_beginFirstPending hrun
        exact hsome (hprogress.symm.trans hnone)
  rcases hstart with hsame | hprogress
  · have hs' : s' = s := congrArg (NSSAAView.mk · s.shown) hsame
    rw [hs'] at hdrained ⊢
    exact h hdrained
  · exact absurd hdrained.2 hprogress

/-! ## The Registration Accept -/

theorem gives_registrationAccept (env : Env) (ue : Ptr) (guti : GUTI5G) : Gives (fun accept t =>
        accept.allowedNSSAI = some (buildAllowedNSSAI (t.ctx ue).allowedNSSAI))
      (registrationAccept cfg env ue guti) := by
  intro s accept t hrun
  have hkeeps : (t.ctx ue).standing = (s.ctx ue).standing := by
    have hquiet := (Handler.Still.quiet (still_registrationAccept cfg env ue guti) s).1 ue
    rw [hrun] at hquiet
    exact hquiet
  have hallowed : (t.ctx ue).allowedNSSAI = (s.ctx ue).allowedNSSAI :=
    congrArg Standing.allowedNSSAI hkeeps
  rw [registrationAccept, run_load_bind] at hrun
  rw [hallowed]
  refine Gives.bind (Q := fun accept _ =>
    accept.allowedNSSAI = some (buildAllowedNSSAI (s.ctx ue).allowedNSSAI))
    (fun taiList => .bind fun t3512Value => ?_) s accept t hrun
  intro _ accept' _ hpure
  cases hpure
  rfl

theorem gives_phase3 (env : Env) (ue : Ptr) : Gives (fun accept t =>
        accept.allowedNSSAI = some (buildAllowedNSSAI (t.ctx ue).allowedNSSAI))
      (phase3ProcessSMCComplete cfg env ue) := by
  refine .bind fun c => .bind fun _ => .bind fun amSub => .bind fun _ => .bind fun _ => ?_
  refine .bind fun _ => .bind fun _ => .bind fun guti => .bind fun _ => .bind fun _ => ?_
  refine .bind fun _ => .bind fun _ => .bind fun _ => .bind fun _ => ?_
  exact gives_registrationAccept cfg env ue guti

/-! ## A run -/

def withNSSAA : Config := { Config.minimal with nssaa := true }

def guardedSlice (sd : String) : SNSSAISubscribed := { sst := 1, sd, subjectToNSSAA := true }

variable (slices : List SNSSAISubscribed)

def subscribing : Env where
  amSubscriptionData := .ok ⟨slices, 1, 1⟩

/-- The UE completes the authentication of the slice with this SD, and the AAA server answers
with `result`. -/
def completing (sd : UInt32) (result : String) : NSSAAInput :=
  .complete { snssai := ⟨1, sd⟩, eapMessage := [] } { nssaaAuthenticate := .ok ⟨result, []⟩ }

def secured : Handler :=
  ((update 0 fun c => { c with securityCtx :=
    { c.securityCtx with knasint := List.replicate 16 1, active := true } }).run
    (newHandler (Manager.newManager ⟨"001", "01", 1, 1, 1⟩ false false))).2

/-- The state after Phase 3 for a UE with `slices`, all of which have to wait. -/
def registered : NSSAAView where
  amf := ((phase3ProcessSMCComplete withNSSAA (subscribing slices) 0).run secured).2
  shown := []

theorem phase3_registered : ∀ slices ∈ [[guardedSlice "000001"],
      [guardedSlice "000001", guardedSlice "000002"]],
    ∃ accept, (phase3ProcessSMCComplete withNSSAA (subscribing slices) 0).run secured =
      (.ok accept, (registered slices).amf) ∧ accept.allowedNSSAI = some [] := by
  simp only [List.forall_mem_cons]
  exact ⟨⟨_, rfl, rfl⟩, ⟨_, rfl, rfl⟩, fun _ h => nomatch h⟩

def started : NSSAAView :=
  next withNSSAA 0 (registered slices) (.start {})

theorem delivering_one_slice :
    Delivering withNSSAA 0 (started [guardedSlice "000001"]) (completing 1 "EAP_SUCCESS") := by
  intro out t hrun _
  have hshown : completeShown withNSSAA { nssaaAuthenticate := .ok ⟨"EAP_SUCCESS", []⟩ } 0
      { snssai := ⟨1, 1⟩, eapMessage := [] } (started [guardedSlice "000001"]).amf =
      some [⟨1, 1⟩] := by
    decide +kernel
  rw [completeShown, hrun] at hshown
  dsimp only at hshown
  split
  · rw [hshown]
    rfl
  · next hfailed =>
    rw [reportShown_of_failed hfailed] at hshown
    cases hshown

end NSSAAView

end Claudia5gc.Amf
