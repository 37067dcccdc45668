import Claudia5gc.Amf.Protection

/-!
# Network slice-specific authentication

A slice that is subject to NSSAA is withheld from the Allowed NSSAI when the UE
registers and waits in the queue of pending slices.  One slice at a time is in
progress; the answer of the AAA server moves it to the Allowed or to the Rejected
NSSAI and starts the next one.
-/

namespace Claudia5gc.Amf

variable (cfg : Config) (ue : Ptr)

open Go Nas

/-! ## Lists of slices -/

/-- Two subscription entries are for one slice: the DNN and the flag do not count. -/
def sameSubscribed (a b : SNSSAISubscribed) : Bool := a.sst = b.sst && a.sd = b.sd

def toNASSNSSAI (s : SNSSAISubscribed) : SNSSAI := { sst := s.sst, sd := sdFromString s.sd }

def dropSlice (list : List SNSSAISubscribed) (s : SNSSAISubscribed) : List SNSSAISubscribed :=
  list.filter fun e => !sameSubscribed e s

/-- The loop that `appendAllowed` and `appendRejected` share. -/
def appendSlice (list : List SNSSAISubscribed) (s : SNSSAISubscribed) : List SNSSAISubscribed :=
  if list.any fun e => sameSubscribed e s then list else list ++ [s]

def appendAllowed := appendSlice

def appendRejected := appendSlice

/-! ## The procedure -/

/-- `SplitPendingNSSAA`. -/
def splitPendingNSSAA (c : UEContext) : UEContext :=
  if !cfg.nssaa then c
  else
    let pending := c.pendingNSSAA ++ c.allowedNSSAI.filter (·.subjectToNSSAA)
    let c := { c with pendingNSSAA := pending }
    if pending = [] then c
    else { c with allowedNSSAI := c.allowedNSSAI.filter (!·.subjectToNSSAA) }

def buildIdentityRequest (identifier : UInt8) : Bytes := [1, identifier, 0, 5, 1]
def buildFailure (identifier : UInt8) : Bytes := [4, identifier, 0, 4]

def openSlice (slice : SNSSAISubscribed) (c : UEContext) : UEContext :=
  { c with nssaaEAPID := c.nssaaEAPID + 1, nssaaInProgress := some slice }

def closeSlice (authorized : Bool) (slice : SNSSAISubscribed) (c : UEContext) : UEContext :=
  let c :=
    if authorized then
      { c with
        allowedNSSAI := appendAllowed c.allowedNSSAI slice
        rejectedNSSAI := dropSlice c.rejectedNSSAI slice }
    else { c with rejectedNSSAI := appendRejected c.rejectedNSSAI slice }
  { c with
    nssaaInProgress := none
    pendingNSSAA := dropSlice c.pendingNSSAA slice }

def revokeSlice (target : SNSSAISubscribed) (c : UEContext) : UEContext :=
  { c with
    allowedNSSAI := dropSlice c.allowedNSSAI target
    rejectedNSSAI := appendRejected c.rejectedNSSAI target }

/-- `NSSAACompleteOutcome`, without the fields that only tests read. -/
structure NSSAACompleteOutcome where
  result : NSSAAuth
  nextCommand : Option NSSAAuth
  allowedChanged : Bool

def nssaaResultSuccess : String := "EAP_SUCCESS"

namespace Handler

def beginSlice (slice : SNSSAISubscribed) : Proc Handler NSSAAuth := do
  update ue (openSlice slice)
  let c ← load ue
  return {
    snssai := toNASSNSSAI slice
    eapMessage := buildIdentityRequest c.nssaaEAPID }

def beginFirstPending : Proc Handler (Option NSSAAuth) := do
  match (← load ue).pendingNSSAA with
  | [] => return none
  | slice :: _ => return some (← beginSlice ue slice)

def startNSSAACommand : Proc Handler (Option NSSAAuth) :=
  if !cfg.nssaa then return none else beginFirstPending ue

def nssaaMismatch (got : SNSSAI) (slice : SNSSAISubscribed) : Error :=
  let gotSST := got.sst
  let gotSD := got.sd
  let sst := slice.sst
  let sd := slice.sd
  let dnn := slice.dnn
  let subject := slice.subjectToNSSAA
  .new (s!"nssaa: COMPLETE S-NSSAI \x7b{gotSST} {gotSD}\x7d != in-progress " ++
    s!"\x7b{sst} {sd} {dnn} {subject}\x7d")

/-- The relay to the AAA server.  A server that cannot be reached counts as a
failure of the slice. -/
def relayNSSAA (env : Env) (eapID : UInt8) : Bool × Bytes :=
  match env.nssaaAuthenticate with
  | .error _ => (false, buildFailure eapID)
  | .ok res => (res.authResult = nssaaResultSuccess, res.eapPayload)

def processNSSAAComplete (env : Env) (ue : Ptr) (complete : NSSAAuth) :
    Proc Handler NSSAACompleteOutcome := do
  if !cfg.nssaa then Proc.fail (.new "nssaa: not configured") else
  let c ← load ue
  match c.nssaaInProgress with
  | none => Proc.fail (.new "nssaa: COMPLETE with no slice in progress")
  | some slice =>
    if toNASSNSSAI slice ≠ complete.snssai then
      Proc.fail (nssaaMismatch complete.snssai slice)
    else
    emit (.nssaaAuthenticate c.supi slice.sst slice.sd complete.eapMessage)
    let (authorized, eapResult) := relayNSSAA env c.nssaaEAPID
    update ue (closeSlice authorized slice)
    let nextCommand ← beginFirstPending ue
    return {
      result := { snssai := toNASSNSSAI slice, eapMessage := eapResult }
      nextCommand := nextCommand
      allowedChanged := authorized }

def revokeNSSAA (sst : UInt8) (sd : String) : Proc Handler Bool := do
  let target : SNSSAISubscribed := { sst, sd }
  if (← load ue).allowedNSSAI.any (sameSubscribed · target) then
    update ue (revokeSlice target)
    return true
  else return false

/-- `ReauthNSSAA`.  The slice stays in the Allowed NSSAI. -/
def reauthNSSAA (sst : UInt8) (sd : String) : Proc Handler Bool := do
  match (← load ue).allowedNSSAI.find? (sameSubscribed · { sst, sd }) with
  | some s =>
    update ue fun c => { c with pendingNSSAA := appendAllowed c.pendingNSSAA s }
    return true
  | none => return false

/-! ## What the procedure does -/

theorem run_beginFirstPending (s : Handler) : (s.ctx ue).pendingNSSAA = [] ∧
    (beginFirstPending ue).run s = (.ok none, s) ∨ ∃ slice rest cmd t, (s.ctx ue).pendingNSSAA =
    slice :: rest ∧ (beginFirstPending ue).run s = (.ok (some cmd), t) ∧ t.ctx ue = openSlice slice
    (s.ctx ue) := by
  unfold beginFirstPending
  rw [run_load_bind]
  cases hpending : (s.ctx ue).pendingNSSAA with
  | nil => exact .inl ⟨rfl, rfl⟩
  | cons slice rest =>
    refine .inr ⟨slice, rest, _, ((update ue (openSlice slice)).run s).2, rfl, rfl, ?_⟩
    rw [ctx_update, if_pos rfl]

theorem run_processNSSAAComplete (env : Env) (ue : Ptr) (complete : NSSAAuth) (s : Handler) :
    (∃ err, (processNSSAAComplete cfg env ue complete).run s = (.err err, s)) ∨ ∃ slice out s₁ t,
    (s.ctx ue).nssaaInProgress = some slice ∧ toNASSNSSAI slice = complete.snssai ∧
    (processNSSAAComplete cfg env ue complete).run s = (.ok out, t) ∧ out.allowedChanged =
    (relayNSSAA env (s.ctx ue).nssaaEAPID).1 ∧ s₁.ctx ue = closeSlice out.allowedChanged slice
    (s.ctx ue) ∧ (beginFirstPending ue).run s₁ = (.ok out.nextCommand, t) := by
  unfold processNSSAAComplete
  split
  · exact .inl ⟨_, rfl⟩
  rw [run_load_bind]
  cases hprogress : (s.ctx ue).nssaaInProgress with
  | none => exact .inl ⟨_, rfl⟩
  | some slice =>
    dsimp only
    split
    · exact .inl ⟨_, rfl⟩
    next hsame =>
    rw [run_emit_bind, run_update_bind]
    generalize hs₁ : ((update ue _).run _).2 = s₁
    have hctx : s₁.ctx ue = closeSlice (relayNSSAA env (s.ctx ue).nssaaEAPID).1 slice
        (s.ctx ue) := by
      rw [← hs₁, ctx_update, if_pos rfl]
      rfl
    obtain ⟨next, t, hrun⟩ : ∃ next t, (beginFirstPending ue).run s₁ = (.ok next, t) := by
      rcases run_beginFirstPending ue s₁ with ⟨-, hrun⟩ | ⟨_, _, cmd, t, -, hrun, -⟩
      · exact ⟨none, s₁, hrun⟩
      · exact ⟨some cmd, t, hrun⟩
    rw [Proc.run_bind_ok hrun]
    exact .inr ⟨slice, _, s₁, t, rfl, not_not.mp hsame, rfl, rfl, hctx, hrun⟩

end Handler

end Claudia5gc.Amf
