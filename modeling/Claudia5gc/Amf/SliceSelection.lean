import Claudia5gc.Amf.Refinement

/-!
# The choice of the slices

Phase 3 asks the NSSF which slices the UE may use and intersects the answer with the subscription.
Without an NSSF, or when it cannot be asked, the request of the UE takes the place of the answer.
-/

namespace Claudia5gc.Amf

open Go Nas Proc

/-! ## The client of the NSSF -/

/-- An S-NSSAI in the answer, as `encoding/json` decodes it. -/
structure AuthorizedSNSSAI where
  sst : Int64
  sd : String
  deriving DecidableEq

/-- What comes back for the request to the NSSF. -/
inductive NSSFResponse where
  /-- The request could not be made, or there was no response. -/
  | unreachable (err : Error)
  /-- A response with its status, and the decoded body or the error of the decoder. -/
  | response (status : Nat) (body : Except Error (List (List AuthorizedSNSSAI)))

/-- The entry that the AMF keeps of an S-NSSAI, with `uint8(s.SST)`. -/
def AuthorizedSNSSAI.toSubscribed (s : AuthorizedSNSSAI) : SNSSAISubscribed where
  sst := s.sst.toInt8.toUInt8
  sd := s.sd

def nsSelection : NSSFResponse → Except Error (List SNSSAISubscribed)
  | .unreachable err => .error (.wrap "nssf: NSSelection" err)
  | .response status body =>
    if status ≠ 200 then .error (.new s!"nssf: NSSelection: status {status}")
    else match body with
      | .error err => .error (.wrap "nssf: NSSelection decode" err)
      | .ok allowedNssaiList => .ok (allowedNssaiList.flatten.map AuthorizedSNSSAI.toSubscribed)

def NSSFResponse.answer : NSSFResponse → Option (List AuthorizedSNSSAI)
  | .response status (.ok allowedNssaiList) =>
    if status = 200 then some allowedNssaiList.flatten else none
  | _ => none

theorem nsSelection_of_answer {r : NSSFResponse} {answer : List AuthorizedSNSSAI}
    (h : r.answer = some answer) :
    nsSelection r = .ok (answer.map AuthorizedSNSSAI.toSubscribed) := by
  unfold NSSFResponse.answer at h
  split at h
  · split at h
    · next hstatus =>
      rw [Option.some.injEq] at h
      rw [nsSelection, if_neg (not_not.mpr hstatus), h]
    · cases h
  · cases h

theorem nsSelection_of_no_answer {r : NSSFResponse} (h : r.answer = none) :
    ∃ err, nsSelection r = .error err := by
  cases r with
  | unreachable err => exact ⟨_, rfl⟩
  | response status body =>
    cases body with
    | error err =>
      rw [nsSelection]
      split <;> exact ⟨_, rfl⟩
    | ok allowedNssaiList =>
      rw [NSSFResponse.answer] at h
      rw [nsSelection]
      split at h
      · cases h
      · next hstatus =>
        rw [if_pos hstatus]
        exact ⟨_, rfl⟩

/-! ## The filter -/

def Covers (entry slice : SNSSAISubscribed) : Prop :=
  entry.sst = slice.sst ∧ (entry.sd = "" ∨ entry.sd = slice.sd)

theorem mem_filterAllowedNSSAI {requested subscribed : List SNSSAISubscribed}
    {slice : SNSSAISubscribed} : slice ∈ filterAllowedNSSAI requested subscribed ↔
      slice ∈ subscribed ∧ (requested = [] ∨ ∃ entry ∈ requested, Covers entry slice) := by
  unfold filterAllowedNSSAI
  split
  · next hnil => simp [hnil]
  · next hne => simp [hne, Covers]

/-! ## Phase 3 -/

namespace Handler

def candidates (cfg : Config) (env : Env) (requested : List SNSSAISubscribed) :
    List SNSSAISubscribed :=
  if cfg.nssf then
    match env.nsSelection with
    | .ok nssfAllowed => nssfAllowed
    | .error _ => requested
  else requested

theorem run_candidateSlices (cfg : Config) (env : Env) (ue : Ptr) (s : Handler) :
    ∃ s', (candidateSlices cfg env ue).run s =
        (.ok (candidates cfg env (s.ctx ue).requestedNSSAI), s') ∧ s'.ctx ue = s.ctx ue := by
  unfold candidateSlices candidates
  split
  · cases env.nsSelection with
    | ok nssfAllowed | error err => exact ⟨_, rfl, rfl⟩
  · exact ⟨s, rfl, rfl⟩

theorem Frame.proj {τ α : Type} {π : UEContext → τ} {P : Event → Prop} {x : Proc Handler α}
    (h : Keeps (Frame π P) x) (s : Handler) (ue : Ptr) : π ((x.run s).2.ctx ue) = π (s.ctx ue) :=
  (h s).1 ue

/-- What Phase 3 does to the slices once the UDM has answered. -/
theorem standing_phase3 (cfg : Config) {env : Env} {amSub : UDMAMSubscription}
    (hsub : env.amSubscriptionData = .ok amSub) (ue : Ptr) (s : Handler) :
    (((phase3ProcessSMCComplete cfg env ue).run s).2.ctx ue).standing =
      (s.ctx ue).standing.grant cfg.nssaa
        (filterAllowedNSSAI (candidates cfg env (s.ctx ue).requestedNSSAI)
          amSub.allowedNSSAI) := by
  have hanswer : ∀ s' : Handler,
      ((answer env.amSubscriptionData).wrapErr "udm: get AM subscription").run s' =
        (.ok amSub, s') := by
    intro s'
    rw [hsub]
    rfl
  rw [phase3ProcessSMCComplete, run_load_bind, run_emit_bind, run_bind_ok (hanswer _),
    run_emit_bind]
  obtain ⟨s₂, hrun, hctx⟩ := run_candidateSlices cfg env ue
    { s with trace := s.trace ++ [_] ++ [.amSubscriptionData ue amSub] }
  rw [run_bind_ok hrun, run_update_bind]
  -- What follows leaves the standing alone.
  refine (Frame.proj (P := fun _ => True) ?_ _ ue).trans ?_
  · refine Keeps.bind (keeps_update fun _ => rfl) fun _ => ?_
    refine (keeps_assignGUTI env ue fun _ _ => rfl).bind fun guti => ?_
    refine (still_transitionTo ue _).bind fun _ => ?_
    refine (keeps_load ue).bind fun c => (keeps_emit trivial).bind fun _ => ?_
    refine Keeps.bind (keeps_update fun _ => rfl) fun _ => ?_
    refine (still_applyAMPolicy cfg env ue).bind fun _ => ?_
    refine (still_fetchUEPolicy cfg env ue).bind fun _ => ?_
    exact still_registrationAccept cfg env ue guti
  · rw [ctx_update, if_pos rfl, standing_grantSlices, hctx]
    rfl

theorem mem_allowedNSSAI_grant {nssaa : Bool} {granted : List SNSSAISubscribed}
    {st : Standing} {slice : SNSSAISubscribed}
    (h : slice ∈ (st.grant nssaa granted).allowedNSSAI) : slice ∈ granted := by
  unfold Standing.grant at h
  split at h
  · exact List.mem_of_mem_filter h
  · exact h

/-- The UE of `requesting` asked for a slice that it has no subscription for. -/
def requesting : Handler :=
  ((update 0 fun c => { c with requestedNSSAI := [{ sst := 2, sd := "000002" }] }).run
    (newHandler (Manager.newManager ⟨"001", "01", 1, 1, 1⟩ false false))).2

def selecting : Config := { Config.minimal with nssf := true }

def nssfAnswering (slices : List AuthorizedSNSSAI) : Env where
  amSubscriptionData := .ok ⟨[{ sst := 1, sd := "000001" }], 1, 1⟩
  nsSelection := nsSelection (.response 200 (.ok [slices]))

end Handler

end Claudia5gc.Amf
