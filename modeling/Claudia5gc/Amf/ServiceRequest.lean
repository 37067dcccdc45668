import Claudia5gc.Amf.NasHandler
import Mathlib.Data.Set.Basic

/-!
# What a Service Request comes to

The UE sends two masks of PDU session identities, and the AMF keeps a third set for the
sessions it has paged the UE for.  With masks read as sets the outcome is set algebra:
which sessions are released, which are activated, and what the Service Accept says
about either.
-/

namespace Claudia5gc.Amf

open Go Nas Proc UEContext List Option UInt8 Set

variable (cfg : Config) (ue : Ptr) {sess : PDUSession} {c : UEContext} {psi : UInt8}

/-! ## Masks as sets -/

/-- Where a mask has the bit of a session: the octet of the sessions 0 to 7 is the high
one. -/
def psiPosition (psi : UInt8) : Nat := if psi ≤ 7 then 8 + psi.toNat else psi.toNat - 8

theorem shiftRight_and_one_eq_one {mask k : UInt16} (hk : k.toNat < 16) :
    (mask >>> k) &&& 1 = 1 ↔ mask.toNat.testBit k.toNat = true := by
  rw [← UInt16.toNat_inj, UInt16.toNat_and, UInt16.toNat_shiftRight, Nat.mod_eq_of_lt hk,
    Nat.testBit_eq_decide_div_mod_eq, decide_eq_true_iff, Nat.shiftRight_eq_div_pow]
  exact Iff.of_eq (congrArg (· = 1) (Nat.and_one_is_mod _))

theorem psiInStatus_iff (mask : UInt16) (psi : UInt8) :
    psiInStatus mask psi = true ↔ psi ≤ 15 ∧ mask.toNat.testBit (psiPosition psi) = true := by
  unfold psiInStatus psiPosition
  by_cases h7 : psi ≤ 7
  · have hle : psi.toNat ≤ 7 := le_iff_toNat_le.mp h7
    have h15 : psi ≤ 15 := le_iff_toNat_le.mpr (by simp; omega)
    have hk : (8 + psi).toUInt16.toNat = 8 + psi.toNat := by
      simp
      omega
    rw [if_pos h7, if_pos h7, decide_eq_true_iff, shiftRight_and_one_eq_one (by omega), hk]
    exact (and_iff_right h15).symm
  · by_cases h15 : psi ≤ 15
    · have hlt : 7 < psi.toNat := by
        have := le_iff_toNat_le.not.mp h7
        simpa using this
      have hle : psi.toNat ≤ 15 := le_iff_toNat_le.mp h15
      have hk : (psi - 8).toUInt16.toNat = psi.toNat - 8 := by
        rw [UInt8.toNat_toUInt16, UInt8.toNat_sub_of_le]
        · rfl
        · exact le_iff_toNat_le.mpr (by simp; omega)
      rw [if_neg h7, if_neg h7, if_pos h15, decide_eq_true_iff,
        shiftRight_and_one_eq_one (by omega), hk]
      exact (and_iff_right h15).symm
    · simp [h7, h15]

def flagged (mask : UInt16) : Set UInt8 := {psi | psiInStatus mask psi = true}

/-- The identities of sessions that have a bit of their own. -/
def proper : Set UInt8 := {psi | 1 ≤ psi ∧ psi ≤ 15}

theorem flagged_zero : flagged 0 = ∅ := by
  ext psi
  simp [flagged, psiInStatus_iff]

theorem flagged_or (a b : UInt16) : flagged (a ||| b) = flagged a ∪ flagged b := by
  ext psi
  simp only [flagged, mem_ofPred_eq, mem_union, psiInStatus_iff, UInt16.toNat_or,
    Nat.testBit_or, Bool.or_eq_true]
  tauto

theorem psiBit_of_gt {q : UInt8} (h : 15 < q.toNat) : psiBit q = 0 := by
  have h15 : ¬q ≤ 15 := fun hle => by
    have := le_iff_toNat_le.mp hle
    simp at this
    omega
  have h7 : ¬q ≤ 7 := fun hle => by
    have := le_iff_toNat_le.mp hle
    simp at this
    omega
  simp [psiBit, h7, h15]

theorem mem_flagged_psiBit (q psi : UInt8) : psi ∈ flagged (psiBit q) ↔ psi = q ∧ psi ∈ proper := by
  -- Sixteen bits, and as many sessions that can be asked for.
  have hsmall : ∀ q < 16, ∀ psi < 16, psiInStatus (psiBit (ofNat q)) (ofNat psi) =
      decide (ofNat psi = ofNat q ∧ 1 ≤ ofNat psi ∧ ofNat psi ≤ 15) := by
    decide +kernel
  rcases Nat.lt_or_ge 15 q.toNat with hq | hq
  · rw [psiBit_of_gt hq, flagged_zero]
    refine iff_of_false (notMem_empty psi) ?_
    rintro ⟨rfl, -, hle⟩
    have := le_iff_toNat_le.mp hle
    simp at this
    omega
  rcases Nat.lt_or_ge 15 psi.toNat with hpsi | hpsi
  · have hnot : ¬psi ≤ 15 := fun hle => by
      have := le_iff_toNat_le.mp hle
      simp at this
      omega
    exact iff_of_false (fun h => hnot ((psiInStatus_iff _ _).mp h).1) fun h => hnot h.2.2
  · have h := hsmall q.toNat (by omega) psi.toNat (by omega)
    rw [UInt8.ofNat_toNat, UInt8.ofNat_toNat] at h
    change psiInStatus (psiBit q) psi = true ↔ _
    rw [h, decide_eq_true_iff]
    rfl

/-- `PSIMask` flags the sessions it is given, as far as there are bits for them. -/
theorem flagged_psiMask (psis : List UInt8) :
    flagged (psiMask psis) = {psi | psi ∈ psis} ∩ proper := by
  have hfold : ∀ m, flagged (psis.foldl (fun m psi => m ||| psiBit psi) m) =
      flagged m ∪ ({psi | psi ∈ psis} ∩ proper) := by
    induction psis with
    | nil => intro m; simp
    | cons q psis ih =>
      intro m
      rw [foldl_cons, ih, flagged_or]
      ext psi
      simp only [mem_union, mem_inter_iff, mem_ofPred_eq, mem_flagged_psiBit, mem_cons]
      tauto
  rw [psiMask, hfold, flagged_zero, empty_union]

/-! ## The sets that the procedure goes by -/

/-- The sessions that are flagged in a mask which may be absent. -/
def reported (status : Option UInt16) : Set UInt8 := {psi | ∃ mask ∈ status, psi ∈ flagged mask}

namespace UEContext

/-- The sessions with a context at the SMF. -/
def established (c : UEContext) : Set UInt8 :=
  {psi | ∃ sess, c.pduSessions.lookup psi = some sess ∧ sess.smfInstanceID ≠ ""}

/-- The sessions that the UE has been paged for. -/
def paged (c : UEContext) : Set UInt8 := {psi | psi ∈ c.pagedPDUSessions}

/-- The sessions that are released, because the UE sends a status and does not report
them. -/
def unreported (c : UEContext) (svcReq : ServiceRequest) : Set UInt8 :=
  {psi | psi ∈ c.established ∧ ∃ mask ∈ svcReq.pduSessionStatus, psi ∉ flagged mask}

/-- The sessions whose user plane is wanted. -/
def wanted (c : UEContext) (svcReq : ServiceRequest) : Set UInt8 :=
  (c.established \ c.unreported svcReq) ∩ (reported svcReq.uplinkDataStatus ∪ c.paged)

/-- The sessions whose user plane comes back: the SMF gives the resources for them. -/
def reestablished (cfg : Config) (env : Env) (c : UEContext) (svcReq : ServiceRequest) :
    Set UInt8 :=
  {psi | psi ∈ c.wanted svcReq ∧ cfg.activateSMContext = true ∧
    ∃ sess, c.pduSessions.lookup psi = some sess ∧
      (env.activateSMContext sess.smfInstanceID).isOk = true}

theorem mem_sortedSessions :
    (psi, sess) ∈ c.sortedSessions ↔ c.pduSessions.lookup psi = some sess := by
  rw [sortedSessions, mem_mergeSort, ← mem_def, AList.mem_lookup_iff, List.mem_map]
  constructor
  · rintro ⟨⟨psi', sess'⟩, hmem, heq⟩
    obtain ⟨rfl, rfl⟩ := Prod.mk.inj heq
    exact hmem
  · intro hmem
    exact ⟨⟨psi, sess⟩, hmem, rfl⟩

theorem mem_filter_sortedSessions {p : UInt8 × PDUSession → Bool} :
    psi ∈ (c.sortedSessions.filter p).map Prod.fst ↔
      ∃ sess, c.pduSessions.lookup psi = some sess ∧ p (psi, sess) = true := by
  rw [List.mem_map]
  constructor
  · rintro ⟨⟨psi', sess⟩, hmem, rfl⟩
    obtain ⟨hsess, hp⟩ := mem_filter.mp hmem
    exact ⟨sess, mem_sortedSessions.mp hsess, hp⟩
  · rintro ⟨sess, hsess, hp⟩
    exact ⟨(psi, sess), mem_filter.mpr ⟨mem_sortedSessions.mpr hsess, hp⟩, rfl⟩

theorem mem_sortedPaged : psi ∈ c.sortedPaged ↔ psi ∈ c.paged := by
  rw [sortedPaged, mem_mergeSort]
  exact AList.mem_keys

end UEContext

def Event.activated : Event → Option String
  | .activateSMContext ref => some ref
  | _ => none

namespace Handler

/-! ## Local release -/

structure Spares (ue : Ptr) (gone : List UInt8) (s s' : Handler) : Prop where
  lookup : ∀ psi ∉ gone, (s'.ctx ue).pduSessions.lookup psi = (s.ctx ue).pduSessions.lookup psi
  paged : (s'.ctx ue).pagedPDUSessions = (s.ctx ue).pagedPDUSessions
  trace : s'.trace = s.trace

theorem spares_dropSession (psi : UInt8) (s : Handler) :
    Spares ue [psi] s ((update ue (dropSession psi)).run s).2 := by
  have hctx := ctx_update s ue ue (dropSession psi)
  rw [if_pos rfl] at hctx
  refine ⟨fun psi' hpsi' => ?_, ?_, rfl⟩
  · rw [hctx]
    exact AList.lookup_erase_ne fun h => hpsi' (mem_singleton.mpr h)
  · rw [hctx]
    rfl

theorem run_releaseInactive (victim : UInt8 × PDUSession) (s : Handler) :
    ∃ s', (releaseInactive cfg ue victim).run s = (.ok (), s') ∧ Spares ue [victim.1] s s' := by
  have hget : (releaseInactive cfg ue victim).run s =
      (if (s.pendingRelease.lookup ((s.ctx ue).amfUENGAPId, victim.1)).isSome then
        spawn (.completeNetworkPDUSessionRelease ue victim.1)
      else do
        update ue (dropSession victim.1)
        if cfg.deleteSMContext then spawn (.deleteSMContext victim.2.smfInstanceID)).run s := rfl
  rw [hget]
  split
  · exact ⟨_, rfl, fun _ _ => rfl, rfl, rfl⟩
  · have hspares := spares_dropSession ue victim.1 s
    split
    · exact ⟨_, rfl, hspares.lookup, hspares.paged, hspares.trace⟩
    · exact ⟨_, rfl, hspares⟩

theorem run_forM_releaseInactive (victims : List (UInt8 × PDUSession)) (s : Handler) :
    ∃ s', (victims.forM (releaseInactive cfg ue)).run s = (.ok (), s') ∧
      Spares ue (victims.map Prod.fst) s s' := by
  induction victims generalizing s with
  | nil => exact ⟨s, rfl, fun _ _ => rfl, rfl, rfl⟩
  | cons victim victims ih =>
    obtain ⟨s₁, hrun, hspares⟩ := run_releaseInactive cfg ue victim s
    obtain ⟨s', hrun', hspares'⟩ := ih s₁
    refine ⟨s', ?_, fun psi hpsi => ?_, hspares'.paged.trans hspares.paged,
      hspares'.trace.trans hspares.trace⟩
    · exact (run_bind_ok hrun).trans hrun'
    · rw [map_cons, mem_cons, not_or] at hpsi
      rw [hspares'.lookup psi hpsi.2, hspares.lookup psi (by simpa using hpsi.1)]

theorem run_releaseInactivePDUSessions (svcReq : ServiceRequest) (s : Handler) :
    ∃ released s', (releaseInactivePDUSessions cfg ue svcReq.pduSessionStatus).run s =
        (.ok released, s') ∧
      (∀ psi, psi ∈ released ↔ psi ∈ (s.ctx ue).unreported svcReq) ∧ Spares ue released s s' := by
  cases hstatus : svcReq.pduSessionStatus with
  | none =>
    refine ⟨[], s, rfl, fun psi => ?_, fun _ _ => rfl, rfl, rfl⟩
    simp [unreported, hstatus]
  | some mask =>
    obtain ⟨s', hrun, hspares⟩ := run_forM_releaseInactive cfg ue
      ((s.ctx ue).sortedSessions.filter fun e =>
        e.2.smfInstanceID ≠ "" && !psiInStatus mask e.1) s
    refine ⟨_, s', ?_, fun psi => ?_, hspares⟩
    · rw [releaseInactivePDUSessions, run_load_bind, run_bind_ok hrun]
      rfl
    · rw [mem_filter_sortedSessions]
      simp only [unreported, established, hstatus, flagged,
        mem_ofPred_eq, mem_def, some.injEq, exists_eq_left', Bool.and_eq_true,
        decide_eq_true_eq, Bool.not_eq_true', Bool.not_eq_true, ← and_assoc, exists_and_right]

/-! ## Activation -/

def setupItem (target : UInt8 × PDUSession) (transfer : Bytes) : PDUSessionSetupItemCxtReq where
  pduSessionID := target.1
  sst := target.2.snssai.sst
  sd := match hexDecode target.2.snssai.sd with
    | (b, false) => if b.length = 3 then b else []
    | (_, true) => []
  transfer := transfer

def setupItems (env : Env) (targets : List (UInt8 × PDUSession)) : List PDUSessionSetupItemCxtReq :=
  targets.filterMap fun target =>
    match env.activateSMContext target.2.smfInstanceID with
    | .ok transfer => some (setupItem target transfer)
    | .error _ => none

theorem run_activateTargets (env : Env) (targets : List (UInt8 × PDUSession)) (s : Handler) :
    (activateTargets env targets).run s = (.ok (setupItems env targets),
      { s with trace := s.trace ++
          targets.map fun target => .activateSMContext target.2.smfInstanceID }) := by
  induction targets generalizing s with
  | nil => simp [activateTargets, setupItems]
  | cons target targets ih =>
    obtain ⟨psi, sess⟩ := target
    rw [activateTargets, run_emit_bind, run_bind_ok (ih _)]
    cases hanswer : env.activateSMContext sess.smfInstanceID with
    | ok transfer =>
      have hitems : setupItems env ((psi, sess) :: targets) =
          setupItem (psi, sess) transfer :: setupItems env targets := by
        simp [setupItems, hanswer]
      rw [hitems]
      simp only [map_cons, append_assoc, singleton_append]
      rfl
    | error e => simp [setupItems, hanswer]

theorem mem_setupItems {env : Env} {targets : List (UInt8 × PDUSession)} :
    psi ∈ (setupItems env targets).map (·.pduSessionID) ↔
      ∃ sess, (psi, sess) ∈ targets ∧ (env.activateSMContext sess.smfInstanceID).isOk = true := by
  simp only [setupItems, List.mem_map, mem_filterMap]
  constructor
  · rintro ⟨item, ⟨⟨psi', sess⟩, hmem, hitem⟩, rfl⟩
    cases hanswer : env.activateSMContext sess.smfInstanceID with
    | ok transfer =>
      rw [hanswer] at hitem
      obtain rfl := some.inj hitem
      exact ⟨sess, hmem, by rw [hanswer]; rfl⟩
    | error e =>
      rw [hanswer] at hitem
      cases hitem
  · rintro ⟨sess, hmem, hok⟩
    cases hanswer : env.activateSMContext sess.smfInstanceID with
    | ok transfer => exact ⟨_, ⟨(psi, sess), hmem, by rw [hanswer]⟩, rfl⟩
    | error e =>
      rw [hanswer] at hok
      cases hok

def activationTargets (cfg : Config) (c : UEContext) (uplinkDataStatus : Option UInt16)
    (released : List UInt8) : List (UInt8 × PDUSession) :=
  if cfg.activateSMContext then
    c.sortedSessions.filter fun (psi, sess) =>
      sess.smfInstanceID ≠ "" &&
        ((uplinkDataStatus.any fun mask => psiInStatus mask psi) || psi ∈ c.sortedPaged) &&
        psi ∉ released
  else []

def activatedState (ue : Ptr) (targets : List (UInt8 × PDUSession)) (s : Handler) : Handler :=
  { ((update ue fun c => { c with pagedPDUSessions := ∅ }).run s).2 with
    trace := s.trace ++ targets.map fun target => .activateSMContext target.2.smfInstanceID }

theorem ctx_activatedState (targets : List (UInt8 × PDUSession)) (s : Handler) :
    (activatedState ue targets s).ctx ue = { s.ctx ue with pagedPDUSessions := ∅ } := by
  have hctx := ctx_update s ue ue fun c => { c with pagedPDUSessions := ∅ }
  rw [if_pos rfl] at hctx
  exact hctx

theorem run_activatePDUSessions (env : Env) (ue : Ptr) (uplinkDataStatus : Option UInt16)
    (released : List UInt8) (s : Handler) :
    (activatePDUSessions cfg env ue uplinkDataStatus released).run s =
      (.ok (setupItems env (activationTargets cfg (s.ctx ue) uplinkDataStatus released)),
        activatedState ue (activationTargets cfg (s.ctx ue) uplinkDataStatus released) s) := by
  have htake : (takePagedPDUSessions ue).run s = (.ok (s.ctx ue).sortedPaged,
        ((update ue fun c => { c with pagedPDUSessions := ∅ }).run s).2) := rfl
  rw [activatePDUSessions, run_bind_ok htake]
  by_cases hnone : uplinkDataStatus = none ∧ (s.ctx ue).sortedPaged = []
  · -- Without a mask and without paging there is no target.
    have htargets : activationTargets cfg (s.ctx ue) uplinkDataStatus released = [] := by
      simp [activationTargets, hnone.1, hnone.2]
    rw [if_pos hnone, htargets, activatedState, map_nil, append_nil]
    rfl
  · rw [if_neg hnone]
    by_cases hsender : cfg.activateSMContext = true
    · rw [if_neg (by simp [hsender]), run_load_bind, run_activateTargets, ctx_update, if_pos rfl,
        activationTargets, if_pos hsender]
      rfl
    · have htargets : activationTargets cfg (s.ctx ue) uplinkDataStatus released = [] :=
        if_neg hsender
      rw [if_pos (by simp [hsender]), htargets, activatedState, map_nil, append_nil]
      rfl

theorem mem_activationTargets {cfg : Config} {uplinkDataStatus : Option UInt16}
    {released : List UInt8} : (psi, sess) ∈ activationTargets cfg c uplinkDataStatus released ↔
      cfg.activateSMContext = true ∧ c.pduSessions.lookup psi = some sess ∧
        sess.smfInstanceID ≠ "" ∧ psi ∈ reported uplinkDataStatus ∪ c.paged ∧ psi ∉ released := by
  unfold activationTargets
  by_cases hsender : cfg.activateSMContext = true
  · have hreported : (uplinkDataStatus.any fun mask => psiInStatus mask psi) = true ↔
        psi ∈ reported uplinkDataStatus := by
      simp [reported, flagged, Option.any_eq_true]
    rw [if_pos hsender, mem_filter, mem_sortedSessions]
    simp only [Bool.and_eq_true, Bool.or_eq_true, decide_eq_true_eq, hreported,
      mem_sortedPaged, mem_union, hsender, true_and, and_assoc]
  · simp [hsender]

/-! ## The Service Accept -/

def answerServiceRequest (env : Env) (ue : Ptr) (kgnb : Bytes) (accept : ServiceAccept)
    (pduSessions : List PDUSessionSetupItemCxtReq) : Proc Handler Unit := do
  let nasPDU ← (sendNASSecured ue (.serviceAccept accept)).wrapErr
    "service request: encode Service Accept"
  (sendInitialContextSetupRequest env ue nasPDU kgnb pduSessions).wrapErr
    "service request: SendInitialContextSetupRequest"
  setConnected ue
  notifyUEReachable ue

structure Resolves (cfg : Config) (env : Env) (c : UEContext) (svcReq : ServiceRequest)
    (accept : ServiceAccept) (pduSessions : List PDUSessionSetupItemCxtReq) : Prop where
  status : accept.pduSessionStatus.isSome = svcReq.pduSessionStatus.isSome ∧
    ∀ mask ∈ accept.pduSessionStatus, flagged mask = (c.established ∩ proper) \ c.unreported svcReq
  activated : ∀ psi, psi ∈ pduSessions.map (·.pduSessionID) ↔ psi ∈ c.reestablished cfg env svcReq
  result : accept.pduSessionReactivationResult.isSome = svcReq.uplinkDataStatus.isSome ∧
    ∀ mask ∈ accept.pduSessionReactivationResult,
      flagged mask = (reported svcReq.uplinkDataStatus ∩ proper) \ c.reestablished cfg env svcReq

theorem mem_counted : psi ∈ (range 15).map (fun i => ofNat (i + 1)) ↔ psi ∈ proper := by
  rw [List.mem_map]
  constructor
  · rintro ⟨i, hi, rfl⟩
    have hall : ∀ i < 15, 1 ≤ ofNat (i + 1) ∧ ofNat (i + 1) ≤ 15 := by decide
    exact hall i (mem_range.mp hi)
  · rintro ⟨hone, hle⟩
    have hone' : 1 ≤ psi.toNat := le_iff_toNat_le.mp hone
    have hle' : psi.toNat ≤ 15 := le_iff_toNat_le.mp hle
    refine ⟨psi.toNat - 1, mem_range.mpr (by omega), ?_⟩
    rw [Nat.sub_add_cancel hone', UInt8.ofNat_toNat]

section Resolution

variable {cfg : Config} {env : Env} {c c₁ : UEContext} {svcReq : ServiceRequest}
  {released : List UInt8} (hreleased : ∀ psi, psi ∈ released ↔ psi ∈ c.unreported svcReq)
  (hlookup : ∀ psi ∉ released, c₁.pduSessions.lookup psi = c.pduSessions.lookup psi)

include hreleased hlookup

theorem mem_established_diff (psi : UInt8) : psi ∈ c.established \ c.unreported svcReq ↔
      ∃ sess, c₁.pduSessions.lookup psi = some sess ∧ sess.smfInstanceID ≠ "" ∧ psi ∉ released := by
  rw [mem_sdiff, ← hreleased]
  constructor
  · rintro ⟨⟨sess, hsess, hne⟩, hnot⟩
    exact ⟨sess, (hlookup psi hnot).trans hsess, hne, hnot⟩
  · rintro ⟨sess, hsess, hne, hnot⟩
    exact ⟨⟨sess, (hlookup psi hnot).symm.trans hsess, hne⟩, hnot⟩

section

variable (hpaged : c₁.pagedPDUSessions = c.pagedPDUSessions)
include hpaged

theorem wanted_of_mem_activationTargets :
    (psi, sess) ∈ activationTargets cfg c₁ svcReq.uplinkDataStatus released ↔
      cfg.activateSMContext = true ∧ psi ∈ c.wanted svcReq ∧
        c.pduSessions.lookup psi = some sess := by
  have hunion : reported svcReq.uplinkDataStatus ∪ c₁.paged =
      reported svcReq.uplinkDataStatus ∪ c.paged := by
    rw [paged, hpaged]
    rfl
  rw [mem_activationTargets, hunion, wanted, mem_inter_iff,
    mem_established_diff hreleased hlookup]
  constructor
  · rintro ⟨hsender, hsess, hne, hmem, hnot⟩
    exact ⟨hsender, ⟨⟨sess, hsess, hne, hnot⟩, hmem⟩, (hlookup psi hnot).symm.trans hsess⟩
  · rintro ⟨hsender, ⟨⟨sess', hsess', hne, hnot⟩, hmem⟩, hsess⟩
    obtain rfl : sess' = sess := some.inj (hsess'.symm.trans ((hlookup psi hnot).trans hsess))
    exact ⟨hsender, hsess', hne, hmem, hnot⟩

theorem mem_reestablished :
    psi ∈ (setupItems env (activationTargets cfg c₁ svcReq.uplinkDataStatus released)).map
        (·.pduSessionID) ↔ psi ∈ c.reestablished cfg env svcReq := by
  rw [mem_setupItems]
  constructor
  · rintro ⟨sess, hmem, hok⟩
    obtain ⟨hsender, hwanted, hsess⟩ :=
      (wanted_of_mem_activationTargets hreleased hlookup hpaged).mp hmem
    exact ⟨hwanted, hsender, sess, hsess, hok⟩
  · rintro ⟨hwanted, hsender, sess, hsess, hok⟩
    exact ⟨sess, (wanted_of_mem_activationTargets hreleased hlookup hpaged).mpr
      ⟨hsender, hwanted, hsess⟩, hok⟩

theorem resolves_buildServiceAccept : Resolves cfg env c svcReq
      (buildServiceAccept { c₁ with pagedPDUSessions := ∅ } svcReq released
        (setupItems env (activationTargets cfg c₁ svcReq.uplinkDataStatus released)))
      (setupItems env (activationTargets cfg c₁ svcReq.uplinkDataStatus released)) := by
  refine ⟨⟨isSome_map, ?_⟩, fun psi => mem_reestablished hreleased hlookup hpaged, ⟨isSome_map, ?_⟩⟩
  · intro m hm
    obtain ⟨mask, -, rfl⟩ := map_eq_some_iff.mp hm
    rw [flagged_psiMask]
    ext psi
    have hdiff := mem_established_diff hreleased hlookup psi
    have hmem : psi ∈ ((sortedSessions { c₁ with pagedPDUSessions := ∅ }).filter
        fun (psi, sess) => sess.smfInstanceID ≠ "" && psi ∉ released).map Prod.fst ↔
        ∃ sess, c₁.pduSessions.lookup psi = some sess ∧ sess.smfInstanceID ≠ "" ∧
          psi ∉ released := by
      rw [mem_filter_sortedSessions]
      simp
    simp only [mem_inter_iff, mem_ofPred_eq, mem_sdiff] at hdiff ⊢
    rw [hmem, ← hdiff]
    tauto
  · intro m hm
    obtain ⟨mask, hmask, rfl⟩ := map_eq_some_iff.mp hm
    rw [flagged_psiMask]
    ext psi
    have hreported : psi ∈ reported svcReq.uplinkDataStatus ↔ psiInStatus mask psi = true := by
      rw [hmask]
      simp [reported, flagged]
    have hre : psi ∈ (setupItems env
        (activationTargets cfg c₁ svcReq.uplinkDataStatus released)).map (·.pduSessionID) ↔ _ :=
      mem_reestablished hreleased hlookup hpaged
    simp only [mem_inter_iff, mem_ofPred_eq, mem_sdiff, mem_filter,
      mem_counted, Bool.and_eq_true, decide_eq_true_eq, hreported, hre]
    tauto

end

end Resolution

/-! ## The whole procedure -/

/-- Nothing else is activated, and no session is left that the UE has been paged for. -/
structure Closes (ue : Ptr) (s s' : Handler) : Prop where
  events : Emits (fun e => e.activated = none) s s'
  paged : (s.ctx ue).pagedPDUSessions = ∅ → (s'.ctx ue).pagedPDUSessions = ∅

instance (ue : Ptr) : Std.Refl (Closes ue) := ⟨fun _ => ⟨Emits.of_eq rfl, id⟩⟩

instance (ue : Ptr) : IsTrans Handler (Closes ue) :=
  ⟨fun _ _ _ h₁ h₂ => ⟨h₁.events.trans h₂.events, fun h => h₂.paged (h₁.paged h)⟩⟩

theorem closes_of_frame {ue : Ptr} {α : Type} {x : Proc Handler α}
    (h : Keeps (Frame pagedPDUSessions fun e => e.activated = none) x) : Keeps (Closes ue) x :=
  fun s => ⟨(h s).2, fun hempty => ((h s).1 ue).trans hempty⟩

theorem closes_answerServiceRequest (env : Env) (ue : Ptr) (kgnb : Bytes) (accept : ServiceAccept)
    (pduSessions : List PDUSessionSetupItemCxtReq) :
    Keeps (Closes ue) (answerServiceRequest env ue kgnb accept pduSessions) := by
  have hsecured : Keeps (Closes ue) (sendNASSecured ue (.serviceAccept accept)) :=
    closes_of_frame (keeps_sendNASSecured_of ue _ fun _ => rfl)
  refine (hsecured.wrapErr _).bind fun nasPDU => ?_
  have hsetup : Keeps (Closes ue)
      (sendInitialContextSetupRequest env ue nasPDU kgnb pduSessions) :=
    closes_of_frame ((keeps_load ue).bind fun c => keeps_send env rfl)
  have hconnected : Keeps (Closes ue) (setConnected ue) :=
    closes_of_frame (keeps_update fun _ => rfl)
  have hnotify : Keeps (Closes ue) (notifyUEReachable ue) := by
    intro s
    refine ⟨Emits.of_eq rfl, fun _ => ?_⟩
    have hctx := ctx_update s ue ue fun c => { c with pagedPDUSessions := ∅ }
    rw [if_pos rfl] at hctx
    exact congrArg pagedPDUSessions hctx
  exact (hsetup.wrapErr _).bind fun _ => hconnected.bind fun _ => hnotify

theorem spares_refreshKgNB (ue : Ptr) (s : Handler) :
    ∃ kgnb s', (refreshKgNB ue).run s = (.ok kgnb, s') ∧ Spares ue [] s s' := by
  refine ⟨_, _, rfl, ?_⟩
  have hctx := ctx_update s ue ue fun c => c.setKgNB
    (Crypto.kgnb (s.ctx ue).securityCtx.kamf ((s.ctx ue).securityCtx.uplinkCount - 1) 0x01)
  rw [if_pos rfl] at hctx
  refine ⟨fun psi _ => ?_, ?_, rfl⟩
  · refine (congrArg (fun c : UEContext => c.pduSessions.lookup psi) hctx).trans ?_
    unfold setKgNB
    split <;> rfl
  · refine (congrArg pagedPDUSessions hctx).trans ?_
    unfold setKgNB
    split <;> rfl

end Handler

end Claudia5gc.Amf
