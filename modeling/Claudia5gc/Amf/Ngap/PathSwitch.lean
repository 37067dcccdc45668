import Claudia5gc.Amf.Ngap.Server

/-!
# Path switch

The target of an Xn handover asks for the sessions to be switched.  The request is checked at once;
the SMF is asked on the queue of the UE, the chain of next-hop keys moves on, and the Acknowledge is
built and sent, in this order.
-/

namespace Claudia5gc.Amf.Ngap

open Go List

/-! ## The request -/

structure PathSwitchLists where
  requested : List UInt8 := []
  duplicated : List UInt8 := []
  failedOnly : List UInt8 := []
  failedSeen : List UInt8 := []

namespace PathSwitchLists

def request (l : PathSwitchLists) (it : SessionItem) : PathSwitchLists :=
  if it.pduSessionID ∈ l.requested then { l with duplicated := it.pduSessionID :: l.duplicated }
  else { l with requested := l.requested ++ [it.pduSessionID] }

def fail (l : PathSwitchLists) (f : SessionItem) : PathSwitchLists :=
  let psi := f.pduSessionID
  let l := if psi ∈ l.requested ∨ psi ∈ l.failedSeen then
    { l with duplicated := psi :: l.duplicated } else l
  if psi ∈ l.failedSeen then l else
  { l with
    failedOnly := if psi ∈ l.requested then l.failedOnly else l.failedOnly ++ [psi]
    failedSeen := psi :: l.failedSeen }

def of (req : PathSwitchRequest) : PathSwitchLists :=
  req.failedToSetup.foldl fail (req.pduSessions.foldl request {})

end PathSwitchLists

def resolveAllowedNSSAI (c : UEContext) : List SNSSAISubscribed :=
  let dedupe (slices : List SNSSAISubscribed) := slices.foldl (fun out n =>
    if out.any fun m => m.sst = n.sst ∧ m.sd = n.sd then out else out ++ [n]) []
  let out := dedupe c.allowedNSSAI
  if out ≠ [] then out else
  dedupe ((c.pduSessions.keys.mergeSort.filterMap fun id =>
    (c.pduSessions.lookup id).map (·.snssai)).filter (·.sst ≠ 0))

def nhChainUsable (c : UEContext) : Bool := c.nhValid && UEContext.kamfUsable c.securityCtx.kamf

def releaseAll (cause : Cause) (psis : List UInt8) : List ReleaseItem := psis.map (⟨·, cause, []⟩)

namespace Server

def rejectPathSwitch (s : Server) (g : Ptr) (items : List ReleaseItem) (net : Net) : Server :=
  if net.built && net.sent then s.emit (.pathSwitchFailure g items) else s

def handlePathSwitchRequest (s : Server) (g : Ptr) (req : PathSwitchRequest) (net : Net) : Server :=
  let l := PathSwitchLists.of req
  match s.mgr.getByNGAPId req.sourceAMFUENGAPId with
  | none => s.rejectPathSwitch g (releaseAll .unknownLocalUENGAPID l.requested) net
  | some ue =>
    if l.duplicated ≠ [] then
      let ids := l.requested ++ l.failedOnly.filter (· ∈ l.duplicated)
      s.rejectPathSwitch g (ids.map fun id => ⟨id, if id ∈ l.duplicated then
        .multiplePDUSessionIDInstances else .miscUnspecified, []⟩) net
    else
    let known := (s.ctx ue).pduSessions.keys
    if l.requested.all (· ∉ known) then
      s.rejectPathSwitch g (releaseAll .unknownPDUSessionID l.requested) net
    else if !nhChainUsable (s.ctx ue) then
      s.rejectPathSwitch g (releaseAll .miscUnspecified l.requested) net
    else if resolveAllowedNSSAI (s.ctx ue) = [] then
      s.rejectPathSwitch g (releaseAll .miscUnspecified l.requested) net
    else s.enqueueSerial ue (.pathSwitch g req ⟨l.requested, known⟩)

/-! ## The switch -/

def xnOutcome (hooks : Hooks) (plan : PathSwitchPlan) (net : Net) (psi : UInt8) (i : Nat) :
    SessionItem ⊕ ReleaseItem :=
  if psi ∉ plan.known then .inr ⟨psi, .unknownPDUSessionID, []⟩
  else if !hooks.pathSwitch then .inl ⟨psi, []⟩
  else match net.smf i with
    | .accept transfer => .inl ⟨psi, transfer⟩
    | .reject cause transfer => .inr ⟨psi, cause, transfer⟩

def xnOutcomes (hooks : Hooks) (plan : PathSwitchPlan) (net : Net) :
    List (SessionItem ⊕ ReleaseItem) :=
  plan.requested.zipIdx.map fun (psi, i) => xnOutcome hooks plan net psi i

def findSourceGNB (s : Server) (ue : Ptr) : Option Ptr :=
  (s.gnbs.entries.find? fun e => (s.gnb e.2).ues.entries.any fun u =>
    (s.ctx u.2).amfUENGAPId = (s.ctx ue).amfUENGAPId).map (·.2)

/-- The binding to the target behind the Acknowledge. -/
def switchGNB (s : Server) (g ue : Ptr) (req : PathSwitchRequest) : Server :=
  let s := match s.findSourceGNB ue with
    | some source => s.updateGNB source (.dropUE (s.ctx ue).ranUENGAPId)
    | none => s
  let s := s.updateGNB g (.addUE req.ranUENGAPId ue)
  let s := s.updateUE ue (rebind req.ranUENGAPId req.tac)
  { s with gnbAddr := Function.update s.gnbAddr ue (s.gnb g).addr }

def completePathSwitch (hooks : Hooks) (s : Server) (g ue : Ptr) (req : PathSwitchRequest)
    (plan : PathSwitchPlan) (net : Net) : Server :=
  let outs := xnOutcomes hooks plan net
  let switched := outs.filterMap (·.getLeft?)
  let released := outs.filterMap (·.getRight?)
  if switched = [] then s.rejectPathSwitch g released net else
  let allowed := resolveAllowedNSSAI (s.ctx ue)
  let (next, c) := (s.ctx ue).nextNH
  let s := s.updateUE ue fun _ => c
  match next with
  | none => s.rejectPathSwitch g (releaseAll .miscUnspecified plan.requested) net
  | some (nh, ncc) =>
    if allowed = [] then s.rejectPathSwitch g (releaseAll .miscUnspecified plan.requested) net
    else if net.built && net.sent then
      (s.emit (.pathSwitchAck g nh ncc switched released)).switchGNB g ue req
    else s

/-! ## Consistency -/

def Divides (zs xs ys : List UInt8) : Prop :=
  ∃ marks : List (UInt8 × Bool), marks.map (·.1) = zs ∧ (marks.filter (·.2)).map (·.1) = xs ∧
    (marks.filter (!·.2)).map (·.1) = ys

def Accounts (requested : List UInt8) : Event → Prop
  | .pathSwitchAck _ _ _ switched released =>
    Divides requested (switched.map (·.pduSessionID)) (released.map (·.pduSessionID))
  | .pathSwitchFailure _ released =>
    ∃ others, released.map (·.pduSessionID) = requested ++ others ∧ ∀ psi ∈ others, psi ∉ requested
  | _ => True

def sentBetween (s s' : Server) : List Event := s'.trace.drop s.trace.length

structure Consistent (requested : List UInt8) (ue : Ptr) (s s' : Server) : Prop where
  one : (sentBetween s s').length ≤ 1
  lists : ∀ e ∈ sentBetween s s', Accounts requested e
  chain : ((s'.ctx ue).nh ≠ (s.ctx ue).nh ∨ (s'.ctx ue).ncc ≠ (s.ctx ue).ncc) ↔
    ∃ g switched released,
      .pathSwitchAck g (s'.ctx ue).nh (s'.ctx ue).ncc switched released ∈ sentBetween s s'
  unmoved : (∃ g released, .pathSwitchFailure g released ∈ sentBetween s s') →
    s'.ctx ue = s.ctx ue ∧ s'.gnbAddr = s.gnbAddr ∧ s'.gnbCtxs = s.gnbCtxs

section

variable {s s' : Server} {g ue : Ptr} {requested : List UInt8} {items : List ReleaseItem}
  {net : Net} {hooks : Hooks} {req : PathSwitchRequest} {plan : PathSwitchPlan}

theorem sentBetween_of_trace {new : List Event} (h : s'.trace = s.trace ++ new) :
    sentBetween s s' = new := by
  rw [sentBetween, h, drop_left]

theorem consistent_reject (hctx : s'.ctx ue = s.ctx ue) (haddr : s'.gnbAddr = s.gnbAddr)
    (hgnb : s'.gnbCtxs = s.gnbCtxs) (htrace : s'.trace = s.trace)
    (hitems : Accounts requested (.pathSwitchFailure g items)) :
    Consistent requested ue s (s'.rejectPathSwitch g items net) := by
  have hsent : sentBetween s (s'.rejectPathSwitch g items net) = [.pathSwitchFailure g items] ∨
      sentBetween s (s'.rejectPathSwitch g items net) = [] := by
    unfold rejectPathSwitch
    split_ifs
    · exact .inl (sentBetween_of_trace (congrArg (· ++ _) htrace))
    · exact .inr (sentBetween_of_trace (htrace.trans (append_nil _).symm))
  have hsame : (s'.rejectPathSwitch g items net).ctx ue = s.ctx ue ∧
      (s'.rejectPathSwitch g items net).gnbAddr = s.gnbAddr ∧
      (s'.rejectPathSwitch g items net).gnbCtxs = s.gnbCtxs := by
    unfold rejectPathSwitch
    split_ifs <;> exact ⟨hctx, haddr, hgnb⟩
  refine ⟨?_, ?_, ⟨fun h => ?_, ?_⟩, fun _ => hsame⟩
  · rcases hsent with h | h <;> rw [h] <;> simp
  · rcases hsent with h | h <;> rw [h]
    · exact forall_mem_singleton.mpr hitems
    · exact fun e he => absurd he not_mem_nil
  · rw [hsame.1] at h
    rcases h with h | h <;> exact absurd rfl h
  · rintro ⟨g', switched, released, hack⟩
    rcases hsent with h | h <;> rw [h] at hack <;> simp at hack

theorem accounts_releaseAll (cause : Cause) (psis : List UInt8) :
    Accounts psis (.pathSwitchFailure g (releaseAll cause psis)) := by
  refine ⟨[], ?_, fun _ h => absurd h not_mem_nil⟩
  rw [releaseAll, map_map, append_nil]
  exact map_id psis

/-! ### The request -/

theorem fail_requested (l : PathSwitchLists) (f : SessionItem) :
    (l.fail f).requested = l.requested := by
  unfold PathSwitchLists.fail
  dsimp only
  split_ifs <;> rfl

theorem fail_failedOnly {l : PathSwitchLists} (f : SessionItem)
    (h : ∀ psi ∈ l.failedOnly, psi ∉ l.requested) :
    ∀ psi ∈ (l.fail f).failedOnly, psi ∉ l.requested := by
  unfold PathSwitchLists.fail
  dsimp only
  split_ifs
  any_goals exact h
  all_goals exact forall_mem_append.mpr ⟨h, forall_mem_singleton.mpr ‹_›⟩

theorem foldl_fail (fs : List SessionItem) (l : PathSwitchLists)
    (h : ∀ psi ∈ l.failedOnly, psi ∉ l.requested) : (fs.foldl .fail l).requested = l.requested ∧
      ∀ psi ∈ (fs.foldl .fail l).failedOnly, psi ∉ l.requested := by
  induction fs generalizing l with
  | nil => exact ⟨rfl, h⟩
  | cons f fs ih =>
    have := ih (l.fail f) (by rw [fail_requested]; exact fail_failedOnly f h)
    rwa [fail_requested] at this

theorem foldl_request (its : List SessionItem) (l : PathSwitchLists) (hnodup : l.requested.Nodup) :
    (its.foldl .request l).failedOnly = l.failedOnly ∧ (its.foldl .request l).requested.Nodup ∧
      ∃ more, (its.foldl .request l).requested = l.requested ++ more ∧
        more.Sublist (its.map (·.pduSessionID)) ∧
        ∀ it ∈ its, it.pduSessionID ∈ l.requested ++ more := by
  induction its generalizing l with
  | nil => exact ⟨rfl, hnodup, [], (append_nil _).symm, .slnil, by simp⟩
  | cons it its ih =>
    rw [foldl_cons, PathSwitchLists.request]
    split_ifs with hmem
    · obtain ⟨hfailed, hnew, more, hreq, hsub, hall⟩ :=
        ih { l with duplicated := it.pduSessionID :: l.duplicated } hnodup
      refine ⟨hfailed, hnew, more, hreq, hsub.cons _, ?_⟩
      exact forall_mem_cons.mpr ⟨mem_append_left _ hmem, hall⟩
    · obtain ⟨hfailed, hnew, more, hreq, hsub, hall⟩ :=
        ih { l with requested := l.requested ++ [it.pduSessionID] }
          (concat_eq_append ▸ hnodup.concat hmem)
      refine ⟨hfailed, hnew, it.pduSessionID :: more, by simpa using hreq, hsub.cons_cons _, ?_⟩
      simp only [append_assoc, singleton_append] at hall
      exact forall_mem_cons.mpr ⟨by simp, hall⟩

theorem requested_spec (req : PathSwitchRequest) : (PathSwitchLists.of req).requested.Nodup ∧
      (PathSwitchLists.of req).requested.Sublist (req.pduSessions.map (·.pduSessionID)) ∧
      ∀ it ∈ req.pduSessions, it.pduSessionID ∈ (PathSwitchLists.of req).requested := by
  obtain ⟨hfailed, hnodup, more, hreq, hsub, hall⟩ :=
    foldl_request req.pduSessions {} nodup_nil
  have := (foldl_fail req.failedToSetup (req.pduSessions.foldl .request {})
    (by simp [hfailed])).1
  rw [PathSwitchLists.of, this]
  refine ⟨hnodup, ?_, ?_⟩ <;> rw [hreq, nil_append]
  · exact hsub
  · exact hall

theorem failedOnly_not_requested (req : PathSwitchRequest) :
    ∀ psi ∈ (PathSwitchLists.of req).failedOnly, psi ∉ (PathSwitchLists.of req).requested := by
  obtain ⟨hfailed, -⟩ := foldl_request req.pduSessions {} nodup_nil
  obtain ⟨hreq, hnot⟩ := foldl_fail req.failedToSetup (req.pduSessions.foldl .request {})
    (by simp [hfailed])
  rw [PathSwitchLists.of, hreq]
  exact hnot

theorem consistent_enqueueSerial (t : Task) (ue' : Ptr) :
    Consistent requested ue s (s.enqueueSerial ue' t) := by
  have hsent : sentBetween s (s.enqueueSerial ue' t) = [] :=
    sentBetween_of_trace (append_nil _).symm
  refine ⟨by simp [hsent], by simp [hsent], ⟨fun h => ?_, ?_⟩, fun _ => ⟨rfl, rfl, rfl⟩⟩
  · rcases h with h | h <;> exact absurd rfl h
  · simp [hsent]

/-- The checks of the request answer with a Failure, or leave the rest to the queue. -/
theorem consistent_handlePathSwitchRequest (s : Server) (g ue : Ptr) (req : PathSwitchRequest)
    (net : Net) :
    Consistent (PathSwitchLists.of req).requested ue s (s.handlePathSwitchRequest g req net) := by
  have reject : ∀ cause, Consistent (PathSwitchLists.of req).requested ue s
      (s.rejectPathSwitch g (releaseAll cause (PathSwitchLists.of req).requested) net) :=
    fun cause => consistent_reject rfl rfl rfl rfl (accounts_releaseAll cause _)
  unfold handlePathSwitchRequest
  cases s.mgr.getByNGAPId req.sourceAMFUENGAPId with
  | none => exact reject _
  | some ue' =>
    dsimp only
    split_ifs
    · refine consistent_reject rfl rfl rfl rfl ⟨_, (map_map ..).trans (map_id _), ?_⟩
      exact fun psi hpsi => failedOnly_not_requested req psi (mem_of_mem_filter hpsi)
    · exact reject _
    · exact reject _
    · exact reject _
    · exact consistent_enqueueSerial ..

theorem queue_handlePathSwitchRequest (s : Server) (g : Ptr) (req : PathSwitchRequest) (net : Net) :
    (s.handlePathSwitchRequest g req net).queue = s.queue ∨ ∃ ue' known,
      (s.handlePathSwitchRequest g req net).queue =
        s.queue ++ [(ue', .pathSwitch g req ⟨(PathSwitchLists.of req).requested, known⟩)] := by
  have reject : ∀ items, (s.rejectPathSwitch g items net).queue = s.queue := by
    intro items
    unfold rejectPathSwitch
    split_ifs <;> rfl
  unfold handlePathSwitchRequest
  cases s.mgr.getByNGAPId req.sourceAMFUENGAPId with
  | none => exact .inl (reject _)
  | some ue =>
    dsimp only
    split_ifs
    · exact .inl (reject _)
    · exact .inl (reject _)
    · exact .inl (reject _)
    · exact .inl (reject _)
    · exact .inr ⟨ue, _, rfl⟩

/-! ### The answer of the SMF -/

theorem xnOutcome_psi (hooks : Hooks) (plan : PathSwitchPlan) (net : Net) (psi : UInt8) (i : Nat) :
    (xnOutcome hooks plan net psi i).elim (·.pduSessionID) (·.pduSessionID) = psi := by
  unfold xnOutcome
  split_ifs
  · rfl
  · cases net.smf i <;> rfl
  · rfl

theorem divides_outcomes (outs : List (SessionItem ⊕ ReleaseItem)) :
    Divides (outs.map (Sum.elim (·.pduSessionID) (·.pduSessionID)))
      ((outs.filterMap (·.getLeft?)).map (·.pduSessionID))
      ((outs.filterMap (·.getRight?)).map (·.pduSessionID)) := by
  refine ⟨outs.map fun o => (o.elim (·.pduSessionID) (·.pduSessionID), o.isLeft), ?_, ?_, ?_⟩
  · rw [map_map]
    rfl
  all_goals
    induction outs with
    | nil => rfl
    | cons o outs ih => cases o <;> simpa [filterMap_cons] using ih

theorem divides_xnOutcomes (hooks : Hooks) (plan : PathSwitchPlan) (net : Net) :
    Divides plan.requested
      (((xnOutcomes hooks plan net).filterMap (·.getLeft?)).map (·.pduSessionID))
      (((xnOutcomes hooks plan net).filterMap (·.getRight?)).map (·.pduSessionID)) := by
  have := divides_outcomes (xnOutcomes hooks plan net)
  rwa [xnOutcomes, map_map, show (Sum.elim (·.pduSessionID) (·.pduSessionID) ∘
    fun (x : UInt8 × Nat) => xnOutcome hooks plan net x.1 x.2) = Prod.fst from
    funext fun x => xnOutcome_psi hooks plan net x.1 x.2, zipIdx_map_fst] at this

theorem nextNH_of_usable {c : UEContext} (h : nhChainUsable c) :
    ∃ c' : UEContext, c.nextNH = (some (c'.nh, c'.ncc), c') ∧ c'.ncc ≠ c.ncc := by
  unfold nhChainUsable at h
  refine ⟨c.nextNH.2, ?_, ?_⟩ <;> rw [UEContext.nextNH, if_pos h]
  intro hncc
  have := congrArg UInt8.toNat hncc
  simp [UEContext.nccModulus, UInt8.toNat_add, UInt8.toNat_mod] at this
  omega

theorem ctx_updateUE (f : UEContext → UEContext) : (s.updateUE ue f).ctx ue = f (s.ctx ue) :=
  Heap.get_modify_same ..

/-- The binding changes neither what was sent nor the chain of keys. -/
theorem switchGNB_spec (s : Server) (g ue : Ptr) (req : PathSwitchRequest) :
    (s.switchGNB g ue req).trace = s.trace ∧
      (s.switchGNB g ue req).ctx ue = rebind req.ranUENGAPId req.tac (s.ctx ue) := by
  unfold switchGNB
  cases s.findSourceGNB ue <;> exact ⟨rfl, ctx_updateUE _⟩

theorem not_consistent_of_moved (hncc : (s'.ctx ue).ncc ≠ (s.ctx ue).ncc)
    (hsent : ∀ g nh ncc switched released,
      .pathSwitchAck g nh ncc switched released ∉ sentBetween s s') :
    ¬ Consistent requested ue s s' := fun h =>
  have ⟨_, _, _, hack⟩ := h.chain.mp (.inr hncc)
  hsent _ _ _ _ _ hack

theorem consistent_acknowledge {c : UEContext} {switched : List SessionItem}
    {released : List ReleaseItem} (hncc : c.ncc ≠ (s.ctx ue).ncc)
    (hlists : Divides requested (switched.map (·.pduSessionID)) (released.map (·.pduSessionID))) :
    Consistent requested ue s (((s.updateUE ue fun _ => c).emit
      (.pathSwitchAck g c.nh c.ncc switched released)).switchGNB g ue req) := by
  obtain ⟨htrace, hctx⟩ := switchGNB_spec ((s.updateUE ue fun _ => c).emit
    (.pathSwitchAck g c.nh c.ncc switched released)) g ue req
  replace hctx := hctx.trans (congrArg _ (ctx_updateUE fun _ => c))
  have hsent := sentBetween_of_trace (s := s) htrace
  refine ⟨?_, ?_, ⟨fun _ => ⟨g, switched, released, ?_⟩, fun _ => .inr ?_⟩, ?_⟩
  · rw [hsent, length_singleton]
  · rw [hsent]
    exact forall_mem_singleton.mpr hlists
  · rw [hsent, hctx]
    exact mem_singleton_self _
  · rw [hctx]
    exact hncc
  · rintro ⟨g', released', hfail⟩
    simp [hsent] at hfail

theorem consistent_completePathSwitch_iff (hooks : Hooks) (s : Server) (g ue : Ptr)
    (req : PathSwitchRequest) (plan : PathSwitchPlan) (net : Net) :
    Consistent plan.requested ue s (completePathSwitch hooks s g ue req plan net) ↔
      (xnOutcomes hooks plan net).filterMap (·.getLeft?) = [] ∨ nhChainUsable (s.ctx ue) = false ∨
        (resolveAllowedNSSAI (s.ctx ue) ≠ [] ∧ net.built ∧ net.sent) := by
  have hdiv := divides_xnOutcomes hooks plan net
  unfold completePathSwitch
  by_cases hnone : (xnOutcomes hooks plan net).filterMap (·.getLeft?) = []
  case pos =>
    rw [if_pos hnone]
    refine iff_of_true (consistent_reject rfl rfl rfl rfl ⟨[], ?_, by simp⟩) (.inl hnone)
    obtain ⟨marks, hall, hleft, hright⟩ := hdiv
    rw [hnone, map_nil, map_eq_nil_iff, filter_eq_nil_iff] at hleft
    rw [append_nil, ← hright, ← hall, filter_eq_self.mpr]
    simpa using hleft
  rw [if_neg hnone]
  by_cases hchain : nhChainUsable (s.ctx ue)
  case neg =>
    have hnext : (s.ctx ue).nextNH = (none, s.ctx ue) := if_neg hchain
    rw [hnext]
    refine iff_of_true (consistent_reject (ctx_updateUE _) rfl rfl rfl (accounts_releaseAll _ _)) ?_
    exact .inr (.inl (Bool.not_eq_true _ ▸ hchain))
  obtain ⟨c, hnext, hncc⟩ := nextNH_of_usable hchain
  rw [hnext]
  dsimp only
  have hmoved : ((s.updateUE ue fun _ => c).ctx ue).ncc ≠ (s.ctx ue).ncc := by rwa [ctx_updateUE]
  by_cases hallowed : resolveAllowedNSSAI (s.ctx ue) = []
  case pos =>
    refine iff_of_false (not_consistent_of_moved ?_ ?_) (by simp [hnone, hchain, hallowed])
    all_goals unfold rejectPathSwitch; split_ifs
    · exact hmoved
    · exact hmoved
    all_goals simp [sentBetween, updateUE, emit]
  rw [if_neg hallowed]
  by_cases hsent : net.built && net.sent
  case pos =>
    rw [if_pos hsent]
    exact iff_of_true (consistent_acknowledge hncc hdiv)
      (.inr (.inr ⟨hallowed, Bool.and_eq_true_iff.mp hsent⟩))
  case neg =>
    rw [if_neg hsent]
    refine iff_of_false (not_consistent_of_moved hmoved ?_) (by simp_all)
    simp [sentBetween, updateUE]

end

def chainedUE (allowed : List SNSSAISubscribed) : Server :=
  let (ue, mgr) := (Manager.newManager ⟨"001", "01", 1, 1, 1⟩ false false).allocateUEContext 7
  (new mgr).updateUE ue fun c => { c with
    nhValid := true
    ncc := 1
    allowedNSSAI := allowed
    securityCtx := { c.securityCtx with kamf := [1] } }

/-- Session 5, which the UE has, is to be switched. -/
def switchFive : PathSwitchRequest := ⟨1, 8, [⟨5, []⟩], [], none⟩

def planFive : PathSwitchPlan := ⟨[5], [5]⟩

end Server

end Claudia5gc.Amf.Ngap
