import Claudia5gc.Smf.UpdateSMContext
import Claudia5gc.Smf.N4

/-!
# The user plane at the SMF and at the UPF

The SMF keeps for a session whether its user plane is active, and tells the UPF to forward the
downlink in the tunnel to a gNB or to drop it.  The answer of a gNB to the resource setup and a
deactivation change the state at once and leave the PFCP request to a goroutine; a path switch and
the end of a handover send it themselves, and put the old state back when it fails.
-/

namespace Claudia5gc.Upf

open Go

def Session.downlink (s : Session) : Option (UInt32 × Bytes) :=
  if s.dlTEID = 0 ∨ s.gnbIP = [] then none else some (s.dlTEID, s.gnbIP)

theorem next_updateFAR {s : Server} {seid : UInt64} {u : Ptr}
    (hu : s.bySEID.lookup seid = some u) (far : Grouped) (now : Int64) :
    s.dispatch (.modification ⟨seid, [.updateFAR far]⟩ now) =
      .ok (⟨(s.heap.get u).cpSEID, .requestAccepted, []⟩,
        { s with heap := s.heap.modify u fun sess => Server.applyUpdateFAR sess far }) := by
  unfold Server.dispatch Server.handleSessionModification
  dsimp only
  rw [hu]
  rfl

end Claudia5gc.Upf

namespace Claudia5gc.Smf

open Go

theorem downlink_switch (s : Upf.Session) {dlTEID : UInt32} {gnbIP : Bytes} (hteid : dlTEID ≠ 0)
    (hip : gnbIP ≠ []) : (Upf.Server.applyUpdateFAR s (buildDLSwitchFAR dlTEID gnbIP)).downlink =
      some (dlTEID, gnbIP) := by
  show (if dlTEID = 0 ∨ gnbIP = [] then none else some (dlTEID, gnbIP)) = _
  rw [if_neg (by simp [hteid, hip])]

theorem downlink_drop (s : Upf.Session) :
    (Upf.Server.applyUpdateFAR s buildDLDropFAR).downlink = none := rfl

/-! ## The system -/

/-- How a PFCP request that the SMF waits for fares: it is answered, it is lost, or it arrives
when the SMF no longer waits. -/
inductive Link where
  | answered
  | lost
  | late
  deriving DecidableEq

def causeValue : Upf.Cause → UInt8
  | .requestAccepted => 1
  | .sessionContextNotFound => 65
  | .mandatoryIEMissing => 66
  | .mandatoryIEIncorrect => 69
  | .ruleCreationModificationFailure => 73

/-- The SMF and the UPF, the Update FARs that are late, and the tunnel accepted last. -/
structure UserPlane where
  smf : Server
  upf : Upf.Server
  late : List Upf.Grouped := []
  accepted : Option (UInt32 × Bytes) := none

namespace UserPlane

def farRequest (seid : UInt64) (far : Upf.Grouped) (now : Int64) : Upf.Request :=
  .modification ⟨seid, [.updateFAR far]⟩ now

variable (st : UserPlane)

def answer (seid : UInt64) (far : Upf.Grouped) (now : Int64) : Link → N4Answer
  | .answered =>
    match st.upf.dispatch (farRequest seid far now) with
    | .ok (resp, _) =>
      if resp.cause = .requestAccepted then .accepted else .rejected (causeValue resp.cause)
    | _ => .timeout
  | .lost | .late => .timeout

def send (seid : UInt64) (far : Upf.Grouped) (now : Int64) : Link → UserPlane
  | .answered => { st with upf := st.upf.next (farRequest seid far now) }
  | .lost => st
  | .late => { st with late := st.late ++ [far] }

/-- The tunnel that a request has got accepted. -/
def acceptedBy (req : UpdateSMContext) (h : Handled) : Option (UInt32 × Bytes) :=
  if h.answer.status ≠ 200 then none
  else
    match req.kind with
    | .setupResponse info =>
      match extractGNBTunnelInfo info.setupResponse with
      | .ok (gnbIP, dlTEID) => some (dlTEID, gnbIP)
      | .error _ => none
    | _ => h.sent

/-- The request, with what becomes of a switch that is sent for it. -/
def asked (p : Ptr) (req : UpdateSMContext) (link : Link) (now : Int64) : UpdateSMContext :=
  let switchDL := fun dlTEID gnbIP =>
    st.answer (st.smf.heap.get p).seid (buildDLSwitchFAR dlTEID gnbIP) now link
  { req with switchDL := switchDL }

inductive Label where
  | update (req : UpdateSMContext) (link : Link) (now : Int64)
  | deliver (task : Task) (link : Link) (released : Bool) (now : Int64)
  | arrive (far : Upf.Grouped) (now : Int64)

def runTask (task : Task) (link : Link) (released : Bool) (now : Int64) : UserPlane :=
  match task with
  | .runTargetFailedAction p release =>
    let seid := (st.smf.heap.get p).seid
    let (sends, smf) := (st.smf.finish task).runTargetFailedAction p release released
      (st.answer seid buildDLDropFAR now link)
    { (if sends then st.send seid buildDLDropFAR now link else st) with smf := smf }
  | task =>
    { st with
      smf := st.smf.finish task
      upf :=
        match task.request st.smf now with
        | some req => st.upf.next req
        | none => st.upf }

def next (ref : Nat) (p : Ptr) (st : UserPlane) : Label → UserPlane
  | .update req link now =>
    let h := st.smf.handleUpdateSMContext ref (st.asked p req link now)
    let sent :=
      match h.sent with
      | some (dlTEID, gnbIP) =>
        st.send (st.smf.heap.get p).seid (buildDLSwitchFAR dlTEID gnbIP) now link
      | none => st
    { sent with smf := h.smf, accepted := (acceptedBy req h).orElse fun _ => st.accepted }
  | .deliver task link released now =>
    if task ∈ st.smf.tasks then st.runTask task link released now else st
  | .arrive far now =>
    if far ∈ st.late then
      { st with
        late := st.late.erase far
        upf := st.upf.next (farRequest (st.smf.heap.get p).seid far now) }
    else st

/-! ## What should hold -/

def Agrees (state : SessionState) (downlink accepted : Option (UInt32 × Bytes)) : Prop :=
  match accepted with
  | none => downlink = none
  | some tunnel =>
    (downlink = some tunnel ↔ state = .active) ∧ (downlink = none ↔ state = .idle)

/-- When everything has arrived, the SMF and the UPF agree. -/
def InAgreement (p : Ptr) (st : UserPlane) : Prop :=
  st.smf.tasks = [] → st.late = [] → ∃ u, st.upf.bySEID.lookup (st.smf.heap.get p).seid = some u ∧
      Agrees (st.smf.heap.get p).state (st.upf.heap.get u).downlink st.accepted

def HasTEID (req : UpdateSMContext) : Prop :=
  (∀ info gnbIP dlTEID, req.kind = .setupResponse info →
    extractGNBTunnelInfo info.setupResponse = .ok (gnbIP, dlTEID) → dlTEID ≠ 0) ∧
  ∀ info gnbIP dlTEID, req.kind = .pathSwitchReq info →
    extractPathSwitchTunnelInfo info.pathSwitchRequest = .ok (gnbIP, dlTEID) → dlTEID ≠ 0

/-- PFCP requests arrive in the order in which they were started, and in time; no tunnel has TEID
zero; and the gNB answers when no action after a failed handover is under way. -/
def InOrder : Label → Prop
  | .update req link _ => HasTEID req ∧
    (req.kind = .completed ∨ (∃ info, req.kind = .pathSwitchReq info) →
      st.smf.tasks = [] ∧ link ≠ .late) ∧
    ∀ info, req.kind = .setupResponse info →
      ∀ q release, Task.runTargetFailedAction q release ∉ st.smf.tasks
  | .deliver task link _ _ => st.smf.tasks.head? = some task ∧ link ≠ .late
  | .arrive _ _ => True

structure Attached (ref : Nat) (p : Ptr) (st : UserPlane) : Prop where
  session : st.smf.sessions.lookup ref = some p
  pending : st.smf.pendingAuth.lookup ref = none
  running : (st.smf.heap.get p).state ≠ .releasing
  tasks : st.smf.tasks = []
  late : st.late = []
  agrees : ∃ u, st.upf.bySEID.lookup (st.smf.heap.get p).seid = some u ∧
    Agrees (st.smf.heap.get p).state (st.upf.heap.get u).downlink st.accepted

/-! ## What is under way -/

inductive Sends (p : Ptr) : Task → Prop where
  | switch {dlTEID : UInt32} {gnbIP : Bytes} (teid : dlTEID ≠ 0) (ip : gnbIP ≠ []) :
      Sends p (.sendPFCPSessionModification p dlTEID gnbIP)
  | drop : Sends p (.sendPFCPSessionDeactivation p)
  | targetFailed (release : Bool) : Sends p (.runTargetFailedAction p release)

/-- The SMF and the UPF agree when the tasks have run in their order, whichever of the actions
after a failed handover have an effect. -/
def Settles (accepted : Option (UInt32 × Bytes)) :
    SessionState → Option (UInt32 × Bytes) → List Task → Prop
  | state, downlink, [] => Agrees state downlink accepted
  | state, _, .sendPFCPSessionModification _ dlTEID gnbIP :: tasks =>
    Settles accepted state (some (dlTEID, gnbIP)) tasks
  | state, _, .sendPFCPSessionDeactivation _ :: tasks => Settles accepted state none tasks
  | state, downlink, .runTargetFailedAction _ _ :: tasks =>
    Settles accepted state downlink tasks ∧ Settles accepted .idle none tasks
  | _, _, _ :: _ => False

theorem agrees_idle (accepted : Option (UInt32 × Bytes)) : Agrees .idle none accepted := by
  cases accepted <;> simp [Agrees]

theorem agrees_active (tunnel : UInt32 × Bytes) : Agrees .active (some tunnel) (some tunnel) := by
  simp [Agrees]

section Settles

variable {p : Ptr} {tasks : List Task} {accepted : Option (UInt32 × Bytes)}

theorem settles_switch {dlTEID : UInt32} {gnbIP : Bytes} (hsends : ∀ t ∈ tasks, Sends p t)
    (hplain : ∀ q release, Task.runTargetFailedAction q release ∉ tasks)
    (downlink : Option (UInt32 × Bytes)) : Settles (some (dlTEID, gnbIP)) .active downlink
      (tasks ++ [.sendPFCPSessionModification p dlTEID gnbIP]) := by
  induction tasks generalizing downlink with
  | nil => exact agrees_active _
  | cons t tasks ih =>
    have ih := ih (fun x hx => hsends x (List.mem_cons_of_mem _ hx))
      fun q release hx => hplain q release (List.mem_cons_of_mem _ hx)
    cases hsends t List.mem_cons_self with
    | switch | drop => exact ih _
    | targetFailed release => exact absurd List.mem_cons_self (hplain p release)

theorem settles_drop (hsends : ∀ t ∈ tasks, Sends p t) (downlink : Option (UInt32 × Bytes)) :
    Settles accepted .idle downlink (tasks ++ [.sendPFCPSessionDeactivation p]) := by
  induction tasks generalizing downlink with
  | nil => exact agrees_idle _
  | cons t tasks ih =>
    have ih := ih fun x hx => hsends x (List.mem_cons_of_mem _ hx)
    cases hsends t List.mem_cons_self with
    | switch | drop => exact ih _
    | targetFailed release => exact ⟨ih _, ih _⟩

theorem Settles.targetFailed {state : SessionState} {downlink : Option (UInt32 × Bytes)}
    (h : Settles accepted state downlink tasks) (hsends : ∀ t ∈ tasks, Sends p t) (release : Bool) :
    Settles accepted state downlink (tasks ++ [.runTargetFailedAction p release]) := by
  induction tasks generalizing state downlink with
  | nil => exact ⟨h, agrees_idle _⟩
  | cons t tasks ih =>
    have hsends' := fun x hx => hsends x (List.mem_cons_of_mem t hx)
    cases hsends t List.mem_cons_self with
    | switch | drop => exact ih h hsends'
    | targetFailed _ => exact ⟨ih h.1 hsends', ih h.2 hsends'⟩

end Settles

/-! ## Steps -/

structure Inv (ref : Nat) (p u : Ptr) (st : UserPlane) : Prop where
  session : st.smf.sessions.lookup ref = some p
  pending : st.smf.pendingAuth.lookup ref = none
  running : (st.smf.heap.get p).state ≠ .releasing
  late : st.late = []
  upf : st.upf.bySEID.lookup (st.smf.heap.get p).seid = some u
  sends : ∀ t ∈ st.smf.tasks, Sends p t
  settles : Settles st.accepted (st.smf.heap.get p).state (st.upf.heap.get u).downlink
    st.smf.tasks

section Step

variable {ref : Nat} {p u : Ptr} {st : UserPlane} {req : UpdateSMContext} {link : Link}
  {now : Int64}

theorem next_farRequest {upf : Upf.Server} {seid : UInt64} {u : Ptr}
    (hu : upf.bySEID.lookup seid = some u) (far : Upf.Grouped) (now : Int64) :
    upf.next (farRequest seid far now) =
      { upf with heap := upf.heap.modify u fun sess => Upf.Server.applyUpdateFAR sess far } := by
  unfold Upf.Server.next farRequest
  rw [Upf.next_updateFAR hu]

section

variable (h : Inv ref p u st)
include h

theorem Inv.answer (far : Upf.Grouped) (now : Int64) :
    st.answer (st.smf.heap.get p).seid far now .answered = .accepted := by
  unfold UserPlane.answer farRequest
  rw [Upf.next_updateFAR h.upf]
  rfl

theorem Inv.get_next (far : Upf.Grouped) (now : Int64) :
    (st.upf.next (farRequest (st.smf.heap.get p).seid far now)).bySEID.lookup
        (st.smf.heap.get p).seid = some u ∧
      (st.upf.next (farRequest (st.smf.heap.get p).seid far now)).heap.get u =
        Upf.Server.applyUpdateFAR (st.upf.heap.get u) far := by
  rw [next_farRequest h.upf]
  refine ⟨h.upf, ?_⟩
  rw [Heap.get_modify_same]

theorem Inv.updated {v : Updated} {upf : Upf.Server}
    {accepted : Option (UInt32 × Bytes)} {state : SessionState} {tasks : List Task}
    (hseid : v.sess.seid = (st.smf.heap.get p).seid) (hstate : v.sess.state = state)
    (htasks : v.tasks = tasks) (hrunning : state ≠ .releasing)
    (hupf : upf.bySEID.lookup (st.smf.heap.get p).seid = some u) (hsends : ∀ t ∈ tasks, Sends p t)
    (hsettles : Settles accepted state (upf.heap.get u).downlink (st.smf.tasks ++ tasks)) :
    Inv ref p u { st with smf := st.smf.updated p v, upf := upf, accepted := accepted } := by
  subst hstate htasks
  refine ⟨h.session, h.pending, ?_, h.late, ?_, ?_, ?_⟩
  · rwa [Server.get_updated]
  · rwa [Server.get_updated, hseid]
  · intro t ht
    rcases List.mem_append.1 ht with ht | ht
    · exact h.sends t ht
    · exact hsends t ht
  · rw [Server.get_updated]
    exact hsettles

/-- Nothing is started, and the session and the UPF stay as they are. -/
theorem Inv.kept {v : Updated} (hseid : v.sess.seid = (st.smf.heap.get p).seid)
    (hstate : v.sess.state = (st.smf.heap.get p).state) (htasks : v.tasks = []) :
    Inv ref p u { st with smf := st.smf.updated p v } := by
  refine h.updated hseid hstate htasks h.running h.upf (List.forall_mem_nil _) ?_
  rw [List.append_nil]
  exact h.settles

end

theorem acceptedBy_eq_none {h : Handled} (hsent : h.sent = none)
    (hother : ∀ info, req.kind = .setupResponse info → h.answer.status ≠ 200) :
    acceptedBy req h = none := by
  unfold acceptedBy
  split_ifs with hstatus
  · rfl
  · split
    · rename_i info hkind
      exact absurd (hother info hkind) hstatus
    · exact hsent

theorem acceptedBy_sent {h : Handled} {tunnel : UInt32 × Bytes} (hstatus : h.answer.status = 200)
    (hsent : h.sent = some tunnel) (hother : ∀ info, req.kind ≠ .setupResponse info) :
    acceptedBy req h = some tunnel := by
  unfold acceptedBy
  rw [if_neg (by simp [hstatus])]
  split
  · rename_i info hkind
    exact absurd hkind (hother info)
  · exact hsent

section

variable (h : Inv ref p u st)
include h

theorem Inv.next_update (req : UpdateSMContext) (link : Link) (now : Int64)
    {v : Updated} (hv : v = updateOf (st.asked p req link now) p (st.smf.heap.get p)) :
    st.next ref p (.update req link now) = { (match v.sent with
          | some (dlTEID, gnbIP) =>
            st.send (st.smf.heap.get p).seid (buildDLSwitchFAR dlTEID gnbIP) now link
          | none => st) with
        smf := st.smf.updated p v
        accepted := (acceptedBy req ⟨v.answer, st.smf.updated p v, v.sent⟩).orElse
          fun _ => st.accepted } := by
  unfold next
  dsimp only
  rw [Server.handleUpdateSMContext_eq h.session h.pending, ← hv]

theorem Inv.update (horder : st.InOrder (.update req link now)) :
    Inv ref p u (st.next ref p (.update req link now)) := by
  obtain ⟨⟨hsetupTEID, hswitchTEID⟩, halone, hplain⟩ := horder
  obtain ⟨heffect, hseid, _⟩ := kept_updateOf (st.asked p req link now) p (st.smf.heap.get p)
  have hsetup : ∀ info, (st.asked p req link now).kind = .setupResponse info →
      (updateOf (st.asked p req link now) p (st.smf.heap.get p)).answer.status = 200 →
      ∃ dlTEID gnbIP, (updateOf (st.asked p req link now) p (st.smf.heap.get p)).tasks =
        [.sendPFCPSessionModification p dlTEID gnbIP] :=
    fun info hkind => tasks_of_setupResponse hkind
  rw [h.next_update req link now rfl]
  generalize updateOf (st.asked p req link now) p (st.smf.heap.get p) = v at *
  -- without a new tunnel the accepted one stays
  have hkeep : v.sent = none → (∀ dlTEID gnbIP,
      v.tasks ≠ [.sendPFCPSessionModification p dlTEID gnbIP]) →
      acceptedBy req ⟨v.answer, st.smf.updated p v, v.sent⟩ = none := by
    intro hsent htasks
    refine acceptedBy_eq_none hsent fun info hkind hstatus => ?_
    obtain ⟨dlTEID, gnbIP, hstarted⟩ := hsetup info hkind hstatus
    exact htasks dlTEID gnbIP hstarted
  cases heffect with
  | keeps state tasks sent =>
    rw [hkeep sent (by simp [tasks]), sent]
    exact h.kept hseid state tasks
  | switches dlTEID gnbIP tunnel running sent accepted status state tasks =>
    have hkind : req.kind = .completed ∨ ∃ info, req.kind = .pathSwitchReq info :=
      tunnel.imp And.left fun ⟨info, hinfo, _⟩ => ⟨info, hinfo⟩
    obtain ⟨hquiet, _⟩ := halone hkind
    -- the UPF has answered, so the request has arrived
    have hlink : link = .answered := by
      cases link with
      | answered => rfl
      | lost | late => exact absurd accepted (by simp [asked, UserPlane.answer])
    subst hlink
    have htunnel : dlTEID ≠ 0 ∧ gnbIP ≠ [] := by
      rcases tunnel with ⟨_, htarget, rfl, rfl⟩ | ⟨info, hinfo, hdecoded⟩
      · exact ⟨htarget.2, htarget.1⟩
      · exact ⟨hswitchTEID info gnbIP dlTEID hinfo hdecoded, ne_nil_of_tunnelInfo hdecoded⟩
    have haccepted : acceptedBy req ⟨v.answer, st.smf.updated p v, v.sent⟩ =
        some (dlTEID, gnbIP) := by
      refine acceptedBy_sent status sent fun info hinfo => ?_
      rcases hkind with hkind | ⟨_, hkind⟩ <;> exact absurd (hkind.symm.trans hinfo) (by simp)
    rw [haccepted, sent]
    obtain ⟨hupf, hget⟩ := h.get_next (buildDLSwitchFAR dlTEID gnbIP) now
    refine h.updated hseid state tasks nofun hupf (List.forall_mem_nil _) ?_
    dsimp only [send]
    rw [hget, downlink_switch _ htunnel.1 htunnel.2, hquiet]
    exact agrees_active _
  | misses dlTEID gnbIP tunnel running sent accepted status state tasks =>
    have hkind : req.kind = .completed ∨ ∃ info, req.kind = .pathSwitchReq info :=
      tunnel.imp And.left fun ⟨info, hinfo, _⟩ => ⟨info, hinfo⟩
    -- the UPF would have accepted, so the request is lost
    have hlink : link = .lost := by
      cases link with
      | answered => exact absurd (h.answer (buildDLSwitchFAR dlTEID gnbIP) now) accepted
      | lost => rfl
      | late => exact absurd rfl (halone hkind).2
    subst hlink
    have haccepted : acceptedBy req ⟨v.answer, st.smf.updated p v, v.sent⟩ = none :=
      if_pos status
    rw [haccepted, sent]
    exact h.kept hseid state tasks
  | activates info kind dlTEID gnbIP tunnel running status state tasks sent =>
    have hteid := hsetupTEID info gnbIP dlTEID kind tunnel
    have hip := ne_nil_of_tunnelInfo tunnel
    have haccepted : acceptedBy req ⟨v.answer, st.smf.updated p v, v.sent⟩ =
        some (dlTEID, gnbIP) := by
      have hkind : req.kind = .setupResponse info := kind
      unfold acceptedBy
      rw [if_neg (by simp [status]), hkind]
      dsimp only
      rw [tunnel]
    rw [haccepted, sent]
    exact h.updated hseid state tasks nofun h.upf (List.forall_mem_singleton.2 (.switch hteid hip))
      (settles_switch h.sends (hplain info kind) _)
  | idles kind state tasks sent =>
    rw [if_neg h.running] at state
    rw [hkeep sent (by simp [tasks]), sent]
    exact h.updated hseid state tasks nofun h.upf (List.forall_mem_singleton.2 .drop)
      (settles_drop h.sends _)
  | targetFailed release running state tasks sent =>
    rw [hkeep sent (by simp [tasks]), sent]
    exact h.updated hseid state tasks h.running h.upf
      (List.forall_mem_singleton.2 (.targetFailed release))
      (h.settles.targetFailed h.sends release)

theorem Inv.finish {task : Task} {tasks : List Task}
    (htasks : st.smf.tasks = task :: tasks) {state : SessionState} {upf : Upf.Server}
    (hrunning : state ≠ .releasing) (hupf : upf.bySEID.lookup (st.smf.heap.get p).seid = some u)
    (hsettles : Settles st.accepted state (upf.heap.get u).downlink tasks) {heap : Heap Session}
    (hheap : heap.get p = { st.smf.heap.get p with state := state }) :
    Inv ref p u { st with smf := { st.smf.finish task with heap := heap }, upf := upf } := by
  have hfinish : (st.smf.finish task).tasks = tasks := by
    rw [Server.finish, htasks, List.erase_cons_head]
  refine ⟨h.session, h.pending, ?_, h.late, ?_, ?_, ?_⟩
  · rwa [hheap]
  · rwa [hheap]
  · rw [hfinish]
    exact fun t ht => h.sends t (htasks ▸ List.mem_cons_of_mem _ ht)
  · rw [hfinish, hheap]
    exact hsettles

theorem Inv.deliver {task : Task} {released : Bool}
    (horder : st.InOrder (.deliver task link released now)) :
    Inv ref p u (st.next ref p (.deliver task link released now)) := by
  obtain ⟨hhead, hlate⟩ := horder
  obtain ⟨tasks, htasks⟩ := List.head?_eq_some_iff.1 hhead
  have hmem : task ∈ st.smf.tasks := by rw [htasks]; exact List.mem_cons_self
  have hsettles := h.settles
  rw [htasks] at hsettles
  -- the session of the SMF stays as it is
  have hsame : st.smf.heap.get p = { st.smf.heap.get p with state := (st.smf.heap.get p).state } :=
    rfl
  simp only [next, if_pos hmem]
  cases h.sends task hmem with
  | switch teid ip =>
    rename_i dlTEID gnbIP
    obtain ⟨hupf, hget⟩ := h.get_next (buildDLSwitchFAR dlTEID gnbIP) now
    have hrequest : (Task.sendPFCPSessionModification p dlTEID gnbIP).request st.smf now =
        some (farRequest (st.smf.heap.get p).seid (buildDLSwitchFAR dlTEID gnbIP) now) :=
      if_neg h.running
    unfold runTask
    dsimp only
    rw [hrequest]
    refine h.finish htasks h.running hupf ?_ hsame
    rw [hget, downlink_switch _ teid ip]
    exact hsettles
  | drop =>
    obtain ⟨hupf, hget⟩ := h.get_next buildDLDropFAR now
    have hrequest : (Task.sendPFCPSessionDeactivation p).request st.smf now =
        some (farRequest (st.smf.heap.get p).seid buildDLDropFAR now) := if_neg h.running
    unfold runTask
    dsimp only
    rw [hrequest]
    refine h.finish htasks h.running hupf ?_ hsame
    rw [hget, downlink_drop]
    exact hsettles
  | targetFailed release =>
    have hrunning : ((st.smf.finish (.runTargetFailedAction p release)).heap.get p).state ≠
        .releasing := h.running
    unfold runTask Server.runTargetFailedAction
    dsimp only
    by_cases hreleased : release = true ∧ released = true
    · rw [if_pos hreleased]
      exact h.finish htasks h.running h.upf hsettles.1 hsame
    · rw [if_neg hreleased, if_neg hrunning]
      cases link with
      | late => exact absurd rfl hlate
      | lost => exact h.finish htasks h.running h.upf hsettles.1 hsame
      | answered =>
        obtain ⟨hupf, hget⟩ := h.get_next buildDLDropFAR now
        rw [h.answer]
        refine h.finish htasks (show SessionState.idle ≠ .releasing from nofun) hupf ?_ ?_
        · rw [hget, downlink_drop]
          exact hsettles.2
        · rw [Heap.get_modify_same, if_neg hrunning]
          rfl

theorem Inv.next (l : Label) (horder : st.InOrder l) : Inv ref p u (st.next ref p l) := by
  cases l with
  | update req link now => exact h.update horder
  | deliver task link released now => exact h.deliver horder
  | arrive far now =>
    have hnone : far ∉ st.late := by simp [h.late]
    simp only [UserPlane.next, if_neg hnone]
    exact h

end

end Step

theorem Attached.inv {ref : Nat} {p : Ptr} {st : UserPlane} (h : Attached ref p st) :
    ∃ u, Inv ref p u st := by
  obtain ⟨u, hu, hagrees⟩ := h.agrees
  refine ⟨u, h.session, h.pending, h.running, h.late, hu, ?_, ?_⟩
  · simp [h.tasks]
  · rw [h.tasks]
    exact hagrees

/-- In every run in which the PFCP requests arrive in order and in time and no tunnel has TEID
zero, the SMF and the UPF agree whenever everything has arrived. -/
theorem user_plane_agrees {ref : Nat} {p : Ptr} {start st : UserPlane}
    (hstart : Attached ref p start) {labels : List Label}
    (run : Run ((System.ofFun (UserPlane.next ref p)).when InOrder) start labels st) :
    InAgreement p st := by
  obtain ⟨u, hinv⟩ := hstart.inv
  have hinv : Inv ref p u st := by
    refine run.invariant (I := Inv ref p u) hinv ?_
    rintro st l _ h ⟨horder, rfl⟩
    exact h.next l horder
  intro htasks _
  refine ⟨u, hinv.upf, ?_⟩
  have hsettles := hinv.settles
  rw [htasks] at hsettles
  exact hsettles

def established : UserPlane where
  smf := ([N4.create, N4.establish 0].foldl N4.next N4.start).smf
  upf := ([N4.create, N4.establish 0].foldl N4.next N4.start).upf

theorem attached_established : Attached 0 0 established := by
  refine ⟨by decide +kernel, by decide +kernel, by decide +kernel, by decide +kernel, rfl,
    0, by decide +kernel, ?_⟩
  show (established.upf.heap.get 0).downlink = none
  decide +kernel

def gnbAnswers : Label :=
  .update { n2SmInfo := some (.ok { setupResponse := .ok (some ⟨[10, 0, 0, 2], [0, 0, 0, 1]⟩) }) }
    .answered 0

def deactivates : Label := .update { upCnxState := some .deactivated } .answered 0

def switchArrives : Label :=
  .deliver (.sendPFCPSessionModification 0 1 [10, 0, 0, 2]) .answered false 0

def dropArrives : Label := .deliver (.sendPFCPSessionDeactivation 0) .answered false 0

/-- The UE becomes active and idle, and the requests arrive in their order. -/
def activeAndIdle : UserPlane :=
  [gnbAnswers, deactivates, switchArrives, dropArrives].foldl (UserPlane.next 0 0) established

/-- The SMF and the UPF agree. -/
theorem user_plane_agrees_activeAndIdle :
    activeAndIdle.smf.tasks = [] ∧ activeAndIdle.accepted = some (1, [10, 0, 0, 2]) ∧
      InAgreement 0 activeAndIdle := by
  refine ⟨by decide +kernel, by decide +kernel,
    user_plane_agrees attached_established (Run.foldl_allowed ?_)⟩
  refine ⟨⟨⟨?_, ?_⟩, ?_, ?_⟩, ⟨⟨?_, ?_⟩, ?_, ?_⟩, ⟨?_, by decide⟩, ⟨?_, by decide⟩, trivial⟩
  · rintro info gnbIP dlTEID hkind hdecoded
    obtain rfl := UpdateKind.setupResponse.inj hkind
    obtain ⟨_, rfl⟩ := Prod.mk.inj (Except.ok.inj hdecoded)
    decide
  · exact fun info _ _ hkind => by cases hkind
  · rintro (hkind | ⟨_, hkind⟩) <;> cases hkind
  · intro _ _ q release
    have htasks : established.smf.tasks = [] := by decide +kernel
    rw [htasks]
    exact List.not_mem_nil
  · exact fun info _ _ hkind => by cases hkind
  · exact fun info _ _ hkind => by cases hkind
  · rintro (hkind | ⟨_, hkind⟩) <;> cases hkind
  · exact fun info hkind => by cases hkind
  · decide +kernel
  · decide +kernel

/-- The same, but the deactivation arrives first. -/
def overtaken : UserPlane :=
  [gnbAnswers, deactivates, dropArrives, switchArrives].foldl (UserPlane.next 0 0) established

/-- Everything has arrived, and the UPF forwards the downlink of an idle session. -/
theorem idle_and_forwarding : Attached 0 0 established ∧ overtaken.smf.tasks = [] ∧
    (overtaken.smf.heap.get 0).state = .idle ∧
    (overtaken.upf.heap.get 0).downlink = some (1, [10, 0, 0, 2]) ∧ ¬ InAgreement 0 overtaken := by
  refine ⟨attached_established, by decide +kernel, by decide +kernel, by decide +kernel,
    fun h => ?_⟩
  obtain ⟨u, hu, hagrees⟩ := h (by decide +kernel) (by decide +kernel)
  have hlookup : overtaken.upf.bySEID.lookup (overtaken.smf.heap.get 0).seid = some 0 := by
    decide +kernel
  obtain rfl := Option.some.inj (hlookup.symm.trans hu)
  have haccepted : overtaken.accepted = some (1, [10, 0, 0, 2]) := by decide +kernel
  rw [haccepted] at hagrees
  have hactive := hagrees.1.1 (by decide +kernel)
  exact absurd hactive (by decide +kernel)

end UserPlane

end Claudia5gc.Smf
