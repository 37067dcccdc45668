import Claudia5gc.Smf.UpdateSMContext
import Claudia5gc.Smf.AddressConservation

/-!
# The target of a handover

An N2 handover is prepared, the target acknowledges it with a tunnel or fails, and when the UE has
arrived a COMPLETED makes the SMF switch the downlink to that tunnel.  Over every sequence of
UpdateSMContext requests on a session, a COMPLETED should switch to a tunnel that the target of the
present handover has given, and it should be answered 200 when the UPF has accepted the switch, now
or before, and only then.
-/

namespace Claudia5gc.Smf

open Go List UpdateSMContext UpdateAnswer

variable {sess' : Session} {req : UpdateSMContext} {ref : Nat}

/-! ## The system -/

structure Exchange where
  req : UpdateSMContext
  answer : UpdateAnswer
  sent : Option (UInt32 × Bytes)

namespace Exchange

def Preparing (e : Exchange) : Prop := e.req.kind = .preparing ∧ e.answer.status = 200

def Acknowledges (e : Exchange) (dlTEID : UInt32) (gnbIP : Bytes) : Prop :=
  ∃ info, e.req.kind = .reqAck info ∧ e.answer.status = 200 ∧
    decodeHandoverAck info.handoverRequestAcknowledge = .ok (gnbIP, dlTEID)

def Fails (e : Exchange) : Prop := e.req.kind = .resAllocFail

def Accepted (e : Exchange) : Prop :=
  ∃ dlTEID gnbIP, e.sent = some (dlTEID, gnbIP) ∧ e.req.switchDL dlTEID gnbIP = .accepted

end Exchange

/-- The SMF, and the requests on a session so far. -/
structure HandoverRun where
  smf : Server
  past : List Exchange := []

def HandoverRun.exchange (st : HandoverRun) (ref : Nat) (req : UpdateSMContext) : Exchange :=
  ⟨req, (st.smf.handleUpdateSMContext ref req).answer, (st.smf.handleUpdateSMContext ref req).sent⟩

def HandoverRun.next (ref : Nat) (st : HandoverRun) (req : UpdateSMContext) : HandoverRun where
  smf := (st.smf.handleUpdateSMContext ref req).smf
  past := st.past ++ [st.exchange ref req]

/-! ## What should hold -/

/-- The tunnel came in an acknowledgement after the latest PREPARING, and no failure followed. -/
def FromTarget (past : List Exchange) (dlTEID : UInt32) (gnbIP : Bytes) : Prop :=
  ∃ before ack after, past = before ++ ack :: after ∧ ack.Acknowledges dlTEID gnbIP ∧
    (∃ e ∈ before, e.Preparing) ∧ ∀ e ∈ after, ¬ e.Preparing ∧ ¬ e.Fails

/-- The UPF has accepted the switch at a COMPLETED, and since then nothing has happened to the
handover. -/
def Switched (past : List Exchange) : Prop :=
  ∃ before done after, past = before ++ done :: after ∧ done.req.kind = .completed ∧
    done.Accepted ∧ ∀ e ∈ after, ¬ e.Preparing ∧ ¬ e.Fails ∧ ∀ dlTEID gnbIP,
      ¬ e.Acknowledges dlTEID gnbIP

/-- What should hold of an exchange after those of `past`. -/
structure OnTarget (past : List Exchange) (e : Exchange) : Prop where
  target : ∀ dlTEID gnbIP, e.sent = some (dlTEID, gnbIP) → FromTarget past dlTEID gnbIP
  answered : e.answer.status = 200 ↔ e.Accepted ∨ Switched past

/-- It holds of every COMPLETED so far. -/
def AllOnTarget (past : List Exchange) : Prop :=
  ∀ before e, before ++ [e] <+: past → e.req.kind = .completed → OnTarget before e

/-- A PREPARING finds no tunnel, and an acknowledgement comes after some PREPARING. -/
def InTurn (p : Ptr) (st : HandoverRun) (req : UpdateSMContext) : Prop :=
  (req.kind = .preparing → ¬ (st.smf.heap.get p).HasTarget) ∧
    ∀ info, req.kind = .reqAck info → ∃ e ∈ st.past, e.Preparing

structure Untouched (ref : Nat) (p : Ptr) (st : HandoverRun) : Prop where
  session : st.smf.sessions.lookup ref = some p
  pending : st.smf.pendingAuth.lookup ref = none
  noTarget : ¬ (st.smf.heap.get p).HasTarget
  hoState : (st.smf.heap.get p).hoState ≠ .completed
  past : st.past = []

/-! ## What a request does to the handover -/

theorem SameHandover.hasTarget {sess : Session} (h : SameHandover sess sess') :
    sess'.HasTarget ↔ sess.HasTarget := by
  rw [Session.HasTarget, Session.HasTarget, h.gnbIP, h.dlTEID]

inductive HandoverEffect (req : UpdateSMContext) (sess : Session) (u : Updated) : Prop where
  /-- A handover begins; the tunnel stays. -/
  | prepares (kind : req.kind = .preparing) (status : u.answer.status = 200)
      (hoState : u.sess.hoState = .preparing) (gnbIP : u.sess.hoTargetGNBIP = sess.hoTargetGNBIP)
      (dlTEID : u.sess.hoTargetDLTEID = sess.hoTargetDLTEID)
  /-- The tunnel of the target comes. -/
  | acknowledges (info : N2SmInfo) (kind : req.kind = .reqAck info)
      (status : u.answer.status = 200) (hoState : u.sess.hoState = .prepared)
      (decoded : decodeHandoverAck info.handoverRequestAcknowledge =
        .ok (u.sess.hoTargetGNBIP, u.sess.hoTargetDLTEID))
  /-- The target fails. -/
  | fails (kind : req.kind = .resAllocFail) (hoState : u.sess.hoState = .none)
      (gnbIP : u.sess.hoTargetGNBIP = [])
  /-- The switch is sent and accepted. -/
  | completes (kind : req.kind = .completed) (target : sess.HasTarget)
      (running : sess.state ≠ .releasing)
      (sent : u.sent = some (sess.hoTargetDLTEID, sess.hoTargetGNBIP))
      (accepted : req.switchDL sess.hoTargetDLTEID sess.hoTargetGNBIP = .accepted)
      (status : u.answer.status = 200) (hoState : u.sess.hoState = .completed)
      (gnbIP : u.sess.hoTargetGNBIP = [])
  /-- The switch is sent and not accepted. -/
  | misses (kind : req.kind = .completed) (target : sess.HasTarget)
      (first : sess.hoState ≠ .completed)
      (sent : u.sent = some (sess.hoTargetDLTEID, sess.hoTargetGNBIP))
      (accepted : req.switchDL sess.hoTargetDLTEID sess.hoTargetGNBIP ≠ .accepted)
      (status : u.answer.status ≠ 200) (same : SameHandover sess u.sess)
  /-- The switch was done before. -/
  | repeats (kind : req.kind = .completed) (done : sess.hoState = .completed)
      (sent : u.sent = none) (status : u.answer.status = 200) (same : SameHandover sess u.sess)
  /-- A COMPLETED is refused. -/
  | refuses (kind : req.kind = .completed)
      (why : sess.state = .releasing ∨ sess.hoState ≠ .completed)
      (sent : u.sent = none) (status : u.answer.status ≠ 200) (same : SameHandover sess u.sess)
  /-- The request is not about the handover, or it is refused. -/
  | passes (kind : req.kind ≠ .completed ∧ req.kind ≠ .resAllocFail)
      (prepare : req.kind = .preparing → u.answer.status ≠ 200)
      (ack : ∀ info, req.kind = .reqAck info → u.answer.status ≠ 200)
      (same : SameHandover sess u.sess)

theorem completed_effect (hkind : req.kind = .completed)
    (sess : Session) : HandoverEffect req sess (handoverComplete req sess) := by
  unfold handoverComplete
  split
  · rename_i hreleasing
    exact .refuses hkind (Or.inl hreleasing) rfl (by simp [status]) (SameHandover.refl _)
  · rename_i hrunning
    split
    · rename_i hdone
      exact .repeats hkind hdone rfl rfl (SameHandover.refl _)
    · rename_i hfirst
      split_ifs with htarget
      · exact .refuses hkind (Or.inr hfirst) rfl (by simp [status]) (SameHandover.refl _)
      · have htarget : sess.HasTarget := by
          rw [not_or, length_eq_zero_iff] at htarget
          exact htarget
        rw [markActive_eq hrunning]
        dsimp only
        rcases pfcpSwitchDL_cases req sess sess.hoTargetDLTEID sess.hoTargetGNBIP with
          ⟨hok, haccepted⟩ | ⟨status, cause, herror, hstatus, haccepted⟩
        · rw [hok]
          exact .completes hkind htarget hrunning rfl haccepted rfl rfl rfl
        · rw [herror]
          exact .misses hkind htarget hfirst rfl haccepted hstatus ⟨rfl, rfl, rfl⟩

theorem handover_cases (req : UpdateSMContext) (p : Ptr) (sess : Session) :
    HandoverEffect req sess (updateOf req p sess) := by
  by_cases hleg : req.kind.OfHandover
  · rcases hleg with hkind | hkind | hkind | ⟨info, hkind⟩ <;> rw [updateOf, hkind] <;> dsimp only
    · unfold handoverPreparing
      split
      · exact .passes (by simp [hkind]) (fun _ => (by simp [status])) (by simp [hkind]) (.refl _)
      · split
        · exact .passes (by simp [hkind]) (fun _ => (by simp [status])) (by simp [hkind]) (.refl _)
        · exact .prepares hkind rfl rfl rfl rfl
    · exact completed_effect hkind sess
    · unfold handoverResAllocFail
      refine .fails hkind ?_ ?_ <;>
      · split <;> rfl
    · unfold handoverReqAck
      split
      · exact .passes (by simp [hkind]) (by simp [hkind]) (fun _ _ => (by simp [status])) (.refl _)
      · rename_i hdecoded
        split
        · exact .passes (by simp [hkind]) (by simp [hkind]) (fun _ _ => (by simp [status]))
            (.refl _)
        · exact .acknowledges info hkind rfl rfl hdecoded
  · -- a request that is not about the handover
    have hsame := (kept_updateOf req p sess).handover hleg
    simp only [UpdateKind.OfHandover, not_or] at hleg
    obtain ⟨hprepare, hcomplete, hfail, hack⟩ := hleg
    exact .passes ⟨hcomplete, hfail⟩ (fun h => absurd h hprepare)
      (fun info h => absurd ⟨info, h⟩ hack) hsame

/-! ## Sequences of exchanges -/

section Past

variable {past : List Exchange} {e : Exchange} {dlTEID : UInt32} {gnbIP : Bytes}

theorem FromTarget.snoc (h : FromTarget past dlTEID gnbIP) (hprepare : ¬ e.Preparing)
    (hfails : ¬ e.Fails) : FromTarget (past ++ [e]) dlTEID gnbIP := by
  obtain ⟨before, ack, after, rfl, hack, hpreparing, hafter⟩ := h
  refine ⟨before, ack, after ++ [e], by simp, hack, hpreparing, fun x hx => ?_⟩
  rcases mem_append.1 hx with hx | hx
  · exact hafter x hx
  · obtain rfl := mem_singleton.1 hx
    exact ⟨hprepare, hfails⟩

theorem FromTarget.ack (h : e.Acknowledges dlTEID gnbIP) (hpreparing : ∃ x ∈ past, x.Preparing) :
    FromTarget (past ++ [e]) dlTEID gnbIP :=
  ⟨past, e, [], rfl, h, hpreparing, fun _ hx => absurd hx (by simp)⟩

theorem not_fromTarget_of_preparing (h : e.Preparing) :
    ¬ FromTarget (past ++ [e]) dlTEID gnbIP := by
  rintro ⟨before, ack, after, hsplit, ⟨info, hkind, _⟩, _, hafter⟩
  rcases eq_nil_or_concat' after with rfl | ⟨after, x, rfl⟩
  · obtain ⟨_, rfl⟩ := append_singleton_inj.1 hsplit
    exact absurd (h.1.symm.trans hkind) (by simp)
  · rw [← cons_append, ← append_assoc] at hsplit
    obtain ⟨_, rfl⟩ := append_singleton_inj.1 hsplit
    exact (hafter e (mem_append_right _ (mem_singleton.2 rfl))).1 h

/-- An exchange that leaves the handover alone. -/
def Exchange.Quiet (e : Exchange) : Prop :=
  ¬ e.Preparing ∧ ¬ e.Fails ∧ ∀ dlTEID gnbIP, ¬ e.Acknowledges dlTEID gnbIP

theorem switched_snoc (hquiet : e.Quiet) :
    Switched (past ++ [e]) ↔ Switched past ∨ (e.req.kind = .completed ∧ e.Accepted) := by
  constructor
  · rintro ⟨before, done, after, hsplit, hkind, haccepted, hafter⟩
    rcases eq_nil_or_concat' after with rfl | ⟨after, x, rfl⟩
    · obtain ⟨_, rfl⟩ := append_singleton_inj.1 hsplit
      exact Or.inr ⟨hkind, haccepted⟩
    · rw [← cons_append, ← append_assoc] at hsplit
      obtain ⟨rfl, _⟩ := append_singleton_inj.1 hsplit
      exact Or.inl ⟨before, done, after, rfl, hkind, haccepted,
        fun y hy => hafter y (mem_append_left _ hy)⟩
  · rintro (⟨before, done, after, rfl, hkind, haccepted, hafter⟩ | ⟨hkind, haccepted⟩)
    · refine ⟨before, done, after ++ [e], by simp, hkind, haccepted, fun y hy => ?_⟩
      rcases mem_append.1 hy with hy | hy
      · exact hafter y hy
      · obtain rfl := mem_singleton.1 hy
        exact hquiet
    · exact ⟨past, e, [], rfl, hkind, haccepted, fun _ hx => absurd hx (by simp)⟩

theorem not_switched_snoc (hkind : e.req.kind ≠ .completed) (hloud : ¬ e.Quiet) :
    ¬ Switched (past ++ [e]) := by
  rintro ⟨before, done, after, hsplit, hdone, _, hafter⟩
  rcases eq_nil_or_concat' after with rfl | ⟨after, x, rfl⟩
  · obtain ⟨_, rfl⟩ := append_singleton_inj.1 hsplit
    exact hkind hdone
  · rw [← cons_append, ← append_assoc] at hsplit
    obtain ⟨_, rfl⟩ := append_singleton_inj.1 hsplit
    exact hloud (hafter e (mem_append_right _ (mem_singleton.2 rfl)))

theorem AllOnTarget.snoc (h : AllOnTarget past) (he : e.req.kind = .completed → OnTarget past e) :
    AllOnTarget (past ++ [e]) := by
  intro before x hx hkind
  rcases prefix_concat_iff.1 hx with heq | hprev
  · obtain ⟨rfl, rfl⟩ := append_singleton_inj.1 heq
    exact he hkind
  · exact h before x hprev hkind

end Past

/-! ## The session keeps track -/

structure Tracks (past : List Exchange) (sess : Session) : Prop where
  target : sess.HasTarget → FromTarget past sess.hoTargetDLTEID sess.hoTargetGNBIP
  switched : sess.hoState = .completed ↔ Switched past
  running : sess.state = .releasing → sess.hoState ≠ .completed

namespace Tracks

variable {past : List Exchange} {sess : Session} {req : UpdateSMContext} {u : Updated}

theorem onTarget (h : Tracks past sess) (heffect : HandoverEffect req sess u)
    (hkind : req.kind = .completed) : OnTarget past ⟨req, u.answer, u.sent⟩ := by
  cases heffect with
  | prepares kind => exact absurd (hkind.symm.trans kind) (by simp)
  | acknowledges info kind | fails kind => exact absurd (hkind.symm.trans kind) (by simp)
  | completes _ target _ sent accepted status =>
    refine ⟨fun dlTEID gnbIP hsent => ?_, ?_⟩
    · obtain ⟨rfl, rfl⟩ := Prod.mk.inj (Option.some.inj (sent.symm.trans hsent))
      exact h.target target
    · exact iff_of_true status (Or.inl ⟨_, _, sent, accepted⟩)
  | misses _ target first sent accepted status =>
    refine ⟨fun dlTEID gnbIP hsent => ?_, iff_of_false status ?_⟩
    · obtain ⟨rfl, rfl⟩ := Prod.mk.inj (Option.some.inj (sent.symm.trans hsent))
      exact h.target target
    · rintro (⟨dlTEID, gnbIP, hsent, haccepted⟩ | hswitched)
      · obtain ⟨rfl, rfl⟩ := Prod.mk.inj (Option.some.inj (sent.symm.trans hsent))
        exact accepted haccepted
      · exact first (h.switched.2 hswitched)
  | repeats _ done sent status =>
    refine ⟨fun dlTEID gnbIP hsent => absurd (sent.symm.trans hsent) (by simp), ?_⟩
    exact iff_of_true status (Or.inr (h.switched.1 done))
  | refuses _ why sent status =>
    refine ⟨fun dlTEID gnbIP hsent => absurd (sent.symm.trans hsent) (by simp),
      iff_of_false status ?_⟩
    rintro (⟨dlTEID, gnbIP, hsent, _⟩ | hswitched)
    · exact absurd (sent.symm.trans hsent) (by simp)
    · exact why.elim (fun hreleasing => h.running hreleasing (h.switched.2 hswitched))
        fun hnot => hnot (h.switched.2 hswitched)
  | passes kind => exact absurd hkind kind.1

theorem kept (h : Tracks past sess) {e : Exchange} (hquiet : e.Quiet)
    (hmissed : e.req.kind = .completed → ¬ e.Accepted) (hsame : SameHandover sess sess')
    (hstate : sess'.state = .releasing → sess.state = .releasing) : Tracks (past ++ [e]) sess' := by
  refine ⟨fun htarget => ?_, ?_, fun hreleasing => ?_⟩
  · rw [hsame.gnbIP, hsame.dlTEID]
    exact (h.target (hsame.hasTarget.1 htarget)).snoc hquiet.1 hquiet.2.1
  · rw [hsame.hoState, h.switched, switched_snoc hquiet]
    exact ⟨Or.inl, fun hor => hor.resolve_right fun hdone => hmissed hdone.1 hdone.2⟩
  · rw [hsame.hoState]
    exact h.running (hstate hreleasing)

theorem restarted {e : Exchange}
    (htarget : sess'.HasTarget → FromTarget (past ++ [e]) sess'.hoTargetDLTEID sess'.hoTargetGNBIP)
    (hkind : e.req.kind ≠ .completed) (hloud : ¬ e.Quiet) (hoState : sess'.hoState ≠ .completed) :
    Tracks (past ++ [e]) sess' :=
  ⟨htarget, iff_of_false hoState (not_switched_snoc hkind hloud), fun _ => hoState⟩

theorem quiet_of_completed {e : Exchange} (hkind : e.req.kind = .completed) : e.Quiet :=
  ⟨fun hp => absurd (hkind.symm.trans hp.1) (by simp),
    fun hf => absurd (hkind.symm.trans hf) (by simp),
    fun _ _ ⟨_, ha, _⟩ => absurd (hkind.symm.trans ha) (by simp)⟩

theorem next (h : Tracks past sess) (heffect : HandoverEffect req sess u)
    (hstate : u.sess.state = .releasing → sess.state = .releasing)
    (hfirst : req.kind = .preparing → ¬ sess.HasTarget)
    (hprepared : ∀ info, req.kind = .reqAck info → ∃ e ∈ past, e.Preparing) :
    Tracks (past ++ [⟨req, u.answer, u.sent⟩]) u.sess := by
  cases heffect with
  | prepares kind status hoState gnbIP dlTEID =>
    refine restarted (fun htarget => ?_) (by simp [kind]) (fun hq => hq.1 ⟨kind, status⟩)
      (by simp [hoState])
    -- the tunnel of an earlier handover would still be there
    rw [Session.HasTarget, gnbIP, dlTEID] at htarget
    exact absurd htarget (hfirst kind)
  | acknowledges info kind status hoState decoded =>
    have hack : Exchange.Acknowledges ⟨req, u.answer, u.sent⟩ u.sess.hoTargetDLTEID
        u.sess.hoTargetGNBIP := ⟨info, kind, status, decoded⟩
    exact restarted (fun _ => FromTarget.ack hack (hprepared info kind)) (by simp [kind])
      (fun hq => hq.2.2 _ _ hack) (by simp [hoState])
  | fails kind hoState gnbIP =>
    exact restarted (fun htarget => absurd gnbIP htarget.1) (by simp [kind])
      (fun hq => hq.2.1 kind) (by simp [hoState])
  | completes kind target running sent accepted status hoState gnbIP =>
    refine ⟨fun htarget => absurd gnbIP htarget.1, ?_,
      fun hreleasing => absurd (hstate hreleasing) running⟩
    rw [switched_snoc (quiet_of_completed kind)]
    exact iff_of_true hoState (Or.inr ⟨kind, _, _, sent, accepted⟩)
  | misses kind target first sent accepted status same =>
    refine h.kept (quiet_of_completed kind) (fun _ => ?_) same hstate
    rintro ⟨dlTEID, gnbIP, hsent, haccepted⟩
    obtain ⟨rfl, rfl⟩ := Prod.mk.inj (Option.some.inj (sent.symm.trans hsent))
    exact accepted haccepted
  | repeats kind done sent status same | refuses kind why sent status same =>
    refine h.kept (quiet_of_completed kind) (fun _ => ?_) same hstate
    rintro ⟨dlTEID, gnbIP, hsent, _⟩
    exact absurd (sent.symm.trans hsent) (by simp)
  | passes kind prepare ack same =>
    refine h.kept ⟨?_, kind.2, ?_⟩ (fun hcompleted => absurd hcompleted kind.1) same hstate
    · exact fun hprepares => prepare hprepares.1 hprepares.2
    · exact fun _ _ ⟨info, hinfo, hstatus, _⟩ => ack info hinfo hstatus

end Tracks

/-! ## Runs -/

structure HandoverInv (ref : Nat) (p : Ptr) (st : HandoverRun) : Prop where
  session : st.smf.sessions.lookup ref = some p
  pending : st.smf.pendingAuth.lookup ref = none
  tracks : Tracks st.past (st.smf.heap.get p)
  all : AllOnTarget st.past

theorem Untouched.inv {p : Ptr} {st : HandoverRun} (h : Untouched ref p st) :
    HandoverInv ref p st := by
  refine ⟨h.session, h.pending, ⟨fun htarget => absurd htarget h.noTarget, ?_,
    fun _ => h.hoState⟩, ?_⟩
  · refine iff_of_false h.hoState ?_
    rintro ⟨before, done, after, hsplit, _⟩
    rw [h.past] at hsplit
    exact absurd hsplit (by simp)
  · intro before e hpre
    rw [h.past] at hpre
    exact absurd hpre (by simp)

theorem HandoverInv.next {p : Ptr} {st : HandoverRun}
    (h : HandoverInv ref p st) (hturn : InTurn p st req) : HandoverInv ref p (st.next ref req) := by
  have heffect := handover_cases req p (st.smf.heap.get p)
  unfold HandoverRun.next HandoverRun.exchange
  rw [Server.handleUpdateSMContext_eq h.session h.pending req]
  refine ⟨h.session, h.pending, ?_, h.all.snoc fun hkind => h.tracks.onTarget heffect hkind⟩
  rw [Server.get_updated]
  exact h.tracks.next heffect releasing_of_updateOf hturn.1 hturn.2

/-- In every run in which a PREPARING finds no tunnel and an acknowledgement comes after some
PREPARING, every COMPLETED switches to the tunnel of the target, and is answered 200 exactly when
the UPF has accepted the switch. -/
theorem handover_on_target {ref : Nat} {p : Ptr} {start st : HandoverRun}
    (hstart : Untouched ref p start) {reqs : List UpdateSMContext}
    (run : Run ((System.ofFun (HandoverRun.next ref)).when (InTurn p)) start reqs st) :
    AllOnTarget st.past := by
  have hinv : HandoverInv ref p st := by
    refine run.invariant (I := HandoverInv ref p) hstart.inv ?_
    rintro st req _ h ⟨hturn, rfl⟩
    exact h.next hturn
  exact hinv.all

def created : HandoverRun where
  smf := Server.onePool.next (.createSMContext { dnn := "internet", n2SmInfo := .ok [] })

theorem untouched_created : Untouched 0 0 created := by
  refine ⟨by decide +kernel, by decide +kernel, ?_, by decide +kernel, rfl⟩
  have hnil : (created.smf.heap.get 0).hoTargetGNBIP = [] := by decide +kernel
  exact fun h => h.1 hnil

def prepare : UpdateSMContext := { hoState := .preparing }

def complete : UpdateSMContext := { hoState := .completed }

def acknowledge : UpdateSMContext where
  n2SmInfoType := some .handoverReqAck
  n2SmInfo := some (.ok { handoverRequestAcknowledge := .ok (some ⟨[10, 0, 0, 2], [0, 0, 0, 1]⟩) })

def oneHandover : HandoverRun :=
  [prepare, acknowledge, complete].foldl (HandoverRun.next 0) created

/-- It ends with a switch to the tunnel of the target. -/
theorem handover_on_target_oneHandover :
    oneHandover.past.getLast?.map (·.sent) = some (some (1, [10, 0, 0, 2])) ∧
      AllOnTarget oneHandover.past := by
  refine ⟨by decide +kernel, handover_on_target untouched_created (Run.foldl_allowed ?_)⟩
  refine ⟨⟨fun _ => untouched_created.noTarget, fun info h => absurd h (by simp [prepare,
    kind])⟩, ⟨fun h => ?_, fun _ _ => ?_⟩, ⟨fun h => ?_, fun info h => ?_⟩, trivial⟩
  · exact absurd h (by simp [acknowledge, kind, n1SmMsgKind, n2SmInfoKind])
  · refine ⟨created.exchange 0 prepare, mem_singleton.2 rfl, ?_, ?_⟩
    · rfl
    · decide +kernel
  · exact absurd h (by simp [complete, kind])
  · exact absurd h (by simp [complete, kind])

def preparedAgain : HandoverRun :=
  [prepare, acknowledge, prepare].foldl (HandoverRun.next 0) created

/-- A COMPLETED that comes now is answered 200, with a switch to the tunnel of the first
handover. -/
theorem switched_to_old_target : Untouched 0 0 created ∧
    (preparedAgain.exchange 0 complete).answer.status = 200 ∧
    (preparedAgain.exchange 0 complete).sent = some (1, [10, 0, 0, 2]) ∧
    ¬ AllOnTarget (preparedAgain.next 0 complete).past := by
  have hsent : (preparedAgain.exchange 0 complete).sent = some (1, [10, 0, 0, 2]) := by
    decide +kernel
  refine ⟨untouched_created, by decide +kernel, hsent, fun h => ?_⟩
  have hlast := h preparedAgain.past (preparedAgain.exchange 0 complete) (prefix_refl _) rfl
  have hpreparing : (([prepare, acknowledge].foldl (HandoverRun.next 0) created).exchange 0
      prepare).Preparing := ⟨rfl, by decide +kernel⟩
  exact not_fromTarget_of_preparing hpreparing (hlast.target _ _ hsent)

end Claudia5gc.Smf
