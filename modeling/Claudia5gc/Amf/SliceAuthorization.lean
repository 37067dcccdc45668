import Claudia5gc.Amf.Refinement
import Mathlib.Order.CompletePartialOrder
import Mathlib.Data.Set.BooleanAlgebra
import Mathlib.Data.Set.Insert

/-!
# Allowed and rejected slices

A slice is allowed by a registration or by a success of its own authentication, and it is rejected
by a failure or a revocation.  A ledger keeps both sets, and the verdicts in the order in which they
were given.
-/

namespace Claudia5gc.Amf

open Go Nas Proc Handler List Set

/-! ## Ledgers -/

structure Ledger (κ : Type) where
  allowed : Set κ
  rejected : Set κ
  verdicts : List (κ × Bool)

namespace Ledger

variable {κ : Type} {l l' : Ledger κ} {k : κ}

def LastVerdict (verdicts : List (κ × Bool)) (k : κ) (verdict : Bool) : Prop :=
  ∃ before after, verdicts = before ++ (k, verdict) :: after ∧ ∀ v ∈ after, v.1 ≠ k

theorem lastVerdict_append_singleton {verdicts : List (κ × Bool)} {k k' : κ}
    {verdict verdict' : Bool} (h : LastVerdict (verdicts ++ [(k', verdict')]) k verdict) :
    k' = k ∧ verdict' = verdict ∨ k' ≠ k ∧ LastVerdict verdicts k verdict := by
  obtain ⟨before, after, heq, hafter⟩ := h
  cases after using reverseRecOn with
  | nil =>
    obtain ⟨-, hlast⟩ := append_inj' heq rfl
    obtain ⟨hk, hv⟩ := Prod.mk.inj (cons.inj hlast).1
    exact .inl ⟨hk, hv⟩
  | append_singleton after v _ =>
    have heq' : verdicts ++ [(k', verdict')] = (before ++ (k, verdict) :: after) ++ [v] := by
      rw [heq, append_assoc, cons_append]
    obtain ⟨hverdicts, hlast⟩ := append_inj' heq' rfl
    have hv : (k', verdict') = v := (cons.inj hlast).1
    refine .inr ⟨?_, before, after, hverdicts, fun w hw => hafter w ?_⟩
    · have hne := hafter v (mem_append_right _ (mem_singleton_self v))
      rw [← hv] at hne
      exact hne
    · exact mem_append_left _ hw

/-- What happens to a ledger, under the two conditions. -/
inductive Step : Ledger κ → Ledger κ → Prop
  | grant (l : Ledger κ) (slices : Set κ) (h : Disjoint slices l.rejected) :
    Step l { l with allowed := slices }
  | accept (l : Ledger κ) (k : κ) :
    Step l ⟨insert k l.allowed, l.rejected \ {k}, l.verdicts ++ [(k, true)]⟩
  | refuse (l : Ledger κ) (k : κ) (h : k ∉ l.allowed) :
    Step l ⟨l.allowed, insert k l.rejected, l.verdicts ++ [(k, false)]⟩
  | revoke (l : Ledger κ) (k : κ) :
    Step l ⟨l.allowed \ {k}, insert k l.rejected, l.verdicts ++ [(k, false)]⟩

structure Consistent (l : Ledger κ) : Prop where
  disjoint : Disjoint l.allowed l.rejected
  rejected : ∀ k, LastVerdict l.verdicts k false → k ∈ l.rejected

theorem Consistent.step (h : Consistent l) (step : Step l l') : Consistent l' := by
  cases step with
  | grant slices hdisjoint => exact ⟨hdisjoint, h.rejected⟩
  | accept k =>
    constructor
    · rw [disjoint_insert_left]
      exact ⟨fun hk => hk.2 rfl, h.disjoint.mono_right fun _ hk => hk.1⟩
    · intro k' hlast
      rcases lastVerdict_append_singleton hlast with ⟨-, hv⟩ | ⟨hne, hlast⟩
      · cases hv
      · exact ⟨h.rejected k' hlast, fun hk => hne hk.symm⟩
  | refuse k hk =>
    constructor
    · exact disjoint_insert_right.mpr ⟨hk, h.disjoint⟩
    · intro k' hlast
      rcases lastVerdict_append_singleton hlast with ⟨rfl, -⟩ | ⟨-, hlast⟩
      · exact mem_insert _ _
      · exact mem_insert_of_mem _ (h.rejected k' hlast)
  | revoke k =>
    constructor
    · rw [disjoint_insert_right]
      exact ⟨fun hk => hk.2 rfl, h.disjoint.mono_left fun _ hk => hk.1⟩
    · intro k' hlast
      rcases lastVerdict_append_singleton hlast with ⟨rfl, -⟩ | ⟨-, hlast⟩
      · exact mem_insert _ _
      · exact mem_insert_of_mem _ (h.rejected k' hlast)

end Ledger

/-! ## The system -/

/-- A slice is its SST and its SD; the rest of an entry does not count. -/
def SNSSAISubscribed.key (s : SNSSAISubscribed) : UInt8 × String := (s.sst, s.sd)

/-- The operations on the slices of a UE. -/
inductive SliceInput where
  /-- The Allowed NSSAI of a registration, from any candidates and any subscription. -/
  | compute (candidates subscribed : List SNSSAISubscribed)
  | start
  | complete (msg : NSSAAuth) (env : Env)
  | revoke (sst : UInt8) (sd : String)
  | reauth (sst : UInt8) (sd : String)

structure SliceRounds where
  amf : Handler
  verdicts : List ((UInt8 × String) × Bool)

namespace SliceRounds

/-- The verdict of a COMPLETE that was processed. -/
def closing (c : UEContext) : Outcome NSSAACompleteOutcome → List ((UInt8 × String) × Bool)
  | .ok out => c.nssaaInProgress.toList.map fun slice => (slice.key, out.allowedChanged)
  | _ => []

/-- A revocation that took place counts as a negative verdict. -/
def revoking (k : UInt8 × String) : Outcome Bool → List ((UInt8 × String) × Bool)
  | .ok true => [(k, false)]
  | _ => []

def next (cfg : Config) (ue : Ptr) (s : SliceRounds) : SliceInput → SliceRounds
  | .compute candidates subscribed =>
    { s with
      amf := ((update ue (grantSlices cfg candidates subscribed)).run s.amf).2 }
  | .start => { s with amf := ((startNSSAACommand cfg ue).run s.amf).2 }
  | .complete msg env =>
    let r := (processNSSAAComplete cfg env ue msg).run s.amf
    ⟨r.2, s.verdicts ++ closing (s.amf.ctx ue) r.1⟩
  | .revoke sst sd =>
    let r := (revokeNSSAA ue sst sd).run s.amf
    ⟨r.2, s.verdicts ++ revoking (sst, sd) r.1⟩
  | .reauth sst sd => { s with amf := ((reauthNSSAA ue sst sd).run s.amf).2 }

def Orderly (cfg : Config) (ue : Ptr) : SliceRounds → SliceInput → Prop
  | s, .compute candidates subscribed =>
    ∀ a ∈ (grantSlices cfg candidates subscribed (s.amf.ctx ue)).allowedNSSAI,
      ∀ r ∈ (s.amf.ctx ue).rejectedNSSAI, a.key ≠ r.key
  | s, .complete msg env =>
    ∀ slice, (s.amf.ctx ue).nssaaInProgress = some slice → toNASSNSSAI slice = msg.snssai →
      (relayNSSAA env (s.amf.ctx ue).nssaaEAPID).1 = false →
      ∀ a ∈ (s.amf.ctx ue).allowedNSSAI, a.key ≠ slice.key
  | _, _ => True

/-! ## The lists as a ledger -/

variable (slices : List SNSSAISubscribed)

def keys : Set (UInt8 × String) :=
  { k | ∃ s ∈ slices, s.key = k }

def ledger (c : UEContext) (verdicts : List ((UInt8 × String) × Bool)) : Ledger (UInt8 × String) :=
  ⟨keys c.allowedNSSAI, keys c.rejectedNSSAI, verdicts⟩

theorem sameSubscribed_iff {a b : SNSSAISubscribed} :
    sameSubscribed a b = true ↔ a.key = b.key := by
  simp [sameSubscribed, SNSSAISubscribed.key]

theorem keys_dropSlice (s : SNSSAISubscribed) :
    keys (dropSlice slices s) = keys slices \ {s.key} := by
  ext k
  constructor
  · intro ⟨a, ha, hk⟩
    obtain ⟨ha, hne⟩ := mem_filter.mp ha
    rw [Bool.not_eq_true', ← Bool.not_eq_true, sameSubscribed_iff] at hne
    refine ⟨⟨a, ha, hk⟩, fun hks => hne ?_⟩
    rw [hk]
    exact hks
  · intro ⟨⟨a, ha, hk⟩, hne⟩
    refine ⟨a, mem_filter.mpr ⟨ha, ?_⟩, hk⟩
    rw [Bool.not_eq_true', ← Bool.not_eq_true, sameSubscribed_iff, hk]
    exact hne

theorem keys_appendSlice (s : SNSSAISubscribed) :
    keys (appendSlice slices s) = insert s.key (keys slices) := by
  unfold appendSlice
  split
  · next hany =>
    obtain ⟨a, ha, hsame⟩ := any_eq_true.mp hany
    rw [insert_eq_of_mem]
    exact ⟨a, ha, sameSubscribed_iff.mp hsame⟩
  · ext k
    constructor
    · intro ⟨a, ha, hk⟩
      rcases mem_append.mp ha with ha | ha
      · exact .inr ⟨a, ha, hk⟩
      · rw [mem_singleton.mp ha] at hk
        exact .inl hk.symm
    · intro hk
      rcases hk with rfl | ⟨a, ha, hk⟩
      · exact ⟨s, mem_append_right _ (mem_singleton_self s), rfl⟩
      · exact ⟨a, mem_append_left _ ha, hk⟩

theorem ledger_closeSlice (authorized : Bool) (slice : SNSSAISubscribed) (c : UEContext)
    (verdicts : List ((UInt8 × String) × Bool))
    (h : authorized = false → ∀ a ∈ c.allowedNSSAI, a.key ≠ slice.key) :
    Ledger.Step (ledger c verdicts)
      (ledger (closeSlice authorized slice c) (verdicts ++ [(slice.key, authorized)])) := by
  cases authorized with
  | true =>
    have hstep := Ledger.Step.accept (ledger c verdicts) slice.key
    rw [ledger, ← keys_appendSlice, ← keys_dropSlice] at hstep
    exact hstep
  | false =>
    have hnot : slice.key ∉ keys c.allowedNSSAI := fun ⟨a, ha, hk⟩ => h rfl a ha hk
    have hstep := Ledger.Step.refuse (ledger c verdicts) slice.key hnot
    rw [ledger, ← keys_appendSlice] at hstep
    exact hstep

theorem ledger_revokeSlice (target : SNSSAISubscribed) (c : UEContext)
    (verdicts : List ((UInt8 × String) × Bool)) : Ledger.Step (ledger c verdicts)
      (ledger (revokeSlice target c) (verdicts ++ [(target.key, false)])) := by
  have hstep := Ledger.Step.revoke (ledger c verdicts) target.key
  rw [ledger, ← keys_appendSlice, ← keys_dropSlice] at hstep
  exact hstep

/-! ## The operations on the ledger -/

def lists (c : UEContext) : List SNSSAISubscribed × List SNSSAISubscribed :=
  (c.allowedNSSAI, c.rejectedNSSAI)

theorem ledger_of_lists {c c' : UEContext} (h : lists c = lists c')
    (verdicts : List ((UInt8 × String) × Bool)) : ledger c verdicts = ledger c' verdicts := by
  obtain ⟨hallowed, hrejected⟩ := Prod.mk.inj h
  rw [ledger, hallowed, hrejected, ledger]

theorem lists_beginFirstPending {ue : Ptr} {s t : Handler} {next : Option NSSAAuth}
    (h : (beginFirstPending ue).run s = (.ok next, t)) : lists (t.ctx ue) = lists (s.ctx ue) := by
  rcases run_beginFirstPending ue s with
    ⟨-, hrun⟩ | ⟨slice, rest, cmd, t', -, hrun, hctx⟩
  · rw [(Prod.mk.inj (h.symm.trans hrun)).2]
  · rw [(Prod.mk.inj (h.symm.trans hrun)).2, hctx]
    rfl

theorem lists_startNSSAACommand (cfg : Config) (ue : Ptr) (s : Handler) :
    lists (((startNSSAACommand cfg ue).run s).2.ctx ue) = lists (s.ctx ue) := by
  unfold startNSSAACommand
  split
  · rfl
  · rcases run_beginFirstPending ue s with ⟨-, hrun⟩ | ⟨_, _, _, t, -, hrun, -⟩
    · rw [hrun]
    · rw [hrun]
      exact lists_beginFirstPending hrun

theorem lists_reauthNSSAA (ue : Ptr) (sst : UInt8) (sd : String) (s : Handler) :
    lists (((reauthNSSAA ue sst sd).run s).2.ctx ue) = lists (s.ctx ue) := by
  unfold reauthNSSAA
  rw [run_load_bind]
  split
  · show lists (((update ue _).run s).2.ctx ue) = _
    rw [ctx_update, if_pos rfl]
    rfl
  · rfl

theorem run_revokeNSSAA (ue : Ptr) (sst : UInt8) (sd : String) (s : Handler) :
    (revokeNSSAA ue sst sd).run s = (.ok false, s) ∨
    ∃ t, (revokeNSSAA ue sst sd).run s = (.ok true, t) ∧
      t.ctx ue = revokeSlice { sst, sd } (s.ctx ue) := by
  unfold revokeNSSAA
  rw [run_load_bind]
  split
  · rw [run_update_bind]
    refine .inr ⟨_, rfl, ?_⟩
    rw [ctx_update, if_pos rfl]
  · exact .inl rfl

theorem rejectedNSSAI_grantSlices (cfg : Config)
    (candidates subscribed : List SNSSAISubscribed) (c : UEContext) :
    (grantSlices cfg candidates subscribed c).rejectedNSSAI = c.rejectedNSSAI := by
  unfold grantSlices splitPendingNSSAA
  split
  · rfl
  · dsimp only
    split <;> rfl

/-! ## Every run -/

theorem ledger_step {cfg : Config} {ue : Ptr} {s s' : SliceRounds} {input : SliceInput}
    (hstep : ((System.ofFun (next cfg ue)).when (Orderly cfg ue)) s input s') :
    ledger (s'.amf.ctx ue) s'.verdicts = ledger (s.amf.ctx ue) s.verdicts ∨
      Ledger.Step (ledger (s.amf.ctx ue) s.verdicts) (ledger (s'.amf.ctx ue) s'.verdicts) := by
  obtain ⟨hok, hstep⟩ := hstep
  cases input with
  | compute candidates subscribed =>
    obtain rfl := hstep
    have hdisjoint : Disjoint
        (keys (grantSlices cfg candidates subscribed (s.amf.ctx ue)).allowedNSSAI)
        (keys (s.amf.ctx ue).rejectedNSSAI) :=
      disjoint_left.mpr fun k ⟨a, ha, hak⟩ ⟨r, hr, hrk⟩ =>
        hok a ha r hr (hak.trans hrk.symm)
    right
    simp only [next, ctx_update, if_true]
    show Ledger.Step _ ⟨_, keys (grantSlices cfg candidates subscribed
      (s.amf.ctx ue)).rejectedNSSAI, _⟩
    rw [rejectedNSSAI_grantSlices]
    exact .grant _ _ hdisjoint
  | start =>
    obtain rfl := hstep
    exact .inl (ledger_of_lists (lists_startNSSAACommand cfg ue s.amf) _)
  | complete msg env =>
    obtain rfl := hstep
    rcases run_processNSSAAComplete cfg env ue msg s.amf with
      ⟨err, hrun⟩ | ⟨slice, out, s₁, t, hprogress, hsame, hrun, hchanged, hclosed, hnext⟩
    · left
      simp only [next, hrun]
      show ledger _ (s.verdicts ++ []) = _
      rw [append_nil]
    · right
      simp only [next, hrun]
      show Ledger.Step _ (ledger (t.ctx ue) (s.verdicts ++
        (s.amf.ctx ue).nssaaInProgress.toList.map _))
      rw [hprogress, ledger_of_lists (lists_beginFirstPending hnext), hclosed]
      refine ledger_closeSlice _ slice _ _ fun hfailed => ?_
      exact hok slice hprogress hsame (hchanged.symm.trans hfailed)
  | revoke sst sd =>
    obtain rfl := hstep
    rcases run_revokeNSSAA ue sst sd s.amf with hrun | ⟨t, hrun, hctx⟩
    · left
      simp only [next, hrun]
      show ledger _ (s.verdicts ++ []) = _
      rw [append_nil]
    · right
      simp only [next, hrun]
      rw [hctx]
      exact ledger_revokeSlice { sst, sd } _ _
  | reauth sst sd =>
    obtain rfl := hstep
    exact .inl (ledger_of_lists (lists_reauthNSSAA ue sst sd s.amf) _)

/-! ## A run -/

def authenticating : Config := { Config.minimal with nssaa := true }

def guarded : SNSSAISubscribed := { sst := 1, sd := "000001", subjectToNSSAA := true }

def aaa (result : String) : Env where
  nssaaAuthenticate := .ok ⟨result, []⟩

def guardedComplete : NSSAAuth := { snssai := ⟨1, 1⟩, eapMessage := [] }

def initial : SliceRounds where
  amf := newHandler (Manager.newManager ⟨"001", "01", 1, 1, 1⟩ false false)
  verdicts := []

/-- The slice is authenticated after a registration. -/
def firstRound : List SliceInput :=
  [.compute [] [guarded], .start, .complete guardedComplete (aaa "EAP_SUCCESS")]

def secondRound : List SliceInput :=
  [.reauth 1 "000001", .start, .complete guardedComplete (aaa "EAP_FAILURE")]

end SliceRounds

end Claudia5gc.Amf
