import Claudia5gc.Updates
import Claudia5gc.Upf.Server

/-!
# Modifications are all or nothing

A Session Modification Request either leaves the UPF as it was, or does to the rules of its session
what its operations do one after the other in the order of the message.  The code carries the
operations out kind by kind, so the second half rests on what its checks make sure of: the
operations on one QER are of one kind.
-/

namespace Claudia5gc.Upf

open Go AList Updates Server QERState ModificationIE Session PdrListUpdate Except Option
open Function
open ModPlan

variable {pdrs : Map UInt16 PDRState} {qers : Map UInt32 QERState} {plan : ModPlan}
  {req : SessionModificationRequest}

/-! ## What a message asks for -/

@[ext] structure Rules where
  qers : UInt32 → Option QERRule
  pdrs : UInt16 → Option PDRState

/-- An operation on the rules. -/
inductive RuleOp where
  | createQER (p : QERParams)
  | updateQER (p : QERParams)
  | removeQER (id : UInt32)
  | updatePDR (u : PdrListUpdate)

def Rules.apply (r : Rules) : RuleOp → Rules
  | .createQER p => { r with qers := update r.qers p.id (some p.rule) }
  | .updateQER p => { r with qers := update r.qers p.id ((r.qers p.id).map p.update) }
  | .removeQER id => { r with qers := update r.qers id none }
  | .updatePDR u =>
    { r with
      pdrs := update r.pdrs u.pdrID
        ((r.pdrs u.pdrID).map fun p => { p with qerIDs := u.qers }) }

/-- The operation that an IE of a message asks for. -/
def ModificationIE.op : ModificationIE → Option RuleOp
  | .createQER ie => (planCreate ie).toOption.map .createQER
  | .updateQER ie => (planUpdate ie).toOption.map .updateQER
  | .removeQER ie => (planRemove ie).toOption.map .removeQER
  | .updatePDR ie =>
    ((planUpdatePDR ie).toOption.filter fun u => u.qers.length > 0).map .updatePDR
  | .updateFAR _ => none

/-- The operations of a message in their order. -/
def SessionModificationRequest.ops (req : SessionModificationRequest) : List RuleOp :=
  req.ies.filterMap op

def rulesOf (qers : Map UInt32 QERState) (pdrs : Map UInt16 PDRState) : Rules where
  qers := fun id => (qers.lookup id).map toQERRule
  pdrs := fun id => pdrs.lookup id

def Session.rules (s : Session) : Rules := rulesOf s.qers s.pdrs

/-- Every QER that a PDR names is there. -/
def Rules.Resolve (r : Rules) : Prop :=
  ∀ pid p, r.pdrs pid = some p → ∀ id ∈ p.qerIDs, (r.qers id).isSome

/-! ## What the checks make sure of -/

@[simp] theorem need_eq_ok {ok : Prop} [Decidable ok] {rej : PfcpReject} :
    need ok rej = .ok () ↔ ok := by
  unfold need
  split <;> simp [*]

def ModPlan.Leaves (plan : ModPlan) (qers : Map UInt32 QERState) (id : UInt32) : Prop :=
  (id ∈ qers ∧ id ∉ plan.removes) ∨ ∃ p ∈ plan.creates, p.id = id

structure ModPlan.Fits (plan : ModPlan) (qers : Map UInt32 QERState)
    (pdrs : Map UInt16 PDRState) : Prop where
  removes : ∀ id ∈ plan.removes, id ∈ qers
  creates : ∀ p ∈ plan.creates, p.id ∉ qers
  updates : ∀ p ∈ plan.updates, p.id ∈ qers ∧ p.id ∉ plan.removes
  known : ∀ u ∈ plan.pdrs, u.pdrID ∈ pdrs
  listed : ∀ u ∈ plan.pdrs, ∀ id ∈ u.qers, plan.Leaves qers id
  untouched : ∀ pid p, pdrs.lookup pid = some p → (∀ u ∈ plan.pdrs, u.pdrID ≠ pid) →
    ∀ id ∈ p.qerIDs, plan.Leaves qers id

theorem checkCreates_eq_ok {creates : List QERParams} {after after' : List UInt32}
    (h : creates.foldlM (checkCreate qers) after = .ok after') : (∀ p ∈ creates, p.id ∉ qers) ∧
      ∀ id, id ∈ after' ↔ id ∈ after ∨ ∃ p ∈ creates, p.id = id := by
  induction creates generalizing after with
  | nil =>
    obtain rfl : after = after' := ok.inj h
    simp
  | cons p creates ih =>
    obtain ⟨next, hnext, hrest⟩ := bind_eq_ok.1 h
    obtain ⟨_, hneed, hpure⟩ := bind_eq_ok.1 hnext
    obtain rfl : p.id :: after = next := ok.inj hpure
    obtain ⟨hfresh, hmem⟩ := ih hrest
    have hnew : p.id ∉ qers := fun hq => need_eq_ok.1 hneed (Or.inl hq)
    constructor
    · rw [List.forall_mem_cons]
      exact ⟨hnew, hfresh⟩
    · intro id
      rw [hmem, List.mem_cons, List.exists_mem_cons_iff, eq_comm (a := id)]
      tauto

theorem checkPlan_fits (h : checkPlan qers pdrs plan = .ok ()) : plan.Fits qers pdrs := by
  obtain ⟨_, hremoves, h⟩ := bind_eq_ok.1 h
  obtain ⟨after, hcreates, h⟩ := bind_eq_ok.1 h
  obtain ⟨_, hupdates, h⟩ := bind_eq_ok.1 h
  obtain ⟨_, hpdrs, huntouched⟩ := bind_eq_ok.1 h
  rw [forM_eq_ok] at hremoves hupdates hpdrs huntouched
  obtain ⟨hfresh, hafter⟩ := checkCreates_eq_ok hcreates
  have hleaves : ∀ id, id ∈ after ↔ plan.Leaves qers id := by
    intro id
    rw [hafter, List.mem_filter, ← mem_keys, decide_eq_true_eq]
    rfl
  have hlists : ∀ u ∈ plan.pdrs, u.pdrID ∈ pdrs ∧ ∀ id ∈ u.qers, id ∈ after := by
    intro u hu
    obtain ⟨_, hpdr, hlist⟩ := bind_eq_ok.1 (hpdrs u hu)
    rw [forM_eq_ok] at hlist
    exact ⟨need_eq_ok.1 hpdr, fun id hid => need_eq_ok.1 (hlist id hid)⟩
  refine ⟨fun id hid => need_eq_ok.1 (hremoves id hid), hfresh,
    fun p hp => need_eq_ok.1 (hupdates p hp), fun u hu => (hlists u hu).1, ?_, ?_⟩
  · intro u hu id hid
    exact (hleaves id).1 ((hlists u hu).2 id hid)
  · intro pid p hp hother id hid
    have hkey : pid ∈ pdrs.keys := by
      rw [← mem_keys, ← lookup_isSome, hp]
      rfl
    have hcheck := huntouched pid ((List.mem_insertionSort _).2 hkey)
    have hnot : pid ∉ plan.pdrs.map pdrID := by
      intro hmem
      obtain ⟨u, hu, hid⟩ := List.mem_map.1 hmem
      exact hother u hu hid
    rw [checkUntouchedPDR, if_neg hnot, hp, forM_eq_ok] at hcheck
    exact (hleaves id).1 (need_eq_ok.1 (hcheck id hid))

/-! ## Carrying a plan out -/

theorem foldlM_mapWrite {κ ν ο : Type} [DecidableEq κ] (key : ο → κ) (f : ο → ν → ν)
    (ops : List ο) (m : Map κ ν) (h : ∀ o ∈ ops, key o ∈ m) :
    ∃ m', ops.foldlM (fun m o => mapWrite (key o) (f o) m) m = .ok m' ∧ (∀ k, k ∈ m' ↔ k ∈ m) ∧
      (fun k => lookup k m') =
        ops.foldl (apply key fun o v => v.map (f o)) fun k => lookup k m := by
  induction ops generalizing m with
  | nil => exact ⟨m, rfl, fun _ => Iff.rfl, rfl⟩
  | cons o ops ih =>
    obtain ⟨v, hv⟩ : ∃ v, lookup (key o) m = some v :=
      isSome_iff_exists.1 (lookup_isSome.2 (h o (by simp)))
    have hwrite : mapWrite (key o) (f o) m = .ok (m.insert (key o) (f o v)) := by
      rw [mapWrite, hv]
    have hmem : ∀ k, k ∈ m.insert (key o) (f o v) ↔ k ∈ m := by
      intro k
      rw [mem_insert]
      constructor
      · rintro (rfl | hk)
        · exact h o (by simp)
        · exact hk
      · exact Or.inr
    obtain ⟨m', hm', hdom, hlookup⟩ :=
      ih (m.insert (key o) (f o v)) fun o' ho' => (hmem _).2 (h o' (by simp [ho']))
    refine ⟨m', ?_, fun k => (hdom k).trans (hmem k), ?_⟩
    · rw [List.foldlM_cons, hwrite]
      exact hm'
    · rw [hlookup, List.foldl_cons, Map.lookup_insert_fun, apply, hv]
      rfl

/-- The kinds of operation on a QER, in the order in which the code carries them out. -/
inductive QEROp where
  | remove (id : UInt32)
  | create (p : QERParams)
  | update (p : QERParams)

namespace QEROp

inductive Kind where
  | remove | create | update
  deriving DecidableEq

def kind : QEROp → Kind
  | .remove _ => .remove
  | .create _ => .create
  | .update _ => .update

def key : QEROp → UInt32
  | .remove id => id
  | .create p => p.id
  | .update p => p.id

def act : QEROp → Option QERRule → Option QERRule
  | .remove _ => fun _ => none
  | .create p => fun _ => some p.rule
  | .update p => fun q => q.map p.update

/-- What an operation does to its QER. -/
def actState : QEROp → Option QERState → Option QERState
  | .remove _ => fun _ => none
  | .create p => fun _ => some p.newState
  | .update p => fun q => q.map fun q => { q with toQERRule := p.update q.toQERRule }

theorem map_actState (o : QEROp) (v : Option QERState) :
    (o.actState v).map toQERRule = o.act (v.map toQERRule) := by
  cases o with
  | remove id | create p => rfl
  | update p => cases v <;> rfl

end QEROp

/-- The operations of a plan, in the order in which the code carries them out. -/
def ModPlan.qerOps (plan : ModPlan) : List QEROp :=
  plan.removes.map .remove ++ (plan.creates.map .create ++ plan.updates.map .update)

section ApplyPlan

variable {qers : Map UInt32 QERState} {pdrs : Map UInt16 PDRState} {plan : ModPlan}

section

variable (qers : Map UInt32 QERState)

theorem lookup_removes (ids : List UInt32) :
    (fun id => lookup id (ids.foldl (fun m id => m.erase id) qers)) =
      (ids.map QEROp.remove).foldl (apply QEROp.key QEROp.actState)
        fun id => lookup id qers := by
  induction ids generalizing qers with
  | nil => rfl
  | cons id ids ih =>
    rw [List.foldl_cons, List.map_cons, List.foldl_cons, ih, Map.lookup_erase_fun]
    rfl

theorem mem_removes (ids : List UInt32) (k : UInt32) :
    k ∈ ids.foldl (fun m id => m.erase id) qers ↔ k ∈ qers ∧ k ∉ ids := by
  induction ids generalizing qers with
  | nil => simp
  | cons id ids ih =>
    rw [List.foldl_cons, ih, mem_erase, List.mem_cons]
    tauto

theorem lookup_creates (ps : List QERParams) :
    (fun id => lookup id (ps.foldl (fun m p => m.insert p.id p.newState) qers)) =
      (ps.map QEROp.create).foldl (apply QEROp.key QEROp.actState)
        fun id => lookup id qers := by
  induction ps generalizing qers with
  | nil => rfl
  | cons p ps ih =>
    rw [List.foldl_cons, List.map_cons, List.foldl_cons, ih, Map.lookup_insert_fun]
    rfl

theorem mem_creates (ps : List QERParams) (k : UInt32) :
    k ∈ ps.foldl (fun m p => m.insert p.id p.newState) qers ↔ k ∈ qers ∨ ∃ p ∈ ps, p.id = k := by
  induction ps generalizing qers with
  | nil => simp
  | cons p ps ih =>
    rw [List.foldl_cons, ih, mem_insert, List.exists_mem_cons_iff, eq_comm (a := k)]
    tauto

end

/-- A plan that has passed the checks is carried out to its end, and the maps are then what
its operations make of them. -/
theorem applyPlan_eq (hfits : plan.Fits qers pdrs) :
    ∃ qers' pdrs', applyPlan qers pdrs plan = .ok (qers', pdrs') ∧
      (∀ id, id ∈ qers' ↔ plan.Leaves qers id) ∧ (fun id => lookup id qers') =
        plan.qerOps.foldl (apply QEROp.key QEROp.actState)
          (fun id => lookup id qers) ∧
      (fun pid => lookup pid pdrs') = plan.pdrs.foldl (apply pdrID fun u v =>
          v.map fun p => { p with qerIDs := u.qers }) fun pid => lookup pid pdrs := by
  generalize hqers₁ : plan.removes.foldl (fun m id => m.erase id) qers = qers₁
  generalize hqers₂ : plan.creates.foldl (fun m p => m.insert p.id p.newState) qers₁ = qers₂
  have hdom₂ : ∀ id, id ∈ qers₂ ↔ plan.Leaves qers id := by
    intro id
    rw [← hqers₂, mem_creates, ← hqers₁, mem_removes]
    rfl
  obtain ⟨qers₃, hupdates, hdom₃, hlookup₃⟩ := foldlM_mapWrite QERParams.id
    (fun p (q : QERState) => { q with toQERRule := p.update q.toQERRule })
    plan.updates qers₂
    fun p hp => (hdom₂ p.id).2 (Or.inl (hfits.updates p hp))
  obtain ⟨pdrs', hpdrs, _, hlookup'⟩ := foldlM_mapWrite pdrID
    (fun u (p : PDRState) => { p with qerIDs := u.qers }) plan.pdrs pdrs hfits.known
  refine ⟨qers₃, pdrs', ?_, fun id => (hdom₃ id).trans (hdom₂ id), ?_, hlookup'⟩
  · unfold applyPlan
    dsimp only
    rw [hqers₁, hqers₂, hupdates, Outcome.ok_bind, hpdrs]
    rfl
  · have hupdate : ∀ m : UInt32 → Option QERState, plan.updates.foldl (apply QERParams.id fun p v =>
          v.map fun q => { q with toQERRule := p.update q.toQERRule }) m =
        (plan.updates.map QEROp.update).foldl (apply QEROp.key QEROp.actState) m := by
      intro m
      rw [List.foldl_map]
      rfl
    rw [hlookup₃, hupdate, ← hqers₂, lookup_creates, ← hqers₁, lookup_removes, qerOps,
      List.foldl_append, List.foldl_append]

end ApplyPlan

/-! ## The operations of a message -/

/-- The part of an operation that is about QERs. -/
def RuleOp.qerOp : RuleOp → Option QEROp
  | .createQER p => some (.create p)
  | .updateQER p => some (.update p)
  | .removeQER id => some (.remove id)
  | .updatePDR _ => none

/-- The part of an operation that is about PDRs. -/
def RuleOp.pdrOp : RuleOp → Option PdrListUpdate
  | .updatePDR u => some u
  | _ => none

theorem foldl_rules (ops : List RuleOp) (r : Rules) : ops.foldl Rules.apply r =
      { qers := (ops.filterMap RuleOp.qerOp).foldl (apply QEROp.key QEROp.act) r.qers
        pdrs := (ops.filterMap RuleOp.pdrOp).foldl (apply pdrID fun u v =>
          v.map fun p => { p with qerIDs := u.qers }) r.pdrs } := by
  induction ops generalizing r with
  | nil => rfl
  | cons op ops ih =>
    rw [List.foldl_cons, ih]
    cases op <;> rfl

section Message

variable {req : SessionModificationRequest} {plan : ModPlan}

theorem parsePlan_eq_ok (h : parsePlan req.rules = .ok plan) :
    plan.qerOps = grouped QEROp.kind [.remove, .create, .update]
        (req.ops.filterMap RuleOp.qerOp) ∧
      plan.pdrs = req.ops.filterMap RuleOp.pdrOp := by
  obtain ⟨creates, hcreates, h⟩ := bind_eq_ok.1 h
  obtain ⟨updates, hupdates, h⟩ := bind_eq_ok.1 h
  obtain ⟨removes, hremoves, h⟩ := bind_eq_ok.1 h
  obtain ⟨pdrs, hpdrs, h⟩ := bind_eq_ok.1 h
  obtain rfl := (ok.inj h).symm
  rw [mapM_eq_ok hcreates, mapM_eq_ok hupdates, mapM_eq_ok hremoves, mapM_eq_ok hpdrs]
  simp only [qerOps, grouped, List.flatMap_cons, List.flatMap_nil,
    List.append_nil, SessionModificationRequest.rules, SessionModificationRequest.ops,
    List.filterMap_filterMap, List.map_filterMap, List.filter_filterMap]
  refine ⟨congrArg₂ _ ?_ (congrArg₂ _ ?_ ?_), ?_⟩
  all_goals
    congr 1
    funext ie
    cases ie with
    | createQER ie =>
      simp only [op, bind_some]
      cases planCreate ie <;> rfl
    | updateQER ie =>
      simp only [op, bind_some]
      cases planUpdate ie <;> rfl
    | removeQER ie =>
      simp only [op, bind_some]
      cases planRemove ie <;> rfl
    | updatePDR ie =>
      simp only [op, bind_some]
      cases planUpdatePDR ie with
      | error e => rfl
      | ok u =>
        by_cases hlen : 0 < u.qers.length <;>
          simp [Except.toOption, Option.filter, RuleOp.qerOp, RuleOp.pdrOp, hlen]
    | updateFAR ie => rfl

theorem planModificationQoS_eq_ok {rules : RuleIEs}
    (h : planModificationQoS qers pdrs rules = .ok plan) :
    parsePlan rules = .ok plan ∧ (plan.empty = false → plan.Fits qers pdrs) := by
  obtain ⟨plan', hparse, h⟩ := bind_eq_ok.1 h
  by_cases hempty : plan'.empty = true
  · rw [if_pos hempty] at h
    obtain rfl : plan' = plan := ok.inj h
    exact ⟨hparse, fun hfalse => absurd hempty (by simp [hfalse])⟩
  · rw [if_neg hempty] at h
    obtain ⟨_, hcheck, h⟩ := bind_eq_ok.1 h
    obtain rfl : plan' = plan := ok.inj h
    exact ⟨hparse, fun _ => checkPlan_fits hcheck⟩

theorem ModPlan.Fits.kind_eq (hfits : plan.Fits qers pdrs) {o o' : QEROp} (ho : o ∈ plan.qerOps)
    (ho' : o' ∈ plan.qerOps) (hkey : o.key = o'.key) : o.kind = o'.kind := by
  -- a QER to be created is not there, one to be removed or updated is, and not both
  have hremove : ∀ id, QEROp.remove id ∈ plan.qerOps → id ∈ qers ∧ id ∈ plan.removes := by
    intro id h
    have hid : id ∈ plan.removes := by simpa [qerOps] using h
    exact ⟨hfits.removes id hid, hid⟩
  have hcreate : ∀ p, QEROp.create p ∈ plan.qerOps → p.id ∉ qers := by
    intro p h
    exact hfits.creates p (by simpa [qerOps] using h)
  have hupdate : ∀ p, QEROp.update p ∈ plan.qerOps → p.id ∈ qers ∧ p.id ∉ plan.removes := by
    intro p h
    exact hfits.updates p (by simpa [qerOps] using h)
  cases o with
  | remove id =>
    obtain rfl : id = o'.key := hkey
    cases o' with
    | remove id' => rfl
    | create p => exact absurd (hremove _ ho).1 (hcreate p ho')
    | update p => exact absurd (hremove _ ho).2 (hupdate p ho').2
  | create p =>
    have hnot := hcreate p ho
    rw [show p.id = o'.key from hkey] at hnot
    cases o' with
    | remove id' => exact absurd (hremove _ ho').1 hnot
    | create p' => rfl
    | update p' => exact absurd (hupdate p' ho').1 hnot
  | update p =>
    have hkept := hupdate p ho
    rw [show p.id = o'.key from hkey] at hkept
    cases o' with
    | remove id' => exact absurd (hremove _ ho').2 hkept.2
    | create p' => exact absurd hkept.1 (hcreate p' ho')
    | update p' => rfl

end Message

/-! ## References -/

theorem foldl_relist (us : List PdrListUpdate) (pdrs : UInt16 → Option PDRState)
    {pid : UInt16} {p : PDRState} (h : us.foldl (apply pdrID fun u v =>
      v.map fun p => { p with qerIDs := u.qers }) pdrs pid = some p) :
    ((∀ u ∈ us, u.pdrID ≠ pid) ∧ pdrs pid = some p) ∨ ∃ u ∈ us, p.qerIDs = u.qers := by
  induction us generalizing pdrs with
  | nil => exact Or.inl ⟨by simp, h⟩
  | cons u us ih =>
    rcases ih _ h with ⟨hother, hp⟩ | ⟨u', hu', hq⟩
    · by_cases hpid : u.pdrID = pid
      · subst hpid
        rw [apply, update_self, map_eq_some_iff] at hp
        obtain ⟨p', _, rfl⟩ := hp
        exact Or.inr ⟨u, by simp, rfl⟩
      · rw [apply, update_of_ne (Ne.symm hpid)] at hp
        exact Or.inl ⟨List.forall_mem_cons.2 ⟨hpid, hother⟩, hp⟩
    · exact Or.inr ⟨u', by simp [hu'], hq⟩

theorem isSome_qers_rulesOf {id : UInt32} : ((rulesOf qers pdrs).qers id).isSome ↔ id ∈ qers := by
  rw [← lookup_isSome]
  show ((lookup id qers).map _).isSome ↔ _
  rw [isSome_map]

theorem applyPlan_rules (hparse : parsePlan req.rules = .ok plan) (hfits : plan.Fits qers pdrs) :
    ∃ qers' pdrs', applyPlan qers pdrs plan = .ok (qers', pdrs') ∧
      rulesOf qers' pdrs' = req.ops.foldl Rules.apply (rulesOf qers pdrs) ∧
      (rulesOf qers' pdrs').Resolve := by
  obtain ⟨qers', pdrs', happly, hdom, hqers, hpdrs⟩ := applyPlan_eq hfits
  obtain ⟨hqerOps, hpdrOps⟩ := parsePlan_eq_ok hparse
  refine ⟨qers', pdrs', happly, ?_, ?_⟩
  · rw [foldl_rules]
    apply Rules.ext
    · have hmem : ∀ o ∈ req.ops.filterMap RuleOp.qerOp, o ∈ plan.qerOps := by
        intro o ho
        rw [hqerOps, grouped, List.mem_flatMap]
        refine ⟨o.kind, ?_, by simpa using ho⟩
        cases o <;> simp [QEROp.kind]
      have hgrouped := foldl_grouped QEROp.key QEROp.act QEROp.kind
        [.remove, .create, .update] (by decide)
        (fun o _ => by cases o <;> simp [QEROp.kind])
        (fun o ho o' ho' => hfits.kind_eq (hmem o ho) (hmem o' ho')) (rulesOf qers pdrs).qers
      rw [← hqerOps] at hgrouped
      rw [← hgrouped]
      show (fun id => (lookup id qers').map toQERRule) = _
      rw [show (fun id => (lookup id qers').map toQERRule) =
        fun id => ((fun id => lookup id qers') id).map toQERRule from rfl, hqers]
      exact foldl_apply_map _ _ _ QEROp.map_actState _ _
    · rw [← hpdrOps]
      exact hpdrs
  · intro pid p hp id hid
    rw [isSome_qers_rulesOf, hdom]
    have hp' : (fun pid => lookup pid pdrs') pid = some p := hp
    rw [hpdrs] at hp'
    rcases foldl_relist plan.pdrs _ hp' with ⟨hother, hold⟩ | ⟨u, hu, hq⟩
    · exact hfits.untouched pid p hold hother id hid
    · rw [hq] at hid
      exact hfits.listed u hu id hid

/-! ## The handlers -/

section Handlers

theorem rules_reconcileQERs (cfg : QoSConfig) (now : Int64) (qers : Map UInt32 QERState)
    (pdrs : Map UInt16 PDRState) (buckets : Heap Bucket) :
    rulesOf (reconcileQERs cfg now qers buckets).1 pdrs = rulesOf qers pdrs := by
  have hloop : ∀ (ids : List UInt32) (st : Map UInt32 QERState × Heap Bucket),
      rulesOf (ids.foldl (reconcileStep cfg now) st).1 pdrs = rulesOf st.1 pdrs := by
    intro ids
    induction ids with
    | nil => exact fun _ => rfl
    | cons id ids ih =>
      intro st
      rw [List.foldl_cons, ih, reconcileStep]
      cases hq : lookup id st.1 with
      | none => rfl
      | some q =>
        apply Rules.ext
        · funext k
          show (lookup k (st.1.insert id _)).map toQERRule = (lookup k st.1).map toQERRule
          by_cases hk : k = id
          · subst hk
            rw [lookup_insert, hq]
            rfl
          · rw [lookup_insert_ne hk]
        · rfl
  exact hloop qers.keys (qers, buckets)

theorem Session.rules_rebuildQoS (s : Session) (cfg : QoSConfig) (now : Int64)
    (buckets : Heap Bucket) : (s.rebuildQoS cfg now buckets).1.rules = s.rules := by
  unfold rebuildQoS
  split
  · rfl
  · exact rules_reconcileQERs ..

def Session.SameButTunnel (s s' : Session) : Prop :=
  ∃ teid ip, s' = { s with dlTEID := teid, gnbIP := ip }

theorem Session.SameButTunnel.trans {s s' s'' : Session} (h : s.SameButTunnel s')
    (h' : s'.SameButTunnel s'') : s.SameButTunnel s'' := by
  obtain ⟨_, _, rfl⟩ := h
  obtain ⟨teid, ip, rfl⟩ := h'
  exact ⟨teid, ip, rfl⟩

theorem Session.SameButTunnel.foldl {α : Type} {f : Session → α → Session}
    (hf : ∀ (s : Session) (a : α), s.SameButTunnel (f s a)) (l : List α) (s : Session) :
    s.SameButTunnel (l.foldl f s) := by
  induction l generalizing s with
  | nil => exact ⟨_, _, rfl⟩
  | cons a l ih => exact (hf s a).trans (ih (f s a))

theorem Session.sameButTunnel_setTunnel (s : Session) (c : IE) :
    s.SameButTunnel (setTunnel s c) := by
  unfold setTunnel
  split
  · split
    · exact ⟨_, _, rfl⟩
    · exact ⟨_, _, rfl⟩
  · exact ⟨_, _, rfl⟩

theorem Session.sameButTunnel_updateFAR (ies : List Grouped) (s : Session) :
    s.SameButTunnel (ies.foldl applyUpdateFAR s) := by
  refine SameButTunnel.foldl (fun s ie => ?_) ies s
  unfold applyUpdateFAR
  split
  · exact ⟨_, _, rfl⟩
  · split
    · split
      · exact ⟨_, _, rfl⟩
      · exact SameButTunnel.foldl sameButTunnel_setTunnel ..
    · exact SameButTunnel.foldl sameButTunnel_setTunnel ..

theorem Session.rules_foldl_updateFAR (ies : List Grouped) (s : Session) :
    (ies.foldl applyUpdateFAR s).rules = s.rules := by
  obtain ⟨_, _, h⟩ := sameButTunnel_updateFAR ies s
  rw [h]
  rfl

theorem ops_of_empty (hparse : parsePlan req.rules = .ok plan) (hempty : plan.empty = true)
    (r : Rules) : req.ops.foldl Rules.apply r = r := by
  obtain ⟨hqerOps, hpdrOps⟩ := parsePlan_eq_ok hparse
  simp only [empty, decide_eq_true_eq, Nat.add_eq_zero_iff, List.length_eq_zero_iff] at hempty
  obtain ⟨⟨⟨hcreates, hupdates⟩, hremoves⟩, hpdrs⟩ := hempty
  have hqers : req.ops.filterMap RuleOp.qerOp = [] := by
    rw [List.eq_nil_iff_forall_not_mem]
    intro o ho
    have hmem : o ∈ plan.qerOps := by
      rw [hqerOps, grouped, List.mem_flatMap]
      refine ⟨o.kind, ?_, by simpa using ho⟩
      cases o <;> simp [QEROp.kind]
    simp [qerOps, hcreates, hupdates, hremoves] at hmem
  rw [foldl_rules, hqers, ← hpdrOps, hpdrs]
  rfl

theorem Server.applyQoS_eq_ok {s : Server} {p : Ptr} (hparse : parsePlan req.rules = .ok plan)
    (hfits : plan.Fits (s.heap.get p).qers (s.heap.get p).pdrs) (now : Int64) :
    ∃ s', s.applyQoS p plan now = .ok s' ∧
      (s'.heap.get p).rules = req.ops.foldl Rules.apply (s.heap.get p).rules ∧
      (s'.heap.get p).rules.Resolve := by
  obtain ⟨qers', pdrs', happly, hrules, hresolve⟩ := applyPlan_rules hparse hfits
  unfold applyQoS
  dsimp only
  rw [happly, Outcome.ok_bind]
  refine ⟨_, rfl, ?_, ?_⟩
  · rw [Heap.get_modify_same, rules_rebuildQoS]
    exact hrules
  · rw [Heap.get_modify_same, rules_rebuildQoS]
    exact hresolve

theorem establishmentQoS_resolve {createQERs : List Grouped} {states : List PDRState}
    (h : establishmentQoS createQERs states = .ok (qers, pdrs)) : (rulesOf qers pdrs).Resolve := by
  obtain ⟨qers', _, h⟩ := bind_eq_ok.1 h
  obtain ⟨_, hcheck, h⟩ := bind_eq_ok.1 h
  obtain ⟨rfl, rfl⟩ := Prod.mk.inj (ok.inj h)
  rw [forM_eq_ok] at hcheck
  -- a PDR of the map is one of those that were checked
  have hfrom : ∀ (states : List PDRState) (m : Map UInt16 PDRState) (pid : UInt16)
      (p : PDRState), lookup pid (states.foldl (fun m p => m.insert p.pdrID p) m) = some p →
      p ∈ states ∨ lookup pid m = some p := by
    intro states
    induction states with
    | nil => exact fun _ _ _ h => Or.inr h
    | cons st states ih =>
      intro m pid p hp
      rcases ih _ _ _ hp with hmem | hold
      · exact Or.inl (by simp [hmem])
      · rcases Map.lookup_insert_eq_some.1 hold with ⟨_, rfl⟩ | ⟨_, hold⟩
        · exact Or.inl (by simp)
        · exact Or.inr hold
  intro pid p hp id hid
  rw [isSome_qers_rulesOf]
  rcases hfrom _ _ _ _ hp with hmem | hnone
  · exact need_eq_ok.1 (forM_eq_ok.1 (hcheck p hmem) id hid)
  · simp at hnone

theorem SessionEstablishmentRequest.session_resolve {req : SessionEstablishmentRequest}
    {sess : Session} (h : req.session = .ok sess) : sess.rules.Resolve := by
  obtain ⟨scan, _, h⟩ := bind_eq_ok.1 h
  obtain ⟨⟨qers, pdrs⟩, hqos, h⟩ := bind_eq_ok.1 h
  obtain rfl := (ok.inj h).symm
  exact establishmentQoS_resolve hqos

end Handlers

/-- A modification is rejected and leaves the UPF as it was, or is accepted and does to the
rules of its session what its operations do in the order of the message; in an accepted
session, modified or new, every QER that a PDR names is there. -/
theorem modification_all_or_nothing (s : Server) (req : SessionModificationRequest)
    (now : Int64) (p : Ptr) (hp : s.bySEID.lookup req.seid = some p)
    (hresolve : (s.heap.get p).rules.Resolve) :
    (∀ rej, planModificationQoS (s.heap.get p).qers (s.heap.get p).pdrs req.rules = .error rej →
      s.handleSessionModification req now = .ok (⟨(s.heap.get p).cpSEID, rej.cause, rej.ies⟩, s)) ∧
    (∀ plan, planModificationQoS (s.heap.get p).qers (s.heap.get p).pdrs req.rules = .ok plan →
      ∃ s', s.handleSessionModification req now =
          .ok (⟨(s.heap.get p).cpSEID, .requestAccepted, []⟩, s') ∧
        (s'.heap.get p).rules = req.ops.foldl Rules.apply (s.heap.get p).rules ∧
        (s'.heap.get p).rules.Resolve) ∧
    ∀ (est : SessionEstablishmentRequest) (now : Int64) (sess : Session), est.session = .ok sess →
        let s' := (s.handleSessionEstablishment est now).2
        s'.bySEID.lookup sess.upSEID = some s.heap.next ∧
          (s'.heap.get s.heap.next).rules = sess.rules ∧ sess.rules.Resolve := by
  refine ⟨?_, ?_, ?_⟩
  · intro rej hrej
    unfold handleSessionModification
    rw [hp]
    dsimp only
    rw [hrej]
  · intro plan hplan
    obtain ⟨hparse, hfits⟩ := planModificationQoS_eq_ok hplan
    unfold handleSessionModification
    rw [hp]
    dsimp only
    rw [hplan]
    dsimp only
    by_cases hempty : plan.empty = true
    · rw [if_pos hempty, Outcome.ok_bind]
      refine ⟨_, rfl, ?_, ?_⟩ <;> dsimp only <;>
        rw [Heap.get_modify_same, rules_foldl_updateFAR]
      · exact (ops_of_empty hparse hempty _).symm
      · exact hresolve
    · obtain ⟨s', happly, hrules, hres⟩ :=
        applyQoS_eq_ok hparse (hfits (by simpa using hempty)) now
      rw [if_neg hempty, happly, Outcome.ok_bind]
      refine ⟨_, rfl, ?_, ?_⟩ <;> dsimp only <;>
        rw [Heap.get_modify_same, rules_foldl_updateFAR]
      · exact hrules
      · exact hres
  · intro est now sess hsess
    have hseid : (sess.rebuildQoS s.cfg now s.buckets).1.upSEID = sess.upSEID := by
      unfold rebuildQoS
      split <;> rfl
    unfold handleSessionEstablishment
    rw [hsess]
    dsimp only [store]
    refine ⟨?_, ?_, est.session_resolve hsess⟩
    · rw [hseid, lookup_insert]
      rfl
    · rw [Heap.get_new, if_pos rfl, rules_rebuildQoS]

/-- A session with one PDR and one QER of 1000 kbps. -/
def oneRule : SessionEstablishmentRequest where
  cpFSEID := some 7
  createPDR := [some [.pdrID (some 1), .qerID (some 1), .pdi (some [.fteid (some 16)])]]
  createQER := [some [.qerID (some 1), .mbr (some 1000) (some 1000)]]

/-- The PDR is pointed at a new QER, which is created, and the old one is removed. -/
def swapRule : SessionModificationRequest where
  seid := 7
  ies := [.updatePDR (some [.pdrID (some 1), .qerID (some 2)]),
    .removeQER (some [.qerID (some 1)]), .createQER (some [.qerID (some 2)])]

theorem modification_all_or_nothing_swap :
    let s := (({} : Server).handleSessionEstablishment oneRule 0).2
    ∃ s', s.handleSessionModification swapRule 5 = .ok (⟨7, .requestAccepted, []⟩, s') ∧
      (s'.heap.get 0).rules = swapRule.ops.foldl Rules.apply (s.heap.get 0).rules ∧
      (s'.heap.get 0).rules.Resolve := by
  have hsess : ∃ sess, oneRule.session = .ok sess := ⟨_, rfl⟩
  obtain ⟨sess, hsess⟩ := hsess
  have hrules : ((({} : Server).handleSessionEstablishment oneRule 0).2.heap.get 0).rules =
      sess.rules := by
    unfold handleSessionEstablishment
    rw [hsess]
    exact rules_rebuildQoS ..
  have hresolve := oneRule.session_resolve hsess
  rw [← hrules] at hresolve
  exact (modification_all_or_nothing (({} : Server).handleSessionEstablishment oneRule 0).2
    swapRule 5 0 (by decide +kernel) hresolve).2.1 _ rfl

end Claudia5gc.Upf
