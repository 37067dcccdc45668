import Claudia5gc.Upf.Modification

/-!
# Packets against the rules of a session

The packet path reads a snapshot: for each direction one flag and one list of buckets.  Here is what
the rules themselves say about a packet, evaluated one by one, and that the snapshot of the rules
lets the same packets through.
-/

namespace Claudia5gc.Upf

open Go Bucket List Heap

variable {now : Int64} {l : List PDRState} {p q : PDRState} {r : Rules}

/-! ## What the rules say -/

def QERRule.gate (q : QERRule) (ul : Bool) : UInt8 := if ul then q.gateUL else q.gateDL

def QERState.bucket (q : QERState) (ul : Bool) : Option Ptr :=
  if ul then q.ulBucket else q.dlBucket

def PDRState.core (p : PDRState) : Bool := p.sourceInterface == srcInterfaceCore

/-- The lower precedence value comes first; PDR IDs break ties. -/
def PDRState.Before (p q : PDRState) : Prop :=
  p.precedence < q.precedence ∨ p.precedence = q.precedence ∧ p.pdrID ≤ q.pdrID

structure Rules.First (r : Rules) (core : Bool) (p : PDRState) : Prop where
  mem : r.pdrs p.pdrID = some p
  side : p.core = core
  before : ∀ pid q, r.pdrs pid = some q → q.core = core → p.Before q

/-- The PDR that a packet falls under: for the uplink the first one of the access side, for the
downlink the first one of the core side, or of the access side when the core side has none. -/
def Rules.Governs (r : Rules) (ul : Bool) (p : PDRState) : Prop :=
  if ul then r.First false p
  else r.First true p ∨ (∀ pid q, r.pdrs pid = some q → q.core = false) ∧ r.First false p

/-- A QER of the PDR that governs has its gate closed. -/
def Rules.GateShut (r : Rules) (ul : Bool) : Prop :=
  ∃ p, r.Governs ul p ∧ ∃ id ∈ p.qerIDs, ∃ q, r.qers id = some q ∧ q.gate ul = gateClosed

/-- A QER of the PDR that governs has a rate, and its bucket holds less than the packet
costs. -/
def Session.Lacks (s : Session) (cfg : QoSConfig) (buckets : Heap Bucket) (ul : Bool)
    (n : UInt32) (now : Int64) : Prop :=
  ∃ p, s.rules.Governs ul p ∧ ∃ id ∈ p.qerIDs, ∃ q, s.qers.lookup id = some q ∧
    q.effectiveKbps ul cfg ≠ 0 ∧ ∃ b, q.bucket ul = some b ∧
      ((buckets.get b).refill now).tokens < cost (octets n)

def PDRView.dir (pv : PDRView) (ul : Bool) : DirView := if ul then pv.ul else pv.dl

def QoSView.dir (v : QoSView) (ul : Bool) : DirView := if ul then v.ul else v.dl

def Session.admitDir (s : Session) (ul : Bool) (n now : Int64) (buckets : Heap Bucket) :
    (Bool × DropReason) × Heap Bucket :=
  if ul then s.admitUL n now buckets else s.admitDL n now buckets

/-! ## The PDR that governs -/

theorem before_iff : p.Before q ↔ p.precedence.toNat < q.precedence.toNat ∨
    p.precedence.toNat = q.precedence.toNat ∧ p.pdrID.toNat ≤ q.pdrID.toNat := by
  rw [PDRState.Before, UInt32.lt_iff_toNat_lt, UInt16.le_iff_toNat_le, ← UInt32.toNat_inj]

theorem PDRState.Before.refl (p : PDRState) : p.Before p := .inr ⟨rfl, UInt16.le_refl _⟩

theorem PDRState.Before.trans {r : PDRState} (h : p.Before q) (h' : q.Before r) : p.Before r := by
  rw [before_iff] at *
  omega

theorem before_lowerPrecedence (cur : Option PDRState) (p : PDRState) :
    (lowerPrecedence cur p).Before p ∧ (∀ c, cur = some c → (lowerPrecedence cur p).Before c) ∧
      (lowerPrecedence cur p = p ∨ cur = some (lowerPrecedence cur p)) := by
  cases cur with
  | none => exact ⟨.refl p, by simp, .inl rfl⟩
  | some c =>
    simp only [lowerPrecedence, UInt32.lt_iff_toNat_lt, UInt16.lt_iff_toNat_lt, ← UInt32.toNat_inj]
    split
    · refine ⟨.refl p, ?_, .inl rfl⟩
      rintro _ ⟨⟩
      rw [before_iff]
      omega
    · refine ⟨?_, ?_, .inr rfl⟩
      · rw [before_iff]
        omega
      · rintro _ ⟨⟩
        exact .refl c

theorem foldl_lowerPrecedence {cur : Option PDRState}
    (h : l.foldl (fun cur p => some (lowerPrecedence cur p)) cur = some p) :
    (p ∈ l ∨ cur = some p) ∧ (∀ q ∈ l, p.Before q) ∧ ∀ c, cur = some c → p.Before c := by
  induction l generalizing cur with
  | nil =>
    obtain rfl : cur = some p := h
    refine ⟨.inr rfl, by simp, ?_⟩
    rintro _ ⟨⟩
    exact .refl p
  | cons q l ih =>
    obtain ⟨hmem, hall, hcur⟩ := ih h
    obtain ⟨hq, hc, hone⟩ := before_lowerPrecedence cur q
    have hbefore := hcur _ rfl
    refine ⟨?_, ?_, fun c h => hbefore.trans (hc c h)⟩
    · rcases hmem with hmem | hmem
      · exact .inl (mem_cons_of_mem _ hmem)
      · rw [Option.some.inj hmem] at hone
        rcases hone with rfl | hone
        · exact .inl mem_cons_self
        · exact .inr hone
    · rintro x hx
      rcases mem_cons.1 hx with rfl | hx
      · exact hbefore.trans hq
      · exact hall x hx

theorem foldl_lowerPrecedence_eq_none {cur : Option PDRState} :
    l.foldl (fun cur p => some (lowerPrecedence cur p)) cur = none ↔ l = [] ∧ cur = none := by
  induction l generalizing cur with
  | nil => simp
  | cons q l ih =>
    rw [foldl_cons, ih]
    simp

theorem mem_mapValues {κ ν : Type} [DecidableEq κ] {m : Map κ ν} {v : ν} :
    v ∈ mapValues m ↔ ∃ k, AList.lookup k m = some v := by
  simp only [mapValues, mem_map]
  constructor
  · rintro ⟨⟨k, v⟩, hmem, rfl⟩
    exact ⟨k, AList.mem_lookup_iff.2 hmem⟩
  · rintro ⟨k, hk⟩
    exact ⟨⟨k, v⟩, AList.mem_lookup_iff.1 hk, rfl⟩

def Keyed (pdrs : Map UInt16 PDRState) : Prop :=
  ∀ pid p, pdrs.lookup pid = some p → p.pdrID = pid

section Best

variable {pdrs : Map UInt16 PDRState} {core : Bool}

theorem bestPDR_eq_some (qers : Map UInt32 QERState) (hkeyed : Keyed pdrs)
    (h : bestPDR core pdrs = some p) : (rulesOf qers pdrs).First core p := by
  obtain ⟨hmem, hall, _⟩ := foldl_lowerPrecedence h
  have hmem : p ∈ (mapValues pdrs).filter fun p => p.core == core := by
    rcases hmem with hmem | hmem
    · exact hmem
    · exact absurd hmem (by simp)
  obtain ⟨hmem, hside⟩ := mem_filter.1 hmem
  obtain ⟨pid, hpid⟩ := mem_mapValues.1 hmem
  refine ⟨?_, by simpa using hside, ?_⟩
  · rw [hkeyed pid p hpid]
    exact hpid
  · intro qid q hq hqside
    apply hall q
    exact mem_filter.2 ⟨mem_mapValues.2 ⟨qid, hq⟩, by simpa [PDRState.core] using hqside⟩

theorem bestPDR_eq_none :
    bestPDR core pdrs = none ↔ ∀ pid p, pdrs.lookup pid = some p → p.core ≠ core := by
  rw [bestPDR, foldl_lowerPrecedence_eq_none, filter_eq_nil_iff]
  simp only [mem_mapValues, and_true, beq_iff_eq]
  exact ⟨fun h pid p hp => h p ⟨pid, hp⟩, fun h p ⟨pid, hp⟩ => h pid p hp⟩

theorem Rules.First.unique (hp : r.First core p) (hq : r.First core q) : p = q := by
  have hpq := hp.before _ q hq.mem hq.side
  have hqp := hq.before _ p hp.mem hp.side
  have hid : p.pdrID = q.pdrID := by
    rw [before_iff] at hpq hqp
    rw [← UInt16.toNat_inj]
    omega
  have hmem := hp.mem
  rw [hid, hq.mem] at hmem
  exact (Option.some.inj hmem).symm

theorem first_iff (qers : Map UInt32 QERState) (hkeyed : Keyed pdrs) :
    (rulesOf qers pdrs).First core p ↔ bestPDR core pdrs = some p := by
  refine ⟨fun hp => ?_, bestPDR_eq_some qers hkeyed⟩
  cases hbest : bestPDR core pdrs with
  | none => exact absurd hp.side (bestPDR_eq_none.1 hbest _ p hp.mem)
  | some q => rw [hp.unique (bestPDR_eq_some qers hkeyed hbest)]

end Best

/-! ## The snapshot of the rules -/

section View

variable {qers : Map UInt32 QERState} {pdrs : Map UInt16 PDRState} {ul : Bool}

theorem mem_orderedQERs {q : QERState} :
    q ∈ orderedQERs qers p ↔ ∃ id ∈ p.qerIDs, qers.lookup id = some q := by
  simp only [orderedQERs, mem_append, mem_filter, mem_filterMap]
  cases q.hasQFI <;> simp

theorem dir_foldl_addQER (l : List QERState) (pv : PDRView) (ul : Bool) :
    (l.foldl PDRView.addQER pv).dir ul =
      { gateClosed := (pv.dir ul).gateClosed || l.any fun q => q.gate ul == gateClosed
        buckets := (pv.dir ul).buckets ++ l.filterMap fun q => q.bucket ul } := by
  induction l generalizing pv with
  | nil => simp
  | cons q l ih =>
    rw [foldl_cons, ih, any_cons, filterMap_cons]
    cases ul
    · cases hb : q.dlBucket <;>
        simp [PDRView.dir, PDRView.addQER, QERRule.gate, QERState.bucket, hb, Bool.or_assoc]
    · cases hb : q.ulBucket <;>
        simp [PDRView.dir, PDRView.addQER, QERRule.gate, QERState.bucket, hb, Bool.or_assoc]

theorem dir_buildPDRView (qers : Map UInt32 QERState) (p : PDRState) (ul : Bool) :
    (buildPDRView qers p).dir ul =
      { gateClosed := (orderedQERs qers p).any fun q => q.gate ul == gateClosed
        buckets := (orderedQERs qers p).filterMap fun q => q.bucket ul } := by
  rw [buildPDRView, dir_foldl_addQER]
  cases ul <;> simp [PDRView.dir]

theorem gateClosed_buildPDRView (pdrs : Map UInt16 PDRState) :
    ((buildPDRView qers p).dir ul).gateClosed = true ↔
      ∃ id ∈ p.qerIDs, ∃ q, (rulesOf qers pdrs).qers id = some q ∧ q.gate ul = gateClosed := by
  rw [dir_buildPDRView]
  simp only [any_eq_true, mem_orderedQERs, beq_iff_eq]
  constructor
  · rintro ⟨q, ⟨id, hid, hq⟩, hgate⟩
    exact ⟨id, hid, q.toQERRule, by simp [rulesOf, hq], hgate⟩
  · rintro ⟨id, hid, rule, hrule, hgate⟩
    obtain ⟨q, hq, rfl⟩ := Option.map_eq_some_iff.1 hrule
    exact ⟨q, ⟨id, hid, hq⟩, hgate⟩

theorem mem_buckets_buildPDRView {b : Ptr} : b ∈ ((buildPDRView qers p).dir ul).buckets ↔
      ∃ id ∈ p.qerIDs, ∃ q, qers.lookup id = some q ∧ q.bucket ul = some b := by
  rw [dir_buildPDRView]
  simp only [mem_filterMap, mem_orderedQERs]
  constructor
  · rintro ⟨q, ⟨id, hid, hq⟩, hb⟩
    exact ⟨id, hid, q, hq, hb⟩
  · rintro ⟨id, hid, q, hq, hb⟩
    exact ⟨q, ⟨id, hid, hq⟩, hb⟩

theorem nodup_buckets_buildPDRView (hnodup : p.qerIDs.Nodup)
    (hinj : ∀ id id' b, (qers.lookup id).bind (·.bucket ul) = some b →
      (qers.lookup id').bind (·.bucket ul) = some b → id = id') :
    ((buildPDRView qers p).dir ul).buckets.Nodup := by
  rw [dir_buildPDRView]
  have hperm : (orderedQERs qers p).Perm (p.qerIDs.filterMap fun id => qers.lookup id) := by
    have h := filter_append_perm (fun q : QERState => q.hasQFI)
      (p.qerIDs.filterMap fun id => qers.lookup id)
    simpa [orderedQERs] using h
  refine (hperm.filterMap _).nodup_iff.2 ?_
  rw [filterMap_filterMap]
  exact hnodup.filterMap fun id id' b h h' => hinj id id' b h h'

theorem lookup_foldl_insert (f : PDRState → PDRView) (hnodup : (l.map PDRState.pdrID).Nodup)
    (m : Map UInt16 PDRView) :
    (∀ p ∈ l, (l.foldl (fun m p => m.insert p.pdrID (f p)) m).lookup p.pdrID = some (f p)) ∧
      ∀ pid, (∀ p ∈ l, p.pdrID ≠ pid) →
        (l.foldl (fun m p => m.insert p.pdrID (f p)) m).lookup pid = m.lookup pid := by
  induction l generalizing m with
  | nil => simp
  | cons q l ih =>
    rw [map_cons, nodup_cons] at hnodup
    obtain ⟨hin, hout⟩ := ih hnodup.2 (m.insert q.pdrID (f q))
    have hq : ∀ p ∈ l, p.pdrID ≠ q.pdrID :=
      fun p hp h => hnodup.1 (h ▸ mem_map_of_mem hp)
    refine ⟨fun p hp => ?_, fun pid hpid => ?_⟩
    · rcases mem_cons.1 hp with rfl | hp
      · rw [foldl_cons, hout _ hq, AList.lookup_insert]
      · exact hin p hp
    · rw [foldl_cons, hout pid fun p hp => hpid p (mem_cons_of_mem _ hp),
        AList.lookup_insert_ne (hpid q mem_cons_self).symm]

theorem nodup_pdrIDs (hkeyed : Keyed pdrs) : ((mapValues pdrs).map PDRState.pdrID).Nodup := by
  have hkeys : (mapValues pdrs).map PDRState.pdrID = pdrs.keys := by
    rw [mapValues, map_map, AList.keys, keys]
    apply map_congr_left
    rintro ⟨pid, p⟩ hmem
    exact hkeyed pid p (AList.mem_lookup_iff.2 hmem)
  rw [hkeys]
  exact pdrs.keys_nodup

def pdrViews (qers : Map UInt32 QERState) (pdrs : Map UInt16 PDRState) : Map UInt16 PDRView :=
  (mapValues pdrs).foldl (fun m p => m.insert p.pdrID (buildPDRView qers p)) ∅

theorem lookup_pdrViews (hkeyed : Keyed pdrs) (hp : pdrs.lookup p.pdrID = some p) :
    (pdrViews qers pdrs).lookup p.pdrID = some (buildPDRView qers p) :=
  (lookup_foldl_insert (buildPDRView qers) (nodup_pdrIDs hkeyed) ∅).1 p
    (mem_mapValues.2 ⟨_, hp⟩)

section

variable (qers : Map UInt32 QERState)

theorem snapshot_byPDR (pdrs : Map UInt16 PDRState) :
    (snapshot qers pdrs).byPDR = pdrViews qers pdrs := by
  unfold snapshot
  cases bestPDR false pdrs <;> cases bestPDR true pdrs <;> dsimp only <;> (try split) <;> rfl

/-- The PDR whose view is published for a direction. -/
def publishedPDR (ul : Bool) (pdrs : Map UInt16 PDRState) : Option PDRState :=
  if ul then bestPDR false pdrs else (bestPDR true pdrs).or (bestPDR false pdrs)

theorem snapshot_eq (pdrs : Map UInt16 PDRState) (ul : Bool) :
    (snapshot qers pdrs).dir ul = (publishedPDR ul pdrs).elim {} fun p =>
      (((pdrViews qers pdrs).lookup p.pdrID).getD {}).dir ul := by
  unfold snapshot publishedPDR
  cases ul <;> cases bestPDR false pdrs <;> cases bestPDR true pdrs <;> dsimp only <;>
    (try split) <;> rfl

theorem governs_iff (hkeyed : Keyed pdrs) :
    (rulesOf qers pdrs).Governs ul p ↔ publishedPDR ul pdrs = some p := by
  cases ul with
  | true => exact first_iff qers hkeyed
  | false =>
    have hside : (∀ pid q, (rulesOf qers pdrs).pdrs pid = some q → q.core = false) ↔
        bestPDR true pdrs = none := by
      simp [bestPDR_eq_none, rulesOf]
    simp [Rules.Governs, publishedPDR, first_iff qers hkeyed, hside, Option.or_eq_some_iff]

end

theorem Rules.Governs.mem (hp : r.Governs ul p) : r.pdrs p.pdrID = some p := by
  cases ul with
  | true => exact First.mem hp
  | false => exact hp.elim First.mem fun h => h.2.mem

/-- What holds of the published direction, and not of an empty one, holds of the PDR that
governs. -/
theorem snapshot_dir_iff (qers : Map UInt32 QERState) (hkeyed : Keyed pdrs) (ul : Bool)
    (P : DirView → Prop) (hempty : ¬ P {}) : P ((snapshot qers pdrs).dir ul) ↔
      ∃ p, (rulesOf qers pdrs).Governs ul p ∧ P ((buildPDRView qers p).dir ul) := by
  simp only [snapshot_eq, governs_iff qers hkeyed]
  cases hpdr : publishedPDR ul pdrs with
  | none => simpa using hempty
  | some p =>
    have hview := @lookup_pdrViews _ qers _ hkeyed ((governs_iff qers hkeyed).2 hpdr).mem
    simp [hview]

end View

/-! ## Packets against buckets -/

section Buckets

variable {n : UInt32} {now : Int64} {buckets : Heap Bucket}

theorem admitBuckets_fst {bs : List Ptr} (hnodup : bs.Nodup) (prev : List Ptr)
    (n now : Int64) (buckets : Heap Bucket) : (admitBuckets n now prev bs buckets).1 = true ↔
      ∀ b ∈ bs, cost n ≤ ((buckets.get b).refill now).tokens := by
  induction bs generalizing prev buckets with
  | nil => simp [admitBuckets]
  | cons b bs ih =>
    rw [nodup_cons] at hnodup
    have hrest : ∀ c ∈ bs, ∀ f, (buckets.modify b f).get c = buckets.get c := by
      intro c hc f
      exact get_modify_of_ne fun h => hnodup.1 (h ▸ hc)
    simp only [admitBuckets, forall_mem_cons]
    by_cases hfits : cost n ≤ ((buckets.get b).refill now).tokens
    · rw [if_pos (by rw [admits_fst, decide_eq_true hfits]), ih hnodup.2]
      constructor
      · intro h
        refine ⟨hfits, fun c hc => ?_⟩
        have hc' := h c hc
        rwa [hrest c hc] at hc'
      · intro h c hc
        rw [hrest c hc]
        exact h.2 c hc
    · rw [if_neg (by rw [admits_fst, decide_eq_false hfits]; simp)]
      simp [hfits]

theorem get_foldl_refund (n : Int64) {prev : List Ptr} (hnodup : prev.Nodup)
    (buckets : Heap Bucket) (c : Ptr) :
    (prev.foldl (fun h p => h.modify p (·.refund n)) buckets).get c =
      if c ∈ prev then (buckets.get c).refund n else buckets.get c := by
  induction prev generalizing buckets with
  | nil => simp
  | cons p prev ih =>
    rw [nodup_cons] at hnodup
    rw [foldl_cons, ih hnodup.2]
    by_cases hc : c = p
    · subst hc
      simp [hnodup.1]
    · simp [hc, get_modify_of_ne hc]

/-- A packet that one of the buckets holds back leaves each bucket as it was or filled up to
the reading; those in `prev`, which have let it through before, get its cost back. -/
theorem admitBuckets_dropped {bs prev : List Ptr} (hnodup : (prev ++ bs).Nodup)
    (hok : ∀ b ∈ bs, (buckets.get b).Ok) (hnow : 0 ≤ now.toInt)
    (hdrop : (admitBuckets (octets n) now prev bs buckets).1 = false) (c : Ptr) :
    ∃ cell, (cell = buckets.get c ∨ c ∉ prev ∧ cell = (buckets.get c).refill now) ∧
      (admitBuckets (octets n) now prev bs buckets).2.get c =
        if c ∈ prev then cell.refund (octets n) else cell := by
  induction bs generalizing prev buckets with
  | nil => exact absurd hdrop (by simp [admitBuckets])
  | cons b bs ih =>
    have hb : b ∉ prev := by
      intro h
      exact (nodup_append.1 hnodup).2.2 b h b mem_cons_self rfl
    simp only [admitBuckets] at hdrop ⊢
    by_cases hfits : cost (octets n) ≤ ((buckets.get b).refill now).tokens
    · -- `b` lets the packet through, and gets its cost back later
      have hfst : ((buckets.get b).admits (octets n) now).1 = true := by
        rw [admits_fst, decide_eq_true hfits]
      rw [if_pos hfst] at hdrop ⊢
      have hbs : ∀ c ∈ bs, c ≠ b := by
        rintro c hc rfl
        have h := (nodup_append.1 hnodup).2.1
        exact (nodup_cons.1 h).1 hc
      have hok' : ∀ c ∈ bs, ((buckets.modify b fun _ =>
          ((buckets.get b).admits (octets n) now).2).get c).Ok := by
        intro c hc
        rw [get_modify_of_ne (hbs c hc)]
        exact hok c (mem_cons_of_mem _ hc)
      obtain ⟨cell, hcell, hget⟩ := ih (by simpa using hnodup) hok' hdrop
      rw [hget]
      by_cases hc : c = b
      · subst hc
        have hcharged : cell = ((buckets.get c).admits (octets n) now).2 := by
          rcases hcell with hcell | ⟨hnot, _⟩
          · simpa using hcell
          · exact absurd hnot (by simp)
        refine ⟨(buckets.get c).refill now, .inr ⟨hb, rfl⟩, ?_⟩
        rw [if_pos (by simp), if_neg hb, hcharged]
        exact (hok c mem_cons_self).refund_admits hnow hfits
      · rw [get_modify_of_ne hc] at hcell
        have hmem : c ∈ prev ++ [b] ↔ c ∈ prev := by simp [hc]
        refine ⟨cell, ?_, by simp only [hmem]⟩
        rwa [hmem] at hcell
    · -- `b` is the one that holds the packet back
      have hfst : ¬ ((buckets.get b).admits (octets n) now).1 = true := by
        rw [admits_fst, decide_eq_false hfits]
        simp
      rw [if_neg hfst]
      rw [admits_of_not_le hfits, get_foldl_refund _ (nodup_append.1 hnodup).1]
      by_cases hc : c = b
      · subst hc
        exact ⟨(buckets.get c).refill now, .inr ⟨hb, rfl⟩, by simp [hb]⟩
      · rw [get_modify_of_ne hc]
        exact ⟨buckets.get c, .inl rfl, rfl⟩

/-- What each bucket of a heap can go through, with no new bucket. -/
def Reach (h h' : Heap Bucket) : Prop :=
  h'.next = h.next ∧ ∀ c, (h.get c).Reaches (h'.get c)

theorem Reach.refl (h : Heap Bucket) : Reach h h := ⟨rfl, fun _ => .refl _⟩

theorem Reach.trans {h h' h'' : Heap Bucket} (hfirst : Reach h h') (hrest : Reach h' h'') :
    Reach h h'' :=
  ⟨hrest.1.trans hfirst.1, fun c => (hfirst.2 c).trans (hrest.2 c)⟩

theorem reach_modify {f : Bucket → Bucket} {b : Ptr}
    (h : (buckets.get b).Reaches (f (buckets.get b))) : Reach buckets (buckets.modify b f) := by
  refine ⟨rfl, fun c => ?_⟩
  by_cases hc : c = b
  · subst hc
    rwa [get_modify_same]
  · rw [get_modify_of_ne hc]
    exact .refl _

theorem reach_foldl_refund (n : UInt32) (prev : List Ptr) (buckets : Heap Bucket) :
    Reach buckets (prev.foldl (fun h p => h.modify p (·.refund (octets n))) buckets) := by
  induction prev generalizing buckets with
  | nil => exact .refl _
  | cons p prev ih =>
    refine .trans (reach_modify ?_) (ih _)
    exact (Bucket.Reaches.refl _).next (s := .refund n) trivial

theorem reach_admitBuckets (n : UInt32) (hnow : 0 ≤ now) (prev bs : List Ptr)
    (buckets : Heap Bucket) : Reach buckets (admitBuckets (octets n) now prev bs buckets).2 := by
  induction bs generalizing prev buckets with
  | nil => exact .refl _
  | cons b bs ih =>
    have hoffer := @reach_modify buckets (fun _ => ((buckets.get b).admits (octets n) now).2) b
      ((Bucket.Reaches.refl _).next (s := .offer n now) hnow)
    simp only [admitBuckets]
    split
    · exact hoffer.trans (ih _ _)
    · exact hoffer.trans (reach_foldl_refund n prev _)

theorem DirView.admits_eq (d : DirView) (n now : Int64) (buckets : Heap Bucket) :
    d.admits n now buckets = if d.gateClosed then ((false, .dropGateClosed), buckets)
      else if (admitBuckets n now [] d.buckets buckets).1 then
        ((true, .dropNone), (admitBuckets n now [] d.buckets buckets).2)
      else ((false, .dropMBRExceeded), (admitBuckets n now [] d.buckets buckets).2) := by
  unfold DirView.admits
  split
  · rfl
  · split
    · rename_i h
      simp [h, admitBuckets]
    · rename_i b h
      simp only [h, admitBuckets]
      split <;> simp
    · rfl

theorem DirView.reach_admits (d : DirView) (n : UInt32) (hnow : 0 ≤ now)
    (buckets : Heap Bucket) : Reach buckets (d.admits (octets n) now buckets).2 := by
  rw [DirView.admits_eq]
  split
  · exact .refl _
  · split <;> exact reach_admitBuckets n hnow [] d.buckets buckets

end Buckets

/-! ## Packets against sessions -/

/-- The snapshot that belongs to the rules of a session. -/
def Session.view (s : Session) : Option QoSView :=
  if s.qers.keys.length = 0 ∧ s.pdrs.keys.length = 0 then none
  else some (snapshot s.qers s.pdrs)

/-- A session whose rules, buckets and snapshot are in order. -/
structure Session.Policed (s : Session) (cfg : QoSConfig) (buckets : Heap Bucket) : Prop where
  keyed : Keyed s.pdrs
  listed : ∀ pid p, s.pdrs.lookup pid = some p → p.qerIDs.Nodup
  published : s.qos = s.view
  apart : ∀ ul id id' b, (s.qers.lookup id).bind (·.bucket ul) = some b →
    (s.qers.lookup id').bind (·.bucket ul) = some b → id = id'
  ok : ∀ ul id b, (s.qers.lookup id).bind (·.bucket ul) = some b → (buckets.get b).Ok
  settled : ∀ ul id q, s.qers.lookup id = some q →
    ((q.bucket ul).isSome ↔ q.effectiveKbps ul cfg ≠ 0)

theorem Session.reach_admitDir (s : Session) (ul : Bool) (n : UInt32) (hnow : 0 ≤ now)
    (buckets : Heap Bucket) : Reach buckets (s.admitDir ul (octets n) now buckets).2 := by
  have hthrough : ∀ view, Reach buckets (s.admitThrough view (octets n) now buckets).2 := by
    intro view
    unfold Session.admitThrough
    split
    · exact .refl _
    · exact DirView.reach_admits _ n hnow buckets
  cases ul
  · exact hthrough _
  · exact hthrough _

namespace Session.Policed

variable {s : Session} {cfg : QoSConfig} {buckets : Heap Bucket} {ul : Bool} {n : UInt32}
  {now : Int64}

section

variable (hs : s.Policed cfg buckets)
include hs

theorem admitDir_eq (ul : Bool) (n now : Int64) : s.admitDir ul n now buckets =
      ((snapshot s.qers s.pdrs).dir ul).admits n now buckets := by
  have hqos := hs.published
  unfold Session.view at hqos
  split_ifs at hqos with hempty
  · have hnone : ∀ pid, s.pdrs.lookup pid = none := by
      intro pid
      rw [AList.lookup_eq_none, AList.mem_keys, eq_nil_of_length_eq_zero hempty.2]
      simp
    have hdir : (snapshot s.qers s.pdrs).dir ul = {} := by
      by_contra hdir
      obtain ⟨p, hp, _⟩ := (snapshot_dir_iff s.qers hs.keyed ul (· ≠ {}) (by simp)).1 hdir
      exact absurd ((hnone _).symm.trans hp.mem) (by simp)
    rw [hdir]
    cases ul <;> simp [Session.admitDir, admitUL, admitDL, admitThrough, hqos, DirView.admits]
  · cases ul <;> simp [Session.admitDir, admitUL, admitDL, admitThrough, hqos, QoSView.dir]

theorem gateClosed_iff :
    ((snapshot s.qers s.pdrs).dir ul).gateClosed = true ↔ s.rules.GateShut ul := by
  rw [snapshot_dir_iff s.qers hs.keyed ul (·.gateClosed = true) (by simp)]
  simp only [gateClosed_buildPDRView s.pdrs]
  rfl

theorem mem_buckets {b : Ptr} :
    b ∈ ((snapshot s.qers s.pdrs).dir ul).buckets ↔ ∃ p, s.rules.Governs ul p ∧
      ∃ id ∈ p.qerIDs, ∃ q, s.qers.lookup id = some q ∧ q.bucket ul = some b := by
  rw [snapshot_dir_iff s.qers hs.keyed ul (b ∈ ·.buckets) (by simp)]
  simp only [mem_buckets_buildPDRView]
  rfl

theorem nodup_buckets (ul : Bool) : ((snapshot s.qers s.pdrs).dir ul).buckets.Nodup := by
  by_contra hdup
  obtain ⟨p, hp, hdup⟩ := (snapshot_dir_iff s.qers hs.keyed ul (¬ ·.buckets.Nodup) (by simp)).1 hdup
  exact hdup (nodup_buckets_buildPDRView (hs.listed _ p hp.mem) (hs.apart ul))

theorem lacks_iff : (¬ ∀ b ∈ ((snapshot s.qers s.pdrs).dir ul).buckets,
      cost (octets n) ≤ ((buckets.get b).refill now).tokens) ↔ s.Lacks cfg buckets ul n now := by
  constructor
  · intro h
    push Not at h
    obtain ⟨b, hb, hless⟩ := h
    obtain ⟨p, hp, id, hid, q, hq, hbucket⟩ := hs.mem_buckets.1 hb
    have hrate := (hs.settled ul id q hq).1 (by rw [hbucket]; rfl)
    exact ⟨p, hp, id, hid, q, hq, hrate, b, hbucket, Int64.not_le.1 hless⟩
  · rintro ⟨p, hp, id, hid, q, hq, _, b, hbucket, hless⟩ hall
    exact absurd (hall b (hs.mem_buckets.2 ⟨p, hp, id, hid, q, hq, hbucket⟩))
      (Int64.not_le.2 hless)

theorem verdict (ul : Bool) (n : UInt32) (now : Int64) :
    ((s.admitDir ul (octets n) now buckets).1 = (false, .dropGateClosed) ↔ s.rules.GateShut ul) ∧
      ((s.admitDir ul (octets n) now buckets).1 = (false, .dropMBRExceeded) ↔
        ¬ s.rules.GateShut ul ∧ s.Lacks cfg buckets ul n now) ∧
      ((s.admitDir ul (octets n) now buckets).1 = (true, .dropNone) ↔
        ¬ s.rules.GateShut ul ∧ ¬ s.Lacks cfg buckets ul n now) := by
  have hall := admitBuckets_fst (hs.nodup_buckets ul) [] (octets n) now buckets
  rw [hs.admitDir_eq, DirView.admits_eq, ← hs.gateClosed_iff, ← hs.lacks_iff, ← hall]
  split_ifs with hgate hfits
  · simp [hgate]
  · simp [hgate, hfits]
  · simp [hgate, hfits]

theorem dropped (hnow : 0 ≤ now.toInt)
    (hdrop : (s.admitDir ul (octets n) now buckets).1.1 = false) (c : Ptr) :
    (s.admitDir ul (octets n) now buckets).2.get c = buckets.get c ∨
      (s.admitDir ul (octets n) now buckets).2.get c = (buckets.get c).refill now := by
  have hok : ∀ b ∈ ((snapshot s.qers s.pdrs).dir ul).buckets, (buckets.get b).Ok := by
    intro b hb
    obtain ⟨p, _, id, _, q, hq, hbucket⟩ := hs.mem_buckets.1 hb
    exact hs.ok ul id b (by rw [hq]; exact hbucket)
  rw [hs.admitDir_eq, DirView.admits_eq] at hdrop ⊢
  split at hdrop
  · rename_i hgate
    rw [if_pos hgate]
    exact .inl rfl
  · rename_i hgate
    rw [if_neg hgate]
    split at hdrop
    · exact absurd hdrop (by simp)
    · rename_i hfits
      rw [if_neg hfits]
      have hfits := Bool.eq_false_iff.2 hfits
      obtain ⟨cell, hcell, hget⟩ := admitBuckets_dropped (by simpa using hs.nodup_buckets ul) hok
        hnow hfits c
      rw [hget, if_neg (by simp)]
      exact hcell.imp id And.right

end

end Session.Policed

end Claudia5gc.Upf
