import Claudia5gc.Upf.Admission
import Claudia5gc.Upf.SessionIndex

/-!
# The buckets of the sessions over whole runs

A bucket belongs to one direction of one QER of one session, and to nothing else: sessions come
and go, rules are created, changed and removed, packets are charged, and no two QERs ever share
a bucket.  With that, and with a snapshot that belongs to the rules, packets are judged as the
rules say after every sequence of requests and packets.
-/

namespace Claudia5gc.Upf

open Go Function List Session AList Heap Bucket QERState QEROp Updates Outcome Except
open Option

variable {ul : Bool} {buckets : Heap Bucket} {now : Int64} {qers : Map UInt32 QERState} {b : Ptr}
  {q q' : QERState} {s : Server} {sess : Session} {req : SessionModificationRequest}

/-! ## The owners of buckets -/

/-- A session, a QER of it, and whether it is the uplink. -/
abbrev Owner := Ptr × UInt32 × Bool

def bucketOf (qers : Map UInt32 QERState) (id : UInt32) (ul : Bool) : Option Ptr :=
  (qers.lookup id).bind (·.bucket ul)

variable (base : Owner → Option Ptr)

def ownIn (p : Ptr) (qers : Map UInt32 QERState) : Owner → Option Ptr :=
  fun o => if o.1 = p then bucketOf qers o.2.1 o.2.2 else base o

theorem ownIn_self (p : Ptr) (qers : Map UInt32 QERState)
    (id : UInt32) (ul : Bool) : ownIn base p qers (p, id, ul) = bucketOf qers id ul :=
  if_pos rfl

theorem bucketOf_of_lookup {id : UInt32} (hq : qers.lookup id = some q) (ul : Bool) :
    bucketOf qers id ul = q.bucket ul := by
  rw [bucketOf, hq]
  rfl

theorem ownIn_insert (p : Ptr) (qers : Map UInt32 QERState) (id : UInt32) (q : QERState) :
    ownIn base p (qers.insert id q) = update (update (ownIn base p qers) (p, id, true) q.ulBucket)
        (p, id, false) q.dlBucket := by
  funext ⟨p', id', ul⟩
  by_cases hp : p' = p
  · subst hp
    rw [ownIn_self]
    by_cases hid : id' = id
    · subst hid
      rw [bucketOf_of_lookup (lookup_insert _)]
      cases ul <;> simp [bucket]
    · rw [update_of_ne (by simp [hid]), update_of_ne (by simp [hid]),
        ownIn_self, bucketOf, lookup_insert_ne hid]
      rfl
  · rw [update_of_ne (by simp [hp]), update_of_ne (by simp [hp]), ownIn,
      ownIn, if_neg hp, if_neg hp]

/-! ## Reconciling one bucket -/

/-- The bucket that a direction of a QER should have, given the one it has. -/
def settle (cfg : QoSConfig) (now : Int64) (want : UInt64) (cell : Option Bucket) : Option Bucket :=
  if want = 0 then none
  else
    match cell with
    | none => some (new want cfg.burstMs now)
    | some c => some (if c.rate ≠ want then c.changeRate want now else c)

def Settled (want : UInt64) : Option Bucket → Prop
  | none => want = 0
  | some c => want ≠ 0 ∧ c.rate = want ∧ c.Ok

section Settle

variable {cfg : QoSConfig} {now : Int64} {want : UInt64}

theorem settled_settle {cell : Option Bucket} (hcell : ∀ c, cell = some c → c.Ok)
    (hnow : 0 ≤ now.toInt) (hwant : want < unlimitedKbps) :
    Settled want (settle cfg now want cell) := by
  unfold settle
  split_ifs with hzero
  · exact hzero
  · have hbounded : boundedRate want = want := by
      apply boundedRate_of_range _ hwant
      rw [UInt64.le_iff_toNat_le]
      rw [← UInt64.toNat_inj] at hzero
      have h0 : (0 : UInt64).toNat = 0 := rfl
      have h1 : (1 : UInt64).toNat = 1 := rfl
      omega
    cases cell with
    | none => exact ⟨hzero, hbounded, Bucket.Ok.new _ _ _ hnow⟩
    | some c =>
      show want ≠ 0 ∧ (if c.rate ≠ want then c.changeRate want now else c).rate = want ∧
        (if c.rate ≠ want then c.changeRate want now else c).Ok
      split_ifs with hrate
      · obtain ⟨hok, hrate, _⟩ := (hcell c rfl).changeRate want hnow
        exact ⟨hzero, hrate.trans hbounded, hok⟩
      · exact ⟨hzero, not_not.1 hrate, hcell c rfl⟩

theorem tokens_eq_min {c : Bucket} (hc : c.Ok) (hnow : 0 ≤ now.toInt) :
    (c.refill now).tokens.toInt = min (c.refill now).tokens.toInt c.depth.toInt := by
  have hle := (hc.refill hnow).le_depth
  have hdepth : (c.refill now).depth = c.depth := by rw [refill_eq]
  rw [hdepth] at hle
  exact (min_eq_left hle).symm

theorem tokens_settle {c c' : Bucket} (hc : c.Ok) (hnow : 0 ≤ now.toInt)
    (h : settle cfg now want (some c) = some c') :
    (c'.refill now).tokens.toInt = min (c.refill now).tokens.toInt c'.depth.toInt := by
  unfold settle at h
  split at h
  · exact absurd h (by simp)
  · obtain rfl := some.inj h
    split
    · exact hc.tokens_changeRate want hnow
    · exact tokens_eq_min hc hnow

theorem effectiveKbps_lt (q : QERRule) (ul : Bool) (cfg : QoSConfig) :
    q.effectiveKbps ul cfg < unlimitedKbps := by
  unfold QERRule.effectiveKbps
  generalize (if ul then q.mbrULKbps else q.mbrDLKbps) = k
  split
  · decide
  · dsimp only
    split_ifs with h
    · decide
    · simp only [Bool.or_eq_true, decide_eq_true_eq, not_or] at h
      exact UInt64.not_le.1 h.2

theorem reconcileBucket_spec {own : Owner → Option Ptr} (ho : Owned own buckets)
    (cfg : QoSConfig) (now : Int64) (want : UInt64) (o : Owner) :
    let r := reconcileBucket (own o) want cfg now buckets
    Owned (update own o r.1) r.2 ∧ r.2.held (update own o r.1) =
        update (buckets.held own) o (settle cfg now want (buckets.held own o)) ∧
      ∀ b, own o = some b → want ≠ 0 → r.1 = some b := by
  unfold reconcileBucket settle
  split_ifs with hzero
  · exact ⟨ho.update_none o, held_update_none own buckets o, fun _ _ h => absurd hzero h⟩
  · cases hown : own o with
    | none =>
      refine ⟨ho.new o _, ?_, fun _ h => absurd h (by simp)⟩
      rw [show buckets.held own o = none by rw [held, hown]; rfl]
      exact ho.held_new o _
    | some p =>
      have hself : update own o (some p) = own := by
        rw [← hown]
        exact update_eq_self o own
      have hheld : buckets.held own o = some (buckets.get p) := by
        rw [held, hown]
        rfl
      rw [hheld]
      dsimp only
      split
      · rw [hself]
        refine ⟨ho.modify p (·.changeRate want now), ?_, fun _ h _ => h⟩
        rw [ho.held_modify hown, hheld]
        rfl
      · rw [hself]
        refine ⟨ho, ?_, fun _ h _ => h⟩
        rw [← hheld, update_eq_self]

end Settle

/-! ## Reconciling the QERs of a session -/

structure Reconciled (base : Owner → Option Ptr) (p : Ptr) (cfg : QoSConfig) (now : Int64)
    (ids : List UInt32) (qers : Map UInt32 QERState) (buckets : Heap Bucket)
    (qers' : Map UInt32 QERState) (buckets' : Heap Bucket) : Prop where
  owned : Owned (ownIn base p qers') buckets'
  settled : ∀ id ∈ ids, ∀ q, qers.lookup id = some q → ∀ ul,
    buckets'.held (ownIn base p qers') (p, id, ul) =
      settle cfg now (q.effectiveKbps ul cfg) (buckets.held (ownIn base p qers) (p, id, ul))
  others : ∀ o : Owner, (o.1 = p → o.2.1 ∉ ids) →
    buckets'.held (ownIn base p qers') o = buckets.held (ownIn base p qers) o
  kept : ∀ id q ul b, qers.lookup id = some q → q.bucket ul = some b →
    q.effectiveKbps ul cfg ≠ 0 → bucketOf qers' id ul = some b

section Reconcile

variable {base : Owner → Option Ptr} {p : Ptr} {cfg : QoSConfig} {now : Int64}

theorem reconciled_insert {id : UInt32} (ho : Owned (ownIn base p qers) buckets)
    (hq : qers.lookup id = some q) : Reconciled base p cfg now [id] qers buckets
      (qers.insert id (q.reconcile cfg now buckets).1) (q.reconcile cfg now buckets).2 := by
  have hownUL : ownIn base p qers (p, id, true) = q.ulBucket := by
    rw [ownIn_self, bucketOf_of_lookup hq]
    rfl
  obtain ⟨howned₁, hheld₁, hkept₁⟩ :=
    reconcileBucket_spec ho cfg now (q.effectiveKbps true cfg) (p, id, true)
  rw [hownUL] at howned₁ hheld₁ hkept₁
  have hne : ((p, id, false) : Owner) ≠ (p, id, true) := by simp
  have hownDL : update (ownIn base p qers) (p, id, true)
      (reconcileBucket q.ulBucket (q.effectiveKbps true cfg) cfg now buckets).1 (p, id, false) =
        q.dlBucket := by
    rw [update_of_ne hne, ownIn_self, bucketOf_of_lookup hq]
    rfl
  obtain ⟨howned₂, hheld₂, hkept₂⟩ :=
    reconcileBucket_spec howned₁ cfg now (q.effectiveKbps false cfg) (p, id, false)
  rw [hownDL] at howned₂ hheld₂ hkept₂
  have hown := ownIn_insert base p qers id (q.reconcile cfg now buckets).1
  refine ⟨?_, ?_, ?_, ?_⟩
  · rw [hown]
    exact howned₂
  · intro id' hid' q' hq' ul
    obtain rfl := mem_singleton.1 hid'
    obtain rfl := some.inj (hq.symm.trans hq')
    rw [hown]
    refine (congrFun hheld₂ _).trans ?_
    cases ul with
    | true => rw [update_of_ne hne.symm, hheld₁, update_self]
    | false => rw [update_self, hheld₁, update_of_ne hne]
  · rintro ⟨p', id', ul⟩ hout
    have hne' : ∀ ul', ((p', id', ul) : Owner) ≠ (p, id, ul') := by
      rintro ul' h
      obtain ⟨rfl, rfl, _⟩ := by simpa using h
      exact hout rfl (by simp)
    rw [hown]
    refine (congrFun hheld₂ _).trans ?_
    rw [update_of_ne (hne' false), hheld₁, update_of_ne (hne' true)]
  · intro id' q' ul b hq' hb hrate
    by_cases hid : id' = id
    · subst hid
      obtain rfl := some.inj (hq.symm.trans hq')
      rw [bucketOf_of_lookup (lookup_insert _)]
      cases ul with
      | true => exact hkept₁ b hb hrate
      | false => exact hkept₂ b hb hrate
    · rw [bucketOf, lookup_insert_ne hid, hq']
      exact hb

theorem reconciled_nil (ho : Owned (ownIn base p qers) buckets) (ids : List UInt32)
    (hids : ∀ id ∈ ids, qers.lookup id = none) :
    Reconciled base p cfg now ids qers buckets qers buckets where
  owned := ho
  settled id hid q hq := absurd (hids id hid ▸ hq) (by simp)
  others _ _ := rfl
  kept id q ul b hq hb _ := by rwa [bucketOf_of_lookup hq]

theorem Reconciled.append {ids ids' : List UInt32} {qers' qers'' : Map UInt32 QERState}
    {buckets' buckets'' : Heap Bucket}
    (h : Reconciled base p cfg now ids qers buckets qers' buckets')
    (h' : Reconciled base p cfg now ids' qers' buckets' qers'' buckets'')
    (hdisjoint : ∀ id ∈ ids, id ∉ ids') (hsame : ∀ id, id ∉ ids → qers'.lookup id = qers.lookup id)
    (hrule : ∀ id, (qers'.lookup id).map toQERRule = (qers.lookup id).map toQERRule) :
    Reconciled base p cfg now (ids ++ ids') qers buckets qers'' buckets'' where
  owned := h'.owned
  settled id hid q hq ul := by
    by_cases hin : id ∈ ids
    · rw [h'.others (p, id, ul) fun _ => hdisjoint id hin, h.settled id hin q hq ul]
    · have hin' : id ∈ ids' := (mem_append.1 hid).resolve_left hin
      rw [h'.settled id hin' q (by rw [hsame id hin, hq]) ul, h.others (p, id, ul) fun _ => hin]
  others o hout := by
    have hout' : o.1 = p → o.2.1 ∉ ids ∧ o.2.1 ∉ ids' := by simpa using hout
    rw [h'.others o fun hp => (hout' hp).2, h.others o fun hp => (hout' hp).1]
  kept id q ul b hq hb hrate := by
    have hb' := h.kept id q ul b hq hb hrate
    have hmap := hrule id
    rw [hq] at hmap
    obtain ⟨q', hq', hrule'⟩ := map_eq_some_iff.1 hmap
    rw [bucketOf_of_lookup hq'] at hb'
    exact h'.kept id q' ul b hq' hb' (by rwa [hrule'])

theorem reconciled_reconcileQERs (ho : Owned (ownIn base p qers) buckets) :
    Reconciled base p cfg now qers.keys qers buckets
      (reconcileQERs cfg now qers buckets).1 (reconcileQERs cfg now qers buckets).2 := by
  have hloop : ∀ (ids : List UInt32) (qers : Map UInt32 QERState) (buckets : Heap Bucket),
      ids.Nodup → Owned (ownIn base p qers) buckets →
      let r := ids.foldl (reconcileStep cfg now) (qers, buckets)
      Reconciled base p cfg now ids qers buckets r.1 r.2 := by
    intro ids
    induction ids with
    | nil =>
      intro qers buckets _ ho
      exact reconciled_nil ho [] (by simp)
    | cons id ids ih =>
      intro qers buckets hnodup ho
      rw [nodup_cons] at hnodup
      rw [foldl_cons, reconcileStep]
      have hdisjoint : ∀ id' ∈ [id], id' ∉ ids := by
        intro id' hid'
        rw [mem_singleton.1 hid']
        exact hnodup.1
      cases hq : lookup id qers with
      | none =>
        exact (reconciled_nil ho [id] (by simpa using hq)).append (ih qers buckets hnodup.2 ho)
          hdisjoint (fun _ _ => rfl) fun _ => rfl
      | some q =>
        have hone : Reconciled base p cfg now [id] qers buckets _ _ := reconciled_insert ho hq
        refine hone.append (ih _ _ hnodup.2 hone.owned) hdisjoint ?_ ?_
        · intro id' hid'
          exact lookup_insert_ne (by simpa using hid')
        · intro id'
          by_cases hid' : id' = id
          · subst hid'
            rw [lookup_insert, hq]
            rfl
          · rw [lookup_insert_ne hid']
  exact hloop qers.keys qers buckets qers.keys_nodup ho

theorem keys_length_eq_zero {ν : Type} {m : Map UInt32 ν} :
    m.keys.length = 0 ↔ ∀ id, AList.lookup id m = none := by
  rw [length_eq_zero_iff, eq_nil_iff_forall_not_mem]
  simp only [AList.lookup_eq_none, AList.mem_keys]

structure Rebuilt (base : Owner → Option Ptr) (p : Ptr) (cfg : QoSConfig) (now : Int64)
    (sess : Session) (buckets : Heap Bucket) (sess' : Session) (buckets' : Heap Bucket) : Prop where
  owned : Owned (ownIn base p sess'.qers) buckets'
  settled : ∀ id q ul, sess'.qers.lookup id = some q →
    Settled (q.effectiveKbps ul cfg) (buckets'.held (ownIn base p sess'.qers) (p, id, ul))
  others : ∀ o : Owner, o.1 ≠ p →
    buckets'.held (ownIn base p sess'.qers) o = buckets.held (ownIn base p sess.qers) o
  pdrs : sess'.pdrs = sess.pdrs
  published : sess'.qos = sess'.view
  kept : ∀ id q ul b, sess.qers.lookup id = some q → q.bucket ul = some b →
    q.effectiveKbps ul cfg ≠ 0 → bucketOf sess'.qers id ul = some b ∧
      ((buckets'.get b).refill now).tokens.toInt =
        min ((buckets.get b).refill now).tokens.toInt (buckets'.get b).depth.toInt

theorem held_of_bucketOf {id : UInt32} (h : bucketOf qers id ul = some b) :
    buckets.held (ownIn base p qers) (p, id, ul) = some (buckets.get b) := by
  rw [held, ownIn_self, h]
  rfl

theorem rebuilt_rebuildQoS (ho : Owned (ownIn base p sess.qers) buckets)
    (hok : ∀ id ul b, bucketOf sess.qers id ul = some b → (buckets.get b).Ok)
    (hnow : 0 ≤ now.toInt) : Rebuilt base p cfg now sess buckets (sess.rebuildQoS cfg now buckets).1
      (sess.rebuildQoS cfg now buckets).2 := by
  unfold rebuildQoS
  split
  · -- without rules there is no snapshot and nothing to settle
    rename_i hempty
    have hnone := keys_length_eq_zero.1 hempty.1
    exact {
      owned := ho
      settled := fun id q ul hq => absurd (hnone id ▸ hq) (by simp)
      others := fun _ _ => rfl
      pdrs := rfl
      published := (if_pos hempty).symm
      kept := fun id q ul b hq => absurd (hnone id ▸ hq) (by simp) }
  · rename_i hrules
    have hloop : Reconciled base p cfg.normalized now sess.qers.keys sess.qers buckets _ _ :=
      reconciled_reconcileQERs ho
    have hlookup : ∀ id, ((reconcileQERs cfg.normalized now sess.qers buckets).1.lookup id).map
        toQERRule = (sess.qers.lookup id).map toQERRule := fun id =>
      congrFun (congrArg Rules.qers
        (rules_reconcileQERs cfg.normalized now sess.qers sess.pdrs buckets)) id
    have hmem : ∀ {id q}, sess.qers.lookup id = some q → id ∈ sess.qers.keys := by
      intro id q hq
      rw [← AList.mem_keys, ← AList.lookup_isSome, hq]
      rfl
    have hcell : ∀ id ul c, buckets.held (ownIn base p sess.qers) (p, id, ul) = some c → c.Ok := by
      intro id ul c hc
      rw [held, ownIn_self] at hc
      obtain ⟨b, hb, rfl⟩ := map_eq_some_iff.1 hc
      exact hok id ul b hb
    refine ⟨hloop.owned, ?_, ?_, rfl, ?_, ?_⟩
    · intro id q' ul hq'
      have hmap := hlookup id
      rw [hq'] at hmap
      obtain ⟨q, hq, hrule⟩ := map_eq_some_iff.1 hmap.symm
      rw [← hrule, hloop.settled id (hmem hq) q hq ul]
      exact settled_settle (hcell id ul) hnow (effectiveKbps_lt ..)
    · exact fun o hp => hloop.others o fun h => absurd h hp
    · refine (if_neg ?_).symm
      rintro ⟨hqers, hpdrs⟩
      refine hrules ⟨keys_length_eq_zero.2 fun id => ?_, hpdrs⟩
      have hmap := hlookup id
      rw [keys_length_eq_zero.1 hqers id] at hmap
      exact map_eq_none_iff.1 hmap.symm
    · intro id q ul b hq hb hrate
      have hb' := hloop.kept id q ul b hq hb hrate
      refine ⟨hb', ?_⟩
      have hbefore := bucketOf_of_lookup hq ul
      rw [hb] at hbefore
      have hsettle := hloop.settled id (hmem hq) q hq ul
      rw [held_of_bucketOf hb', held_of_bucketOf hbefore] at hsettle
      exact tokens_settle (hok id ul b hbefore) hnow hsettle.symm

end Reconcile

/-! ## The rules that requests make -/

structure Shaped (pdrs : Map UInt16 PDRState) : Prop where
  keyed : Keyed pdrs
  listed : ∀ pid p, pdrs.lookup pid = some p → p.qerIDs.Nodup

theorem nodup_appendQERID {l : List UInt32} (h : l.Nodup) (id : UInt32) :
    (appendQERID l id).Nodup := by
  unfold appendQERID
  split_ifs with hid
  · exact h
  · exact nodup_append.2 ⟨h, by simp, fun a ha b hb => by
      rw [mem_singleton.1 hb]
      exact fun hab => hid (hab ▸ ha)⟩

theorem nodup_parsePDRQoS {children : List IE} {p : PDRState}
    (h : parsePDRQoS children = .ok p) : p.qerIDs.Nodup := by
  refine foldlM_keeps (P := fun p : PDRState => p.qerIDs.Nodup) ?_ h nodup_nil
  intro p c p' hc hp
  unfold parsePDRChild at hc
  split at hc
  · obtain rfl := ok.inj hc
    exact hp
  · obtain rfl := ok.inj hc
    exact hp
  · obtain ⟨id, _, hc⟩ := bind_eq_ok.1 hc
    obtain rfl := ok.inj hc
    exact nodup_appendQERID hp id
  · rename_i pdi
    obtain rfl := ok.inj hc
    refine foldlRecOn (motive := fun p : PDRState => p.qerIDs.Nodup) pdi _ hp
      fun p hp c _ => ?_
    unfold parseSourceInterface
    split <;> exact hp
  · obtain rfl := ok.inj hc
    exact hp

theorem nodup_planUpdatePDR {ie : Grouped} {u : PdrListUpdate} (h : planUpdatePDR ie = .ok u) :
    u.qers.Nodup := by
  obtain ⟨children, _, h⟩ := bind_eq_ok.1 h
  obtain ⟨r, hr, h⟩ := bind_eq_ok.1 h
  obtain ⟨_, _, h⟩ := bind_eq_ok.1 h
  obtain rfl := ok.inj h
  refine foldlM_keeps (P := fun r : PdrListUpdate × Bool => r.1.qers.Nodup) ?_ hr nodup_nil
  intro r c r' hc hr
  unfold parseUpdatePDRChild at hc
  split at hc
  · obtain ⟨_, _, hc⟩ := bind_eq_ok.1 hc
    obtain rfl := ok.inj hc
    exact hr
  · obtain ⟨id, _, hc⟩ := bind_eq_ok.1 hc
    obtain rfl := ok.inj hc
    exact nodup_appendQERID hr id
  · obtain rfl := ok.inj hc
    exact hr

theorem SessionEstablishmentRequest.session_shaped {req : SessionEstablishmentRequest}
    (h : req.session = .ok sess) : Shaped sess.pdrs ∧ ∀ id ul, bucketOf sess.qers id ul = none := by
  obtain ⟨scan, hscan, h⟩ := bind_eq_ok.1 h
  obtain ⟨⟨qers, pdrs⟩, hqos, h⟩ := bind_eq_ok.1 h
  obtain rfl := ok.inj h
  obtain ⟨qers', hqers, hqos⟩ := bind_eq_ok.1 hqos
  obtain ⟨_, _, hqos⟩ := bind_eq_ok.1 hqos
  obtain ⟨rfl, rfl⟩ := Prod.mk.inj (ok.inj hqos)
  -- the PDRs that the scan collects
  have hstates : ∀ p ∈ scan.pdrStates, p.qerIDs.Nodup := by
    refine foldlM_keeps (P := fun scan : PDRScan => ∀ p ∈ scan.pdrStates, p.qerIDs.Nodup)
      ?_ hscan (by simp)
    intro scan ie scan' hie hs
    cases ie with
    | none =>
      obtain rfl := ok.inj hie
      exact hs
    | some ies =>
      obtain ⟨ps, hps, hie⟩ := bind_eq_ok.1 hie
      obtain rfl := ok.inj hie
      refine foldlRecOn (motive := fun scan : PDRScan => ∀ p ∈ scan.pdrStates, p.qerIDs.Nodup)
        ies _ ?_ fun scan hs c _ => ?_
      · intro p hp
        rcases mem_append.1 hp with hp | hp
        · exact hs p hp
        · rw [mem_singleton.1 hp]
          exact nodup_parsePDRQoS hps
      · unfold PDRScan.addChild
        split
        · refine foldlRecOn (motive := fun scan : PDRScan => ∀ p ∈ scan.pdrStates,
            p.qerIDs.Nodup) _ _ hs fun scan hs c _ => ?_
          unfold PDRScan.addPdiChild
          split <;> exact hs
        · exact hs
  refine ⟨?_, ?_⟩
  · refine foldlRecOn (motive := Shaped) _ _ ⟨nofun, nofun⟩ fun m hm st hst => ⟨?_, ?_⟩
    · intro pid p hp
      rcases Map.lookup_insert_eq_some.1 hp with ⟨rfl, rfl⟩ | ⟨_, hp⟩
      · rfl
      · exact hm.keyed pid p hp
    · intro pid p hp
      rcases Map.lookup_insert_eq_some.1 hp with ⟨rfl, rfl⟩ | ⟨_, hp⟩
      · exact hstates _ hst
      · exact hm.listed pid p hp
  · refine foldlM_keeps (P := fun m : Map UInt32 QERState => ∀ id ul, bucketOf m id ul = none)
      ?_ hqers fun _ _ => rfl
    intro m ie m' hie hm id ul
    obtain ⟨_, _, hie⟩ := bind_eq_ok.1 hie
    obtain ⟨p, _, hie⟩ := bind_eq_ok.1 hie
    obtain ⟨_, _, hie⟩ := bind_eq_ok.1 hie
    obtain ⟨_, _, hie⟩ := bind_eq_ok.1 hie
    obtain rfl := ok.inj hie
    by_cases hid : id = p.id
    · subst hid
      rw [bucketOf_of_lookup (lookup_insert _)]
      cases ul <;> rfl
    · rw [bucketOf, lookup_insert_ne hid]
      exact hm id ul

section Plan

variable {qers qers' : Map UInt32 QERState} {pdrs pdrs' : Map UInt16 PDRState} {plan : ModPlan}

theorem bucket_foldl_actState (ops : List QEROp) (f : UInt32 → Option QERState) {id : UInt32}
    (h : (ops.foldl (apply key actState) f id).bind (·.bucket ul) = some b) :
    (f id).bind (·.bucket ul) = some b := by
  induction ops generalizing f with
  | nil => exact h
  | cons o ops ih =>
    have hone := ih _ h
    by_cases hid : id = o.key
    · subst hid
      rw [apply, update_self] at hone
      cases o with
      | remove id => exact absurd hone (by simp [actState])
      | create p => cases ul <;> exact absurd hone (by simp [actState, QERParams.newState, bucket])
      | update p =>
        cases hf : f (key (.update p)) with
        | none => exact absurd hone (by simp [actState, hf])
        | some q =>
          rw [hf] at hone
          cases ul <;> exact hone
    · rwa [apply, update_of_ne hid] at hone

theorem kept_foldl_actState (ops : List QEROp) (f : UInt32 → Option QERState) {id : UInt32}
    (hops : ∀ o ∈ ops, o.key = id → o.kind ≠ .create)
    (h : ops.foldl (apply key actState) f id = some q') :
    ∃ q, f id = some q ∧ ∀ ul, q'.bucket ul = q.bucket ul := by
  induction ops generalizing f with
  | nil => exact ⟨q', h, fun _ => rfl⟩
  | cons o ops ih =>
    obtain ⟨q, hq, hsame⟩ := ih _ (fun o ho => hops o (mem_cons_of_mem _ ho)) h
    by_cases hid : id = o.key
    · subst hid
      rw [apply, update_self] at hq
      cases o with
      | remove id => exact absurd hq (by simp [actState])
      | create p => exact absurd rfl (hops _ mem_cons_self rfl)
      | update p =>
        obtain ⟨q₀, hq₀, rfl⟩ := map_eq_some_iff.1 hq
        refine ⟨q₀, hq₀, fun ul => ?_⟩
        rw [hsame]
        cases ul <;> rfl
    · rw [apply, update_of_ne hid] at hq
      exact ⟨q, hq, hsame⟩

theorem applyPlan_shaped (hfits : plan.Fits qers pdrs)
    (hlists : ∀ u ∈ plan.pdrs, u.qers.Nodup) (hshaped : Shaped pdrs)
    (h : applyPlan qers pdrs plan = .ok (qers', pdrs')) :
    (∀ id ul b, bucketOf qers' id ul = some b → bucketOf qers id ul = some b) ∧
      (∀ id q q', qers.lookup id = some q → qers'.lookup id = some q' →
        ∀ ul, q'.bucket ul = q.bucket ul) ∧ Shaped pdrs' := by
  obtain ⟨qers'', pdrs'', h', _, hqers, hpdrs⟩ := applyPlan_eq hfits
  obtain ⟨rfl, rfl⟩ := Prod.mk.inj (ok.inj (h'.symm.trans h))
  refine ⟨?_, ?_, ?_⟩
  · intro id ul b hb
    rw [bucketOf, congrFun hqers id] at hb
    exact bucket_foldl_actState _ _ hb
  · intro id q q' hq hq' ul
    rw [congrFun hqers id] at hq'
    have hops : ∀ o ∈ plan.qerOps, o.key = id → o.kind ≠ .create := by
      intro o ho hkey hkind
      cases o with
      | remove id | update p => exact absurd hkind (by simp [kind])
      | create p =>
        have hp : p ∈ plan.creates := by simpa [ModPlan.qerOps] using ho
        refine hfits.creates p hp ?_
        rw [← lookup_isSome, show p.id = id from hkey, hq]
        rfl
    obtain ⟨q₀, hq₀, hsame⟩ := kept_foldl_actState _ _ hops hq'
    rw [hsame, some.inj (hq₀.symm.trans hq)]
  · have hall : ∀ pid p, (fun pid => lookup pid pdrs'') pid = some p →
        p.pdrID = pid ∧ p.qerIDs.Nodup := by
      rw [hpdrs]
      refine foldlRecOn (motive := fun f : UInt16 → Option PDRState => ∀ pid p,
        f pid = some p → p.pdrID = pid ∧ p.qerIDs.Nodup) _ _
        (fun pid p hp => ⟨hshaped.keyed pid p hp, hshaped.listed pid p hp⟩) ?_
      intro f hf u hu pid p hp
      by_cases hpid : pid = u.pdrID
      · subst hpid
        rw [apply, update_self] at hp
        obtain ⟨p₀, hp₀, rfl⟩ := map_eq_some_iff.1 hp
        exact ⟨(hf _ p₀ hp₀).1, hlists u hu⟩
      · rw [apply, update_of_ne hpid] at hp
        exact hf pid p hp
    exact ⟨fun pid p hp => (hall pid p hp).1, fun pid p hp => (hall pid p hp).2⟩

theorem nodup_plan (hparse : parsePlan req.rules = .ok plan) : ∀ u ∈ plan.pdrs, u.qers.Nodup := by
  intro u hu
  rw [(parsePlan_eq_ok hparse).2] at hu
  obtain ⟨op, hop, hu⟩ := mem_filterMap.1 hu
  obtain ⟨ie, _, hie⟩ := mem_filterMap.1 hop
  cases op with
  | updatePDR u' =>
    obtain rfl := some.inj hu
    cases ie with
    | updatePDR ie =>
      cases hplan : planUpdatePDR ie with
      | error rej => simp [ModificationIE.op, hplan, Except.toOption] at hie
      | ok u'' =>
        simp only [ModificationIE.op, hplan, Except.toOption, map_eq_some_iff,
          filter_eq_some_iff] at hie
        obtain ⟨u₁, ⟨hsome, _⟩, hop⟩ := hie
        obtain rfl := some.inj hsome
        obtain rfl := RuleOp.updatePDR.inj hop
        exact nodup_planUpdatePDR hplan
    | _ => simp [ModificationIE.op] at hie
  | _ => simp [RuleOp.pdrOp] at hu

end Plan

namespace Server

/-! ## The sessions of the server -/

def own (s : Server) : Owner → Option Ptr := fun o => bucketOf (s.heap.get o.1).qers o.2.1 o.2.2

/-- What holds of the sessions, in the table or not, and of their buckets. -/
structure Coherent (s : Server) : Prop where
  tabled : s.Tabled
  owned : Owned s.own s.buckets
  settled : ∀ p id q ul, (s.heap.get p).qers.lookup id = some q →
    Settled (q.effectiveKbps ul s.cfg) (s.buckets.held s.own (p, id, ul))
  shaped : ∀ p, Shaped (s.heap.get p).pdrs
  published : ∀ p, s.Live p → (s.heap.get p).qos = (s.heap.get p).view

section Coherent

variable {s s' : Server} {p : Ptr}

theorem Coherent.ok (hs : s.Coherent) {o : Owner} (ho : s.own o = some b) :
    (s.buckets.get b).Ok := by
  obtain ⟨q, hq, _⟩ := bind_eq_some_iff.1 ho
  have hsettled := hs.settled o.1 o.2.1 q o.2.2 hq
  rw [show s.buckets.held s.own (o.1, o.2.1, o.2.2) = some (s.buckets.get b) by
    rw [held, ho]; rfl] at hsettled
  exact hsettled.2.2

theorem Coherent.rebuilt (hs : s.Coherent) (sess : Session)
    (hsub : ∀ id ul b, bucketOf sess.qers id ul = some b → s.own (p, id, ul) = some b)
    (hnow : 0 ≤ now.toInt) :
    Rebuilt s.own p s.cfg now sess s.buckets (sess.rebuildQoS s.cfg now s.buckets).1
      (sess.rebuildQoS s.cfg now s.buckets).2 := by
  refine rebuilt_rebuildQoS (hs.owned.mono ?_) (fun id ul b hb => hs.ok (hsub id ul b hb)) hnow
  rintro ⟨p', id, ul⟩ b hb
  by_cases hp : p' = p
  · subst hp
    rw [ownIn_self] at hb
    exact hsub id ul b hb
  · rwa [ownIn, if_neg hp] at hb

structure Replaces (s : Server) (p : Ptr) (sess : Session) (buckets : Heap Bucket)
    (s' : Server) : Prop where
  cfg : s'.cfg = s.cfg
  buckets : s'.buckets = buckets
  others : ∀ q, q ≠ p → s'.heap.get q = s.heap.get q
  qers : (s'.heap.get p).qers = sess.qers
  pdrs : (s'.heap.get p).pdrs = sess.pdrs
  qos : (s'.heap.get p).qos = sess.qos

theorem Replaces.own (h : Replaces s p sess buckets s') : s'.own = ownIn s.own p sess.qers := by
  funext ⟨p', id, ul⟩
  by_cases hp : p' = p
  · subst hp
    rw [ownIn_self, Server.own, h.qers]
  · rw [ownIn, if_neg hp, Server.own, Server.own, h.others p' hp]

theorem Coherent.replaces (hs : s.Coherent) {sess' : Session}
    (hrebuilt : Rebuilt s.own p s.cfg now sess s.buckets sess' buckets)
    (hshaped : Shaped sess.pdrs) (h : Replaces s p sess' buckets s') (htabled : s'.Tabled)
    (hlive : ∀ q, q ≠ p → s'.Live q → s.Live q) : s'.Coherent := by
  have hown := h.own
  refine ⟨htabled, ?_, ?_, ?_, ?_⟩
  · rw [hown, h.buckets]
    exact hrebuilt.owned
  · intro p' id q ul hq
    rw [hown, h.buckets, h.cfg]
    by_cases hp : p' = p
    · subst hp
      rw [h.qers] at hq
      exact hrebuilt.settled id q ul hq
    · rw [h.others p' hp] at hq
      rw [hrebuilt.others _ hp]
      have hold := hs.settled p' id q ul hq
      rwa [show s.buckets.held (ownIn s.own p sess.qers) (p', id, ul) =
        s.buckets.held s.own (p', id, ul) by rw [held, held, ownIn, if_neg hp]]
  · intro p'
    by_cases hp : p' = p
    · subst hp
      rw [h.pdrs, hrebuilt.pdrs]
      exact hshaped
    · rw [h.others p' hp]
      exact hs.shaped p'
  · intro p' hp'
    by_cases hp : p' = p
    · subst hp
      rw [h.qos, hrebuilt.published, view, view, h.qers, h.pdrs]
    · rw [h.others p' hp]
      exact hs.published p' (hlive p' hp hp')

theorem Coherent.same (hs : s.Coherent) (hcfg : s'.cfg = s.cfg)
    (hnext : s'.buckets.next = s.buckets.next)
    (hreaches : ∀ b, (s.buckets.get b).Reaches (s'.buckets.get b))
    (hqers : ∀ q, (s'.heap.get q).qers = (s.heap.get q).qers)
    (hpdrs : ∀ q, (s'.heap.get q).pdrs = (s.heap.get q).pdrs)
    (hlive : ∀ q, s'.Live q → s.Live q ∧ (s'.heap.get q).qos = (s.heap.get q).qos)
    (htabled : s'.Tabled) : s'.Coherent := by
  have hown : s'.own = s.own := by
    funext ⟨p, id, ul⟩
    rw [own, own, hqers]
  refine ⟨htabled, ?_, ?_, ?_, ?_⟩
  · rw [hown]
    exact ⟨fun o b hb => by rw [hnext]; exact hs.owned.lt o b hb, hs.owned.inj⟩
  · intro p id q ul hq
    rw [hqers] at hq
    have hsettled := hs.settled p id q ul hq
    rw [hown, hcfg]
    rw [held] at hsettled ⊢
    cases hb : s.own (p, id, ul) with
    | none =>
      rw [hb] at hsettled
      exact hsettled
    | some b =>
      rw [hb] at hsettled
      obtain ⟨hwant, hrate, hok⟩ := hsettled
      obtain ⟨hok', hrate'⟩ := (hreaches b).ok hok
      exact ⟨hwant, hrate'.trans hrate, hok'⟩
  · intro p
    rw [hpdrs]
    exact hs.shaped p
  · intro p hp
    obtain ⟨hp, hqos⟩ := hlive p hp
    rw [hqos, hs.published p hp, view, view, hqers, hpdrs]

/-! ## Requests -/

theorem next_modification_cases (s : Server) (req : SessionModificationRequest) (now : Int64) :
    s.next (.modification req now) = s ∨ ∃ p, s.bySEID.lookup req.seid = some p ∧
      (Replaces s p (s.heap.get p) s.buckets (s.next (.modification req now)) ∨
        ∃ plan qers pdrs, parsePlan req.rules = .ok plan ∧
          plan.Fits (s.heap.get p).qers (s.heap.get p).pdrs ∧
          applyPlan (s.heap.get p).qers (s.heap.get p).pdrs plan = .ok (qers, pdrs) ∧
          let r := { s.heap.get p with qers := qers, pdrs := pdrs }.rebuildQoS s.cfg now s.buckets
          Replaces s p r.1 r.2 (s.next (.modification req now))) := by
  obtain ⟨resp, h⟩ := dispatch_eq_ok s (.modification req now)
  generalize s.next (.modification req now) = s' at h ⊢
  unfold dispatch handleSessionModification at h
  dsimp only at h
  split at h
  · obtain ⟨_, rfl⟩ := Prod.mk.inj (ok.inj h)
    exact .inl rfl
  · rename_i p hp
    split at h
    · obtain ⟨_, rfl⟩ := Prod.mk.inj (ok.inj h)
      exact .inl rfl
    · rename_i plan hplan
      obtain ⟨hparse, hfits⟩ := planModificationQoS_eq_ok hplan
      refine .inr ⟨p, hp, ?_⟩
      -- the tunnel comes last and changes no rule
      have htunnel : ∀ (sess : Session) (heap : Heap Session), heap.get p = sess →
          (∀ q, q ≠ p → heap.get q = s.heap.get q) → ∀ buckets, Replaces s p sess buckets { s with
            heap := heap.modify p fun sess => req.updateFAR.foldl applyUpdateFAR sess
            buckets := buckets } := by
        intro sess heap hsess hothers buckets
        obtain ⟨teid, ip, hsame⟩ := sameButTunnel_updateFAR req.updateFAR sess
        refine ⟨rfl, rfl, fun q hq => ?_, ?_, ?_, ?_⟩
        · rw [get_modify_of_ne hq]
          exact hothers q hq
        · rw [get_modify_same, hsess, hsame]
        · rw [get_modify_same, hsess, hsame]
        · rw [get_modify_same, hsess, hsame]
      split_ifs at h with hempty
      · obtain ⟨_, rfl⟩ := Prod.mk.inj (ok.inj h)
        exact .inl (htunnel _ s.heap rfl (fun _ _ => rfl) s.buckets)
      · obtain ⟨s₁, hs₁, h⟩ := bind_eq_ok.1 h
        obtain ⟨_, rfl⟩ := Prod.mk.inj (ok.inj h)
        obtain ⟨⟨qers, pdrs⟩, happly, hs₁⟩ := bind_eq_ok.1 hs₁
        obtain rfl := ok.inj hs₁
        refine .inr ⟨plan, qers, pdrs, hparse, hfits (by simpa using hempty), happly, ?_⟩
        intro r
        exact htunnel r.1 (s.heap.modify p fun _ => r.1) (get_modify_same ..)
          (fun q hq => get_modify_of_ne hq) r.2

theorem Coherent.modification (hs : s.Coherent) (req : SessionModificationRequest)
    (hnow : 0 ≤ now.toInt) : (s.next (.modification req now)).Coherent := by
  have hsame := sameTable_modification s req now
  have htabled := hsame.tabled hs.tabled
  have hlive : ∀ q, (s.next (.modification req now)).Live q → s.Live q := by
    intro q hq
    rwa [hsame.live] at hq
  rcases next_modification_cases s req now with hnone | ⟨p, hp, htunnel | hplan⟩
  · rw [hnone]
    exact hs
  · have hget : ∀ {β : Type} (f : Session → β),
        f ((s.next (.modification req now)).heap.get p) = f (s.heap.get p) →
        ∀ q, f ((s.next (.modification req now)).heap.get q) = f (s.heap.get q) := by
      intro β f hf q
      by_cases hq : q = p
      · rw [hq, hf]
      · rw [htunnel.others q hq]
    refine hs.same htunnel.cfg (by rw [htunnel.buckets]) (fun b => ?_)
      (hget qers htunnel.qers) (hget pdrs htunnel.pdrs)
      (fun q hq => ⟨hlive q hq, hget qos htunnel.qos q⟩) htabled
    rw [htunnel.buckets]
    exact .refl _
  · obtain ⟨plan, qers, pdrs, hparse, hfits, happly, hreplaces⟩ := hplan
    obtain ⟨hsub, _, hshaped⟩ :=
      applyPlan_shaped hfits (nodup_plan hparse) (hs.shaped p) happly
    exact hs.replaces (hs.rebuilt _ hsub hnow) hshaped hreplaces htabled fun q _ => hlive q

theorem Coherent.establishment (hs : s.Coherent) (req : SessionEstablishmentRequest)
    (hnow : 0 ≤ now.toInt) : (s.next (.establishment req now)).Coherent := by
  cases hsess : req.session with
  | error rej =>
    rw [next_establishment_error hsess]
    exact hs
  | ok sess =>
    obtain ⟨hshaped, hnone⟩ := req.session_shaped hsess
    have hrebuilt := hs.rebuilt (p := s.heap.next) sess
      (fun id ul b hb => absurd (hnone id ul ▸ hb) (by simp)) hnow
    have htabled := hs.tabled.next (.establishment req now)
    rw [next_establishment_ok hsess] at htabled ⊢
    have hget : (s.heap.new (sess.rebuildQoS s.cfg now s.buckets).1).2.get s.heap.next =
        (sess.rebuildQoS s.cfg now s.buckets).1 := by
      rw [get_new, if_pos rfl]
    refine hs.replaces hrebuilt hshaped ⟨rfl, rfl, fun q hq => ?_, ?_, ?_, ?_⟩ htabled ?_
    · show (s.heap.new _).2.get q = _
      rw [get_new, if_neg hq]
    · exact congrArg qers hget
    · exact congrArg pdrs hget
    · exact congrArg qos hget
    · intro q hq hlive
      have hold : ({ s with buckets := (sess.rebuildQoS s.cfg now s.buckets).2 } : Server).Tabled :=
        hs.tabled
      exact (((hold.live_store _ q).1 hlive).resolve_left hq).1

theorem Coherent.deletion (hs : s.Coherent) (seid : UInt64) :
    (s.next (.deletion seid)).Coherent := by
  cases hp : s.bySEID.lookup seid with
  | none =>
    rw [next_deletion_none hp]
    exact hs
  | some p =>
    have htabled := hs.tabled.next (.deletion seid)
    rw [next_deletion_some hp] at htabled ⊢
    obtain ⟨hseids, hheap⟩ := bySEID_delete
      (s := { s with heap := s.heap.modify p ({ · with qos := none }) }) hp
    have hrest : ∀ s₁ : Server, (s₁.delete seid).cfg = s₁.cfg ∧
        (s₁.delete seid).buckets = s₁.buckets := by
      intro s₁
      unfold delete
      split <;> exact ⟨rfl, rfl⟩
    obtain ⟨hcfg, hbuckets⟩ := hrest { s with heap := s.heap.modify p ({ · with qos := none }) }
    refine hs.same hcfg (by rw [hbuckets]) (fun b => ?_) (fun q => ?_) (fun q => ?_)
      (fun q hq => ?_) htabled
    · rw [hbuckets]
      exact .refl _
    · rw [hheap]
      dsimp only
      refine get_modify_field qers (fun _ => ?_) q
      rfl
    · rw [hheap]
      dsimp only
      refine get_modify_field pdrs (fun _ => ?_) q
      rfl
    · -- the session that loses its snapshot leaves the table
      obtain ⟨seid', hq⟩ := hq
      rw [hseids] at hq
      obtain ⟨hne, hold⟩ := Map.lookup_erase_eq_some.1 hq
      have hqp : q ≠ p := by
        rintro rfl
        exact hne ((hs.tabled _ q hold).2.symm.trans (hs.tabled _ q hp).2)
      refine ⟨⟨seid', hold⟩, ?_⟩
      rw [hheap]
      rw [get_modify_of_ne hqp]

end Coherent

end Server

/-! ## Runs -/

inductive Event where
  | request (req : Request)
  | packet (p : Ptr) (ul : Bool) (n : UInt32) (now : Int64)

/-- The clock reads no less than nothing. -/
def Event.Timed : Event → Prop
  | .request (.establishment _ now) => 0 ≤ now
  | .request (.modification _ now) => 0 ≤ now
  | .request (.deletion _) => True
  | .packet _ _ _ now => 0 ≤ now

namespace Server

def step (s : Server) : Event → Server
  | .request req => s.next req
  | .packet p ul n now =>
    { s with buckets := ((s.heap.get p).admitDir ul (octets n) now s.buckets).2 }

theorem Coherent.step (hs : s.Coherent) {e : Event} (he : e.Timed) : (s.step e).Coherent := by
  cases e with
  | request req =>
    cases req with
    | establishment req now => exact hs.establishment req (Bucket.Step.nonneg_of_timed (n := 0) he)
    | modification req now => exact hs.modification req (Bucket.Step.nonneg_of_timed (n := 0) he)
    | deletion seid => exact hs.deletion seid
  | packet p ul n now =>
    obtain ⟨hnext, hreaches⟩ := (s.heap.get p).reach_admitDir ul n he s.buckets
    exact hs.same rfl hnext hreaches (fun _ => rfl) (fun _ => rfl) (fun q hq => ⟨hq, rfl⟩)
      hs.tabled

theorem coherent_run (cfg : QoSConfig) {events : List Event} (htimed : ∀ e ∈ events, e.Timed) :
    (events.foldl Server.step { cfg := cfg }).Coherent := by
  have hempty : Coherent { cfg := cfg } :=
    ⟨fun _ _ h => absurd h (by simp), ⟨fun _ _ h => absurd h nofun, fun _ _ _ h => absurd h nofun⟩,
      fun _ _ _ _ h => absurd h nofun, fun _ => ⟨fun _ _ h => absurd h nofun,
        fun _ _ h => absurd h nofun⟩, fun _ h => absurd h.choose_spec (by simp)⟩
  exact foldlRecOn (motive := Coherent) events _ hempty fun s hs e he => hs.step (htimed e he)

structure Enforces (s : Server) (p : Ptr) : Prop where
  /-- A packet is dropped for a closed gate, or for a bucket that lacks tokens when no gate is
  closed, and for nothing else. -/
  verdict : ∀ ul n now,
    ((((s.heap.get p).admitDir ul (octets n) now s.buckets).1 = (false, .dropGateClosed) ↔
        (s.heap.get p).rules.GateShut ul) ∧
      (((s.heap.get p).admitDir ul (octets n) now s.buckets).1 = (false, .dropMBRExceeded) ↔
        ¬ (s.heap.get p).rules.GateShut ul ∧ (s.heap.get p).Lacks s.cfg s.buckets ul n now) ∧
      (((s.heap.get p).admitDir ul (octets n) now s.buckets).1 = (true, .dropNone) ↔
        ¬ (s.heap.get p).rules.GateShut ul ∧ ¬ (s.heap.get p).Lacks s.cfg s.buckets ul n now))
  /-- After a packet that is dropped, every bucket of every session is at each later reading
  what it would be without the packet. -/
  undisturbed : ∀ ul n now, 0 ≤ now →
    ((s.heap.get p).admitDir ul (octets n) now s.buckets).1.1 = false →
    ∀ o b, s.own o = some b → ∀ t, now ≤ t →
      ((((s.heap.get p).admitDir ul (octets n) now s.buckets).2.get b).refill t) =
        (s.buckets.get b).refill t
  /-- The snapshot offers packets of a PDR to the buckets of its QERs, so that PDRs with a QER
  in common have its bucket in common. -/
  shared : ∀ v, (s.heap.get p).qos = some v → ∀ pid pdr, (s.heap.get p).pdrs.lookup pid = some pdr →
      ∃ pv, v.byPDR.lookup pid = some pv ∧ ∀ ul b, b ∈ (pv.dir ul).buckets ↔
        ∃ id ∈ pdr.qerIDs, bucketOf (s.heap.get p).qers id ul = some b
  /-- A direction of a QER has a bucket exactly when it has a rate, and the bucket polices
  that rate. -/
  policed : ∀ id q ul, (s.heap.get p).qers.lookup id = some q →
    (q.effectiveKbps ul s.cfg = 0 ∧ q.bucket ul = none) ∨
      q.effectiveKbps ul s.cfg ≠ 0 ∧ ∃ b, q.bucket ul = some b ∧
        (s.buckets.get b).rate = q.effectiveKbps ul s.cfg
  /-- No bucket serves two QERs, two directions or two sessions. -/
  distinct : ∀ o o' b, s.own o = some b → s.own o' = some b → o = o'
  /-- A modification leaves a QER that has a rate before and after it its bucket, and the bucket
  its tokens as far as the new depth holds them. -/
  survives : ∀ req now, 0 ≤ now → s.bySEID.lookup req.seid = some p →
    ∀ id q q' ul b, (s.heap.get p).qers.lookup id = some q → q.bucket ul = some b →
      ((s.next (.modification req now)).heap.get p).qers.lookup id = some q' →
      q'.effectiveKbps ul s.cfg ≠ 0 → q'.bucket ul = some b ∧
        (((s.next (.modification req now)).buckets.get b).refill now).tokens.toInt =
          min ((s.buckets.get b).refill now).tokens.toInt
            ((s.next (.modification req now)).buckets.get b).depth.toInt

theorem Coherent.settled_bucket (hs : s.Coherent) {p : Ptr} {id : UInt32}
    (hq : (s.heap.get p).qers.lookup id = some q) (ul : Bool) :
    Settled (q.effectiveKbps ul s.cfg) ((q.bucket ul).map s.buckets.get) := by
  have hsettled := hs.settled p id q ul hq
  rwa [held, show s.own (p, id, ul) = q.bucket ul from bucketOf_of_lookup hq ul] at hsettled

theorem Coherent.policed (hs : s.Coherent) {p : Ptr} (hp : s.Live p) :
    (s.heap.get p).Policed s.cfg s.buckets := by
  refine ⟨(hs.shaped p).keyed, (hs.shaped p).listed, hs.published p hp, ?_, ?_, ?_⟩
  · intro ul id id' b h h'
    have heq := hs.owned.inj (p, id, ul) (p, id', ul) b h h'
    simpa using heq
  · exact fun ul id b h => hs.ok (o := (p, id, ul)) h
  · intro ul id q hq
    have hsettled := hs.settled_bucket hq ul
    cases hb : q.bucket ul with
    | none =>
      rw [hb] at hsettled
      exact ⟨fun h => absurd h (by simp), fun h => absurd hsettled h⟩
    | some b =>
      rw [hb] at hsettled
      simpa using hsettled.1

theorem Coherent.survives (hs : s.Coherent) {p : Ptr}
    (hnow : 0 ≤ now.toInt) (hreq : s.bySEID.lookup req.seid = some p) {id : UInt32}
    (hq : (s.heap.get p).qers.lookup id = some q) (hb : q.bucket ul = some b)
    (hq' : ((s.next (.modification req now)).heap.get p).qers.lookup id = some q')
    (hrate : q'.effectiveKbps ul s.cfg ≠ 0) : q'.bucket ul = some b ∧
      (((s.next (.modification req now)).buckets.get b).refill now).tokens.toInt =
        min ((s.buckets.get b).refill now).tokens.toInt
          ((s.next (.modification req now)).buckets.get b).depth.toInt := by
  have hown : s.own (p, id, ul) = some b := (bucketOf_of_lookup hq ul).trans hb
  have htokens := tokens_eq_min (hs.ok hown) hnow
  rcases next_modification_cases s req now with hnone | ⟨p', hp', htunnel | hplan⟩
  · rw [hnone] at hq' ⊢
    obtain rfl := some.inj (hq.symm.trans hq')
    exact ⟨hb, htokens⟩
  · obtain rfl := some.inj (hreq.symm.trans hp')
    rw [htunnel.qers] at hq'
    obtain rfl := some.inj (hq.symm.trans hq')
    rw [htunnel.buckets]
    exact ⟨hb, htokens⟩
  · obtain rfl := some.inj (hreq.symm.trans hp')
    obtain ⟨plan, qers, pdrs, hparse, hfits, happly, hreplaces⟩ := hplan
    obtain ⟨hsub, hkept, _⟩ := applyPlan_shaped hfits (nodup_plan hparse) (hs.shaped p) happly
    have hrebuilt := hs.rebuilt { s.heap.get p with qers := qers, pdrs := pdrs }
      hsub hnow
    rw [hreplaces.qers] at hq'
    -- the QER as the plan leaves it, with the bucket it had
    have hrules := congrFun (congrArg Rules.qers (rules_rebuildQoS
      { s.heap.get p with qers := qers, pdrs := pdrs } s.cfg now s.buckets)) id
    have hmap : (lookup id qers).map toQERRule = some q'.toQERRule :=
      hrules.symm.trans (congrArg (Option.map toQERRule) hq')
    obtain ⟨q₀, hq₀, hrule⟩ := map_eq_some_iff.1 hmap
    have hb₀ : q₀.bucket ul = some b := (hkept id q q₀ hq hq₀ ul).trans hb
    obtain ⟨hbucket, htokens⟩ := hrebuilt.kept id q₀ ul b hq₀ hb₀ (by rwa [hrule])
    rw [bucketOf_of_lookup hq'] at hbucket
    rw [hreplaces.buckets]
    exact ⟨hbucket, htokens⟩

/-- After every sequence of requests and packets, the sessions in the table are policed as
their rules say. -/
theorem packets_follow_rules (cfg : QoSConfig) (events : List Event)
    (htimed : ∀ e ∈ events, e.Timed) (p : Ptr)
    (hp : (events.foldl Server.step { cfg := cfg }).Live p) :
    Enforces (events.foldl Server.step { cfg := cfg }) p := by
  have hs := coherent_run cfg htimed
  generalize events.foldl Server.step { cfg := cfg } = s at hs hp
  have hpoliced := hs.policed hp
  refine ⟨hpoliced.verdict, ?_, ?_, ?_, hs.owned.inj, ?_⟩
  · intro ul n now hnow hdrop o b ho t ht
    have hnow' := Bucket.Step.nonneg_of_timed (n := n) hnow
    rcases hpoliced.dropped hnow' hdrop b with hsame | hfilled
    · rw [hsame]
    · rw [hfilled]
      exact (hs.ok ho).refill_refill hnow' ht
  · intro v hv pid pdr hpdr
    have hview := hpoliced.published
    rw [hv, view] at hview
    split at hview
    · exact absurd hview (by simp)
    · obtain rfl := some.inj hview
      obtain rfl := hpoliced.keyed pid pdr hpdr
      refine ⟨buildPDRView (s.heap.get p).qers pdr, ?_, fun ul b => ?_⟩
      · rw [snapshot_byPDR]
        exact lookup_pdrViews hpoliced.keyed hpdr
      · rw [mem_buckets_buildPDRView]
        simp only [bucketOf, bind_eq_some_iff]
  · intro id q ul hq
    have hsettled := hs.settled_bucket hq ul
    cases hb : q.bucket ul with
    | none =>
      rw [hb] at hsettled
      exact .inl ⟨hsettled, rfl⟩
    | some b =>
      rw [hb] at hsettled
      exact .inr ⟨hsettled.1, b, rfl, hsettled.2.1⟩
  · intro req now hnow hreq id q q' ul b hq hb hq' hrate
    exact hs.survives (Bucket.Step.nonneg_of_timed (n := 0) hnow) hreq hq hb hq' hrate

/-- A session with one QER of 1000 kbps lets a first packet of 10000 octets through and drops
a second one at the same reading. -/
theorem packets_follow_rules_second_dropped :
    let s := [Event.request (.establishment oneRule 0), .packet 0 true 10000 0].foldl
      Server.step { cfg := {} }
    ((s.heap.get 0).admitDir true (octets 10000) 0 s.buckets).1 =
        (false, .dropMBRExceeded) ∧ Enforces s 0 := by
  refine ⟨by decide +kernel, packets_follow_rules {} _ ?_ 0 ⟨7, by decide +kernel⟩⟩
  simp only [forall_mem_cons, not_mem_nil, false_imp_iff, implies_true, and_true]
  exact ⟨Int64.le_refl 0, Int64.le_refl 0⟩

end Server

end Claudia5gc.Upf
