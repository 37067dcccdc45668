import Claudia5gc.SecondaryIndex
import Claudia5gc.Upf.Modification

/-!
# The indexes of the session table

The packet path finds a session by its uplink TEID, by the IPv4 address of the UE or by the /64
network of its IPv6 address.  Over every sequence of requests, each of these indexes should lead to
sessions that are in the table and have the key, and the deletion of one session should not make
another one unreachable.
-/

namespace Claudia5gc.Upf

open Go SecondaryIndex Session Outcome AList Heap

variable {p : Ptr} {s s' : Server} {seid : UInt64}

/-! ## The keys of a session -/

/-- The uplink TEID by which a session is found; zero stands for none. -/
def Session.ulKey (s : Session) : Option UInt32 := if s.ulTEID ≠ 0 then some s.ulTEID else none

/-- The UE address by which a session is found. -/
def Session.ipKey (s : Session) : Option Addr := ueAddr s.ueIP

/-- The /64 network by which a session is found. -/
def Session.netKey (s : Session) : Option Bytes := ueV6Prefix s.ueIPv6

structure SessionIds where
  upSEID : UInt64
  ulTEID : UInt32
  ueIP : Bytes
  ueIPv6 : Bytes

def Session.ids (s : Session) : SessionIds := ⟨s.upSEID, s.ulTEID, s.ueIP, s.ueIPv6⟩

theorem length_pos_of_ueAddr {ip : Bytes} {a : Addr} (h : ueAddr ip = some a) : 0 < ip.length := by
  rw [List.length_pos_iff]
  rintro rfl
  simp [ueAddr] at h

theorem Session.keys_eq_of_ids {s s' : Session} (h : s'.ids = s.ids) :
    s'.upSEID = s.upSEID ∧ s'.ulKey = s.ulKey ∧ s'.ipKey = s.ipKey ∧ s'.netKey = s.netKey := by
  obtain ⟨hseid, hteid, hip, hnet⟩ := SessionIds.mk.inj h
  rw [ulKey, ulKey, ipKey, ipKey, netKey, netKey, hteid, hip, hnet]
  exact ⟨hseid, rfl, rfl, rfl⟩

theorem Session.ids_rebuildQoS (s : Session) (cfg : QoSConfig) (now : Int64)
    (buckets : Heap Bucket) : (s.rebuildQoS cfg now buckets).1.ids = s.ids := by
  unfold rebuildQoS
  split <;> rfl

theorem Session.ids_foldl_updateFAR (ies : List Grouped) (s : Session) :
    (ies.foldl Server.applyUpdateFAR s).ids = s.ids := by
  obtain ⟨_, _, h⟩ := sameButTunnel_updateFAR ies s
  rw [h]
  rfl

namespace Server

/-! ## Running requests -/

def next (s : Server) (req : Request) : Server :=
  match s.dispatch req with
  | .ok (_, s') => s'
  | _ => s

theorem dispatch_eq_ok (s : Server) (req : Request) :
    ∃ resp, s.dispatch req = .ok (resp, s.next req) := by
  suffices h : ∃ r, s.dispatch req = .ok r by
    obtain ⟨⟨resp, s'⟩, h⟩ := h
    refine ⟨resp, ?_⟩
    rw [next, h]
  cases req with
  | establishment req now | deletion seid => exact ⟨_, rfl⟩
  | modification req now =>
    unfold dispatch handleSessionModification
    dsimp only
    split
    · exact ⟨_, rfl⟩
    · split
      · exact ⟨_, rfl⟩
      · rename_i plan hplan
        obtain ⟨hparse, hfits⟩ := planModificationQoS_eq_ok hplan
        by_cases hempty : plan.empty = true
        · rw [if_pos hempty]
          exact ⟨_, rfl⟩
        · obtain ⟨s', happly, _⟩ := applyQoS_eq_ok hparse (hfits (by simpa using hempty)) now
          rw [if_neg hempty, happly]
          exact ⟨_, rfl⟩

/-- The session is in the table. -/
def Live (s : Server) (p : Ptr) : Prop := ∃ seid, s.bySEID.lookup seid = some p

/-- Every entry of an index leads to a session that is in the table and has the key. -/
structure IndexesSound (s : Server) : Prop where
  ulteid : SecondaryIndex.Sound s.Live (fun p => (s.heap.get p).ulKey)
    fun teid => s.byULTEID.lookup teid
  ueip : SecondaryIndex.Sound s.Live (fun p => (s.heap.get p).ipKey)
    fun a => s.byUEIP.lookup a
  ueipv6 : SecondaryIndex.Sound s.Live (fun p => (s.heap.get p).netKey)
    fun net => s.byUEIPv6Net.lookup net

/-- What a request should leave: sound indexes, and after a deletion every other session found
as before. -/
structure Intact (s : Server) (req : Request) : Prop where
  sound : (s.next req).IndexesSound
  kept : ∀ seid, req = .deletion seid → ∀ p, s.Live p → s.bySEID.lookup seid ≠ some p →
    (∀ teid, s.byULTEID.lookup teid = some p → (s.next req).byULTEID.lookup teid = some p) ∧
    (∀ a, s.byUEIP.lookup a = some p → (s.next req).byUEIP.lookup a = some p) ∧
    ∀ net, s.byUEIPv6Net.lookup net = some p → (s.next req).byUEIPv6Net.lookup net = some p

def Orderly (s : Server) : Request → Prop
  | .establishment req _ => ∀ sess old, req.session = .ok sess →
    s.bySEID.lookup sess.upSEID = some old →
      (∀ teid, s.byULTEID.lookup teid = some old → sess.ulKey = some teid) ∧
      (∀ a, s.byUEIP.lookup a = some old → sess.ipKey = some a) ∧
      ∀ net, s.byUEIPv6Net.lookup net = some old → sess.netKey = some net
  | .modification _ _ => True
  | .deletion seid => ∀ p, s.bySEID.lookup seid = some p →
      (∀ teid q, (s.heap.get p).ulKey = some teid → s.byULTEID.lookup teid = some q → q = p) ∧
      (∀ a q, (s.heap.get p).ipKey = some a → s.byUEIP.lookup a = some q → q = p) ∧
      ∀ net q, (s.heap.get p).netKey = some net → s.byUEIPv6Net.lookup net = some q → q = p

/-- The table holds each session under its SEID. -/
def Tabled (s : Server) : Prop :=
  ∀ seid p, s.bySEID.lookup seid = some p → p < s.heap.next ∧ (s.heap.get p).upSEID = seid

theorem Tabled.lt_of_live (hs : s.Tabled) (hp : s.Live p) : p < s.heap.next := by
  obtain ⟨seid, hseid⟩ := hp
  exact (hs seid p hseid).1

/-! ## Modifications -/

structure SameTable (s s' : Server) : Prop where
  seid : s'.bySEID = s.bySEID
  ulteid : s'.byULTEID = s.byULTEID
  ueip : s'.byUEIP = s.byUEIP
  ueipv6 : s'.byUEIPv6Net = s.byUEIPv6Net
  next : s'.heap.next = s.heap.next
  ids : ∀ p, (s'.heap.get p).ids = (s.heap.get p).ids

section SameTable

variable {s s' : Server}

section

variable (h : SameTable s s')
include h

theorem SameTable.live : s'.Live = s.Live := by
  funext p
  rw [Live, Live, h.seid]

theorem SameTable.sound (hs : s.IndexesSound) : s'.IndexesSound := by
  have hkeys := fun p => keys_eq_of_ids (h.ids p)
  refine ⟨?_, ?_, ?_⟩
  · rw [h.live, h.ulteid, funext fun p => (hkeys p).2.1]
    exact hs.ulteid
  · rw [h.live, h.ueip, funext fun p => (hkeys p).2.2.1]
    exact hs.ueip
  · rw [h.live, h.ueipv6, funext fun p => (hkeys p).2.2.2]
    exact hs.ueipv6

theorem SameTable.tabled (hs : s.Tabled) : s'.Tabled := by
  intro seid p hp
  rw [h.seid] at hp
  rw [h.next, (keys_eq_of_ids (h.ids p)).1]
  exact hs seid p hp

theorem SameTable.orderly_deletion (seid : UInt64) :
    s'.Orderly (.deletion seid) ↔ s.Orderly (.deletion seid) := by
  have hkeys := fun p => keys_eq_of_ids (h.ids p)
  unfold Orderly
  rw [h.seid, h.ulteid, h.ueip, h.ueipv6]
  simp only [(hkeys _).2.1, (hkeys _).2.2.1, (hkeys _).2.2.2]

end

theorem SameTable.modify (s : Server) (p : Ptr) (f : Session → Session) (buckets : Heap Bucket)
    (hf : (f (s.heap.get p)).ids = (s.heap.get p).ids) :
    SameTable s { s with heap := s.heap.modify p f, buckets := buckets } := by
  refine ⟨rfl, rfl, rfl, rfl, rfl, fun q => ?_⟩
  by_cases hq : q = p
  · subst hq
    rw [get_modify_same, hf]
  · rw [get_modify_of_ne hq]

theorem sameTable_dropQoS (s : Server) (p : Ptr) :
    SameTable s { s with heap := s.heap.modify p ({ · with qos := none }) } :=
  SameTable.modify s p _ s.buckets rfl

theorem SameTable.trans {s'' : Server} (h : SameTable s s') (h' : SameTable s' s'') :
    SameTable s s'' :=
  ⟨h'.seid.trans h.seid, h'.ulteid.trans h.ulteid, h'.ueip.trans h.ueip,
    h'.ueipv6.trans h.ueipv6, h'.next.trans h.next, fun p => (h'.ids p).trans (h.ids p)⟩

theorem SameTable.refl (s : Server) : SameTable s s :=
  ⟨rfl, rfl, rfl, rfl, rfl, fun _ => rfl⟩

end SameTable

theorem sameTable_applyQoS {plan : ModPlan} {now : Int64}
    (h : s.applyQoS p plan now = .ok s') : SameTable s s' := by
  obtain ⟨⟨qers, pdrs⟩, _, h⟩ := bind_eq_ok.1 h
  obtain rfl := (ok.inj h).symm
  exact SameTable.modify s p _ _ (ids_rebuildQoS ..)

theorem sameTable_modification (s : Server) (req : SessionModificationRequest) (now : Int64) :
    SameTable s (s.next (.modification req now)) := by
  obtain ⟨resp, h⟩ := dispatch_eq_ok s (.modification req now)
  generalize s.next (.modification req now) = s' at h ⊢
  unfold dispatch handleSessionModification at h
  dsimp only at h
  split at h
  · obtain ⟨_, rfl⟩ := Prod.mk.inj (ok.inj h)
    exact SameTable.refl s
  · rename_i p _
    split at h
    · obtain ⟨_, rfl⟩ := Prod.mk.inj (ok.inj h)
      exact SameTable.refl s
    · have hlast := fun s₁ : Server => SameTable.modify s₁ p
        (fun sess => req.updateFAR.foldl applyUpdateFAR sess) s₁.buckets
        (ids_foldl_updateFAR ..)
      split at h
      · obtain ⟨_, rfl⟩ := Prod.mk.inj (ok.inj h)
        exact hlast s
      · obtain ⟨s₁, hs₁, h⟩ := bind_eq_ok.1 h
        obtain ⟨_, rfl⟩ := Prod.mk.inj (ok.inj h)
        exact (sameTable_applyQoS hs₁).trans (hlast s₁)

/-! ## Establishments -/

section Establishment

variable {s : Server} {req : SessionEstablishmentRequest} {now : Int64} {sess : Session}

theorem next_establishment_error {rej : PfcpReject} (h : req.session = .error rej) :
    s.next (.establishment req now) = s := by
  show (s.handleSessionEstablishment req now).2 = s
  unfold handleSessionEstablishment
  rw [h]

theorem next_establishment_ok (h : req.session = .ok sess) : s.next (.establishment req now) =
      { s with buckets := (sess.rebuildQoS s.cfg now s.buckets).2 }.store
        (sess.rebuildQoS s.cfg now s.buckets).1 := by
  show (s.handleSessionEstablishment req now).2 = _
  unfold handleSessionEstablishment
  rw [h]

variable (s sess)

theorem lookup_byULTEID_store : (fun teid => (s.store sess).byULTEID.lookup teid) =
    enter sess.ulKey s.heap.next fun teid => s.byULTEID.lookup teid := by
  by_cases hzero : sess.ulTEID = 0
  · simp [store, ulKey, hzero]
  · simp [store, ulKey, hzero, Map.lookup_insert_fun]

theorem lookup_byUEIP_store : (fun a => (s.store sess).byUEIP.lookup a) =
    enter sess.ipKey s.heap.next fun a => s.byUEIP.lookup a := by
  cases hkey : ueAddr sess.ueIP with
  | none => simp [store, ipKey, hkey]
  | some a => simp [store, ipKey, hkey, length_pos_of_ueAddr hkey, Map.lookup_insert_fun]

theorem lookup_byUEIPv6Net_store : (fun net => (s.store sess).byUEIPv6Net.lookup net) =
    enter sess.netKey s.heap.next fun net => s.byUEIPv6Net.lookup net := by
  cases hkey : ueV6Prefix sess.ueIPv6 with
  | none => simp [store, netKey, hkey]
  | some net => simp [store, netKey, hkey, Map.lookup_insert_fun]

variable {s sess}

theorem Tabled.store (hs : s.Tabled) : (s.store sess).Tabled := by
  intro seid p hp
  rcases Map.lookup_insert_eq_some.1 hp with ⟨rfl, rfl⟩ | ⟨_, hold⟩
  · refine ⟨Nat.lt_succ_self _, ?_⟩
    exact congrArg upSEID (get_new_next s.heap sess)
  · obtain ⟨hlt, hseid⟩ := hs seid p hold
    refine ⟨Nat.lt_succ_of_lt hlt, ?_⟩
    show ((s.heap.new sess).2.get p).upSEID = _
    rw [get_new_of_lt hlt, hseid]

theorem Tabled.live_store (hs : s.Tabled) (sess : Session) (p : Ptr) : (s.store sess).Live p ↔
      p = s.heap.next ∨ (s.Live p ∧ ¬ s.bySEID.lookup sess.upSEID = some p) := by
  constructor
  · rintro ⟨seid, hp⟩
    rcases Map.lookup_insert_eq_some.1 hp with ⟨_, rfl⟩ | ⟨hne, hold⟩
    · exact Or.inl rfl
    · refine Or.inr ⟨⟨seid, hold⟩, fun hgone => hne ?_⟩
      rw [← (hs seid p hold).2, (hs _ p hgone).2]
  · rintro (rfl | ⟨⟨seid, hold⟩, hstays⟩)
    · exact ⟨sess.upSEID, Map.lookup_insert_eq_some.2 (Or.inl ⟨rfl, rfl⟩)⟩
    · refine ⟨seid, Map.lookup_insert_eq_some.2 (Or.inr ⟨?_, hold⟩)⟩
      rintro rfl
      exact hstays hold

theorem Tabled.sound_enter_iff (hs : s.Tabled) (sess : Session) {κ : Type} [DecidableEq κ]
    (key : Session → Option κ) {find : κ → Option Ptr}
    (hsound : Sound s.Live (fun p => key (s.heap.get p)) find) :
    Sound (s.store sess).Live (fun p => key ((s.store sess).heap.get p))
        (enter (key sess) s.heap.next find) ↔
      ∀ k old, find k = some old → s.bySEID.lookup sess.upSEID = some old → key sess = some k := by
  have hfresh : ¬ s.Live s.heap.next := fun h => Nat.lt_irrefl _ (hs.lt_of_live h)
  have hnew : (s.store sess).heap.get s.heap.next = sess := get_new_next ..
  have hiff := SecondaryIndex.sound_enter_iff (fun p => key ((s.store sess).heap.get p)) hsound
    hfresh (hs.live_store sess) fun p hp => congrArg key (get_new_of_lt (hs.lt_of_live hp))
  simpa only [hnew] using hiff

theorem Tabled.sound_store_iff (hs : s.Tabled) (hsound : s.IndexesSound) (sess : Session) :
    (s.store sess).IndexesSound ↔ ∀ old, s.bySEID.lookup sess.upSEID = some old →
      (∀ teid, s.byULTEID.lookup teid = some old → sess.ulKey = some teid) ∧
      (∀ a, s.byUEIP.lookup a = some old → sess.ipKey = some a) ∧
      ∀ net, s.byUEIPv6Net.lookup net = some old → sess.netKey = some net := by
  have hul := hs.sound_enter_iff sess ulKey hsound.ulteid
  have hip := hs.sound_enter_iff sess ipKey hsound.ueip
  have hnet := hs.sound_enter_iff sess netKey hsound.ueipv6
  rw [← lookup_byULTEID_store] at hul
  rw [← lookup_byUEIP_store] at hip
  rw [← lookup_byUEIPv6Net_store] at hnet
  constructor
  · intro hafter old hgone
    exact ⟨fun teid h => hul.1 hafter.ulteid teid old h hgone,
      fun a h => hip.1 hafter.ueip a old h hgone, fun net h => hnet.1 hafter.ueipv6 net old h hgone⟩
  · intro htakes
    exact ⟨hul.2 fun teid old h hgone => (htakes old hgone).1 teid h,
      hip.2 fun a old h hgone => (htakes old hgone).2.1 a h,
      hnet.2 fun net old h hgone => (htakes old hgone).2.2 net h⟩

end Establishment

/-! ## Deletions -/

section Deletion

variable {s : Server} {seid : UInt64} {p : Ptr}

theorem next_deletion_none (h : s.bySEID.lookup seid = none) : s.next (.deletion seid) = s := by
  show (s.handleSessionDeletion seid).2 = s
  unfold handleSessionDeletion
  rw [h]

theorem next_deletion_some (h : s.bySEID.lookup seid = some p) : s.next (.deletion seid) =
      { s with heap := s.heap.modify p ({ · with qos := none }) }.delete seid := by
  show (s.handleSessionDeletion seid).2 = _
  unfold handleSessionDeletion
  rw [h]

theorem IndexesSound.lookup_zero (hsound : s.IndexesSound) : s.byULTEID.lookup 0 = none := by
  rw [Option.eq_none_iff_forall_ne_some]
  intro q hq
  have hkey := (hsound.ulteid 0 q hq).2
  simp only [ulKey] at hkey
  split at hkey
  · rename_i hne
    exact hne (Option.some.inj hkey)
  · exact absurd hkey (by simp)

section

variable (hp : s.bySEID.lookup seid = some p)
include hp

theorem lookup_byULTEID_delete (hsound : s.IndexesSound) :
    (fun teid => (s.delete seid).byULTEID.lookup teid) =
      leave (s.heap.get p).ulKey fun teid => s.byULTEID.lookup teid := by
  have herase : (s.delete seid).byULTEID = s.byULTEID.erase (s.heap.get p).ulTEID := by
    simp [delete, hp]
  rw [herase, Map.lookup_erase_fun]
  by_cases hzero : (s.heap.get p).ulTEID = 0
  · -- the code erases the entry of TEID zero, which is never there
    have hkey : (s.heap.get p).ulKey = none := by simp [ulKey, hzero]
    rw [hzero, hkey, leave_none, ← hsound.lookup_zero, Function.update_eq_self]
  · have hkey : (s.heap.get p).ulKey = some (s.heap.get p).ulTEID := by
      simp [ulKey, hzero]
    rw [hkey, leave_some]

theorem lookup_byUEIP_delete : (fun a => (s.delete seid).byUEIP.lookup a) =
      leave (s.heap.get p).ipKey fun a => s.byUEIP.lookup a := by
  cases hkey : ueAddr (s.heap.get p).ueIP with
  | none => simp [delete, hp, ipKey, hkey]
  | some a => simp [delete, hp, ipKey, hkey, length_pos_of_ueAddr hkey, Map.lookup_erase_fun]

theorem lookup_byUEIPv6Net_delete : (fun net => (s.delete seid).byUEIPv6Net.lookup net) =
      leave (s.heap.get p).netKey fun net => s.byUEIPv6Net.lookup net := by
  cases hkey : ueV6Prefix (s.heap.get p).ueIPv6 with
  | none => simp [delete, hp, netKey, hkey]
  | some net => simp [delete, hp, netKey, hkey, Map.lookup_erase_fun]

theorem bySEID_delete :
    (s.delete seid).bySEID = s.bySEID.erase seid ∧ (s.delete seid).heap = s.heap := by
  unfold delete
  rw [hp]
  exact ⟨rfl, rfl⟩

theorem Tabled.delete (hs : s.Tabled) : (s.delete seid).Tabled := by
  obtain ⟨hseids, hheap⟩ := bySEID_delete hp
  intro seid' q hq
  rw [hseids] at hq
  rw [hheap]
  exact hs seid' q (Map.lookup_erase_eq_some.1 hq).2

theorem live_delete {q : Ptr} (hq : s.Live q) (hne : q ≠ p) : (s.delete seid).Live q := by
  obtain ⟨seid', hq⟩ := hq
  refine ⟨seid', ?_⟩
  rw [(bySEID_delete hp).1]
  refine Map.lookup_erase_eq_some.2 ⟨?_, hq⟩
  rintro rfl
  exact hne (Option.some.inj (hq.symm.trans hp))

end

theorem IndexesSound.delete (hsound : s.IndexesSound) (hp : s.bySEID.lookup seid = some p) :
    (s.delete seid).IndexesSound := by
  have hlive := fun q hq hne => live_delete hp (q := q) hq hne
  refine ⟨?_, ?_, ?_⟩
  · rw [lookup_byULTEID_delete hp hsound, (bySEID_delete hp).2]
    exact hsound.ulteid.leave hlive
  · rw [lookup_byUEIP_delete hp, (bySEID_delete hp).2]
    exact hsound.ueip.leave hlive
  · rw [lookup_byUEIPv6Net_delete hp, (bySEID_delete hp).2]
    exact hsound.ueipv6.leave hlive

/-- A deletion keeps the others reachable exactly when the entries it takes back are those of
its session. -/
theorem IndexesSound.kept_delete_iff (hsound : s.IndexesSound)
    (hp : s.bySEID.lookup seid = some p) : (∀ q, s.Live q → s.bySEID.lookup seid ≠ some q →
      (∀ teid, s.byULTEID.lookup teid = some q → (s.delete seid).byULTEID.lookup teid = some q) ∧
      (∀ a, s.byUEIP.lookup a = some q → (s.delete seid).byUEIP.lookup a = some q) ∧
      ∀ net, s.byUEIPv6Net.lookup net = some q →
        (s.delete seid).byUEIPv6Net.lookup net = some q) ↔ s.Orderly (.deletion seid) := by
  have hul := leave_keeps_iff (fun q => (s.heap.get q).ulKey)
    (fun teid => s.byULTEID.lookup teid) p
  have hip := leave_keeps_iff (fun q => (s.heap.get q).ipKey)
    (fun a => s.byUEIP.lookup a) p
  have hnet := leave_keeps_iff (fun q => (s.heap.get q).netKey)
    (fun net => s.byUEIPv6Net.lookup net) p
  rw [← lookup_byULTEID_delete hp hsound] at hul
  rw [← lookup_byUEIP_delete hp] at hip
  rw [← lookup_byUEIPv6Net_delete hp] at hnet
  have hother : ∀ q, s.bySEID.lookup seid ≠ some q ↔ q ≠ p := by
    intro q
    rw [hp, ne_eq, Option.some.injEq, eq_comm]
  constructor
  · intro hkeeps p' hp'
    obtain rfl := Option.some.inj (hp.symm.trans hp')
    refine ⟨hul.1 ?_, hip.1 ?_, hnet.1 ?_⟩
    · intro teid q hne hq
      exact (hkeeps q (hsound.ulteid teid q hq).1 ((hother q).2 hne)).1 teid hq
    · intro a q hne hq
      exact (hkeeps q (hsound.ueip a q hq).1 ((hother q).2 hne)).2.1 a hq
    · intro net q hne hq
      exact (hkeeps q (hsound.ueipv6 net q hq).1 ((hother q).2 hne)).2.2 net hq
  · intro horderly q _ hne
    obtain ⟨hownUl, hownIp, hownNet⟩ := horderly p hp
    exact ⟨fun teid hq => hul.2 hownUl teid q ((hother q).1 hne) hq,
      fun a hq => hip.2 hownIp a q ((hother q).1 hne) hq,
      fun net hq => hnet.2 hownNet net q ((hother q).1 hne) hq⟩

end Deletion

/-! ## All requests -/

theorem intact_iff_orderly (req : Request) (hs : s.Tabled ∧ s.IndexesSound) :
    s.Intact req ↔ s.Orderly req := by
  obtain ⟨htabled, hsound⟩ := hs
  cases req with
  | establishment req now =>
    cases hsess : req.session with
    | error rej =>
      constructor
      · intro _ sess old h
        exact absurd (hsess.symm.trans h) (by simp)
      · intro _
        refine ⟨?_, fun _ => nofun⟩
        rw [next_establishment_error hsess]
        exact hsound
    | ok sess =>
      obtain ⟨hseid, hul, hip, hnet⟩ :=
        keys_eq_of_ids (ids_rebuildQoS sess s.cfg now s.buckets)
      have hiff := Tabled.sound_store_iff
        (s := { s with buckets := (sess.rebuildQoS s.cfg now s.buckets).2 }) htabled
        ⟨hsound.ulteid, hsound.ueip, hsound.ueipv6⟩ (sess.rebuildQoS s.cfg now s.buckets).1
      rw [← next_establishment_ok hsess, hseid, hul, hip, hnet] at hiff
      constructor
      · intro hintact sess' old h
        obtain rfl := Except.ok.inj (hsess.symm.trans h)
        exact hiff.1 hintact.sound old
      · intro horderly
        refine ⟨hiff.2 fun old => horderly sess old hsess, fun _ => nofun⟩
  | modification req now =>
    constructor
    · exact fun _ => trivial
    · intro _
      exact ⟨(sameTable_modification s req now).sound hsound, fun _ => nofun⟩
  | deletion seid =>
    cases hp : s.bySEID.lookup seid with
    | none =>
      constructor
      · intro _ p h
        exact absurd (hp.symm.trans h) (by simp)
      · intro _
        refine ⟨?_, fun seid' hseid' p _ _ => ?_⟩
        · rw [next_deletion_none hp]
          exact hsound
        · rw [next_deletion_none hp]
          exact ⟨fun _ h => h, fun _ h => h, fun _ h => h⟩
    | some p =>
      -- dropping the snapshot of the session changes nothing that the indexes see
      have hsame := sameTable_dropQoS s p
      have hsound' := hsame.sound hsound
      have hkept := hsound'.kept_delete_iff hp
      rw [hsame.orderly_deletion, ← next_deletion_some hp] at hkept
      constructor
      · intro hintact
        exact hkept.1 (hintact.kept seid rfl)
      · intro horderly
        refine ⟨?_, fun seid' hseid' => ?_⟩
        · rw [next_deletion_some hp]
          exact hsound'.delete hp
        · obtain rfl := Request.deletion.inj hseid'
          exact hkept.2 horderly

theorem Tabled.next (hs : s.Tabled) (req : Request) : (s.next req).Tabled := by
  cases req with
  | establishment req now =>
    cases hsess : req.session with
    | error rej =>
      rw [next_establishment_error hsess]
      exact hs
    | ok sess =>
      rw [next_establishment_ok hsess]
      exact Tabled.store hs
  | modification req now => exact (sameTable_modification s req now).tabled hs
  | deletion seid =>
    cases hp : s.bySEID.lookup seid with
    | none =>
      rw [next_deletion_none hp]
      exact hs
    | some p =>
      rw [next_deletion_some hp]
      exact ((sameTable_dropQoS s p).tabled hs).delete hp

/-! ## Sessions that share no key -/

/-- Every session is found by each of its keys, and by nothing else. -/
structure Whole (s : Server) : Prop where
  tabled : s.Tabled
  sound : s.IndexesSound
  ulteid : SecondaryIndex.Complete s.Live (fun p => (s.heap.get p).ulKey)
    fun teid => s.byULTEID.lookup teid
  ueip : SecondaryIndex.Complete s.Live (fun p => (s.heap.get p).ipKey)
    fun a => s.byUEIP.lookup a
  ueipv6 : SecondaryIndex.Complete s.Live (fun p => (s.heap.get p).netKey)
    fun net => s.byUEIPv6Net.lookup net

theorem Whole.empty (cfg : QoSConfig) : Whole { cfg := cfg } :=
  ⟨fun _ _ h => absurd h (by simp), ⟨fun _ _ h => absurd h (by simp),
    fun _ _ h => absurd h (by simp), fun _ _ h => absurd h (by simp)⟩,
    fun _ ⟨_, h⟩ => absurd h (by simp), fun _ ⟨_, h⟩ => absurd h (by simp),
    fun _ ⟨_, h⟩ => absurd h (by simp)⟩

structure Apart (s : Server) (sess : Session) : Prop where
  seid : s.bySEID.lookup sess.upSEID = none
  ulteid : ∀ p, s.Live p → ∀ teid, sess.ulKey = some teid → (s.heap.get p).ulKey ≠ some teid
  ueip : ∀ p, s.Live p → ∀ a, sess.ipKey = some a → (s.heap.get p).ipKey ≠ some a
  ueipv6 : ∀ p, s.Live p → ∀ net, sess.netKey = some net → (s.heap.get p).netKey ≠ some net

section

variable (h : s.Whole)
include h

theorem Whole.store {sess : Session} (hapart : s.Apart sess) : (s.store sess).Whole := by
  have hlive : ∀ p, (s.store sess).Live p → p = s.heap.next ∨ s.Live p := by
    intro p hp
    exact ((h.tabled.live_store sess p).1 hp).imp_right And.left
  have hnew : (s.store sess).heap.get s.heap.next = sess := get_new_next ..
  have hold : ∀ p, s.Live p → (s.store sess).heap.get p = s.heap.get p :=
    fun p hp => get_new_of_lt (h.tabled.lt_of_live hp)
  have henter {κ : Type} [DecidableEq κ] (key : Session → Option κ) {find : κ → Option Ptr}
      (hfind : Complete s.Live (fun p => key (s.heap.get p)) find)
      (hown : ∀ p, s.Live p → ∀ k, key sess = some k → key (s.heap.get p) ≠ some k) :
      Complete (s.store sess).Live (fun p => key ((s.store sess).heap.get p))
        (enter (key sess) s.heap.next find) := by
    have hcomplete := hfind.enter (fun p => key ((s.store sess).heap.get p)) hlive
      (fun p hp => by rw [hold p hp]) (by simpa only [hnew] using hown)
    simpa only [hnew] using hcomplete
  refine ⟨h.tabled.store, ?_, ?_, ?_, ?_⟩
  · refine (h.tabled.sound_store_iff h.sound sess).2 fun old hgone => ?_
    exact absurd (hapart.seid.symm.trans hgone) (by simp)
  · rw [lookup_byULTEID_store]
    exact henter ulKey h.ulteid hapart.ulteid
  · rw [lookup_byUEIP_store]
    exact henter ipKey h.ueip hapart.ueip
  · rw [lookup_byUEIPv6Net_store]
    exact henter netKey h.ueipv6 hapart.ueipv6

theorem Whole.establishment {req : SessionEstablishmentRequest} {sess : Session}
    (hsess : req.session = .ok sess) (hapart : s.Apart sess) (now : Int64) :
    (s.next (.establishment req now)).Whole ∧
      (s.next (.establishment req now)).bySEID = s.bySEID.insert sess.upSEID s.heap.next ∧
      ((s.next (.establishment req now)).heap.get s.heap.next).ids = sess.ids ∧
      ∀ p, s.Live p → (s.next (.establishment req now)).heap.get p = s.heap.get p := by
  have hids := ids_rebuildQoS sess s.cfg now s.buckets
  obtain ⟨hseid, hul, hip, hnet⟩ := keys_eq_of_ids hids
  rw [next_establishment_ok hsess]
  generalize hpair : sess.rebuildQoS s.cfg now s.buckets = pair at *
  have hwhole : Whole { s with buckets := pair.2 } :=
    ⟨h.tabled, ⟨h.sound.ulteid, h.sound.ueip, h.sound.ueipv6⟩, h.ulteid, h.ueip, h.ueipv6⟩
  have hapart' : Apart { s with buckets := pair.2 } pair.1 := by
    refine ⟨?_, ?_, ?_, ?_⟩
    · rw [hseid]
      exact hapart.seid
    · rw [hul]
      exact hapart.ulteid
    · rw [hip]
      exact hapart.ueip
    · rw [hnet]
      exact hapart.ueipv6
  refine ⟨hwhole.store hapart', ?_, ?_, ?_⟩
  · show s.bySEID.insert pair.1.upSEID s.heap.next = _
    rw [hseid]
  · exact (congrArg ids (get_new_next s.heap pair.1)).trans hids
  · exact fun p hp => get_new_of_lt (h.tabled.lt_of_live hp)

theorem Whole.delete (hp : s.bySEID.lookup seid = some p) : (s.delete seid).Whole := by
  have hlive : ∀ q, (s.delete seid).Live q → s.Live q ∧ q ≠ p := by
    rintro q ⟨seid', hq⟩
    rw [(bySEID_delete hp).1] at hq
    obtain ⟨hne, hq⟩ := Map.lookup_erase_eq_some.1 hq
    refine ⟨⟨seid', hq⟩, ?_⟩
    rintro rfl
    exact hne ((h.tabled seid' q hq).2.symm.trans (h.tabled seid q hp).2)
  refine ⟨h.tabled.delete hp, h.sound.delete hp, ?_, ?_, ?_⟩
  · rw [lookup_byULTEID_delete hp h.sound, (bySEID_delete hp).2]
    exact h.ulteid.leave ⟨seid, hp⟩ hlive
  · rw [lookup_byUEIP_delete hp, (bySEID_delete hp).2]
    exact h.ueip.leave ⟨seid, hp⟩ hlive
  · rw [lookup_byUEIPv6Net_delete hp, (bySEID_delete hp).2]
    exact h.ueipv6.leave ⟨seid, hp⟩ hlive

theorem SameTable.whole (hsame : SameTable s s') : s'.Whole := by
  have hkeys := fun p => keys_eq_of_ids (hsame.ids p)
  refine ⟨hsame.tabled h.tabled, hsame.sound h.sound, ?_, ?_, ?_⟩
  · rw [hsame.live, hsame.ulteid, funext fun p => (hkeys p).2.1]
    exact h.ulteid
  · rw [hsame.live, hsame.ueip, funext fun p => (hkeys p).2.2.1]
    exact h.ueip
  · rw [hsame.live, hsame.ueipv6, funext fun p => (hkeys p).2.2.2]
    exact h.ueipv6

theorem Whole.deletion (hp : s.bySEID.lookup seid = some p) : (s.next (.deletion seid)).Whole ∧
      (s.next (.deletion seid)).bySEID = s.bySEID.erase seid ∧
      ∀ q, ((s.next (.deletion seid)).heap.get q).ids = (s.heap.get q).ids := by
  have hsame := sameTable_dropQoS s p
  have hp' : ({ s with heap := s.heap.modify p ({ · with qos := none }) } : Server).bySEID.lookup
      seid = some p := hp
  rw [next_deletion_some hp]
  refine ⟨(hsame.whole h).delete hp', (bySEID_delete hp').1, fun q => ?_⟩
  rw [(bySEID_delete hp').2]
  exact hsame.ids q

end

/-- Over every sequence of requests, the indexes stay sound and deletions keep the other
sessions reachable exactly when every request of the sequence is orderly. -/
theorem requests_intact_iff (cfg : QoSConfig) (reqs : List Request) :
    (∀ pre req, pre ++ [req] <+: reqs → Intact (pre.foldl Server.next { cfg := cfg }) req) ↔
    ∀ pre req, pre ++ [req] <+: reqs → Orderly (pre.foldl Server.next { cfg := cfg }) req := by
  have hempty := Whole.empty cfg
  refine Go.forall_steps_iff Server.next (I := fun s => s.Tabled ∧ s.IndexesSound)
    (fun s req hs => intact_iff_orderly req hs) ?_ ⟨hempty.tabled, hempty.sound⟩ reqs
  intro s req hs horderly
  exact ⟨hs.1.next req, ((intact_iff_orderly req hs).2 horderly).sound⟩

def withTEID (seid : UInt64) (teid : UInt32) : SessionEstablishmentRequest where
  cpFSEID := some seid
  createPDR := [some [.pdrID (some 1), .pdi (some [.fteid (some teid)])]]
  createQER := []

/-- Two sessions share a TEID. -/
def shared : Server :=
  [Request.establishment (withTEID 1 16) 0, .establishment (withTEID 2 16) 0].foldl next {}

/-- A session is established again with another TEID. -/
def renewed : Server :=
  [Request.establishment (withTEID 1 16) 0, .establishment (withTEID 1 17) 0].foldl next {}

/-- Of two sessions with one TEID the later one has the entry, and the deletion of the earlier
one takes it away.  Of a session that is established again with another TEID, the old entry
still leads to the old session, which is no longer in the table. -/
theorem entry_stolen_and_entry_left_behind :
    (shared.byULTEID.lookup 16 = some 1 ∧ (shared.next (.deletion 1)).bySEID.lookup 2 = some 1 ∧
      (shared.next (.deletion 1)).byULTEID.lookup 16 = none) ∧
    renewed.byULTEID.lookup 16 = some 0 ∧ renewed.bySEID.entries = [⟨1, 1⟩] := by
  decide +kernel

end Server

end Claudia5gc.Upf
