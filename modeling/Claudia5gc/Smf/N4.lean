import Claudia5gc.Smf.Pfcp
import Claudia5gc.Smf.AddressConservation
import Claudia5gc.Upf.SessionIndex

/-!
# The sessions of the SMF at the UPF

The SMF starts a goroutine for each Session Establishment and each Session Deletion Request, and
nothing orders them: the requests reach the UPF in any order.  When all of them have arrived, every
session in the table of the SMF should be found at the UPF by its addresses and by its uplink TEID,
and no other session should be left there.
-/

namespace Claudia5gc.Smf

open Go Smf.Task List Map Nat Upf.Session

variable {pending : PendingSecondaryAuth} {sess : Session} {us : Upf.Session}
open Upf (ueAddr ueV6Prefix SessionIds)

/-! ## The system -/

def Server.InTable (s : Server) (p : Ptr) : Prop := ∃ ref, s.sessions.lookup ref = some p

/-- A goroutine has sent its request. -/
def Server.finish (s : Server) (task : Task) : Server := { s with tasks := s.tasks.erase task }

/-- The SMF and the UPF.  The requests under way are among the tasks of the SMF. -/
structure N4 where
  smf : Server
  upf : Upf.Server := {}

namespace N4

inductive Label where
  | createSMContext (req : Server.CreateSMContext)
  | authComplete (req : Server.AuthComplete)
  | deleteSMContext (ref : Nat)
  | releaseSessionLocal (t : Server.ReleaseTarget)
  | deliver (task : Task) (now : Int64)

def next (st : N4) : Label → N4
  | .createSMContext req => { st with smf := st.smf.next (.createSMContext req) }
  | .authComplete req => { st with smf := st.smf.next (.authComplete req) }
  | .deleteSMContext ref => { st with smf := st.smf.next (.deleteSMContext ref) }
  | .releaseSessionLocal t => { st with smf := (st.smf.releaseSessionLocal t.ref t.sess true).2 }
  | .deliver task now =>
    if task ∈ st.smf.tasks then
      { smf := st.smf.finish task
        upf :=
          match task.request st.smf now with
          | some req => st.upf.next req
          | none => st.upf }
    else st

end N4

def Session.ipKey (sess : Session) : Option Upf.Addr := sess.ueIP.bind ueAddr

def Session.netKey (sess : Session) : Option Bytes := sess.ueIPv6Prefix.bind ueV6Prefix

namespace N4

/-- What should hold when every request has arrived. -/
structure Settled (st : N4) : Prop where
  /-- The uplink of a session in the table. -/
  uplink : ∀ p, st.smf.InTable p → ∃ u, st.upf.getByULTEID (st.smf.heap.get p).ulTEID = some u ∧
    (st.upf.heap.get u).upSEID = (st.smf.heap.get p).seid
  /-- Its downlink, to the IPv4 address. -/
  downlink : ∀ p ip, st.smf.InTable p → (st.smf.heap.get p).ueIP = some ip →
    ∃ u, st.upf.getByUEIP ip = some u ∧ (st.upf.heap.get u).upSEID = (st.smf.heap.get p).seid
  /-- Its downlink, to any address of the prefix. -/
  downlinkIPv6 : ∀ p net, st.smf.InTable p → (st.smf.heap.get p).ueIPv6Prefix = some net →
    ∀ ip, ip.length = 16 → ip.take 8 = net.take 8 → ∃ u, st.upf.getByUEIPv6Prefix ip = some u ∧
      (st.upf.heap.get u).upSEID = (st.smf.heap.get p).seid
  /-- A session that was created and is no longer in the table. -/
  released : ∀ p < st.smf.heap.next, ¬ st.smf.InTable p →
    st.upf.bySEID.lookup (st.smf.heap.get p).seid = none

def InOrder (st : N4) : Label → Prop
  | .createSMContext _ => st.smf.nextTEID + 1 ≠ 0
  | .deliver (.sendPFCPSessionEstablishment p) _ => ∀ u, st.upf.Live u →
    (∀ a, (st.smf.heap.get p).ipKey = some a → (st.upf.heap.get u).ipKey ≠ some a) ∧
      ∀ net, (st.smf.heap.get p).netKey = some net → (st.upf.heap.get u).netKey ≠ some net
  | .deliver (.sendPFCPSessionDeletion p) _ =>
    sendPFCPSessionEstablishment p ∉ st.smf.tasks
  | _ => True

/-- Both have just been started. -/
structure Started (st : N4) : Prop where
  sessions : st.smf.sessions = ∅
  pendingAuth : st.smf.pendingAuth = ∅
  heap : st.smf.heap.next = 0
  tasks : st.smf.tasks = []
  counters : st.smf.nextRef = 0 ∧ st.smf.nextSEID = 0 ∧ st.smf.nextTEID = 0
  ipv4 : st.smf.IPv4Pools
  upf : ∃ cfg, st.upf = { cfg := cfg }

end N4

/-! ## The books of the SMF -/

structure Addressed (t : UInt8) (ip net : Option Bytes) : Prop where
  needs : pduTypeNeedsIPv4 t = true ∨ pduTypeNeedsIPv6 t = true
  ipv4 : ip.isSome = pduTypeNeedsIPv4 t
  ipv6 : net.isSome = pduTypeNeedsIPv6 t
  ipv4_length : ∀ a, ip = some a → a.length = 4
  ipv6_length : ∀ a, net = some a → a.length = 16

structure Session.Numbered (sess : Session) (n : Nat) : Prop where
  pos : 0 < n
  seid : sess.seid.toNat = n
  teid : sess.ulTEID.toNat = n

namespace Server

/-- What the SMF keeps: counters that go together, a number of its own for each session and
each pending authentication, and requests for sessions that were created. -/
structure Books (s : Server) : Prop where
  ipv4 : s.IPv4Pools
  seids : s.nextSEID.toNat = s.nextRef
  teids : s.nextTEID.toNat = s.nextRef
  session : ∀ p < s.heap.next, (∃ n ≤ s.nextRef, (s.heap.get p).Numbered n) ∧
    (s.heap.get p).n4Stale = false ∧
    Addressed (s.heap.get p).pduSessionType (s.heap.get p).ueIP (s.heap.get p).ueIPv6Prefix
  unique : ∀ p < s.heap.next, ∀ q < s.heap.next, (s.heap.get p).seid = (s.heap.get q).seid → p = q
  table : ∀ ref p, s.sessions.lookup ref = some p →
    p < s.heap.next ∧ (s.heap.get p).seid.toNat = ref + 1
  pending : ∀ ref pending, s.pendingAuth.lookup ref = some pending →
    pending.smContextRef = ref ∧ ref < s.nextRef ∧ pending.seid.toNat = ref + 1 ∧
      pending.ulTEID.toNat = ref + 1 ∧ Addressed pending.grantedType pending.ipv4 pending.v6Prefix
  unused : ∀ ref pending, s.pendingAuth.lookup ref = some pending →
    ∀ p < s.heap.next, (s.heap.get p).seid ≠ pending.seid
  tasks : ∀ t ∈ s.tasks, ∃ p < s.heap.next, t = .sendPFCPSessionEstablishment p ∨
    (t = .sendPFCPSessionDeletion p ∧ ¬ s.InTable p)
  nodup : s.tasks.Nodup

section Books

variable {s s' : Server} {ref : Nat} {p : Ptr}

/-- Servers that differ in what the books are not about: pools and tables with the same
content. -/
structure SameBooks (s s' : Server) : Prop where
  sessions : ∀ ref, s'.sessions.lookup ref = s.sessions.lookup ref
  heap : s'.heap = s.heap
  tasks : s'.tasks = s.tasks

theorem SameBooks.inTable (h : SameBooks s s') (p : Ptr) : s'.InTable p ↔ s.InTable p := by
  simp only [InTable, h.sessions]

theorem OnlyPools.same (h : OnlyPools s s') : SameBooks s s' := by
  rw [h]
  exact ⟨fun _ => rfl, rfl, rfl⟩

theorem Books.same (h : s.Books) (hsame : SameBooks s s') (hpools : s'.IPv4Pools)
    (hrefs : s.nextRef ≤ s'.nextRef) (hseids : s'.nextSEID.toNat = s'.nextRef)
    (hteids : s'.nextTEID.toNat = s'.nextRef)
    (hpending : ∀ ref pending, s'.pendingAuth.lookup ref = some pending →
      s.pendingAuth.lookup ref = some pending) : s'.Books := by
  refine ⟨hpools, hseids, hteids, ?_, ?_, ?_, ?_, ?_, ?_, ?_⟩
  · rw [hsame.heap]
    intro p hp
    obtain ⟨⟨n, hn, hnum⟩, hrest⟩ := h.session p hp
    exact ⟨⟨n, hn.trans hrefs, hnum⟩, hrest⟩
  · rw [hsame.heap]
    exact h.unique
  · intro ref p hp
    rw [hsame.sessions] at hp
    rw [hsame.heap]
    exact h.table ref p hp
  · intro ref pending hp
    obtain ⟨href, hlt, hrest⟩ := h.pending ref pending (hpending ref pending hp)
    exact ⟨href, hlt.trans_le hrefs, hrest⟩
  · rw [hsame.heap]
    exact fun ref pending hp => h.unused ref pending (hpending ref pending hp)
  · rw [hsame.tasks, hsame.heap]
    simp only [hsame.inTable]
    exact h.tasks
  · rw [hsame.tasks]
    exact h.nodup

theorem Books.onlyPools (h : s.Books) (hpools : OnlyPools s s') (hipv4 : s'.IPv4Pools) :
    s'.Books := by
  have hsame := hpools.same
  have hrefs : s'.nextRef = s.nextRef := by rw [hpools]
  have hseids : s'.nextSEID = s.nextSEID := by rw [hpools]
  have hteids : s'.nextTEID = s.nextTEID := by rw [hpools]
  have hpending : s'.pendingAuth = s.pendingAuth := by rw [hpools]
  refine h.same hsame hipv4 hrefs.ge ?_ ?_ ?_
  · rw [hseids, hrefs, h.seids]
  · rw [hteids, hrefs, h.teids]
  · rw [hpending]
    exact fun _ _ hp => hp

theorem Books.count (h : s.Books) (hround : s.nextTEID + 1 ≠ 0) :
    ({ s with nextRef := s.nextRef + 1, nextTEID := s.nextTEID + 1,
              nextSEID := s.nextSEID + 1 } : Server).Books ∧
      (s.nextSEID + 1).toNat = s.nextRef + 1 ∧ (s.nextTEID + 1).toNat = s.nextRef + 1 := by
  have hlt := s.nextTEID.toNat_lt
  have hteid : (s.nextTEID + 1).toNat = s.nextRef + 1 := by
    have hne : (s.nextTEID + 1).toNat ≠ 0 := fun h0 => hround (UInt32.toNat_inj.1 h0)
    have hadd := UInt32.toNat_add s.nextTEID 1
    rw [← h.teids]
    simp only [UInt32.toNat_one] at hadd
    omega
  have hseid : (s.nextSEID + 1).toNat = s.nextRef + 1 := by
    have hadd := UInt64.toNat_add s.nextSEID 1
    have hrefs := h.teids
    have hseids := h.seids
    simp only [UInt64.toNat_one] at hadd
    omega
  exact ⟨h.same ⟨fun _ => rfl, rfl, rfl⟩ h.ipv4 (le_succ _) hseid hteid fun _ _ hp => hp,
    hseid, hteid⟩

/-- A session that can be added under `ref`: it has the number of the reference, which nobody
else has. -/
structure Fresh (s : Server) (ref : Nat) (sess : Session) : Prop where
  numbered : sess.Numbered (ref + 1)
  ref_lt : ref < s.nextRef
  stale : sess.n4Stale = false
  addressed : Addressed sess.pduSessionType sess.ueIP sess.ueIPv6Prefix
  unused : ∀ q < s.heap.next, (s.heap.get q).seid ≠ sess.seid
  unpromised : ∀ r pending, s.pendingAuth.lookup r = some pending → pending.seid ≠ sess.seid

variable {sess : Session}

theorem addSession_eq (h : Fresh s ref sess) : s.addSession ref sess = { s with
      heap := (s.heap.new sess).2
      sessions := s.sessions.insert ref s.heap.next
      tasks := s.tasks ++ [.sendPFCPSessionEstablishment s.heap.next] } := by
  have hstart : sess.ueIP.isSome = true ∨ pduTypeNeedsIPv6 sess.pduSessionType = true := by
    rw [h.addressed.ipv4]
    exact h.addressed.needs
  unfold addSession
  dsimp only
  rw [if_pos hstart]
  rfl

section

variable (h : s.Books)
include h

theorem Books.lookup_none (hfresh : Fresh s ref sess) : s.sessions.lookup ref = none := by
  rw [Option.eq_none_iff_forall_ne_some]
  intro p hp
  obtain ⟨hlt, hnum⟩ := h.table ref p hp
  exact hfresh.unused p hlt (UInt64.toNat_inj.1 (hnum.trans hfresh.numbered.seid.symm))

theorem Books.inTable_addSession (hfresh : Fresh s ref sess) (q : Ptr) :
    (s.addSession ref sess).InTable q ↔ q = s.heap.next ∨ s.InTable q := by
  constructor
  · rintro ⟨r, hr⟩
    rcases lookup_insert_eq_some.1 hr with ⟨_, rfl⟩ | ⟨_, hr⟩
    · exact Or.inl rfl
    · exact Or.inr ⟨r, hr⟩
  · rintro (rfl | ⟨r, hr⟩)
    · exact ⟨ref, lookup_insert_eq_some.2 (Or.inl ⟨rfl, rfl⟩)⟩
    · refine ⟨r, lookup_insert_eq_some.2 (Or.inr ⟨?_, hr⟩)⟩
      rintro rfl
      exact absurd (hr.symm.trans (h.lookup_none hfresh)) (by simp)

theorem Books.not_mem_tasks : sendPFCPSessionEstablishment s.heap.next ∉ s.tasks := by
  intro hmem
  obtain ⟨q, hq, heq | ⟨heq, _⟩⟩ := h.tasks _ hmem
  · cases heq
    exact lt_irrefl _ hq
  · cases heq

theorem Books.addSession (hfresh : Fresh s ref sess) : (s.addSession ref sess).Books := by
  have hinTable := h.inTable_addSession hfresh
  rw [addSession_eq hfresh] at hinTable ⊢
  have hnew := Heap.get_new_next s.heap sess
  have hold : ∀ q < s.heap.next, (s.heap.new sess).2.get q = s.heap.get q :=
    fun q hq => Heap.get_new_of_lt hq
  -- a pointer is the new one or an old one
  have hsplit : ∀ q < s.heap.next + 1, q = s.heap.next ∨ q < s.heap.next :=
    fun q hq => (Nat.lt_succ_iff_lt_or_eq.1 hq).symm
  refine ⟨h.ipv4, h.seids, h.teids, ?_, ?_, ?_, h.pending, ?_, ?_, ?_⟩
  · intro q hq
    rcases hsplit q hq with rfl | hq
    · rw [hnew]
      exact ⟨⟨ref + 1, hfresh.ref_lt, hfresh.numbered⟩, hfresh.stale, hfresh.addressed⟩
    · rw [hold q hq]
      exact h.session q hq
  · intro q hq r hr
    rcases hsplit q hq with rfl | hq <;> rcases hsplit r hr with rfl | hr
    · exact fun _ => rfl
    · rw [hnew, hold r hr]
      exact fun heq => absurd heq.symm (hfresh.unused r hr)
    · rw [hnew, hold q hq]
      exact fun heq => absurd heq (hfresh.unused q hq)
    · rw [hold q hq, hold r hr]
      exact h.unique q hq r hr
  · intro r q hq
    rcases lookup_insert_eq_some.1 hq with ⟨rfl, rfl⟩ | ⟨_, hq⟩
    · rw [hnew]
      exact ⟨lt_succ_self _, hfresh.numbered.seid⟩
    · obtain ⟨hlt, hnum⟩ := h.table r q hq
      rw [hold q hlt]
      exact ⟨lt_succ_of_lt hlt, hnum⟩
  · intro r pending hpending q hq
    rcases hsplit q hq with rfl | hq
    · rw [hnew]
      exact (hfresh.unpromised r pending hpending).symm
    · rw [hold q hq]
      exact h.unused r pending hpending q hq
  · intro t ht
    rcases mem_append.1 ht with ht | ht
    · obtain ⟨q, hq, htask⟩ := h.tasks t ht
      refine ⟨q, lt_succ_of_lt hq, htask.imp_right fun ⟨heq, hout⟩ => ⟨heq, ?_⟩⟩
      rw [hinTable]
      rintro (rfl | hin)
      · exact lt_irrefl _ hq
      · exact hout hin
    · exact ⟨s.heap.next, lt_succ_self _, Or.inl (mem_singleton.1 ht)⟩
  · refine h.nodup.append (nodup_singleton _) ?_
    rw [disjoint_singleton]
    exact h.not_mem_tasks

theorem Books.startSecondaryAuth (hlt : pending.smContextRef < s.nextRef)
    (hseid : pending.seid.toNat = pending.smContextRef + 1)
    (hteid : pending.ulTEID.toNat = pending.smContextRef + 1)
    (haddr : Addressed pending.grantedType pending.ipv4 pending.v6Prefix)
    (hunused : ∀ q < s.heap.next, (s.heap.get q).seid ≠ pending.seid) :
    (s.startSecondaryAuth pending).Books := by
  refine ⟨h.ipv4, h.seids, h.teids, h.session, h.unique, h.table, ?_, ?_, h.tasks, h.nodup⟩
  · intro r pending' hp
    rcases lookup_insert_eq_some.1 hp with ⟨rfl, rfl⟩ | ⟨_, hp⟩
    · exact ⟨rfl, hlt, hseid, hteid, haddr⟩
    · exact h.pending r pending' hp
  · intro r pending' hp
    rcases lookup_insert_eq_some.1 hp with ⟨rfl, rfl⟩ | ⟨_, hp⟩
    · exact hunused
    · exact h.unused r pending' hp

theorem Books.deletePendingAuth (ref : Nat) : (s.deletePendingAuth ref).Books :=
  h.same ⟨fun _ => rfl, rfl, rfl⟩ h.ipv4 (le_refl _) h.seids h.teids
    fun _ _ hp => (lookup_erase_eq_some.1 hp).2

theorem Books.fresh_pending (hp : s.pendingAuth.lookup ref = some pending)
    (qos : SmPolicyQoS) (now : Time) :
    Fresh (s.deletePendingAuth pending.smContextRef) pending.smContextRef
      { supi := pending.supi, pduSessionID := pending.pduSessionID, dnn := pending.dnn,
        ueIP := pending.ipv4, ulTEID := pending.ulTEID, seid := pending.seid, qos := qos,
        state := .active, createdAt := now, pduSessionType := pending.grantedType,
        ueIPv6Prefix := pending.v6Prefix } := by
  obtain ⟨rfl, hlt, hseid, hteid, haddr⟩ := h.pending ref pending hp
  refine ⟨⟨succ_pos _, hseid, hteid⟩, hlt, rfl, haddr, h.unused _ pending hp, ?_⟩
  intro r pending' hp' heq
  obtain ⟨hne, hp'⟩ := lookup_erase_eq_some.1 hp'
  have hseid' := (h.pending r pending' hp').2.2.1
  rw [heq] at hseid'
  change pending.seid.toNat = r + 1 at hseid'
  omega

/-- A session is taken out of the table and its deletion is started. -/
def close (s : Server) (ref : Nat) (p : Ptr) : Server :=
  { s with
    sessions := s.sessions.erase ref
    tasks := s.tasks ++ [.sendPFCPSessionDeletion p] }

theorem Books.inTable_close (hp : s.sessions.lookup ref = some p) (q : Ptr) :
    (s.close ref p).InTable q ↔ q ≠ p ∧ s.InTable q := by
  constructor
  · rintro ⟨r, hr⟩
    obtain ⟨hne, hlookup⟩ := lookup_erase_eq_some.1 hr
    refine ⟨?_, r, hlookup⟩
    rintro rfl
    have hthis := (h.table r q hlookup).2
    have hthat := (h.table ref q hp).2
    omega
  · rintro ⟨hne, r, hr⟩
    refine ⟨r, lookup_erase_eq_some.2 ⟨?_, hr⟩⟩
    rintro rfl
    exact hne (Option.some.inj (hr.symm.trans hp))

theorem Books.close (hp : s.sessions.lookup ref = some p) : (s.close ref p).Books := by
  have hinTable := h.inTable_close hp
  refine ⟨h.ipv4, h.seids, h.teids, h.session, h.unique, ?_, h.pending, h.unused, ?_, ?_⟩
  · intro r q hq
    exact h.table r q (lookup_erase_eq_some.1 hq).2
  · intro t ht
    simp only [hinTable]
    rcases mem_append.1 ht with ht | ht
    · obtain ⟨q, hq, htask⟩ := h.tasks t ht
      exact ⟨q, hq, htask.imp_right fun ⟨heq, hout⟩ => ⟨heq, fun hin => hout hin.2⟩⟩
    · refine ⟨p, (h.table ref p hp).1, Or.inr ⟨mem_singleton.1 ht, ?_⟩⟩
      exact fun hin => hin.1 rfl
  · refine h.nodup.append (nodup_singleton _) ?_
    rw [disjoint_singleton]
    intro hmem
    obtain ⟨q, _, heq | ⟨heq, hout⟩⟩ := h.tasks _ hmem
    · cases heq
    · cases heq
      exact hout ⟨ref, hp⟩

theorem Books.finish (task : Task) : (s.finish task).Books :=
  ⟨h.ipv4, h.seids, h.teids, h.session, h.unique, h.table, h.pending, h.unused,
    fun t ht => h.tasks t (mem_of_mem_erase ht), h.nodup.erase task⟩

end

end Books

end Server

/-! ## What the UPF makes of an establishment -/

structure Mirrors (sess : Session) (us : Upf.Session) : Prop where
  seid : us.upSEID = sess.seid
  teid : us.ulTEID = sess.ulTEID
  ip : us.ipKey = sess.ipKey
  net : us.netKey = sess.netKey

theorem Mirrors.of_ids {us' : Upf.Session} (h : Mirrors sess us) (hids : us'.ids = us.ids) :
    Mirrors sess us' := by
  obtain ⟨hseid, _, hip, hnet⟩ := keys_eq_of_ids hids
  obtain ⟨_, hteid, _, _⟩ := SessionIds.mk.inj hids
  exact ⟨hseid.trans h.seid, hteid.trans h.teid, hip.trans h.ip, hnet.trans h.net⟩

theorem session_establishment {ueIP : Upf.UEIPAddress} (h : buildUEIPAddressIE sess = .ok ueIP) :
    ∃ req, sessionEstablishmentRequest sess = .ok req ∧ ∃ us, req.session = .ok us ∧
      us.ids = ⟨sess.seid, sess.ulTEID, ueIP.ipv4.getD [], ueIP.ipv6.getD []⟩ := by
  unfold sessionEstablishmentRequest buildSessionAMBRCreateQER
  rw [h]
  refine ⟨_, rfl, ?_⟩
  split
  · exact ⟨_, rfl, rfl⟩
  · exact ⟨_, rfl, rfl⟩

theorem ueAddr_getD (ip : Option Bytes) : ueAddr (ip.getD []) = ip.bind ueAddr := by
  cases ip <;> rfl

theorem ueV6Prefix_ueIPv6Address {net : Bytes} (h : net.length = 16) :
    ueV6Prefix (net.take 8 ++ defaultIID) = ueV6Prefix net := by
  have hlen : (net.take 8).length = 8 := by rw [length_take]; omega
  have hlen' : (net.take 8 ++ defaultIID).length = 16 := by rw [length_append, hlen]; rfl
  unfold ueV6Prefix Upf.to16
  rw [if_neg (by omega), if_pos hlen', if_neg (by omega), if_pos h, Option.map_some,
    Option.map_some, take_append_of_le_length (by omega), take_of_length_le (by omega)]

theorem establishment_mirrors (h : Addressed sess.pduSessionType sess.ueIP sess.ueIPv6Prefix) :
    ∃ req us, sessionEstablishmentRequest sess = .ok req ∧ req.session = .ok us ∧
      Mirrors sess us := by
  suffices haddr : ∃ ueIP, buildUEIPAddressIE sess = .ok ueIP ∧
      ueAddr (ueIP.ipv4.getD []) = sess.ipKey ∧ ueV6Prefix (ueIP.ipv6.getD []) = sess.netKey by
    obtain ⟨ueIP, hbuild, hip, hnet⟩ := haddr
    obtain ⟨req, hreq, us, hus, hids⟩ := session_establishment hbuild
    obtain ⟨hseid, hteid, hueIP, hueIPv6⟩ := SessionIds.mk.inj hids
    refine ⟨req, us, hreq, hus, hseid, hteid, ?_, ?_⟩
    · rw [ipKey, hueIP, hip]
    · rw [netKey, hueIPv6, hnet]
  unfold buildUEIPAddressIE Session.ipKey Session.netKey
  cases hv6 : pduTypeNeedsIPv6 sess.pduSessionType with
  | false =>
    have hnone : sess.ueIPv6Prefix = none := by
      rw [← Option.not_isSome_iff_eq_none, h.ipv6, hv6]
      simp
    rw [if_pos (by simp), hnone]
    exact ⟨_, rfl, ueAddr_getD _, rfl⟩
  | true =>
    obtain ⟨net, hnet⟩ := Option.isSome_iff_exists.1 (h.ipv6.trans hv6)
    have hnetwork := ueV6Prefix_ueIPv6Address (h.ipv6_length net hnet)
    rw [if_neg (by simp), hnet]
    cases hv4 : pduTypeNeedsIPv4 sess.pduSessionType with
    | true => exact ⟨_, rfl, ueAddr_getD _, hnetwork⟩
    | false =>
      have hnone : sess.ueIP = none := by
        rw [← Option.not_isSome_iff_eq_none, h.ipv4, hv4]
        simp
      rw [hnone]
      exact ⟨_, rfl, rfl, hnetwork⟩

/-! ## Agreement -/

/-- A session that is in the table, or that the UPF is still to be rid of. -/
def Server.Wanted (s : Server) (p : Ptr) : Prop :=
  s.InTable p ∨ sendPFCPSessionDeletion p ∈ s.tasks

/-- The UPF has those sessions whose establishment has arrived and whose deletion has not. -/
structure Agree (s : Server) (upf : Upf.Server) : Prop where
  whole : upf.Whole
  installed : ∀ seid u, upf.bySEID.lookup seid = some u → ∃ p < s.heap.next,
    Mirrors (s.heap.get p) (upf.heap.get u) ∧ s.Wanted p ∧ sendPFCPSessionEstablishment p ∉ s.tasks
  arrived : ∀ p < s.heap.next, s.Wanted p → sendPFCPSessionEstablishment p ∉ s.tasks →
    ∃ u, upf.bySEID.lookup (s.heap.get p).seid = some u
  waiting : ∀ p, sendPFCPSessionEstablishment p ∈ s.tasks → s.Wanted p

namespace Agree

open Server

variable {s s' : Server} {upf : Upf.Server} {ref : Nat} {p : Ptr} {sess : Session}

section

variable (h : Agree s upf)
include h

theorem congr (hheap : s'.heap = s.heap) (hwanted : ∀ q, s'.Wanted q ↔ s.Wanted q)
    (htasks : ∀ q, sendPFCPSessionEstablishment q ∈ s'.tasks ↔
      sendPFCPSessionEstablishment q ∈ s.tasks) : Agree s' upf := by
  refine ⟨h.whole, ?_, ?_, ?_⟩ <;> simp only [hwanted, htasks]
  · rw [hheap]
    exact h.installed
  · rw [hheap]
    exact h.arrived
  · exact h.waiting

theorem same (hsame : SameBooks s s') : Agree s' upf := by
  refine h.congr hsame.heap (fun q => ?_) fun q => by rw [hsame.tasks]
  rw [Wanted, Wanted, hsame.inTable, hsame.tasks]

section

variable (hs : s.Books)
include hs

theorem addSession (hfresh : Fresh s ref sess) : Agree (s.addSession ref sess) upf := by
  have hinTable := hs.inTable_addSession hfresh
  have hwanted : ∀ q, (s.addSession ref sess).Wanted q ↔ q = s.heap.next ∨ s.Wanted q := by
    intro q
    rw [Wanted, hinTable, addSession_eq hfresh]
    simp [Wanted, or_assoc]
  have htasks : ∀ q, sendPFCPSessionEstablishment q ∈ (s.addSession ref sess).tasks ↔
      q = s.heap.next ∨ sendPFCPSessionEstablishment q ∈ s.tasks := by
    intro q
    rw [addSession_eq hfresh]
    simp [or_comm]
  have hold : ∀ q < s.heap.next, (s.addSession ref sess).heap.get q = s.heap.get q :=
    fun q hq => Heap.get_new_of_lt hq
  refine ⟨h.whole, ?_, ?_, ?_⟩
  · intro seid u hu
    obtain ⟨q, hq, hmirrors, hw, hest⟩ := h.installed seid u hu
    refine ⟨q, lt_succ_of_lt hq, ?_, (hwanted q).2 (Or.inr hw), ?_⟩
    · rw [hold q hq]
      exact hmirrors
    · rw [htasks]
      rintro (rfl | hmem)
      · exact lt_irrefl _ hq
      · exact hest hmem
  · intro q hq hw hest
    rw [htasks, not_or] at hest
    have hq : q < s.heap.next := (Nat.lt_succ_iff_lt_or_eq.1 hq).resolve_right hest.1
    rw [hold q hq]
    exact h.arrived q hq (((hwanted q).1 hw).resolve_left hest.1) hest.2
  · intro q hmem
    rcases (htasks q).1 hmem with rfl | hmem
    · exact (hwanted _).2 (Or.inl rfl)
    · exact (hwanted q).2 (Or.inr (h.waiting q hmem))

theorem close (hp : s.sessions.lookup ref = some p) : Agree (s.close ref p) upf := by
  refine h.congr rfl (fun q => ?_) fun q => by simp [Server.close]
  rw [Wanted, hs.inTable_close hp]
  by_cases hq : q = p
  · -- the session of the deletion was in the table
    subst hq
    simp [Wanted, Server.close, InTable, show ∃ r, s.sessions.lookup r = some q from ⟨ref, hp⟩]
  · simp [Wanted, Server.close, hq]

section

variable (hp : p < s.heap.next)
include hp

theorem installed_eq {u : Ptr} (hu : upf.bySEID.lookup (s.heap.get p).seid = some u) :
    Mirrors (s.heap.get p) (upf.heap.get u) ∧ s.Wanted p ∧
      sendPFCPSessionEstablishment p ∉ s.tasks := by
  obtain ⟨q, hq, hmirrors, hrest⟩ := h.installed _ u hu
  have hseid : (s.heap.get q).seid = (s.heap.get p).seid := by
    rw [← hmirrors.seid, (h.whole.tabled _ u hu).2]
  obtain rfl := hs.unique q hq p hp hseid
  exact ⟨hmirrors, hrest⟩

theorem apart (htask : sendPFCPSessionEstablishment p ∈ s.tasks) (hus : Mirrors (s.heap.get p) us)
    (hfree : ∀ u, upf.Live u →
      (∀ a, (s.heap.get p).ipKey = some a → (upf.heap.get u).ipKey ≠ some a) ∧
      ∀ net, (s.heap.get p).netKey = some net → (upf.heap.get u).netKey ≠ some net) :
    upf.Apart us := by
  refine ⟨?_, ?_, ?_, ?_⟩
  · rw [hus.seid, Option.eq_none_iff_forall_ne_some]
    intro u hu
    exact (h.installed_eq hs hp hu).2.2 htask
  · rintro u ⟨seid, hu⟩ teid hkey hkey'
    obtain ⟨q, hq, hmirrors, _, hest⟩ := h.installed seid u hu
    have hteid : ∀ x : Upf.Session, x.ulKey = some teid → x.ulTEID = teid := by
      intro x hx
      unfold ulKey at hx
      split at hx
      · exact Option.some.inj hx
      · cases hx
    -- equal TEIDs are equal numbers, and so equal SEIDs
    obtain ⟨⟨n, _, hn⟩, _⟩ := hs.session p hp
    obtain ⟨⟨m, _, hm⟩, _⟩ := hs.session q hq
    have heq : (s.heap.get q).ulTEID = (s.heap.get p).ulTEID := by
      rw [← hmirrors.teid, ← hus.teid, hteid _ hkey, hteid _ hkey']
    have hnm : m = n := by rw [← hm.teid, ← hn.teid, heq]
    have hseid : (s.heap.get q).seid = (s.heap.get p).seid :=
      UInt64.toNat_inj.1 (by rw [hm.seid, hn.seid, hnm])
    obtain rfl := hs.unique q hq p hp hseid
    exact hest htask
  · rw [hus.ip]
    exact fun u hu => (hfree u hu).1
  · rw [hus.net]
    exact fun u hu => (hfree u hu).2

theorem establishment (htask : sendPFCPSessionEstablishment p ∈ s.tasks)
    {req : Upf.SessionEstablishmentRequest} (hreq : req.session = .ok us)
    (hus : Mirrors (s.heap.get p) us) (hapart : upf.Apart us) (now : Int64) :
    Agree (s.finish (.sendPFCPSessionEstablishment p))
      (upf.next (.establishment req now)) := by
  obtain ⟨hwhole, hseids, hnew, hold⟩ := h.whole.establishment hreq hapart now
  generalize upf.next (.establishment req now) = upf' at *
  have hwanted : ∀ q, (s.finish (.sendPFCPSessionEstablishment p)).Wanted q ↔ s.Wanted q := by
    intro q
    have hne : sendPFCPSessionDeletion q ≠ .sendPFCPSessionEstablishment p := nofun
    simp only [Wanted, InTable, finish, mem_erase_of_ne hne]
  have hest : ∀ q, sendPFCPSessionEstablishment q ∈
      (s.finish (.sendPFCPSessionEstablishment p)).tasks ↔
        q ≠ p ∧ sendPFCPSessionEstablishment q ∈ s.tasks := by
    intro q
    rw [finish, hs.nodup.mem_erase_iff]
    simp
  refine ⟨hwhole, ?_, ?_, ?_⟩
  · intro seid u hu
    rw [hseids] at hu
    simp only [hwanted, hest]
    rcases lookup_insert_eq_some.1 hu with ⟨rfl, rfl⟩ | ⟨_, hu⟩
    · exact ⟨p, hp, hus.of_ids hnew, h.waiting p htask, fun hmem => hmem.1 rfl⟩
    · obtain ⟨q, hq, hmirrors, hw, hout⟩ := h.installed seid u hu
      refine ⟨q, hq, ?_, hw, fun hmem => hout hmem.2⟩
      rw [hold u ⟨seid, hu⟩]
      exact hmirrors
  · intro q hq hw hout
    rw [hwanted] at hw
    rw [hest] at hout
    rw [hseids]
    by_cases hqp : q = p
    · subst hqp
      exact ⟨_, lookup_insert_eq_some.2 (Or.inl ⟨hus.seid.symm, rfl⟩)⟩
    · obtain ⟨u, hu⟩ := h.arrived q hq hw fun hmem => hout ⟨hqp, hmem⟩
      refine ⟨u, lookup_insert_eq_some.2 (Or.inr ⟨?_, hu⟩)⟩
      rw [hus.seid]
      exact fun heq => hqp (hs.unique q hq p hp heq)
  · intro q hmem
    rw [hwanted]
    exact h.waiting q ((hest q).1 hmem).2

theorem deletion (htask : sendPFCPSessionDeletion p ∈ s.tasks) (hclosed : ¬ s.InTable p)
    (hafter : sendPFCPSessionEstablishment p ∉ s.tasks) :
    Agree (s.finish (.sendPFCPSessionDeletion p))
      (upf.next (.deletion (s.heap.get p).seid)) := by
  obtain ⟨u, hu⟩ := h.arrived p hp (Or.inr htask) hafter
  obtain ⟨hwhole, hseids, hids⟩ := h.whole.deletion hu
  generalize upf.next (.deletion (s.heap.get p).seid) = upf' at *
  have hwanted : ∀ q, (s.finish (.sendPFCPSessionDeletion p)).Wanted q ↔ q ≠ p ∧ s.Wanted q := by
    intro q
    have hmem : sendPFCPSessionDeletion q ∈ (s.finish (.sendPFCPSessionDeletion p)).tasks ↔
        q ≠ p ∧ sendPFCPSessionDeletion q ∈ s.tasks := by
      rw [finish, hs.nodup.mem_erase_iff]
      simp
    by_cases hqp : q = p
    · subst hqp
      simp only [Wanted, hmem, ne_eq, not_true_eq_false, false_and, or_false]
      exact iff_of_false hclosed id
    · simp only [Wanted, hmem, hqp, ne_eq, not_false_eq_true, true_and]
      rfl
  have hest : ∀ q, sendPFCPSessionEstablishment q ∈ (s.finish (.sendPFCPSessionDeletion p)).tasks ↔
        sendPFCPSessionEstablishment q ∈ s.tasks := by
    intro q
    exact mem_erase_of_ne nofun
  refine ⟨hwhole, ?_, ?_, ?_⟩
  · intro seid v hv
    rw [hseids] at hv
    obtain ⟨hne, hbefore⟩ := lookup_erase_eq_some.1 hv
    obtain ⟨q, hq, hmirrors, hw, hout⟩ := h.installed seid v hbefore
    simp only [hwanted, hest]
    refine ⟨q, hq, hmirrors.of_ids (hids v), ⟨?_, hw⟩, hout⟩
    rintro rfl
    exact hne (by rw [← hmirrors.seid, (h.whole.tabled seid v hbefore).2])
  · intro q hq hw hout
    obtain ⟨hqp, hw⟩ := (hwanted q).1 hw
    rw [hest] at hout
    obtain ⟨v, hv⟩ := h.arrived q hq hw hout
    refine ⟨v, ?_⟩
    rw [hseids]
    refine lookup_erase_eq_some.2 ⟨?_, hv⟩
    exact fun heq => hqp (hs.unique q hq p hp heq)
  · intro q hmem
    rw [hest] at hmem
    refine (hwanted q).2 ⟨?_, h.waiting q hmem⟩
    rintro rfl
    exact hafter hmem

end

end

end

end Agree

/-! ## Runs -/

namespace Server

variable {s s' : Server}

theorem create_addressed {req : CreateSMContext} {answer : Answer}
    (h : s.handleCreateSMContext req = .ok (answer, s')) :
    (OnlyPools s s' ∧ (s.IPv4Pools → s'.IPv4Pools)) ∨ ∃ s₁ t ip net, OnlyPools s s₁ ∧
      (s.IPv4Pools → s₁.IPv4Pools ∧ Addressed t ip net) ∧
      (answer, s') = s₁.openContext req t ip net := by
  rcases handleCreateSMContext_eq_ok h with
    rfl | ⟨name, pool, _, ip, s₁, hpool, ⟨v6, rfl⟩, hip, hrest⟩
  · exact Or.inl ⟨OnlyPools.refl s', id⟩
  obtain ⟨honly, hsome, hlen⟩ := onlyPools_allocateIPv4 hpool hip
  rcases hrest with rfl | ⟨net, s₂, hnet, hopen⟩
  · obtain ⟨hback, hback4⟩ := onlyPools_releaseIPv4 s₁ req.dnn ip
    exact Or.inl ⟨honly.trans hback, fun hs => hback4 (hlen hs).1⟩
  · obtain ⟨honly6, hsome6, hpools6, hlen6⟩ := onlyPools_allocateIPv6 hnet
    refine Or.inr ⟨s₂, _, ip, net, honly.trans honly6, fun hs => ?_, hopen⟩
    exact ⟨hpools6 (hlen hs).1, needs_address _ _, hsome, hsome6, (hlen hs).2, hlen6⟩

theorem release_cases (s : Server) (ref : Nat) (p : Ptr)
    (hstale : s.sessions.lookup ref = some p → (s.heap.get p).n4Stale = false) (hs : s.IPv4Pools) :
    (s.releaseSessionLocal ref p true).2 = s ∨ ∃ s₁, OnlyPools s s₁ ∧ s₁.IPv4Pools ∧
      s₁.sessions.lookup ref = some p ∧ (s.releaseSessionLocal ref p true).2 = s₁.close ref p := by
  unfold releaseSessionLocal
  split_ifs with hp
  · exact Or.inl rfl
  · have hp := not_not.1 hp
    dsimp only
    obtain ⟨honly, hpools⟩ := onlyPools_release s (s.heap.get p).dnn (s.heap.get p).ueIP
      (s.heap.get p).ueIPv6Prefix
    refine Or.inr ⟨_, honly, hpools hs, (honly.same.sessions ref).trans hp, ?_⟩
    rw [if_pos (by simp [hstale hp])]
    rfl

end Server

namespace N4

open Server

variable {st : N4} {s s' : Server} {upf : Upf.Server}

/-- The books of the SMF are in order, and the UPF agrees with them. -/
def Inv (s : Server) (upf : Upf.Server) : Prop := s.Books ∧ Agree s upf

section

variable (h : Inv s upf)
include h

theorem Inv.onlyPools (honly : OnlyPools s s') (hpools : s'.IPv4Pools) : Inv s' upf :=
  ⟨h.1.onlyPools honly hpools, h.2.same honly.same⟩

theorem Inv.addSession {ref : Nat} (hfresh : Fresh s ref sess) : Inv (s.addSession ref sess) upf :=
  ⟨h.1.addSession hfresh, h.2.addSession h.1 hfresh⟩

theorem Inv.openContext (hround : s.nextTEID + 1 ≠ 0) {t : UInt8}
    {ip net : Option Bytes} (haddr : Addressed t ip net) (req : CreateSMContext) :
    Inv (s.openContext req t ip net).2 upf := by
  obtain ⟨hbooks, hseid, hteid⟩ := h.1.count hround
  have hinv : Inv { s with nextRef := s.nextRef + 1, nextTEID := s.nextTEID + 1,
                           nextSEID := s.nextSEID + 1 } upf :=
    ⟨hbooks, h.2.same ⟨fun _ => rfl, rfl, rfl⟩⟩
  have hunused : ∀ q < s.heap.next, (s.heap.get q).seid ≠ s.nextSEID + 1 := by
    intro q hq heq
    obtain ⟨⟨n, hn, hnum⟩, _⟩ := h.1.session q hq
    have hthis := hnum.seid
    rw [heq, hseid] at hthis
    omega
  unfold Server.openContext
  dsimp only
  split
  · exact ⟨hbooks.startSecondaryAuth (lt_succ_self _) hseid hteid haddr hunused,
      hinv.2.same ⟨fun _ => rfl, rfl, rfl⟩⟩
  · split
    · exact hinv
    · refine hinv.addSession ⟨⟨succ_pos _, hseid, hteid⟩, lt_succ_self _, rfl, haddr, hunused, ?_⟩
      intro r pending hp heq
      obtain ⟨_, hlt, hthis, _⟩ := h.1.pending r pending hp
      rw [heq] at hthis
      change (s.nextSEID + 1).toNat = r + 1 at hthis
      omega

theorem Inv.create (hround : s.nextTEID + 1 ≠ 0) {req : CreateSMContext}
    {answer : Answer} (hcreate : s.handleCreateSMContext req = .ok (answer, s')) : Inv s' upf := by
  rcases create_addressed hcreate with ⟨honly, hpools⟩ | ⟨s₁, t, ip, net, honly, haddr, hopen⟩
  · exact h.onlyPools honly (hpools h.1.ipv4)
  · obtain ⟨hpools, haddr⟩ := haddr h.1.ipv4
    have hteid : s₁.nextTEID = s.nextTEID := by
      rw [honly]
    have hinv := (h.onlyPools honly hpools).openContext (by rwa [hteid]) haddr req
    rwa [← hopen] at hinv

theorem Inv.reject {ref : Nat} (hp : s.pendingAuth.lookup ref = some pending) :
    Inv (s.rejectSecondaryAuth pending) upf := by
  have hfresh := h.1.fresh_pending hp {} 0
  have hnone := (h.1.deletePendingAuth pending.smContextRef).lookup_none hfresh
  let s₁ : Server := { s.deletePendingAuth pending.smContextRef with
    sessions := (s.deletePendingAuth pending.smContextRef).sessions.erase pending.smContextRef }
  have hsame : SameBooks s s₁ := by
    refine ⟨fun r => ?_, rfl, rfl⟩
    by_cases hr : r = pending.smContextRef
    · subst hr
      exact (AList.lookup_erase _ _).trans hnone.symm
    · exact AList.lookup_erase_ne hr
  have hinv : Inv s₁ upf :=
    ⟨h.1.same hsame h.1.ipv4 (le_refl _) h.1.seids h.1.teids
      fun _ _ hp => (lookup_erase_eq_some.1 hp).2, h.2.same hsame⟩
  obtain ⟨hback, hpools⟩ := onlyPools_release s₁ pending.dnn pending.ipv4 pending.v6Prefix
  exact hinv.onlyPools hback (hpools hinv.1.ipv4)

theorem Inv.complete {ref : Nat} (hp : s.pendingAuth.lookup ref = some pending)
    (qos : SmPolicyQoS) (now : Time) : Inv (s.completeSecondaryAuth pending qos now) upf := by
  have hinv : Inv (s.deletePendingAuth pending.smContextRef) upf :=
    ⟨h.1.deletePendingAuth _, h.2.same ⟨fun _ => rfl, rfl, rfl⟩⟩
  exact hinv.addSession (h.1.fresh_pending hp qos now)

theorem Inv.release (ref : Nat) (p : Ptr) : Inv (s.releaseSessionLocal ref p true).2 upf := by
  have hstale : s.sessions.lookup ref = some p → (s.heap.get p).n4Stale = false :=
    fun hp => (h.1.session p (h.1.table ref p hp).1).2.1
  rcases release_cases s ref p hstale h.1.ipv4 with heq | ⟨s₁, honly, hpools, hp, heq⟩
  · rw [heq]
    exact h
  · have hinv := h.onlyPools honly hpools
    rw [heq]
    exact ⟨hinv.1.close hp, hinv.2.close hinv.1 hp⟩

end

theorem Inv.deliver (h : Inv st.smf st.upf) (task : Task) (now : Int64)
    (horder : st.InOrder (.deliver task now)) :
    Inv (st.next (.deliver task now)).smf (st.next (.deliver task now)).upf := by
  obtain ⟨hbooks, hagree⟩ := h
  simp only [next]
  split_ifs with htask
  · refine ⟨hbooks.finish task, ?_⟩
    obtain ⟨p, hp, rfl | ⟨rfl, hclosed⟩⟩ := hbooks.tasks task htask
    · obtain ⟨req, us, hreq, hus, hmirrors⟩ :=
        establishment_mirrors (hbooks.session p hp).2.2
      have hrequest : (sendPFCPSessionEstablishment p).request st.smf now =
          some (.establishment req now) := by
        simp only [request, hreq]
      rw [hrequest]
      exact hagree.establishment hbooks hp htask hus hmirrors
        (hagree.apart hbooks hp htask hmirrors horder) now
    · exact hagree.deletion hbooks hp htask hclosed horder
  · exact ⟨hbooks, hagree⟩

theorem Inv.server (h : Inv s upf) (e : Event)
    (hround : ∀ req, e = .createSMContext req → s.nextTEID + 1 ≠ 0)
    (hmark : ∀ cutoff all n4Stale, e ≠ .markSessionsReleasing cutoff all n4Stale) :
    Inv (s.next e) upf := by
  refine next_elim (Q := fun s => Inv s upf) e h ?_ (fun _ _ => h.complete) (fun _ _ => h.reject)
    h.release (fun _ _ _ he => absurd he (hmark _ _ _))
  intro req answer s' he
  exact h.create (hround req he)

theorem Inv.next (h : Inv st.smf st.upf) (l : Label) (horder : st.InOrder l) :
    Inv (st.next l).smf (st.next l).upf := by
  cases l with
  | createSMContext req => exact h.server (.createSMContext req) (fun _ _ => horder) nofun
  | authComplete req => exact h.server (.authComplete req) nofun nofun
  | deleteSMContext ref => exact h.server (.deleteSMContext ref) nofun nofun
  | releaseSessionLocal t => exact h.release t.ref t.sess
  | deliver task now => exact h.deliver task now horder

theorem Started.inv (h : st.Started) : Inv st.smf st.upf := by
  obtain ⟨hrefs, hseids, hteids⟩ := h.counters
  obtain ⟨cfg, hupf⟩ := h.upf
  refine ⟨⟨h.ipv4, ?_, ?_, ?_, ?_, ?_, ?_, ?_, ?_, ?_⟩, ⟨?_, ?_, ?_, ?_⟩⟩
  · rw [hseids, hrefs]
    rfl
  · rw [hteids, hrefs]
    rfl
  · simp [h.heap]
  · simp [h.heap]
  · simp [h.sessions]
  · simp [h.pendingAuth]
  · simp [h.pendingAuth]
  · simp [h.tasks]
  · simp [h.tasks]
  · rw [hupf]
    exact Upf.Server.Whole.empty cfg
  · simp [hupf]
  · simp [h.heap]
  · simp [h.tasks]

theorem Inv.settled (h : Inv st.smf st.upf) (hquiet : st.smf.tasks = []) : st.Settled := by
  obtain ⟨hbooks, hagree⟩ := h
  have hthere : ∀ p, st.smf.InTable p → (∃ n, (st.smf.heap.get p).Numbered n) ∧
      Addressed (st.smf.heap.get p).pduSessionType (st.smf.heap.get p).ueIP
        (st.smf.heap.get p).ueIPv6Prefix ∧
      ∃ u, st.upf.Live u ∧ Mirrors (st.smf.heap.get p) (st.upf.heap.get u) := by
    rintro p ⟨ref, href⟩
    have hp := (hbooks.table ref p href).1
    obtain ⟨⟨n, _, hn⟩, _, haddr⟩ := hbooks.session p hp
    obtain ⟨u, hu⟩ := hagree.arrived p hp (Or.inl ⟨ref, href⟩) (by simp [hquiet])
    exact ⟨⟨n, hn⟩, haddr, u, ⟨_, hu⟩, (hagree.installed_eq hbooks hp hu).1⟩
  refine ⟨?_, ?_, ?_, ?_⟩
  · intro p hp
    obtain ⟨⟨n, hn⟩, _, u, hlive, hmirrors⟩ := hthere p hp
    refine ⟨u, hagree.whole.ulteid u hlive _ ?_, hmirrors.seid⟩
    dsimp only
    rw [ulKey, hmirrors.teid, if_pos]
    intro hzero
    have hteid := hn.teid
    rw [hzero] at hteid
    exact absurd hteid (Nat.ne_of_lt hn.pos)
  · intro p ip hp hip
    obtain ⟨_, haddressed, u, hlive, hmirrors⟩ := hthere p hp
    have hkey : (st.upf.heap.get u).ipKey = ueAddr ip := by
      rw [hmirrors.ip, Session.ipKey, hip]
      rfl
    have haddr : ueAddr ip = some (.v4 ip) := by
      rw [ueAddr, if_pos (haddressed.ipv4_length ip hip)]
    refine ⟨u, ?_, hmirrors.seid⟩
    rw [Upf.Server.getByUEIP, haddr]
    exact hagree.whole.ueip u hlive _ (hkey.trans haddr)
  · intro p net hp hnet ip hip hsame
    obtain ⟨_, haddressed, u, hlive, hmirrors⟩ := hthere p hp
    have hkey : (st.upf.heap.get u).netKey = ueV6Prefix net := by
      rw [hmirrors.net, Session.netKey, hnet]
      rfl
    have hnetwork : ∀ a : Bytes, a.length = 16 → ueV6Prefix a = some (a.take 8) := by
      intro a ha
      rw [ueV6Prefix, Upf.to16, if_neg (by omega), if_pos ha]
      rfl
    rw [hnetwork net (haddressed.ipv6_length net hnet)] at hkey
    refine ⟨u, ?_, hmirrors.seid⟩
    rw [Upf.Server.getByUEIPv6Prefix, hnetwork ip hip, hsame]
    exact hagree.whole.ueipv6 u hlive _ hkey
  · intro p hp hout
    rw [Option.eq_none_iff_forall_ne_some]
    intro u hu
    obtain ⟨_, hwanted, _⟩ := hagree.installed_eq hbooks hp hu
    rcases hwanted with hin | hmem
    · exact hout hin
    · rw [hquiet] at hmem
      exact absurd hmem (by simp)

/-- In every run in which the requests arrive in order, the SMF and the UPF agree whenever no
request is under way. -/
theorem sessions_settled {start : N4} (hstart : start.Started) {labels : List Label}
    (run : Run ((System.ofFun N4.next).when InOrder) start labels st)
    (hquiet : st.smf.tasks = []) : st.Settled := by
  have hinv : Inv st.smf st.upf := by
    refine run.invariant (I := fun st => Inv st.smf st.upf) hstart.inv ?_
    rintro st l _ h ⟨horder, rfl⟩
    exact h.next l horder
  exact hinv.settled hquiet

def start : N4 where
  smf := Server.onePool

theorem started_start : start.Started := by
  refine ⟨rfl, rfl, rfl, rfl, ⟨rfl, rfl, rfl⟩, fun name pool h => ?_, {}, rfl⟩
  rcases lookup_insert_eq_some.1 h with ⟨_, rfl⟩ | ⟨_, hnone⟩
  · rfl
  · exact absurd hnone (by simp)

def create : Label := .createSMContext { dnn := "internet", n2SmInfo := .ok [] }

def establish (p : Ptr) : Label := .deliver (.sendPFCPSessionEstablishment p) 0

def delete (p : Ptr) : Label := .deliver (.sendPFCPSessionDeletion p) 0

/-- A session, and after it a second one with the same address, one request after the other. -/
def twoInTurn : N4 :=
  [create, establish 0, .deleteSMContext 0, delete 0, create, establish 1].foldl next start

/-- They agree at the end. -/
theorem sessions_settled_twoInTurn : twoInTurn.smf.tasks = [] ∧ twoInTurn.Settled := by
  have hquiet : twoInTurn.smf.tasks = [] := by decide +kernel
  have hnolive : ∀ st : N4, st.upf.bySEID.entries = [] → ∀ u, ¬ st.upf.Live u := by
    rintro st hempty u ⟨seid, hu⟩
    simp [AList.lookup, hempty] at hu
  refine ⟨hquiet, sessions_settled started_start (Run.foldl_allowed ?_) hquiet⟩
  refine ⟨?_, ?_, trivial, ?_, ?_, ?_, trivial⟩
  · exact show (1 : UInt32) ≠ 0 by decide
  · exact fun u hu => absurd hu (hnolive _ (by decide +kernel) u)
  · show sendPFCPSessionEstablishment 0 ∉
      ([create, establish 0, .deleteSMContext 0].foldl next start).smf.tasks
    decide +kernel
  · show ([create, establish 0, .deleteSMContext 0, delete 0].foldl next start).smf.nextTEID + 1 ≠ 0
    decide +kernel
  · exact fun u hu => absurd hu (hnolive _ (by decide +kernel) u)

/-- The deletion of the first session comes after the establishment of the second one. -/
def overtaken : N4 :=
  [create, .deleteSMContext 0, create, establish 0, establish 1, delete 0].foldl next start

/-- The deletion of a session comes before its establishment. -/
def reversed : N4 := [create, .deleteSMContext 0, delete 0, establish 0].foldl next start

/-- Everything has arrived.  In the first run the session in the table is not found by its
address, and in the second one a session that was released is still at the UPF. -/
theorem address_lost_and_session_left :
    start.Started ∧ (overtaken.smf.tasks = [] ∧ ¬ overtaken.Settled) ∧
      reversed.smf.tasks = [] ∧ ¬ reversed.Settled := by
  refine ⟨started_start, ⟨by decide +kernel, fun h => ?_⟩, by decide +kernel, fun h => ?_⟩
  · have hin : overtaken.smf.InTable 1 := ⟨1, by decide +kernel⟩
    obtain ⟨u, hu, _⟩ := h.downlink 1 [10, 45, 0, 2] hin (by decide +kernel)
    have hnone : overtaken.upf.getByUEIP [10, 45, 0, 2] = none := by decide +kernel
    exact absurd (hnone.symm.trans hu) (by simp)
  · have hout : ¬ reversed.smf.InTable 0 := by
      have hempty : reversed.smf.sessions.entries = [] := by decide +kernel
      rintro ⟨ref, href⟩
      simp [AList.lookup, hempty] at href
    have hnone := h.released 0 (by decide +kernel) hout
    exact absurd hnone (by decide +kernel)

end N4

end Claudia5gc.Smf
