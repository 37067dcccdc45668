import Claudia5gc.Upf.Decapsulation

/-!
# Uplink packets and the TUNs of the DNNs

An uplink packet that is not for the UPF itself is written to a TUN.  The server picks the TUN by
the source address in the packet, which the UE has written, and does not compare it with the address
of the session.
-/

namespace Claudia5gc.Upf

open Go Outcome List

variable {b inner : Bytes} {g : GtpuServer} {p : Ptr} {rt : TunRoute}

/-! ## The addresses in a packet -/

def version (inner : Bytes) : UInt8 := inner.getD 0 0 >>> 4

def src4 (inner : Bytes) : Bytes := (inner.drop 12).take 4

def dst4 (inner : Bytes) : Bytes := (inner.drop 16).take 4

def src6 (inner : Bytes) : Bytes := (inner.drop 8).take 16

def dst6 (inner : Bytes) : Bytes := (inner.drop 24).take 16

def IsICMPv6 (inner : Bytes) (type : UInt8) : Prop :=
  48 ≤ inner.length ∧ inner.getD 6 0 = RA.nextHeaderICMPv6 ∧ inner.getD 40 0 = type

instance (inner : Bytes) (type : UInt8) : Decidable (IsICMPv6 inner type) := by
  unfold IsICMPv6
  infer_instance

namespace GtpuServer

/-- An IPv4 packet for the data network: not one for the N3 address of the UPF. -/
def Transit4 (g : GtpuServer) (inner : Bytes) : Prop :=
  20 ≤ inner.length ∧ version inner = 4 ∧ ipEqual (dst4 inner) g.n3IP = false

/-- An IPv6 packet for the data network: no Router Solicitation, and no Echo Request to the
address of the router. -/
def Transit6 (inner : Bytes) : Prop :=
  40 ≤ inner.length ∧ version inner = 6 ∧ ¬ IsICMPv6 inner RA.typeRouterSolicitation ∧
    ¬ (IsICMPv6 inner icmpv6TypeEchoRequest ∧ ipEqual (dst6 inner) RA.linkLocalRouterAddr = true)

/-- The TUN whose pool is the first to contain the source address that the packet claims. -/
def Claims (g : GtpuServer) (inner : Bytes) (rt : TunRoute) : Prop :=
  g.Transit4 inner ∧ g.tunRouteForIP (src4 inner) = some rt ∨
    Transit6 inner ∧ g.tunRouteForIPv6 (src6 inner) = some rt

/-! ## What is written -/

theorem index_getD {i : Nat} (h : i < b.length) : index b i = .ok (b.getD i 0) := by
  rw [index_of_lt h, getD_eq_getElem _ _ h]

theorem sendGTPU_ne_tunWrite {reply : Bytes} :
    g.sendGTPU p reply ≠ .ok (some (.tunWrite rt b)) := by
  rw [sendGTPU, dlFrame_eq, ok_bind, sendFrame]
  split <;> simp

theorem handleICMPToSelf_ne_tunWrite :
    g.handleICMPToSelf p inner ≠ .ok (some (.tunWrite rt b)) := by
  intro h
  obtain ⟨proto, -, h⟩ := bind_eq_ok.1 h
  split at h
  · cases h
  obtain ⟨first, -, h⟩ := bind_eq_ok.1 h
  dsimp only at h
  split at h
  · cases h
  obtain ⟨icmp, -, h⟩ := bind_eq_ok.1 h
  obtain ⟨kind, -, h⟩ := bind_eq_ok.1 h
  split at h
  · cases h
  split at h
  · cases h
  obtain ⟨reply, -, h⟩ := bind_eq_ok.1 h
  exact sendGTPU_ne_tunWrite h

theorem forward_eq_tunWrite {rt : Option TunRoute} {rt' : TunRoute} :
    forward rt inner = some (.tunWrite rt' b) ↔ b = inner ∧ rt = some rt' := by
  cases rt <;> simp [forward, eq_comm, and_comm]

theorem processInnerIP_tunWrite : g.processInnerIP p inner = .ok (some (.tunWrite rt b)) ↔
      b = inner ∧ g.Transit4 inner ∧ g.tunRouteForIP (src4 inner) = some rt := by
  rw [processInnerIP, Transit4]
  by_cases hlen : inner.length < 20
  · simp [hlen]
  rw [if_neg hlen, index_getD (by omega), ok_bind]
  by_cases hversion : version inner = 4
  · rw [if_neg (c := inner.getD 0 0 >>> 4 ≠ 4) (not_not.2 hversion),
      slice_of_le (by omega) (by omega), ok_bind,
      show (inner.drop 16).take (20 - 16) = dst4 inner from rfl]
    cases hself : ipEqual (dst4 inner) g.n3IP with
    | true =>
      simp [handleICMPToSelf_ne_tunWrite]
    | false =>
      rw [if_neg (by simp), slice_of_le (by omega) (by omega), ok_bind, pure_eq,
        ok.injEq, forward_eq_tunWrite]
      simp [Nat.le_of_not_lt hlen, hversion, src4]
  · rw [if_pos (c := inner.getD 0 0 >>> 4 ≠ 4) hversion]
    simp [hversion]

theorem parseRouterSolicitation_eq (h : version inner = 6) : RA.parseRouterSolicitation inner =
      .ok (if IsICMPv6 inner RA.typeRouterSolicitation then some (src6 inner) else none) := by
  rw [RA.parseRouterSolicitation, RA.ipv6HeaderLen]
  by_cases hlen : inner.length < 40
  · rw [if_pos hlen, if_neg (fun hicmp => by have := hicmp.1; omega)]
  rw [if_neg hlen, index_getD (by omega), ok_bind, if_neg (by simpa [version] using h),
    index_getD (by omega), ok_bind]
  by_cases hnext : inner.getD 6 0 = RA.nextHeaderICMPv6
  · rw [if_neg (by simpa using hnext), sliceFrom_of_le (by omega), ok_bind, length_drop]
    by_cases hlong : inner.length - 40 < 8
    · rw [if_pos hlong, if_neg (fun hicmp => by have := hicmp.1; omega)]
      rfl
    · have htype : index (inner.drop 40) 0 = .ok (inner.getD 40 0) := by
        rw [index_getD (by rw [length_drop]; omega), getD_eq_getElem?_getD,
          getElem?_drop, ← getD_eq_getElem?_getD]
      rw [if_neg hlong, htype, ok_bind]
      by_cases hrs : inner.getD 40 0 = RA.typeRouterSolicitation
      · rw [if_neg (by simpa using hrs), slice_of_le (by omega) (by omega),
          if_pos ⟨by omega, hnext, hrs⟩]
        rfl
      · rw [if_pos hrs, if_neg (fun hicmp => hrs hicmp.2.2)]
        rfl
  · rw [if_pos hnext, if_neg (fun hicmp => hnext hicmp.2.1)]
    rfl

theorem echoToRouter_eq (hlen : 40 ≤ inner.length) :
    echoToRouter inner (dst6 inner) = .ok (decide (IsICMPv6 inner icmpv6TypeEchoRequest ∧
      ipEqual (dst6 inner) RA.linkLocalRouterAddr = true)) := by
  rw [echoToRouter, index_getD (by omega), ok_bind]
  by_cases hicmp : inner.getD 6 0 = RA.nextHeaderICMPv6 ∧ inner.length ≥ 48
  · have htype : index (inner.drop 40) 0 = .ok (inner.getD 40 0) := by
      rw [index_getD (by rw [length_drop]; omega), getD_eq_getElem?_getD,
        getElem?_drop, ← getD_eq_getElem?_getD]
    rw [if_pos hicmp, sliceFrom_of_le hlen, ok_bind, htype, ok_bind]
    have hiff : IsICMPv6 inner icmpv6TypeEchoRequest ↔ inner.getD 40 0 = icmpv6TypeEchoRequest :=
      ⟨fun h => h.2.2, fun h => ⟨hicmp.2, hicmp.1, h⟩⟩
    rw [pure_eq, decide_eq_decide.2 (and_congr_left fun _ => hiff)]
  · rw [if_neg hicmp]
    congr 1
    symm
    rw [decide_eq_false_iff_not]
    exact fun h => hicmp ⟨h.1.2.1, h.1.1⟩

theorem handleInnerIPv6_tunWrite (h : version inner = 6) :
    g.handleInnerIPv6 p inner = .ok (some (.tunWrite rt b)) ↔
      b = inner ∧ Transit6 inner ∧ g.tunRouteForIPv6 (src6 inner) = some rt := by
  rw [handleInnerIPv6, parseRouterSolicitation_eq h, ok_bind, Transit6]
  by_cases hrs : IsICMPv6 inner RA.typeRouterSolicitation
  · cases g.pfcpSrv <;> simp [hrs]
  rw [if_neg hrs]
  dsimp only
  by_cases hlen : inner.length < 40
  · simp [hlen]
  rw [if_neg hlen, slice_of_le (by omega) (by omega), ok_bind,
    slice_of_le (by omega) (by omega), ok_bind,
    show (inner.drop 24).take (40 - 24) = dst6 inner from rfl,
    echoToRouter_eq (Nat.le_of_not_lt hlen), ok_bind]
  by_cases hecho : IsICMPv6 inner icmpv6TypeEchoRequest ∧
      ipEqual (dst6 inner) RA.linkLocalRouterAddr = true
  · rw [if_pos (by simpa using hecho)]
    refine iff_of_false (fun hw => ?_) fun ⟨_, ⟨_, _, _, hno⟩, _⟩ => hno hecho
    split at hw
    · cases hw
    obtain ⟨icmp, -, hw⟩ := bind_eq_ok.1 hw
    obtain ⟨reply, -, hw⟩ := bind_eq_ok.1 hw
    exact sendGTPU_ne_tunWrite hw
  · rw [if_neg (by simpa using hecho), pure_eq, ok.injEq, forward_eq_tunWrite]
    have hlen : 40 ≤ inner.length := Nat.le_of_not_lt hlen
    refine and_congr_right fun _ => ⟨fun hrt => ⟨⟨hlen, h, hrs, hecho⟩, hrt⟩, fun hrt => hrt.2⟩

theorem handleInner_tunWrite :
    g.handleInner p inner = .ok (some (.tunWrite rt b)) ↔ b = inner ∧ g.Claims inner rt := by
  have hv6 : isIPv6 inner = .ok (decide (version inner = 6)) := by
    rw [isIPv6]
    by_cases hpos : inner.length > 0
    · rw [if_pos hpos, index_getD hpos, ok_bind]
      rfl
    · obtain rfl : inner = [] := length_eq_zero_iff.1 (by omega)
      rfl
  rw [handleInner, hv6, ok_bind, Claims]
  by_cases h : version inner = 6
  · rw [if_pos (by simpa using h), handleInnerIPv6_tunWrite h]
    have hnot : ¬ g.Transit4 inner := fun h4 => by
      have h4 := h4.2.1
      rw [h] at h4
      exact absurd h4 (by decide)
    simp [hnot]
  · rw [if_neg (by simpa using h), processInnerIP_tunWrite]
    have hnot : ¬ Transit6 inner := fun h6 => h h6.2.1
    simp [hnot]

/-! ## The TUNs of a session -/

end GtpuServer

/-- The pool of the DNN contains the address of the UE. -/
def TunRoute.Holds (rt : TunRoute) (ueIP ueIPv6 : Bytes) : Prop :=
  rt.subnet.contains ueIP = true ∨ rt.subnet6.any (·.contains ueIPv6) = true

namespace GtpuServer

/-- The datagram brings the packet to the session. -/
def Brings (g : GtpuServer) (pkt : Bytes) (p : Ptr) (inner : Bytes) : Prop :=
  ∃ teid, decapsulate pkt = .ok (some (teid, inner)) ∧ g.sessions.getByULTEID teid = some p

/-- Whatever the server writes to a TUN for the datagram, it writes to one of the DNN whose pool
contains the address of the session that the datagram is for. -/
def Isolates (g : GtpuServer) (pkt : Bytes) (now : Int64) : Prop :=
  ∀ u g' p inner rt b, g.handlePacket pkt now = .ok (u, g') → u.tpdu = some (p, inner) →
    u.action = some (.tunWrite rt b) →
    rt.Holds (g.sessions.heap.get p).ueIP (g.sessions.heap.get p).ueIPv6

/-- The pool that contains the claimed source address is one of the UE's own DNN. -/
def Honest (g : GtpuServer) (ueIP ueIPv6 inner : Bytes) : Prop :=
  ∀ rt, g.Claims inner rt → rt.Holds ueIP ueIPv6

theorem handlePacket_of_brings {pkt : Bytes} (h : g.Brings pkt p inner) (now : Int64) :
    g.handlePacket pkt now = g.uplink p inner now := by
  obtain ⟨teid, hdecap, hsess⟩ := h
  simp only [handlePacket, hdecap, ok_bind, hsess]

theorem Honest.isolates {pkt : Bytes} (hbrings : g.Brings pkt p inner)
    (h : g.Honest (g.sessions.heap.get p).ueIP (g.sessions.heap.get p).ueIPv6 inner)
    (now : Int64) : g.Isolates pkt now := by
  intro u g' p' inner' rt b hu htpdu haction
  rw [handlePacket_of_brings hbrings, uplink] at hu
  split at hu
  · obtain ⟨action, hinner, hu⟩ := bind_eq_ok.1 hu
    obtain ⟨rfl, -⟩ := Prod.mk.inj (ok.inj hu)
    obtain ⟨rfl, rfl⟩ := Prod.mk.inj (Option.some.inj htpdu)
    obtain rfl : action = some (.tunWrite rt b) := haction
    exact h rt (handleInner_tunWrite.1 hinner).2
  · obtain ⟨rfl, -⟩ := Prod.mk.inj (ok.inj hu)
    cases haction

/-- A session table with one session, whose packets are not policed. -/
def oneUE (ueIP ueIPv6 : Bytes) : Server where
  heap := ⟨fun _ => { cpSEID := 0, upSEID := 0, ueIP := ueIP, ueIPv6 := ueIPv6 }, 1⟩
  byULTEID := AList.insert 0 0 ∅

/-- Over every session table, every datagram that brings the packet to a session with the given
addresses, and every time: nothing is written to the TUN of another DNN exactly when the source
address that the packet claims is not in a pool of another DNN. -/
theorem uplink_isolated_iff (g : GtpuServer) (ueIP ueIPv6 inner : Bytes) :
    (∀ (sessions : Server) (p : Ptr) (pkt : Bytes) (now : Int64),
        { g with sessions := sessions }.Brings pkt p inner →
        (sessions.heap.get p).ueIP = ueIP → (sessions.heap.get p).ueIPv6 = ueIPv6 →
        { g with sessions := sessions }.Isolates pkt now) ↔
      g.Honest ueIP ueIPv6 inner := by
  constructor
  · intro h rt hclaims
    have hne : inner ≠ [] := by
      rintro rfl
      rcases hclaims with ⟨⟨hlen, -⟩, -⟩ | ⟨⟨hlen, -⟩, -⟩ <;> simp at hlen
    obtain ⟨frame, -, hdecap⟩ := decapsulate_dlFrame 0 0 hne
    have hbrings : { g with sessions := oneUE ueIP ueIPv6 }.Brings frame 0 inner :=
      ⟨0, hdecap, AList.lookup_insert (∅ : Map UInt32 Ptr)⟩
    have hwrite : { g with sessions := oneUE ueIP ueIPv6 }.handleInner 0 inner =
        .ok (some (.tunWrite rt inner)) := handleInner_tunWrite.2 ⟨rfl, hclaims⟩
    refine h (oneUE ueIP ueIPv6) 0 frame 0 hbrings rfl rfl
      { tpdu := some (0, inner), action := some (.tunWrite rt inner) }
      { g with sessions := oneUE ueIP ueIPv6 } 0 inner rt inner ?_ rfl rfl
    rw [handlePacket_of_brings hbrings, uplink]
    have hpass : { g with sessions := oneUE ueIP ueIPv6 }.admitUL 0 inner.length 0 =
        (true, { g with sessions := oneUE ueIP ueIPv6 }) := rfl
    rw [hpass]
    rw [if_pos rfl, hwrite]
    rfl
  · intro h sessions p pkt now hbrings hip hipv6
    refine Honest.isolates hbrings ?_ now
    rw [hip, hipv6]
    exact h

/-- Two DNNs, and a UE of the first whose packet claims an address of the second: the packet is
written to the TUN of the second. -/
theorem spoofed_source_crosses_dnns :
    let internet : TunRoute := ⟨"internet", ⟨[10, 60, 0, 0], [255, 255, 255, 0]⟩, none⟩
    let ims : TunRoute := ⟨"ims", ⟨[10, 61, 0, 0], [255, 255, 255, 0]⟩, none⟩
    let g : GtpuServer :=
      { n3IP := [172, 30, 3, 100], tuns := [internet, ims], sessions := oneUE [10, 60, 0, 1] [] }
    let inner : Bytes :=
      [0x45, 0, 0, 20, 0, 0, 0, 0, 64, 17, 0, 0, 10, 61, 0, 5, 10, 61, 0, 9]
    let pkt : Bytes := [0x30, 0xFF, 0, 20, 0, 0, 0, 0] ++ inner
    (∃ g', g.handlePacket pkt 0 = .ok (⟨some (0, inner), some (.tunWrite ims inner)⟩, g')) ∧
      ¬ ims.Holds [10, 60, 0, 1] [] ∧ internet.Holds [10, 60, 0, 1] [] ∧ ¬ g.Isolates pkt 0 := by
  intro internet ims g inner pkt
  have hwrite : g.handlePacket pkt 0 = .ok (⟨some (0, inner), some (.tunWrite ims inner)⟩, g) := by
    rfl
  have hims : ¬ ims.Holds [10, 60, 0, 1] [] := by
    rw [TunRoute.Holds]
    decide
  refine ⟨⟨g, hwrite⟩, hims, .inl (by decide), fun h => ?_⟩
  exact hims (h _ _ _ _ _ _ hwrite rfl rfl)

end GtpuServer

end Claudia5gc.Upf
