import Claudia5gc.Upf.Gtpu

/-!
# GTP-U decapsulation

The server takes the T-PDU out of a datagram by walking its header.  It comes to an end on every
string of octets.  A message is described here by its parts: the flags, the optional fields, the
chain of extension headers, the payload that the Length field delimits, and whatever else the
datagram carries behind it.
-/

namespace Claudia5gc.Upf

open Go List Outcome

variable (pre : Bytes) (g : GtpuServer) (p : Ptr) (inner pkt : Bytes) (m : TPdu) {b b' data : Bytes}
  {lo i fuel : Nat} {sum : UInt32}

/-! ## Every datagram comes to an end -/

section Ends

open Outcome

theorem ends_put (h : i + data.length ≤ b.length) : (put b i data).Ends := by
  simp [put, h]

theorem length_put (h : put b i data = .ok b') : b'.length = b.length := by
  unfold put at h
  split at h
  · obtain rfl := ok.inj h
    simp
    omega
  · cases h

theorem ends_slice {hi : Nat} (h : lo ≤ hi) (h' : hi ≤ b.length) : (slice b lo hi).Ends := by
  rw [slice_of_le h h']
  trivial

theorem length_slice {hi : Nat} (h : slice b lo hi = .ok b') : b'.length = hi - lo := by
  unfold slice at h
  split at h
  · obtain rfl := ok.inj h
    simp
    omega
  · cases h

theorem ends_sliceFrom (h : lo ≤ b.length) : (sliceFrom b lo).Ends := by
  rw [sliceFrom_of_le h]
  trivial

theorem length_sliceFrom (h : sliceFrom b lo = .ok b') : b'.length = b.length - lo := by
  unfold sliceFrom at h
  split at h
  · obtain rfl := ok.inj h
    simp
  · cases h

theorem carry_toNat_lt (h : sum >>> 16 ≠ 0) :
    ((sum &&& (0xFFFF : UInt32)) + (sum >>> 16)).toNat < sum.toNat := by
  have hand : (sum &&& (0xFFFF : UInt32)).toNat = sum.toNat % 65536 := by
    exact Nat.and_two_pow_sub_one_eq_mod sum.toNat 16
  have hshift : (sum >>> 16).toNat = sum.toNat / 65536 := by
    exact Nat.shiftRight_eq_div_pow sum.toNat 16
  have hpos : sum.toNat / 65536 ≠ 0 := by
    rw [← hshift]
    exact fun hzero => h (UInt32.toNat_inj.1 hzero)
  have hlt := sum.toNat_lt
  rw [UInt32.toNat_add, hand, hshift, Nat.mod_eq_of_lt (by omega)]
  omega

theorem ends_foldSum (h : sum.toNat < fuel) : (foldSum fuel sum).Ends := by
  induction fuel generalizing sum with
  | zero => omega
  | succ fuel ih =>
    refine ends_ite (fun hcarry => ?_) fun _ => trivial
    have hless := carry_toNat_lt hcarry
    exact ih (by omega)

theorem ends_ipChecksum (data : Bytes) : (ipChecksum data).Ends :=
  (ends_foldSum (Nat.lt_succ_self _)).bind fun _ _ => trivial

theorem length_ipChecksum {cs : Bytes} (h : ipChecksum data = .ok cs) : cs.length = 2 := by
  obtain ⟨_, _, h⟩ := bind_eq_ok.1 h
  obtain rfl := ok.inj h
  rfl

theorem ends_icmpv6Checksum (src dst msg : Bytes) : (RA.icmpv6Checksum src dst msg).Ends := by
  have hsum : (RA.sum16WithChecksumZeroed msg).Ends := by
    refine ends_ite (fun _ => trivial) fun hlong => ?_
    exact (ends_put (by simp; omega)).bind fun _ _ => trivial
  refine hsum.bind fun _ _ => ?_
  exact (ends_foldSum (Nat.lt_succ_self _)).bind fun _ _ => trivial

theorem ends_buildICMPv6EchoReply (src dst : Bytes) {icmp : Bytes} (h : 4 ≤ icmp.length) :
    (buildICMPv6EchoReply src dst icmp).Ends := by
  refine (ends_put (by simp; omega)).bind fun r0 h0 => ?_
  refine (ends_put (by rw [length_put h0]; simp; omega)).bind fun r1 h1 => ?_
  refine (ends_icmpv6Checksum ..).bind fun cs _ => ?_
  refine (ends_put (by rw [length_put h1, length_put h0]; simp; omega)).bind fun _ _ => trivial

theorem ends_buildICMPReply {inner : Bytes} {ihl : Nat} (hmin : 20 ≤ inner.length)
    (h : ihl + 8 ≤ inner.length) : (buildICMPReply inner ihl (inner.drop ihl)).Ends := by
  have hicmp : (inner.drop ihl).length = inner.length - ihl := length_drop
  have hlen : (replicate (ihl + (inner.drop ihl).length) (0 : UInt8)).length = inner.length := by
    rw [length_replicate, hicmp]
    omega
  -- each step: the write is inside, and the reply keeps its length
  refine (ends_slice (Nat.zero_le _) (by omega)).bind fun d0 hd0 => ?_
  have hd0 := length_slice hd0
  refine (ends_put (by omega)).bind fun r0 h0 => ?_
  have h0 := (length_put h0).trans hlen
  refine (ends_slice (by omega) (by omega)).bind fun d1 hd1 => ?_
  have hd1 := length_slice hd1
  refine (ends_put (by omega)).bind fun r1 h1 => ?_
  have h1 := (length_put h1).trans h0
  refine (ends_slice (by omega) (by omega)).bind fun d2 hd2 => ?_
  have hd2 := length_slice hd2
  refine (ends_put (by omega)).bind fun r2 h2 => ?_
  have h2 := (length_put h2).trans h1
  refine (ends_put (by simp; omega)).bind fun r3 h3 => ?_
  have h3 := (length_put h3).trans h2
  refine (ends_slice (Nat.zero_le _) (by omega)).bind fun _ _ => ?_
  refine (ends_ipChecksum _).bind fun cs hcs => ?_
  have hcs := length_ipChecksum hcs
  refine (ends_put (by omega)).bind fun r4 h4 => ?_
  have h4 := (length_put h4).trans h3
  refine (ends_put (by omega)).bind fun r5 h5 => ?_
  have h5 := (length_put h5).trans h4
  refine (ends_put (by simp; omega)).bind fun r6 h6 => ?_
  have h6 := (length_put h6).trans h5
  refine (ends_put (by simp; omega)).bind fun r7 h7 => ?_
  have h7 := (length_put h7).trans h6
  refine (ends_put (by simp; omega)).bind fun r8 h8 => ?_
  have h8 := (length_put h8).trans h7
  refine (ends_sliceFrom (by omega)).bind fun _ _ => ?_
  refine (ends_ipChecksum _).bind fun cs' hcs' => ?_
  have hcs' := length_ipChecksum hcs'
  exact ends_put (by omega)

theorem put_append (post : Bytes) {old : Bytes} (h : old.length = data.length) :
    put (pre ++ old ++ post) pre.length data = .ok (pre ++ data ++ post) := by
  rw [put, if_pos (by simp; omega)]
  have hend : pre.length + data.length = (pre ++ old).length := by simp [h]
  rw [append_assoc pre old post, take_left, ← append_assoc, hend, drop_left]

/-- The sixteen octets in front of a downlink packet. -/
def dlHeader (dlTEID : UInt32) (qfi : UInt8) (innerLen : Nat) : Bytes :=
  [0x34, msgTypeTPDU] ++ be16 (UInt16.ofNat (8 + innerLen)) ++ be32 dlTEID ++
    [0x00, 0x00, 0x00, extHdrTypePDUSessionContainer, 0x01, pduSessionContainerDL, qfi &&& 0x3F,
      0x00]

theorem dlFrame_eq (dlTEID : UInt32) (qfi : UInt8) (inner : Bytes) :
    dlFrame dlTEID qfi inner = .ok (dlHeader dlTEID qfi inner.length ++ inner) := by
  have hroom : put (replicate (dlHeadroom + inner.length) 0) dlHeadroom inner =
      .ok (replicate 16 0 ++ inner) := by
    have h := put_append (replicate 16 0) []
      (show (replicate inner.length (0 : UInt8)).length = inner.length by simp)
    rw [append_nil, append_nil, ← replicate_add] at h
    exact h
  rw [dlFrame, hroom, ok_bind, putDLHeader]
  simp [put, putUint16, putUint32, be16, be32, dlHeader, replicate_succ,
    show 15 + 1 ≤ inner.length + 16 by omega]

theorem ends_sendGTPU : (g.sendGTPU p inner).Ends := by
  rw [GtpuServer.sendGTPU, dlFrame_eq, ok_bind]
  trivial

theorem ends_handleICMPToSelf {inner : Bytes} (hmin : 20 ≤ inner.length) :
    (g.handleICMPToSelf p inner).Ends := by
  refine (ends_index (by omega)).bind fun proto _ => ends_ite (fun _ => trivial) fun _ => ?_
  refine (ends_index (by omega)).bind fun first _ => ?_
  refine ends_ite (fun _ => trivial) fun hlong => ?_
  rw [sliceFrom_of_le (by omega), ok_bind]
  refine (ends_index (by rw [length_drop]; omega)).bind fun kind _ => ?_
  refine ends_ite (fun _ => trivial) fun _ => ends_ite (fun _ => trivial) fun _ => ?_
  exact (ends_buildICMPReply hmin (by omega)).bind fun _ _ => ends_sendGTPU ..

theorem ends_processInnerIP : (g.processInnerIP p inner).Ends := by
  refine ends_ite (fun _ => trivial) fun hmin => ?_
  refine (ends_index (by omega)).bind fun first _ => ends_ite (fun _ => trivial) fun _ => ?_
  refine (ends_slice (by omega) (by omega)).bind fun dst _ => ?_
  refine ends_ite (fun _ => ends_handleICMPToSelf g p (by omega)) fun _ => ?_
  exact (ends_slice (by omega) (by omega)).bind fun _ _ => trivial

theorem ends_parseRouterSolicitation : (RA.parseRouterSolicitation pkt).Ends := by
  refine ends_ite (fun _ => trivial) fun hmin => ?_
  have hmin : 40 ≤ pkt.length := Nat.le_of_not_lt hmin
  refine (ends_index (by omega)).bind fun first _ => ends_ite (fun _ => trivial) fun _ => ?_
  refine (ends_index (by omega)).bind fun next _ => ends_ite (fun _ => trivial) fun _ => ?_
  refine (ends_sliceFrom hmin).bind fun icmp _ => ends_ite (fun _ => trivial) fun hicmp => ?_
  refine (ends_index (by omega)).bind fun kind _ => ends_ite (fun _ => trivial) fun _ => ?_
  exact (ends_slice (by omega) (by omega)).bind fun _ _ => trivial

theorem ends_handleInnerIPv6 : (g.handleInnerIPv6 p inner).Ends := by
  refine (ends_parseRouterSolicitation inner).bind fun rs _ => ?_
  cases rs with
  | some srcLL => trivial
  | none =>
    refine ends_ite (fun _ => trivial) fun hmin => ?_
    refine (ends_slice (by omega) (by omega)).bind fun src _ => ?_
    refine (ends_slice (by omega) (by omega)).bind fun dst _ => ?_
    have hecho : (GtpuServer.echoToRouter inner dst).Ends := by
      refine (ends_index (by omega)).bind fun next _ => ?_
      refine ends_ite (fun hlong => ?_) fun _ => trivial
      refine (ends_sliceFrom (by omega)).bind fun icmp hicmp => ?_
      have hicmp := length_sliceFrom hicmp
      exact (ends_index (by omega)).bind fun _ _ => trivial
    refine hecho.bind fun echo hecho => ends_ite (fun htrue => ?_) fun _ => trivial
    -- only a packet of 48 octets or more is an echo request
    have hlong : 48 ≤ inner.length := by
      obtain ⟨next, _, h⟩ := bind_eq_ok.1 hecho
      split at h
      · omega
      · rw [← ok.inj h] at htrue
        cases htrue
    refine ends_ite (fun _ => trivial) fun _ => ?_
    refine (ends_sliceFrom (by omega)).bind fun icmp hicmp => ?_
    have hicmp := length_sliceFrom hicmp
    exact (ends_buildICMPv6EchoReply src dst (by omega)).bind fun _ _ => ends_sendGTPU ..

/-- Every round takes at least four octets, and the offset stays inside the datagram. -/
theorem ends_skipExtHdrs {pkt : Bytes} {hdrLen : Nat} (hpos : 0 < hdrLen)
    (hle : hdrLen ≤ pkt.length) (hfuel : pkt.length - hdrLen < fuel) :
    (skipExtHdrs pkt fuel hdrLen).Ends := by
  induction fuel generalizing hdrLen with
  | zero => omega
  | succ fuel ih =>
    refine (ends_index (by omega)).bind fun next _ => ?_
    refine ends_ite (fun _ => ends_ite (fun _ => trivial) fun hmore => ?_) fun _ => trivial
    refine (ends_index (by omega)).bind fun units _ => ?_
    refine ends_ite (fun _ => trivial) fun hext => ?_
    exact ih (by omega) (by omega) (by omega)

theorem ends_decapsulate : (decapsulate pkt).Ends := by
  refine ends_ite (fun _ => trivial) fun hmin => ?_
  have hmin : 8 ≤ pkt.length := Nat.le_of_not_lt hmin
  refine (ends_index (by omega)).bind fun flags _ => ?_
  refine (ends_index (by omega)).bind fun msgType _ => ?_
  rw [uint32_of_lt (by omega), ok_bind]
  refine ends_ite (fun _ => trivial) fun _ => ?_
  have hlen : (headerLen pkt flags).Ends := by
    refine ends_ite (fun _ => ends_ite (fun _ => trivial) fun hlong => ?_) fun _ => trivial
    have hlong : 12 ≤ pkt.length := Nat.le_of_not_lt hlong
    exact ends_skipExtHdrs (by decide) hlong (by omega)
  refine hlen.bind fun hdrLen _ => ?_
  cases hdrLen with
  | none => trivial
  | some hdrLen =>
    refine ends_ite (fun _ => trivial) fun hinner => ?_
    exact (ends_sliceFrom (by omega)).bind fun _ _ => trivial

theorem ends_handleInner : (g.handleInner p inner).Ends := by
  have hv6 : (GtpuServer.isIPv6 inner).Ends := by
    refine ends_ite (fun hpos => ?_) fun _ => trivial
    exact (ends_index hpos).bind fun _ _ => trivial
  refine hv6.bind fun v6 _ => ends_ite (fun _ => ?_) fun _ => ?_
  · exact ends_handleInnerIPv6 ..
  · exact ends_processInnerIP ..

theorem ends_uplink (now : Int64) : (g.uplink p inner now).Ends := by
  refine ends_ite (fun _ => ?_) fun _ => trivial
  exact (ends_handleInner ..).bind fun _ _ => trivial

theorem ends_handlePacket (now : Int64) : (g.handlePacket pkt now).Ends := by
  refine (ends_decapsulate pkt).bind fun r _ => ?_
  match r with
  | none => trivial
  | some (teid, inner) =>
    dsimp only
    cases g.sessions.getByULTEID teid with
    | none => trivial
    | some p => exact ends_uplink ..

end Ends

/-! ## Messages -/

/-- An extension header of a T-PDU. -/
structure ExtHeader where
  type : UInt8
  content : Bytes
  type_ne : type ≠ 0
  whole : 4 ∣ content.length + 2
  short : content.length + 2 < 1024

namespace ExtHeader

def units (x : ExtHeader) : Nat := (x.content.length + 2) / 4

theorem units_mul (x : ExtHeader) : x.units * 4 = x.content.length + 2 :=
  Nat.div_mul_cancel x.whole

theorem units_lt (x : ExtHeader) : x.units < 256 := by
  have hmul := x.units_mul
  have hshort := x.short
  omega

def firstType : List ExtHeader → UInt8
  | [] => 0
  | x :: _ => x.type

def chainBytes : List ExtHeader → Bytes
  | [] => []
  | x :: xs => UInt8.ofNat x.units :: x.content ++ firstType xs :: chainBytes xs

end ExtHeader

/-- The choices of a message that the receiver ought to look through: the spare bit, the flags,
the octet for the type of the next extension header when there is none, and the octets of the
datagram behind the message. -/
structure Framing where
  spare : Bool
  e : Bool
  s : Bool
  pn : Bool
  unused : UInt8
  trailing : Bytes

/-- A datagram with a well-formed GTPv1-U T-PDU. -/
structure TPdu extends Framing where
  teid : UInt32
  seq : UInt16
  npdu : UInt8
  chain : List ExtHeader
  payload : Bytes
  chain_nil : e = false → chain = []
  fits : 4 + (ExtHeader.chainBytes chain).length + payload.length < 65536

namespace Framing

def optional (f : Framing) : Bool := f.e || f.s || f.pn

/-- Version 1, protocol type GTP, the spare bit, E, S and PN. -/
def flags (f : Framing) : UInt8 :=
  0x30 ||| (if f.spare then 0x08 else 0) ||| (if f.e then 0x04 else 0) |||
    (if f.s then 0x02 else 0) ||| (if f.pn then 0x01 else 0)

theorem flags_and (f : Framing) : f.flags &&& 0x07 ≠ 0 ↔ f.optional = true := by
  rw [flags, optional]
  generalize f.spare = spare, f.e = e, f.s = s, f.pn = pn
  revert spare e s pn
  decide

/-- What the walk of the server relies on: the octet for the type of the next extension header
is zero when it says nothing. -/
def Plain (f : Framing) : Prop :=
  f.e = true ∨ f.s = false ∧ f.pn = false ∨ f.unused = 0

end Framing

namespace TPdu

open ExtHeader

/-- The type of the next extension header: only with E does it say something. -/
def nextType (m : TPdu) : UInt8 := if m.e then firstType m.chain else m.unused

/-- The sequence number, the N-PDU number and the type of the next extension header. -/
def optionalFields (m : TPdu) : Bytes :=
  if m.optional then be16 m.seq ++ [m.npdu, m.nextType] else []

/-- What the Length field counts. -/
def body (m : TPdu) : Bytes := m.optionalFields ++ chainBytes m.chain ++ m.payload

def header (m : TPdu) : Bytes :=
  [m.flags, msgTypeTPDU] ++ be16 (UInt16.ofNat m.body.length) ++ be32 m.teid

def bytes (m : TPdu) : Bytes := m.header ++ m.body ++ m.trailing

def delivery (m : TPdu) (g : GtpuServer) : Option (Ptr × Bytes) :=
  if m.payload = [] then none else (g.sessions.getByULTEID m.teid).map (·, m.payload)

/-- The server hands exactly the payload to the session of the TEID. -/
def Delivered (m : TPdu) : Prop :=
  ∀ (g : GtpuServer) (now : Int64), ∃ u g', g.handlePacket m.bytes now = .ok (u, g') ∧
    u.tpdu = m.delivery g

end TPdu

/-! ## The walk over the header -/

section Walk

open ExtHeader Outcome

theorem index_append_cons (x : UInt8) (post : Bytes) :
    index (pre ++ x :: post) pre.length = .ok x := by
  simp [index]

theorem skipExtHdrs_chain (xs : List ExtHeader) (rest : Bytes) (fuel : Nat)
    (hfuel : xs.length < fuel) :
    skipExtHdrs (pre ++ firstType xs :: (chainBytes xs ++ rest)) fuel (pre.length + 1) =
      .ok (some (pre.length + 1 + (chainBytes xs).length)) := by
  induction xs generalizing pre fuel with
  | nil =>
    obtain ⟨fuel, rfl⟩ := Nat.exists_eq_add_of_lt hfuel
    rw [show [].length + fuel + 1 = fuel + 1 by simp, skipExtHdrs, Nat.add_sub_cancel,
      index_append_cons, ok_bind]
    rfl
  | cons x xs ih =>
    obtain ⟨fuel, rfl⟩ : ∃ n, fuel = n + 1 := ⟨fuel - 1, by simp at hfuel; omega⟩
    have hunits := x.units_mul
    have hlt := x.units_lt
    -- the datagram, cut behind this header
    have hcut : pre ++ firstType (x :: xs) :: (chainBytes (x :: xs) ++ rest) =
        (pre ++ x.type :: UInt8.ofNat x.units :: x.content) ++
          firstType xs :: (chainBytes xs ++ rest) := by
      simp [firstType, chainBytes]
    have htype : index (pre ++ firstType (x :: xs) :: (chainBytes (x :: xs) ++ rest))
        pre.length = .ok x.type := index_append_cons ..
    have hlength : index (pre ++ firstType (x :: xs) :: (chainBytes (x :: xs) ++ rest))
        (pre.length + 1) = .ok (UInt8.ofNat x.units) := by
      have h := index_append_cons (pre ++ [x.type]) (UInt8.ofNat x.units)
        (x.content ++ firstType xs :: (chainBytes xs ++ rest))
      rw [← h]
      simp [firstType, chainBytes]
    have hlong : pre.length + 1 + (x.content.length + 2) ≤
        (pre ++ firstType (x :: xs) :: (chainBytes (x :: xs) ++ rest)).length := by
      simp [chainBytes]
      omega
    rw [skipExtHdrs, Nat.add_sub_cancel, htype, ok_bind, if_pos x.type_ne, if_neg (by omega),
      hlength, ok_bind, UInt8.toNat_ofNat_of_lt' hlt, hunits, if_neg (by omega), hcut]
    have hnext := ih (pre ++ x.type :: UInt8.ofNat x.units :: x.content) fuel
      (by simp at hfuel; omega)
    rw [show pre.length + 1 + (x.content.length + 2) =
      (pre ++ x.type :: UInt8.ofNat x.units :: x.content).length + 1 by simp; omega, hnext]
    simp [chainBytes]
    omega

theorem length_le_chainBytes (xs : List ExtHeader) : xs.length ≤ (chainBytes xs).length := by
  induction xs with
  | nil => simp
  | cons x xs ih =>
    simp [chainBytes]
    omega

end Walk

namespace TPdu

open ExtHeader Outcome

variable {m : TPdu}

@[simp] theorem length_header : m.header.length = 8 := rfl

theorem index_flags : index m.bytes 0 = .ok m.flags := rfl

theorem index_msgType : index m.bytes 1 = .ok msgTypeTPDU := rfl

theorem uint32_teid : uint32 m.bytes 4 = .ok m.teid := by
  have h := uint32_append_be32 ([m.flags, msgTypeTPDU] ++ be16 (UInt16.ofNat m.body.length))
    m.teid (m.body ++ m.trailing)
  rwa [← append_assoc] at h

theorem length_bytes : m.bytes.length = 8 + m.body.length + m.trailing.length := by
  simp [bytes, Nat.add_assoc]

theorem headerLen_bytes (hplain : m.Plain) : headerLen m.bytes m.flags =
      .ok (some (8 + m.optionalFields.length + (chainBytes m.chain).length)) := by
  rw [headerLen]
  cases hopt : m.optional with
  | false =>
    rw [if_neg (by rw [m.flags_and, hopt]; simp)]
    have he : m.e = false := by
      simp only [Framing.optional, Bool.or_eq_false_iff] at hopt
      exact hopt.1.1
    simp [optionalFields, hopt, m.chain_nil he, chainBytes, gtpuMinHdr]
  | true =>
    have hfields : m.optionalFields = be16 m.seq ++ [m.npdu] ++ [m.nextType] := by
      simp [optionalFields, hopt]
    have hnext : m.nextType = firstType m.chain := by
      rw [nextType]
      split_ifs with he
      · rfl
      · have he : m.e = false := by simpa using he
        rw [m.chain_nil he]
        rcases hplain with h | ⟨hs, hpn⟩ | h
        · rw [he] at h
          cases h
        · simp [Framing.optional, he, hs, hpn] at hopt
        · exact h
    have hbytes : m.bytes = (m.header ++ be16 m.seq ++ [m.npdu]) ++
        firstType m.chain :: (chainBytes m.chain ++ (m.payload ++ m.trailing)) := by
      simp [bytes, body, hfields, hnext]
    have hchain := length_le_chainBytes m.chain
    have hlen : 12 + (chainBytes m.chain).length ≤ m.bytes.length := by
      rw [hbytes]
      simp
      omega
    rw [if_pos (m.flags_and.2 hopt), if_neg (by rw [gtpuExtHdr]; omega), hfields]
    have hwalk := skipExtHdrs_chain (m.header ++ be16 m.seq ++ [m.npdu]) m.chain
      (m.payload ++ m.trailing) (m.bytes.length + 1) (by omega)
    rw [← hbytes] at hwalk
    exact hwalk

theorem decapsulate_bytes (hplain : m.Plain) :
    decapsulate m.bytes = .ok (if m.payload ++ m.trailing = [] then none
      else some (m.teid, m.payload ++ m.trailing)) := by
  have hlen := m.length_bytes
  have hbody : m.body.length =
      m.optionalFields.length + (chainBytes m.chain).length + m.payload.length := by
    simp [body]
    omega
  have hdrop : m.bytes.drop (8 + m.optionalFields.length + (chainBytes m.chain).length) =
      m.payload ++ m.trailing := by
    have h : m.bytes = (m.header ++ m.optionalFields ++ chainBytes m.chain) ++
        (m.payload ++ m.trailing) := by
      simp [bytes, body]
    rw [h, drop_left' (by simp [Nat.add_assoc])]
  have hempty : m.payload ++ m.trailing = [] ↔ m.payload.length + m.trailing.length = 0 := by
    rw [← length_append, length_eq_zero_iff]
  rw [decapsulate, if_neg (by rw [gtpuMinHdr]; omega), index_flags, ok_bind, index_msgType,
    ok_bind, uint32_teid, ok_bind, if_neg (by simp), headerLen_bytes hplain, ok_bind]
  dsimp only
  by_cases hnil : m.payload ++ m.trailing = []
  · rw [if_pos hnil, if_pos (by rw [hempty] at hnil; omega)]
    rfl
  · rw [if_neg hnil, if_neg (by rw [hempty] at hnil; omega), sliceFrom_of_le (by omega), hdrop]
    rfl

end TPdu

/-! ## What is delivered -/

theorem handlePacket_tpdu {pkt : Bytes} {r : Option (UInt32 × Bytes)}
    (h : decapsulate pkt = .ok r) (now : Int64) : ∃ u g', g.handlePacket pkt now = .ok (u, g') ∧
      u.tpdu = r.bind fun x => (g.sessions.getByULTEID x.1).map (·, x.2) := by
  rw [GtpuServer.handlePacket, h, ok_bind]
  match r with
  | none => exact ⟨_, _, rfl, rfl⟩
  | some (teid, inner) =>
    dsimp only [Option.bind_some]
    cases g.sessions.getByULTEID teid with
    | none => exact ⟨_, _, rfl, rfl⟩
    | some p =>
      dsimp only [GtpuServer.uplink]
      split
      · obtain ⟨action, haction⟩ := ends_iff.1
          (ends_handleInner (g.admitUL p inner.length now).2 p inner)
        rw [haction]
        exact ⟨_, _, rfl, rfl⟩
      · exact ⟨_, _, rfl, rfl⟩

def oneSession : GtpuServer := { sessions := { byULTEID := AList.insert 0 0 ∅ } }

def Framing.message (f : Framing) (payload : Bytes) (h : payload.length < 65532) : TPdu :=
  { f with
    teid := 0, seq := 0, npdu := 0, chain := [], payload := payload,
    chain_nil := fun _ => rfl, fits := by simp [ExtHeader.chainBytes]; omega }

namespace TPdu

variable {m : TPdu}

theorem delivered (hplain : m.Plain) (htrailing : m.trailing = []) : m.Delivered := by
  intro g now
  obtain ⟨u, g', hu, htpdu⟩ := handlePacket_tpdu g (decapsulate_bytes hplain) now
  refine ⟨u, g', hu, ?_⟩
  rw [htpdu, htrailing, append_nil, delivery]
  split <;> rfl

theorem Delivered.decapsulate (h : m.Delivered) (hteid : m.teid = 0) (hpayload : m.payload ≠ []) :
    decapsulate m.bytes = .ok (some (0, m.payload)) := by
  obtain ⟨r, hr⟩ := ends_iff.1 (ends_decapsulate m.bytes)
  obtain ⟨u, g', hu, htpdu⟩ := handlePacket_tpdu oneSession hr 0
  obtain ⟨v, g'', hv, hdelivery⟩ := h oneSession 0
  rw [hu] at hv
  obtain ⟨rfl, rfl⟩ := Prod.mk.inj (ok.inj hv)
  rw [htpdu, delivery, if_neg hpayload, hteid] at hdelivery
  rw [hr]
  match r with
  | none => cases hdelivery
  | some (teid, inner) =>
    -- the table has no other TEID
    have hzero : teid = 0 := by
      by_contra hne
      rw [Option.bind_some, oneSession, Server.getByULTEID, AList.lookup_insert_ne hne]
        at hdelivery
      cases hdelivery
    subst hzero
    obtain ⟨-, rfl⟩ := Prod.mk.inj (Option.some.inj hdelivery)
    rfl

end TPdu

theorem decapsulate_misread {f : Framing} (h : ¬ f.Plain) :
    decapsulate (f.message [0] (by decide)).bytes = .ok none := by
  set m := f.message [0] (by decide)
  simp only [Framing.Plain, not_or, not_and, Bool.not_eq_true] at h
  obtain ⟨he, hflags, hunused⟩ := h
  have hopt : f.optional = true := by
    cases hs : f.s with
    | false => simp [Framing.optional, hs, Bool.not_eq_false _ ▸ hflags hs]
    | true => simp [Framing.optional, hs]
  have hbytes : m.bytes = m.header ++ [0, 0, 0, f.unused] ++ 0 :: f.trailing := by
    have hfields : m.optionalFields = [0, 0, 0, f.unused] := by
      have hnext : m.nextType = f.unused := if_neg (by simp [m, Framing.message, he])
      have hseq : be16 m.seq = [0, 0] := show be16 0 = [0, 0] by decide
      have hnpdu : m.npdu = 0 := rfl
      refine (if_pos hopt).trans ?_
      rw [hnext, hseq, hnpdu]
      rfl
    rw [TPdu.bytes, TPdu.body, hfields]
    simp [m, Framing.message, ExtHeader.chainBytes]
  have hlen : 13 ≤ m.bytes.length := by
    rw [hbytes]
    simp
    omega
  have hnext : index m.bytes 11 = .ok f.unused := by
    rw [hbytes]
    rfl
  have hunits : index m.bytes 12 = .ok 0 := by
    rw [hbytes]
    rfl
  have hwalk : headerLen m.bytes m.flags = .ok none := by
    rw [headerLen, if_pos (m.flags_and.2 hopt), gtpuExtHdr, if_neg (by omega), skipExtHdrs,
      hnext, ok_bind, if_pos hunused, if_neg (by omega), hunits, ok_bind]
    rfl
  rw [decapsulate, gtpuMinHdr, if_neg (by omega), m.index_flags, ok_bind,
    m.index_msgType, ok_bind, m.uint32_teid, ok_bind, if_neg (by simp), hwalk]
  rfl

theorem delivered_framing_iff (f : Framing) :
    (∀ m : TPdu, m.toFraming = f → m.Delivered) ↔ f.trailing = [] ∧ f.Plain := by
  constructor
  · intro h
    have hone := (h (f.message [0] (by decide)) rfl).decapsulate rfl (by exact nofun)
    have hplain : f.Plain := by
      by_contra hmisread
      rw [decapsulate_misread hmisread] at hone
      cases hone
    refine ⟨?_, hplain⟩
    rw [TPdu.decapsulate_bytes hplain, if_neg (by simp [Framing.message])] at hone
    have happend := (Prod.mk.inj (Option.some.inj (ok.inj hone))).2
    exact append_right_eq_self.1 happend
  · rintro ⟨htrailing, hplain⟩ m rfl
    exact TPdu.delivered hplain htrailing

theorem decapsulate_dlFrame (teid : UInt32) (qfi : UInt8) {inner : Bytes} (h : inner ≠ []) :
    ∃ frame, dlFrame teid qfi inner = .ok frame ∧ decapsulate frame = .ok (some (teid, inner)) := by
  refine ⟨_, dlFrame_eq teid qfi inner, ?_⟩
  have hpos : 0 < inner.length := length_pos_iff.2 h
  have hlen : (dlHeader teid qfi inner.length ++ inner).length = 16 + inner.length := by
    simp [dlHeader]
    omega
  have hteid : uint32 (dlHeader teid qfi inner.length ++ inner) 4 = .ok teid :=
    uint32_append_be32 ([0x34, msgTypeTPDU] ++ be16 (UInt16.ofNat (8 + inner.length))) teid
      ([0x00, 0x00, 0x00, extHdrTypePDUSessionContainer, 0x01, pduSessionContainerDL,
        qfi &&& 0x3F, 0x00] ++ inner)
  -- the one extension header is the PDU Session Container
  have hwalk : headerLen (dlHeader teid qfi inner.length ++ inner) 0x34 = .ok (some 16) := by
    let x : ExtHeader := ⟨extHdrTypePDUSessionContainer, [pduSessionContainerDL, qfi &&& 0x3F],
      by decide, ⟨1, rfl⟩, by simp⟩
    let pre := [0x34, msgTypeTPDU] ++ be16 (UInt16.ofNat (8 + inner.length)) ++ be32 teid ++
      [0x00, 0x00, 0x00]
    have hchain : ExtHeader.chainBytes [x] = [0x01, pduSessionContainerDL, qfi &&& 0x3F, 0x00] := by
      simp [ExtHeader.chainBytes, ExtHeader.units, ExtHeader.firstType, x]
    have hframe : dlHeader teid qfi inner.length ++ inner =
        pre ++ ExtHeader.firstType [x] :: (ExtHeader.chainBytes [x] ++ inner) := by
      rw [hchain]
      simp [dlHeader, pre, ExtHeader.firstType, x]
    have hskip := skipExtHdrs_chain pre [x] inner
      ((dlHeader teid qfi inner.length ++ inner).length + 1) (by rw [hlen]; simp)
    rw [← hframe, hchain] at hskip
    exact hskip
  rw [decapsulate, gtpuMinHdr, if_neg (by omega),
    show index (dlHeader teid qfi inner.length ++ inner) 0 = .ok 0x34 from rfl, ok_bind,
    show index (dlHeader teid qfi inner.length ++ inner) 1 = .ok msgTypeTPDU from rfl,
    ok_bind, hteid, ok_bind, if_neg (by simp), hwalk, ok_bind]
  dsimp only
  rw [if_neg (by omega), sliceFrom_of_le (by omega)]
  rfl

/-- The server delivers the payload of every message of a framing, and nothing else, exactly
when the framing ends with the message and leaves the unused octet zero.  It comes to an end on
every datagram, and takes the frames that it sends itself apart again. -/
theorem decapsulation_exact_iff (f : Framing) (g : GtpuServer) (now : Int64) :
    ((∀ m : TPdu, m.toFraming = f → m.Delivered) ↔ f.trailing = [] ∧ f.Plain) ∧
    (∀ pkt : Bytes, (g.handlePacket pkt now).Ends) ∧
    ∀ (teid : UInt32) (qfi : UInt8) (inner : Bytes), inner ≠ [] →
      ∃ frame u g', dlFrame teid qfi inner = .ok frame ∧ g.handlePacket frame now = .ok (u, g') ∧
        u.tpdu = (g.sessions.getByULTEID teid).map (·, inner) := by
  refine ⟨delivered_framing_iff f, fun pkt => ends_handlePacket g pkt now,
    fun teid qfi inner h => ?_⟩
  obtain ⟨frame, hframe, hdecap⟩ := decapsulate_dlFrame teid qfi h
  obtain ⟨u, g', hu, htpdu⟩ := handlePacket_tpdu g hdecap now
  exact ⟨frame, u, g', hframe, hu, htpdu⟩

/-- A message with a sequence number and a nonzero octet where the type of an extension header
would be: its payload of an IPv4 header is taken for an extension header of more octets than
there are, and dropped.  A message with two octets behind it: they are delivered, too. -/
theorem decapsulation_not_exact : let f : Framing := ⟨false, false, true, false, 1, []⟩
    let f' : Framing := ⟨false, false, false, false, 0, [0xAA, 0xBB]⟩
    let m := f.message [0x45, 0, 0, 20] (by decide)
    let m' := f'.message [0x45, 0, 0, 20] (by decide)
    ¬ m.Delivered ∧ ¬ m'.Delivered ∧ decapsulate m.bytes = .ok none ∧
      decapsulate m'.bytes = .ok (some (0, [0x45, 0, 0, 20, 0xAA, 0xBB])) := by
  intro f f' m m'
  have hdrop : decapsulate m.bytes = .ok none := by decide +kernel
  have hmore : decapsulate m'.bytes = .ok (some (0, [0x45, 0, 0, 20, 0xAA, 0xBB])) := by
    decide +kernel
  refine ⟨fun h => ?_, fun h => ?_, hdrop, hmore⟩
  · have h := h.decapsulate rfl (by exact nofun)
    rw [hdrop] at h
    cases h
  · have h := h.decapsulate rfl (by exact nofun)
    exact absurd h (by decide)

end Claudia5gc.Upf
