import Claudia5gc.Upf.Server
import Claudia5gc.Go.BigEndian

/-!
# The GTP-U server of the UPF

The uplink: a datagram from the N3 interface is stripped of its GTP-U header, matched to a session
by its TEID, policed, and then answered by the UPF itself or written to the TUN of a DNN.  Of the
downlink there is the encapsulation.
-/

namespace Claudia5gc.Upf

open Go

/-! ## Addresses -/

def to4 (ip : Bytes) : Option Bytes :=
  if ip.length = 4 then some ip
  else if ip.length = 16 ∧ ip.take 12 = v4InV6Prefix then some (ip.drop 12)
  else none

def ipEqual (ip x : Bytes) : Bool :=
  if ip.length = x.length then ip = x
  else if ip.length = 4 ∧ x.length = 16 then x.take 12 = v4InV6Prefix ∧ ip = x.drop 12
  else if ip.length = 16 ∧ x.length = 4 then ip.take 12 = v4InV6Prefix ∧ ip.drop 12 = x
  else false

structure IPNet where
  ip : Bytes
  mask : Bytes
  deriving DecidableEq

def IPNet.networkNumberAndMask (n : IPNet) : Option (Bytes × Bytes) :=
  match (match to4 n.ip with
    | some ip => some ip
    | none => if n.ip.length = 16 then some n.ip else none) with
  | none => none
  | some ip =>
    if n.mask.length = ip.length then some (ip, n.mask)
    else if n.mask.length = 16 ∧ ip.length = 4 then some (ip, n.mask.drop 12)
    else none

def IPNet.contains (n : IPNet) (ip : Bytes) : Bool :=
  match n.networkNumberAndMask with
  | none => false
  | some (nn, m) =>
    let ip := (to4 ip).getD ip
    ip.length = nn.length ∧ List.zipWith (· &&& ·) nn m = List.zipWith (· &&& ·) ip m

structure TunRoute where
  dnn : String
  subnet : IPNet
  subnet6 : Option IPNet := none
  deriving DecidableEq

/-! ## The server -/

structure GtpuServer where
  n3IP : Bytes := []
  tuns : List TunRoute := []
  /-- The PFCP server is wired, to answer Router Solicitations. -/
  pfcpSrv : Bool := false
  /-- The PFCP server with the session table that the two share. -/
  sessions : Server := {}

/-- What the server does on behalf of one packet. -/
inductive Action where
  /-- A write to the TUN of a DNN. -/
  | tunWrite (rt : TunRoute) (pkt : Bytes)
  /-- A datagram to the gNB of a session. -/
  | sendFrame (sess : Ptr) (frame : Bytes)
  | triggerSolicitedRA (sess : Ptr) (srcLL : Bytes)
  deriving DecidableEq

/-- What became of an uplink datagram: the T-PDU that a session was handed, and what the server
did about it. -/
structure Uplink where
  tpdu : Option (Ptr × Bytes) := none
  action : Option Action := none
  deriving DecidableEq

def gtpuMinHdr : Nat := 8
def gtpuExtHdr : Nat := 12
def msgTypeTPDU : UInt8 := 0xFF
def extHdrTypePDUSessionContainer : UInt8 := 0x85
def pduSessionContainerDL : UInt8 := 0x00
def dlHeadroom : Nat := gtpuMinHdr + 8

/-! ## Encapsulation -/

def putDLHeader (h : Bytes) (dlTEID : UInt32) (qfi : UInt8) (innerLen : Nat) : Outcome Bytes := do
  let h ← put h 0 [0x34]
  let h ← put h 1 [msgTypeTPDU]
  let h ← putUint16 h 2 (UInt16.ofNat (8 + innerLen))
  let h ← putUint32 h 4 dlTEID
  let h ← put h 8 [0x00, 0x00, 0x00]
  let h ← put h 11 [extHdrTypePDUSessionContainer]
  let h ← put h 12 [0x01]
  let h ← put h 13 [pduSessionContainerDL]
  let h ← put h 14 [qfi &&& 0x3F]
  put h 15 [0x00]

/-- The frame that `sendGTPU` sends. -/
def dlFrame (dlTEID : UInt32) (qfi : UInt8) (innerIP : Bytes) : Outcome Bytes := do
  let frame ← put (List.replicate (dlHeadroom + innerIP.length) 0) dlHeadroom innerIP
  putDLHeader frame dlTEID qfi innerIP.length

namespace GtpuServer

/-- `sendFrame`: nothing is sent when the address of the gNB is none. -/
def sendFrame (g : GtpuServer) (p : Ptr) (frame : Bytes) : Option Action :=
  let gnb := (g.sessions.heap.get p).gnbIP
  if gnb.length = 4 ∨ gnb.length = 16 then some (.sendFrame p frame) else none

def sendGTPU (g : GtpuServer) (p : Ptr) (innerIP : Bytes) : Outcome (Option Action) := do
  let sess := g.sessions.heap.get p
  let frame ← dlFrame sess.dlTEID sess.dlQFI innerIP
  return g.sendFrame p frame

end GtpuServer

/-! ## Answers to echo requests -/

/-- The loop of `ipChecksum` and of `sum16`. -/
def sum16 (sum : UInt32) : Bytes → UInt32
  | [] => sum
  | [last] => sum + last.toUInt32 <<< 8
  | hi :: lo :: rest => sum16 (sum + (hi.toUInt32 <<< 8 ||| lo.toUInt32)) rest

/-- The loop of `ipChecksum` and of `foldChecksum` that adds the carries. -/
def foldSum : Nat → UInt32 → Outcome UInt32
  | 0, _ => .hang
  | fuel + 1, sum =>
    if sum >>> 16 ≠ 0 then foldSum fuel ((sum &&& (0xFFFF : UInt32)) + (sum >>> 16)) else .ok sum

def ipChecksum (data : Bytes) : Outcome Bytes := do
  let sum := sum16 0 data
  let sum ← foldSum (sum.toNat + 1) sum
  return be16 (~~~sum).toUInt16

namespace RA

def ipv6HeaderLen : Nat := 40
def nextHeaderICMPv6 : UInt8 := 58
def typeRouterSolicitation : UInt8 := 133
def defaultCurHopLimit : UInt8 := 64

def linkLocalRouterAddr : Bytes := [0xfe, 0x80, 0, 0, 0, 0, 0, 0, 0, 0, 0, 0, 0, 0, 0, 1]

def parseRouterSolicitation (pkt : Bytes) : Outcome (Option Bytes) :=
  if pkt.length < ipv6HeaderLen then .ok none
  else do
    if (← index pkt 0) >>> 4 ≠ 6 then return none
    else if (← index pkt 6) ≠ nextHeaderICMPv6 then return none
    else do
      let icmp ← sliceFrom pkt ipv6HeaderLen
      if icmp.length < 8 then return none
      else if (← index icmp 0) ≠ typeRouterSolicitation then return none
      else return some (← slice pkt 8 24)

/-- The sixteen octets that `copy(dst, ip.To16())` leaves in fresh memory. -/
def copyTo16 (ip : Bytes) : Bytes := (to16 ip).getD (List.replicate 16 0)

def buildIPv6Packet (src dst : Bytes) (nextHeader hopLimit : UInt8) (payload : Bytes) : Bytes :=
  [0x60, 0, 0, 0] ++ be16 (UInt16.ofNat payload.length) ++ [nextHeader, hopLimit] ++
    copyTo16 src ++ copyTo16 dst ++ payload

def sum16WithChecksumZeroed (msg : Bytes) : Outcome UInt32 :=
  if msg.length < 4 then .ok (sum16 0 msg)
  else do return sum16 0 (← put msg 2 [0, 0])

def foldChecksum (sum : UInt32) : Outcome UInt16 := do
  let sum ← foldSum (sum.toNat + 1) sum
  return ~~~sum.toUInt16

def icmpv6Checksum (src dst msg : Bytes) : Outcome UInt16 := do
  let pseudo := copyTo16 src ++ copyTo16 dst ++ be32 (UInt32.ofNat msg.length) ++
    [0, 0, 0, nextHeaderICMPv6]
  foldChecksum (sum16 0 pseudo + (← sum16WithChecksumZeroed msg))

end RA

def icmpv6TypeEchoRequest : UInt8 := 128
def icmpv6TypeEchoReply : UInt8 := 129

def buildICMPv6EchoReply (reqSrc reqDst icmpReq : Bytes) : Outcome Bytes := do
  let reply ← put icmpReq 0 [icmpv6TypeEchoReply]
  let reply ← put reply 1 [0]
  let reply ← putUint16 reply 2 (← RA.icmpv6Checksum reqDst reqSrc reply)
  return RA.buildIPv6Packet reqDst reqSrc RA.nextHeaderICMPv6 RA.defaultCurHopLimit reply

def buildICMPReply (ipPkt : Bytes) (ihl : Nat) (icmpReq : Bytes) : Outcome Bytes := do
  let reply := List.replicate (ihl + icmpReq.length) 0
  let reply ← put reply 0 (← slice ipPkt 0 ihl)
  let reply ← put reply 12 (← slice ipPkt 16 20)
  let reply ← put reply 16 (← slice ipPkt 12 16)
  let reply ← put reply 10 [0, 0]
  let cs ← ipChecksum (← slice reply 0 ihl)
  let reply ← put reply 10 cs
  let reply ← put reply ihl icmpReq
  let reply ← put reply ihl [0]
  let reply ← put reply (ihl + 1) [0]
  let reply ← put reply (ihl + 2) [0, 0]
  let cs ← ipChecksum (← sliceFrom reply ihl)
  put reply (ihl + 2) cs

/-! ## The inner packet -/

namespace GtpuServer

variable (g : GtpuServer)

def tunRouteForIP (ip : Bytes) : Option TunRoute :=
  g.tuns.find? (·.subnet.contains ip)

def tunRouteForIPv6 (ip : Bytes) : Option TunRoute :=
  g.tuns.find? fun rt => rt.subnet6.any (·.contains ip)

/-- The downlink tunnel of the session is known. -/
def dlReady (p : Ptr) : Bool :=
  let sess := g.sessions.heap.get p
  !(sess.dlTEID == 0 || sess.gnbIP == [])

def handleICMPToSelf (p : Ptr) (inner : Bytes) : Outcome (Option Action) := do
  if (← index inner 9) ≠ 1 then return none
  else do
    let ihl := ((← index inner 0) &&& 0x0F).toNat * 4
    if inner.length < ihl + 8 then return none
    else do
      let icmp ← sliceFrom inner ihl
      if (← index icmp 0) ≠ 8 then return none
      else if ¬ g.dlReady p then return none
      else do
        let reply ← buildICMPReply inner ihl icmp
        g.sendGTPU p reply

def forward (rt : Option TunRoute) (inner : Bytes) : Option Action :=
  rt.map (.tunWrite · inner)

def processInnerIP (p : Ptr) (inner : Bytes) : Outcome (Option Action) :=
  if inner.length < 20 then .ok none
  else do
    if (← index inner 0) >>> 4 ≠ 4 then return none
    else do
      let dstIP ← slice inner 16 20
      if ipEqual dstIP g.n3IP then g.handleICMPToSelf p inner
      else do
        let srcIP ← slice inner 12 16
        return forward (g.tunRouteForIP srcIP) inner

def echoToRouter (inner dstIP : Bytes) : Outcome Bool := do
  if (← index inner 6) = RA.nextHeaderICMPv6 ∧ inner.length ≥ 48 then do
    let icmp ← sliceFrom inner 40
    return (← index icmp 0) = icmpv6TypeEchoRequest ∧ ipEqual dstIP RA.linkLocalRouterAddr
  else return false

def handleInnerIPv6 (p : Ptr) (inner : Bytes) : Outcome (Option Action) := do
  match ← RA.parseRouterSolicitation inner with
  | some srcLL => return if g.pfcpSrv then some (.triggerSolicitedRA p srcLL) else none
  | none =>
    if inner.length < 40 then return none
    else do
      let srcIP ← slice inner 8 24
      let dstIP ← slice inner 24 40
      if ← echoToRouter inner dstIP then
        if ¬ g.dlReady p then return none
        else do
          let icmp ← sliceFrom inner 40
          let reply ← buildICMPv6EchoReply srcIP dstIP icmp
          g.sendGTPU p reply
      else return forward (g.tunRouteForIPv6 srcIP) inner

end GtpuServer

/-! ## Decapsulation -/

/-- The loop over the extension headers: where the T-PDU begins, unless the datagram is dropped. -/
def skipExtHdrs (pkt : Bytes) : Nat → Nat → Outcome (Option Nat)
  | 0, _ => .hang
  | fuel + 1, hdrLen => do
    if (← index pkt (hdrLen - 1)) ≠ 0 then
      if pkt.length ≤ hdrLen then return none
      else do
        let extLen := (← index pkt hdrLen).toNat * 4
        if extLen < 4 ∨ hdrLen + extLen > pkt.length then return none
        else skipExtHdrs pkt fuel (hdrLen + extLen)
    else return some hdrLen

/-- The length of the header, unless the datagram is dropped. -/
def headerLen (pkt : Bytes) (flags : UInt8) : Outcome (Option Nat) :=
  if flags &&& 0x07 ≠ 0 then
    if pkt.length < gtpuExtHdr then .ok none
    else skipExtHdrs pkt (pkt.length + 1) gtpuExtHdr
  else .ok (some gtpuMinHdr)

/-- The first half of `handlePacket`: the TEID and the T-PDU. -/
def decapsulate (pkt : Bytes) : Outcome (Option (UInt32 × Bytes)) :=
  if pkt.length < gtpuMinHdr then .ok none
  else do
    let flags ← index pkt 0
    let msgType ← index pkt 1
    let teid ← uint32 pkt 4
    if msgType ≠ msgTypeTPDU then return none
    else
      match ← headerLen pkt flags with
      | none => return none
      | some hdrLen =>
        if pkt.length ≤ hdrLen then return none
        else do
          let inner ← sliceFrom pkt hdrLen
          return some (teid, inner)

namespace GtpuServer

def isIPv6 (inner : Bytes) : Outcome Bool := do
  if inner.length > 0 then return (← index inner 0) >>> 4 = 6 else return false

variable (g : GtpuServer)

def handleInner (p : Ptr) (inner : Bytes) : Outcome (Option Action) := do
  if ← isIPv6 inner then g.handleInnerIPv6 p inner else g.processInnerIP p inner

def admitUL (p : Ptr) (n : Nat) (now : Int64) : Bool × GtpuServer :=
  let r := (g.sessions.heap.get p).admitUL (Int64.ofNat n) now g.sessions.buckets
  (r.1.1, { g with sessions := { g.sessions with buckets := r.2 } })

/-- A T-PDU of a session, after the headers: policing, and then the inner packet. -/
def uplink (p : Ptr) (inner : Bytes) (now : Int64) : Outcome (Uplink × GtpuServer) :=
  let r := g.admitUL p inner.length now
  if r.1 then do
    let action ← r.2.handleInner p inner
    return ({ tpdu := some (p, inner), action := action }, r.2)
  else .ok ({ tpdu := some (p, inner) }, r.2)

def handlePacket (pkt : Bytes) (now : Int64) : Outcome (Uplink × GtpuServer) := do
  match ← decapsulate pkt with
  | none => return ({}, g)
  | some (teid, inner) =>
    match g.sessions.getByULTEID teid with
    | none => return ({}, g)
    | some p => g.uplink p inner now

end GtpuServer

end Claudia5gc.Upf
