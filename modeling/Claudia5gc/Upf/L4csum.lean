import Claudia5gc.Go.BigEndian

/-!
# Repairing the checksum of a packet

On the downlink the UPF verifies the TCP or UDP checksum of a packet and writes the right one
when it is wrong.  The sum is taken over eight octets at a time, in a wide accumulator that is
folded to sixteen bits at the end.
-/

namespace Claudia5gc.Upf.L4csum

open Go

/-- The label of the protocol in a result. -/
inductive Proto where
  | tcp | udp
  deriving DecidableEq

/-- The label of the IP version in a result. -/
inductive IP where
  | v4 | v6
  deriving DecidableEq

structure Result where
  proto : Proto
  ip : IP
  old : UInt16
  new : UInt16
  deriving DecidableEq

def ipProtoTCP : UInt8 := 6
def ipProtoUDP : UInt8 := 17

def ipv4MinHdr : Nat := 20
def ipv4OffTotalLen : Nat := 2
def ipv4OffFrag : Nat := 6
def ipv4OffProto : Nat := 9
def ipv4OffSrc : Nat := 12
def ipv4AddrLen : Nat := 4
def ipv4FragMask : UInt16 := 0x3fff

def ipv6Hdr : Nat := 40
def ipv6OffPayload : Nat := 4
def ipv6OffNext : Nat := 6
def ipv6OffSrc : Nat := 8
def ipv6AddrLen : Nat := 16

def tcpMinHdr : Nat := 20
def tcpOffChecksum : Nat := 16
def udpHdr : Nat := 8
def udpOffLength : Nat := 4
def udpOffChecksum : Nat := 6

def csumValid : UInt16 := 0xFFFF

/-! ## Sums -/

def sum8 : Nat → Bytes → UInt64 → Outcome (Bytes × UInt64)
  | 0, _, _ => .hang
  | fuel + 1, b, acc =>
    if b.length ≥ 8 then do
      let v ← uint64 b 0
      let rest ← sliceFrom b 8
      sum8 fuel rest (acc + (v >>> 32 + (v &&& 0xFFFFFFFF)))
    else .ok (b, acc)

def sum2 : Nat → Bytes → UInt64 → Outcome (Bytes × UInt64)
  | 0, _, _ => .hang
  | fuel + 1, b, acc =>
    if b.length ≥ 2 then do
      let v ← uint16 b 0
      let rest ← sliceFrom b 2
      sum2 fuel rest (acc + v.toUInt64)
    else .ok (b, acc)

def sum (b : Bytes) (acc : UInt64) : Outcome UInt64 := do
  let (b, acc) ← sum8 (b.length + 1) b acc
  let (b, acc) ← sum2 (b.length + 1) b acc
  if b.length = 1 then do
    let v ← index b 0
    return acc + v.toUInt64 <<< 8
  else return acc

def foldLoop : Nat → UInt64 → Outcome UInt64
  | 0, _ => .hang
  | fuel + 1, acc =>
    if acc >>> 16 ≠ 0 then foldLoop fuel ((acc &&& (0xFFFF : UInt64)) + (acc >>> 16)) else .ok acc

def fold (acc : UInt64) : Outcome UInt16 := do
  let acc ← foldLoop (acc.toNat + 1) acc
  return acc.toUInt16

/-! ## Repair -/

/-- Where the checksum of the segment is, unless it is not one to be repaired. -/
def l4Header (seg : Bytes) (proto : UInt8) : Outcome (Option (Nat × Proto)) :=
  if proto = ipProtoTCP then
    if seg.length < tcpMinHdr then .ok none else .ok (some (tcpOffChecksum, .tcp))
  else if proto = ipProtoUDP then
    if seg.length < udpHdr then .ok none
    else do
      let len ← uint16 seg udpOffLength
      if len.toNat ≠ seg.length then return none else return some (udpOffChecksum, .udp)
  else .ok none

/-- `finish`, with the segment it leaves.  `acc` has the sum of the pseudo-header. -/
def finish (seg : Bytes) (proto : UInt8) (ip : IP) (acc : UInt64) (v6 : Bool) :
    Outcome (Option Result × Bytes) := do
  match ← l4Header seg proto with
  | none => return (none, seg)
  | some (off, name) =>
    let stored ← uint16 seg off
    if proto = ipProtoUDP ∧ stored = 0 ∧ v6 = false then return (none, seg)
    else do
      let acc ← sum (← slice seg 0 off) acc
      let acc ← sum (← sliceFrom seg (off + 2)) acc
      let folded ← fold acc
      let computed := ~~~folded
      let check ← fold (acc + stored.toUInt64)
      if ¬ (proto = ipProtoUDP ∧ v6 = true ∧ stored = 0) ∧ check = csumValid then
        return (none, seg)
      else do
        let computed := if proto = ipProtoUDP ∧ computed = 0 then 0xFFFF else computed
        let seg ← putUint16 seg off computed
        return (some ⟨name, ip, stored, computed⟩, seg)

/-- The packet when `seg` is written over the octets from `lo` to `hi`: the segment shares
them with the packet. -/
def splice (pkt : Bytes) (lo hi : Nat) (seg : Bytes) : Bytes :=
  pkt.take lo ++ seg ++ pkt.drop hi

def repairV4 (pkt : Bytes) : Outcome (Option Result × Bytes) :=
  if pkt.length < ipv4MinHdr then .ok (none, pkt)
  else do
    let first ← index pkt 0
    let hl := (first &&& 0x0F).toNat * 4
    let total ← uint16 pkt ipv4OffTotalLen
    if hl < ipv4MinHdr ∨ total.toNat > pkt.length ∨ hl > total.toNat then return (none, pkt)
    else do
      let frag ← uint16 pkt ipv4OffFrag
      if frag &&& ipv4FragMask ≠ 0 then return (none, pkt)
      else do
        let proto ← index pkt ipv4OffProto
        let seg ← slice pkt hl total.toNat
        let acc ← sum (← slice pkt ipv4OffSrc (ipv4OffSrc + 2 * ipv4AddrLen)) 0
        let acc := acc + (proto.toUInt64 + UInt64.ofNat seg.length)
        let (res, seg) ← finish seg proto .v4 acc false
        return (res, splice pkt hl total.toNat seg)

def repairV6 (pkt : Bytes) : Outcome (Option Result × Bytes) :=
  if pkt.length < ipv6Hdr then .ok (none, pkt)
  else do
    let plen ← uint16 pkt ipv6OffPayload
    if ipv6Hdr + plen.toNat > pkt.length then return (none, pkt)
    else do
      let proto ← index pkt ipv6OffNext
      let seg ← slice pkt ipv6Hdr (ipv6Hdr + plen.toNat)
      let acc ← sum (← slice pkt ipv6OffSrc (ipv6OffSrc + 2 * ipv6AddrLen)) 0
      let acc := acc + (proto.toUInt64 + UInt64.ofNat seg.length)
      let (res, seg) ← finish seg proto .v6 acc true
      return (res, splice pkt ipv6Hdr (ipv6Hdr + plen.toNat) seg)

def repair (pkt : Bytes) : Outcome (Option Result × Bytes) :=
  if pkt.length < 1 then .ok (none, pkt)
  else do
    let first ← index pkt 0
    if first >>> 4 = 4 then repairV4 pkt
    else if first >>> 4 = 6 then repairV6 pkt
    else return (none, pkt)

end Claudia5gc.Upf.L4csum
