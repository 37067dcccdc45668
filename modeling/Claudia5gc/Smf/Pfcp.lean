import Claudia5gc.Smf.Server

/-!
# The PFCP requests of the SMF

What the SMF sends to the UPF for a session: the Session Establishment Request, and the Update
FARs by which the downlink is switched to a gNB or dropped.  A request is given as the IEs that
the UPF gets to see.
-/

namespace Claudia5gc.Smf

open Go
open Upf (Grouped IE PdiIE UEIPAddress SessionEstablishmentRequest)

/-! ## Bit rates -/

def kbpsToMbps (kbps : UInt64) : Int :=
  if kbps = 0 then 0 else ((kbps + 999) / 1000).toNat

def kbpsOrMbps (kbps : UInt64) (mbps : Int) : UInt64 :=
  if mbps ≤ 0 then 0
  else if kbps > 0 ∧ kbpsToMbps kbps = mbps then kbps
  else UInt64.ofInt mbps * 1000

def sessionAMBRKbps (sess : Session) : UInt64 × UInt64 :=
  (kbpsOrMbps sess.qos.ambrULKbps sess.qos.ambrULMbps,
    kbpsOrMbps sess.qos.ambrDLKbps sess.qos.ambrDLMbps)

/-- The MBR IE has five octets for each direction. -/
def mbrField (kbps : UInt64) : UInt64 := kbps % 0x10000000000

/-! ## Establishment -/

def defaultIID : Bytes := [0, 0, 0, 0, 0, 0, 0, 1]

def ueIPv6Address (net : Option Bytes) : Except Error Bytes :=
  match net with
  | none => .error (.new "smf: no IPv6 prefix delegated")
  | some net => .ok (net.take 8 ++ defaultIID)

def buildUEIPAddressIE (sess : Session) : Except Error UEIPAddress :=
  if ¬ pduTypeNeedsIPv6 sess.pduSessionType then .ok { ipv4 := sess.ueIP }
  else do
    let ueIPv6 ← ueIPv6Address sess.ueIPv6Prefix
    if pduTypeNeedsIPv4 sess.pduSessionType then
      return { ipv4 := sess.ueIP, ipv6 := some ueIPv6 }
    else return { ipv6 := some ueIPv6 }

def sessionAMBRQERID : UInt32 := 1
def defaultFlowQERID : UInt32 := 2
def defaultQFI : UInt8 := 1

def buildSessionAMBRCreateQER (ulKbps dlKbps : UInt64) : Grouped :=
  some ([.qerID (some sessionAMBRQERID), .gateStatus (some 0) (some 0)] ++
    if ulKbps > 0 ∧ dlKbps > 0 then [.mbr (some (mbrField ulKbps)) (some (mbrField dlKbps))]
    else [])

def buildDefaultFlowCreateQER : Grouped :=
  some [.qerID (some defaultFlowQERID), .gateStatus (some 0) (some 0), .qfi (some defaultQFI)]

/-- The request of `sendPFCPSessionEstablishment`. -/
def sessionEstablishmentRequest (sess : Session) : Except Error SessionEstablishmentRequest := do
  let ueIP ← buildUEIPAddressIE sess
  let (ambrUL, ambrDL) := sessionAMBRKbps sess
  return {
    cpFSEID := some sess.seid
    createPDR := [some [.pdrID (some 1), .precedence (some 100), .pdi (some [.sourceInterface (some
      Upf.srcInterfaceAccess), .fteid (some sess.ulTEID), .ueIPAddress (some ueIP), .other]),
      .other, .other, .qerID (some sessionAMBRQERID), .qerID (some defaultFlowQERID), .other]]
    createQER := [buildSessionAMBRCreateQER ambrUL ambrDL, buildDefaultFlowCreateQER] }

/-! ## Update FARs -/

/-- Forward the downlink in the tunnel to a gNB. -/
def buildDLSwitchFAR (dlTEID : UInt32) (gnbIP : Bytes) : Grouped :=
  some [.other, .applyAction (some 0x02), .updateForwardingParameters (some ⟨dlTEID, some gnbIP⟩)]

/-- Drop the downlink. -/
def buildDLDropFAR : Grouped := some [.other, .applyAction (some 0x01)]

/-! ## The senders -/

def Task.request (s : Server) (now : Int64) : Task → Option Upf.Request
  | .sendPFCPSessionEstablishment p =>
    match sessionEstablishmentRequest (s.heap.get p) with
    | .ok req => some (.establishment req now)
    | .error _ => none
  | .sendPFCPSessionModification p dlTEID gnbIP =>
    if (s.heap.get p).state = .releasing then none
    else some (.modification ⟨(s.heap.get p).seid,
      [.updateFAR (buildDLSwitchFAR dlTEID gnbIP)]⟩ now)
  | .sendPFCPSessionDeactivation p =>
    if (s.heap.get p).state = .releasing then none
    else some (.modification ⟨(s.heap.get p).seid, [.updateFAR buildDLDropFAR]⟩ now)
  | .sendPFCPSessionDeletion p => some (.deletion (s.heap.get p).seid)
  | .runTargetFailedAction _ _ => none

end Claudia5gc.Smf
