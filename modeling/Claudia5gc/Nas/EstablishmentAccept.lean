import Claudia5gc.Nas.PduSession
import Claudia5gc.Nas.Alignment
import Claudia5gc.Nas.Apn
import Claudia5gc.Upf.Gtpu

/-!
# The PDU Session Establishment Accept

The 5GSM encoder of the SMF, and what a UE finds in its octets when it goes from element to element.
The elements are the ones that were written exactly when the three values without a bound of their
own fit their length octets: the DNN, the EAP message and the configuration options.
-/

namespace Claudia5gc.Nas

open Go List EPCOContainer Layout Proc Option Nat UInt8

variable (p : EstablishmentAcceptParams) (cfg : EPCOReplyConfig) {c : EPCOContainer}
  {es : List Element} {n fuel : Nat} {req : PDUSessionEstablishmentRequest} {v b : Bytes}
  {dns : List Bytes}
open Upf (to4 to16)

/-! ## QoS rules and flow descriptions -/

def qosRuleOpCreateNew : UInt8 := 0x01

/-- `buildQoSRule`: a default rule with one packet filter that matches everything. -/
def buildQoSRule (op qfi : UInt8) : Bytes :=
  let dirBidirectional : UInt8 := 0x03
  let filterMatchAll : UInt8 := 0x01
  let rule : Bytes := [(op <<< 5) ||| ((1 : UInt8) <<< 4) ||| 0x01,
    (dirBidirectional <<< 4) ||| 0x01, 0x01, filterMatchAll, 0xFF, qfi &&& 0x3F]
  [0x01] ++ be16 rule.length ++ rule

def buildDefaultQoSRules (qfi : UInt8) : Bytes := buildQoSRule qosRuleOpCreateNew qfi

def is5QIGBR (fiveQI : UInt8) : Bool :=
  (1 ≤ fiveQI ∧ fiveQI ≤ 4) ∨ (65 ≤ fiveQI ∧ fiveQI ≤ 67) ∨ (71 ≤ fiveQI ∧ fiveQI ≤ 76) ∨
    (82 ≤ fiveQI ∧ fiveQI ≤ 85)

def qosFlowParam5QI : UInt8 := 0x01
def qosFlowParamGFBRUL : UInt8 := 0x02
def qosFlowParamGFBRDL : UInt8 := 0x03
def qosFlowParamMFBRUL : UInt8 := 0x04
def qosFlowParamMFBRDL : UInt8 := 0x05

def qosFlowOpCreateNew : UInt8 := 0x01

structure QoSFlowParam where
  id : UInt8
  content : Bytes
  deriving DecidableEq

/-- A bit rate in the unit of 1 Mbps: the unit and a value of two octets. -/
def mbpsOctets (mbps : Int) : Bytes := [0x06, ofInt (mbps >>> (8 : Nat)), ofInt mbps]

def qosFlowParams (fiveQI : UInt8) (ulMbps dlMbps : Int) : List QoSFlowParam :=
  ⟨qosFlowParam5QI, [fiveQI]⟩ ::
    if is5QIGBR fiveQI then
      [⟨qosFlowParamGFBRUL, mbpsOctets ulMbps⟩, ⟨qosFlowParamGFBRDL, mbpsOctets dlMbps⟩,
        ⟨qosFlowParamMFBRUL, mbpsOctets ulMbps⟩, ⟨qosFlowParamMFBRDL, mbpsOctets dlMbps⟩]
    else []

def QoSFlowParam.octets (p : QoSFlowParam) : Bytes :=
  [p.id, ofNat p.content.length] ++ p.content

def buildQoSFlowDescription (op qfi fiveQI : UInt8) (ulMbps dlMbps : Int) : Bytes :=
  let params := qosFlowParams fiveQI ulMbps dlMbps
  [qfi &&& 0x3F, op <<< 5, ((1 : UInt8) <<< 6) ||| ofNat params.length] ++
    params.flatMap QoSFlowParam.octets

def buildQoSFlowDescriptions (qfi fiveQI : UInt8) (ulMbps dlMbps : Int) : Bytes :=
  buildQoSFlowDescription qosFlowOpCreateNew qfi fiveQI ulMbps dlMbps

def buildSessionAMBR (dlMbps ulMbps : Int) : Bytes := mbpsOctets dlMbps ++ mbpsOctets ulMbps

/-! ## Configuration options

A nil slice is the empty one: the functions that return nil for "nothing to write" return at
least one octet otherwise.
-/

def containerIDDNSServerIPv4Address : UInt16 := 0x000D
def containerIDDNSServerIPv6Address : UInt16 := 0x0003
def containerIDIPv4LinkMTU : UInt16 := 0x0010
def containerIDMSSupportLocalAddrTFT : UInt16 := 0x0011

def ipcpCodeConfigureAck : UInt8 := 2

/-- `appendContainer`, without what it is appended to. -/
def EPCOContainer.octets (c : EPCOContainer) : Bytes :=
  [(c.id >>> 8).toUInt8, c.id.toUInt8, ofNat c.value.length] ++ c.value

def ipcpDNSOption (wants : Bool) (option : UInt8) (server : Bytes) : Bytes :=
  if wants then
    match to4 server with
    | some v4 => [option, 6] ++ v4
    | none => []
  else []

def ipcpConfigAck (req : IPCPConfigureRequest) (primary secondary : Bytes) : Option Bytes :=
  let opts := ipcpDNSOption req.wantsPrimaryDNS ipcpOptPrimaryDNS primary ++
    ipcpDNSOption req.wantsSecondaryDNS ipcpOptSecondaryDNS secondary
  if opts.length = 0 then none
  else some ([ipcpCodeConfigureAck, req.identifier] ++ be16 (4 + opts.length) ++ opts)

def ipcpAnswer (req : Option IPCPConfigureRequest) (primary secondary : Bytes) :
    List EPCOContainer :=
  match req.bind fun req => ipcpConfigAck req primary secondary with
  | some ipcp => [⟨containerIDIPCP, ipcp⟩]
  | none => []

def encodeIPCPConfigAckContainer (req : Option IPCPConfigureRequest)
    (primary secondary : Bytes) : Bytes :=
  (ipcpAnswer req primary secondary).flatMap octets

def mtuContainers (mtu : UInt16) : List EPCOContainer :=
  if mtu ≠ 0 then [⟨containerIDIPv4LinkMTU, be16 mtu.toNat⟩] else []

def dnsv4Containers (dns : List Bytes) : List EPCOContainer :=
  (dns.filterMap to4).map (⟨containerIDDNSServerIPv4Address, ·⟩)

/-- The IPv6 resolvers; an IPv4 address in IPv6 form is passed over. -/
def dnsv6Containers (dns : List Bytes) : List EPCOContainer :=
  (dns.filterMap fun ip => if (to4 ip).isSome then none else to16 ip).map
    (⟨containerIDDNSServerIPv6Address, ·⟩)

structure EPCOReplyConfig where
  configProtocolOctet : UInt8 := 0
  requestedIDs : List UInt16 := []
  ipcp : Option IPCPConfigureRequest := none
  dnsv4 : List Bytes
  dnsv6 : List Bytes
  mtu : UInt16
  deriving DecidableEq

namespace EPCOReplyConfig

def primary (cfg : EPCOReplyConfig) : Bytes := cfg.dnsv4.getD 0 []

def secondary (cfg : EPCOReplyConfig) : Bytes := cfg.dnsv4.getD 1 []

/-- The containers with which one requested container is answered: the branches of
`BuildEPCOReply`. -/
def answer (cfg : EPCOReplyConfig) (id : UInt16) : List EPCOContainer :=
  if id = containerIDIPCP then ipcpAnswer cfg.ipcp cfg.primary cfg.secondary
  else if id = containerIDDNSServerIPv4Address then dnsv4Containers cfg.dnsv4
  else if id = containerIDDNSServerIPv6Address then dnsv6Containers cfg.dnsv6
  else if id = containerIDIPv4LinkMTU then mtuContainers cfg.mtu
  else if id = containerIDMSSupportLocalAddrTFT then [⟨id, []⟩]
  else []

end EPCOReplyConfig

def encodePCODNSAndMTU (mtu : UInt16) (dns : List Bytes) : Bytes :=
  let containers := (mtuContainers mtu ++ dnsv4Containers dns).flatMap octets
  if containers.length = 0 then [] else 0x80 :: containers

def encodePCODNSMTUAndIPCP (mtu : UInt16) (extra : Bytes) (dns : List Bytes) : Bytes :=
  let base := encodePCODNSAndMTU mtu dns
  if extra.length = 0 then base
  else (if base = [] then [0x80] else base) ++ extra

def buildEPCOReply (cfg : EPCOReplyConfig) : Bytes :=
  if cfg.requestedIDs.length = 0 then
    encodePCODNSMTUAndIPCP cfg.mtu
      (encodeIPCPConfigAckContainer cfg.ipcp cfg.primary cfg.secondary) cfg.dnsv4
  else
    let containers := (cfg.requestedIDs.flatMap cfg.answer).flatMap octets
    if containers.length = 0 then []
    else (if cfg.configProtocolOctet = 0 then 0x80 else cfg.configProtocolOctet) :: containers

/-! ## The body -/

def pduSessionTypeIPv4 : UInt8 := 0x01
def pduSessionTypeIPv6 : UInt8 := 0x02
def pduSessionTypeIPv4v6 : UInt8 := 0x03

def cause5GSMPDUSessionTypeIPv4OnlyAllowed : UInt8 := 0x32
def cause5GSMPDUSessionTypeIPv6OnlyAllowed : UInt8 := 0x33

structure PDUAddressInfo where
  sessionType : UInt8
  ipv4 : Option Bytes := none
  ipv6IID : Bytes := []
  deriving DecidableEq

def normalizeIID (iid : Bytes) : Bytes := copyInto (replicate 8 0) iid

def normalizeIPv4 (ip : Option Bytes) : Bytes := (ip.bind to4).getD [0, 0, 0, 0]

def buildPDUAddressIE (addr : PDUAddressInfo) : Bytes :=
  if addr.sessionType = pduSessionTypeIPv6 then 0x02 :: normalizeIID addr.ipv6IID
  else if addr.sessionType = pduSessionTypeIPv4v6 then
    0x03 :: normalizeIID addr.ipv6IID ++ normalizeIPv4 addr.ipv4
  else
    match addr.ipv4 with
    | none => []
    | some ip => 0x01 :: normalizeIPv4 (some ip)

def downgradeCause5GSM (req : Option PDUSessionEstablishmentRequest) (granted : UInt8) : UInt8 :=
  if req.bind PDUSessionEstablishmentRequest.pduSessionType ≠ some pduSessionTypeIPv4v6 then 0
  else if granted = pduSessionTypeIPv4 then cause5GSMPDUSessionTypeIPv4OnlyAllowed
  else if granted = pduSessionTypeIPv6 then cause5GSMPDUSessionTypeIPv6OnlyAllowed
  else 0

structure EstablishmentAcceptParams where
  addr : PDUAddressInfo
  sscMode : UInt8
  dnn : Bytes := []
  qfi : UInt8
  fiveQI : UInt8
  dlMbps : Int
  ulMbps : Int
  dnsv4 : List Bytes := []
  dnsv6 : List Bytes := []
  mtu : UInt16 := 0
  snssai : List SNSSAI := []
  eapMessage : Bytes := []
  request : Option PDUSessionEstablishmentRequest := none
  deriving DecidableEq

def ieiCause5GSM : UInt8 := 0x59
def ieiPDUAddress : UInt8 := 0x29
def ieiSNSSAI5GSM : UInt8 := 0x22
def ieiEAPMessage : UInt8 := 0x78
def ieiAuthorizedQoSFlowDesc : UInt8 := 0x79
def ieiDNN5GSM : UInt8 := 0x25

def encodeSNSSAI5GSM (s : SNSSAI) : Bytes :=
  if s.sd ≠ sdNotPresent then
    [ieiSNSSAI5GSM, 4, s.sst, (s.sd >>> 16).toUInt8, (s.sd >>> 8).toUInt8, s.sd.toUInt8]
  else [ieiSNSSAI5GSM, 1, s.sst]

namespace EstablishmentAcceptParams

def epcoConfig (p : EstablishmentAcceptParams) : EPCOReplyConfig :=
  { dnsv4 := p.dnsv4, dnsv6 := p.dnsv6, mtu := p.mtu
    configProtocolOctet := (p.request.map (·.pcoConfigProtocolOctet)).getD 0
    requestedIDs := (p.request.map (·.requestedPCOContainerIDs)).getD []
    ipcp := p.request.bind (·.ipcpRequest) }

end EstablishmentAcceptParams

def encodeEstablishmentAcceptBody (p : EstablishmentAcceptParams) : Bytes :=
  let qosRules := buildDefaultQoSRules p.qfi
  let ambr := buildSessionAMBR p.dlMbps p.ulMbps
  let cause := downgradeCause5GSM p.request p.addr.sessionType
  let pdnAddr := buildPDUAddressIE p.addr
  let epco := buildEPCOReply p.epcoConfig
  [((p.sscMode &&& 0x0F) <<< 4) ||| (p.addr.sessionType &&& 0x0F)] ++
    be16 qosRules.length ++ qosRules ++ [ofNat ambr.length] ++ ambr ++
    (if cause ≠ 0 then [ieiCause5GSM, cause] else []) ++
    (if pdnAddr ≠ [] then tlv ieiPDUAddress pdnAddr else []) ++ (match p.snssai with
      | s :: _ => encodeSNSSAI5GSM s
      | [] => []) ++
    (if 0 < p.eapMessage.length then tlve ieiEAPMessage p.eapMessage else []) ++
    (if 0 < p.fiveQI then
      tlve ieiAuthorizedQoSFlowDesc (buildQoSFlowDescriptions p.qfi p.fiveQI p.ulMbps p.dlMbps)
    else []) ++ (if epco ≠ [] then tlve ieiEPCO epco else []) ++
    (if p.dnn ≠ [] then tlv ieiDNN5GSM (encodeAPN p.dnn) else [])

/-! ## Elements and their octets -/

/-- A value of this coding at the front of some octets, and what is behind it. -/
def Layout.read : Layout → Bytes → Option (Bytes × Bytes)
  | .bare, r => some ([], r)
  | .fixed n, r => if n ≤ r.length then some (r.take n, r.drop n) else none
  | .lv, l :: r => if l.toNat ≤ r.length then some (r.take l.toNat, r.drop l.toNat) else none
  | .lve, hi :: lo :: r =>
    if beNat hi lo ≤ r.length then some (r.take (beNat hi lo), r.drop (beNat hi lo)) else none
  | _, _ => none

theorem Layout.read_encode {c : Layout} (h : c.Admits v) (rest : Bytes) :
    c.read (c.encode v ++ rest) = some (v, rest) := by
  cases c with
  | bare =>
    have hv : v = [] := h
    simp [read, encode, hv]
  | fixed n =>
    have hlen : v.length = n := h
    simp [read, encode, ← hlen]
  | lv =>
    have hlen : (ofNat v.length).toNat = v.length := by
      have : v.length ≤ 255 := h
      rw [toNat_ofNat', mod_eq_of_lt (by omega)]
    simp [read, encode, hlen]
  | lve =>
    have hlen := beNat_be16 (show v.length ≤ 65535 from h)
    simp [read, encode, be16, hlen]

theorem beNat_le (hi lo : UInt8) : beNat hi lo ≤ 65535 := by
  have hhi := hi.toNat_lt
  have hlo := lo.toNat_lt
  have hlt : beNat hi lo < 2 ^ 16 := by
    refine or_lt_two_pow ?_ (by omega)
    omega
  omega

theorem Layout.admits_of_read {c : Layout} {r rest : Bytes} (h : c.read r = some (v, rest)) :
    c.Admits v := by
  match c, r with
  | .bare, r =>
    simp only [read, some.injEq, Prod.mk.injEq] at h
    exact h.1.symm
  | .fixed n, r =>
    rw [read, ite_none_right_eq_some] at h
    obtain ⟨hlen, hv⟩ := h
    cases hv
    exact length_take_of_le hlen
  | .lv, l :: r =>
    rw [read, ite_none_right_eq_some] at h
    obtain ⟨hlen, hv⟩ := h
    cases hv
    have := l.toNat_lt
    show (r.take l.toNat).length ≤ 255
    rw [length_take_of_le hlen]
    omega
  | .lve, hi :: lo :: r =>
    rw [read, ite_none_right_eq_some] at h
    obtain ⟨hlen, hv⟩ := h
    cases hv
    show (r.take (beNat hi lo)).length ≤ 65535
    rw [length_take_of_le hlen]
    exact beNat_le hi lo

/-- An information element with an identifier. -/
structure Element where
  iei : UInt8
  value : Bytes
  deriving DecidableEq

section Elements

variable (layout : UInt8 → Layout)

def Element.octets (e : Element) : Bytes := e.iei :: (layout e.iei).encode e.value

/-- The elements that follow each other in some octets, up to their end. -/
def readElementsWithin : Nat → Bytes → Option (List Element)
  | _, [] => some []
  | 0, _ :: _ => none
  | fuel + 1, iei :: r => do
    let (value, rest) ← (layout iei).read r
    let es ← readElementsWithin fuel rest
    return ⟨iei, value⟩ :: es

def readElements (b : Bytes) : Option (List Element) := readElementsWithin layout b.length b

variable {layout}

theorem readElementsWithin_octets (h : ∀ e ∈ es, (layout e.iei).Admits e.value)
    (hfuel : (es.flatMap (Element.octets layout)).length ≤ fuel) :
    readElementsWithin layout fuel (es.flatMap (Element.octets layout)) = some es := by
  induction es generalizing fuel with
  | nil => cases fuel <;> rfl
  | cons e es ih =>
    rw [flatMap_cons, Element.octets, cons_append] at hfuel ⊢
    rw [length_cons, length_append] at hfuel
    obtain ⟨fuel, rfl⟩ : ∃ n, fuel = n + 1 := ⟨fuel - 1, by omega⟩
    rw [readElementsWithin, read_encode (h e mem_cons_self)]
    have hrest : (es.flatMap (Element.octets layout)).length ≤ fuel := by omega
    simp [ih (fun e' he' => h e' (mem_cons_of_mem _ he')) hrest]

theorem admits_of_readElementsWithin
    (h : readElementsWithin layout fuel b = some es) : ∀ e ∈ es, (layout e.iei).Admits e.value := by
  induction fuel generalizing b es with
  | zero =>
    cases b with
    | nil => cases h; simp
    | cons _ _ => cases h
  | succ fuel ih =>
    cases b with
    | nil => cases h; simp
    | cons iei r =>
      rw [readElementsWithin] at h
      simp only [Option.bind_eq_bind, Option.bind_eq_some_iff, Option.pure_def, some.injEq] at h
      obtain ⟨⟨value, rest⟩, hread, tail, htail, rfl⟩ := h
      intro e he
      rcases mem_cons.mp he with rfl | he
      · exact admits_of_read hread
      · exact ih htail e he

theorem readElements_octets_iff :
    readElements layout (es.flatMap (Element.octets layout)) = some es ↔
      ∀ e ∈ es, (layout e.iei).Admits e.value :=
  ⟨admits_of_readElementsWithin, fun h => readElementsWithin_octets h (le_refl _)⟩

end Elements

/-! ## What a UE reads -/

/-- The codings of the optional elements of an Accept. -/
def acceptLayout (iei : UInt8) : Layout :=
  if iei = ieiCause5GSM then .fixed 1
  else if iei = ieiEAPMessage ∨ iei = ieiAuthorizedQoSFlowDesc ∨ iei = ieiEPCO then .lve
  else .lv

structure AcceptBody where
  selected : UInt8
  qosRules : Bytes
  sessionAMBR : Bytes
  optional : List Element
  deriving DecidableEq

def readAccept : Bytes → Option AcceptBody
  | [] => none
  | selected :: r => do
    let (qosRules, r) ← lve.read r
    let (sessionAMBR, r) ← lv.read r
    let optional ← readElements acceptLayout r
    return { selected, qosRules, sessionAMBR, optional }

def AcceptBody.containers (a : AcceptBody) : List EPCOContainer :=
  (a.optional.filter (·.iei = ieiEPCO)).flatMap fun e => containersIn e.value.tail

/-! ## What is written -/

/-- Of the S-NSSAIs, the first is written. -/
def snssaiElement : List SNSSAI → List Element
  | s :: _ => [⟨ieiSNSSAI5GSM, (encodeSNSSAI5GSM s).drop 2⟩]
  | [] => []

section Written

variable (p : EstablishmentAcceptParams)

def EstablishmentAcceptParams.optional : List Element :=
  let cause := downgradeCause5GSM p.request p.addr.sessionType
  let pdnAddr := buildPDUAddressIE p.addr
  let epco := buildEPCOReply p.epcoConfig
  (if cause ≠ 0 then [⟨ieiCause5GSM, [cause]⟩] else []) ++
  (if pdnAddr ≠ [] then [⟨ieiPDUAddress, pdnAddr⟩] else []) ++ snssaiElement p.snssai ++
  (if 0 < p.eapMessage.length then [⟨ieiEAPMessage, p.eapMessage⟩] else []) ++ (if 0 < p.fiveQI then
    [⟨ieiAuthorizedQoSFlowDesc, buildQoSFlowDescriptions p.qfi p.fiveQI p.ulMbps p.dlMbps⟩]
  else []) ++ (if epco ≠ [] then [⟨ieiEPCO, epco⟩] else []) ++
  (if p.dnn ≠ [] then [⟨ieiDNN5GSM, encodeAPN p.dnn⟩] else [])

def EstablishmentAcceptParams.written : AcceptBody where
  selected := ((p.sscMode &&& 0x0F) <<< 4) ||| (p.addr.sessionType &&& 0x0F)
  qosRules := buildDefaultQoSRules p.qfi
  sessionAMBR := buildSessionAMBR p.dlMbps p.ulMbps
  optional := p.optional

variable {p}

theorem flatMap_ite {c : Prop} [Decidable c] (e : Element) :
    (if c then [e] else []).flatMap (Element.octets acceptLayout) =
      if c then Element.octets acceptLayout e else [] := by
  split
  · rw [flatMap_singleton]
  · rfl

theorem encodeSNSSAI5GSM_eq (s : SNSSAI) : encodeSNSSAI5GSM s =
      Element.octets acceptLayout ⟨ieiSNSSAI5GSM, (encodeSNSSAI5GSM s).drop 2⟩ := by
  rw [encodeSNSSAI5GSM]
  split <;> rfl

theorem encodeEstablishmentAcceptBody_eq : encodeEstablishmentAcceptBody p =
      p.written.selected :: (lve.encode p.written.qosRules ++ (lv.encode p.written.sessionAMBR ++
          p.written.optional.flatMap (Element.octets acceptLayout))) := by
  have hsnssai : (match p.snssai with
      | s :: _ => encodeSNSSAI5GSM s
      | [] => []) = (snssaiElement p.snssai).flatMap (Element.octets acceptLayout) := by
    cases p.snssai with
    | nil => rfl
    | cons s _ => exact (encodeSNSSAI5GSM_eq s).trans (flatMap_singleton ..).symm
  rw [encodeEstablishmentAcceptBody, hsnssai]
  simp only [EstablishmentAcceptParams.written, EstablishmentAcceptParams.optional,
    flatMap_append, flatMap_ite, append_assoc]
  rfl

end Written

/-! ## Lengths -/

theorem length_to4 {ip v4 : Bytes} (h : to4 ip = some v4) : v4.length = 4 := by
  unfold to4 at h
  split at h
  · cases h
    assumption
  split at h
  · rename_i h16
    cases h
    rw [length_drop, h16.1]
  · cases h

theorem length_to16 {ip v6 : Bytes} (h : to16 ip = some v6) : v6.length = 16 := by
  unfold to16 at h
  split at h
  · rename_i h4
    cases h
    rw [length_append, h4]
    rfl
  split at h
  · cases h
    assumption
  · cases h

theorem length_normalizeIID (iid : Bytes) : (normalizeIID iid).length = 8 := by
  simp only [normalizeIID, copyInto, length_append, length_take, length_drop, length_replicate]
  omega

theorem length_normalizeIPv4 (ip : Option Bytes) : (normalizeIPv4 ip).length = 4 := by
  rw [normalizeIPv4]
  cases h : ip.bind to4 with
  | none => rfl
  | some v4 =>
    obtain ⟨ip', -, h4⟩ := bind_eq_some_iff.mp h
    exact length_to4 h4

theorem length_buildPDUAddressIE_le (addr : PDUAddressInfo) :
    (buildPDUAddressIE addr).length ≤ 13 := by
  have hiid := length_normalizeIID addr.ipv6IID
  have hip := length_normalizeIPv4 addr.ipv4
  unfold buildPDUAddressIE
  split
  · simp [hiid]
  split
  · simp [hiid, hip]
  · cases h : addr.ipv4 with
    | none => simp
    | some ip =>
      rw [h] at hip
      simp [hip]

theorem length_buildQoSFlowDescriptions_le (qfi fiveQI : UInt8) (ulMbps dlMbps : Int) :
    (buildQoSFlowDescriptions qfi fiveQI ulMbps dlMbps).length ≤ 26 := by
  simp only [buildQoSFlowDescriptions, buildQoSFlowDescription, qosFlowParams]
  split <;> simp [QoSFlowParam.octets, mbpsOctets]

/-- The values without a bound of their own fit their length octets. -/
def EstablishmentAcceptParams.Fits (p : EstablishmentAcceptParams) : Prop :=
  p.dnn.length ≤ 254 ∧ p.eapMessage.length ≤ 65535 ∧ (buildEPCOReply p.epcoConfig).length ≤ 65535

theorem admits_snssaiElement (snssai : List SNSSAI) :
    ∀ e ∈ snssaiElement snssai, e.iei = ieiSNSSAI5GSM ∧ (acceptLayout e.iei).Admits e.value := by
  cases snssai with
  | nil => simp [snssaiElement]
  | cons s _ =>
    intro e he
    rw [mem_singleton.mp he]
    refine ⟨rfl, show ((encodeSNSSAI5GSM s).drop 2).length ≤ 255 from ?_⟩
    rw [encodeSNSSAI5GSM]
    split <;> simp

theorem admits_optional_iff : (∀ e ∈ p.optional, (acceptLayout e.iei).Admits e.value) ↔ p.Fits := by
  have haddr := length_buildPDUAddressIE_le p.addr
  have hflow := length_buildQoSFlowDescriptions_le p.qfi p.fiveQI p.ulMbps p.dlMbps
  have hdnn := length_encodeAPN p.dnn
  have hsnssai := fun e he => (admits_snssaiElement p.snssai e he).2
  have hite : ∀ {c : Prop} [Decidable c] {e : Element},
      (∀ e' ∈ (if c then [e] else []), (acceptLayout e'.iei).Admits e'.value) ↔
        (c → (acceptLayout e.iei).Admits e.value) := by
    intro c _ e
    split <;> simp_all
  simp only [EstablishmentAcceptParams.optional, forall_mem_append, hite]
  constructor
  · rintro ⟨⟨⟨⟨-, heap⟩, -⟩, hepco⟩, hname⟩
    refine ⟨?_, ?_, ?_⟩
    · by_cases h : p.dnn = []
      · simp [h]
      · have hlen : (encodeAPN p.dnn).length ≤ 255 := hname h
        omega
    · by_cases h : 0 < p.eapMessage.length
      · exact heap h
      · omega
    · by_cases h : buildEPCOReply p.epcoConfig = []
      · simp [h]
      · exact hepco h
  · rintro ⟨hname, heap, hepco⟩
    refine ⟨⟨⟨⟨⟨⟨fun _ => rfl, fun _ => ?_⟩, hsnssai⟩, fun _ => heap⟩, fun _ => ?_⟩,
      fun _ => hepco⟩, fun _ => ?_⟩
    · show (buildPDUAddressIE p.addr).length ≤ 255
      omega
    · show (buildQoSFlowDescriptions p.qfi p.fiveQI p.ulMbps p.dlMbps).length ≤ 65535
      omega
    · show (encodeAPN p.dnn).length ≤ 255
      omega

theorem readAccept_encode_iff :
    readAccept (encodeEstablishmentAcceptBody p) = some p.written ↔ p.Fits := by
  have hrules : lve.Admits p.written.qosRules := show 9 ≤ 65535 by omega
  have hambr : lv.Admits p.written.sessionAMBR := show 6 ≤ 255 by omega
  have hread : readAccept (encodeEstablishmentAcceptBody p) =
      (readElements acceptLayout (p.optional.flatMap (Element.octets acceptLayout))).map
        fun optional => { p.written with optional } := by
    rw [encodeEstablishmentAcceptBody_eq, readAccept, read_encode hrules]
    simp only [bind_eq_bind, bind_some]
    rw [read_encode hambr]
    simp only [bind_some, map_eq_bind]
    rfl
  rw [hread, ← admits_optional_iff, ← readElements_octets_iff, map_eq_some_iff]
  constructor
  · rintro ⟨optional, hoptional, hwritten⟩
    rw [hoptional]
    exact congrArg some (congrArg AcceptBody.optional hwritten)
  · intro h
    exact ⟨p.optional, h, rfl⟩

/-! ## The containers -/

theorem containersIn_octets {cs : List EPCOContainer} (h : ∀ c ∈ cs, c.value.length ≤ 255) :
    containersIn (cs.flatMap octets) = cs := by
  induction cs with
  | nil => rw [flatMap_nil, containersIn]; simp
  | cons c cs ih =>
    have hlen : (ofNat c.value.length).toNat = c.value.length := by
      have := h c mem_cons_self
      rw [toNat_ofNat', mod_eq_of_lt (by omega)]
    rw [flatMap_cons, octets]
    simp only [cons_append, nil_append]
    rw [containersIn, hlen, if_pos (by simp), take_left, drop_left, beUInt16_octets,
      ih fun c' hc' => h c' (mem_cons_of_mem _ hc')]

namespace EPCOReplyConfig

/-- The containers of the reply: the answers in the order of the request, or a fixed list when
the UE asked for nothing. -/
def reply (cfg : EPCOReplyConfig) : List EPCOContainer :=
  if cfg.requestedIDs = [] then
    mtuContainers cfg.mtu ++ dnsv4Containers cfg.dnsv4 ++
      ipcpAnswer cfg.ipcp cfg.primary cfg.secondary
  else cfg.requestedIDs.flatMap cfg.answer

end EPCOReplyConfig

theorem length_octets_eq_zero_iff {cs : List EPCOContainer} :
    (cs.flatMap octets).length = 0 ↔ cs = [] := by
  cases cs with
  | nil => simp
  | cons c cs => simp [octets]

/-- Containers behind an octet, or nothing if there are none. -/
def framed (ext : UInt8) (cs : List EPCOContainer) : Bytes :=
  if cs = [] then [] else ext :: cs.flatMap octets

theorem encodePCODNSMTUAndIPCP_eq (mtu : UInt16) (extra : List EPCOContainer) (dns : List Bytes) :
    encodePCODNSMTUAndIPCP mtu (extra.flatMap octets) dns =
      framed 0x80 (mtuContainers mtu ++ dnsv4Containers dns ++ extra) := by
  rw [encodePCODNSMTUAndIPCP, encodePCODNSAndMTU, framed]
  simp only [length_octets_eq_zero_iff]
  generalize mtuContainers mtu ++ dnsv4Containers dns = cs
  by_cases hextra : extra = []
  · simp only [hextra, if_true, append_nil]
  · have hall : cs ++ extra ≠ [] := by simp [hextra]
    simp only [if_neg hextra, if_neg hall, flatMap_append]
    by_cases hcs : cs = [] <;> simp [hcs]

theorem buildEPCOReply_eq : ∃ ext, buildEPCOReply cfg = framed ext cfg.reply := by
  unfold buildEPCOReply EPCOReplyConfig.reply
  simp only [length_eq_zero_iff (l := cfg.requestedIDs)]
  split
  · exact ⟨_, encodePCODNSMTUAndIPCP_eq cfg.mtu _ cfg.dnsv4⟩
  · refine ⟨if cfg.configProtocolOctet = 0 then 0x80 else cfg.configProtocolOctet, ?_⟩
    simp only [length_octets_eq_zero_iff]
    rfl

/-! ### Values that fit -/

theorem length_ipcpDNSOption_le (wants : Bool) (option : UInt8) (server : Bytes) :
    (ipcpDNSOption wants option server).length ≤ 6 := by
  unfold ipcpDNSOption
  split
  · cases h : to4 server with
    | none => simp
    | some v4 => simp [length_to4 h]
  · simp

theorem length_ipcpAnswer_le (req : Option IPCPConfigureRequest) (primary secondary : Bytes) :
    ∀ c ∈ ipcpAnswer req primary secondary, c.value.length ≤ 255 := by
  intro c hc
  unfold ipcpAnswer at hc
  split at hc
  · rename_i ipcp hipcp
    obtain ⟨req', -, hack⟩ := bind_eq_some_iff.mp hipcp
    rw [ipcpConfigAck] at hack
    have hprimary := length_ipcpDNSOption_le req'.wantsPrimaryDNS ipcpOptPrimaryDNS primary
    have hsecondary := length_ipcpDNSOption_le req'.wantsSecondaryDNS ipcpOptSecondaryDNS secondary
    rw [ite_none_left_eq_some] at hack
    rw [mem_singleton.mp hc, ← some.inj hack.2]
    simp only [be16, length_append, length_cons, length_nil]
    omega
  · simp at hc

theorem length_dnsv4Containers (hc : c ∈ dnsv4Containers dns) : c.value.length ≤ 255 := by
  obtain ⟨v4, hv4, rfl⟩ := mem_map.mp hc
  obtain ⟨ip, -, hip⟩ := mem_filterMap.mp hv4
  exact (length_to4 hip).trans_le (by decide)

theorem length_dnsv6Containers (hc : c ∈ dnsv6Containers dns) : c.value.length ≤ 255 := by
  obtain ⟨v6, hv6, rfl⟩ := mem_map.mp hc
  obtain ⟨ip, -, hip⟩ := mem_filterMap.mp hv6
  rw [ite_none_left_eq_some] at hip
  exact (length_to16 hip.2).trans_le (by decide)

theorem length_mtuContainers {mtu : UInt16} (hc : c ∈ mtuContainers mtu) :
    c.value.length ≤ 255 := by
  unfold mtuContainers at hc
  split at hc
  · rw [mem_singleton.mp hc]
    exact (by decide : 2 ≤ 255)
  · simp at hc

theorem length_answer_le (id : UInt16) : ∀ c ∈ cfg.answer id, c.value.length ≤ 255 := by
  intro c hc
  unfold EPCOReplyConfig.answer at hc
  split at hc
  · exact length_ipcpAnswer_le _ _ _ c hc
  split at hc
  · exact length_dnsv4Containers hc
  split at hc
  · exact length_dnsv6Containers hc
  split at hc
  · exact length_mtuContainers hc
  split at hc
  · rw [mem_singleton.mp hc]
    exact zero_le _
  · simp at hc

theorem length_reply_le : ∀ c ∈ cfg.reply, c.value.length ≤ 255 := by
  unfold EPCOReplyConfig.reply
  split
  · simp only [forall_mem_append]
    exact ⟨⟨fun _ => length_mtuContainers, fun _ => length_dnsv4Containers⟩,
      length_ipcpAnswer_le _ _ _⟩
  · intro c hc
    obtain ⟨id, -, hid⟩ := mem_flatMap.mp hc
    exact length_answer_le cfg id c hid

theorem containers_written : p.written.containers = p.epcoConfig.reply := by
  have hother : ∀ (iei : UInt8), iei ≠ ieiEPCO → ∀ {c : Prop} [Decidable c] {value : Bytes},
      (if c then [(⟨iei, value⟩ : Element)] else []).filter (·.iei = ieiEPCO) = [] := by
    intro iei hiei c _ value
    split <;> simp [hiei]
  have hsnssai : (snssaiElement p.snssai).filter (·.iei = ieiEPCO) = [] := by
    cases p.snssai <;> rfl
  obtain ⟨ext, hreply⟩ := buildEPCOReply_eq p.epcoConfig
  simp only [AcceptBody.containers, EstablishmentAcceptParams.written,
    EstablishmentAcceptParams.optional, filter_append]
  rw [hother ieiCause5GSM (by decide), hother ieiPDUAddress (by decide), hsnssai,
    hother ieiEAPMessage (by decide), hother ieiAuthorizedQoSFlowDesc (by decide),
    hother ieiDNN5GSM (by decide), hreply, framed]
  by_cases h : p.epcoConfig.reply = []
  · simp [h]
  · simp [h, containersIn_octets (length_reply_le p.epcoConfig)]

/-! ## The request of the UE -/

theorem IEWalk.collected {α β : Type} {w : IEWalk} {Bad : Bytes → Prop}
    {body : UInt8 → α → Proc Reader (Ctl α)} (hw : w.Follows Bad body) (f : α → List β)
    (g : Bytes → List β) (hbody : ∀ iei a a' r r', (body iei a).run r = (.ok (.next a'), r') →
      f a' = f a ++ (w.handed iei r).toList.flatMap g) :
    ∀ (fuel : Nat) (a a' : α) (r : Bytes), r.length ≤ fuel →
      ((ieLoop body fuel a).run r).1 = .ok a' → f a' = f a ++ (w.reached r).flatMap g := by
  intro fuel
  induction fuel with
  | zero =>
    intro a a' r hr h
    have hnil : r = [] := length_eq_zero_iff.mp (by omega)
    subst hnil
    cases h
    simp [IEWalk.reached]
  | succ fuel ih =>
    intro a a' r hr h
    cases r with
    | nil =>
      cases h
      simp [IEWalk.reached]
    | cons iei r =>
      have hstep := hw iei a r
      rcases hrun : (body iei a).run r with ⟨o, r'⟩
      rw [hrun] at hstep
      have hread : readByte.attempt.run (iei :: r) = (.ok (.ok iei), r) := rfl
      rw [ieLoop, run_loop_step (by simp), run_bind_ok hread, hrun] at h
      rcases o with c | e | _ | _
      · rcases c with a₁ | a₁
        · obtain ⟨rfl, hrej, -⟩ := hstep
          have hle := (w.layout iei).length_tail_le r
          rw [length_cons] at hr
          rw [ih a₁ a' _ (by omega) h, hbody iei a a₁ r _ hrun, IEWalk.reached, hrej]
          simp
        · exact hstep.elim
      · cases h
      · cases h
      · cases h

/-- The containers that a UE asks for, in its order. -/
def requestedContainers (b : Bytes) : List UInt16 :=
  (establishmentRequestEPCOs b).flatMap fun epco => (containersIn epco.tail).map EPCOContainer.id

theorem establishmentRequestIE_collects (iei : UInt8) (msg msg' : PDUSessionEstablishmentRequest)
    (r r' : Bytes) (h : (establishmentRequestIE iei msg).run r = (.ok (.next msg'), r')) :
    msg'.requestedPCOContainerIDs = msg.requestedPCOContainerIDs ++
      (establishmentRequestWalk.handed iei r).toList.flatMap fun epco =>
        (containersIn epco.tail).map EPCOContainer.id := by
  by_cases hepco : iei = ieiEPCO
  · subst hepco
    have h' : (establishmentRequestEPCO msg).run r = (.ok (.next msg'), r') := h
    rw [establishmentRequestEPCO, run_bind_ok (run_readLVE r), parseEPCOContainerList_eq]
      at h'
    rcases parseIPCPFromEPCO_eq (lveValue r) with ⟨-, hpanic⟩ | ⟨-, req, hreq⟩
    · rw [hpanic] at h'
      cases h'
    · rw [hreq] at h'
      cases h'
      simp [establishmentRequestWalk]
  · have hnone : establishmentRequestWalk.handed iei r = none := by
      simp [establishmentRequestWalk, hepco]
    rw [hnone, toList_none, flatMap_nil, append_nil]
    unfold establishmentRequestIE at h
    split at h
    · cases h; rfl
    split at h
    · cases h; rfl
    split at h
    · cases h; rfl
    split at h
    · rw [run_bind, run_readBytes_orZero] at h
      by_cases hlen : 2 ≤ r.length
      · rw [if_pos hlen] at h
        cases h; rfl
      · rw [if_neg hlen] at h
        cases h; rfl
    · rw [run_bind_ok (run_skipLV r)] at h
      cases h; rfl

theorem requestedPCOContainerIDs_eq (h : decodePDUSessionEstablishmentRequest b = .ok req) :
    req.requestedPCOContainerIDs = requestedContainers b := by
  rw [decodePDUSessionEstablishmentRequest] at h
  rw [requestedContainers, establishmentRequestEPCOs]
  split_ifs at h with hlen
  · cases h
    simp [hlen]
  · rw [run_bind, run_wrapErr] at h
    rcases lt_or_ge b.length 2 with hlt | hge
    · obtain ⟨e, he⟩ := run_readBytes_of_lt hlt
      rw [he] at h
      cases h
    · rw [run_readBytes_of_le hge] at h
      rw [if_neg (not_lt.mpr hge)]
      exact IEWalk.collected establishmentRequestWalk_follows
        PDUSessionEstablishmentRequest.requestedPCOContainerIDs _
        establishmentRequestIE_collects _ _ _ _ (le_refl _) h

/-! ## The Accept as a whole -/

/-- When the values fit, a UE finds in the Accept the elements that were written, and in the
configuration options the answers to its containers, in its order.  A UE that asked for no
container finds a fixed list, with the MTU and the DNS servers. -/
theorem establishmentAccept_answers {b : Bytes} {req : PDUSessionEstablishmentRequest}
    (hdecode : decodePDUSessionEstablishmentRequest b = .ok req) {p : EstablishmentAcceptParams}
    (hrequest : p.request = some req) (hfits : p.Fits) :
    readAccept (encodeEstablishmentAcceptBody p) = some p.written ∧ p.written.containers =
        if requestedContainers b = [] then
          mtuContainers p.mtu ++ dnsv4Containers p.dnsv4 ++
            ipcpAnswer req.ipcpRequest p.epcoConfig.primary p.epcoConfig.secondary
        else (requestedContainers b).flatMap p.epcoConfig.answer := by
  refine ⟨(readAccept_encode_iff p).mpr hfits, ?_⟩
  have hids : p.epcoConfig.requestedIDs = requestedContainers b := by
    rw [EstablishmentAcceptParams.epcoConfig, hrequest]
    exact requestedPCOContainerIDs_eq hdecode
  have hipcp : p.epcoConfig.ipcp = req.ipcpRequest := by
    rw [EstablishmentAcceptParams.epcoConfig, hrequest]
    rfl
  rw [containers_written, EPCOReplyConfig.reply, hids, hipcp]
  rfl

/-! ### Requests for one container, many times -/

def dnsRequest (n : Nat) : Bytes :=
  [0xFF, 0xFF] ++ tlve ieiEPCO
    (0x80 :: (replicate n ⟨containerIDDNSServerIPv4Address, []⟩).flatMap octets)

theorem decode_dnsRequest (hn : n ≤ 21844) :
    ∃ req, decodePDUSessionEstablishmentRequest (dnsRequest n) = .ok req ∧
      req.requestedPCOContainerIDs = replicate n containerIDDNSServerIPv4Address := by
  generalize hcs : replicate n (⟨containerIDDNSServerIPv4Address, []⟩ : EPCOContainer) = cs
  have hmem : ∀ c ∈ cs, c = ⟨containerIDDNSServerIPv4Address, []⟩ := by
    rw [← hcs]
    exact fun c hc => (mem_replicate.mp hc).2
  have hcontainers : containersIn (cs.flatMap octets) = cs :=
    containersIn_octets fun c hc => by rw [hmem c hc]; exact zero_le _
  have hlen : (0x80 :: cs.flatMap octets).length ≤ 65535 := by
    rw [← hcs, flatMap_replicate]
    simp [octets]
    omega
  have hshort : ¬ShortIPCP (0x80 :: cs.flatMap octets) := by
    rintro ⟨c, hc, -⟩
    rw [tail_cons, hcontainers, lastContainer] at hc
    have hid := find?_some hc
    rw [hmem c (mem_reverse.mp (mem_of_find?_eq_some hc))] at hid
    exact absurd hid (by decide)
  generalize hepco : 0x80 :: cs.flatMap octets = epco at hlen hshort
  have hids : (containersIn epco.tail).map EPCOContainer.id =
      replicate n containerIDDNSServerIPv4Address := by
    rw [← hepco, tail_cons, hcontainers, ← hcs, map_replicate]
  have hvalue : lveValue (be16 epco.length ++ epco) = epco := by
    simp [be16, lveValue, beNat_be16 hlen]
  have htail : lveTail (be16 epco.length ++ epco) = [] := by
    simp [be16, lveTail, beNat_be16 hlen]
  obtain ⟨ipcp, hipcp⟩ : ∃ ipcp, parseIPCPFromEPCO epco = .ok ipcp := by
    rcases parseIPCPFromEPCO_eq epco with ⟨h, -⟩ | ⟨-, h⟩
    · exact absurd h hshort
    · exact h
  have hstep : ∀ msg : PDUSessionEstablishmentRequest,
      ∃ msg', (establishmentRequestIE ieiEPCO msg).run (be16 epco.length ++ epco) =
        (.ok (.next msg'), []) ∧ msg'.requestedPCOContainerIDs =
          msg.requestedPCOContainerIDs ++ (containersIn epco.tail).map EPCOContainer.id := by
    intro msg
    show ∃ msg', (establishmentRequestEPCO msg).run _ = _ ∧ _
    rw [establishmentRequestEPCO, run_bind_ok (run_readLVE _), hvalue, htail, hipcp,
      parseEPCOContainerList_eq]
    exact ⟨_, rfl, rfl⟩
  obtain ⟨req, hreq, hreqIDs⟩ := hstep
    { integrityProtectionMaxDataRate := copyInto [0, 0] [0xFF, 0xFF] }
  refine ⟨req, ?_, by rw [hreqIDs, hids]; rfl⟩
  have hhead : ((readBytes 2).wrapErr
      "nas: 5GSM EstablishmentRequest: integrity protection max data rate").run (dnsRequest n) =
        (.ok [0xFF, 0xFF], ieiEPCO :: (be16 epco.length ++ epco)) := by
    rw [dnsRequest, hcs, hepco]
    rfl
  rw [decodePDUSessionEstablishmentRequest, if_neg (by simp [dnsRequest]),
    run_bind_ok hhead, run_forEachIE, length_cons]
  rw [run_ieLoop_cons hreq, ieLoop, run_loop_exit (by simp)]

def internetAccept (req : PDUSessionEstablishmentRequest) : EstablishmentAcceptParams where
  addr := { sessionType := pduSessionTypeIPv4, ipv4 := some [10, 60, 0, 1] }
  sscMode := 1
  dnn := [0x69, 0x6E, 0x74, 0x65, 0x72, 0x6E, 0x65, 0x74]
  qfi := 1
  fiveQI := 9
  dlMbps := 100
  ulMbps := 100
  dnsv4 := [[8, 8, 8, 8]]
  mtu := 1400
  request := some req

theorem length_dnsReply (h : req.requestedPCOContainerIDs =
      replicate (n + 1) containerIDDNSServerIPv4Address) :
    (buildEPCOReply (internetAccept req).epcoConfig).length = 7 * (n + 1) + 1 := by
  have hids : (internetAccept req).epcoConfig.requestedIDs =
      replicate (n + 1) containerIDDNSServerIPv4Address := h
  have hreply : (internetAccept req).epcoConfig.reply =
      replicate (n + 1) ⟨containerIDDNSServerIPv4Address, [8, 8, 8, 8]⟩ := by
    rw [EPCOReplyConfig.reply, hids, if_neg (by simp), flatMap_replicate]
    exact flatten_replicate_singleton
  obtain ⟨ext, hext⟩ := buildEPCOReply_eq (internetAccept req).epcoConfig
  rw [hext, framed, hreply, if_neg (by simp), flatMap_replicate]
  simp [octets]
  omega

theorem fits_internetAccept (h : req.requestedPCOContainerIDs =
      replicate (n + 1) containerIDDNSServerIPv4Address) :
    (internetAccept req).Fits ↔ n ≤ 9361 := by
  have hlen := length_dnsReply h
  constructor
  · rintro ⟨-, -, hepco⟩
    omega
  · intro hn
    exact ⟨show 8 ≤ 254 by omega, zero_le _, by omega⟩

theorem establishmentAccept_answers_dnsRequest :
    ∃ req, decodePDUSessionEstablishmentRequest (dnsRequest 1) = .ok req ∧
      readAccept (encodeEstablishmentAcceptBody (internetAccept req)) =
        some (internetAccept req).written ∧
      (internetAccept req).written.containers =
        [⟨containerIDDNSServerIPv4Address, [8, 8, 8, 8]⟩] := by
  obtain ⟨req, hreq, hids⟩ := decode_dnsRequest (n := 1) (by decide)
  have hids' := requestedPCOContainerIDs_eq hreq
  have hfits := (fits_internetAccept hids).mpr (by decide)
  obtain ⟨hread, hcontainers⟩ := establishmentAccept_answers hreq rfl hfits
  refine ⟨req, hreq, hread, ?_⟩
  rw [hcontainers, ← hids', hids]
  rfl

/-- A UE that asked for nothing is given the MTU and a DNS server; one that asked 9363 times for
the DNS servers is given an Accept that it cannot take apart. -/
theorem unasked_options_and_options_too_long :
    (∃ req a, decodePDUSessionEstablishmentRequest [0xFF, 0xFF] = .ok req ∧
      requestedContainers [0xFF, 0xFF] = [] ∧
      readAccept (encodeEstablishmentAcceptBody (internetAccept req)) = some a ∧
      a.containers = [⟨containerIDIPv4LinkMTU, [0x05, 0x78]⟩,
        ⟨containerIDDNSServerIPv4Address, [8, 8, 8, 8]⟩]) ∧
    ∃ req, decodePDUSessionEstablishmentRequest (dnsRequest 9363) = .ok req ∧
      readAccept (encodeEstablishmentAcceptBody (internetAccept req)) ≠
        some (internetAccept req).written := by
  constructor
  · refine ⟨{ integrityProtectionMaxDataRate := [0xFF, 0xFF] }, _, rfl, ?_,
      (readAccept_encode_iff _).mpr ?_, ?_⟩
    · exact (requestedPCOContainerIDs_eq (b := [0xFF, 0xFF]) rfl).symm
    · refine ⟨?_, ?_, ?_⟩ <;> decide
    · rw [containers_written]
      decide
  · obtain ⟨req, hreq, hids⟩ := decode_dnsRequest (n := 9363) (by decide)
    refine ⟨req, hreq, fun h => ?_⟩
    exact absurd ((fits_internetAccept hids).mp ((readAccept_encode_iff _).mp h)) (by decide)

end Claudia5gc.Nas
