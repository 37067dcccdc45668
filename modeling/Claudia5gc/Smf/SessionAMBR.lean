import Claudia5gc.Nas.EstablishmentAccept
import Claudia5gc.Smf.BitRate
import Claudia5gc.Smf.Pfcp

/-!
# One Session-AMBR for the UE, the gNB and the UPF

The bit rates of a session come as text from the PCF or the UDM.  The SMF keeps each of them in kbps
and in Mbps, and sends it on three ways: to the UE in the Establishment Accept, where it has two
octets in units of 1 Mbps, to the gNB in bit/s, and to the UPF in kbps.
-/

namespace Claudia5gc.Smf

open Go List Option UInt8

variable (d : Direction) {k : UInt64} {layout : UInt8 → Layout} {iei : UInt8} {value : Bytes}
  {es : List Element} {p : EstablishmentAcceptParams}
open Nas
open Upf (QERState PfcpReject createQER)

/-! ## Where the rates come from -/

inductive Direction where
  | uplink
  | downlink
  deriving DecidableEq

def Direction.other : Direction → Direction
  | .uplink => .downlink
  | .downlink => .uplink

def Direction.pick {α : Type} (d : Direction) (ul dl : α) : α :=
  match d with
  | .uplink => ul
  | .downlink => dl

def parseAMBR (s : String) (fbKbps : UInt64) (fbMbps : Int) : UInt64 × Int :=
  match parseBitRateKbps s with
  | (k, true) => (k, kbpsToMbps k)
  | (_, false) => (fbKbps, fbMbps)

/-- An entry of `dnnConfigurations` in the answer of the UDM. -/
structure DNNConfiguration where
  fiveQI : Int
  uplink : String
  downlink : String
  deriving DecidableEq

def DNNConfiguration.rate (cfg : DNNConfiguration) (d : Direction) : String :=
  d.pick cfg.uplink cfg.downlink

/-- An entry of the answer of the UDM: its configurations by DNN. -/
abbrev SMData := String → Option DNNConfiguration

structure SubscribedQoS where
  fiveQI : Int
  ambrULMbps : Int
  ambrDLMbps : Int
  ambrULKbps : UInt64
  ambrDLKbps : UInt64
  deriving DecidableEq

/-- The configuration that `fetchSubscribedQoS` uses: the first one of the DNN with a 5QI. -/
def usedConfiguration (dnn : String) (entries : List SMData) : Option DNNConfiguration :=
  entries.findSome? fun e => (e dnn).filter (·.fiveQI ≠ 0)

def fetchSubscribedQoS (dnn : String) (entries : List SMData) : Option SubscribedQoS :=
  (usedConfiguration dnn entries).map fun cfg =>
    let (ulKbps, ulMbps) := parseAMBR cfg.uplink 100000 100
    let (dlKbps, dlMbps) := parseAMBR cfg.downlink 100000 100
    { fiveQI := cfg.fiveQI, ambrULMbps := ulMbps, ambrDLMbps := dlMbps, ambrULKbps := ulKbps,
      ambrDLKbps := dlKbps }

/-- The answer of the PCF: the 5QI and the Session-AMBR of the rules that are used. -/
structure PolicyDecision where
  fiveQI : Option UInt8 := none
  uplink : Option String := none
  downlink : Option String := none
  deriving DecidableEq

def PolicyDecision.rate (dec : PolicyDecision) (d : Direction) : Option String :=
  d.pick dec.uplink dec.downlink

def fallbackQoS : Option SubscribedQoS → SmPolicyQoS
  | none => { fiveQI := 9, ambrULMbps := 100, ambrDLMbps := 100, ambrULKbps := 100000,
              ambrDLKbps := 100000 }
  | some subQoS =>
    { fiveQI := ofInt subQoS.fiveQI
      ambrULMbps := subQoS.ambrULMbps
      ambrDLMbps := subQoS.ambrDLMbps
      ambrULKbps := kbpsOrMbps subQoS.ambrULKbps subQoS.ambrULMbps
      ambrDLKbps := kbpsOrMbps subQoS.ambrDLKbps subQoS.ambrDLMbps }

/-- A rate of the PCF, if it gave one. -/
def decidedAMBR (text : Option String) (fbKbps : UInt64) (fbMbps : Int) : UInt64 × Int :=
  match text with
  | some s => parseAMBR s fbKbps fbMbps
  | none => (fbKbps, fbMbps)

def createSMPolicy (subQoS : Option SubscribedQoS) (answer : Option PolicyDecision) : SmPolicyQoS :=
  let fallback := fallbackQoS subQoS
  match answer with
  | none => fallback
  | some dec =>
    let (ulKbps, ulMbps) := decidedAMBR dec.uplink fallback.ambrULKbps fallback.ambrULMbps
    let (dlKbps, dlMbps) := decidedAMBR dec.downlink fallback.ambrDLKbps fallback.ambrDLMbps
    { fiveQI := dec.fiveQI.getD fallback.fiveQI, ambrULMbps := ulMbps, ambrDLMbps := dlMbps,
      ambrULKbps := ulKbps, ambrDLKbps := dlKbps }

/-! ## Where the rates go -/

def defaultIPv4LinkMTU : UInt16 := 1400

/-- What the Accept of `handleCreateSMContext` holds besides the QoS. -/
structure AcceptContext where
  grantedType : UInt8
  ip : Option Bytes
  v6IID : Bytes
  dnn : Bytes
  dns : List Bytes
  snssai : SNSSAI
  pduReq : Option PDUSessionEstablishmentRequest
  deriving DecidableEq

def n1SmResp (c : AcceptContext) (policyQoS : SmPolicyQoS) : Bytes :=
  encodeEstablishmentAcceptBody
    { addr := { sessionType := c.grantedType, ipv4 := c.ip, ipv6IID := c.v6IID }
      sscMode := 1
      dnn := c.dnn
      qfi := 1
      fiveQI := policyQoS.fiveQI
      dlMbps := policyQoS.ambrDLMbps
      ulMbps := policyQoS.ambrULMbps
      dnsv4 := c.dns
      mtu := defaultIPv4LinkMTU
      snssai := [c.snssai]
      request := c.pduReq }

structure GBRQosInformation where
  maximumFlowBitRateDL : Int
  maximumFlowBitRateUL : Int
  guaranteedFlowBitRateDL : Int
  guaranteedFlowBitRateUL : Int
  deriving DecidableEq

structure SetupRequestTransfer where
  aggregateMaximumBitRateUL : Int
  aggregateMaximumBitRateDL : Int
  gbrQosInformation : Option GBRQosInformation
  deriving DecidableEq

def buildPDUSessionResourceSetupRequestTransfer (fiveQI : UInt8) (ambrULBps ambrDLBps : Int) :
    SetupRequestTransfer where
  aggregateMaximumBitRateUL := ambrULBps
  aggregateMaximumBitRateDL := ambrDLBps
  gbrQosInformation :=
    if is5QIGBR fiveQI then some ⟨ambrDLBps, ambrULBps, ambrDLBps, ambrULBps⟩ else none

def bitsPerSecond (mbps : Int) : Int := (mbps * 1000000).bmod (2 ^ 64)

def n2SmInfo (policyQoS : SmPolicyQoS) : SetupRequestTransfer :=
  buildPDUSessionResourceSetupRequestTransfer policyQoS.fiveQI
    (bitsPerSecond policyQoS.ambrULMbps) (bitsPerSecond policyQoS.ambrDLMbps)

def installedQERs (sess : Session) : Except PfcpReject (Map UInt32 QERState) :=
  let (ambrUL, ambrDL) := sessionAMBRKbps sess
  [buildSessionAMBRCreateQER ambrUL ambrDL, buildDefaultFlowCreateQER].foldlM createQER ∅

theorem installedQERs_eq {sess : Session} {req : Upf.SessionEstablishmentRequest}
    {us : Upf.Session} (hreq : sessionEstablishmentRequest sess = .ok req)
    (hus : req.session = .ok us) : installedQERs sess = .ok us.qers := by
  unfold sessionEstablishmentRequest at hreq
  cases hip : buildUEIPAddressIE sess with
  | error e =>
    rw [hip] at hreq
    cases hreq
  | ok ueIP =>
    rw [hip] at hreq
    cases hreq
    unfold installedQERs
    simp only [sessionAMBRKbps] at hus ⊢
    generalize kbpsOrMbps sess.qos.ambrULKbps sess.qos.ambrULMbps = ul at hus ⊢
    generalize kbpsOrMbps sess.qos.ambrDLKbps sess.qos.ambrDLMbps = dl at hus ⊢
    unfold buildSessionAMBRCreateQER at hus ⊢
    by_cases h : ul > 0 ∧ dl > 0
    · rw [if_pos h] at hus ⊢
      cases hus
      rfl
    · rw [if_neg h] at hus ⊢
      cases hus
      rfl

/-! ## What the UE reads -/

def findElementWithin (layout : UInt8 → Layout) (iei : UInt8) : Nat → Bytes → Option Bytes
  | fuel + 1, iei' :: r => do
    let (value, rest) ← (layout iei').read r
    if iei' = iei then return value else findElementWithin layout iei fuel rest
  | _, _ => none

def findElement (layout : UInt8 → Layout) (iei : UInt8) (b : Bytes) : Option Bytes :=
  findElementWithin layout iei b.length b

def readSessionAMBR : Bytes → Option (Bytes × Bytes)
  | [] => none
  | _ :: r => do
    let (_, r) ← Layout.lve.read r
    Layout.lv.read r

/-- The number of Mbps in a unit and two octets. -/
def mbpsOf : Bytes → Option Nat
  | [0x06, hi, lo] => some (beNat hi lo)
  | _ => none

def announcedAMBR (d : Direction) (accept : Bytes) : Option Nat := do
  let (ambr, _) ← readSessionAMBR accept
  mbpsOf (d.pick (ambr.drop 3) (ambr.take 3))

def readFlowParams : Nat → Bytes → Option (List QoSFlowParam)
  | 0, [] => some []
  | n + 1, id :: r => do
    let (content, rest) ← Layout.lv.read r
    let params ← readFlowParams n rest
    return ⟨id, content⟩ :: params
  | _, _ => none

/-- The identifiers of the guaranteed and the maximum bit rate of a flow. -/
def Direction.flowParams (d : Direction) : List UInt8 :=
  d.pick [qosFlowParamGFBRUL, qosFlowParamMFBRUL] [qosFlowParamGFBRDL, qosFlowParamMFBRDL]

/-- The guaranteed and the maximum bit rate of the flow that a UE reads in an Accept, in Mbps. -/
def announcedFlowRates (d : Direction) (accept : Bytes) : Option (List Nat) := do
  let (_, r) ← readSessionAMBR accept
  match ← findElement acceptLayout ieiAuthorizedQoSFlowDesc r with
  | _ :: _ :: n :: params =>
    let params ← readFlowParams (n &&& 0x3F).toNat params
    (params.filter (·.id ∈ d.flowParams)).mapM fun p => mbpsOf p.content
  | _ => none

/-! ## Agreement -/

def bitRate (s : String) : Option UInt64 :=
  match parseBitRateKbps s with
  | (k, true) => some k
  | (_, false) => none

def acceptedRate (d : Direction) (config : Option DNNConfiguration)
    (answer : Option PolicyDecision) : Option UInt64 :=
  ((answer.bind (·.rate d)).bind bitRate).or (config.bind fun cfg => bitRate (cfg.rate d))

section Rates

variable (d : Direction)

def SmPolicyQoS.mbps (qos : SmPolicyQoS) : Int :=
  d.pick qos.ambrULMbps qos.ambrDLMbps

def SmPolicyQoS.kbps (qos : SmPolicyQoS) : UInt64 :=
  d.pick qos.ambrULKbps qos.ambrDLKbps

def SetupRequestTransfer.ambr (t : SetupRequestTransfer) : Int :=
  d.pick t.aggregateMaximumBitRateUL t.aggregateMaximumBitRateDL

def GBRQosInformation.rates (g : GBRQosInformation) : List Int :=
  d.pick [g.guaranteedFlowBitRateUL, g.maximumFlowBitRateUL]
    [g.guaranteedFlowBitRateDL, g.maximumFlowBitRateDL]

def mbrKbps (q : QERState) : UInt64 :=
  d.pick q.mbrULKbps q.mbrDLKbps

/-- A rate in Mbps, rounded up. -/
def ceilMbps (k : UInt64) : Nat := (k.toNat + 999) / 1000

/-- The UE, the gNB and the UPF of a session are given the rate `k`. -/
structure Carried (c : AcceptContext) (qos : SmPolicyQoS) (k : UInt64) : Prop where
  nas : announcedAMBR d (n1SmResp c qos) = some (ceilMbps k)
  nasFlow : is5QIGBR qos.fiveQI →
    announcedFlowRates d (n1SmResp c qos) = some [ceilMbps k, ceilMbps k]
  ngap : (n2SmInfo qos).ambr d = ceilMbps k * 1000000
  ngapFlow : is5QIGBR qos.fiveQI → ((n2SmInfo qos).gbrQosInformation.map (·.rates d)) =
    some [(ceilMbps k * 1000000 : Int), ceilMbps k * 1000000]
  pfcp : ∀ sess : Session, sess.qos = qos → ∃ qers q, installedQERs sess = .ok qers ∧
    qers.lookup sessionAMBRQERID = some q ∧ q.hasMBR = true ∧ mbrKbps d q = k

end Rates

/-! ### The rates of the policy -/

theorem parseAMBR_eq (s : String) (fbKbps : UInt64) (fbMbps : Int) : parseAMBR s fbKbps fbMbps =
      ((bitRate s).map fun k => (k, kbpsToMbps k)).getD (fbKbps, fbMbps) := by
  unfold parseAMBR bitRate
  rcases parseBitRateKbps s with ⟨k, ok⟩
  cases ok <;> rfl

theorem bitRate_le {s : String} (h : bitRate s = some k) : k.toNat ≤ 10 ^ 12 := by
  unfold bitRate at h
  split at h
  · rename_i hparse
    cases h
    exact parseBitRateKbps_le hparse
  · cases h

theorem kbpsToMbps_eq (h : k.toNat ≤ 10 ^ 12) : kbpsToMbps k = ceilMbps k := by
  unfold kbpsToMbps ceilMbps
  split_ifs with h0
  · rw [h0]
    rfl
  · rw [UInt64.toNat_div, UInt64.toNat_add]
    simp only [UInt64.reduceToNat, Nat.reducePow]
    rw [Nat.mod_eq_of_lt (by omega)]

theorem kbpsOrMbps_kbpsToMbps (h : k.toNat ≤ 10 ^ 12) : kbpsOrMbps k (kbpsToMbps k) = k := by
  unfold kbpsOrMbps
  by_cases h0 : k = 0
  · subst h0
    rfl
  · have hpos : 0 < k.toNat := by
      rw [Nat.pos_iff_ne_zero]
      exact fun h => h0 (UInt64.toNat_inj.mp h)
    have hmbps : ¬kbpsToMbps k ≤ 0 := by
      rw [kbpsToMbps_eq h, ceilMbps]
      omega
    rw [if_neg hmbps, if_pos ⟨UInt64.lt_iff_toNat_lt.mpr hpos, rfl⟩]

def ratesOf (rate : Option UInt64) : UInt64 × Int :=
  (rate.map fun k => (k, kbpsToMbps k)).getD (100000, 100)

theorem kbpsOrMbps_ratesOf {rate : Option UInt64} (h : ∀ k ∈ rate, k.toNat ≤ 10 ^ 12) :
    kbpsOrMbps (ratesOf rate).1 (ratesOf rate).2 = (ratesOf rate).1 := by
  cases rate with
  | none => decide
  | some k => exact kbpsOrMbps_kbpsToMbps (h k rfl)

theorem acceptedRate_le {d : Direction} {config : Option DNNConfiguration}
    {answer : Option PolicyDecision} (h : acceptedRate d config answer = some k) :
    k.toNat ≤ 10 ^ 12 := by
  rw [acceptedRate, or_eq_some_iff] at h
  rcases h with h | ⟨-, h⟩
  · obtain ⟨s, -, hs⟩ := bind_eq_some_iff.mp h
    exact bitRate_le hs
  · obtain ⟨cfg, -, hcfg⟩ := bind_eq_some_iff.mp h
    exact bitRate_le hcfg

theorem rates_fallbackQoS (dnn : String) (entries : List SMData) :
    ((fallbackQoS (fetchSubscribedQoS dnn entries)).kbps d,
      (fallbackQoS (fetchSubscribedQoS dnn entries)).mbps d) =
        ratesOf ((usedConfiguration dnn entries).bind fun cfg => bitRate (cfg.rate d)) := by
  unfold fetchSubscribedQoS
  cases usedConfiguration dnn entries with
  | none => cases d <;> rfl
  | some cfg =>
    have hcheck : ∀ s : String, (kbpsOrMbps (ratesOf (bitRate s)).1 (ratesOf (bitRate s)).2,
        (ratesOf (bitRate s)).2) = ratesOf (bitRate s) := fun s =>
      Prod.ext (kbpsOrMbps_ratesOf fun k hk => bitRate_le hk) rfl
    have hparse : ∀ s : String, parseAMBR s 100000 100 = ratesOf (bitRate s) := fun s =>
      parseAMBR_eq s 100000 100
    simp only [map_some, bind_some, hparse]
    cases d
    · exact hcheck cfg.uplink
    · exact hcheck cfg.downlink

theorem rates_createSMPolicy (dnn : String) (entries : List SMData)
    (answer : Option PolicyDecision) :
    ((createSMPolicy (fetchSubscribedQoS dnn entries) answer).kbps d,
      (createSMPolicy (fetchSubscribedQoS dnn entries) answer).mbps d) =
        ratesOf (acceptedRate d (usedConfiguration dnn entries) answer) := by
  have hfallback := rates_fallbackQoS d dnn entries
  have hdecided : ∀ (text : Option String) (fbKbps : UInt64) (fbMbps : Int) (rate : Option UInt64),
      (fbKbps, fbMbps) = ratesOf rate →
        decidedAMBR text fbKbps fbMbps = ratesOf ((text.bind bitRate).or rate) := by
    intro text fbKbps fbMbps rate hrate
    cases text with
    | none => exact hrate
    | some s =>
      rw [decidedAMBR, parseAMBR_eq, hrate, bind_some]
      cases bitRate s <;> rfl
  cases answer with
  | none => exact hfallback
  | some dec =>
    cases d
    · exact hdecided dec.uplink _ _ _ hfallback
    · exact hdecided dec.downlink _ _ _ hfallback

/-! ### To the UE -/

theorem mbpsOf_mbpsOctets (mbps : Nat) : mbpsOf (mbpsOctets mbps) = some (mbps % 65536) := by
  have hlow : ofInt mbps = ofNat (mbps % 65536) := by
    apply UInt8.toNat_inj.mp
    rw [UInt8.ofInt, UInt8.toNat_ofNat', UInt8.toNat_ofNat']
    omega
  have hhigh : ofInt ((mbps : Int) >>> (8 : Nat)) = ofNat (mbps % 65536 / 256) := by
    have hshift : (mbps : Int) >>> (8 : Nat) = (mbps / 256 : Nat) :=
      congrArg Int.ofNat (Nat.shiftRight_eq_div_pow mbps 8)
    apply UInt8.toNat_inj.mp
    rw [hshift, UInt8.ofInt, UInt8.toNat_ofNat', UInt8.toNat_ofNat']
    omega
  rw [mbpsOctets, hhigh, hlow, mbpsOf, beNat_be16 (by omega)]

theorem readSessionAMBR_encode (p : EstablishmentAcceptParams) :
    readSessionAMBR (encodeEstablishmentAcceptBody p) = some (buildSessionAMBR p.dlMbps p.ulMbps,
        p.optional.flatMap (Element.octets acceptLayout)) := by
  have hrules : Layout.lve.Admits p.written.qosRules := show 9 ≤ 65535 by omega
  have hambr : Layout.lv.Admits p.written.sessionAMBR := show 6 ≤ 255 by omega
  rw [encodeEstablishmentAcceptBody_eq, readSessionAMBR, Layout.read_encode hrules]
  exact Layout.read_encode hambr _

theorem findElementWithin_octets (hes : ∀ e ∈ es, e.iei ≠ iei ∧ (layout e.iei).Admits e.value)
    (hvalue : (layout iei).Admits value) (rest : List Element) {fuel : Nat}
    (hfuel : (es.flatMap (Element.octets layout)).length < fuel) : findElementWithin layout iei fuel
      ((es ++ ⟨iei, value⟩ :: rest).flatMap (Element.octets layout)) = some value := by
  obtain ⟨fuel, rfl⟩ : ∃ n, fuel = n + 1 := ⟨fuel - 1, by omega⟩
  induction es generalizing fuel with
  | nil =>
    rw [nil_append, flatMap_cons, Element.octets, cons_append, findElementWithin,
      Layout.read_encode hvalue]
    simp
  | cons e es ih =>
    obtain ⟨hne, hadmits⟩ := hes e mem_cons_self
    rw [flatMap_cons, length_append, Element.octets, length_cons] at hfuel
    obtain ⟨fuel, rfl⟩ : ∃ n, fuel = n + 1 := ⟨fuel - 1, by omega⟩
    rw [cons_append, flatMap_cons, Element.octets, cons_append,
      findElementWithin, Layout.read_encode hadmits]
    simp only [bind_eq_bind, bind_some, if_neg hne]
    exact ih (fun e' he' => hes e' (mem_cons_of_mem _ he')) fuel (by omega)

theorem findElement_octets (hes : ∀ e ∈ es, e.iei ≠ iei ∧ (layout e.iei).Admits e.value)
    (hvalue : (layout iei).Admits value) (rest : List Element) :
    findElement layout iei ((es ++ ⟨iei, value⟩ :: rest).flatMap (Element.octets layout)) =
      some value := by
  refine findElementWithin_octets hes hvalue rest ?_
  rw [flatMap_append, flatMap_cons, length_append, length_append, Element.octets, length_cons]
  omega

theorem readFlowParams_octets {params : List QoSFlowParam}
    (h : ∀ p ∈ params, p.content.length ≤ 255) :
    readFlowParams params.length (params.flatMap QoSFlowParam.octets) = some params := by
  induction params with
  | nil => rfl
  | cons p params ih =>
    have hlen : Layout.lv.Admits p.content := h p mem_cons_self
    have hread : Layout.lv.read (ofNat p.content.length :: (p.content ++
        params.flatMap QoSFlowParam.octets)) = some (p.content, _) := Layout.read_encode hlen _
    simp only [flatMap_cons, QoSFlowParam.octets, cons_append, nil_append,
      length_cons, readFlowParams, hread, bind_eq_bind, bind_some,
      ih fun p' hp' => h p' (mem_cons_of_mem _ hp')]
    rfl

theorem announcedAMBR_encode (p : EstablishmentAcceptParams) :
    announcedAMBR d (encodeEstablishmentAcceptBody p) =
      mbpsOf (mbpsOctets (d.pick p.ulMbps p.dlMbps)) := by
  rw [announcedAMBR, readSessionAMBR_encode]
  cases d <;> rfl

theorem exists_optional_split (heap : p.eapMessage = []) (hfive : 0 < p.fiveQI) :
    ∃ es rest, p.optional = es ++ ⟨ieiAuthorizedQoSFlowDesc,
        buildQoSFlowDescriptions p.qfi p.fiveQI p.ulMbps p.dlMbps⟩ :: rest ∧
      ∀ e ∈ es, e.iei ≠ ieiAuthorizedQoSFlowDesc ∧ (acceptLayout e.iei).Admits e.value := by
  simp only [EstablishmentAcceptParams.optional, heap, length_nil, Nat.lt_irrefl, if_false,
    if_pos hfive, append_nil, append_assoc, cons_append, nil_append]
  rw [← append_assoc, ← append_assoc]
  refine ⟨_, _, rfl, ?_⟩
  have haddr := length_buildPDUAddressIE_le p.addr
  simp only [forall_mem_append]
  refine ⟨⟨?_, ?_⟩, fun e he => ?_⟩
  · split
    · simp only [forall_mem_singleton]
      exact ⟨by decide, rfl⟩
    · simp
  · split
    · simp only [forall_mem_singleton]
      exact ⟨by decide, show (buildPDUAddressIE p.addr).length ≤ 255 by omega⟩
    · simp
  · obtain ⟨hiei, hadmits⟩ := admits_snssaiElement p.snssai e he
    exact ⟨by rw [hiei]; decide, hadmits⟩

theorem announcedFlowRates_encode (heap : p.eapMessage = []) (hgbr : is5QIGBR p.fiveQI) :
    announcedFlowRates d (encodeEstablishmentAcceptBody p) =
      (mbpsOf (mbpsOctets (d.pick p.ulMbps p.dlMbps))).map fun r => [r, r] := by
  have hfive : 0 < p.fiveQI := by
    rw [UInt8.pos_iff_ne_zero]
    intro h
    rw [h] at hgbr
    exact absurd hgbr (by decide)
  obtain ⟨es, rest, hoptional, hes⟩ := exists_optional_split heap hfive
  have hdesc := length_buildQoSFlowDescriptions_le p.qfi p.fiveQI p.ulMbps p.dlMbps
  have hadmits : (acceptLayout ieiAuthorizedQoSFlowDesc).Admits
      (buildQoSFlowDescriptions p.qfi p.fiveQI p.ulMbps p.dlMbps) :=
    show _ ≤ 65535 by omega
  have hparams : ∀ q ∈ qosFlowParams p.fiveQI p.ulMbps p.dlMbps, q.content.length ≤ 255 := by
    rw [qosFlowParams, if_pos hgbr]
    simp [mbpsOctets]
  have hread := readFlowParams_octets hparams
  rw [announcedFlowRates, readSessionAMBR_encode, hoptional]
  simp only [bind_eq_bind, bind_some, findElement_octets hes hadmits rest]
  have hcount : (qosFlowParams p.fiveQI p.ulMbps p.dlMbps).length = 5 := by
    rw [qosFlowParams, if_pos hgbr]
    rfl
  rw [buildQoSFlowDescriptions, buildQoSFlowDescription, hcount]
  rw [hcount] at hread
  show (readFlowParams 5 ((qosFlowParams p.fiveQI p.ulMbps p.dlMbps).flatMap
    QoSFlowParam.octets)).bind _ = _
  rw [hread, bind_some, qosFlowParams, if_pos hgbr]
  have hpair : ∀ (gfbr mfbr : UInt8) (rate : Bytes),
      [(⟨gfbr, rate⟩ : QoSFlowParam), ⟨mfbr, rate⟩].mapM (fun q => mbpsOf q.content) =
        (mbpsOf rate).map fun r => [r, r] := by
    intro gfbr mfbr rate
    simp only [mapM_cons, mapM_nil]
    cases mbpsOf rate <;> rfl
  cases d
  · exact hpair qosFlowParamGFBRUL qosFlowParamMFBRUL (mbpsOctets p.ulMbps)
  · exact hpair qosFlowParamGFBRDL qosFlowParamMFBRDL (mbpsOctets p.dlMbps)

/-! ### To the gNB -/

theorem ceilMbps_le (h : k.toNat ≤ 10 ^ 12) : ceilMbps k ≤ 10 ^ 9 := by
  unfold ceilMbps
  omega

theorem bitsPerSecond_eq {mbps : Nat} (h : mbps ≤ 10 ^ 9) :
    bitsPerSecond mbps = mbps * 1000000 := by
  rw [bitsPerSecond, Int.bmod_eq_of_le]
  · omega
  · omega

/-! ### To the UPF -/

theorem mbrField_eq (h : k.toNat ≤ 10 ^ 12) : mbrField k = k := by
  apply UInt64.toNat_inj.mp
  rw [mbrField, UInt64.toNat_mod]
  exact Nat.mod_eq_of_lt (by simp only [UInt64.reduceToNat]; omega)

theorem installedQERs_sessionAMBR (sess : Session) :
    ∃ qers q, installedQERs sess = .ok qers ∧ qers.lookup sessionAMBRQERID = some q ∧
      (q.hasMBR = true ↔ 0 < (sessionAMBRKbps sess).1 ∧ 0 < (sessionAMBRKbps sess).2) ∧
      (q.hasMBR = true → q.mbrULKbps = mbrField (sessionAMBRKbps sess).1 ∧
        q.mbrDLKbps = mbrField (sessionAMBRKbps sess).2) := by
  unfold installedQERs
  generalize sessionAMBRKbps sess = ambr
  obtain ⟨ul, dl⟩ := ambr
  dsimp only
  unfold buildSessionAMBRCreateQER
  by_cases h : ul > 0 ∧ dl > 0
  · rw [if_pos h]
    exact ⟨_, _, rfl, rfl, iff_of_true rfl h, fun _ => ⟨rfl, rfl⟩⟩
  · rw [if_neg h]
    exact ⟨_, _, rfl, rfl, iff_of_false (by decide) h, nofun⟩

/-! ### To all three -/

section Carried

variable {d : Direction} {qos : SmPolicyQoS} {k k' : UInt64}

theorem n1SmResp_carries (c : AcceptContext) (hmbps : qos.mbps d = ceilMbps k) :
    announcedAMBR d (n1SmResp c qos) = some (ceilMbps k % 65536) ∧
      (is5QIGBR qos.fiveQI → announcedFlowRates d (n1SmResp c qos) =
        some [ceilMbps k % 65536, ceilMbps k % 65536]) := by
  have hrate : mbpsOf (mbpsOctets (d.pick qos.ambrULMbps qos.ambrDLMbps)) =
      some (ceilMbps k % 65536) := by
    rw [show d.pick qos.ambrULMbps qos.ambrDLMbps = (ceilMbps k : Int) from hmbps]
    exact mbpsOf_mbpsOctets _
  constructor
  · rw [n1SmResp, announcedAMBR_encode]
    exact hrate
  · intro hgbr
    rw [n1SmResp, announcedFlowRates_encode d rfl hgbr, hrate]
    rfl

theorem n2SmInfo_carries (hk : k.toNat ≤ 10 ^ 12) (hmbps : qos.mbps d = ceilMbps k) :
    (n2SmInfo qos).ambr d = ceilMbps k * 1000000 ∧
      (is5QIGBR qos.fiveQI → ((n2SmInfo qos).gbrQosInformation.map (·.rates d)) =
        some [(ceilMbps k * 1000000 : Int), ceilMbps k * 1000000]) := by
  have hbps := bitsPerSecond_eq (ceilMbps_le hk)
  rw [← hmbps] at hbps ⊢
  constructor
  · cases d <;> exact hbps
  · intro hgbr
    rw [n2SmInfo, buildPDUSessionResourceSetupRequestTransfer, if_pos hgbr, ← hbps]
    cases d <;> rfl

theorem pfcp_carries_iff (hk : k.toNat ≤ 10 ^ 12) (hpos : 0 < k)
    (hself : kbpsOrMbps (qos.kbps d) (qos.mbps d) = k)
    (hother : kbpsOrMbps (qos.kbps d.other) (qos.mbps d.other) = k') :
    (∀ sess : Session, sess.qos = qos → ∃ qers q, installedQERs sess = .ok qers ∧
      qers.lookup sessionAMBRQERID = some q ∧ q.hasMBR = true ∧ mbrKbps d q = k) ↔ k' ≠ 0 := by
  have hsent : ∀ sess : Session, sess.qos = qos →
      sessionAMBRKbps sess = (d.pick k k', d.pick k' k) := by
    intro sess hsess
    rw [sessionAMBRKbps, hsess, ← hself, ← hother]
    cases d <;> rfl
  have hboth : (0 < d.pick k k' ∧ 0 < d.pick k' k) ↔ k' ≠ 0 := by
    rw [← UInt64.pos_iff_ne_zero]
    cases d
    · exact and_iff_right hpos
    · exact and_iff_left hpos
  constructor
  · intro h
    obtain ⟨qers, q, hqers, hq, hmbr, -⟩ := h { qos := qos } rfl
    obtain ⟨qers', q', hqers', hq', hmbr', -⟩ := installedQERs_sessionAMBR { qos := qos }
    rw [hqers, Except.ok.injEq] at hqers'
    rw [← hqers', hq, some.injEq] at hq'
    rw [← hq', hsent _ rfl, hboth] at hmbr'
    exact hmbr'.mp hmbr
  · intro h sess hsess
    obtain ⟨qers, q, hqers, hq, hmbr, hrates⟩ := installedQERs_sessionAMBR sess
    rw [hsent sess hsess, hboth] at hmbr
    rw [hsent sess hsess] at hrates
    obtain ⟨hul, hdl⟩ := hrates (hmbr.mpr h)
    refine ⟨qers, q, hqers, hq, hmbr.mpr h, ?_⟩
    rw [← mbrField_eq hk]
    cases d
    · exact hul
    · exact hdl

end Carried

/-- The UE, the gNB and the UPF are given the rate that was accepted exactly up to the 65535 Mbps
that have room in two octets, if the rate of the other direction was not accepted as zero. -/
theorem sessionAMBR_carried_iff (c : AcceptContext) (d : Direction) (dnn : String)
    (entries : List SMData) (answer : Option PolicyDecision) {k : UInt64}
    (hk : acceptedRate d (usedConfiguration dnn entries) answer = some k) (hpos : 0 < k) :
    Carried d c (createSMPolicy (fetchSubscribedQoS dnn entries) answer) k ↔
      k ≤ 65535000 ∧ acceptedRate d.other (usedConfiguration dnn entries) answer ≠ some 0 := by
  have hle := acceptedRate_le hk
  have hrates := rates_createSMPolicy d dnn entries answer
  have hothers := rates_createSMPolicy d.other dnn entries answer
  have hbound : ∀ k' ∈ acceptedRate d.other (usedConfiguration dnn entries) answer,
      k'.toNat ≤ 10 ^ 12 := fun k' hk' => acceptedRate_le hk'
  generalize createSMPolicy (fetchSubscribedQoS dnn entries) answer = qos at hrates hothers ⊢
  generalize acceptedRate d.other (usedConfiguration dnn entries) answer = rate
    at hothers hbound ⊢
  have hother := kbpsOrMbps_ratesOf hbound
  rw [hk] at hrates
  obtain ⟨hkbps, hmbps⟩ := Prod.mk.inj hrates
  rw [← hothers] at hother
  have hself : kbpsOrMbps (qos.kbps d) (qos.mbps d) = k := by
    rw [hkbps, hmbps]
    exact kbpsOrMbps_kbpsToMbps hle
  rw [kbpsToMbps_eq hle] at hmbps
  have hnas := n1SmResp_carries c hmbps
  have hngap := n2SmInfo_carries hle hmbps
  have hpfcp := pfcp_carries_iff hle hpos hself hother
  have hroom : ceilMbps k % 65536 = ceilMbps k ↔ k ≤ 65535000 := by
    rw [UInt64.le_iff_toNat_le, ceilMbps]
    simp only [UInt64.reduceToNat]
    omega
  have hzero : qos.kbps d.other ≠ 0 ↔ rate ≠ some 0 := by
    rw [show qos.kbps d.other = (ratesOf rate).1 from (Prod.mk.inj hothers).1]
    cases rate with
    | none => decide
    | some k' => simp [ratesOf]
  rw [← hroom, ← hzero]
  constructor
  · intro h
    exact ⟨some.inj (hnas.1.symm.trans h.nas), hpfcp.mp h.pfcp⟩
  · rintro ⟨hfits, hother⟩
    rw [hfits] at hnas
    exact ⟨hnas.1, hnas.2, hngap.1, hngap.2, hpfcp.mpr hother⟩

def internetContext : AcceptContext where
  grantedType := Smf.pduSessionTypeIPv4
  ip := some [10, 60, 0, 1]
  v6IID := []
  dnn := [0x69, 0x6E, 0x74, 0x65, 0x72, 0x6E, 0x65, 0x74]
  dns := [[8, 8, 8, 8]]
  snssai := { sst := 1, sd := 1 }
  pduReq := none

theorem sessionAMBR_carried_gigabit : ∃ k, acceptedRate .uplink (usedConfiguration "internet" [])
        (some { uplink := some "1.5 Gbps", downlink := some "100 Mbps" }) = some k ∧ 0 < k ∧
      Carried .uplink internetContext (createSMPolicy (fetchSubscribedQoS "internet" [])
        (some { uplink := some "1.5 Gbps", downlink := some "100 Mbps" })) k := by
  have hk : acceptedRate .uplink (usedConfiguration "internet" [])
      (some { uplink := some "1.5 Gbps", downlink := some "100 Mbps" }) = some 1500000 := by
    decide +kernel
  refine ⟨1500000, hk, by decide, ?_⟩
  refine (sessionAMBR_carried_iff internetContext .uplink "internet" [] _ hk (by decide)).mpr ?_
  decide +kernel

/-- Of 1 Tbps, the UE is told 16960 Mbps, the gNB 1000000 Mbps and the UPF 1000000000 kbps. -/
theorem terabit_announced_as_17_gigabit :
    let answer : PolicyDecision := { uplink := some "1 Tbps", downlink := some "1 Tbps" }
    let qos := createSMPolicy (fetchSubscribedQoS "internet" []) (some answer)
    acceptedRate .uplink (usedConfiguration "internet" []) (some answer) = some 1000000000 ∧
      announcedAMBR .uplink (n1SmResp internetContext qos) = some 16960 ∧
      (n2SmInfo qos).ambr .uplink = 1000000 * 1000000 ∧
      ∃ qers q, installedQERs { qos := qos } = .ok qers ∧
        qers.lookup sessionAMBRQERID = some q ∧ q.mbrULKbps = 1000000000 := by
  have hqos : createSMPolicy (fetchSubscribedQoS "internet" [])
      (some { uplink := some "1 Tbps", downlink := some "1 Tbps" }) =
        { fiveQI := 9, ambrULMbps := 1000000, ambrDLMbps := 1000000, ambrULKbps := 1000000000,
          ambrDLKbps := 1000000000 } := by
    decide +kernel
  refine ⟨by decide +kernel, ?_, ?_, ?_⟩
  · rw [hqos]
    decide +kernel
  · rw [hqos]
    decide +kernel
  · rw [hqos]
    exact ⟨_, _, rfl, rfl, by decide +kernel⟩

end Claudia5gc.Smf
