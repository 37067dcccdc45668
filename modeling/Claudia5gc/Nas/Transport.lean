import Claudia5gc.Go.Hex
import Claudia5gc.Nas.Ie

/-!
# Service and transport messages

The decoders of SERVICE REQUEST, SERVICE ACCEPT and UL NAS TRANSPORT.
-/

namespace Claudia5gc.Nas

open Go Proc List

/-! ## Service Request -/

structure ServiceRequest where
  serviceType : UInt8
  ngksi : NGKSI
  tmsi : UInt32 := 0
  uplinkDataStatus : Option UInt16 := none
  pduSessionStatus : Option UInt16 := none
  deriving DecidableEq

/-- A value with a two-octet length, errors returned. -/
def requireLVE : Proc Reader Bytes := do
  let hi ← readByte
  let lo ← readByte
  readBytes (beNat hi lo)

def containedServiceRequest : Bytes → Option Bytes
  | epd :: _ :: msgType :: b :: rest =>
    if epd = 0x7E ∧ msgType = 0x4C then some (b :: rest) else none
  | _ => none

/-- The branches over the optional elements of a Service Request.  `inner` is
the call of the decoder to itself. -/
def serviceRequestIE (inner : Bytes → Outcome ServiceRequest) (iei : UInt8)
    (r : ServiceRequest) : Proc Reader (Ctl ServiceRequest) :=
  if iei = 0x71 then do
    match ← requireLVE.attempt with
    | .error _ => return .done r
    | .ok val =>
      match containedServiceRequest val with
      | none => return .next r
      | some body =>
        match ← (lift (inner body)).attempt with
        | .error _ => return .next r
        | .ok i =>
          return .next { r with
            uplinkDataStatus := i.uplinkDataStatus <|> r.uplinkDataStatus
            pduSessionStatus := i.pduSessionStatus <|> r.pduSessionStatus }
  else do
    match ← requireLV.attempt with
    | .error _ => return .done r
    | .ok (b0 :: b1 :: _) =>
      if iei = 0x40 then return .next { r with uplinkDataStatus := some (beUInt16 b0 b1) }
      else if iei = 0x50 then
        return .next { r with pduSessionStatus := some (beUInt16 b0 b1) }
      else return .next r
    | .ok _ => return .next r

def serviceRequestBody (inner : Bytes → Outcome ServiceRequest) : Proc Reader ServiceRequest := do
  let combined ← readByte
  let tmsi ← match ← requireLVE.attempt with
    | .ok (_ :: _ :: _ :: t0 :: t1 :: t2 :: t3 :: _) => pure (beUInt32 t0 t1 t2 t3)
    | _ => pure 0
  forEachIE 2 (serviceRequestIE inner) {
    serviceType := (combined >>> 4) &&& 0x0F
    ngksi := { keySetIdentifier := combined &&& 0x07
               type := (combined >>> 3) &&& 0x01 }
    tmsi }

def decodeServiceRequestN : Nat → Bytes → Outcome ServiceRequest
  | 0, _ => .hang
  | calls + 1, b =>
    let len := b.length
    if len < 1 then .err (.new s!"nas: ServiceRequest too short: {len} bytes")
    else ((serviceRequestBody (decodeServiceRequestN calls)).run b).1

variable (b : Bytes)

def decodeServiceRequest : Outcome ServiceRequest :=
  decodeServiceRequestN (b.length + 1) b

theorem length_containedServiceRequest {val body : Bytes}
    (h : containedServiceRequest val = some body) : body.length < val.length := by
  unfold containedServiceRequest at h
  split at h
  · split at h
    · cases h
      simp only [length_cons]
      omega
    · cases h
  · cases h

theorem forward_requireLVE : Forward requireLVE :=
  forward_readByte.bind fun _ => forward_readByte.bind fun _ => forward_readBytes _

theorem requireLVE_length {r r' v : Bytes} (h : requireLVE.run r = (.ok v, r')) :
    v.length ≤ r.length := by
  match r with
  | [] => cases h
  | [_] => cases h
  | hi :: lo :: r =>
    rw [requireLVE, run_bind_ok (run_readByte_cons hi _), run_bind_ok (run_readByte_cons lo _)] at h
    rcases Nat.lt_or_ge r.length (beNat hi lo) with hlt | hge
    · obtain ⟨e, he⟩ := run_readBytes_of_lt hlt
      rw [he] at h
      cases h
    · rw [run_readBytes_of_le hge] at h
      cases h
      simp only [length_take, length_cons]
      omega

theorem safe_serviceRequestIE {inner : Bytes → Outcome ServiceRequest} {n : Nat}
    (hinner : ∀ b, b.length < n → (inner b).Returns) (iei : UInt8) (m : ServiceRequest)
    {r : Bytes} (hr : r.length < n) :
    (serviceRequestIE inner iei m).Safe r fun _ r' => NoLonger r r' := by
  unfold serviceRequestIE
  split
  · refine forward_requireLVE.attempt.safe_bind fun o r' hrun => ?_
    cases o with
    | error e => simp
    | ok val =>
      have hval := requireLVE_length (run_of_attempt_ok hrun)
      dsimp only
      split
      · simp
      · rename_i body hbody
        have hshort := length_containedServiceRequest hbody
        have hret := hinner body (by omega)
        rw [safe_bind]
        refine safe_attempt hret (fun i s' h => ?_) fun e s' h => ?_
        · obtain ⟨-, rfl⟩ := Prod.mk.inj h
          exact Nat.le_refl _
        · obtain ⟨-, rfl⟩ := Prod.mk.inj h
          exact Nat.le_refl _
  · refine forward_requireLV.attempt.safe_bind fun o r' _ => ?_
    split
    · simp
    · split
      · simp
      · split <;> simp
    · simp

theorem returns_serviceRequestBody {inner : Bytes → Outcome ServiceRequest} {n : Nat}
    (hinner : ∀ b, b.length < n → (inner b).Returns) {b : Bytes} (hb : b.length ≤ n) :
    ((serviceRequestBody inner).run b).1.Returns := by
  cases b with
  | nil => trivial
  | cons c r =>
    rw [serviceRequestBody, run_bind_ok (run_readByte_cons c r), run_bind]
    obtain ⟨hret, hle⟩ := forward_requireLVE.attempt r
    rcases hrun : requireLVE.attempt.run r with ⟨o, r'⟩
    rw [hrun] at hret hle
    have hr' : r'.length ≤ n := by
      simp only [NoLonger, length_cons] at hle hb
      omega
    cases o with
    | ok v =>
      dsimp only
      split
      all_goals
        exact returns_forEachIE_of_le Nat.two_pos
          (fun iei m r hr => safe_serviceRequestIE hinner iei m hr) _ hr'
    | err e => trivial
    | panic | hang => exact hret

theorem returns_decodeServiceRequestN (calls : Nat) :
    ∀ b : Bytes, b.length < calls → (decodeServiceRequestN calls b).Returns := by
  induction calls with
  | zero =>
    intro b hb
    omega
  | succ calls ih =>
    intro b hb
    rw [decodeServiceRequestN]
    split
    · trivial
    · exact returns_serviceRequestBody ih (by omega)

theorem returns_decodeServiceRequest : (decodeServiceRequest b).Returns :=
  returns_decodeServiceRequestN _ b (Nat.lt_succ_self _)

/-! ## Service Accept -/

structure ServiceAccept where
  pduSessionStatus : Option UInt16 := none
  pduSessionReactivationResult : Option UInt16 := none
  deriving DecidableEq

/-- The length octets of an element of a Service Accept: two for the
reactivation result error cause and the EAP message, one for the others. -/
def serviceAcceptLength (iei : UInt8) : Proc Reader Nat := do
  let text := sprint02X iei
  if iei = 0x72 ∨ iei = 0x78 then
    let hi ← readByte.attempt
    let lo ← readByte.attempt
    match hi, lo with
    | .ok hi, .ok lo => return beNat hi lo
    | _, _ =>
      fail (.new s!"nas: ServiceAccept: truncated TLV-E length (IEI 0x{text})")
  else
    match ← readByte.attempt with
    | .ok l => return l.toNat
    | .error _ =>
      fail (.new s!"nas: ServiceAccept: truncated length (IEI 0x{text})")

def serviceAcceptIE (iei : UInt8) (a : ServiceAccept) : Proc Reader (Ctl ServiceAccept) := do
  let n ← serviceAcceptLength iei
  let text := sprint02X iei
  let val ← (readBytes n).wrapErr s!"nas: ServiceAccept: truncated IE 0x{text}"
  match val with
  | b0 :: b1 :: _ =>
    if iei = 0x50 then return .next { a with pduSessionStatus := some (beUInt16 b0 b1) }
    else if iei = 0x26 then
      return .next { a with pduSessionReactivationResult := some (beUInt16 b0 b1) }
    else return .next a
  | _ => return .next a

def decodeServiceAccept : Outcome ServiceAccept :=
  ((forEachIE 2 serviceAcceptIE {}).run b).1

theorem forward_serviceAcceptLength (iei : UInt8) : Forward (serviceAcceptLength iei) := by
  refine .ite (fun _ => ?_) fun _ => ?_
  · refine forward_readByte.attempt.bind fun hi => forward_readByte.attempt.bind fun lo => ?_
    cases hi <;> cases lo <;> first | exact .pure _ | exact .fail _
  · refine forward_readByte.attempt.bind fun l => ?_
    cases l with
    | ok l => exact .pure _
    | error e => exact .fail _

theorem forward_serviceAcceptIE (iei : UInt8) (a : ServiceAccept) :
    Forward (serviceAcceptIE iei a) := by
  refine (forward_serviceAcceptLength iei).bind fun n =>
    ((forward_readBytes n).wrapErr _).bind fun val => ?_
  split
  · exact .ite (fun _ => .pure _) fun _ => .ite (fun _ => .pure _) fun _ => .pure _
  · exact .pure _

theorem returns_decodeServiceAccept : (decodeServiceAccept b).Returns :=
  (forward_forEachIE Nat.two_pos forward_serviceAcceptIE _ b).1

/-! ## UL NAS Transport -/

structure SNSSAITransport where
  sst : UInt8
  sd : Option UInt32
  deriving DecidableEq

/-- `ULNASTransport`.  The DNN is a Go string made of octets from the radio, which
need not be UTF-8. -/
structure ULNASTransport where
  payloadContainerType : UInt8
  payloadContainer : Bytes
  pduSessionID : Option UInt8 := none
  requestType : Option UInt8 := none
  snssai : Option SNSSAITransport := none
  dnn : Option Bytes := none
  deriving DecidableEq

/-- One iteration of the label loop of `decodeAPN`; the state is `i`. -/
def apnLabel (labels : List Bytes) : Proc Nat (Ctl (List Bytes)) := do
  let l := (← lift (index b (← get))).toNat
  modify (· + 1)
  let i ← get
  if l = 0 ∨ b.length < i + l then return .done labels else
  let label ← lift (slice b i (i + l))
  modify (· + l)
  return .next (labels ++ [label])

def joinLabels (labels : List Bytes) : Bytes := intercalate [0x2E] labels

def decodeAPN : Outcome Bytes := do
  if b.length = 0 then return [] else
  if 0x20 ≤ (← index b 0) then return b else
  let labels ←
    ((loop (fun i => decide (i < b.length)) (apnLabel b) b.length []).run 0).1
  if labels.length = 0 then return b else return joinLabels labels

def ieiPDUSessionID : UInt8 := 0x12
def ieiSNSSAITransport : UInt8 := 0x22
def ieiDNN : UInt8 := 0x25

/-- The S-NSSAI of an UL NAS Transport, behind its IEI.  Lengths from one to
eight are let through. -/
def ulNASTransportSNSSAI : Proc Reader SNSSAITransport := do
  let lenByte ← readByte.orZero 0
  if lenByte < 1 ∨ 8 < lenByte then fail (.new "nas: SNSSAI length invalid") else
  let val ← (readBytes lenByte.toNat).wrapErr "nas: SNSSAI truncated"
  let sst ← lift (index val 0)
  let sd := match val with
    | _ :: b1 :: b2 :: b3 :: _ => some (sdOfBytes b1 b2 b3)
    | _ => none
  return { sst, sd }

/-- The branches over the optional elements of an UL NAS Transport.  They are
entered with the IEI not yet read. -/
def ulNASTransportIE (msg : ULNASTransport) : Proc Reader (Ctl ULNASTransport) := do
  match ← peekByte.attempt with
  | .error err => if err = eof then return .done msg else fail err
  | .ok iei =>
    if iei &&& 0xF0 = 0x80 then
      let _ ← readByte.orZero 0
      return .next { msg with requestType := some (iei &&& 0x0F) }
    else if iei = ieiPDUSessionID then
      let _ ← readByte.orZero 0
      let psi ← readByte.orZero 0
      return .next { msg with pduSessionID := some psi }
    else if iei = ieiSNSSAITransport then
      let _ ← readByte.orZero 0
      let snssai ← ulNASTransportSNSSAI
      return .next { msg with snssai := some snssai }
    else if iei = ieiDNN then
      let _ ← readByte.orZero 0
      let dnnBytes ← readLV
      let dnnStr ← lift (decodeAPN dnnBytes)
      return .next { msg with dnn := some dnnStr }
    else
      let _ ← readByte.orZero 0
      if 0 < (← get).length then
        let lenByte ← readByte.orZero 0
        if 0 < lenByte ∧ lenByte.toNat ≤ (← get).length then
          let _ ← (readBytes lenByte.toNat).orZero []
          return .next msg
        else return .next msg
      else return .next msg

def ulNASTransportBody : Proc Reader ULNASTransport := do
  let pctByte ← readByte.orZero 0
  let hi ← readByte.orZero 0
  let lo ← readByte.orZero 0
  let containerLen := beNat hi lo
  if (← get).length < containerLen then
    fail (.new "nas: payload container length invalid")
  else
  let payloadContainer ← (readBytes containerLen).orZero []
  loop (fun r => decide (0 < r.length)) ulNASTransportIE
    (← get).length { payloadContainerType := pctByte, payloadContainer }

def decodeULNASTransport : Outcome ULNASTransport :=
  if b.length < 3 then .err (.new "nas: UL NAS Transport too short")
  else (ulNASTransportBody.run b).1

theorem returns_decodeAPN : (decodeAPN b).Returns := by
  have hloop : ((loop (fun i => decide (i < b.length)) (apnLabel b) b.length []).run
      0).1.Returns := by
    refine Proc.Safe.returns (Q := fun _ _ => True) <|
      safe_loop (fun _ _ => True) (fun i => b.length - i) ?_
        (fun _ _ _ _ => trivial) ?_ _ _ _ (Nat.sub_le _ _) trivial
    · intro i hi
      simp only [decide_eq_true_eq] at hi
      omega
    · intro labels i _ hi
      simp only [decide_eq_true_eq] at hi
      simp only [apnLabel, safe_bind, safe_get, index_of_lt hi]
      refine safe_lift trivial fun l _ => ?_
      refine safe_ite (fun _ => trivial) fun hl => ?_
      rw [safe_bind, slice_of_le (by omega) (by omega)]
      exact ⟨by dsimp only; omega, trivial⟩
  rw [decodeAPN]
  split
  · trivial
  · rw [index_of_lt (by omega), Outcome.ok_bind]
    split
    · trivial
    · refine hloop.bind fun labels _ => ?_
      split <;> trivial

theorem safe_ulNASTransportSNSSAI (r : Bytes) :
    ulNASTransportSNSSAI.Safe r fun _ r' => NoLonger r r' := by
  refine (forward_readByte.orZero 0).safe_bind fun lenByte r' _ => ?_
  refine safe_ite (fun _ => trivial) fun hlen => ?_
  have hpos : 0 < lenByte.toNat := by
    have h1 : 1 ≤ lenByte := UInt8.not_lt.mp fun h => hlen (.inl h)
    exact UInt8.le_iff_toNat_le.mp h1
  rw [safe_bind, safe_wrapErr]
  refine safe_readBytes fun hge => ?_
  have hne : 0 < (r'.take lenByte.toNat).length := by
    rw [length_take]
    omega
  rw [safe_bind, index_of_lt hne]
  show (r'.drop lenByte.toNat).length ≤ r'.length
  rw [length_drop]
  omega

theorem safe_ulNASTransportIE (msg : ULNASTransport) (iei : UInt8) (r : Bytes) :
    (ulNASTransportIE msg).Safe (iei :: r) fun _ r' => NoLonger r r' := by
  have hbyte : (readByte.orZero 0).run (iei :: r) = (.ok iei, r) := rfl
  refine safe_ite (fun _ => ?_) fun _ => safe_ite (fun _ => ?_) fun _ =>
    safe_ite (fun _ => ?_) fun _ => safe_ite (fun _ => ?_) fun _ => ?_
  all_goals rw [safe_bind_ok hbyte]
  · simp
  · exact (((forward_readByte.orZero 0).bind fun _ => .pure _) : Forward _).safe r
  · rw [safe_bind]
    exact (safe_ulNASTransportSNSSAI r).mono fun _ _ h => h
  · have hdnn : Forward (readLV >>= fun v => lift (decodeAPN v) >>= fun dnnStr =>
        pure (Ctl.next { msg with dnn := some dnnStr })) :=
      forward_readLV.bind fun v =>
        (Proc.Total.lift (returns_decodeAPN v)).bind fun _ => .pure _
    exact hdnn.safe r
  · refine safe_ite (fun _ => ?_) fun _ => by simp
    refine (forward_readByte.orZero 0).safe_bind fun lenByte r' _ => ?_
    refine safe_ite (fun _ => ?_) fun _ => by simp
    exact ((((forward_readBytes _).orZero []).bind fun _ => .pure _) : Forward _).safe r'

theorem returns_decodeULNASTransport : (decodeULNASTransport b).Returns := by
  have hloop : ∀ (msg : ULNASTransport) (r : Bytes),
      ((loop (fun r : Reader => decide (0 < r.length)) ulNASTransportIE r.length
        msg).Safe r fun _ _ => True) := by
    intro msg r
    refine safe_loop (fun _ _ => True) length (fun s hs => by simpa using hs)
      (fun _ _ _ _ => trivial) ?_ _ _ _ (Nat.le_refl _) trivial
    intro msg s _ hs
    cases s with
    | nil => simp at hs
    | cons iei s =>
      refine (safe_ulNASTransportIE msg iei s).mono fun c s' hs' => ?_
      cases c with
      | next _ => exact ⟨Nat.lt_succ_of_le hs', trivial⟩
      | done _ => trivial
  rw [decodeULNASTransport]
  split
  · trivial
  · refine Proc.Safe.returns (Q := fun _ _ => True) ?_
    simp only [ulNASTransportBody, safe_bind]
    refine ((forward_readByte.orZero 0).safe _).mono fun _ _ _ => ?_
    refine ((forward_readByte.orZero 0).safe _).mono fun _ _ _ => ?_
    refine ((forward_readByte.orZero 0).safe _).mono fun _ _ _ => ?_
    refine safe_ite (fun _ => trivial) fun _ => ?_
    rw [safe_bind]
    refine (((forward_readBytes _).orZero []).safe _).mono fun _ _ _ => ?_
    exact hloop _ _

end Claudia5gc.Nas
