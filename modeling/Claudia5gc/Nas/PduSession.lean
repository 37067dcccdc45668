import Claudia5gc.Nas.AuthSecurity

/-!
# The PDU Session Establishment Request

The 5GSM decoder, which runs in the SMF on what a UE sends.  Three lengths are nested in it: the one
of the extended protocol configuration options, the ones of the containers in them, and the one that
an IPCP packet in container 0x8021 declares for itself.
-/

namespace Claudia5gc.Nas

open Go Proc Outcome List

/-! ## IPCP -/

structure IPCPConfigureRequest where
  identifier : UInt8
  wantsPrimaryDNS : Bool := false
  wantsSecondaryDNS : Bool := false
  deriving DecidableEq

def ipcpCodeConfigureRequest : UInt8 := 1
def ipcpOptPrimaryDNS : UInt8 := 129
def ipcpOptSecondaryDNS : UInt8 := 131

def ipcpOption (req : IPCPConfigureRequest) : Proc Bytes (Ctl IPCPConfigureRequest) := do
  let opts ← get
  let optType ← lift (index opts 0)
  let optLen := (← lift (index opts 1)).toNat
  if optLen < 2 ∨ opts.length < optLen then return .done req else
  let rest ← lift (sliceFrom opts optLen)
  modify fun _ => rest
  if optType = ipcpOptPrimaryDNS then return .next { req with wantsPrimaryDNS := true }
  else if optType = ipcpOptSecondaryDNS then
    return .next { req with wantsSecondaryDNS := true }
  else return .next req

def parseIPCPConfigureRequest (value : Bytes) : Outcome (Option IPCPConfigureRequest) := do
  if value.length < 4 then return none else
  if (← index value 0) ≠ ipcpCodeConfigureRequest then return none else
  let identifier ← index value 1
  let l := beNat (← index value 2) (← index value 3)
  let l := if value.length < l then value.length else l
  let opts ← slice value 4 l
  let req ← ((loop (fun opts => decide (2 ≤ opts.length)) ipcpOption opts.length
    { identifier }).run opts).1
  return some req

def ShortConfigureRequest : Bytes → Prop
  | code :: _ :: hi :: lo :: _ => code = ipcpCodeConfigureRequest ∧ beNat hi lo < 4
  | _ => False

private theorem run_ipcpOption {opts : Bytes} (h : 2 ≤ opts.length) (req : IPCPConfigureRequest) :
    (ipcpOption req).run opts = (.ok (.done req), opts) ∨
      ∃ req' opts', (ipcpOption req).run opts = (.ok (.next req'), opts') ∧
        opts'.length < opts.length := by
  rw [ipcpOption, run_bind_ok (run_get opts),
    index_of_lt (show 0 < opts.length by omega), run_bind_ok (run_lift _ opts),
    index_of_lt (show 1 < opts.length by omega), run_bind_ok (run_lift _ opts)]
  dsimp only
  split
  · exact .inl rfl
  · rename_i hlen
    rw [sliceFrom_of_le (by omega), run_bind_ok (run_lift _ opts), run_bind_ok (run_modify _ opts)]
    have hdrop : (opts.drop opts[1].toNat).length < opts.length := by
      rw [length_drop]
      omega
    split
    · exact .inr ⟨_, _, rfl, hdrop⟩
    split
    · exact .inr ⟨_, _, rfl, hdrop⟩
    · exact .inr ⟨_, _, rfl, hdrop⟩

private theorem run_ipcpOptions : ∀ (fuel : Nat) (opts : Bytes)
    (req : IPCPConfigureRequest), opts.length ≤ fuel →
    ∃ req', ((loop (fun opts : Bytes => decide (2 ≤ opts.length)) ipcpOption fuel
      req).run opts).1 = .ok req' := by
  intro fuel
  induction fuel with
  | zero =>
    intro opts req hopts
    rw [run_loop_exit (by simp; omega)]
    exact ⟨req, rfl⟩
  | succ fuel ih =>
    intro opts req hopts
    by_cases h : 2 ≤ opts.length
    · rw [run_loop_step (by simpa using h)]
      rcases run_ipcpOption h req with hdone | ⟨req', opts', hnext, hlt⟩
      · rw [hdone]
        exact ⟨req, rfl⟩
      · rw [hnext]
        exact ih opts' req' (by omega)
    · rw [run_loop_exit (by simpa using h)]
      exact ⟨req, rfl⟩

theorem parseIPCPConfigureRequest_eq (value : Bytes) :
    (ShortConfigureRequest value ∧ parseIPCPConfigureRequest value = .panic) ∨
      (¬ShortConfigureRequest value ∧ ∃ req, parseIPCPConfigureRequest value = .ok req) := by
  match value with
  | [] => exact .inr ⟨id, none, rfl⟩
  | [_] => exact .inr ⟨id, none, rfl⟩
  | [_, _] => exact .inr ⟨id, none, rfl⟩
  | [_, _, _] => exact .inr ⟨id, none, rfl⟩
  | code :: ident :: hi :: lo :: r =>
    have hlen : ¬(code :: ident :: hi :: lo :: r).length < 4 := by
      simp only [length_cons]
      omega
    rw [parseIPCPConfigureRequest, if_neg hlen, index_cons_zero, ok_bind, ShortConfigureRequest]
    by_cases hcode : code = ipcpCodeConfigureRequest
    · rw [if_neg (not_not_intro hcode)]
      generalize hdata : code :: ident :: hi :: lo :: r = value at hlen
      have hhi : index value 2 = .ok hi := by rw [← hdata]; rfl
      have hlo : index value 3 = .ok lo := by rw [← hdata]; rfl
      rw [index_of_lt (by omega), ok_bind, hhi, ok_bind, hlo, ok_bind]
      dsimp only
      by_cases hshort : beNat hi lo < 4
      · have hl : (if value.length < beNat hi lo then value.length else beNat hi lo) < 4 := by
          split <;> omega
        refine .inl ⟨⟨hcode, hshort⟩, ?_⟩
        rw [slice, if_neg (by omega)]
        rfl
      · have hl : 4 ≤ (if value.length < beNat hi lo then value.length else beNat hi lo) ∧
            (if value.length < beNat hi lo then value.length else beNat hi lo) ≤ value.length := by
          split <;> omega
        refine .inr ⟨fun h => hshort h.2, ?_⟩
        rw [slice_of_le hl.1 hl.2, ok_bind]
        obtain ⟨req, hreq⟩ := run_ipcpOptions _ _ { identifier := value[1] } (Nat.le_refl _)
        exact ⟨some req, by rw [hreq]; rfl⟩
    · rw [if_pos hcode]
      exact .inr ⟨fun h => hcode h.1, none, rfl⟩

/-! ## Extended protocol configuration options -/

structure EPCOContainer where
  id : UInt16
  value : Bytes
  deriving DecidableEq

/-- One iteration of `parseEPCOContainerList`; the state is `b`. -/
def epcoContainerStep (out : List EPCOContainer) : Proc Bytes (Ctl (List EPCOContainer)) := do
  let b ← get
  let id := beUInt16 (← lift (index b 0)) (← lift (index b 1))
  let l := (← lift (index b 2)).toNat
  if b.length < 3 + l then return .done out else
  let value ← lift (slice b 3 (3 + l))
  let rest ← lift (sliceFrom b (3 + l))
  modify fun _ => rest
  return .next (out ++ [⟨id, value⟩])

variable (epco : Bytes)

def parseEPCOContainerList : Outcome (List EPCOContainer) := do
  if epco.length < 1 then return [] else
  let b ← sliceFrom epco 1
  ((loop (fun b => decide (3 ≤ b.length)) epcoContainerStep b.length []).run b).1

/-- `parseEPCOContainers`.  The map keeps the last container of an ID. -/
def parseEPCOContainers : Outcome (UInt16 → Option Bytes) := do
  let cs ← parseEPCOContainerList epco
  return cs.foldl (fun out c id => if id = c.id then some c.value else out id)
    fun _ => none

def containerIDIPCP : UInt16 := 0x8021

def parseIPCPFromEPCO : Outcome (Option IPCPConfigureRequest) := do
  match (← parseEPCOContainers epco) containerIDIPCP with
  | none => return none
  | some value => parseIPCPConfigureRequest value

/-- The containers that follow each other in `b`, up to the first one that does
not fit. -/
def containersIn : Bytes → List EPCOContainer
  | i0 :: i1 :: l :: r =>
    if l.toNat ≤ r.length then
      { id := beUInt16 i0 i1, value := r.take l.toNat } :: containersIn (r.drop l.toNat)
    else []
  | _ => []
termination_by b => b.length
decreasing_by
  simp only [length_drop, length_cons]
  omega

-- Induction on the bound of the loop, for every list of containers read so far.
private theorem run_epcoLoop : ∀ (fuel : Nat) (b : Bytes) (out : List EPCOContainer),
    b.length ≤ fuel → ((loop (fun b : Bytes => decide (3 ≤ b.length)) epcoContainerStep fuel
      out).run b).1 = .ok (out ++ containersIn b) := by
  intro fuel
  induction fuel with
  | zero =>
    intro b out hb
    have hnil : b = [] := length_eq_zero_iff.mp (by omega)
    subst hnil
    rw [run_loop_exit (by simp), containersIn] <;> simp
  | succ fuel ih =>
    intro b out hb
    match b with
    | [] => rw [run_loop_exit (by simp), containersIn] <;> simp
    | [_] => rw [run_loop_exit (by simp), containersIn] <;> simp
    | [_, _] => rw [run_loop_exit (by simp), containersIn] <;> simp
    | i0 :: i1 :: l :: r =>
      rw [run_loop_step (by simp), containersIn]
      simp only [length_cons] at hb
      by_cases hl : l.toNat ≤ r.length
      · have hstep : (epcoContainerStep out).run (i0 :: i1 :: l :: r) =
            (.ok (.next (out ++ [⟨beUInt16 i0 i1, r.take l.toNat⟩])), r.drop l.toNat) := by
          simp [epcoContainerStep, run_bind, slice, sliceFrom, hl, Nat.not_lt.mpr hl,
            show 3 + l.toNat = l.toNat + 1 + 1 + 1 by omega]
        rw [hstep, if_pos hl]
        rw [ih _ _ (by rw [length_drop]; omega)]
        simp
      · have hstep : (epcoContainerStep out).run (i0 :: i1 :: l :: r) =
            (.ok (.done out), i0 :: i1 :: l :: r) := by
          simp [epcoContainerStep, run_bind, show r.length + 1 + 1 + 1 < 3 + l.toNat by omega]
        rw [hstep, if_neg hl]
        simp

theorem parseEPCOContainerList_eq : parseEPCOContainerList epco = .ok (containersIn epco.tail) := by
  cases epco with
  | nil => simp [parseEPCOContainerList, containersIn]
  | cons o b =>
    rw [parseEPCOContainerList, if_neg (by simp), sliceFrom_of_le (by simp), ok_bind]
    simpa using run_epcoLoop b.length b [] (Nat.le_refl _)

def lastContainer (id : UInt16) (cs : List EPCOContainer) : Option EPCOContainer :=
  cs.reverse.find? fun c => id = c.id

theorem foldl_containers (id : UInt16) (cs : List EPCOContainer) (out : UInt16 → Option Bytes) :
    cs.foldl (fun out c id => if id = c.id then some c.value else out id) out id =
      ((lastContainer id cs).map EPCOContainer.value).or (out id) := by
  induction cs generalizing out with
  | nil => rfl
  | cons c cs ih =>
    rw [foldl_cons, ih, lastContainer, lastContainer, reverse_cons, find?_append]
    by_cases h : id = c.id
    · cases cs.reverse.find? fun c => id = c.id <;> simp [h]
    · simp [h]

/-- The configuration options carry an IPCP Configure-Request, last of its kind,
that declares a length below that of its own header. -/
def ShortIPCP : Prop :=
  ∃ c, lastContainer containerIDIPCP (containersIn epco.tail) = some c ∧
    ShortConfigureRequest c.value

theorem parseIPCPFromEPCO_eq : (ShortIPCP epco ∧ parseIPCPFromEPCO epco = .panic) ∨
      (¬ShortIPCP epco ∧ ∃ req, parseIPCPFromEPCO epco = .ok req) := by
  rw [parseIPCPFromEPCO, parseEPCOContainers, parseEPCOContainerList_eq, ShortIPCP]
  simp only [ok_bind, pure_eq, foldl_containers, Option.or_none]
  cases lastContainer containerIDIPCP (containersIn epco.tail) with
  | none => exact .inr ⟨by simp, none, rfl⟩
  | some c => simpa using parseIPCPConfigureRequest_eq c.value

/-! ## The request -/

structure PDUSessionEstablishmentRequest where
  integrityProtectionMaxDataRate : Bytes := [0, 0]
  pduSessionType : Option UInt8 := none
  sscMode : Option UInt8 := none
  extendedProtocolConfigOptions : Bytes := []
  ipcpRequest : Option IPCPConfigureRequest := none
  requestedPCOContainerIDs : List UInt16 := []
  pcoConfigProtocolOctet : UInt8 := 0
  deriving DecidableEq

def ieiEPCO : UInt8 := 0x7B

def establishmentRequestEPCO (msg : PDUSessionEstablishmentRequest) :
    Proc Reader (Ctl PDUSessionEstablishmentRequest) := do
  let epco ← readLVE
  let ipcpRequest ← lift (parseIPCPFromEPCO epco)
  let cs ← lift (parseEPCOContainerList epco)
  return .next { msg with
    extendedProtocolConfigOptions := epco
    ipcpRequest
    pcoConfigProtocolOctet := epco.headD msg.pcoConfigProtocolOctet
    requestedPCOContainerIDs := msg.requestedPCOContainerIDs ++ cs.map EPCOContainer.id }

def establishmentRequestIE (iei : UInt8) (msg : PDUSessionEstablishmentRequest) :
    Proc Reader (Ctl PDUSessionEstablishmentRequest) :=
  if iei >>> 4 = 0x9 then pure (.next { msg with pduSessionType := some (iei &&& 0x0F) })
  else if iei >>> 4 = 0xA then pure (.next { msg with sscMode := some (iei &&& 0x0F) })
  else if iei >>> 4 = 0xB then pure (.next msg)
  else if iei = ieiEPCO then establishmentRequestEPCO msg
  else if iei = 0x55 then do
    let _ ← (readBytes 2).orZero []
    return .next msg
  else do
    skipLV
    return .next msg

def decodePDUSessionEstablishmentRequest (b : Bytes) : Outcome PDUSessionEstablishmentRequest :=
  if b.length = 0 then .ok {}
  else
    (run (do
      let ipmdr ← (readBytes 2).wrapErr
        "nas: 5GSM EstablishmentRequest: integrity protection max data rate"
      forEachIE 1 establishmentRequestIE {
        integrityProtectionMaxDataRate := copyInto [0, 0] ipmdr }) b).1

/-- The way through the optional elements of the request. -/
def establishmentRequestWalk : IEWalk where
  layout iei :=
    if iei >>> 4 = 0x9 ∨ iei >>> 4 = 0xA ∨ iei >>> 4 = 0xB then .bare
    else if iei = ieiEPCO then .lve else if iei = 0x55 then .fixed 2 else .lv
  handed iei r := if iei = ieiEPCO then some (lveValue r) else none

/-- The values that the decoder takes as configuration options. -/
def establishmentRequestEPCOs (b : Bytes) : List Bytes :=
  if b.length < 2 then [] else establishmentRequestWalk.reached (b.drop 2)

private theorem foresees_epco (msg : PDUSessionEstablishmentRequest) (r : Bytes) :
    establishmentRequestWalk.Foresees ShortIPCP ieiEPCO r
      ((establishmentRequestEPCO msg).run r) := by
  have hhanded : establishmentRequestWalk.handed ieiEPCO r = some (lveValue r) := rfl
  rw [establishmentRequestEPCO, run_bind_ok (run_readLVE r), parseEPCOContainerList_eq]
  rcases parseIPCPFromEPCO_eq (lveValue r) with ⟨hshort, hpanic⟩ | ⟨hshort, req, hreq⟩
  · rw [hpanic]
    exact ⟨lveValue r, hhanded, hshort⟩
  · rw [hreq]
    exact ⟨rfl, rfl, not_traps_of_handed hhanded hshort⟩

theorem establishmentRequestWalk_follows :
    establishmentRequestWalk.Follows ShortIPCP establishmentRequestIE := by
  intro iei msg r
  by_cases hepco : iei = ieiEPCO
  · subst hepco
    exact foresees_epco msg r
  have htrap : ¬establishmentRequestWalk.Traps ShortIPCP iei r :=
    not_traps_of_none (by simp [establishmentRequestWalk, hepco])
  unfold establishmentRequestIE
  split
  · rename_i h
    exact ⟨by simp [establishmentRequestWalk, h, Layout.tail], rfl, htrap⟩
  split
  · rename_i h
    exact ⟨by simp [establishmentRequestWalk, h, Layout.tail], rfl, htrap⟩
  split
  · rename_i h
    exact ⟨by simp [establishmentRequestWalk, h, Layout.tail], rfl, htrap⟩
  rename_i h9 hA hB
  split
  · rename_i h
    subst h
    have hlayout : establishmentRequestWalk.layout 0x55 = .fixed 2 := rfl
    rw [run_bind, run_readBytes_orZero]
    by_cases hlen : 2 ≤ r.length
    · rw [if_pos hlen]
      exact ⟨by simp [hlayout, Layout.tail, hlen], rfl, htrap⟩
    · rw [if_neg hlen]
      exact ⟨by simp [hlayout, Layout.tail, hlen], rfl, htrap⟩
  · rename_i h55
    rw [run_bind_ok (run_skipLV r)]
    exact ⟨by simp [establishmentRequestWalk, h9, hA, hB, hepco, h55, Layout.tail], rfl, htrap⟩

/-- `DecodePDUSessionEstablishmentRequest` returns exactly when no configuration
options that it gets to carry a Configure-Request that declares a length below
that of its own header. -/
theorem returns_decodePDUSessionEstablishmentRequest_iff (b : Bytes) :
    (decodePDUSessionEstablishmentRequest b).Returns ↔
      ∀ v ∈ establishmentRequestEPCOs b, ¬ShortIPCP v := by
  rw [decodePDUSessionEstablishmentRequest, establishmentRequestEPCOs]
  split
  · rename_i hlen
    simp [hlen]
  · rw [run_bind, run_wrapErr]
    rcases Nat.lt_or_ge b.length 2 with hlt | hge
    · obtain ⟨e, he⟩ := run_readBytes_of_lt hlt
      simp [he, hlt]
    · rw [run_readBytes_of_le hge, if_neg (Nat.not_lt.mpr hge)]
      exact IEWalk.returns_forEachIE_iff establishmentRequestWalk_follows _ _

/-- A request whose configuration options hold an IPCP Configure-Request with a
declared length of zero takes the decoder down. -/
theorem decodePDUSessionEstablishmentRequest_panics : decodePDUSessionEstablishmentRequest
      [0xFF, 0xFF, 0x7B, 0x00, 0x08, 0x80, 0x80, 0x21, 0x04, 0x01, 0x00, 0x00, 0x00] = .panic := by
  decide +kernel

end Claudia5gc.Nas
