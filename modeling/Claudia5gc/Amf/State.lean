import Claudia5gc.Amf.Context

/-!
# The AMF and its neighbours

The NAS handler works on the manager's contexts and talks to the gNB, the AUSF, the UDM, the NSSF,
the PCF, the SMF and the SMSF.  What it asks of them is a list of events; what they answer is an
argument of each step, so a statement about every step is one about every answer.
-/

namespace Claudia5gc.Amf

open Go

variable (ue : Ptr) {e : Event} {P : Event → Prop} {s s' : Handler}

/-! ## Configuration -/

/-- What is fixed when the AMF starts: the identity, the clients that are optional,
and the optional interfaces of the sender. -/
structure Config where
  plmnMCC : String
  plmnMNC : String
  nfInstanceID : String
  nssf : Bool
  pcf : Bool
  amPolicy : Bool
  nssaa : Bool
  smsf : Bool
  nullSecurity : Bool
  defaultRFSP : Int
  servedTACs : List UInt32
  imsVoPS3GPP : Bool
  networkFullName : String
  networkShortName : String
  deleteSMContext : Bool
  activateSMContext : Bool
  callSMF : Bool
  modifySMContext : Bool
  modifyQoSSMContext : Bool

/-- An AMF with no optional client and a sender that only knows N2. -/
def Config.minimal : Config where
  plmnMCC := "001"
  plmnMNC := "01"
  nfInstanceID := "amf-1"
  nssf := false
  pcf := false
  amPolicy := false
  nssaa := false
  smsf := false
  nullSecurity := false
  defaultRFSP := 0
  servedTACs := []
  imsVoPS3GPP := true
  networkFullName := ""
  networkShortName := ""
  deleteSMContext := false
  activateSMContext := false
  callSMF := false
  modifySMContext := false
  modifyQoSSMContext := false

def zeroPad (s : String) (n : Nat) : String :=
  String.ofList (List.replicate (n - s.utf8ByteSize) '0') ++ s

def Config.servingNetName (cfg : Config) : String :=
  "5G:mnc" ++ zeroPad cfg.plmnMNC 3 ++ ".mcc" ++ cfg.plmnMCC ++ ".3gppnetwork.org"

def abba : Bytes := [0x00, 0x00]

/-! ## Answers -/

/-- `AUSFInitResponse`, without the fields that are only logged. -/
structure AUSFInitResponse where
  authCtxID : String
  rand : Vector UInt8 16
  autn : Vector UInt8 16

structure AUSFConfirmResponse where
  supi : String
  kausf : Bytes

structure UDMAMSubscription where
  allowedNSSAI : List SNSSAISubscribed
  ambrUplink : UInt64
  ambrDownlink : UInt64
  deriving DecidableEq

structure NSSAAAuthResult where
  authResult : String
  eapPayload : Bytes

structure AMPolicyAnswer where
  polAssoID : String
  rfsp : Int
  servAreaRes : Option ServiceAreaRestriction

/-- What `CallSMF` answers. -/
structure SMContextAnswer where
  smContextRef : String
  n1Resp : Bytes
  n2Info : Bytes

/-- What the other parties answer while one PDU is handled, each client at most once unless it is
asked with a key, and what the clock and the timer store show. -/
structure Env where
  initiateAuth : Except Error AUSFInitResponse := .error (.new "")
  resyncAuth : Except Error AUSFInitResponse := .error (.new "")
  confirmAuth : Except Error AUSFConfirmResponse := .error (.new "")
  amSubscriptionData : Except Error UDMAMSubscription := .error (.new "")
  nsSelection : Except Error (List SNSSAISubscribed) := .error (.new "")
  createAMPolicy : Except Error AMPolicyAnswer := .error (.new "")
  createUEPolicy : Except Error (String × Bytes) := .error (.new "")
  nssaaAuthenticate : Except Error NSSAAAuthResult := .error (.new "")
  nextTMSI : Except Error UInt32 := .error (.new "")
  callSMF : Except Error SMContextAnswer := .error (.new "")
  modifySMContext : Except Error (Bytes × Bytes) := .error (.new "")
  modifyQoSSMContext : Except Error (Bytes × Bytes) := .error (.new "")
  activateSMContext : String → Except Error Bytes := fun _ => .error (.new "")
  send : Nat → Option Error := fun _ => none
  unixNano : Int := 0
  t3512Secs : Int := 0

/-! ## Events -/

structure PDUSessionSetupItemCxtReq where
  pduSessionID : UInt8
  sst : UInt8
  sd : Bytes
  transfer : Bytes
  deriving DecidableEq

inductive Event where
  /-- Messages handed to the gNB. -/
  | downlinkNASTransport (ue : Ptr) (nasPDU : Bytes)
  | initialContextSetupRequest (ue : Ptr) (nasPDU kgnb : Bytes) (cipherAlg integAlg : UInt8)
      (encAlgs intAlgs : UInt16) (pduSessions : List PDUSessionSetupItemCxtReq)
  | pduSessionResourceSetupRequest (ue : Ptr) (psi : UInt8) (nasPDU n2SmInfo : Bytes)
  | pduSessionResourceReleaseCommand (ue : Ptr) (psi : UInt8) (nasPDU : Bytes)
  | pduSessionResourceModifyRequest (ue : Ptr) (psi : UInt8) (nasPDU n2SmInfo : Bytes)
  | ueContextReleaseCommand (ue : Ptr) (causePresent causeValue : Nat)
  /-- Calls of other network functions. -/
  | initiateAuth (ue : Ptr) (supiOrSuci servingNetName : String)
  | resyncAuth (ue : Ptr) (supiOrSuci servingNetName : String) (rand : Vector UInt8 16)
      (auts : Bytes)
  | confirmAuth (ue : Ptr) (authCtxID resStar : String)
  | registerAMF (supi nfInstanceID servingNetName : String)
  | deregisterUECM (supi : String)
  | nsSelection (nfInstanceID : String) (requested : List SNSSAISubscribed)
  | createAMPolicyAssociation (supi mcc mnc : String)
  | deleteAMPolicyAssociation (polAssoID : String)
  | createUEPolicyAssociation (supi servingPlmn : String)
  | deleteUEPolicyAssociation (polAssoID : String)
  | nssaaAuthenticate (supi : String) (sst : UInt8) (sd : String) (eapPayload : Bytes)
  | callSMF (ue : Ptr) (supi : String) (dnn : Bytes) (psi : UInt8) (n1SmMsg : Bytes)
      (snssai : SNSSAISubscribed)
  | modifySMContext (smContextRef : String) (n1SmMsg : Bytes) (psi : UInt8)
  | modifyQoSSMContext (smContextRef : String) (psi : UInt8) (fiveQI ambrDLMbps ambrULMbps : Int)
  | activateSMContext (smContextRef : String)
  | deleteSMContext (smContextRef : String)
  | uplinkSMS (supi smsRecordID smsPayload : String)
  | lppResult (amfUENGAPId : Int64) (lppPDU : Bytes)
  /-- The UDM has answered with the subscription of the UE. -/
  | amSubscriptionData (ue : Ptr) (sub : UDMAMSubscription)
  /-- The AUSF has confirmed the UE and the context has its new keys. -/
  | authenticated (ue : Ptr) (knasint : Bytes)
  /-- The security context has been erased. -/
  | securityReset (ue : Ptr)
  /-- The context has become registered, with the security context it had then. -/
  | registered (ue : Ptr) (securityCtx : SecurityContext)
  deriving DecidableEq

def Event.nasPDU : Event → Option (Ptr × Bytes)
  | .downlinkNASTransport ue nasPDU => some (ue, nasPDU)
  | .initialContextSetupRequest ue nasPDU .. => some (ue, nasPDU)
  | .pduSessionResourceSetupRequest ue _ nasPDU _ => some (ue, nasPDU)
  | .pduSessionResourceReleaseCommand ue _ nasPDU => some (ue, nasPDU)
  | .pduSessionResourceModifyRequest ue _ nasPDU _ => some (ue, nasPDU)
  | _ => none

/-- A call that goes on after the handler has returned. -/
inductive Goroutine where
  | releaseDisplacedContext (stale : Ptr)
  | deleteSMContext (smContextRef : String)
  | completeNetworkPDUSessionRelease (ue : Ptr) (psi : UInt8)

/-! ## State -/

/-- The NAS handler: the manager, the two maps of requests that wait for the UE, the goroutines that
have not run yet, and the events so far. -/
structure Handler where
  mgr : Manager
  pendingRelease : Map (Int64 × UInt8) String
  pendingLPP : Map Int64 Unit
  goroutines : List Goroutine
  trace : List Event

namespace Handler

def newHandler (mgr : Manager) : Handler where
  mgr := mgr
  pendingRelease := ∅
  pendingLPP := ∅
  goroutines := []
  trace := []

def ctx (s : Handler) (ue : Ptr) : UEContext := s.mgr.ues.get ue

def load (ue : Ptr) : Proc Handler UEContext := do return (← Proc.get).ctx ue

def update (ue : Ptr) (f : UEContext → UEContext) : Proc Handler Unit :=
  Proc.modify fun s => { s with mgr := { s.mgr with ues := s.mgr.ues.modify ue f } }

/-- A call whose answer does not matter, or is looked up in the environment. -/
def emit (e : Event) : Proc Handler Unit :=
  Proc.modify fun s => { s with trace := s.trace ++ [e] }

def send (env : Env) (e : Event) : Proc Handler Unit := do
  let n := (← Proc.get).trace.length
  emit e
  match env.send n with
  | some err => Proc.fail err
  | none => return ()

/-- `go f(…)` -/
def spawn (g : Goroutine) : Proc Handler Unit :=
  Proc.modify fun s => { s with goroutines := s.goroutines ++ [g] }

def answer {α : Type} : Except Error α → Proc Handler α
  | .ok v => return v
  | .error e => Proc.fail e

section Run

variable {α : Type} (s : Handler)

theorem run_load_bind (f : UEContext → Proc Handler α) :
    (load ue >>= f).run s = (f (s.ctx ue)).run s := rfl

theorem run_emit_bind (e : Event) (f : Unit → Proc Handler α) :
    (emit e >>= f).run s = (f ()).run { s with trace := s.trace ++ [e] } := rfl

theorem run_update_bind (g : UEContext → UEContext) (f : Unit → Proc Handler α) :
    (update ue g >>= f).run s = (f ()).run ((update ue g).run s).2 := rfl

theorem snd_run_send (env : Env) (e : Event) :
    ((send env e).run s).2 = { s with trace := s.trace ++ [e] } := by
  change ((match env.send s.trace.length with
    | some err => Proc.fail err
    | none => (return () : Proc Handler Unit)).run { s with trace := s.trace ++ [e] }).2 = _
  split <;> rfl

theorem run_send_of_none {env : Env} (h : env.send s.trace.length = none) (e : Event) :
    (send env e).run s = (.ok (), { s with trace := s.trace ++ [e] }) := by
  rw [send, Proc.run_bind_ok (Proc.run_get s), run_emit_bind, h]
  rfl

end Run

end Handler

/-! ## What most of the handler leaves alone

The security context decides who the UE is and the NSSAI lists which slices it may
use.  Most of the handler neither writes these fields nor passes one of the points
that the statements about them look back at.
-/

/-- The fields that decide what a UE may do.  The COUNTs are not among them. -/
structure Standing where
  active : Bool
  knasint : Bytes
  allowedNSSAI : List SNSSAISubscribed
  pendingNSSAA : List SNSSAISubscribed
  nssaaInProgress : Option SNSSAISubscribed
  rejectedNSSAI : List SNSSAISubscribed

variable (c : UEContext)

def UEContext.standing : Standing where
  active := c.securityCtx.active
  knasint := c.securityCtx.knasint
  allowedNSSAI := c.allowedNSSAI
  pendingNSSAA := c.pendingNSSAA
  nssaaInProgress := c.nssaaInProgress
  rejectedNSSAI := c.rejectedNSSAI

/-- What the procedures that send no protected message leave alone. -/
def UEContext.guarded : SecurityContext × Standing := (c.securityCtx, c.standing)

/-- What the bookkeeping of the procedures leaves alone. -/
def UEContext.kept : String × SecurityContext × Standing := (c.suci, c.guarded)

/-- What a protected message leaves alone as well. -/
def UEContext.calm : String × Standing := (c.suci, c.standing)

/-- What a change of the slices leaves alone. -/
def UEContext.keyed : String × SecurityContext := (c.suci, c.securityCtx)

class UEContext.Reads {υ τ : Type} (ρ : UEContext → υ) (π : UEContext → τ) : Prop where
  congr : ∀ {c c' : UEContext}, ρ c = ρ c' → π c = π c'

namespace UEContext

instance : Reads kept kept := ⟨fun h => h⟩
instance : Reads kept guarded := ⟨fun h => (Prod.mk.inj h).2⟩
instance : Reads calm calm := ⟨fun h => h⟩
instance : Reads calm standing := ⟨fun h => (Prod.mk.inj h).2⟩
instance : Reads calm suci := ⟨fun h => (Prod.mk.inj h).1⟩
instance : Reads keyed securityCtx := ⟨fun h => (Prod.mk.inj h).2⟩
instance : Reads keyed suci := ⟨fun h => (Prod.mk.inj h).1⟩

variable {τ : Type} {π : UEContext → τ}

theorem kept_eq_iff {c c' : UEContext} :
    c.kept = c'.kept ↔ c.suci = c'.suci ∧ c.securityCtx = c'.securityCtx ∧
      c.standing = c'.standing := by
  unfold kept guarded
  rw [Prod.mk.injEq, Prod.mk.injEq]

instance [Reads calm π] : Reads kept π where
  congr h := Reads.congr (ρ := calm) (Prod.ext (kept_eq_iff.mp h).1 (kept_eq_iff.mp h).2.2)

instance [Reads keyed π] : Reads kept π where
  congr h := Reads.congr (ρ := keyed) (Prod.ext (kept_eq_iff.mp h).1 (kept_eq_iff.mp h).2.1)

end UEContext

def Event.Ordinary : Event → Prop
  | .callSMF .. | .amSubscriptionData .. | .authenticated .. | .securityReset _
  | .registered .. => False
  | _ => True

/-- The event does not mark a change of the keys. -/
def Event.Keyless : Event → Prop
  | .authenticated .. | .securityReset _ => False
  | _ => True

theorem Event.Ordinary.keyless (h : e.Ordinary) : e.Keyless := by
  cases e with
  | authenticated | securityReset => exact h.elim
  | _ => trivial

def Event.asksAUSF : Event → Bool
  | .initiateAuth .. | .resyncAuth .. => true
  | _ => false

structure Event.Routine (e : Event) : Prop where
  ordinary : e.Ordinary
  nasPDU : e.nasPDU = none
  asksAUSF : e.asksAUSF = false

/-- An ordinary event, a message to the gNB included. -/
structure Event.Usual (e : Event) : Prop where
  ordinary : e.Ordinary
  asksAUSF : e.asksAUSF = false

/-- An event of the bookkeeping, or one that marks a point of a procedure. -/
structure Event.Internal (e : Event) : Prop where
  keyless : e.Keyless
  nasPDU : e.nasPDU = none
  asksAUSF : e.asksAUSF = false

class Event.Allows (Q P : Event → Prop) : Prop where
  allow : ∀ {e : Event}, Q e → P e

namespace Event

instance : Allows Routine Routine := ⟨fun h => h⟩
instance : Allows Routine fun e => e.Ordinary ∧ e.nasPDU = none :=
  ⟨fun h => ⟨h.ordinary, h.nasPDU⟩⟩
instance : Allows Usual Usual := ⟨fun h => h⟩
instance : Allows Usual Ordinary := ⟨fun h => h.ordinary⟩
instance : Allows Usual fun _ => True := ⟨fun _ => trivial⟩
instance : Allows Usual fun e => e.asksAUSF = false := ⟨fun h => h.asksAUSF⟩
instance : Allows Internal fun e => e.Keyless ∧ e.nasPDU = none :=
  ⟨fun h => ⟨h.keyless, h.nasPDU⟩⟩
instance : Allows Internal fun e => e.asksAUSF = false := ⟨fun h => h.asksAUSF⟩

variable {P : Event → Prop}

instance [Allows Usual P] : Allows Routine P :=
  ⟨fun h => Allows.allow (Q := Usual) ⟨h.ordinary, h.asksAUSF⟩⟩

instance [Allows Internal P] : Allows Routine P :=
  ⟨fun h => Allows.allow (Q := Internal) ⟨h.ordinary.keyless, h.nasPDU, h.asksAUSF⟩⟩

end Event

namespace Handler

def Emits (P : Event → Prop) (s s' : Handler) : Prop :=
  ∃ new, s'.trace = s.trace ++ new ∧ ∀ e ∈ new, P e

theorem Emits.of_eq (h : s'.trace = s.trace) : Emits P s s' :=
  ⟨[], by rw [h, List.append_nil], fun _ he => absurd he List.not_mem_nil⟩

theorem Emits.trans {s'' : Handler} (h₁ : Emits P s s') (h₂ : Emits P s' s'') : Emits P s s'' := by
  obtain ⟨new₁, ht₁, hP₁⟩ := h₁
  obtain ⟨new₂, ht₂, hP₂⟩ := h₂
  refine ⟨new₁ ++ new₂, by rw [ht₂, ht₁, List.append_assoc], fun e he => ?_⟩
  rcases List.mem_append.mp he with he | he
  · exact hP₁ e he
  · exact hP₂ e he

theorem Emits.mono {Q : Event → Prop} (h : Emits P s s') (hPQ : ∀ e, P e → Q e) : Emits Q s s' := by
  obtain ⟨new, ht, hP⟩ := h
  exact ⟨new, ht, fun e he => hPQ e (hP e he)⟩

theorem Emits.of_append (h : Emits P s s') {new : List Event}
    (htrace : s'.trace = s.trace ++ new) (he : e ∈ new) : P e := by
  obtain ⟨new', htrace', hP⟩ := h
  rw [htrace'] at htrace
  rw [← List.append_cancel_left htrace] at he
  exact hP e he

/-- Every context keeps its `π`, and the further events satisfy `P`. -/
def Frame {τ : Type} (π : UEContext → τ) (P : Event → Prop) (s s' : Handler) : Prop :=
  (∀ ue, π (s'.ctx ue) = π (s.ctx ue)) ∧ Emits P s s'

variable {τ : Type} {π : UEContext → τ} {P : Event → Prop}

instance : Std.Refl (Frame π P) := ⟨fun _ => ⟨fun _ => rfl, Emits.of_eq rfl⟩⟩

instance : IsTrans Handler (Frame π P) :=
  ⟨fun _ _ _ h₁ h₂ => ⟨fun ue => (h₂.1 ue).trans (h₁.1 ue), h₁.2.trans h₂.2⟩⟩

theorem Frame.mono {Q : Event → Prop} (h : Frame π P s s') {υ : Type} (g : τ → υ)
    (hPQ : ∀ e, P e → Q e) : Frame (g ∘ π) Q s s' :=
  ⟨fun ue => congrArg g (h.1 ue), h.2.mono hPQ⟩

theorem ctx_update (s : Handler) (ue ue' : Ptr) (f : UEContext → UEContext) :
    ((update ue f).run s).2.ctx ue' = if ue' = ue then f (s.ctx ue) else s.ctx ue' := by
  split
  · next h =>
    subst h
    exact Heap.get_modify_same s.mgr.ues ue' f
  · next h => exact Heap.get_modify_of_ne h

theorem keeps_load {R : Handler → Handler → Prop} [Std.Refl R] : Proc.Keeps R (load ue) :=
  fun s => Std.Refl.refl s

theorem keeps_update {ue : Ptr} {f : UEContext → UEContext}
    (h : ∀ c, π (f c) = π c) : Proc.Keeps (Frame π P) (update ue f) := by
  intro s
  refine ⟨fun ue' => ?_, Emits.of_eq rfl⟩
  rw [ctx_update]
  split
  · next hue => rw [h, hue]
  · rfl

theorem keeps_emit (h : P e) : Proc.Keeps (Frame π P) (emit e) := by
  intro s
  refine ⟨fun _ => rfl, [e], rfl, fun e' he' => ?_⟩
  rw [List.mem_singleton.mp he']
  exact h

theorem keeps_send (env : Env) (h : P e) : Proc.Keeps (Frame π P) (send env e) := by
  refine Proc.Keeps.get.bind fun s => (keeps_emit h).bind fun _ => ?_
  split
  · exact .fail _
  · exact .pure _

theorem keeps_spawn (g : Goroutine) : Proc.Keeps (Frame π P) (spawn g) :=
  fun _ => ⟨fun _ => rfl, Emits.of_eq rfl⟩

theorem keeps_answer {α : Type} {R : Handler → Handler → Prop} [Std.Refl R]
    (a : Except Error α) : Proc.Keeps R (answer a) := by
  cases a with
  | ok v => exact .pure v
  | error e => exact .fail e

end Handler

end Claudia5gc.Amf
