import Claudia5gc.Amf.Integrity
import Claudia5gc.Amf.Network
import Claudia5gc.Slots

/-!
# Network-requested release of a PDU session

The sessions of a UE are slots that hold SM contexts of the SMF.  A release by the network is
announced with the Release Command; the Release Complete of the UE or the expiry of T3592 completes
it.
-/

namespace Claudia5gc.Amf

open Go Nas Proc List Function UEContext Keeps AList

variable (env : Env) (created : List String) {cfg : Config} {e : Event} {ref : String}
  {psi pti : UInt8} {f : UEContext → UEContext} {a : SMContextAnswer} {s : Handler}
  {t : ULNASTransport}

def Event.deletedRef : Event → Option String
  | .deleteSMContext ref => some ref
  | _ => none

def Goroutine.deletedRef : Goroutine → Option String
  | .deleteSMContext ref => some ref
  | _ => none

def Event.isCallSMF : Event → Bool
  | .callSMF .. => true
  | _ => false

namespace Handler

def deletions (s : Handler) : List String :=
  s.trace.filterMap Event.deletedRef ++ s.goroutines.filterMap Goroutine.deletedRef

/-- The SM context that is to be deleted when the release of `psi` is complete. -/
def pendingRef (s : Handler) (ue : Ptr) (psi : UInt8) : Option String :=
  s.pendingRelease.lookup ((s.ctx ue).amfUENGAPId, psi)

def sessionRef (s : Handler) (ue : Ptr) (psi : UInt8) : Option String :=
  ((s.ctx ue).pduSessions.lookup psi).map PDUSession.smfInstanceID

def slots (s : Handler) (ue : Ptr) (created : List String) : Slots UInt8 String where
  held := s.sessionRef ue
  pending := s.pendingRef ue
  created := created
  deleted := s.deletions

/-! ## The writes -/

section

variable (ue : Ptr) (s : Handler)

theorem deletions_emit (he : e.deletedRef = none) :
    ({ s with trace := s.trace ++ [e] } : Handler).deletions = s.deletions := by
  unfold deletions
  rw [filterMap_append, filterMap_cons_none he, filterMap_nil, append_nil]

theorem perm_deletions_emit (ref : String) :
    ({ s with trace := s.trace ++ [.deleteSMContext ref] } : Handler).deletions.Perm
      (ref :: s.deletions) := by
  unfold deletions
  rw [filterMap_append, append_assoc]
  exact perm_middle

theorem perm_deletions_spawn (ref : String) :
    ({ s with goroutines := s.goroutines ++ [.deleteSMContext ref] } : Handler).deletions.Perm
      (ref :: s.deletions) := by
  unfold deletions
  rw [filterMap_append, ← append_assoc]
  exact perm_append_singleton ref _

theorem perm_deletions_background {before after : List Goroutine}
    (h : s.goroutines = before ++ .deleteSMContext ref :: after) : ({ s with
      goroutines := before ++ after
      trace := s.trace ++ [.deleteSMContext ref] } : Handler).deletions.Perm s.deletions := by
  unfold deletions
  rw [h, filterMap_append, filterMap_append, filterMap_append, append_assoc]
  apply List.Perm.append_left
  show (ref :: (before.filterMap Goroutine.deletedRef ++ after.filterMap Goroutine.deletedRef)).Perm
    (before.filterMap Goroutine.deletedRef ++ ref :: after.filterMap Goroutine.deletedRef)
  exact perm_middle.symm

theorem sessionRef_dropSession (psi : UInt8) :
    ((update ue (dropSession psi)).run s).2.sessionRef ue =
      Function.update (s.sessionRef ue) psi none := by
  show (Option.map _ ∘ fun psi' => lookup psi' (ctx _ ue).pduSessions) = _
  rw [ctx_update, if_pos rfl, dropSession, Map.lookup_erase_fun, comp_update]
  rfl

theorem pendingRef_update (hf : ∀ c, (f c).amfUENGAPId = c.amfUENGAPId) :
    ((update ue f).run s).2.pendingRef ue = s.pendingRef ue := by
  funext psi
  unfold pendingRef
  rw [ctx_update, if_pos rfl, hf]
  rfl

theorem pendingRef_erase (psi : UInt8) : ({ s with
      pendingRelease := s.pendingRelease.erase ((s.ctx ue).amfUENGAPId, psi) } :
      Handler).pendingRef ue = Function.update (s.pendingRef ue) psi none := by
  show (fun k => lookup k (s.pendingRelease.erase _)) ∘ Prod.mk _ = _
  rw [Map.lookup_erase_fun]
  exact update_comp_eq_of_injective _ (fun _ _ h => (Prod.mk.inj h).2) psi none

theorem pendingRef_insert {id : Int64} (hid : (s.ctx ue).amfUENGAPId = id) (psi : UInt8)
    (ref : String) : ({ s with
      pendingRelease := s.pendingRelease.insert (id, psi) ref } : Handler).pendingRef ue =
      Function.update (s.pendingRef ue) psi (some ref) := by
  subst hid
  show (fun k => lookup k (s.pendingRelease.insert _ ref)) ∘ Prod.mk _ = _
  rw [Map.lookup_insert_fun]
  exact update_comp_eq_of_injective _ (fun _ _ h => (Prod.mk.inj h).2) psi (some ref)

theorem sessionRef_insert {sess : PDUSession}
    (hf : ∀ c, (f c).pduSessions = c.pduSessions.insert psi sess) :
    ((update ue f).run s).2.sessionRef ue =
      Function.update (s.sessionRef ue) psi (some sess.smfInstanceID) := by
  show (Option.map _ ∘ fun psi' => lookup psi' (ctx _ ue).pduSessions) = _
  rw [ctx_update, if_pos rfl, hf, Map.lookup_insert_fun, comp_update]
  rfl

end

/-! ## What leaves the sessions alone -/

structure Leaves (ue : Ptr) (s s' : Handler) : Prop where
  id : (s'.ctx ue).amfUENGAPId = (s.ctx ue).amfUENGAPId
  sessions : (s'.ctx ue).pduSessions = (s.ctx ue).pduSessions
  pendingRelease : s'.pendingRelease = s.pendingRelease
  goroutines : s'.goroutines = s.goroutines
  trace : s'.trace = s.trace

instance (ue : Ptr) : Std.Refl (Leaves ue) := ⟨fun _ => ⟨rfl, rfl, rfl, rfl, rfl⟩⟩

instance (ue : Ptr) : IsTrans Handler (Leaves ue) where
  trans _ _ _ h₁ h₂ :=
    ⟨h₂.id.trans h₁.id, h₂.sessions.trans h₁.sessions, h₂.pendingRelease.trans h₁.pendingRelease,
      h₂.goroutines.trans h₁.goroutines, h₂.trace.trans h₁.trace⟩

section

variable {ue : Ptr} {s s' : Handler}

theorem Leaves.sessionRef (h : Leaves ue s s') : s'.sessionRef ue = s.sessionRef ue := by
  unfold Handler.sessionRef
  rw [h.sessions]

theorem Leaves.pendingRef (h : Leaves ue s s') : s'.pendingRef ue = s.pendingRef ue := by
  unfold Handler.pendingRef
  rw [h.id, h.pendingRelease]

theorem Leaves.slots (h : Leaves ue s s') (created : List String) :
    s'.slots ue created = s.slots ue created := by
  unfold Handler.slots deletions
  rw [h.sessionRef, h.pendingRef, h.goroutines, h.trace]

theorem leaves_load : Keeps (Leaves ue) (load ue) := fun _ => Std.Refl.refl _

theorem leaves_sendNASSecured (ue : Ptr) (body : DownlinkBody) :
    Keeps (Leaves ue) (sendNASSecured ue body) := by
  refine (wrapErr (.lift _) _).bind fun innerPDU => leaves_load.bind fun c => ?_
  refine bind ?_ fun ciphered => (wrapErr (.lift _) _).bind fun mac => ?_
  · exact .ite (fun _ => .pure _) fun _ => .wrapErr (.lift _) _
  · refine bind (fun s => ?_) fun _ => .pure _
    have hctx := ctx_update s ue ue countDownlink
    rw [if_pos rfl] at hctx
    exact ⟨by rw [hctx]; rfl, by rw [hctx]; rfl, rfl, rfl, rfl⟩

theorem leaves_secureN1SM (ue : Ptr) (psi : UInt8) (n1SmMsg : Bytes) :
    Keeps (Leaves ue) (secureN1SM ue psi n1SmMsg) :=
  leaves_sendNASSecured ue _

/-! ## The procedures -/

/-- Steps of the slots, with only deletions left to goroutines. -/
def Steps (ue : Ptr) (created : List String) (s s' : Handler) : Prop :=
  Relation.ReflTransGen Slots.Step (s.slots ue created) (s'.slots ue created) ∧
    ((∀ g ∈ s.goroutines, ∃ ref, g = .deleteSMContext ref) →
      ∀ g ∈ s'.goroutines, ∃ ref, g = .deleteSMContext ref)

instance (created : List String) : Std.Refl (Steps ue created) := ⟨fun _ => ⟨.refl, id⟩⟩

instance (created : List String) : IsTrans Handler (Steps ue created) where
  trans _ _ _ h₁ h₂ := ⟨h₁.1.trans h₂.1, h₂.2 ∘ h₁.2⟩

theorem Leaves.steps (h : Leaves ue s s') (created : List String) : Steps ue created s s' := by
  constructor
  · rw [h.slots]
  · rw [h.goroutines]
    exact fun hdeletes => hdeletes

theorem slots_emit (he : e.deletedRef = none) (created : List String) :
    ({ s with trace := s.trace ++ [e] } : Handler).slots ue created = s.slots ue created := by
  unfold Handler.slots
  rw [deletions_emit s he]
  rfl

theorem steps_send (he : e.deletedRef = none) (created : List String) :
    Keeps (Steps ue created) (send env e) := by
  intro s
  rw [snd_run_send]
  refine ⟨?_, id⟩
  rw [slots_emit he]

theorem steps_initiateNetworkPDUSessionRelease (psi : UInt8) (created : List String) :
    Keeps (Steps ue created) (initiateNetworkPDUSessionRelease env ue psi) := by
  intro s
  rw [initiateNetworkPDUSessionRelease, run_load_bind]
  cases hlookup : (s.ctx ue).pduSessions.lookup psi with
  | none => exact Std.Refl.refl _
  | some pduSess =>
    have hsecure := ((leaves_secureN1SM ue psi (wrapPDUSessionReleaseCommandBody psi 0
      cause5GSMRegularDeactivation)).wrapErr "nas: NW PDU release: encode DL NAS Transport") s
    refine bind_run (hsecure.steps created) fun nasPDU s₁ hrun => ?_
    rw [hrun] at hsecure
    refine bind_run ((steps_send env rfl created).wrapErr _ s₁) fun _ s₂ hsend => ?_
    have hs₂ := congrArg Prod.snd hsend
    rw [snd_run_wrapErr, snd_run_send] at hs₂
    dsimp only at hs₂
    have hid : (s₂.ctx ue).amfUENGAPId = (s.ctx ue).amfUENGAPId := by
      rw [← hs₂]
      exact hsecure.id
    have hheld : s₂.sessionRef ue psi = some pduSess.smfInstanceID := by
      rw [← hs₂]
      change ((s₁.ctx ue).pduSessions.lookup psi).map _ = _
      rw [hsecure.sessions, hlookup]
      rfl
    have hannounce := Slots.Step.announce (s₂.slots ue created) psi pduSess.smfInstanceID hheld
    have hpending := pendingRef_insert ue s₂ hid psi pduSess.smfInstanceID
    refine ⟨.single ?_, id⟩
    rwa [show (s₂.slots ue created).pending = s₂.pendingRef ue from rfl, ← hpending] at hannounce

theorem slots_eq_vacate (hheld : s'.sessionRef ue = Function.update (s.sessionRef ue) psi none)
    (hpending : s'.pendingRef ue = Function.update (s.pendingRef ue) psi none)
    (hdeletions : s'.deletions.Perm (ref :: s.deletions)) :
    s'.slots ue created = (s.slots ue created).vacate psi ref := by
  unfold Handler.slots Slots.vacate
  rw [hheld, hpending, Multiset.coe_eq_coe.mpr hdeletions]
  rfl

theorem slots_eq_vacate_of_none (hnone : s.pendingRef ue psi = none)
    (hheld : s'.sessionRef ue = Function.update (s.sessionRef ue) psi none)
    (hpending : s'.pendingRef ue = s.pendingRef ue)
    (hdeletions : s'.deletions.Perm (ref :: s.deletions)) :
    s'.slots ue created = (s.slots ue created).vacate psi ref := by
  refine slots_eq_vacate created hheld (hpending.trans ?_) hdeletions
  rw [← hnone, Function.update_eq_self]

theorem run_completeNetworkPDUSessionRelease_none (h : s.pendingRef ue psi = none) :
    ((completeNetworkPDUSessionRelease cfg ue psi).run s).2 = s := by
  rw [completeNetworkPDUSessionRelease, run_bind_ok (run_get s)]
  dsimp only
  rw [show s.pendingRelease.lookup _ = _ from h]
  rfl

theorem run_completeNetworkPDUSessionRelease_some (hcfg : cfg.deleteSMContext = true)
    (href : ref ≠ "") (h : s.pendingRef ue psi = some ref) :
    ((completeNetworkPDUSessionRelease cfg ue psi).run s).2 =
      ((update ue (dropSession psi)).run { s with
        pendingRelease := s.pendingRelease.erase ((s.ctx ue).amfUENGAPId, psi)
        trace := s.trace ++ [.deleteSMContext ref] }).2 := by
  rw [completeNetworkPDUSessionRelease, run_bind_ok (run_get s)]
  dsimp only
  rw [show s.pendingRelease.lookup _ = _ from h]
  unfold deleteSMContext
  dsimp only
  rw [if_pos ⟨href, hcfg⟩]
  rfl

theorem slots_completeNetworkPDUSessionRelease
    (hcfg : cfg.deleteSMContext = true) (href : ref ≠ "") (h : s.pendingRef ue psi = some ref) :
    ((completeNetworkPDUSessionRelease cfg ue psi).run s).2.slots ue created =
      (s.slots ue created).vacate psi ref := by
  rw [run_completeNetworkPDUSessionRelease_some hcfg href h]
  refine slots_eq_vacate created ?_ ?_ ?_
  · exact sessionRef_dropSession ue _ psi
  · refine (pendingRef_update ue _ (f := dropSession psi) fun _ => rfl).trans ?_
    exact pendingRef_erase ue s psi
  · exact perm_deletions_emit s ref

theorem steps_completeNetworkPDUSessionRelease (psi : UInt8) (created : List String)
    (hcfg : cfg.deleteSMContext = true) (href : ∀ ref, s.pendingRef ue psi = some ref → ref ≠ "") :
    Steps ue created s ((completeNetworkPDUSessionRelease cfg ue psi).run s).2 := by
  cases hpending : s.pendingRef ue psi with
  | none =>
    rw [run_completeNetworkPDUSessionRelease_none hpending]
    exact Std.Refl.refl _
  | some ref =>
    have hnonempty := href ref hpending
    constructor
    · rw [slots_completeNetworkPDUSessionRelease created hcfg hnonempty hpending]
      exact .single (.complete _ psi ref hpending)
    · rw [run_completeNetworkPDUSessionRelease_some hcfg hnonempty hpending]
      exact fun hdeletes => hdeletes

theorem steps_handlePDUSessionRelease {env : Env} (psi pti : UInt8) (created : List String)
    (hcfg : cfg.deleteSMContext = true) (href : ∀ ref, s.sessionRef ue psi = some ref → ref ≠ "")
    (hpending : s.pendingRef ue psi = none) (hsend : env.send s.trace.length = none) :
    Steps ue created s ((handlePDUSessionRelease cfg env ue psi pti).run s).2 := by
  rw [handlePDUSessionRelease, run_load_bind]
  cases hlookup : (s.ctx ue).pduSessions.lookup psi with
  | none => exact Std.Refl.refl _
  | some pduSess =>
    have hheld : s.sessionRef ue psi = some pduSess.smfInstanceID :=
      congrArg (Option.map _) hlookup
    have hsecure := leaves_secureN1SM ue psi
      (wrapPDUSessionReleaseCommandBody psi pti cause5GSMRegularDeactivation) s
    refine bind_run (hsecure.steps created) fun nasPDU s₁ hrun => ?_
    rw [hrun] at hsecure
    rw [if_pos ⟨href _ hheld, hcfg⟩]
    let s₂ : Handler := { s₁ with
      goroutines := s₁.goroutines ++ [.deleteSMContext pduSess.smfInstanceID] }
    let s₃ : Handler := { s₂ with
      trace := s₂.trace ++ [.pduSessionResourceReleaseCommand ue psi nasPDU] }
    have hs₃ : (send env (.pduSessionResourceReleaseCommand ue psi nasPDU)).run s₂ = (.ok (), s₃) :=
      run_send_of_none s₂ ((congrArg (env.send ·.length) hsecure.trace).trans hsend) _
    show Steps ue created s₁ ((send env (.pduSessionResourceReleaseCommand ue psi nasPDU) >>=
      fun _ => update ue (dropSession psi)).run s₂).2
    rw [run_bind_ok hs₃]
    rw [← hsecure.pendingRef] at hpending
    rw [← hsecure.sessionRef] at hheld
    have hdeletions : s₃.deletions.Perm (pduSess.smfInstanceID :: s₁.deletions) :=
      (List.Perm.of_eq (deletions_emit s₂ rfl)).trans (perm_deletions_spawn s₁ _)
    have hvacate : ((update ue (dropSession psi)).run s₃).2.slots ue created =
        (s₁.slots ue created).vacate psi pduSess.smfInstanceID :=
      slots_eq_vacate_of_none created hpending (sessionRef_dropSession ue s₃ psi)
        (pendingRef_update ue s₃ fun _ => rfl) hdeletions
    constructor
    · rw [hvacate]
      exact .single (.release _ psi _ hheld hpending)
    · intro hdeletes g hg
      rcases mem_append.mp hg with hold | hnew
      · exact hdeletes g hold
      · exact ⟨_, mem_singleton.mp hnew⟩

/-! ## Establishment -/

def createdBy (env : Env) (events : List Event) : List String :=
  match env.callSMF with
  | .ok a => if events.any Event.isCallSMF then [a.smContextRef] else []
  | .error _ => []

theorem createdBy_of_not_called {events : List Event}
    (h : events.any Event.isCallSMF = false) : createdBy env events = [] := by
  unfold createdBy
  rw [h]
  split <;> rfl

/-- Steps of the slots, with what the SMF created on the way. -/
def Extends (ue : Ptr) (env : Env) (created : List String) (s s' : Handler) : Prop :=
  ∃ new, s'.trace = s.trace ++ new ∧ s'.goroutines = s.goroutines ∧
    Relation.ReflTransGen Slots.Step (s.slots ue created)
      (s'.slots ue (created ++ createdBy env new))

theorem Extends.of_eq {env : Env} {created : List String} (new : List Event)
    (htrace : s'.trace = s.trace ++ new) (hgoroutines : s'.goroutines = s.goroutines)
    (hnone : createdBy env new = []) (hslots : s'.slots ue created = s.slots ue created) :
    Extends ue env created s s' := by
  refine ⟨new, htrace, hgoroutines, ?_⟩
  rw [hnone, append_nil, hslots]

theorem Leaves.extends (h : Leaves ue s s') (env : Env) (created : List String) :
    Extends ue env created s s' :=
  .of_eq [] (h.trace.trans (append_nil _).symm) h.goroutines
    (createdBy_of_not_called env rfl) (h.slots created)

instance (env : Env) (created : List String) : Std.Refl (Extends ue env created) where
  refl s := (Std.Refl.refl s : Leaves ue s s).extends env created

theorem extends_sendNASSecuredViaDownlink (body : DownlinkBody) (created : List String)
    (s : Handler) : Extends ue env created s ((sendNASSecuredViaDownlink env ue body).run s).2 := by
  have hleaves := leaves_sendNASSecured ue body s
  rw [sendNASSecuredViaDownlink, run_bind]
  rcases hrun : (sendNASSecured ue body).run s with ⟨o, s₁⟩
  rw [hrun] at hleaves
  cases o with
  | ok pdu =>
    rw [snd_run_send]
    refine .of_eq [.downlinkNASTransport ue pdu] ?_ hleaves.goroutines
      (createdBy_of_not_called env rfl) ?_
    · rw [← hleaves.trace]
    · rw [slots_emit rfl, hleaves.slots]
  | err e | panic | hang => exact hleaves.extends env created

/-- The PDU Session Establishment Accept can be protected. -/
def Acceptable (ue : Ptr) (psi pti : UInt8) (a : SMContextAnswer) (s : Handler) : Prop :=
  ∃ pdu s', (secureN1SM ue psi (wrapPDUSessionEstablishmentAcceptBody psi pti a.n1Resp)).run s =
    (.ok pdu, s')

theorem Acceptable.of_sec (h : Acceptable ue psi pti a s)
    (hsec : s'.sec ue = s.sec ue) : Acceptable ue psi pti a s' := by
  obtain ⟨pdu, t, hrun⟩ := h
  have hpdu := run_sendNASSecured_iff.mp ⟨t, hrun⟩
  rw [← hsec] at hpdu
  exact ⟨pdu, run_sendNASSecured_iff.mpr hpdu⟩

theorem acquire_acceptSession (dnn : Bytes) (snssai : SNSSAISubscribed) {created : List String}
    (hempty : s.sessionRef ue psi = none) (hnew : a.smContextRef ∉ created)
    (haccept : Acceptable ue psi pti a s) :
    let s' := ((acceptSession env ue psi pti dnn snssai a).run s).2
    ∃ pdu, s'.trace = s.trace ++ [.pduSessionResourceSetupRequest ue psi pdu a.n2Info] ∧
      s'.goroutines = s.goroutines ∧
      Slots.Step (s.slots ue created) (s'.slots ue (created ++ [a.smContextRef])) := by
  obtain ⟨pdu, s₁, hrun⟩ := haccept
  have hleaves := leaves_secureN1SM ue psi
    (wrapPDUSessionEstablishmentAcceptBody psi pti a.n1Resp) s
  rw [hrun] at hleaves
  rw [acceptSession, run_bind_ok hrun, run_update_bind, snd_run_send]
  refine ⟨pdu, ?_, hleaves.goroutines, ?_⟩
  · rw [← hleaves.trace]
    rfl
  · rw [← hleaves.sessionRef] at hempty
    rw [slots_emit rfl, ← hleaves.slots created]
    unfold Handler.slots
    rw [sessionRef_insert ue s₁ fun _ => rfl, pendingRef_update ue s₁]
    · exact .acquire (s₁.slots ue created) psi a.smContextRef hempty hnew
    · exact fun _ => rfl

theorem extends_createSession {env : Env} {snssai : SNSSAISubscribed}
    {created : List String} (hempty : s.sessionRef ue psi = none)
    (hcall : ∀ a, env.callSMF = .ok a → a.smContextRef ∉ created ∧ Acceptable ue psi pti a s) :
    Extends ue env created s ((createSession cfg env ue psi pti t snssai).run s).2 := by
  unfold createSession
  split
  · exact Std.Refl.refl _
  · rw [run_load_bind, run_emit_bind]
    let e : Event := .callSMF ue (s.ctx ue).supi (sessionDNN t snssai) psi t.payloadContainer snssai
    let s₁ : Handler := { s with trace := s.trace ++ [e] }
    cases hanswer : env.callSMF with
    | error err =>
      refine .of_eq [e] rfl rfl ?_ (slots_emit rfl created)
      unfold createdBy
      rw [hanswer]
    | ok a =>
      obtain ⟨hnew, haccept⟩ := hcall a hanswer
      have hempty₁ : s₁.sessionRef ue psi = none := hempty
      have haccept₁ : Acceptable ue psi pti a s₁ := haccept.of_sec rfl
      obtain ⟨pdu, htrace, hgoroutines, hstep⟩ :=
        acquire_acceptSession env (sessionDNN t snssai) snssai hempty₁ hnew haccept₁
      refine ⟨[e] ++ [.pduSessionResourceSetupRequest ue psi pdu a.n2Info], ?_, hgoroutines, ?_⟩
      · rw [htrace, append_assoc]
      · have hcreated : createdBy env
            ([e] ++ [.pduSessionResourceSetupRequest ue psi pdu a.n2Info]) = [a.smContextRef] := by
          unfold createdBy
          rw [hanswer]
          rfl
        rw [hcreated, ← slots_emit (e := e) rfl created]
        exact .single hstep

structure Displaces (ue : Ptr) (psi : UInt8) (created : List String) (s s' : Handler) : Prop where
  trace : ∃ new, s'.trace = s.trace ++ new ∧ new.any Event.isCallSMF = false
  goroutines : s'.goroutines = s.goroutines
  sec : s'.sec ue = s.sec ue
  empty : s'.sessionRef ue psi = none
  steps : Relation.ReflTransGen Slots.Step (s.slots ue created) (s'.slots ue created)

theorem displaces_releaseExisting (hcfg : cfg.deleteSMContext = true)
    (href : ∀ ref, s.sessionRef ue psi = some ref → ref ≠ "")
    (hpending : s.pendingRef ue psi = none) :
    ∃ s', (releaseExisting cfg ue psi).run s = (.ok (), s') ∧ Displaces ue psi created s s' := by
  unfold releaseExisting
  rw [run_load_bind]
  cases hlookup : (s.ctx ue).pduSessions.lookup psi with
  | none =>
    have hempty : s.sessionRef ue psi = none := congrArg (Option.map _) hlookup
    exact ⟨s, rfl, ⟨[], (append_nil _).symm, rfl⟩, rfl, rfl, hempty, .refl⟩
  | some existing =>
    have hheld : s.sessionRef ue psi = some existing.smfInstanceID :=
      congrArg (Option.map _) hlookup
    unfold deleteSMContext
    dsimp only
    rw [if_pos ⟨href _ hheld, hcfg⟩, run_emit_bind]
    let s₁ : Handler := { s with trace := s.trace ++ [.deleteSMContext existing.smfInstanceID] }
    let s₂ : Handler := ((update ue (dropSession psi)).run s₁).2
    have hslots : s₂.slots ue created = (s.slots ue created).vacate psi existing.smfInstanceID :=
      slots_eq_vacate_of_none created hpending (sessionRef_dropSession ue s₁ psi)
        (pendingRef_update ue s₁ fun _ => rfl) (perm_deletions_emit s _)
    refine ⟨s₂, rfl, ⟨[.deleteSMContext existing.smfInstanceID], rfl, rfl⟩, rfl, ?_, ?_, ?_⟩
    · exact sec_update s₁ ue _
    · rw [sessionRef_dropSession ue s₁ psi, Function.update_self]
    · rw [hslots]
      exact .single (.release _ psi _ hheld hpending)

theorem Displaces.extends {created : List String} {env : Env} {s₁ : Handler}
    (h : Displaces ue psi created s s₁) (hextends : Extends ue env created s₁ s') :
    Extends ue env created s s' := by
  obtain ⟨old, hold, hsilent⟩ := h.trace
  obtain ⟨new, hnew, hgoroutines, hsteps⟩ := hextends
  refine ⟨old ++ new, ?_, hgoroutines.trans h.goroutines, ?_⟩
  · rw [hnew, hold, append_assoc]
  · have hcreated : createdBy env (old ++ new) = createdBy env new := by
      unfold createdBy
      rw [any_append, hsilent, Bool.false_or]
    rw [hcreated]
    exact h.steps.trans hsteps

theorem extends_establishSession {env : Env} {created : List String}
    (hcfg : cfg.deleteSMContext = true) (href : ∀ ref, s.sessionRef ue psi = some ref → ref ≠ "")
    (hpending : s.pendingRef ue psi = none)
    (hcall : ∀ a, env.callSMF = .ok a → a.smContextRef ∉ created ∧ Acceptable ue psi pti a s) :
    Extends ue env created s ((establishSession cfg env ue psi pti t).run s).2 := by
  obtain ⟨s₁, hrun, hdisplaces⟩ := displaces_releaseExisting created hcfg href hpending
  rw [establishSession, run_bind_ok hrun]
  apply hdisplaces.extends
  refine read_bind rfl fun body => read_bind (snd_run_attempt_lift _ _) fun decoded => ?_
  cases decoded with
  | error e => exact Std.Refl.refl _
  | ok request =>
    dsimp only
    rw [run_load_bind]
    split
    · exact Std.Refl.refl _
    · cases resolveSessionSNSSAI t.snssai (s₁.ctx ue).allowedNSSAI with
      | none => exact extends_sendNASSecuredViaDownlink env _ created s₁
      | some snssai =>
        refine extends_createSession hdisplaces.empty fun a hanswer => ?_
        obtain ⟨hnew, haccept⟩ := hcall a hanswer
        exact ⟨hnew, haccept.of_sec hdisplaces.sec⟩

end

end Handler

/-! ## Runs -/

structure Sessions where
  amf : Handler
  created : List String

/-- What can happen to the sessions of a UE. -/
inductive SessionInput where
  /-- `InitiateNetworkPDUSessionRelease` -/
  | initiate (psi : UInt8) (env : Env)
  /-- PDU SESSION RELEASE COMPLETE -/
  | releaseComplete (psi : UInt8)
  /-- The guard timer of a release expires, whether it was started for the release that is
  pending now or for an earlier one. -/
  | t3592 (psi : UInt8)
  /-- PDU SESSION RELEASE REQUEST -/
  | releaseRequest (psi pti : UInt8) (env : Env)
  /-- PDU SESSION ESTABLISHMENT REQUEST -/
  | establish (psi pti : UInt8) (t : ULNASTransport) (env : Env)
  /-- The turn of a goroutine. -/
  | background (before : List Goroutine) (g : Goroutine) (after : List Goroutine)

namespace Sessions

open Handler

def establish (cfg : Config) (ue : Ptr) (psi pti : UInt8) (t : ULNASTransport) (env : Env)
    (s : Sessions) : Sessions :=
  let amf := ((establishSession cfg env ue psi pti t).run s.amf).2
  { amf, created := s.created ++ createdBy env (amf.trace.drop s.amf.trace.length) }

def step (cfg : Config) (ue : Ptr) : System Sessions SessionInput
  | s, .initiate psi env, s' =>
    s' = { s with amf := ((initiateNetworkPDUSessionRelease env ue psi).run s.amf).2 }
  | s, .releaseComplete psi, s' =>
    s' = { s with amf := ((completeNetworkPDUSessionRelease cfg ue psi).run s.amf).2 }
  | s, .t3592 psi, s' =>
    s' = { s with amf := ((completeNetworkPDUSessionRelease cfg ue psi).run s.amf).2 }
  | s, .releaseRequest psi pti env, s' =>
    s' = { s with amf := ((handlePDUSessionRelease cfg env ue psi pti).run s.amf).2 }
  | s, .establish psi pti t env, s' => s' = s.establish cfg ue psi pti t env
  | s, .background before g after, s' =>
    s.amf.goroutines = before ++ g :: after ∧ s' = { s with
        amf := ((Handler.background cfg g).run { s.amf with goroutines := before ++ after }).2 }

def Orderly (ue : Ptr) (s : Sessions) : SessionInput → Prop
  | .releaseRequest psi _ env =>
    s.amf.pendingRef ue psi = none ∧ env.send s.amf.trace.length = none
  | .establish psi pti _ env =>
    s.amf.pendingRef ue psi = none ∧ ∀ a, env.callSMF = .ok a →
      a.smContextRef ≠ "" ∧ a.smContextRef ∉ s.created ∧ Acceptable ue psi pti a s.amf
  | _ => True

structure Start (ue : Ptr) (s : Sessions) : Prop where
  sessions : ∀ psi, s.amf.sessionRef ue psi = none
  pending : ∀ psi, s.amf.pendingRef ue psi = none
  trace : s.amf.trace = []
  goroutines : s.amf.goroutines = []
  created : s.created = []

structure OwnRelease (cfg : Config) (ue : Ptr) (s : Sessions) : Prop where
  /-- What is pending for a session is the SM context of that session, and completing the
  release drops that session and deletes that SM context, which was not deleted before. -/
  complete : ∀ psi ref, s.amf.pendingRef ue psi = some ref →
    s.amf.sessionRef ue psi = some ref ∧ ref ∉ s.amf.deletions ∧
      let s' := ((completeNetworkPDUSessionRelease cfg ue psi).run s.amf).2
      s'.sessionRef ue = update (s.amf.sessionRef ue) psi none ∧
        s'.deletions.Perm (ref :: s.amf.deletions)
  /-- No SM context is deleted twice. -/
  once : s.amf.deletions.Nodup
  /-- Every SM context that was created and not deleted belongs to a session. -/
  kept : ∀ ref ∈ s.created, ref ∉ s.amf.deletions → ∃ psi, s.amf.sessionRef ue psi = some ref

/-- The handler refines `Slots`. -/
structure Inv (ue : Ptr) (s : Sessions) : Prop where
  sound : (s.amf.slots ue s.created).Sound
  named : "" ∉ s.created
  deletes : ∀ g ∈ s.amf.goroutines, ∃ ref, g = .deleteSMContext ref

section

variable {cfg : Config} {ue : Ptr} {s s' : Sessions}

theorem Inv.held_ne (h : Inv ue s) (hheld : s.amf.sessionRef ue psi = some ref) : ref ≠ "" := by
  intro heq
  rw [heq] at hheld
  exact h.named (h.sound.known psi "" hheld)

theorem Inv.pending_ne (h : Inv ue s) (hpending : s.amf.pendingRef ue psi = some ref) : ref ≠ "" :=
  h.held_ne (h.sound.pending psi ref hpending)

theorem Start.inv (h : Start ue s) : Inv ue s := by
  have hslots : s.amf.slots ue s.created = ⟨fun _ => none, fun _ => none, [], 0⟩ := by
    unfold slots deletions
    rw [funext h.sessions, funext h.pending, h.created, h.trace, h.goroutines]
    rfl
  refine ⟨?_, ?_, ?_⟩
  · rw [hslots]
    exact .empty
  · rw [h.created]
    exact not_mem_nil
  · rw [h.goroutines]
    exact fun _ hg => absurd hg not_mem_nil

theorem Inv.steps (h : Inv ue s) {amf : Handler} (hsteps : Steps ue s.created s.amf amf) :
    Inv ue { s with amf := amf } :=
  ⟨h.sound.steps hsteps.1, h.named, hsteps.2 h.deletes⟩

theorem Inv.step (h : Inv ue s) (hcfg : cfg.deleteSMContext = true) {l : SessionInput}
    (hstep : (step cfg ue).when (Orderly ue) s l s') : Inv ue s' := by
  obtain ⟨horderly, hstep⟩ := hstep
  cases l with
  | initiate psi env =>
    rw [hstep]
    exact h.steps (steps_initiateNetworkPDUSessionRelease env psi s.created s.amf)
  | releaseComplete psi | t3592 psi =>
    rw [hstep]
    exact h.steps (steps_completeNetworkPDUSessionRelease psi s.created hcfg fun _ => h.pending_ne)
  | releaseRequest psi pti env =>
    rw [hstep]
    exact h.steps (steps_handlePDUSessionRelease psi pti s.created hcfg (fun _ => h.held_ne)
      horderly.1 horderly.2)
  | establish psi pti t env =>
    have hamf : s'.amf = _ := congrArg Sessions.amf hstep
    have hcreated : s'.created =
        s.created ++ createdBy env (s'.amf.trace.drop s.amf.trace.length) := by
      rw [hstep]
      rfl
    obtain ⟨hpending, hcall⟩ := horderly
    have hextends : Extends ue env s.created s.amf s'.amf := by
      rw [hamf]
      exact extends_establishSession hcfg (fun _ => h.held_ne) hpending
        fun a hanswer => (hcall a hanswer).2
    obtain ⟨new, htrace, hgoroutines, hsteps⟩ := hextends
    rw [htrace, drop_left] at hcreated
    rw [← hcreated] at hsteps
    refine ⟨h.sound.steps hsteps, ?_, ?_⟩
    · rw [hcreated, mem_append, not_or]
      refine ⟨h.named, fun hmem => ?_⟩
      unfold createdBy at hmem
      cases hanswer : env.callSMF with
      | error e =>
        rw [hanswer] at hmem
        cases hmem
      | ok a =>
        rw [hanswer] at hmem
        dsimp only at hmem
        split at hmem
        · exact (hcall a hanswer).1 (mem_singleton.mp hmem).symm
        · cases hmem
    · rw [hgoroutines]
      exact h.deletes
  | background before g after =>
    obtain ⟨hgoroutines, hs'⟩ := hstep
    obtain ⟨ref, rfl⟩ := h.deletes g (hgoroutines ▸ mem_append_right _ mem_cons_self)
    have hslots : s'.amf.slots ue s'.created = s.amf.slots ue s.created := by
      have hdeletions := perm_deletions_background s.amf hgoroutines
      rw [hs']
      exact congrArg _ (Multiset.coe_eq_coe.mpr hdeletions)
    refine ⟨?_, ?_, ?_⟩
    · rw [hslots]
      exact h.sound
    · rw [hs']
      exact h.named
    · rw [hs']
      intro g hg
      refine h.deletes g ?_
      rw [hgoroutines]
      exact ((sublist_cons_self _ _).append_left before).subset hg

theorem Inv.ownRelease (h : Inv ue s) (hcfg : cfg.deleteSMContext = true) :
    OwnRelease cfg ue s := by
  refine ⟨?_, h.sound.once, ?_⟩
  · intro psi ref hpending
    have hheld := h.sound.pending psi ref hpending
    have hslots := slots_completeNetworkPDUSessionRelease s.created hcfg (h.pending_ne hpending)
      hpending
    refine ⟨hheld, h.sound.alive psi ref hheld, congrArg Slots.held hslots, ?_⟩
    exact Multiset.coe_eq_coe.mp (congrArg Slots.deleted hslots)
  · intro ref hcreated hdeleted
    exact (h.sound.kept ref hcreated).resolve_left hdeleted

/-- In every order of the five kinds of input, a release by the network ends its own session,
once, and no SM context is lost, as long as the inputs are orderly. -/
theorem ownRelease_of_run {start : Sessions} {ls : List SessionInput}
    (hcfg : cfg.deleteSMContext = true) (hstart : Start ue start)
    (hrun : Run ((step cfg ue).when (Orderly ue)) start ls s) : OwnRelease cfg ue s := by
  have hinv := hrun.invariant (I := Inv ue) hstart.inv fun _ _ _ h hstep => h.step hcfg hstep
  exact hinv.ownRelease hcfg

end

/-! ## An order that loses a session -/

def smfClient : Config := { Config.minimal with callSMF := true, deleteSMContext := true }

def sessionRequest : ULNASTransport where
  payloadContainerType := payloadContainerTypeN1SM
  payloadContainer := [0x2E, 0x05, 0x01, 0xC1]
  pduSessionID := some 5

def creating (ref : String) : Env where
  callSMF := .ok ⟨ref, [], []⟩

def idle : Sessions := ⟨registeredUE, []⟩

def established : Sessions := idle.establish smfClient 0 5 1 sessionRequest (creating "A")

def releasing : Sessions :=
  { established with amf := ((initiateNetworkPDUSessionRelease {} 0 5).run established.amf).2 }

/-- The UE asks for the session again and gets the SM context B. -/
def reestablished : Sessions := releasing.establish smfClient 0 5 1 sessionRequest (creating "B")

def expired : Sessions :=
  { reestablished with
    amf := ((completeNetworkPDUSessionRelease smfClient 0 5).run reestablished.amf).2 }

theorem start_idle : Start 0 idle := ⟨fun _ => rfl, fun _ => rfl, rfl, rfl, rfl⟩

theorem ownRelease_of_run_releasing :
    releasing.amf.pendingRef 0 5 = some "A" ∧ OwnRelease smfClient 0 releasing := by
  have hcall : ∀ a, (creating "A").callSMF = .ok a → a.smContextRef ≠ "" ∧
      a.smContextRef ∉ idle.created ∧ Acceptable 0 5 1 a idle.amf := by
    intro a ha
    cases ha
    refine ⟨by decide, not_mem_nil, ?_⟩
    exact ⟨_, _, rfl⟩
  have hestablish : ((step smfClient 0).when (Orderly 0)) idle
      (.establish 5 1 sessionRequest (creating "A")) established :=
    ⟨⟨rfl, hcall⟩, rfl⟩
  have hinitiate : ((step smfClient 0).when (Orderly 0)) established (.initiate 5 {}) releasing :=
    ⟨trivial, rfl⟩
  exact ⟨by decide +kernel,
    ownRelease_of_run rfl start_idle ((Run.nil.snoc _ hestablish).snoc _ hinitiate)⟩

/-- B loses its session to the release of A: it is not deleted, and nothing is left that would
delete it. -/
theorem reestablished_lost :
    ¬∀ (cfg : Config) (ue : Ptr) (start s : Sessions) (ls : List SessionInput),
      cfg.deleteSMContext = true → Start ue start → Run (step cfg ue) start ls s →
      OwnRelease cfg ue s := by
  intro h
  have hA : step smfClient 0 idle (.establish 5 1 sessionRequest (creating "A")) established := rfl
  have hinitiate : step smfClient 0 established (.initiate 5 {}) releasing := rfl
  have hB : step smfClient 0 releasing (.establish 5 1 sessionRequest (creating "B"))
    reestablished := rfl
  have hexpire : step smfClient 0 reestablished (.t3592 5) expired := rfl
  have hrun := (((Run.nil.snoc _ hA).snoc _ hinitiate).snoc _ hB).snoc _ hexpire
  have hown := h smfClient 0 idle expired _ rfl start_idle hrun
  have hcreated : expired.created = ["A", "B"] := by decide +kernel
  have hdeletions : expired.amf.deletions = ["A", "A"] := by decide +kernel
  have hnone : (expired.amf.ctx 0).pduSessions.entries = [] := by decide +kernel
  obtain ⟨psi, hpsi⟩ := hown.kept "B" (by rw [hcreated]; decide) (by rw [hdeletions]; decide)
  have hempty : (expired.amf.ctx 0).pduSessions = ∅ := AList.ext hnone
  unfold sessionRef at hpsi
  rw [hempty] at hpsi
  cases hpsi

end Sessions

end Claudia5gc.Amf
