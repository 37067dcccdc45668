import Claudia5gc.Amf.Authentication

/-!
# The slice of a new session

The SMF is asked for a session on the slice that `resolveSessionSNSSAI` picks.  As long as the UE
has an Allowed NSSAI this is one of its entries, and how a slice gets there is the subject of the
lives of UEs: from the subscription, and through the authentication of the slice where the
subscription asks for it.
-/

namespace Claudia5gc.Amf

open Go Nas Proc List

theorem mem_of_resolveSessionSNSSAI {t : Option SNSSAITransport}
    {allowed : List SNSSAISubscribed} {s : SNSSAISubscribed}
    (h : resolveSessionSNSSAI t allowed = some s) (hne : allowed ≠ []) : s ∈ allowed := by
  unfold resolveSessionSNSSAI at h
  split at h
  · next t =>
    split at h
    · next a hfind =>
      obtain rfl := Option.some.inj h
      exact mem_of_find?_eq_some hfind
    · rw [if_pos hne] at h
      cases h
  · split at h
    · obtain rfl := Option.some.inj h
      exact mem_cons_self
    · exact absurd rfl hne

namespace Handler

def newEvents (s s' : Handler) : List Event := s'.trace.drop s.trace.length

theorem Emits.newEvents {P : Event → Prop} {s s' : Handler} (h : Emits P s s') :
    ∀ e ∈ newEvents s s', P e := by
  obtain ⟨new, htrace, hnew⟩ := h
  intro e he
  rw [Handler.newEvents, htrace, drop_left] at he
  exact hnew e he

theorem resolved_of_callSMF {cfg : Config} {s s' : Handler} {input : Input}
    (h : step cfg s input s') {ue : Ptr} {supi : String} {dnn n1SmMsg : Bytes} {psi : UInt8}
    {snssai : SNSSAISubscribed} (hcall : .callSMF ue supi dnn psi n1SmMsg snssai ∈ newEvents s s') :
    ∃ t, resolveSessionSNSSAI t (s.ctx ue).allowedNSSAI = some snssai := by
  cases input with
  | nas ue' pdu env =>
    have hhandled := handled_handleNASMessage cfg env ue' pdu s
    rw [← show s' = _ from h] at hhandled
    cases hhandled with
    | advances hadvances => exact (hadvances.events.newEvents _ hcall).elim
    | transport hframe =>
      obtain ⟨rfl, hresolve⟩ := hframe.2.newEvents _ hcall
      exact hresolve
  | background before g after =>
    have hquiet := Still.quiet (still_background cfg g) { s with goroutines := before ++ after }
    rw [← h.2] at hquiet
    exact (Emits.newEvents hquiet.2 _ hcall).elim

/-- The UDM has answered with a subscription that has the slice. -/
def SubscribedIn (ue : Ptr) (events : List Event) (s : SNSSAISubscribed) : Prop :=
  ∃ sub, .amSubscriptionData ue sub ∈ events ∧ s ∈ sub.allowedNSSAI

theorem subscribedIn_iff {ue : Ptr} {events : List Event} {s : SNSSAISubscribed} :
    SubscribedIn ue events s ↔ Life.Subscribed (events.filterMap (Event.mark ue)) s := by
  constructor
  · intro h
    obtain ⟨sub, hsub, hs⟩ := h
    exact ⟨_, mem_filterMap.mpr ⟨_, hsub, if_pos rfl⟩, hs⟩
  · intro h
    obtain ⟨slices, hslices, hs⟩ := h
    obtain ⟨e, he, hmark⟩ := mem_filterMap.mp hslices
    cases e with
    | amSubscriptionData ue' sub =>
      simp only [Event.mark, Option.ite_none_right_eq_some, Option.some.injEq,
        Mark.subscription.injEq] at hmark
      obtain ⟨rfl, rfl⟩ := hmark
      exact ⟨sub, he, hs⟩
    | authenticated ue' knasint | securityReset ue' | registered ue' sec =>
      simp [Event.mark] at hmark
    | _ => cases hmark

/-- The UDM says the same of a slice wherever it mentions it. -/
def ConsistentIn (ue : Ptr) (events : List Event) : Prop :=
  ∀ a b, SubscribedIn ue events a → SubscribedIn ue events b → sameSubscribed a b = true →
    a.subjectToNSSAA = b.subjectToNSSAA

/-! ## Two runs -/

def slicing : Config := { Config.minimal with nssaa := true, callSMF := true }

variable (slices : List SNSSAISubscribed)

def registration : List (Bytes × Env) :=
  authentication ++ [(forgedSMC, { willing with amSubscriptionData := .ok ⟨slices, 1, 1⟩ })]

def establishmentPDU : Bytes :=
  [0x7E, 0x00, 0x67, 0x01, 0x00, 0x04, 0x2E, 0x05, 0x01, 0xC1, 0x22, 0x04, 0x01, 0x00, 0x00, 0x01]

def registeredFor : Handler :=
  handleAll slicing 0 (registration slices) (allocated started 7)

def askedFor : Handler :=
  ((handleNASMessage slicing {} 0 establishmentPDU).run (registeredFor slices)).2

theorem run_registeredFor : Run (step slicing) (allocated started 7)
      ((registration slices).map fun p => .nas 0 p.1 p.2) (registeredFor slices) :=
  run_handleAll ..

def basicSlice : SNSSAISubscribed := { sst := 1, sd := "000001" }
def guardedSlice : SNSSAISubscribed := { sst := 1, sd := "000001", subjectToNSSAA := true }

theorem callSMF_basicSlice : ((registeredFor [basicSlice]).ctx 0).allowedNSSAI = [basicSlice] ∧
    .callSMF 0 "imsi-001010000000001" (stringBytes "internet") 5 [0x2E, 0x05, 0x01, 0xC1]
      basicSlice ∈ newEvents (registeredFor [basicSlice]) (askedFor [basicSlice]) := by
  decide +kernel

theorem callSMF_guardedSlice : ((registeredFor [guardedSlice]).ctx 0).allowedNSSAI = [] ∧
    ((registeredFor [guardedSlice]).ctx 0).pendingNSSAA = [guardedSlice] ∧
    .callSMF 0 "imsi-001010000000001" (stringBytes "internet") 5 [0x2E, 0x05, 0x01, 0xC1]
      basicSlice ∈ newEvents (registeredFor [guardedSlice]) (askedFor [guardedSlice]) := by
  decide +kernel

end Handler

end Claudia5gc.Amf
