import Claudia5gc.Amf.Integrity
import Claudia5gc.Amf.Refinement

/-!
# Authentication precedes registration

Nothing in Phase 3 asks whether Phase 2 has taken place.  That it has follows from the keys: a
security context is put into use by Phase 2 alone, so a UE that becomes registered while it has one
in use has been confirmed by the AUSF, and its keys are the ones that were derived then.
-/

namespace Claudia5gc.Amf.Handler

open Go Nas List

/-- The AUSF has confirmed `ue`, with `knasint` as the outcome, and since then the keys
have neither been derived again nor been erased. -/
def ConfirmedSince (ue : Ptr) (knasint : Bytes) (events : List Event) : Prop :=
  ∃ earlier later, events = earlier ++ .authenticated ue knasint :: later ∧
    ∀ e ∈ later, e ≠ .securityReset ue ∧ ∀ knasint', e ≠ .authenticated ue knasint'

theorem mark_eq_authenticated {ue : Ptr} {e : Event} {knasint : Bytes}
    (h : e.mark ue = some (.authenticated knasint)) : e = .authenticated ue knasint := by
  cases e with
  | authenticated ue' knasint' =>
    simp only [Event.mark, Option.ite_none_right_eq_some, Option.some.injEq,
      Mark.authenticated.injEq] at h
    rw [h.1, h.2]
  | amSubscriptionData ue' sub | securityReset ue' | registered ue' sec =>
    simp [Event.mark] at h
  | _ => cases h

theorem confirmedSince_of_authenticated {ue : Ptr} {knasint : Bytes} {events : List Event}
    (h : Life.Authenticated (events.filterMap (Event.mark ue)) knasint) :
    ConfirmedSince ue knasint events := by
  obtain ⟨earlier, later, heq, hlater⟩ := h
  obtain ⟨before, rest, rfl, -, hrest⟩ := filterMap_eq_append_iff.mp heq
  obtain ⟨skipped, e, after, rfl, hskipped, he, hafter⟩ := filterMap_eq_cons_iff.mp hrest
  refine ⟨before ++ skipped, after, by rw [mark_eq_authenticated he, append_assoc], ?_⟩
  intro e' he'
  have hmark : ∀ m, e'.mark ue = some m → ¬m.Rekeys := fun m hm =>
    hlater m (hafter ▸ mem_filterMap.mpr ⟨e', he', hm⟩)
  constructor
  · intro hreset
    exact hmark .securityReset (by rw [hreset]; exact if_pos rfl) trivial
  · intro knasint' hauth
    exact hmark (.authenticated knasint') (by rw [hauth]; exact if_pos rfl) trivial

/-- Whatever PDUs come in whatever order and whatever the other network functions answer:
when a context that was freshly allocated becomes registered with a security context in
use, the AUSF has confirmed the UE since the last reset, and the integrity key in use is
the one that was derived then. -/
theorem confirmed_of_registered (cfg : Config) (s : Handler) (ranID : Int64)
    {inputs : List Input} {t : Handler} (run : Run (step cfg) (allocated s ranID) inputs t)
    {before after : List Event} {sec : SecurityContext}
    (htrace : t.trace = before ++ .registered (newUE s ranID) sec :: after)
    (hactive : sec.active = true) : ConfirmedSince (newUE s ranID) sec.knasint before := by
  have hsteps := life_run run (newUE s ranID)
  rw [life_allocated] at hsteps
  have hkeyed : Life.Keyed (life (newUE s ranID) t) :=
    hsteps.invariant Life.Keyed.fresh fun _ _ h step => h.step step
  refine confirmedSince_of_authenticated (hkeyed.registered _ _
    (after.filterMap (Event.mark (newUE s ranID))) ?_)
  have hmark : (Event.registered (newUE s ranID) sec).mark (newUE s ranID) =
      some (.registered true sec.knasint) := by
    rw [← hactive]
    exact if_pos rfl
  change t.trace.filterMap _ = _
  rw [htrace, filterMap_append, filterMap_cons_some hmark]

/-! ## A run -/

def started : Handler :=
  newHandler (Manager.newManager ⟨"001", "01", 1, 1, 1⟩ false false)

def registrationRequestPDU : Bytes :=
  [0x7E, 0x00, 0x41, 0x79, 0x00, 0x0D, 0x01, 0x00, 0xF1, 0x10, 0x00, 0x00, 0x00, 0x00, 0x00,
    0x00, 0x00, 0x00, 0x10]

def authenticationResponsePDU : Bytes := [0x7E, 0x00, 0x57, 0x2D, 0x01, 0xAA]

/-- A Security Mode Complete with zeros for the MAC. -/
def forgedSMC : Bytes := [0x7E, 0x04, 0, 0, 0, 0, 0, 0x7E, 0x00, 0x5E]

/-- The AUSF has a challenge, confirms any answer to it, and there is a subscription with
one slice. -/
def willing : Env where
  initiateAuth := .ok ⟨"1", Vector.replicate 16 1, Vector.replicate 16 1⟩
  confirmAuth := .ok ⟨"imsi-001010000000001", replicate 32 5⟩
  amSubscriptionData := .ok ⟨[{ sst := 1, sd := "000001" }], 1, 1⟩

def authentication : List (Bytes × Env) :=
  [(registrationRequestPDU, willing), (authenticationResponsePDU, willing)]

def keyed : Handler := handleAll .minimal 0 authentication (allocated started 7)

def completed : Handler := ((handleNASMessage .minimal willing 0 forgedSMC).run keyed).2

theorem run_keyed : Run (step .minimal) (allocated started 7)
    (authentication.map fun p => .nas 0 p.1 p.2) keyed :=
  run_handleAll ..

theorem exists_registered_completed : ∃ sec : SecurityContext, sec.active = true ∧
      .registered 0 sec ∈ completed.trace.drop keyed.trace.length := by
  have h : (completed.trace.drop keyed.trace.length).any (fun
      | .registered ue sec => ue = 0 && sec.active
      | _ => false) = true := by
    decide +kernel
  obtain ⟨e, he, hsec⟩ := any_eq_true.mp h
  cases e with
  | registered ue sec =>
    simp only [Bool.and_eq_true, decide_eq_true_eq] at hsec
    exact ⟨sec, hsec.2, hsec.1 ▸ he⟩
  | _ => cases hsec

theorem confirmed_of_registered_completed :
    ∃ before sec after, completed.trace = before ++ .registered 0 sec :: after ∧
      sec.active = true ∧ ConfirmedSince 0 sec.knasint before := by
  obtain ⟨sec, hactive, hsec⟩ := exists_registered_completed
  obtain ⟨before, after, htrace⟩ := append_of_mem (mem_of_mem_drop hsec)
  have hrun : Run (step .minimal) (allocated started 7) _ completed :=
    run_keyed.snoc (.nas 0 forgedSMC willing) rfl
  exact ⟨before, sec, after, htrace, hactive,
    confirmed_of_registered .minimal started 7 hrun htrace hactive⟩

/-- The MAC of the Security Mode Complete that makes the UE registered is not checked. -/
theorem registered_without_valid_mac :
    ¬∀ (cfg : Config) (s : Handler) (ranID : Int64) (inputs : List Input) (t : Handler)
      (pdu : Bytes) (env : Env) (sec : SecurityContext),
      Run (step cfg) (allocated s ranID) inputs t → .registered (newUE s ranID) sec ∈
        ((handleNASMessage cfg env (newUE s ranID) pdu).run t).2.trace.drop t.trace.length →
      ConfirmedSince (newUE s ranID) sec.knasint t.trace ∧
        verifyMAC (t.ctx (newUE s ranID)).securityCtx pdu = .ok true := by
  intro h
  obtain ⟨sec, -, hsec⟩ := exists_registered_completed
  have hmac : verifyMAC (keyed.ctx 0).securityCtx forgedSMC ≠ .ok true := by decide +kernel
  have hue : newUE started 7 = 0 := rfl
  have hcase := h .minimal started 7 _ keyed forgedSMC willing sec run_keyed
  rw [hue] at hcase
  exact hmac (hcase hsec).2

end Claudia5gc.Amf.Handler
