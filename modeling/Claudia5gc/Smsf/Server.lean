import Claudia5gc.Go.Memory
import Claudia5gc.Go.Run

/-!
# The SMS contexts of the SMSF

Activate puts one context under the identifier of its path and under the SUPI of its body, and
Deactivate takes out the entry of its path alone.  A context is known by the number of the Activate
that made it.
-/

namespace Claudia5gc.Smsf

open Go Function

inductive State where
  | inactive
  | active
  deriving DecidableEq

structure UESMSContext where
  supi : String
  gpsi : String
  pei : String
  amfID : String
  accessType : String
  amfCallbackURI : String
  state : State

structure ActivateRequest where
  supi : String
  gpsi : String := ""
  pei : String := ""
  amfID : String := ""
  accessType : String
  amfCallbackURI : String := ""

inductive Answer where
  | created
  | noContent
  | problem (status : Nat) (cause detail : String)
  deriving DecidableEq

structure Server where
  contexts : Map String (Nat × UESMSContext) := ∅
  activations : Nat := 0

namespace Server

variable (s : Server)

/-- The context of an Activate under the path and, if that is another one, under the SUPI. -/
def store (supiOrGpsi : String) (req : ActivateRequest) : Server :=
  let uectx := (s.activations,
    ⟨req.supi, req.gpsi, req.pei, req.amfID, req.accessType, req.amfCallbackURI, .active⟩)
  let contexts := s.contexts.insert supiOrGpsi uectx
  { contexts := if req.supi ≠ supiOrGpsi then contexts.insert req.supi uectx else contexts
    activations := s.activations + 1 }

/-- A body that is no JSON is `none`. -/
def handleActivate (supiOrGpsi : String) : Option ActivateRequest → Answer × Server
  | none => (.problem 400 "MANDATORY_IE_MISSING" "invalid JSON body", s)
  | some req =>
    if req.supi = "" then
      (.problem 400 "MANDATORY_IE_MISSING" "supi is mandatory in request body", s)
    else if req.accessType = "" then
      (.problem 400 "MANDATORY_IE_MISSING" "accessType is mandatory", s)
    else (.created, s.store supiOrGpsi req)

def handleDeactivate (supiOrGpsi : String) : Answer × Server :=
  match s.contexts.lookup supiOrGpsi with
  | none => (.problem 404 "CONTEXT_NOT_FOUND" ("no active SMS context for " ++ supiOrGpsi), s)
  | some _ => (.noContent, { s with contexts := s.contexts.erase supiOrGpsi })

/-- The context with which UplinkSMS and the MT trigger go on; without one they answer 404. -/
def active (id : String) : Option Nat :=
  (s.contexts.lookup id).bind fun c => if c.2.state = .active then some c.1 else none

theorem active_store (path : String) (req : ActivateRequest) (id : String) :
    (s.store path req).active id =
      if id = path ∨ id = req.supi then some s.activations else s.active id := by
  rw [active, store]
  by_cases hsupi : id = req.supi <;> by_cases hpath : id = path <;>
    split_ifs <;> simp_all [active, Map.lookup_insert_ite]

theorem active_erase (path id : String) :
    ({ s with contexts := s.contexts.erase path } : Server).active id =
      if id = path then none else s.active id := by
  rw [active, Map.lookup_erase_ite]
  split <;> rfl

end Server

/-! ## The UEs -/

inductive Request where
  | activate (supiOrGpsi : String) (body : Option ActivateRequest)
  | deactivate (supiOrGpsi : String)

variable {υ : Type} [DecidableEq υ]

/-- The server, and of each UE the context of its latest Activate unless a Deactivate has been
answered with 204 since. -/
structure View (υ : Type) where
  smsf : Server := {}
  latest : υ → Option Nat := fun _ => none

/-- Whoever an identifier belongs to, the UE of an Activate is the one of the SUPI in its body. -/
def View.next (ue : String → υ) (v : View υ) : Request → View υ
  | .activate path body =>
    match v.smsf.handleActivate path body, body with
    | (.created, smsf), some req =>
      ⟨smsf, update v.latest (ue req.supi) (some v.smsf.activations)⟩
    | (_, smsf), _ => ⟨smsf, v.latest⟩
  | .deactivate path =>
    match v.smsf.handleDeactivate path with
    | (.noContent, smsf) => ⟨smsf, update v.latest (ue path) none⟩
    | (_, smsf) => ⟨smsf, v.latest⟩

/-- An identifier that is served leads to the context of the latest Activate of its UE. -/
def Correct (ue : String → υ) (active : String → Option Nat) (latest : υ → Option Nat) : Prop :=
  ∀ id n, active id = some n → latest (ue id) = some n

/-- The request names all identifiers under which its UE is served, and no other UE. -/
def Complete (ue : String → υ) (v : View υ) : Request → Prop
  | .activate path (some req) => req.supi ≠ "" → req.accessType ≠ "" → ue path = ue req.supi ∧
    ∀ id, id ≠ path → id ≠ req.supi → ue id = ue req.supi → v.smsf.active id = none
  | .activate _ none => True
  | .deactivate path => v.smsf.contexts.lookup path ≠ none →
    ∀ id, id ≠ path → ue id = ue path → v.smsf.active id = none

/-- A request that puts one value under some keys, for one UE. -/
theorem correct_update_iff {ue : String → υ} {active active' : String → Option Nat}
    {latest : υ → Option Nat} {keys : String → Prop} [DecidablePred keys] {u : υ} {x : Option Nat}
    (h : Correct ue active latest) (hfresh : ∀ u n, latest u = some n → x ≠ some n)
    (hactive : ∀ id, active' id = if keys id then x else active id) :
    Correct ue active' (update latest u x) ↔
      (x ≠ none → ∀ id, keys id → ue id = u) ∧ ∀ id, ¬keys id → ue id = u → active id = none := by
  constructor
  · refine fun hafter => ⟨fun hx id hk => ?_, fun id hk hu => ?_⟩
    · obtain ⟨n, rfl⟩ := Option.ne_none_iff_exists'.1 hx
      by_contra hne
      have hn := hafter id n (by rw [hactive, if_pos hk])
      rw [update_of_ne hne] at hn
      exact hfresh _ n hn rfl
    · rw [Option.eq_none_iff_forall_ne_some]
      intro n hn
      have hnew := hafter id n (by rw [hactive, if_neg hk, hn])
      rw [hu, update_self] at hnew
      exact hfresh _ n (h id n hn) hnew
  · rintro ⟨hkeys, hrest⟩ id n hn
    rw [hactive] at hn
    split at hn
    · next hk => rw [hkeys (by simp [hn]) id hk, update_self, hn]
    · next hk =>
      have hne : ue id ≠ u := fun hu => by simp [hrest id hk hu] at hn
      rw [update_of_ne hne]
      exact h id n hn

variable {ue : String → υ} {v : View υ}

theorem correct_next_iff (h : Correct ue v.smsf.active v.latest)
    (hlt : ∀ u n, v.latest u = some n → n < v.smsf.activations) (r : Request) :
    Correct ue (v.next ue r).smsf.active (v.next ue r).latest ↔ Complete ue v r := by
  cases r with
  | activate path body =>
    cases body with
    | none => exact iff_of_true h trivial
    | some req =>
      by_cases haccept : req.supi = "" ∨ req.accessType = ""
      · rcases haccept with hsupi | haccess
        · simpa [View.next, Server.handleActivate, Complete, hsupi] using h
        · by_cases hsupi : req.supi = "" <;>
            simpa [View.next, Server.handleActivate, Complete, hsupi, haccess] using h
      · obtain ⟨hsupi, haccess⟩ := not_or.1 haccept
        have hiff := correct_update_iff (u := ue req.supi) h
          (fun u n hn heq => Nat.ne_of_gt (hlt u n hn) (Option.some.inj heq))
          (v.smsf.active_store path req)
        simpa [View.next, Server.handleActivate, Complete, hsupi, haccess, or_imp, forall_and]
          using hiff
  | deactivate path =>
    cases hlookup : v.smsf.contexts.lookup path with
    | none => simpa [View.next, Server.handleDeactivate, Complete, hlookup] using h
    | some c =>
      have hiff := correct_update_iff (u := ue path) h (by simp) (v.smsf.active_erase path)
      simpa [View.next, Server.handleDeactivate, Complete, hlookup] using hiff

theorem lt_activations_next (hlt : ∀ u n, v.latest u = some n → n < v.smsf.activations)
    (r : Request) {u : υ} {n : Nat} (hn : (v.next ue r).latest u = some n) :
    n < (v.next ue r).smsf.activations := by
  cases r with
  | activate path body =>
    cases body with
    | none => exact hlt u n hn
    | some req =>
      revert hn
      simp only [View.next, Server.handleActivate]
      split_ifs with hsupi haccess
      · exact hlt u n
      · exact hlt u n
      · intro hn
        rcases update_eq_some.1 hn with ⟨-, hfresh⟩ | ⟨-, hn⟩
        · exact Nat.lt_succ_of_le (Nat.le_of_eq (Option.some.inj hfresh).symm)
        · exact Nat.lt_succ_of_lt (hlt u n hn)
  | deactivate path =>
    revert hn
    rw [View.next, Server.handleDeactivate]
    cases v.smsf.contexts.lookup path with
    | none => exact hlt u n
    | some c =>
      intro hn
      rcases update_eq_some.1 hn with ⟨-, hn⟩ | ⟨-, hn⟩
      · cases hn
      · exact hlt u n hn

theorem active_deactivate_of_ne (v : View υ) {path id : String} (hne : ue id ≠ ue path) :
    (v.next ue (.deactivate path)).smsf.active id = v.smsf.active id := by
  rw [View.next, Server.handleDeactivate]
  cases v.smsf.contexts.lookup path with
  | none => rfl
  | some c =>
    have hid : id ≠ path := fun h => hne (congrArg ue h)
    exact (v.smsf.active_erase path id).trans (if_neg hid)

/-- After each request all identifiers of each UE are served by the context of its latest Activate,
and none of them after a Deactivate, exactly when each request names all identifiers under which
its UE is served. A Deactivate never changes how another UE is served. -/
theorem deactivation_effective_iff (ue : String → υ) (rs : List Request) :
    ((∀ pre r, pre ++ [r] <+: rs → Correct ue ((pre.foldl (View.next ue) {}).next ue r).smsf.active
          ((pre.foldl (View.next ue) {}).next ue r).latest) ↔
      ∀ pre r, pre ++ [r] <+: rs → Complete ue (pre.foldl (View.next ue) {}) r) ∧
    ∀ (v : View υ) (path id : String), ue id ≠ ue path →
      (v.next ue (.deactivate path)).smsf.active id = v.smsf.active id := by
  refine ⟨?_, fun v path id => active_deactivate_of_ne v⟩
  refine forall_steps_iff (View.next ue)
    (I := fun v => Correct ue v.smsf.active v.latest ∧
      ∀ u n, v.latest u = some n → n < v.smsf.activations)
    (fun v r h => correct_next_iff h.1 h.2 r) (fun v r h hr => ?_)
    ⟨by simp [Correct, Server.active], by simp⟩ rs
  exact ⟨(correct_next_iff h.1 h.2 r).2 hr, fun u n => lt_activations_next h.2 r⟩

/-- One UE is activated under its GPSI and deactivated under its SUPI: the GPSI is still served. -/
theorem gpsi_stays_active :
    let activate := Request.activate "msisdn-1" (some ⟨"imsi-1", "msisdn-1", "", "", "3GPP", ""⟩)
    let v : View Unit := View.next (fun _ => ()) {} activate
    (v.smsf.handleDeactivate "imsi-1").1 = .noContent ∧
      (v.smsf.handleDeactivate "imsi-1").2.active "msisdn-1" = some 0 := by
  decide

end Claudia5gc.Smsf
