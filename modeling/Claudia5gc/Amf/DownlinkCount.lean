import Claudia5gc.Crypto.KeyLedger
import Claudia5gc.Amf.KeyProcedures

/-!
# The downlink COUNT

What was handed to the gNB for a UE, and under which key, can be read off the trace.  The key ledger
of these events says what the COUNT of each PDU ought to be.
-/

namespace Claudia5gc.Amf

open Go Crypto Nas Proc List UInt32

variable {ue : Ptr} {pdu : Bytes} {drops : Prop}

def Event.keyUse (ue : Ptr) : Event → Option (KeyUse Bytes Bytes)
  | .authenticated ue' knasint => if ue' = ue then some (.rekey knasint) else none
  | .securityReset ue' => if ue' = ue then some .erase else none
  | e =>
    match e.nasPDU with
    | some (ue', pdu) =>
      if ue' = ue ∧ Handler.isProtected pdu = true then some (.send pdu) else none
    | none => none

theorem Event.Silent.keyUse {e : Event} (h : e.Silent) (ue : Ptr) : e.keyUse ue = none := by
  obtain ⟨hkeyless, hpdu⟩ := h
  cases e with
  | authenticated | securityReset => exact hkeyless.elim
  | downlinkNASTransport | initialContextSetupRequest | pduSessionResourceSetupRequest
  | pduSessionResourceReleaseCommand | pduSessionResourceModifyRequest => cases hpdu
  | _ => rfl

theorem Event.Carries.keyUse {e : Event} (h : e.Carries ue pdu) :
    e.keyUse ue = if Handler.isProtected pdu = true then some (.send pdu) else none := by
  obtain ⟨hkeyless, hpdu⟩ := h
  cases e with
  | authenticated | securityReset => exact hkeyless.elim
  | downlinkNASTransport | initialContextSetupRequest | pduSessionResourceSetupRequest
  | pduSessionResourceReleaseCommand | pduSessionResourceModifyRequest =>
    cases hpdu
    simp [Event.keyUse, Event.nasPDU]
  | _ => cases hpdu

namespace Handler

/-- The keys of `ue` and the protected PDUs handed over for it, in order. -/
def keyLog (s : Handler) (ue : Ptr) : List (KeyUse Bytes Bytes) :=
  s.trace.filterMap (Event.keyUse ue)

theorem keyLog_of_silent {s s' : Handler} {new : List Event}
    (htrace : s'.trace = s.trace ++ new) (h : ∀ e ∈ new, e.Silent) :
    s'.keyLog ue = s.keyLog ue := by
  have hnone : new.filterMap (Event.keyUse ue) = [] :=
    filterMap_eq_nil_iff.mpr fun e he => (h e he).keyUse ue
  unfold keyLog
  rw [htrace, filterMap_append, hnone, append_nil]

theorem keyLog_snoc {s s' : Handler} {e : Event} (htrace : s'.trace = s.trace ++ [e]) :
    s'.keyLog ue = s.keyLog ue ++ (e.keyUse ue).toList := by
  unfold keyLog
  rw [htrace, filterMap_append]
  cases hkeyUse : e.keyUse ue with
  | none => rw [filterMap_cons_none hkeyUse]; rfl
  | some entry => rw [filterMap_cons_some hkeyUse]; rfl

/-- The PDUs handed over for `ue`, each with its key and its number under this key. -/
def handed (s : Handler) (ue : Ptr) : List (Numbered Bytes Bytes) := (keyLedger (s.keyLog ue)).sent

/-! ## The security context keeps to the ledger -/

structure Accounted (ue : Ptr) (s : Handler) : Prop where
  key : (keyLedger (s.keyLog ue)).key.getD [] = (s.sec ue).knasint
  count : (s.sec ue).downlinkCount = ofNat (keyLedger (s.keyLog ue)).next
  built : ∀ m ∈ s.handed ue,
    ∃ knasint, m.key = some knasint ∧ BuiltWith knasint (ofNat m.number) m.message

section

variable {ue : Ptr} {s s' : Handler}

section

variable (h : Accounted ue s)
include h

theorem Accounted.of_eq (hlog : s'.keyLog ue = s.keyLog ue)
    (hkey : (s'.sec ue).knasint = (s.sec ue).knasint)
    (hcount : (s'.sec ue).downlinkCount = (s.sec ue).downlinkCount) : Accounted ue s' := by
  constructor
  · rw [hlog, hkey]
    exact h.key
  · rw [hlog, hcount]
    exact h.count
  · unfold handed
    rw [hlog]
    exact h.built

theorem Accounted.key_of_built {count : UInt32} (hbuilt : BuiltWith (s.sec ue).knasint count pdu) :
    (keyLedger (s.keyLog ue)).key = some (s.sec ue).knasint := by
  have hkey := h.key
  cases hledger : (keyLedger (s.keyLog ue)).key with
  | some knasint =>
    rw [hledger] at hkey
    exact congrArg some hkey
  | none =>
    rw [hledger] at hkey
    have hlength := hbuilt.length_key
    rw [← hkey] at hlength
    cases hlength

theorem Accounted.securityStep (hdrops : ¬drops)
    (hstep : SecurityStep drops ue s s') : Accounted ue s' := by
  cases hstep with
  | silent hsec hevents =>
    obtain ⟨new, htrace, hsilent⟩ := hevents
    exact h.of_eq (keyLog_of_silent htrace hsilent) (by rw [hsec]) (by rw [hsec])
  | plain pdu e hpdu hsec hevents hcarries =>
    have hlog : s'.keyLog ue = _ := keyLog_snoc hevents
    rw [hcarries.keyUse, hpdu, if_neg Bool.false_ne_true, Option.toList_none, append_nil] at hlog
    exact h.of_eq hlog (by rw [hsec]) (by rw [hsec])
  | protect pdu before e hbuilt hsec hevents hsilent hcarries =>
    let s₁ : Handler := { s with trace := s.trace ++ before }
    have hbefore : s₁.keyLog ue = s.keyLog ue := keyLog_of_silent rfl hsilent
    have hlog : s'.keyLog ue = s₁.keyLog ue ++ _ := keyLog_snoc hevents
    rw [hbefore, hcarries.keyUse, if_pos hbuilt.isProtected, Option.toList_some] at hlog
    have hkey := h.key_of_built hbuilt
    constructor
    · rw [hlog, keyLedger_snoc, hsec]
      exact h.key
    · rw [hlog, keyLedger_snoc, hsec]
      change (s.sec ue).downlinkCount + 1 = ofNat ((keyLedger (s.keyLog ue)).next + 1)
      rw [h.count, ofNat_add]
      rfl
    · unfold handed
      rw [hlog, keyLedger_snoc]
      intro m hm
      rcases mem_append.mp hm with hold | hnew
      · exact h.built m hold
      · obtain rfl := mem_singleton.mp hnew
        refine ⟨(s.sec ue).knasint, hkey, ?_⟩
        rw [← h.count]
        exact hbuilt
  | drop hdrop => exact absurd hdrop hdrops
  | uplink hsec hevents =>
    have hlog : s'.keyLog ue = s.keyLog ue := by
      unfold keyLog
      rw [hevents]
    exact h.of_eq hlog (by rw [hsec]; rfl) (by rw [hsec]; rfl)
  | rekey cfg kausf c hsec hevents =>
    have hlog : s'.keyLog ue = _ := keyLog_snoc hevents
    rw [Event.keyUse, if_pos rfl, Option.toList_some] at hlog
    constructor
    · rw [hlog, keyLedger_snoc]
      rfl
    · rw [hlog, keyLedger_snoc, hsec]
      rfl
    · unfold handed
      rw [hlog, keyLedger_snoc]
      exact h.built
  | reset hsec hevents =>
    have hlog : s'.keyLog ue = _ := keyLog_snoc hevents
    rw [Event.keyUse, if_pos rfl, Option.toList_some] at hlog
    constructor
    · rw [hlog, keyLedger_snoc, hsec]
      rfl
    · rw [hlog, keyLedger_snoc, hsec]
      rfl
    · unfold handed
      rw [hlog, keyLedger_snoc]
      exact h.built

theorem Accounted.secures (hdrops : ¬drops) (hsteps : Secures drops ue s s') : Accounted ue s' := by
  induction hsteps with
  | refl => exact h
  | tail _ hstep ih => exact ih.securityStep hdrops hstep

end

end

/-! ## Runs -/

structure CountDiscipline (ue : Ptr) (s : Handler) : Prop where
  built : ∀ m ∈ s.handed ue,
    ∃ knasint, m.key = some knasint ∧ BuiltWith knasint (ofNat m.number) m.message
  unique : ((s.handed ue).map fun m => (m.key, ofNat m.number)).Nodup
  complete : ∀ n < (s.sec ue).downlinkCount.toNat,
    ∃ pdu, ⟨some (s.sec ue).knasint, n, pdu⟩ ∈ s.handed ue

/-- From a context without keys on, and as long as no excluded UE completes the security
mode, no key comes a second time and no key is used for all the values of the COUNT. -/
theorem countDiscipline_of_run {cfg : Config} {ue : Ptr} {s t : Handler} {inputs : List UEInput}
    (htrace : s.trace = []) (hsec : (s.ctx ue).securityCtx = {})
    (hrun : Run ((ueStep cfg ue).when fun s input => ¬Excludes cfg ue s input) s inputs t)
    (hkeys : (keysOf (t.keyLog ue)).Nodup) (hcounts : ∀ m ∈ t.handed ue, m.number < 2 ^ 32) :
    CountDiscipline ue t := by
  have haccounted : Accounted ue t := by
    refine hrun.invariant (I := Accounted ue) ?_ fun s input s' h hstep => ?_
    · have hlog : s.keyLog ue = [] := by
        unfold keyLog
        rw [htrace]
        rfl
      constructor
      · rw [hlog, sec, hsec]
        rfl
      · rw [hlog, sec, hsec]
        rfl
      · unfold handed
        rw [hlog]
        exact fun _ hm => nomatch hm
    · exact h.secures hstep.1 (secures_ueStep hstep.2)
  refine ⟨haccounted.built, ?_, ?_⟩
  · have hnodup := nodup_keyLedger hkeys fun m hm hnone => by
      obtain ⟨knasint, hkey, -⟩ := haccounted.built m hm
      rw [hnone] at hkey
      cases hkey
    have hmap := List.Nodup.map_on (f := Prod.map id ofNat) ?_ hnodup
    · rw [map_map] at hmap
      exact hmap
    · intro x hx y hy hxy
      obtain ⟨m, hm, rfl⟩ := mem_map.mp hx
      obtain ⟨m', hm', rfl⟩ := mem_map.mp hy
      obtain ⟨hkey, hnumber⟩ := Prod.mk.inj hxy
      have hnumber' := congrArg toNat hnumber
      rw [toNat_ofNat_of_lt' (hcounts m hm), toNat_ofNat_of_lt' (hcounts m' hm')]
        at hnumber'
      exact Prod.ext hkey hnumber'
  · intro n hn
    have hlt : n < (keyLedger (t.keyLog ue)).next := by
      rw [haccounted.count, toNat_ofNat'] at hn
      exact Nat.lt_of_lt_of_le hn (Nat.mod_le _ _)
    obtain ⟨pdu, hmem⟩ := exists_of_lt_next _ hlt
    obtain ⟨knasint, hkey, -⟩ := haccounted.built _ hmem
    have hcurrent := haccounted.key
    dsimp only at hkey
    rw [hkey] at hmem hcurrent
    rw [← hcurrent]
    exact ⟨pdu, hmem⟩

/-! ## A run -/

def authenticationResponse : UEInput :=
  .nas ([0x7E, 0x00, 0x57, 0x2D, 0x10] ++ replicate 16 0xAA)
    { confirmAuth := .ok ⟨"imsi-001010000000001", replicate 32 5⟩ }

def excludedSecurityModeComplete : UEInput := .nas [0x7E, 0x00, 0x5E] excluding

def commanded : Handler :=
  ((handleNASMessage policed { confirmAuth := .ok ⟨"imsi-001010000000001", replicate 32 5⟩ } 0
    ([0x7E, 0x00, 0x57, 0x2D, 0x10] ++ replicate 16 0xAA)).run newcomer).2

def excluded : Handler :=
  ((handleNASMessage policed excluding 0 [0x7E, 0x00, 0x5E]).run commanded).2

theorem countDiscipline_of_run_commanded :
    (commanded.sec 0).downlinkCount = 1 ∧ CountDiscipline 0 commanded := by
  have hstep : ((ueStep policed 0).when fun s input => ¬Excludes policed 0 s input) newcomer
      authenticationResponse commanded :=
    ⟨fun h => absurd h.2 Bool.false_ne_true, rfl⟩
  exact ⟨by decide +kernel, countDiscipline_of_run rfl rfl (Run.nil.snoc _ hstep)
    (by decide +kernel) (by decide +kernel)⟩

/-- The COUNT 1 is used up by the Registration Reject, which is not handed over. -/
theorem reject_dropped :
    ¬∀ (cfg : Config) (ue : Ptr) (s t : Handler) (inputs : List UEInput), s.trace = [] →
      (s.ctx ue).securityCtx = {} → Run (ueStep cfg ue) s inputs t →
      (keysOf (t.keyLog ue)).Nodup → (∀ m ∈ t.handed ue, m.number < 2 ^ 32) →
      CountDiscipline ue t := by
  intro h
  have hrun : Run (ueStep policed 0) newcomer
      [authenticationResponse, excludedSecurityModeComplete] excluded :=
    (Run.nil.snoc authenticationResponse rfl).snoc excludedSecurityModeComplete rfl
  have hdiscipline := h policed 0 newcomer _ _ rfl rfl hrun (by decide +kernel) (by decide +kernel)
  obtain ⟨pdu, hmem⟩ := hdiscipline.complete 1 (by decide +kernel)
  have hnumbers : (excluded.handed 0).map Numbered.number = [0] := by decide +kernel
  have hone : 1 ∈ (excluded.handed 0).map Numbered.number := mem_map_of_mem hmem
  rw [hnumbers] at hone
  exact absurd hone (by decide)

end Handler

end Claudia5gc.Amf
