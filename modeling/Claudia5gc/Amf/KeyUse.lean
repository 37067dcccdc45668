import Claudia5gc.Amf.Network
import Mathlib.Logic.Relation

/-!
# What happens to a security context

Whatever comes for a UE, its security context goes through few kinds of steps.  A protected PDU is
built under the integrity key and the downlink COUNT, and is handed to the gNB with nothing but
silent work in between; an uplink PDU is counted; Phase 2 puts new keys into use; a Security Mode
Reject erases them.
-/

namespace Claudia5gc.Amf

open Go Crypto Nas Proc

variable {pdu knasint : Bytes} {s s' : Handler} {x : Proc Handler Bytes}

def BuiltWith (knasint : Bytes) (count : UInt32) (pdu : Bytes) : Prop :=
  ∃ (sht : UInt8) (mac payload : Bytes), sht &&& 0x0F ≠ 0 ∧
    pdu = [0x7E, sht] ++ mac ++ [count.toUInt8] ++ payload ∧
    Nia.nia2 knasint count 0x01 0x01 (count.toUInt8 :: payload) = .ok mac

theorem BuiltWith.isProtected {count : UInt32}
    (h : BuiltWith knasint count pdu) : Handler.isProtected pdu = true := by
  obtain ⟨sht, mac, payload, hsht, rfl, -⟩ := h
  simp [Handler.isProtected, hsht]

theorem BuiltWith.length_key {count : UInt32} (h : BuiltWith knasint count pdu) :
    knasint.length = 16 := by
  obtain ⟨sht, mac, payload, -, -, hmac⟩ := h
  by_contra hlength
  rw [Nia.nia2, if_pos hlength] at hmac
  cases hmac

def SecurityContext.countDownlink (sec : SecurityContext) : SecurityContext :=
  { sec with downlinkCount := sec.downlinkCount + 1 }

def SecurityContext.countUplink (sec : SecurityContext) : SecurityContext :=
  { sec with uplinkCount := sec.uplinkCount + 1 }

/-- The event neither marks a change of keys nor carries a NAS PDU. -/
def Event.Silent (e : Event) : Prop := e.Keyless ∧ e.nasPDU = none

def Event.Carries (ue : Ptr) (pdu : Bytes) (e : Event) : Prop :=
  e.Keyless ∧ e.nasPDU = some (ue, pdu)

namespace Handler

inductive SecurityStep (drops : Prop) (ue : Ptr) (s s' : Handler) : Prop
  /-- The context stays, and nothing is sent. -/
  | silent (hsec : s'.sec ue = s.sec ue) (hevents : Emits Event.Silent s s')
  /-- An unprotected PDU is sent. -/
  | plain (pdu : Bytes) (e : Event) (hpdu : isProtected pdu = false) (hsec : s'.sec ue = s.sec ue)
      (hevents : s'.trace = s.trace ++ [e]) (hcarries : e.Carries ue pdu)
  /-- A PDU is built and sent. -/
  | protect (pdu : Bytes) (before : List Event) (e : Event)
      (hbuilt : BuiltWith (s.sec ue).knasint (s.sec ue).downlinkCount pdu)
      (hsec : s'.sec ue = (s.sec ue).countDownlink)
      (hevents : s'.trace = s.trace ++ before ++ [e]) (hsilent : ∀ e' ∈ before, e'.Silent)
      (hcarries : e.Carries ue pdu)
  /-- A PDU is built and dropped. -/
  | drop (h : drops) (hsec : s'.sec ue = (s.sec ue).countDownlink) (hevents : s'.trace = s.trace)
  /-- An uplink PDU is counted. -/
  | uplink (hsec : s'.sec ue = (s.sec ue).countUplink) (hevents : s'.trace = s.trace)
  /-- New keys are put into use, with both COUNTs at zero. -/
  | rekey (cfg : Config) (kausf : Bytes) (c : UEContext)
      (hsec : s'.sec ue = deriveSecurityContext cfg kausf c)
      (hevents : s'.trace = s.trace ++ [.authenticated ue (s'.sec ue).knasint])
  /-- The security context is erased. -/
  | reset (hsec : s'.sec ue = {}) (hevents : s'.trace = s.trace ++ [.securityReset ue])

/-- Any number of these steps. -/
def Secures (drops : Prop) (ue : Ptr) : Handler → Handler → Prop :=
  Relation.ReflTransGen (SecurityStep drops ue)

section

variable {drops : Prop} {ue : Ptr} {α β : Type}

instance : Std.Refl (Secures drops ue) := ⟨fun _ => .refl⟩

instance : IsTrans Handler (Secures drops ue) := ⟨fun _ _ _ h₁ h₂ => h₁.trans h₂⟩

theorem SecurityStep.secures (h : SecurityStep drops ue s s') : Secures drops ue s s' := .single h

theorem secures_of_silent (h : Silent s s') : Secures drops ue s s' :=
  (SecurityStep.silent (h.1 ue) h.2).secures

theorem Silent.secures {x : Proc Handler α} (h : Keeps Silent x) : Keeps (Secures drops ue) x :=
  h.mono fun _ _ => secures_of_silent

theorem Still.secures {x : Proc Handler α} (h : Keeps Still x) : Keeps (Secures drops ue) x :=
  Silent.secures (Still.silent h)

/-! ## Building a PDU -/

def BuildsAt (ue : Ptr) (s : Handler) (x : Proc Handler Bytes) : Prop :=
  ∀ o s', x.run s = (o, s') → s'.trace = s.trace ∧
    ((∃ pdu, o = .ok pdu ∧ BuiltWith (s.sec ue).knasint (s.sec ue).downlinkCount pdu ∧
        s'.sec ue = (s.sec ue).countDownlink) ∨
      (∀ pdu, o ≠ .ok pdu) ∧ s'.sec ue = s.sec ue)

/-- From any state, `x` builds a protected PDU, or leaves the context as it was. -/
def Builds (ue : Ptr) (x : Proc Handler Bytes) : Prop := ∀ s, BuildsAt ue s x

theorem BuildsAt.read_bind {x : Proc Handler α} {f : α → Proc Handler Bytes}
    (hx : (x.run s).2 = s) (hf : ∀ a, x.run s = (.ok a, s) → BuildsAt ue s (f a)) :
    BuildsAt ue s (x >>= f) := by
  intro o s' hrun
  rw [run_bind] at hrun
  rcases hx' : x.run s with ⟨o₁, s₁⟩
  rw [hx'] at hrun hx
  obtain rfl := hx
  have hfailed : (∀ pdu, o ≠ .ok pdu) → s₁ = s' → s'.trace = s₁.trace ∧
      ((∃ pdu, o = .ok pdu ∧ BuiltWith (s₁.sec ue).knasint (s₁.sec ue).downlinkCount pdu ∧
        s'.sec ue = (s₁.sec ue).countDownlink) ∨ (∀ pdu, o ≠ .ok pdu) ∧ s'.sec ue = s₁.sec ue) := by
    intro hnot hs
    rw [hs]
    exact ⟨rfl, .inr ⟨hnot, rfl⟩⟩
  cases o₁ with
  | ok a => exact hf a hx' o s' hrun
  | err e | panic | hang =>
    obtain ⟨rfl, hs⟩ := Prod.mk.inj hrun
    exact hfailed (fun _ => nofun) hs

theorem BuildsAt.count (h : BuiltWith (s.sec ue).knasint (s.sec ue).downlinkCount pdu) :
    BuildsAt ue s (do update ue countDownlink; return pdu) := by
  intro o s' hrun
  obtain ⟨rfl, rfl⟩ := Prod.mk.inj hrun
  exact ⟨rfl, .inl ⟨pdu, rfl, h, sec_update s ue countDownlink⟩⟩

theorem Builds.wrapErr (h : Builds ue x) (text : String) : Builds ue (x.wrapErr text) := by
  intro s o s' hrun
  rw [run_wrapErr] at hrun
  rcases hx : x.run s with ⟨o₁, s₁⟩
  rw [hx] at hrun
  obtain ⟨htrace, hcase⟩ := h s o₁ s₁ hx
  cases o₁ with
  | ok pdu =>
    obtain ⟨rfl, rfl⟩ := Prod.mk.inj hrun
    exact ⟨htrace, hcase⟩
  | err e =>
    obtain ⟨rfl, rfl⟩ := Prod.mk.inj hrun
    rcases hcase with ⟨pdu, hpdu, -⟩ | ⟨-, hsec⟩
    · cases hpdu
    · exact ⟨htrace, .inr ⟨fun _ => nofun, hsec⟩⟩
  | panic | hang =>
    obtain ⟨rfl, rfl⟩ := Prod.mk.inj hrun
    exact ⟨htrace, hcase⟩

theorem Builds.fail (e : Error) : Builds ue (Proc.fail e) := by
  intro s o s' hrun
  obtain ⟨rfl, rfl⟩ := Prod.mk.inj hrun
  exact ⟨rfl, .inr ⟨fun _ => nofun, rfl⟩⟩

structure Holding (ue : Ptr) (pdu : Bytes) (s₀ s : Handler) : Prop where
  built : BuiltWith (s₀.sec ue).knasint (s₀.sec ue).downlinkCount pdu
  sec : s.sec ue = (s₀.sec ue).countDownlink
  events : Emits Event.Silent s₀ s

def Hands (drops : Prop) (ue : Ptr) (pdu : Bytes) (y : Proc Handler α) : Prop :=
  ∀ s₀ s, Holding ue pdu s₀ s → Secures drops ue s₀ (y.run s).2

theorem Builds.bind {f : Bytes → Proc Handler α} (hx : Builds ue x)
    (hf : ∀ pdu, Hands drops ue pdu (f pdu)) : Keeps (Secures drops ue) (x >>= f) := by
  intro s
  rw [run_bind]
  rcases hrun : x.run s with ⟨o, s'⟩
  obtain ⟨htrace, ⟨pdu, rfl, hbuilt, hsec⟩ | ⟨hnot, hsec⟩⟩ := hx s o s' hrun
  · exact hf pdu s s' ⟨hbuilt, hsec, Emits.of_eq htrace⟩
  · have hstep : Secures drops ue s s' := (SecurityStep.silent hsec (Emits.of_eq htrace)).secures
    cases o with
    | ok pdu => exact absurd rfl (hnot pdu)
    | err e | panic | hang => exact hstep

theorem Hands.send (env : Env) {e : Event} (he : e.Carries ue pdu) :
    Hands drops ue pdu (send env e) := by
  intro s₀ s h
  obtain ⟨before, htrace, hsilent⟩ := h.events
  rw [snd_run_send]
  refine .single (.protect pdu before e h.built h.sec ?_ hsilent he)
  rw [htrace]

theorem Hands.wrapErr {y : Proc Handler α} (h : Hands drops ue pdu y) (text : String) :
    Hands drops ue pdu (y.wrapErr text) := by
  intro s₀ s hold
  have hy := h s₀ s hold
  rw [run_wrapErr]
  rcases hrun : y.run s with ⟨o, s'⟩
  rw [hrun] at hy
  cases o <;> exact hy

theorem Hands.attempt {y : Proc Handler α} (h : Hands drops ue pdu y) :
    Hands drops ue pdu y.attempt := by
  intro s₀ s hold
  have hy := h s₀ s hold
  rw [run_attempt]
  rcases hrun : y.run s with ⟨o, s'⟩
  rw [hrun] at hy
  cases o <;> exact hy

theorem Hands.bind {y : Proc Handler α} {f : α → Proc Handler β} (h : Hands drops ue pdu y)
    (hf : ∀ a, Keeps (Secures drops ue) (f a)) : Hands drops ue pdu (y >>= f) := by
  intro s₀ s hold
  have hy := h s₀ s hold
  rw [run_bind]
  rcases hrun : y.run s with ⟨o, s'⟩
  rw [hrun] at hy
  cases o with
  | ok a => exact hy.trans (hf a s')
  | err e | panic | hang => exact hy

theorem Hands.after {x : Proc Handler α} {f : α → Proc Handler β} (hx : Keeps Silent x)
    (hok : ∀ s, ∃ a s', x.run s = (.ok a, s')) (hf : ∀ a, Hands drops ue pdu (f a)) :
    Hands drops ue pdu (x >>= f) := by
  intro s₀ s hold
  obtain ⟨a, s', hrun⟩ := hok s
  have hsilent := hx s
  rw [hrun] at hsilent
  rw [run_bind_ok hrun]
  exact hf a s₀ s' ⟨hold.built, (hsilent.1 ue).trans hold.sec, hold.events.trans hsilent.2⟩

end

end Handler

end Claudia5gc.Amf
