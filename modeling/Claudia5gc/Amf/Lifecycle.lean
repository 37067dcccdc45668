import Claudia5gc.Amf.Nssaa
import Mathlib.Logic.Relation

/-!
# The life of a UE

What a UE may do depends on its keys and on its slices.  Here are the few things that can happen to
either, without the messages that bring them about: a UE is authenticated or loses its keys, it is
registered, it gets the slices of its subscription, and a slice goes through its own authentication.
-/

namespace Claudia5gc.Amf

open Go List

variable {nssaa : Bool} {v v' : Life} {history : List Mark} {s e slice : SNSSAISubscribed}
  {list : List SNSSAISubscribed}

/-- What the history of a UE records. -/
inductive Mark where
  /-- The AUSF has confirmed the UE, and this is the new integrity key. -/
  | authenticated (knasint : Bytes)
  | securityReset
  /-- The UE became registered with these in its security context. -/
  | registered (active : Bool) (knasint : Bytes)
  | subscription (slices : List SNSSAISubscribed)

def Mark.Rekeys : Mark → Prop
  | .authenticated _ | .securityReset => True
  | _ => False

/-! ## Steps -/

/-- The slices that the subscription grants, less those that have to wait. -/
def Standing.grant (nssaa : Bool) (granted : List SNSSAISubscribed) (st : Standing) : Standing :=
  if nssaa then
    { st with
      allowedNSSAI := granted.filter (!·.subjectToNSSAA)
      pendingNSSAA := st.pendingNSSAA ++ granted.filter (·.subjectToNSSAA) }
  else { st with allowedNSSAI := granted }

def Standing.close (authorized : Bool) (slice : SNSSAISubscribed) (st : Standing) : Standing :=
  if authorized then
    { st with
      allowedNSSAI := appendSlice st.allowedNSSAI slice
      rejectedNSSAI := dropSlice st.rejectedNSSAI slice
      nssaaInProgress := none
      pendingNSSAA := dropSlice st.pendingNSSAA slice }
  else
    { st with
      rejectedNSSAI := appendSlice st.rejectedNSSAI slice
      nssaaInProgress := none
      pendingNSSAA := dropSlice st.pendingNSSAA slice }

/-- A UE as far as its rights go. -/
structure Life where
  standing : Standing
  history : List Mark

namespace Life

/-- One thing that happens to a UE, with slice-specific authentication or without. -/
inductive Step (nssaa : Bool) : Life → Life → Prop
  | authenticate (v : Life) (key : Bytes) : Step nssaa v
      { standing := { v.standing with active := true, knasint := key }
        history := v.history ++ [.authenticated key] }
  | reset (v : Life) : Step nssaa v
      { standing := { v.standing with active := false, knasint := [] }
        history := v.history ++ [.securityReset] }
  | register (v : Life) : Step nssaa v
      { v with
        history := v.history ++ [.registered v.standing.active v.standing.knasint] }
  | subscribe (v : Life) (slices : List SNSSAISubscribed) :
    Step nssaa v { v with history := v.history ++ [.subscription slices] }
  | grant (v : Life) {slices granted : List SNSSAISubscribed}
    (hslices : .subscription slices ∈ v.history) (hgranted : granted ⊆ slices) :
    Step nssaa v { v with standing := v.standing.grant nssaa granted }
  | start (v : Life) {slice : SNSSAISubscribed} {rest : List SNSSAISubscribed}
    (hpending : v.standing.pendingNSSAA = slice :: rest) :
    Step nssaa v { v with standing := { v.standing with nssaaInProgress := some slice } }
  | close (v : Life) (authorized : Bool) {slice : SNSSAISubscribed}
    (hprogress : v.standing.nssaaInProgress = some slice) :
    Step nssaa v { v with standing := v.standing.close authorized slice }

/-- A UE of which nothing is known. -/
def fresh : Life where
  standing := ⟨false, [], [], [], none, []⟩
  history := []

/-- Any number of things in a row. -/
abbrev Steps (nssaa : Bool) : Life → Life → Prop := Relation.ReflTransGen (Step nssaa)

/-- What holds of a UE and is kept by whatever happens to it goes on holding. -/
theorem Steps.invariant {I : Life → Prop} (steps : Steps nssaa v v') (init : I v)
    (keep : ∀ v v', I v → Step nssaa v v' → I v') : I v' := by
  induction steps with
  | refl => exact init
  | tail _ last ih => exact keep _ _ ih last

theorem Step.history_prefix (step : Step nssaa v v') : v.history <+: v'.history := by
  cases step with
  | authenticate | reset | register | subscribe => exact prefix_append _ _
  | grant | start | close => exact prefix_rfl

/-! ## Keys -/

def Authenticated (history : List Mark) (key : Bytes) : Prop :=
  ∃ earlier later, history = earlier ++ .authenticated key :: later ∧ ∀ m ∈ later, ¬m.Rekeys

theorem Authenticated.snoc (history : List Mark) (key : Bytes) :
    Authenticated (history ++ [.authenticated key]) key :=
  ⟨history, [], rfl, fun _ hm => absurd hm not_mem_nil⟩

theorem Authenticated.append {key : Bytes} {m : Mark} (h : Authenticated history key)
    (hm : ¬m.Rekeys) : Authenticated (history ++ [m]) key := by
  obtain ⟨earlier, later, rfl, hlater⟩ := h
  refine ⟨earlier, later ++ [m], by simp, fun m' hm' => ?_⟩
  rcases mem_append.mp hm' with hm' | hm'
  · exact hlater m' hm'
  · rw [mem_singleton.mp hm']
    exact hm

/-- Every registration with keys in use came after the authentication that set them. -/
def Preceded (history : List Mark) : Prop :=
  ∀ before key after, history = before ++ .registered true key :: after → Authenticated before key

theorem Preceded.append {m : Mark} (h : Preceded history)
    (hm : ∀ key, m = .registered true key → Authenticated history key) :
    Preceded (history ++ [m]) := by
  intro before key after heq
  rcases eq_nil_or_concat after with rfl | ⟨after, last, rfl⟩
  · obtain ⟨rfl, hlast⟩ := append_inj' heq rfl
    exact hm key (singleton_inj.mp hlast)
  · have hsnoc : history ++ [m] = (before ++ .registered true key :: after) ++ [last] := by
      rw [heq]
      simp
    exact h before key after (append_inj' hsnoc rfl).1

structure Keyed (v : Life) : Prop where
  current : v.standing.active = true → Authenticated v.history v.standing.knasint
  registered : Preceded v.history

theorem Keyed.fresh : Keyed fresh where
  current hactive := Bool.noConfusion hactive
  registered before _ after heq := by
    have hlen := congrArg length heq
    simp [Life.fresh] at hlen

theorem Keyed.step (h : Keyed v) (step : Step nssaa v v') : Keyed v' := by
  cases step with
  | authenticate key =>
    exact ⟨fun _ => .snoc _ _, h.registered.append fun _ hm => by cases hm⟩
  | reset =>
    refine ⟨fun hactive => ?_, h.registered.append fun _ hm => by cases hm⟩
    exact Bool.noConfusion hactive
  | register =>
    refine ⟨fun hactive => (h.current hactive).append id, h.registered.append ?_⟩
    intro key hm
    obtain ⟨hactive, rfl⟩ := Mark.registered.inj hm
    exact h.current hactive
  | subscribe =>
    exact ⟨fun hactive => (h.current hactive).append id,
      h.registered.append fun _ hm => by cases hm⟩
  | grant =>
    refine ⟨fun hactive => ?_, h.registered⟩
    cases nssaa <;> exact h.current hactive
  | start => exact ⟨h.current, h.registered⟩
  | close authorized =>
    refine ⟨fun hactive => ?_, h.registered⟩
    cases authorized <;> exact h.current hactive

/-! ## Slices -/

def Subscribed (history : List Mark) (s : SNSSAISubscribed) : Prop :=
  ∃ slices, .subscription slices ∈ history ∧ s ∈ slices

theorem Subscribed.mono {history' : List Mark} (hpre : history <+: history')
    (h : Subscribed history s) : Subscribed history' s := by
  obtain ⟨slices, hslices, hs⟩ := h
  exact ⟨slices, hpre.subset hslices, hs⟩

/-- The slices of a UE come from its subscription, and the one that is being
authenticated is pending. -/
structure Granted (nssaa : Bool) (v : Life) : Prop where
  allowed : ∀ s ∈ v.standing.allowedNSSAI, Subscribed v.history s
  pending : ∀ s ∈ v.standing.pendingNSSAA, Subscribed v.history s ∧ s.subjectToNSSAA = true
  rejected : ∀ s ∈ v.standing.rejectedNSSAI, Subscribed v.history s ∧ s.subjectToNSSAA = true
  progress : ∀ s, v.standing.nssaaInProgress = some s → s ∈ v.standing.pendingNSSAA
  disabled : nssaa = false → v.standing.pendingNSSAA = [] ∧ v.standing.rejectedNSSAI = []

theorem mem_dropSlice : e ∈ dropSlice list s ↔ e ∈ list ∧ sameSubscribed e s = false := by
  simp [dropSlice]

theorem mem_of_mem_appendSlice (h : e ∈ appendSlice list s) : e ∈ list ∨ e = s := by
  unfold appendSlice at h
  split at h
  · exact .inl h
  · rcases mem_append.mp h with h | h
    · exact .inl h
    · exact .inr (mem_singleton.mp h)

section

variable (h : Granted nssaa v)
include h

theorem Granted.mono (hpre : v.history <+: v'.history)
    (hallowed : v'.standing.allowedNSSAI = v.standing.allowedNSSAI)
    (hpending : v'.standing.pendingNSSAA = v.standing.pendingNSSAA)
    (hrejected : v'.standing.rejectedNSSAI = v.standing.rejectedNSSAI)
    (hprogress : ∀ s, v'.standing.nssaaInProgress = some s →
      s ∈ v.standing.pendingNSSAA) : Granted nssaa v' where
  allowed s hs := (h.allowed s (hallowed ▸ hs)).mono hpre
  pending s hs :=
    have hs := h.pending s (hpending ▸ hs)
    ⟨hs.1.mono hpre, hs.2⟩
  rejected s hs :=
    have hs := h.rejected s (hrejected ▸ hs)
    ⟨hs.1.mono hpre, hs.2⟩
  progress s hs := hpending ▸ hprogress s hs
  disabled hoff := by rw [hpending, hrejected]; exact h.disabled hoff

theorem Granted.grant {slices granted : List SNSSAISubscribed}
    (hslices : .subscription slices ∈ v.history) (hgranted : granted ⊆ slices) :
    Granted nssaa { v with standing := v.standing.grant nssaa granted } := by
  have hsub : ∀ s ∈ granted, Subscribed v.history s := fun s hs =>
    ⟨slices, hslices, hgranted hs⟩
  cases nssaa with
  | false => exact ⟨hsub, h.pending, h.rejected, h.progress, h.disabled⟩
  | true =>
    refine ⟨fun s hs => hsub s (mem_filter.mp hs).1, fun s hs => ?_, h.rejected,
      fun s hs => mem_append_left _ (h.progress s hs), fun hoff => ?_⟩
    · rcases mem_append.mp hs with hs | hs
      · exact h.pending s hs
      · exact ⟨hsub s (mem_filter.mp hs).1, (mem_filter.mp hs).2⟩
    · exact Bool.noConfusion hoff

theorem Granted.close (authorized : Bool) (hprogress : v.standing.nssaaInProgress = some slice) :
    Granted nssaa { v with standing := v.standing.close authorized slice } := by
  have hslice := h.progress slice hprogress
  have hpending : ∀ s ∈ dropSlice v.standing.pendingNSSAA slice,
      Subscribed v.history s ∧ s.subjectToNSSAA = true := fun s hs =>
    h.pending s (mem_dropSlice.mp hs).1
  -- A slice in progress is pending, which it cannot be without NSSAA.
  have hon : nssaa ≠ false := by
    intro hoff
    rw [(h.disabled hoff).1] at hslice
    exact not_mem_nil hslice
  cases authorized with
  | true =>
    refine ⟨fun s hs => ?_, hpending, fun s hs => h.rejected s (mem_dropSlice.mp hs).1,
      fun _ hs => (nomatch hs), fun hoff => absurd hoff hon⟩
    rcases mem_of_mem_appendSlice hs with hs | rfl
    · exact h.allowed s hs
    · exact (h.pending s hslice).1
  | false =>
    refine ⟨h.allowed, hpending, fun s hs => ?_, fun _ hs => (nomatch hs),
      fun hoff => absurd hoff hon⟩
    rcases mem_of_mem_appendSlice hs with hs | rfl
    · exact h.rejected s hs
    · exact h.pending s hslice

theorem Granted.step (step : Step nssaa v v') : Granted nssaa v' := by
  have hpre := step.history_prefix
  cases step with
  | authenticate | reset | register | subscribe => exact h.mono hpre rfl rfl rfl h.progress
  | grant hslices hgranted => exact h.grant hslices hgranted
  | start hpending =>
    refine h.mono hpre rfl rfl rfl fun s hs => ?_
    obtain rfl := Option.some.inj hs
    rw [hpending]
    exact mem_cons_self
  | close authorized hprogress => exact h.close authorized hprogress

end

/-- The subscriptions say the same of a slice wherever they mention it. -/
def Consistent (history : List Mark) : Prop :=
  ∀ a b, Subscribed history a → Subscribed history b → sameSubscribed a b = true →
    a.subjectToNSSAA = b.subjectToNSSAA

theorem Consistent.mono {history' : List Mark} (hpre : history <+: history')
    (h : Consistent history') : Consistent history :=
  fun a b ha hb hab => h a b (ha.mono hpre) (hb.mono hpre) hab

/-- No allowed slice is pending or rejected. -/
def Separated (st : Standing) : Prop :=
  ∀ a ∈ st.allowedNSSAI, ∀ p ∈ st.pendingNSSAA ++ st.rejectedNSSAI, sameSubscribed p a = false

theorem Granted.separated_grant (h : Granted nssaa v) (hcons : Consistent v.history)
    {slices granted : List SNSSAISubscribed} (hslices : .subscription slices ∈ v.history)
    (hgranted : granted ⊆ slices) : Separated (v.standing.grant nssaa granted) := by
  cases nssaa with
  | false =>
    intro a _ p hp
    change p ∈ v.standing.pendingNSSAA ++ v.standing.rejectedNSSAI at hp
    rw [(h.disabled rfl).1, (h.disabled rfl).2] at hp
    exact absurd hp not_mem_nil
  | true =>
    -- What is allowed is not subject to NSSAA, and what is pending or rejected is.
    intro a ha p hp
    have ha := mem_filter.mp ha
    have hflag : Subscribed v.history p ∧ p.subjectToNSSAA = true := by
      rcases mem_append.mp hp with hp | hp
      · rcases mem_append.mp hp with hp | hp
        · exact h.pending p hp
        · have hp := mem_filter.mp hp
          exact ⟨⟨slices, hslices, hgranted hp.1⟩, hp.2⟩
      · exact h.rejected p hp
    refine Bool.eq_false_iff.mpr fun hsame => ?_
    have heq := hcons p a hflag.1 ⟨slices, hslices, hgranted ha.1⟩ hsame
    rw [hflag.2] at heq
    rw [← heq] at ha
    exact Bool.noConfusion ha.2

theorem Granted.separated_close (h : Granted nssaa v) (hsep : Separated v.standing)
    (authorized : Bool) (hprogress : v.standing.nssaaInProgress = some slice) :
    Separated (v.standing.close authorized slice) := by
  have hslice := h.progress slice hprogress
  cases authorized with
  | true =>
    intro a ha p hp
    -- Both lists are without the slice that is now allowed.
    have hp : p ∈ v.standing.pendingNSSAA ++ v.standing.rejectedNSSAI ∧
        sameSubscribed p slice = false := by
      rcases mem_append.mp hp with hp | hp
      · exact ⟨mem_append_left _ (mem_dropSlice.mp hp).1, (mem_dropSlice.mp hp).2⟩
      · exact ⟨mem_append_right _ (mem_dropSlice.mp hp).1, (mem_dropSlice.mp hp).2⟩
    rcases mem_of_mem_appendSlice ha with ha | rfl
    · exact hsep a ha p hp.1
    · exact hp.2
  | false =>
    intro a ha p hp
    refine hsep a ha p ?_
    rcases mem_append.mp hp with hp | hp
    · exact mem_append_left _ (mem_dropSlice.mp hp).1
    · rcases mem_of_mem_appendSlice hp with hp | rfl
      · exact mem_append_right _ hp
      · exact mem_append_left _ hslice

/-- Slices are granted as subscribed, and kept apart as far as the subscriptions are
consistent. -/
structure Sliced (nssaa : Bool) (v : Life) : Prop where
  granted : Granted nssaa v
  separated : Consistent v.history → Separated v.standing

theorem Sliced.fresh (nssaa : Bool) : Sliced nssaa fresh where
  granted :=
    { allowed _ hs := absurd hs not_mem_nil
      pending _ hs := absurd hs not_mem_nil
      rejected _ hs := absurd hs not_mem_nil
      progress _ hs := nomatch hs
      disabled _ := ⟨rfl, rfl⟩ }
  separated _ _ ha := absurd ha not_mem_nil

theorem Sliced.step (h : Sliced nssaa v) (step : Step nssaa v v') : Sliced nssaa v' := by
  refine ⟨h.granted.step step, fun hcons => ?_⟩
  have hcons := hcons.mono step.history_prefix
  have hsep := h.separated hcons
  cases step with
  | authenticate | reset | register | subscribe | start => exact hsep
  | grant hslices hgranted => exact h.granted.separated_grant hcons hslices hgranted
  | close authorized hprogress => exact h.granted.separated_close hsep authorized hprogress

end Life

end Claudia5gc.Amf
