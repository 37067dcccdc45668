import Claudia5gc.Go.Outcome

/-!
# Calls that return

`Safe x s Q` says that the call `x`, started in `s`, comes back to its caller, and that a value it
comes back with satisfies `Q` together with the state then.  An error is a way to come back, so
nothing is asked of it.
-/

namespace Claudia5gc.Go

namespace Proc

variable {σ α β : Type}

def Safe (x : Proc σ α) (s : σ) (Q : α → σ → Prop) : Prop :=
  match x.run s with
  | (.ok a, s') => Q a s'
  | (.err _, _) => True
  | (.panic, _) => False
  | (.hang, _) => False

variable {x : Proc σ α}

theorem Safe.returns {s : σ} {Q : α → σ → Prop} (h : x.Safe s Q) : (x.run s).1.Returns := by
  unfold Safe at h
  split at h <;> simp_all

theorem Safe.mono {s : σ} {Q R : α → σ → Prop} (h : x.Safe s Q)
    (hQR : ∀ a s', Q a s' → R a s') : x.Safe s R := by
  unfold Safe at h ⊢
  split at h
  · exact hQR _ _ h
  · trivial
  · exact h
  · exact h

@[simp] theorem safe_pure (a : α) (s : σ) (Q : α → σ → Prop) :
    (pure a : Proc σ α).Safe s Q ↔ Q a s := Iff.rfl

@[simp] theorem safe_bind (x : Proc σ α) (f : α → Proc σ β) (s : σ) (Q : β → σ → Prop) :
    (x >>= f).Safe s Q ↔ x.Safe s fun a s' => (f a).Safe s' Q := by
  unfold Safe
  rw [run_bind]
  rcases x.run s with ⟨o, s'⟩
  cases o <;> rfl

theorem safe_bind_ok {f : α → Proc σ β} {s s' : σ} {a : α}
    {Q : β → σ → Prop} (h : x.run s = (.ok a, s')) : (x >>= f).Safe s Q ↔ (f a).Safe s' Q := by
  unfold Safe
  rw [run_bind_ok h]

@[simp] theorem safe_get (s : σ) (Q : σ → σ → Prop) : (get : Proc σ σ).Safe s Q ↔ Q s s := Iff.rfl

@[simp] theorem safe_wrapErr (text : String) (x : Proc σ α) (s : σ)
    (Q : α → σ → Prop) : (x.wrapErr text).Safe s Q ↔ x.Safe s Q := by
  unfold Safe
  rw [run_wrapErr]
  rcases x.run s with ⟨o, s'⟩
  cases o <;> rfl

theorem safe_lift {x : Outcome α} {s : σ} {Q : α → σ → Prop} (hx : x.Returns)
    (hQ : ∀ a, x = .ok a → Q a s) : (lift x : Proc σ α).Safe s Q := by
  cases x with
  | ok a => exact hQ a rfl
  | err e => trivial
  | panic | hang => exact hx

theorem safe_ite {c : Prop} [Decidable c] {x y : Proc σ α} {s : σ}
    {Q : α → σ → Prop} (hx : c → x.Safe s Q) (hy : ¬c → y.Safe s Q) :
    (if c then x else y).Safe s Q := by
  split
  · exact hx ‹_›
  · exact hy ‹_›

theorem safe_attempt {s : σ} {Q : Except Error α → σ → Prop}
    (hx : (x.run s).1.Returns) (hok : ∀ a s', x.run s = (.ok a, s') → Q (.ok a) s')
    (herr : ∀ e s', x.run s = (.err e, s') → Q (.error e) s') : x.attempt.Safe s Q := by
  unfold Safe
  rw [run_attempt]
  rcases hrun : x.run s with ⟨o, s'⟩
  rcases o with a | e | _ | _
  · exact hok a s' hrun
  · exact herr e s' hrun
  · simp [hrun] at hx
  · simp [hrun] at hx

end Proc

/-! ## Calls that return from every state

`Total R x` says that `x` returns whatever the state, and that it ends in a
state related to the first by `R`, also when it returns an error.  With a
reflexive and transitive `R` the property passes from statements to calls.
-/

namespace Proc

variable {σ α β : Type} {R : σ → σ → Prop}

/-- `x` returns from every state, and relates the states by `R`. -/
def Total (R : σ → σ → Prop) (x : Proc σ α) : Prop :=
  ∀ s, (x.run s).1.Returns ∧ R s (x.run s).2

theorem Total.lift [Std.Refl R] {x : Outcome α} (hx : x.Returns) : Total R (lift x : Proc σ α) :=
  fun s => ⟨hx, Std.Refl.refl s⟩

theorem Total.pure [Std.Refl R] (a : α) : Total R (Pure.pure a : Proc σ α) :=
  fun s => ⟨trivial, Std.Refl.refl s⟩

theorem Total.fail [Std.Refl R] (e : Error) : Total R (fail e : Proc σ α) :=
  fun s => ⟨trivial, Std.Refl.refl s⟩

section

variable {x : Proc σ α}

section

variable (hx : Total R x)
include hx

theorem Total.bind [IsTrans σ R] {f : α → Proc σ β}
    (hf : ∀ a, Total R (f a)) : Total R (x >>= f) := by
  intro s
  obtain ⟨hret, hR⟩ := hx s
  rw [run_bind]
  rcases hrun : x.run s with ⟨o, s'⟩
  rw [hrun] at hret hR
  cases o with
  | ok a => exact ⟨(hf a s').1, IsTrans.trans _ _ _ hR (hf a s').2⟩
  | err e => exact ⟨trivial, hR⟩
  | panic => exact absurd hret Outcome.not_returns_panic
  | hang => exact absurd hret Outcome.not_returns_hang

theorem Total.orZero (zero : α) : Total R (x.orZero zero) := by
  intro s
  obtain ⟨hret, hR⟩ := hx s
  rw [run_orZero]
  rcases hrun : x.run s with ⟨o, s'⟩
  rw [hrun] at hret hR
  cases o <;> exact ⟨hret, hR⟩

theorem Total.attempt : Total R x.attempt := by
  intro s
  obtain ⟨hret, hR⟩ := hx s
  rw [run_attempt]
  rcases hrun : x.run s with ⟨o, s'⟩
  rw [hrun] at hret hR
  cases o <;> exact ⟨hret, hR⟩

theorem Total.wrapErr (text : String) : Total R (x.wrapErr text) := by
  intro s
  obtain ⟨hret, hR⟩ := hx s
  rw [run_wrapErr]
  rcases hrun : x.run s with ⟨o, s'⟩
  rw [hrun] at hret hR
  cases o <;> exact ⟨hret, hR⟩

theorem Total.safe (s : σ) : x.Safe s fun _ s' => R s s' := by
  obtain ⟨hret, hR⟩ := hx s
  unfold Safe
  rcases hrun : x.run s with ⟨o, s'⟩
  rw [hrun] at hret hR
  cases o with
  | ok a => exact hR
  | err e => trivial
  | panic | hang => exact hret

theorem Total.safe_bind [IsTrans σ R] {f : α → Proc σ β} {s : σ}
   
    (hf : ∀ a s', x.run s = (.ok a, s') → (f a).Safe s' fun _ s'' => R s' s'') :
    (x >>= f).Safe s fun _ s' => R s s' := by
  have hsafe := hx.safe s
  rw [Proc.safe_bind]
  unfold Safe at hsafe ⊢
  rcases hrun : x.run s with ⟨o, s'⟩
  rw [hrun] at hsafe
  cases o with
  | ok a => exact (hf a s' hrun).mono fun _ _ h => IsTrans.trans _ _ _ hsafe h
  | err e => trivial
  | panic | hang => exact hsafe

end

end

theorem Total.ite {c : Prop} [Decidable c] {x y : Proc σ α} (hx : c → Total R x)
    (hy : ¬c → Total R y) : Total R (if c then x else y) := by
  split
  · exact hx ‹_›
  · exact hy ‹_›

end Proc

/-! ## Loops -/

/-- How an iteration of a `for` loop ends: with the loop variables of the next
iteration, or in a `break`. -/
inductive Ctl (α : Type) where
  | next (vars : α)
  | done (vars : α)

namespace Proc

variable {σ α : Type}

def loop (cond : σ → Bool) (body : α → Proc σ (Ctl α)) : Nat → α → Proc σ α
  | 0, a => do
    if cond (← get) then lift .hang else pure a
  | fuel + 1, a => do
    if cond (← get) then
      match ← body a with
      | .next a' => loop cond body fuel a'
      | .done a' => pure a'
    else pure a

section Rules

variable {cond : σ → Bool} {body : α → Proc σ (Ctl α)}

theorem run_loop_exit {fuel : Nat} {a : α} {s : σ} (h : cond s = false) :
    (loop cond body fuel a).run s = (.ok a, s) := by
  cases fuel <;> simp [loop, run_bind, h]

theorem run_loop_step {fuel : Nat} {a : α} {s : σ} (h : cond s = true) :
    (loop cond body (fuel + 1) a).run s = match (body a).run s with
      | (.ok (.next a'), s') => (loop cond body fuel a').run s'
      | (.ok (.done a'), s') => (.ok a', s')
      | (.err e, s') => (.err e, s')
      | (.panic, s') => (.panic, s')
      | (.hang, s') => (.hang, s') := by
  simp only [loop, run_bind, run_get, h, if_true]
  rcases (body a).run s with ⟨o, s'⟩
  rcases o with c | e | _ | _
  · cases c <;> rfl
  all_goals rfl

/-- With a bound of `μ` on its turns, the loop comes to stand with `a'` in front of `s'`. -/
def Reaches (cond : σ → Bool) (body : α → Proc σ (Ctl α)) (μ : σ → Nat) (a : α) (s : σ) (a' : α)
    (s' : σ) : Prop :=
  ∀ fuel, μ s ≤ fuel → ∃ fuel', μ s' ≤ fuel' ∧
    (loop cond body fuel a).run s = (loop cond body fuel' a').run s'

section Reaches

variable {μ : σ → Nat} {a a' a'' : α} {s s' s'' : σ}

theorem Reaches.refl : Reaches cond body μ a s a s := fun fuel hfuel => ⟨fuel, hfuel, rfl⟩

theorem Reaches.trans (h : Reaches cond body μ a s a' s') (h' : Reaches cond body μ a' s' a'' s'') :
    Reaches cond body μ a s a'' s'' := by
  intro fuel hfuel
  obtain ⟨fuel', hfuel', heq⟩ := h fuel hfuel
  obtain ⟨fuel'', hfuel'', heq'⟩ := h' fuel' hfuel'
  exact ⟨fuel'', hfuel'', heq.trans heq'⟩

theorem Reaches.step (hcond : cond s = true) (hlt : μ s' < μ s)
    (h : (body a).run s = (.ok (.next a'), s')) : Reaches cond body μ a s a' s' := by
  intro fuel hfuel
  obtain ⟨fuel, rfl⟩ : ∃ n, fuel = n + 1 := ⟨fuel - 1, by omega⟩
  refine ⟨fuel, by omega, ?_⟩
  rw [run_loop_step hcond, h]

theorem Reaches.run (h : Reaches cond body μ a s a' s') (hexit : cond s' = false) {fuel : Nat}
    (hfuel : μ s ≤ fuel) : (loop cond body fuel a).run s = (.ok a', s') := by
  obtain ⟨fuel', -, hrun⟩ := h fuel hfuel
  rw [hrun, run_loop_exit hexit]

end Reaches

theorem loop_ne_err
    (hbody : ∀ a s e, ((body a).run s).1 ≠ .err e) (fuel : Nat) (a : α) (s : σ) (e : Error) :
    ((loop cond body fuel a).run s).1 ≠ .err e := by
  induction fuel generalizing a s with
  | zero => cases hcond : cond s <;> simp [loop, run_bind, hcond]
  | succ fuel ih =>
    cases hcond : cond s with
    | false =>
      rw [run_loop_exit hcond]
      exact nofun
    | true =>
      rw [run_loop_step hcond]
      split
      · exact ih _ _
      · exact nofun
      · next e' _ hrun => exact absurd (congrArg Prod.fst hrun) (hbody a s e')
      · exact nofun
      · exact nofun

theorem loop_total {R : σ → σ → Prop} [Std.Refl R] [IsTrans σ R] (μ : σ → Nat)
    (hpos : ∀ s, cond s = true → 0 < μ s) (hbody : ∀ a s, cond s = true →
      ((body a).run s).1.Returns ∧ R s ((body a).run s).2 ∧
        ∀ a', ((body a).run s).1 = .ok (.next a') → μ ((body a).run s).2 < μ s) :
    ∀ fuel a s, μ s ≤ fuel → ((loop cond body fuel a).run s).1.Returns ∧
        R s ((loop cond body fuel a).run s).2 := by
  intro fuel
  induction fuel with
  | zero =>
    intro a s hμ
    have hc : cond s = false := by
      cases hc : cond s
      · rfl
      · have := hpos s hc
        omega
    rw [run_loop_exit hc]
    exact ⟨trivial, Std.Refl.refl s⟩
  | succ fuel ih =>
    intro a s hμ
    cases hc : cond s with
    | false =>
      rw [run_loop_exit hc]
      exact ⟨trivial, Std.Refl.refl s⟩
    | true =>
      obtain ⟨hret, hR, hdec⟩ := hbody a s hc
      rw [run_loop_step hc]
      rcases hrun : (body a).run s with ⟨o, s'⟩
      rw [hrun] at hret hR hdec
      rcases o with c | e | _ | _
      · rcases c with a' | a'
        · have hlt : μ s' < μ s := hdec a' rfl
          obtain ⟨hret', hR'⟩ := ih a' s' (by omega)
          exact ⟨hret', IsTrans.trans _ _ _ hR hR'⟩
        · exact ⟨trivial, hR⟩
      · exact ⟨trivial, hR⟩
      · exact absurd hret Outcome.not_returns_panic
      · exact absurd hret Outcome.not_returns_hang

/-- A loop returns when an invariant makes its body return, and every further
iteration makes the measure smaller. -/
theorem safe_loop {Q : α → σ → Prop} (Inv : α → σ → Prop) (μ : σ → Nat)
    (hpos : ∀ s, cond s = true → 0 < μ s) (hexit : ∀ a s, Inv a s → cond s = false → Q a s)
    (hstep : ∀ a s, Inv a s → cond s = true → (body a).Safe s fun c s' =>
      match c with
      | .next a' => μ s' < μ s ∧ Inv a' s'
      | .done a' => Q a' s') :
    ∀ fuel a s, μ s ≤ fuel → Inv a s → (loop cond body fuel a).Safe s Q := by
  intro fuel
  induction fuel with
  | zero =>
    intro a s hμ hinv
    have hc : cond s = false := by
      cases hc : cond s
      · rfl
      · have := hpos s hc
        omega
    rw [Safe, run_loop_exit hc]
    exact hexit a s hinv hc
  | succ fuel ih =>
    intro a s hμ hinv
    cases hc : cond s with
    | false =>
      rw [Safe, run_loop_exit hc]
      exact hexit a s hinv hc
    | true =>
      have hbody := hstep a s hinv hc
      rw [Safe, run_loop_step hc]
      unfold Safe at hbody
      rcases hrun : (body a).run s with ⟨o, s'⟩
      rw [hrun] at hbody
      rcases o with c | e | _ | _
      · rcases c with a' | a'
        · exact ih a' s' (by have := hbody.1; omega) hbody.2
        · exact hbody
      · trivial
      · exact hbody
      · exact hbody

/-- When a condition on the loop variables and the state decides at every
iteration whether the loop goes wrong there, and is carried over to the next
iteration, it decides whether the whole loop returns. -/
theorem loop_returns_iff (P : α → σ → Prop) (μ : σ → Nat) (hpos : ∀ s, cond s = true → 0 < μ s)
    (hexit : ∀ a s, cond s = false → P a s) (hstep : ∀ a s, cond s = true →
      match (body a).run s with
      | (.ok (.next a'), s') => μ s' < μ s ∧ (P a s ↔ P a' s')
      | (.ok (.done _), _) => P a s
      | (.err _, _) => P a s
      | (.panic, _) => ¬P a s
      | (.hang, _) => ¬P a s) :
    ∀ fuel a s, μ s ≤ fuel → (((loop cond body fuel a).run s).1.Returns ↔ P a s) := by
  intro fuel
  induction fuel with
  | zero =>
    intro a s hμ
    have hc : cond s = false := by
      cases hc : cond s
      · rfl
      · have := hpos s hc
        omega
    simp [run_loop_exit hc, hexit a s hc]
  | succ fuel ih =>
    intro a s hμ
    cases hc : cond s with
    | false => simp [run_loop_exit hc, hexit a s hc]
    | true =>
      have hbody := hstep a s hc
      rw [run_loop_step hc]
      rcases hrun : (body a).run s with ⟨o, s'⟩
      rw [hrun] at hbody
      rcases o with c | e | _ | _
      · rcases c with a' | a'
        · rw [hbody.2]
          exact ih a' s' (by omega)
        · simpa using hbody
      · simpa using hbody
      · simpa using hbody
      · simpa using hbody

end Rules

end Proc

/-! ## What a call leaves alone

`Keeps R x` says that `x` relates the state it starts from and the state it ends
in by `R`, whichever way it ends.  Nothing is said about whether it returns, so a
frame can be stated for a call that may panic.
-/

namespace Proc

variable {σ α β : Type} {R : σ → σ → Prop}

/-- `x` relates the states before and after by `R`. -/
def Keeps (R : σ → σ → Prop) (x : Proc σ α) : Prop := ∀ s, R s (x.run s).2

theorem Keeps.mono {R' : σ → σ → Prop} {x : Proc σ α} (hx : Keeps R x)
    (h : ∀ s s', R s s' → R' s s') : Keeps R' x :=
  fun s => h _ _ (hx s)

theorem Keeps.pure [Std.Refl R] (a : α) : Keeps R (Pure.pure a : Proc σ α) :=
  fun s => Std.Refl.refl s

theorem Keeps.fail [Std.Refl R] (e : Error) : Keeps R (fail e : Proc σ α) :=
  fun s => Std.Refl.refl s

theorem Keeps.lift [Std.Refl R] (x : Outcome α) : Keeps R (lift x : Proc σ α) :=
  fun s => Std.Refl.refl s

theorem Keeps.get [Std.Refl R] : Keeps R (get : Proc σ σ) :=
  fun s => Std.Refl.refl s

/-- Two calls in a row, the second from the state and with the value that the first
one hands over. -/
theorem Keeps.bind_run [IsTrans σ R] {x : Proc σ α} {f : α → Proc σ β} {s : σ}
    (hx : R s (x.run s).2) (hf : ∀ a s', x.run s = (.ok a, s') → R s' ((f a).run s').2) :
    R s ((x >>= f).run s).2 := by
  rw [run_bind]
  rcases hrun : x.run s with ⟨o, s'⟩
  rw [hrun] at hx
  cases o with
  | ok a => exact IsTrans.trans _ _ _ hx (hf a s' hrun)
  | err e | panic | hang => exact hx

theorem Keeps.bind [IsTrans σ R] {x : Proc σ α} {f : α → Proc σ β} (hx : Keeps R x)
    (hf : ∀ a, Keeps R (f a)) : Keeps R (x >>= f) :=
  fun s => Keeps.bind_run (hx s) fun a s' _ => hf a s'

theorem Keeps.read_bind [Std.Refl R] {x : Proc σ α} {f : α → Proc σ β} {s : σ}
    (hx : (x.run s).2 = s) (hf : ∀ a, R s ((f a).run s).2) : R s ((x >>= f).run s).2 := by
  rw [run_bind]
  rcases hrun : x.run s with ⟨o, s'⟩
  rw [hrun] at hx
  obtain rfl := hx
  cases o with
  | ok a => exact hf a
  | err e | panic | hang => exact Std.Refl.refl _

theorem snd_run_attempt_lift (x : Outcome α) (s : σ) : ((lift x).attempt.run s).2 = s := by
  cases x <;> rfl

/-- The statements after a read may use that they start from the state read. -/
theorem Keeps.get_bind {f : σ → Proc σ α} (hf : ∀ s, R s ((f s).run s).2) :
    Keeps R (Proc.get >>= f) := hf

theorem Keeps.attempt {x : Proc σ α} (hx : Keeps R x) : Keeps R x.attempt := by
  intro s
  have h := hx s
  rw [run_attempt]
  rcases hrun : x.run s with ⟨o, s'⟩
  rw [hrun] at h
  cases o <;> exact h

theorem Keeps.attempt_bind [IsTrans σ R] {x : Proc σ α} {f : Except Error α → Proc σ β}
    (hx : Keeps R x) (herr : ∀ e, Keeps R (f (.error e))) (hok : ∀ a, Keeps R (f (.ok a))) :
    Keeps R (x.attempt >>= f) :=
  hx.attempt.bind fun r => r.casesOn herr hok

theorem Keeps.wrapErr {x : Proc σ α} (hx : Keeps R x) (text : String) :
    Keeps R (x.wrapErr text) := by
  intro s
  have h := hx s
  rw [run_wrapErr]
  rcases hrun : x.run s with ⟨o, s'⟩
  rw [hrun] at h
  cases o <;> exact h

theorem Keeps.ite {c : Prop} [Decidable c] {x y : Proc σ α} (hx : c → Keeps R x)
    (hy : ¬c → Keeps R y) : Keeps R (if c then x else y) := by
  split
  · exact hx ‹_›
  · exact hy ‹_›

theorem Keeps.forM [Std.Refl R] [IsTrans σ R] {f : β → Proc σ PUnit} (l : List β)
    (hf : ∀ b ∈ l, Keeps R (f b)) : Keeps R (l.forM f) := by
  induction l with
  | nil => exact Keeps.pure _
  | cons b l ih =>
    exact (hf b List.mem_cons_self).bind fun _ =>
      ih fun b' hb' => hf b' (List.mem_cons_of_mem b hb')

/-! ### What a value says -/

/-- A value that `x` returns satisfies `Q`, together with the state that `x` leaves. -/
def Gives (Q : α → σ → Prop) (x : Proc σ α) : Prop :=
  ∀ s a s', x.run s = (.ok a, s') → Q a s'

theorem Gives.bind {Q : β → σ → Prop} {x : Proc σ α} {f : α → Proc σ β}
    (hf : ∀ a, Gives Q (f a)) : Gives Q (x >>= f) := by
  intro s b s' hrun
  rw [run_bind] at hrun
  rcases hx : x.run s with ⟨o, s₁⟩
  rw [hx] at hrun
  cases o with
  | ok a => exact hf a s₁ b s' hrun
  | err e | panic | hang => cases hrun

end Proc

end Claudia5gc.Go
