import Claudia5gc.Go.Safe

/-!
# Reading information elements

The NAS decoders walk over a message with a `Reader`, a byte slice and a position in it.  Only the
octets behind the position matter, so the reader is modelled by those octets.
-/

namespace Claudia5gc.Nas

open Go Proc List

variable (r : Bytes) {n : Nat}

/-- `Reader`: the octets that have not been read. -/
abbrev Reader := Bytes

def readByte : Proc Reader UInt8
  | [] => (.err eof, [])
  | b :: rest => (.ok b, rest)

def peekByte : Proc Reader UInt8
  | [] => (.err eof, [])
  | b :: rest => (.ok b, b :: rest)

def readBytes (n : Nat) : Proc Reader Bytes := fun r =>
  let len := r.length
  if len < n then (.err (.new s!"nas: need {n} bytes, have {len}"), r)
  else (.ok (r.take n), r.drop n)

def beNat (hi lo : UInt8) : Nat := hi.toNat <<< 8 ||| lo.toNat

def beUInt16 (b0 b1 : UInt8) : UInt16 := b0.toUInt16 <<< 8 ||| b1.toUInt16

/-- A value with a one-octet length, errors ignored. -/
def readLV : Proc Reader Bytes := do
  let l ← readByte.orZero 0
  (readBytes l.toNat).orZero []

/-- A value with a two-octet length, errors ignored. -/
def readLVE : Proc Reader Bytes := do
  let hi ← readByte.orZero 0
  let lo ← readByte.orZero 0
  (readBytes (beNat hi lo)).orZero []

def requireLV : Proc Reader Bytes := do
  let l ← readByte
  readBytes l.toNat

/-- Skip a value with a one-octet length; the first error ends the attempt. -/
def skipLV : Proc Reader Unit :=
  orZero () do
    let l ← readByte
    let _ ← readBytes l.toNat
    pure ()

/-- Skip a value with a two-octet length; the first error ends the attempt. -/
def skipLVE : Proc Reader Unit :=
  orZero () do
    let hi ← readByte
    let lo ← readByte
    let _ ← readBytes (beNat hi lo)
    pure ()

/-- The loop over the optional elements, `for rdr.Len() >= min`, which reads an
IEI and hands it to the body. -/
def forEachIE {α : Type} (min : Nat) (body : UInt8 → α → Proc Reader (Ctl α))
    (a : α) : Proc Reader α := do
  let r ← get
  loop (fun r => decide (min ≤ r.length))
    (fun a => do
      match ← readByte.attempt with
      | .error _ => pure (.done a)
      | .ok iei => body iei a)
    r.length a

/-! ## What the reads do -/

@[simp] theorem run_readByte_cons (b : UInt8) (r : Bytes) :
    readByte.run (b :: r) = (.ok b, r) := rfl

theorem run_readByte_orZero_nil : (readByte.orZero 0).run [] = (.ok 0, []) := rfl

theorem run_readByte_orZero_cons (b : UInt8) (r : Bytes) :
    (readByte.orZero 0).run (b :: r) = (.ok b, r) := rfl

theorem run_readBytes_of_le {r : Bytes} (h : n ≤ r.length) :
    (readBytes n).run r = (.ok (r.take n), r.drop n) := by
  simp [run, readBytes, Nat.not_lt.mpr h]

theorem run_readBytes_of_lt {r : Bytes} (h : r.length < n) :
    ∃ e, (readBytes n).run r = (.err e, r) := by
  simp [run, readBytes, h]

def lvValue : Bytes → Bytes
  | [] => []
  | l :: r => if l.toNat ≤ r.length then r.take l.toNat else []

def lvTail : Bytes → Bytes
  | [] => []
  | l :: r => if l.toNat ≤ r.length then r.drop l.toNat else r

/-- The element with a one-octet length is complete. -/
def lvFits : Bytes → Bool
  | [] => false
  | l :: r => decide (l.toNat ≤ r.length)

def lveValue : Bytes → Bytes
  | [] => []
  | [_] => []
  | hi :: lo :: r => if beNat hi lo ≤ r.length then r.take (beNat hi lo) else []

def lveTail : Bytes → Bytes
  | [] => []
  | [_] => []
  | hi :: lo :: r => if beNat hi lo ≤ r.length then r.drop (beNat hi lo) else r

inductive Layout where
  /-- Nothing follows: the IEI octet carries the value. -/
  | bare
  /-- A value of this many octets. -/
  | fixed (n : Nat)
  /-- A one-octet length and a value. -/
  | lv
  /-- A two-octet length and a value. -/
  | lve

/-- What is left behind an element of this coding. -/
def Layout.tail : Layout → Bytes → Bytes
  | .bare, r => r
  | .fixed n, r => if n ≤ r.length then r.drop n else r
  | .lv, r => lvTail r
  | .lve, r => lveTail r

theorem length_lvTail_le : (lvTail r).length ≤ r.length := by
  cases r with
  | nil => simp [lvTail]
  | cons l r =>
    simp only [lvTail, length_cons]
    split
    · simp only [length_drop]
      omega
    · omega

theorem length_lveTail_le : (lveTail r).length ≤ r.length := by
  match r with
  | [] => simp [lveTail]
  | [_] => simp [lveTail]
  | hi :: lo :: r =>
    simp only [lveTail, length_cons]
    split
    · simp only [length_drop]
      omega
    · omega

theorem Layout.length_tail_le (c : Layout) (r : Bytes) : (c.tail r).length ≤ r.length := by
  cases c with
  | bare => exact Nat.le_refl _
  | fixed n =>
    simp only [Layout.tail]
    split
    · simp only [length_drop]
      omega
    · exact Nat.le_refl _
  | lv => exact length_lvTail_le r
  | lve => exact length_lveTail_le r

theorem run_readBytes_orZero (n : Nat) (r : Bytes) : ((readBytes n).orZero []).run r =
      if n ≤ r.length then (.ok (r.take n), r.drop n) else (.ok [], r) := by
  rw [run_orZero]
  by_cases h : n ≤ r.length
  · simp [run_readBytes_of_le h, h]
  · obtain ⟨e, he⟩ := run_readBytes_of_lt (Nat.lt_of_not_le h)
    simp [he, h]

theorem run_readLV : readLV.run r = (.ok (lvValue r), lvTail r) := by
  cases r with
  | nil => rfl
  | cons l r =>
    rw [readLV, run_bind_ok (run_readByte_orZero_cons l r), run_readBytes_orZero]
    simp only [lvValue, lvTail]
    split <;> rfl

theorem run_readLVE : readLVE.run r = (.ok (lveValue r), lveTail r) := by
  match r with
  | [] => rfl
  | [hi] =>
    rw [readLVE, run_bind_ok (run_readByte_orZero_cons hi []),
      run_bind_ok run_readByte_orZero_nil, run_readBytes_orZero]
    simp [lveValue, lveTail]
  | hi :: lo :: r =>
    rw [readLVE, run_bind_ok (run_readByte_orZero_cons hi (lo :: r)),
      run_bind_ok (run_readByte_orZero_cons lo r), run_readBytes_orZero]
    simp only [lveValue, lveTail]
    split <;> rfl

theorem run_requireLV_fits {r : Bytes} (h : lvFits r = true) :
    requireLV.run r = (.ok (lvValue r), lvTail r) := by
  cases r with
  | nil => simp [lvFits] at h
  | cons l r =>
    simp only [lvFits, decide_eq_true_eq] at h
    rw [requireLV, run_bind_ok (run_readByte_cons l r), run_readBytes_of_le h]
    simp [lvValue, lvTail, h]

theorem lvValue_of_truncated {r : Bytes} (h : lvFits r = false) : lvValue r = [] := by
  cases r with
  | nil => rfl
  | cons l r =>
    simp only [lvFits, decide_eq_false_iff_not] at h
    simp [lvValue, h]

theorem run_requireLV_truncated {r : Bytes} (h : lvFits r = false) :
    ∃ e r', requireLV.run r = (.err e, r') := by
  cases r with
  | nil => exact ⟨_, _, rfl⟩
  | cons l r =>
    simp only [lvFits, decide_eq_false_iff_not, Nat.not_le] at h
    obtain ⟨e, he⟩ := run_readBytes_of_lt h
    exact ⟨e, r, by rw [requireLV, run_bind_ok (run_readByte_cons l r), he]⟩

theorem run_skipLV : skipLV.run r = (.ok (), lvTail r) := by
  rw [skipLV, run_orZero]
  cases r with
  | nil => rfl
  | cons l r =>
    rw [run_bind_ok (run_readByte_cons l r), run_bind]
    by_cases h : l.toNat ≤ r.length
    · simp [run_readBytes_of_le h, lvTail, h]
    · obtain ⟨e, he⟩ := run_readBytes_of_lt (Nat.lt_of_not_le h)
      simp [he, lvTail, h]

theorem run_skipLVE : skipLVE.run r = (.ok (), lveTail r) := by
  rw [skipLVE, run_orZero]
  match r with
  | [] => rfl
  | [hi] => rfl
  | hi :: lo :: r =>
    rw [run_bind_ok (run_readByte_cons hi (lo :: r)),
      run_bind_ok (run_readByte_cons lo r), run_bind]
    by_cases h : beNat hi lo ≤ r.length
    · simp [run_readBytes_of_le h, lveTail, h]
    · obtain ⟨e, he⟩ := run_readBytes_of_lt (Nat.lt_of_not_le h)
      simp [he, lveTail, h]

/-! ## Decoders that return

Most decoders return on every input, and never give octets back to the reader.
`Forward` says both.
-/

/-- The second reader has no more octets than the first. -/
def NoLonger (r r' : Reader) : Prop := r'.length ≤ r.length

@[simp] theorem NoLonger.refl (r : Reader) : NoLonger r r := Nat.le_refl r.length

instance : Std.Refl NoLonger := ⟨NoLonger.refl⟩

instance : IsTrans Reader NoLonger := ⟨fun _ _ _ h h' => Nat.le_trans h' h⟩

/-- The decoder returns on every input and never gives octets back. -/
abbrev Forward {α : Type} (x : Proc Reader α) : Prop := Proc.Total NoLonger x

section Forward

variable {α : Type}

theorem forward_readByte : Forward readByte := by
  intro r
  cases r with
  | nil => exact ⟨trivial, Nat.le_refl _⟩
  | cons b r => exact ⟨trivial, Nat.le_succ _⟩

theorem forward_readBytes (n : Nat) : Forward (readBytes n) := by
  intro r
  rcases Nat.lt_or_ge r.length n with h | h
  · obtain ⟨e, he⟩ := run_readBytes_of_lt h
    rw [he]
    exact ⟨trivial, Nat.le_refl _⟩
  · rw [run_readBytes_of_le h]
    exact ⟨trivial, by simp [NoLonger]⟩

theorem safe_readBytes {r : Bytes} {Q : Bytes → Bytes → Prop}
    (h : n ≤ r.length → Q (r.take n) (r.drop n)) : (readBytes n).Safe r Q := by
  rcases Nat.lt_or_ge r.length n with hlt | hge
  · obtain ⟨e, he⟩ := run_readBytes_of_lt hlt
    simp [Proc.Safe, he]
  · simpa [Proc.Safe, run_readBytes_of_le hge] using h hge

theorem forward_requireLV : Forward requireLV :=
  forward_readByte.bind fun _ => forward_readBytes _

theorem forward_readLV : Forward readLV :=
  (forward_readByte.orZero 0).bind fun _ => (forward_readBytes _).orZero []

theorem forward_readLVE : Forward readLVE :=
  (forward_readByte.orZero 0).bind fun _ => (forward_readByte.orZero 0).bind fun _ =>
    (forward_readBytes _).orZero []

theorem forward_forEachIE {min : Nat} (hmin : 0 < min)
    {body : UInt8 → α → Proc Reader (Ctl α)} (hbody : ∀ iei a, Forward (body iei a))
    (a : α) : Forward (forEachIE min body a) := by
  intro r
  refine loop_total length ?_ ?_ _ _ _ (Nat.le_refl _)
  · intro s hs
    simp only [decide_eq_true_eq] at hs
    omega
  · intro a s hs
    cases s with
    | nil =>
      simp only [length_nil, decide_eq_true_eq] at hs
      omega
    | cons iei s =>
      obtain ⟨hret, hle⟩ := hbody iei a s
      exact ⟨hret, Nat.le_succ_of_le hle, fun _ _ => Nat.lt_succ_of_le hle⟩

theorem returns_forEachIE_of_le {min : Nat} (hmin : 0 < min)
    {body : UInt8 → α → Proc Reader (Ctl α)} (hbody : ∀ iei a r, r.length < n →
      (body iei a).Safe r fun _ r' => NoLonger r r') (a : α) {r : Bytes} (hr : r.length ≤ n) :
    ((forEachIE min body a).run r).1.Returns := by
  refine Proc.Safe.returns (Q := fun _ _ => True) <|
    safe_loop (fun _ r => r.length ≤ n) length ?_ (fun _ _ _ _ => trivial) ?_
      _ _ _ (Nat.le_refl _) hr
  · intro s hs
    simp only [decide_eq_true_eq] at hs
    omega
  · intro a s hle hs
    cases s with
    | nil =>
      simp only [length_nil, decide_eq_true_eq] at hs
      omega
    | cons iei s =>
      refine (hbody iei a s hle).mono fun c s' hs' => ?_
      simp only [NoLonger, length_cons] at hs' hle ⊢
      cases c with
      | next a' => exact ⟨by omega, by omega⟩
      | done a' => trivial

end Forward

/-! ## The way of a decoder through the elements of a message

A message decoder loops over the optional elements and hands the values of some of them to another
decoder.  When that decoder can panic, whether the message decoder returns depends on which values
it gets to hand over, and that depends on how it skips the elements in between.
-/

section Walk

open Go

/-- The way of a message decoder through the elements: how each element is
coded, the values that are handed over, and on which elements the decoder gives
up with an error. -/
structure IEWalk where
  layout : UInt8 → Layout
  handed : UInt8 → Bytes → Option Bytes
  rejects : UInt8 → Bytes → Bool := fun _ _ => false

namespace IEWalk

/-- The values that are handed over on the way. -/
def reached (w : IEWalk) : Bytes → List Bytes
  | [] => []
  | iei :: r =>
    (w.handed iei r).toList ++ if w.rejects iei r then [] else w.reached ((w.layout iei).tail r)
termination_by b => b.length
decreasing_by
  have := (w.layout iei).length_tail_le r
  simp only [List.length_cons]
  omega

def Traps (w : IEWalk) (Bad : Bytes → Prop) (iei : UInt8) (r : Bytes) : Prop :=
  ∃ v, w.handed iei r = some v ∧ Bad v

def Foresees {α : Type} (w : IEWalk) (Bad : Bytes → Prop) (iei : UInt8) (r : Bytes) :
    Outcome (Ctl α) × Bytes → Prop
  | (.ok (.next _), r') =>
    r' = (w.layout iei).tail r ∧ w.rejects iei r = false ∧ ¬w.Traps Bad iei r
  | (.ok (.done _), _) => False
  | (.err _, _) => w.rejects iei r = true ∧ ¬w.Traps Bad iei r
  | (.panic, _) => w.Traps Bad iei r
  | (.hang, _) => False

def Follows {α : Type} (w : IEWalk) (Bad : Bytes → Prop)
    (body : UInt8 → α → Proc Reader (Ctl α)) : Prop :=
  ∀ iei a r, w.Foresees Bad iei r ((body iei a).run r)

theorem reached_cons (w : IEWalk) (Bad : Bytes → Prop) (iei : UInt8) (r : Bytes) :
    (∀ v ∈ w.reached (iei :: r), ¬Bad v) ↔ ¬w.Traps Bad iei r ∧ (w.rejects iei r = false →
        ∀ v ∈ w.reached ((w.layout iei).tail r), ¬Bad v) := by
  rw [reached, Traps]
  cases w.handed iei r <;> cases w.rejects iei r <;> simp

theorem returns_forEachIE_iff {α : Type} {w : IEWalk} {Bad : Bytes → Prop}
    {body : UInt8 → α → Proc Reader (Ctl α)} (hw : w.Follows Bad body) (a : α) (r : Bytes) :
    ((forEachIE 1 body a).run r).1.Returns ↔ ∀ v ∈ w.reached r, ¬Bad v := by
  refine Proc.loop_returns_iff (fun _ r => ∀ v ∈ w.reached r, ¬Bad v)
    List.length ?_ ?_ ?_ _ _ _ (Nat.le_refl _)
  · intro s hs
    simp only [decide_eq_true_eq] at hs
    omega
  · intro a s hs
    simp only [decide_eq_false_iff_not, Nat.not_le, Nat.lt_one_iff, List.length_eq_zero_iff] at hs
    simp [hs, reached]
  · intro a s hs
    cases s with
    | nil => simp at hs
    | cons iei s =>
      have hstep := hw iei a s
      have hread : readByte.attempt.run (iei :: s) = (.ok (.ok iei), s) := rfl
      rw [Proc.run_bind_ok hread, w.reached_cons]
      rcases hrun : (body iei a).run s with ⟨o, s'⟩
      rw [hrun] at hstep
      rcases o with c | e | _ | _
      · rcases c with a' | a'
        · obtain ⟨rfl, hrej, htrap⟩ := hstep
          have hle := (w.layout iei).length_tail_le s
          exact ⟨Nat.lt_succ_of_le hle, by simp [hrej, htrap]⟩
        · exact hstep.elim
      · exact ⟨hstep.2, fun h => by simp [hstep.1] at h⟩
      · exact fun h => h.1 hstep
      · exact hstep.elim

end IEWalk

/-! ### Elements that are not handed over, or not bad -/

section Foresees

variable {α : Type} {w : IEWalk} {Bad : Bytes → Prop} {iei : UInt8} {r : Bytes}

theorem not_traps_of_handed {v : Bytes} (hv : w.handed iei r = some v) (hbad : ¬Bad v) :
    ¬w.Traps Bad iei r := by
  rintro ⟨v', hv', hbad'⟩
  rw [hv, Option.some.injEq] at hv'
  exact hbad (hv' ▸ hbad')

theorem not_traps_of_none (hv : w.handed iei r = none) : ¬w.Traps Bad iei r := by
  rintro ⟨v', hv', -⟩
  rw [hv] at hv'
  cases hv'

section

variable {f : Bytes → Proc Reader (Ctl α)}

theorem foresees_requireLV (htrunc : lvFits r = false → w.rejects iei r = true ∧ ¬w.Traps Bad iei r)
    (hfits : lvFits r = true → w.Foresees Bad iei r ((f (lvValue r)).run (lvTail r))) :
    w.Foresees Bad iei r ((requireLV >>= f).run r) := by
  cases hfit : lvFits r
  · obtain ⟨e, r', he⟩ := run_requireLV_truncated hfit
    rw [Proc.run_bind_err he]
    exact htrunc hfit
  · rw [Proc.run_bind_ok (run_requireLV_fits hfit)]
    exact hfits hfit

theorem foresees_readLV (hf : ∀ v, ∃ a, (f v).run (lvTail r) = (.ok (.next a), lvTail r))
    (hlayout : w.layout iei = .lv) (hrej : w.rejects iei r = false)
    (htrap : ¬w.Traps Bad iei r) : w.Foresees Bad iei r ((readLV >>= f).run r) := by
  obtain ⟨a, ha⟩ := hf (lvValue r)
  rw [Proc.run_bind_ok (run_readLV r), ha]
  exact ⟨by rw [hlayout]; rfl, hrej, htrap⟩

theorem foresees_readLVE (hf : ∀ v, ∃ a, (f v).run (lveTail r) = (.ok (.next a), lveTail r))
    (hlayout : w.layout iei = .lve) (hrej : w.rejects iei r = false)
    (htrap : ¬w.Traps Bad iei r) : w.Foresees Bad iei r ((readLVE >>= f).run r) := by
  obtain ⟨a, ha⟩ := hf (lveValue r)
  rw [Proc.run_bind_ok (run_readLVE r), ha]
  exact ⟨by rw [hlayout]; rfl, hrej, htrap⟩

end

end Foresees

end Walk

end Claudia5gc.Nas
