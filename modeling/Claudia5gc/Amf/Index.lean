import Claudia5gc.Amf.Context

/-!
# The indexes of the AMF

The indexes by SUPI and by 5G-TMSI lead to contexts that are still there and still have the
identity, as long as no old key of a context with a new identity is left; and no two contexts have
one 5G-TMSI, as long as neither of the two counters hands out what the other has passed.
-/

namespace Claudia5gc.Amf

open Go Heap Manager Int64

variable {h h' : History} {ranID : Int64} {m m' : Manager} {p ue : Ptr}
  {answer : Except Error UInt32} {supi s : String} {t : UInt32}

namespace Manager

/-! ## What the operations do -/

section Operations

variable (m : Manager)

@[simp] theorem next_allocateUEContext (ranID : Int64) :
    (m.allocateUEContext ranID).2.ues.next = m.ues.next + 1 := rfl

theorem get_allocateUEContext_of_lt (hp : p < m.ues.next) :
    (m.allocateUEContext ranID).2.ues.get p = m.ues.get p :=
  get_new_of_lt hp

@[simp] theorem get_allocateUEContext_self (ranID : Int64) :
    (m.allocateUEContext ranID).2.ues.get m.ues.next =
      { amfUENGAPId := m.ngapIDCounter + 1, ranUENGAPId := ranID } := by
  show (m.ues.new _).2.get m.ues.next = _
  rw [get_new, if_pos rfl]

theorem getByNGAPId_allocateUEContext {id : Int64} :
    (m.allocateUEContext ranID).2.getByNGAPId id = some p ↔
      (id = m.ngapIDCounter + 1 ∧ m.ues.next = p) ∨
        (id ≠ m.ngapIDCounter + 1 ∧ m.getByNGAPId id = some p) :=
  Map.lookup_insert_eq_some

@[simp] theorem getByTMSI_allocateUEContext (ranID : Int64) :
    (m.allocateUEContext ranID).2.getByTMSI = m.getByTMSI := rfl

theorem setSUPI_eq (ue : Ptr) (supi : String) : (m.setSUPI ue supi).2 = { m with
      ues := m.ues.modify ue ({ · with supi := supi })
      uesBySUPI := (m.setSUPI ue supi).2.uesBySUPI } := by
  unfold setSUPI
  dsimp only
  split <;> rfl

theorem getBySUPI_setSUPI : (m.setSUPI ue supi).2.getBySUPI s = some p ↔
      (s = supi ∧ ue = p) ∨ (s ≠ supi ∧ m.getBySUPI s = some p) := by
  unfold setSUPI
  dsimp only
  split_ifs with hold
  · have hold : m.getBySUPI supi = some ue := hold
    show m.getBySUPI s = some p ↔ _
    by_cases hs : s = supi
    · subst hs
      simp [hold]
    · simp [hs]
  · exact Map.lookup_insert_eq_some

theorem nextTMSI_eq (answer : Except Error UInt32) : (m.nextTMSI answer).2 =
      { m with tmsiCounter := (m.nextTMSI answer).2.tmsiCounter } := by
  unfold nextTMSI
  split
  · split <;> rfl
  · rfl

@[simp] theorem tmsi_assignGUTI (ue : Ptr) (answer : Except Error UInt32) :
    (m.assignGUTI ue answer).1.tmsi = (m.nextTMSI answer).1 := rfl

theorem assignGUTI_eq (ue : Ptr) (answer : Except Error UInt32) :
    (m.assignGUTI ue answer).2 = { m with
      ues := m.ues.modify ue ({ · with guti := some (m.assignGUTI ue answer).1 })
      uesByTMSI := m.uesByTMSI.insert (m.nextTMSI answer).1 ue
      tmsiCounter := (m.nextTMSI answer).2.tmsiCounter } := by
  unfold assignGUTI
  dsimp only
  rw [nextTMSI_eq]

theorem getByTMSI_assignGUTI : (m.assignGUTI ue answer).2.getByTMSI t = some p ↔
      (t = (m.nextTMSI answer).1 ∧ ue = p) ∨
        (t ≠ (m.nextTMSI answer).1 ∧ m.getByTMSI t = some p) := by
  rw [assignGUTI_eq]
  exact Map.lookup_insert_eq_some

@[simp] theorem ues_remove (ue : Ptr) : (m.remove ue).ues = m.ues := rfl

theorem getByNGAPId_remove {id : Int64} : (m.remove ue).getByNGAPId id = some p ↔
      id ≠ (m.ues.get ue).amfUENGAPId ∧ m.getByNGAPId id = some p :=
  Map.lookup_erase_eq_some

theorem getBySUPI_remove : (m.remove ue).getBySUPI s = some p ↔
      ¬(s = (m.ues.get ue).supi ∧ m.ownsSUPI ue) ∧ m.getBySUPI s = some p := by
  unfold remove getBySUPI
  split_ifs with howns
  · rw [Map.lookup_erase_eq_some]
    simp [howns]
  · simp [howns]

theorem getByTMSI_remove : (m.remove ue).getByTMSI t = some p ↔
      (∀ g, (m.ues.get ue).guti = some g → t ≠ g.tmsi) ∧ m.getByTMSI t = some p := by
  unfold remove getByTMSI
  dsimp only
  split
  · rename_i g hg
    rw [Map.lookup_erase_eq_some]
    simp [hg]
  · rename_i hg
    simp [hg]

theorem getByNGAPId_foldl_remove {id : Int64} (ues : List Ptr) :
    (ues.foldl remove m).getByNGAPId id = some p ↔
      m.getByNGAPId id = some p ∧ ∀ ue ∈ ues, id ≠ (m.ues.get ue).amfUENGAPId := by
  induction ues generalizing m with
  | nil => simp
  | cons ue ues ih =>
    rw [List.foldl_cons, ih, getByNGAPId_remove, ues_remove, List.forall_mem_cons]
    tauto

/-- An entry that leads to another context stays. -/
theorem getBySUPI_foldl_remove (ues : List Ptr) : (ues.foldl remove m).getBySUPI s = some p ↔
    m.getBySUPI s = some p ∧ ¬(p ∈ ues ∧ (m.ues.get p).supi = s ∧ s ≠ "") := by
  induction ues generalizing m with
  | nil => simp
  | cons ue ues ih =>
    rw [List.foldl_cons, ih, getBySUPI_remove, ues_remove]
    grind [ownsSUPI]

end Operations

/-! ## The index invariant -/

/-- Every key of the indexes by SUPI and by 5G-TMSI finds a context that has not
been removed and whose identity is that key. -/
structure IndexOk (m : Manager) : Prop where
  supi : ∀ s ue, m.getBySUPI s = some ue → m.Live ue ∧ (m.ues.get ue).supi = s
  tmsi : ∀ t ue, m.getByTMSI t = some ue →
    m.Live ue ∧ ∃ g, (m.ues.get ue).guti = some g ∧ g.tmsi = t

/-- `IndexOk` with what carries it through a run: NGAP IDs are handed out in
increasing order and never twice. -/
structure IndexInv (m : Manager) : Prop where
  ok : IndexOk m
  ngap : ∀ id ue, m.getByNGAPId id = some ue → ue < m.ues.next ∧ (m.ues.get ue).amfUENGAPId = id
  issued : ∀ ue, ue < m.ues.next → (m.ues.get ue).amfUENGAPId ≤ m.ngapIDCounter
  inj : ∀ p q, p < m.ues.next → q < m.ues.next →
    (m.ues.get p).amfUENGAPId = (m.ues.get q).amfUENGAPId → p = q

/-- The condition under which a call keeps the indexes in order.

* the counter of NGAP IDs does not overflow;
* a SUPI goes to a context that has not been removed and that no other SUPI leads to;
* a GUTI goes to a context that has not been removed and that no 5G-TMSI leads to yet;
* a context that is removed is not in the index under the empty SUPI. -/
def Op.KeepsIndex (m : Manager) : Op → Prop
  | .allocateUEContext _ => m.ngapIDCounter < maxValue
  | .setSUPI ue supi => m.Live ue ∧ ∀ s, m.getBySUPI s = some ue → s = supi
  | .assignGUTI ue _ => m.Live ue ∧ ∀ t, m.getByTMSI t ≠ some ue
  | .remove ue => m.getBySUPI "" ≠ some ue

def indexStep : System Manager Op := step.when fun m op => op.KeepsIndex m

theorem IndexInv.live_lt (hm : IndexInv m) (h : m.Live ue) : ue < m.ues.next := by
  obtain ⟨id, hid⟩ := h
  exact (hm.ngap id ue hid).1

theorem indexInv_newManager (id : AMFIdentity) (db cache : Bool) :
    IndexInv (newManager id db cache) where
  ok := ⟨nofun, nofun⟩
  ngap := nofun
  issued := nofun
  inj := nofun

theorem lt_add_one_of_lt_maxValue {c : Int64} (h : c < maxValue) : c < c + 1 := by
  have hmax : maxValue.toInt = 2 ^ 63 - 1 := rfl
  have hmin := c.minValue_le_toInt
  have hone : (1 : Int64).toInt = 1 := rfl
  rw [lt_iff_toInt_lt] at h ⊢
  rw [toInt_add, hone, Int.bmod_eq_of_le (by simp at hmin; omega) (by omega)]
  omega

section

variable (hm : IndexInv m)
include hm

theorem IndexInv.live_allocateUEContext (hc : m.ngapIDCounter < maxValue)
    (h : m.Live ue) : (m.allocateUEContext ranID).2.Live ue := by
  obtain ⟨id, hid⟩ := h
  obtain ⟨hlt, heq⟩ := hm.ngap id ue hid
  have hle : id ≤ m.ngapIDCounter := heq ▸ hm.issued ue hlt
  have hnew := Int64.lt_of_le_of_lt hle (lt_add_one_of_lt_maxValue hc)
  refine ⟨id, m.getByNGAPId_allocateUEContext.mpr (Or.inr ⟨?_, hid⟩)⟩
  exact Int64.ne_of_lt hnew

theorem IndexInv.allocateUEContext (hc : m.ngapIDCounter < maxValue) :
    IndexInv (m.allocateUEContext ranID).2 := by
  have hnew := lt_add_one_of_lt_maxValue hc
  -- an old context is unchanged, so its ID is still below the new one
  have hold : ∀ ue, ue < m.ues.next →
      ((m.allocateUEContext ranID).2.ues.get ue).amfUENGAPId < m.ngapIDCounter + 1 := by
    intro ue hue
    rw [m.get_allocateUEContext_of_lt hue]
    exact Int64.lt_of_le_of_lt (hm.issued ue hue) hnew
  have hcases : ∀ ue, ue < m.ues.next + 1 → ue < m.ues.next ∨ ue = m.ues.next :=
    fun ue hue => Nat.lt_succ_iff_lt_or_eq.mp hue
  refine ⟨⟨?_, ?_⟩, ?_, ?_, ?_⟩
  · intro s ue hs
    obtain ⟨hlive, hsupi⟩ := hm.ok.supi s ue hs
    rw [m.get_allocateUEContext_of_lt (hm.live_lt hlive)]
    exact ⟨hm.live_allocateUEContext hc hlive, hsupi⟩
  · intro t ue ht
    obtain ⟨hlive, hguti⟩ := hm.ok.tmsi t ue ht
    rw [m.get_allocateUEContext_of_lt (hm.live_lt hlive)]
    exact ⟨hm.live_allocateUEContext hc hlive, hguti⟩
  · intro id ue hid
    rcases m.getByNGAPId_allocateUEContext.mp hid with ⟨rfl, rfl⟩ | ⟨_, hid⟩
    · simp
    · obtain ⟨hlt, heq⟩ := hm.ngap id ue hid
      rw [m.get_allocateUEContext_of_lt hlt]
      exact ⟨Nat.lt_succ_of_lt hlt, heq⟩
  · intro ue hue
    rcases hcases ue hue with h | rfl
    · exact Int64.le_of_lt (hold ue h)
    · rw [get_allocateUEContext_self]
      exact Int64.le_refl _
  · intro p q hp hq heq
    rcases hcases p hp with hp | rfl <;> rcases hcases q hq with hq | rfl
    · rw [m.get_allocateUEContext_of_lt hp, m.get_allocateUEContext_of_lt hq] at heq
      exact hm.inj p q hp hq heq
    · have hlt := hold p hp
      rw [heq, get_allocateUEContext_self] at hlt
      exact absurd hlt Int64.lt_irrefl
    · have hlt := hold q hq
      rw [← heq, get_allocateUEContext_self] at hlt
      exact absurd hlt Int64.lt_irrefl
    · rfl

theorem IndexInv.modify {f : UEContext → UEContext} {bySUPI : Map String Ptr}
    {byTMSI : Map UInt32 Ptr} {counter : UInt32} (hm' : m' = { m with
      ues := m.ues.modify ue f, uesBySUPI := bySUPI, uesByTMSI := byTMSI, tmsiCounter := counter })
    (hf : ∀ c, (f c).amfUENGAPId = c.amfUENGAPId) (ok : IndexOk m') : IndexInv m' := by
  have hid : ∀ p, (m'.ues.get p).amfUENGAPId = (m.ues.get p).amfUENGAPId := by
    rw [hm']
    exact get_modify_field UEContext.amfUENGAPId hf
  subst hm'
  refine ⟨ok, ?_, ?_, ?_⟩
  · intro id ue h
    rw [hid]
    exact hm.ngap id ue h
  · intro ue hue
    rw [hid]
    exact hm.issued ue hue
  · intro p q hp hq heq
    rw [hid, hid] at heq
    exact hm.inj p q hp hq heq

theorem IndexInv.setSUPI (hlive : m.Live ue)
    (hother : ∀ s, m.getBySUPI s = some ue → s = supi) : IndexInv (m.setSUPI ue supi).2 := by
  refine hm.modify (m.setSUPI_eq ue supi) (fun _ => rfl) ⟨?_, ?_⟩
  · intro s p hs
    rw [setSUPI_eq]
    rcases m.getBySUPI_setSUPI.mp hs with ⟨rfl, rfl⟩ | ⟨hne, hold⟩
    · exact ⟨hlive, by simp⟩
    · -- another key cannot lead to `ue`, so the context it leads to is unchanged
      have hp : p ≠ ue := by
        rintro rfl
        exact hne (hother s hold)
      rw [get_modify_of_ne hp]
      exact hm.ok.supi s p hold
  · intro t p ht
    rw [setSUPI_eq] at ht ⊢
    rw [get_modify_field UEContext.guti]
    · exact hm.ok.tmsi t p ht
    · exact fun _ => rfl

theorem IndexInv.assignGUTI (hlive : m.Live ue)
    (hother : ∀ t, m.getByTMSI t ≠ some ue) : IndexInv (m.assignGUTI ue answer).2 := by
  refine hm.modify (m.assignGUTI_eq ue answer) (fun _ => rfl) ⟨?_, ?_⟩
  · intro s p hs
    rw [assignGUTI_eq] at hs ⊢
    rw [get_modify_field UEContext.supi]
    · exact hm.ok.supi s p hs
    · exact fun _ => rfl
  · intro t p ht
    have ht := m.getByTMSI_assignGUTI.mp ht
    rw [assignGUTI_eq]
    rcases ht with ⟨rfl, rfl⟩ | ⟨_, hold⟩
    · exact ⟨hlive, by simp⟩
    · have hp : p ≠ ue := by
        rintro rfl
        exact hother t hold
      rw [get_modify_of_ne hp]
      exact hm.ok.tmsi t p hold

theorem IndexInv.live_remove (hue : ue < m.ues.next) (hp : p ≠ ue)
    (h : m.Live p) : (m.remove ue).Live p := by
  obtain ⟨id, hid⟩ := h
  obtain ⟨hlt, heq⟩ := hm.ngap id p hid
  refine ⟨id, m.getByNGAPId_remove.mpr ⟨?_, hid⟩⟩
  rintro rfl
  exact hp (hm.inj p ue hlt hue heq)

theorem IndexInv.remove (hue : ue < m.ues.next)
    (hempty : m.getBySUPI "" ≠ some ue) : IndexInv (m.remove ue) := by
  refine ⟨⟨?_, ?_⟩, ?_, hm.issued, hm.inj⟩
  · intro s p hs
    obtain ⟨hkept, hold⟩ := m.getBySUPI_remove.mp hs
    obtain ⟨hlive, hsupi⟩ := hm.ok.supi s p hold
    have hp : p ≠ ue := by
      rintro rfl
      -- the entry of `ue` is under its SUPI, and `Remove` takes it out
      have howns : m.ownsSUPI p = true := by
        have hne : s ≠ "" := by
          rintro rfl
          exact hempty hold
        simp [ownsSUPI, hsupi, hold, hne]
      exact hkept ⟨hsupi.symm, howns⟩
    exact ⟨hm.live_remove hue hp hlive, hsupi⟩
  · intro t p ht
    obtain ⟨hkept, hold⟩ := m.getByTMSI_remove.mp ht
    obtain ⟨hlive, g, hg, htmsi⟩ := hm.ok.tmsi t p hold
    have hp : p ≠ ue := by
      rintro rfl
      exact hkept g hg htmsi.symm
    exact ⟨hm.live_remove hue hp hlive, g, hg, htmsi⟩
  · intro id p hid
    exact hm.ngap id p (m.getByNGAPId_remove.mp hid).2

theorem IndexInv.step {op : Op} (h : indexStep m op m') : IndexInv m' := by
  obtain ⟨hok, halloc, rfl⟩ := h
  cases op with
  | allocateUEContext ranID => exact hm.allocateUEContext hok
  | setSUPI ue supi => exact hm.setSUPI hok.1 hok.2
  | assignGUTI ue answer => exact hm.assignGUTI hok.1 hok.2
  | remove ue => exact hm.remove halloc hok

end

/-- In every run whose calls all meet their condition, every lookup by SUPI or by
5G-TMSI finds a live context with that identity. -/
theorem indexOk_of_run (id : AMFIdentity) (db cache : Bool) (ops : List Op) (m : Manager)
    (run : Run indexStep (newManager id db cache) ops m) : IndexOk m := by
  have hinv : IndexInv m :=
    run.invariant (indexInv_newManager id db cache) fun _ _ _ hm h => hm.step h
  exact hinv.ok

/-- A context that is allocated and given a SUPI and a GUTI is found by both. -/
theorem indexOk_of_first_registration :
    IndexOk ((((newManager ⟨"001", "01", 1, 1, 1⟩ false false).apply
      (.allocateUEContext 7)).apply (.setSUPI 0 "imsi-001010000000001")).apply
      (.assignGUTI 0 (.ok 0))) := by
  have h₁ : Run indexStep (newManager ⟨"001", "01", 1, 1, 1⟩ false false) _ _ :=
    Run.nil.snoc (Op.allocateUEContext 7)
      ⟨show (0 : Int64) < maxValue by decide, trivial, rfl⟩
  have h₂ := h₁.snoc (.setSUPI 0 "imsi-001010000000001")
    ⟨⟨⟨1, rfl⟩, nofun⟩, Nat.one_pos, rfl⟩
  have h₃ := h₂.snoc (.assignGUTI 0 (.ok 0)) ⟨⟨⟨1, rfl⟩, nofun⟩, Nat.one_pos, rfl⟩
  exact indexOk_of_run ⟨"001", "01", 1, 1, 1⟩ false false _ _ h₃

/-- A second GUTI for the same context, as a registration update assigns it, leaves
the first 5G-TMSI in the index. -/
theorem reassigned_guti_leaves_old_tmsi :
    ∃ ops m, Run step (newManager ⟨"001", "01", 1, 1, 1⟩ false false) ops m ∧ ¬IndexOk m := by
  have h₁ : Run step (newManager ⟨"001", "01", 1, 1, 1⟩ false false) _ _ :=
    Run.nil.snoc (Op.allocateUEContext 7) ⟨trivial, rfl⟩
  have h₂ := h₁.snoc (.assignGUTI 0 (.ok 0)) ⟨Nat.one_pos, rfl⟩
  have h₃ := h₂.snoc (.assignGUTI 0 (.ok 0)) ⟨Nat.one_pos, rfl⟩
  refine ⟨_, _, h₃, ?_⟩
  intro hok
  obtain ⟨_, g, hg, htmsi⟩ := hok.tmsi 1 0 rfl
  cases hg
  exact absurd htmsi (by decide)

/-! ## The 5G-TMSIs -/

structure History where
  mgr : Manager
  last : Option UInt32

/-- The value a call takes from the external counter. -/
def Op.drawn (m : Manager) : Op → Option UInt32
  | .assignGUTI _ (.ok v) => if m.cache then some v else none
  | _ => none

/-- One call, where the external counter fails or answers with a value above all
its earlier answers. -/
def tmsiStep : System History Op := fun h op h' =>
  step h.mgr op h'.mgr ∧ match op.drawn h.mgr with
    | some v => (∀ l, h.last = some l → l < v) ∧ h'.last = some v
    | none => h'.last = h.last

/-- The condition under which the two counters stay apart.

* a value taken from the external counter is above the counter of the process;
* the counter of the process is used only while it is not below the last external
  answer and can still be incremented. -/
def Op.DrawsApart (h : History) (op : Op) : Prop :=
  match op with
  | .assignGUTI _ _ =>
    match op.drawn h.mgr with
    | some v => h.mgr.tmsiCounter < v
    | none => (∀ l, h.last = some l → l ≤ h.mgr.tmsiCounter) ∧ h.mgr.tmsiCounter < 0xFFFFFFFF
  | _ => True

def apartStep : System History Op := tmsiStep.when fun h op => op.DrawsApart h

def History.Passed (h : History) (t : UInt32) : Prop :=
  t ≤ h.mgr.tmsiCounter ∨ ∃ l, h.last = some l ∧ t ≤ l

/-- Every 5G-TMSI in use has been passed, and no two contexts have the same one. -/
structure TmsiInv (h : History) : Prop where
  guti : ∀ ue g, (h.mgr.ues.get ue).guti = some g → h.Passed g.tmsi
  index : ∀ t ue, h.mgr.getByTMSI t = some ue → h.Passed t
  inj : ∀ p q g g', (h.mgr.ues.get p).guti = some g → (h.mgr.ues.get q).guti = some g' →
    g.tmsi = g'.tmsi → p = q

/-- A manager before its first UE, after the start-up of the AMF. -/
def Started (m : Manager) : Prop :=
  ∃ id db cache env, m = newManager id db cache ∨ m = ((newManager id db cache).loadFromStore env).2

theorem loadFromStore_eq (m : Manager) (env : StartAnswers) : (m.loadFromStore env).2 =
      { m with tmsiCounter := (m.loadFromStore env).2.tmsiCounter } := by
  unfold loadFromStore
  split
  · rfl
  · dsimp only
    split
    · rfl
    · split <;> split <;> rfl

theorem tmsiInv_of_started (h : Started m) : TmsiInv ⟨m, none⟩ := by
  obtain ⟨id, db, cache, env, h⟩ := h
  have hues : m.ues = ⟨fun _ => {}, 0⟩ := by
    rcases h with rfl | rfl
    · rfl
    · rw [loadFromStore_eq]
      rfl
  have hindex : m.uesByTMSI = ∅ := by
    rcases h with rfl | rfl
    · rfl
    · rw [loadFromStore_eq]
      rfl
  refine ⟨?_, ?_, ?_⟩
  · intro ue g hg
    rw [hues] at hg
    cases hg
  · intro t ue ht
    unfold getByTMSI at ht
    rw [hindex] at ht
    cases ht
  · intro p q g g' hg
    rw [hues] at hg
    cases hg

theorem nextTMSI_of_drawn {v : UInt32}
    (h : (Op.assignGUTI ue answer).drawn m = some v) : m.nextTMSI answer = (v, m) := by
  cases answer with
  | error e => cases h
  | ok w =>
    cases hc : m.cache with
    | false => simp [Op.drawn, hc] at h
    | true =>
      simp only [Op.drawn, hc, if_true, Option.some.injEq] at h
      simp [nextTMSI, hc, h]

theorem nextTMSI_of_not_drawn (h : (Op.assignGUTI ue answer).drawn m = none) :
    m.nextTMSI answer = (m.tmsiCounter + 1, { m with tmsiCounter := m.tmsiCounter + 1 }) := by
  cases hc : m.cache with
  | false => simp [nextTMSI, hc]
  | true =>
    cases answer with
    | error e => simp [nextTMSI, hc]
    | ok w => simp [Op.drawn, hc] at h

theorem uint32_lt_add_one {c : UInt32} (h : c < 0xFFFFFFFF) : c < c + 1 := by
  have hmax : (0xFFFFFFFF : UInt32).toNat = 2 ^ 32 - 1 := rfl
  have hone : (1 : UInt32).toNat = 1 := rfl
  rw [UInt32.lt_iff_toNat_lt] at h ⊢
  rw [UInt32.toNat_add, hone, Nat.mod_eq_of_lt (by omega)]
  omega

theorem passed_assignGUTI (hstep : apartStep h (.assignGUTI ue answer) h') :
    ¬h.Passed (h.mgr.nextTMSI answer).1 ∧ h'.Passed (h.mgr.nextTMSI answer).1 ∧
      ∀ t, h.Passed t → h'.Passed t := by
  obtain ⟨hapart, ⟨_, hmgr⟩, hlast⟩ := hstep
  have hcounter : h'.mgr.tmsiCounter = (h.mgr.nextTMSI answer).2.tmsiCounter := by
    rw [hmgr]
    rfl
  unfold History.Passed
  rw [hcounter]
  cases hdrawn : (Op.assignGUTI ue answer).drawn h.mgr with
  | some v =>
    simp only [Op.DrawsApart, hdrawn] at hapart hlast
    rw [nextTMSI_of_drawn hdrawn]
    refine ⟨?_, Or.inr ⟨v, hlast.2, UInt32.le_refl v⟩, ?_⟩
    · rintro (hle | ⟨l, hl, hle⟩)
      · exact UInt32.not_lt.mpr hle hapart
      · exact UInt32.not_lt.mpr hle (hlast.1 l hl)
    · rintro t (hle | ⟨l, hl, hle⟩)
      · exact Or.inl hle
      · exact Or.inr ⟨v, hlast.2, UInt32.le_of_lt (UInt32.lt_of_le_of_lt hle (hlast.1 l hl))⟩
  | none =>
    simp only [Op.DrawsApart, hdrawn] at hapart hlast
    have hnew := uint32_lt_add_one hapart.2
    rw [nextTMSI_of_not_drawn hdrawn]
    refine ⟨?_, Or.inl (UInt32.le_refl _), ?_⟩
    · rintro (hle | ⟨l, hl, hle⟩)
      · exact UInt32.not_lt.mpr hle hnew
      · exact UInt32.not_lt.mpr (UInt32.le_trans hle (hapart.1 l hl)) hnew
    · rintro t (hle | ⟨l, hl, hle⟩)
      · exact Or.inl (UInt32.le_trans hle (UInt32.le_of_lt hnew))
      · exact Or.inr ⟨l, by rw [hlast, hl], hle⟩

theorem TmsiInv.of_subset (hh : TmsiInv h) (hpassed : ∀ t, h.Passed t → h'.Passed t)
    (hguti : ∀ ue g, (h'.mgr.ues.get ue).guti = some g → (h.mgr.ues.get ue).guti = some g)
    (hindex : ∀ t ue, h'.mgr.getByTMSI t = some ue → h.mgr.getByTMSI t = some ue) : TmsiInv h' where
  guti := fun ue g hg => hpassed _ (hh.guti ue g (hguti ue g hg))
  index := fun t ue ht => hpassed _ (hh.index t ue (hindex t ue ht))
  inj := fun p q g g' hp hq => hh.inj p q g g' (hguti p g hp) (hguti q g' hq)

theorem TmsiInv.assignGUTI (hh : TmsiInv h)
    (hstep : apartStep h (.assignGUTI ue answer) h') : TmsiInv h' := by
  obtain ⟨hfresh, hnow, hpassed⟩ := passed_assignGUTI hstep
  have hmgr : h'.mgr = (h.mgr.assignGUTI ue answer).2 := hstep.2.1.2
  -- a context has the new 5G-TMSI exactly when it is `ue`
  have hcases : ∀ p g, (h'.mgr.ues.get p).guti = some g →
      (p = ue ∧ g.tmsi = (h.mgr.nextTMSI answer).1) ∨
        (p ≠ ue ∧ (h.mgr.ues.get p).guti = some g) := by
    intro p g hg
    rw [hmgr, assignGUTI_eq] at hg
    by_cases hp : p = ue
    · subst hp
      rw [get_modify_same] at hg
      cases hg
      exact Or.inl ⟨rfl, h.mgr.tmsi_assignGUTI p answer⟩
    · rw [get_modify_of_ne hp] at hg
      exact Or.inr ⟨hp, hg⟩
  refine ⟨?_, ?_, ?_⟩
  · intro p g hg
    rcases hcases p g hg with ⟨_, htmsi⟩ | ⟨_, hold⟩
    · exact htmsi ▸ hnow
    · exact hpassed _ (hh.guti p g hold)
  · intro t p ht
    rw [hmgr] at ht
    rcases h.mgr.getByTMSI_assignGUTI.mp ht with ⟨rfl, _⟩ | ⟨_, hold⟩
    · exact hnow
    · exact hpassed t (hh.index t p hold)
  · intro p q g g' hg hg' heq
    rcases hcases p g hg with ⟨rfl, hp⟩ | ⟨_, hp⟩ <;>
      rcases hcases q g' hg' with ⟨rfl, hq⟩ | ⟨_, hq⟩
    · rfl
    · exact absurd (hh.guti q g' hq) (by rw [← heq, hp]; exact hfresh)
    · exact absurd (hh.guti p g hp) (by rw [heq, hq]; exact hfresh)
    · exact hh.inj p q g g' hp hq heq

theorem passed_of_not_drawn {op : Op} (hdrawn : op.drawn h.mgr = none)
    (hcounter : (h.mgr.apply op).tmsiCounter = h.mgr.tmsiCounter) (hstep : apartStep h op h')
    (t : UInt32) (ht : h.Passed t) : h'.Passed t := by
  obtain ⟨_, ⟨_, hmgr⟩, hlast⟩ := hstep
  rw [hdrawn] at hlast
  unfold History.Passed
  rw [hmgr, hcounter, hlast]
  exact ht

theorem TmsiInv.step {op : Op} (hh : TmsiInv h) (hstep : apartStep h op h') : TmsiInv h' := by
  have hmgr : h'.mgr = h.mgr.apply op := hstep.2.1.2
  cases op with
  | assignGUTI ue answer => exact hh.assignGUTI hstep
  | allocateUEContext ranID =>
    apply hh.of_subset (passed_of_not_drawn rfl rfl hstep)
    · intro p g hg
      rw [hmgr] at hg
      by_cases hp : p = h.mgr.ues.next
      · subst hp
        rw [apply, get_allocateUEContext_self] at hg
        cases hg
      · have hsame : (h.mgr.allocateUEContext ranID).2.ues.get p = h.mgr.ues.get p := by
          show (h.mgr.ues.new _).2.get p = _
          rw [get_new, if_neg hp]
        rwa [apply, hsame] at hg
    · intro t p ht
      rwa [hmgr, apply, getByTMSI_allocateUEContext] at ht
  | setSUPI ue supi =>
    have hcounter : (h.mgr.apply (.setSUPI ue supi)).tmsiCounter = h.mgr.tmsiCounter :=
      by rw [apply, setSUPI_eq]
    apply hh.of_subset (passed_of_not_drawn rfl hcounter hstep)
    · intro p g hg
      rw [hmgr, apply, setSUPI_eq, get_modify_field UEContext.guti] at hg
      · exact hg
      · exact fun _ => rfl
    · intro t p ht
      rwa [hmgr, apply, setSUPI_eq] at ht
  | remove ue =>
    apply hh.of_subset (passed_of_not_drawn rfl rfl hstep)
    · intro p g hg
      rwa [hmgr, apply, ues_remove] at hg
    · intro t p ht
      rw [hmgr] at ht
      exact (h.mgr.getByTMSI_remove.mp ht).2

/-- In every run whose calls all meet their condition, no two live contexts have the
same 5G-TMSI, and the next one to be assigned does not lead to another live context. -/
theorem tmsi_unique_of_run (m : Manager) (start : Started m) (ops : List Op) (h : History)
    (run : Run apartStep ⟨m, none⟩ ops h) :
    (∀ p q g g', h.mgr.Live p → h.mgr.Live q → (h.mgr.ues.get p).guti = some g →
      (h.mgr.ues.get q).guti = some g' → g.tmsi = g'.tmsi → p = q) ∧
    ∀ ue answer h', apartStep h (.assignGUTI ue answer) h' →
      ∀ q, h.mgr.Live q → h.mgr.getByTMSI (h.mgr.assignGUTI ue answer).1.tmsi = some q →
        q = ue := by
  have hinv : TmsiInv h :=
    run.invariant (tmsiInv_of_started start) fun _ _ _ hh hstep => hh.step hstep
  refine ⟨?_, ?_⟩
  · intro p q g g' _ _ hg hg' heq
    exact hinv.inj p q g g' hg hg' heq
  · intro ue answer h' hstep q _ hq
    have hfresh := (passed_assignGUTI hstep).1
    exact absurd (hinv.index _ q hq) hfresh

/-- With answers of the external counter alone, two contexts get two 5G-TMSIs. -/
theorem tmsi_unique_of_external_answers :
    ∃ h : History, (h.mgr.ues.get 0).guti ≠ none ∧ (h.mgr.ues.get 1).guti ≠ none ∧
      ∀ p q g g', h.mgr.Live p → h.mgr.Live q → (h.mgr.ues.get p).guti = some g →
        (h.mgr.ues.get q).guti = some g' → g.tmsi = g'.tmsi → p = q := by
  have h₁ : Run apartStep ⟨newManager ⟨"001", "01", 1, 1, 1⟩ false true, none⟩ _
      ⟨_, none⟩ :=
    Run.nil.snoc (Op.allocateUEContext 7) ⟨trivial, ⟨trivial, rfl⟩, rfl⟩
  have h₂ : Run apartStep _ _ ⟨_, none⟩ :=
    h₁.snoc (Op.allocateUEContext 8) ⟨trivial, ⟨trivial, rfl⟩, rfl⟩
  have h₃ : Run apartStep _ _ ⟨_, some 1⟩ :=
    h₂.snoc (Op.assignGUTI 0 (.ok 1))
      ⟨show (0 : UInt32) < 1 by decide, ⟨show 0 < 2 by decide, rfl⟩, nofun, rfl⟩
  have h₄ : Run apartStep _ _ ⟨_, some 2⟩ :=
    h₃.snoc (Op.assignGUTI 1 (.ok 2))
      ⟨show (0 : UInt32) < 2 by decide, ⟨show 1 < 2 by decide, rfl⟩,
        fun l hl => by cases hl; decide, rfl⟩
  have hstart : Started (newManager ⟨"001", "01", 1, 1, 1⟩ false true) :=
    ⟨_, _, _, ⟨.ok 0, .ok 0⟩, Or.inl rfl⟩
  refine ⟨_, ?_, ?_, (tmsi_unique_of_run _ hstart _ _ h₄).1⟩
  all_goals decide

/-- When the external counter fails after its first answer, the counter of the process
gives the same value to the next context. -/
theorem tmsi_shared_after_fallback :
    ∃ ops h, Run tmsiStep ⟨newManager ⟨"001", "01", 1, 1, 1⟩ false true, none⟩ ops h ∧
      ∃ p q g g', h.mgr.Live p ∧ h.mgr.Live q ∧ (h.mgr.ues.get p).guti = some g ∧
        (h.mgr.ues.get q).guti = some g' ∧ g.tmsi = g'.tmsi ∧ p ≠ q := by
  have h₁ : Run tmsiStep ⟨newManager ⟨"001", "01", 1, 1, 1⟩ false true, none⟩ _
      ⟨_, none⟩ :=
    Run.nil.snoc (Op.allocateUEContext 7) ⟨⟨trivial, rfl⟩, rfl⟩
  have h₂ : Run tmsiStep _ _ ⟨_, none⟩ :=
    h₁.snoc (Op.allocateUEContext 8) ⟨⟨trivial, rfl⟩, rfl⟩
  have h₃ : Run tmsiStep _ _ ⟨_, some 1⟩ :=
    h₂.snoc (Op.assignGUTI 0 (.ok 1)) ⟨⟨show 0 < 2 by decide, rfl⟩, nofun, rfl⟩
  have h₄ : Run tmsiStep _ _ ⟨_, some 1⟩ :=
    h₃.snoc (Op.assignGUTI 1 (.error (.new "redis: connection refused")))
      ⟨⟨show 1 < 2 by decide, rfl⟩, rfl⟩
  refine ⟨_, _, h₄, 0, 1, _, _, ⟨1, ?_⟩, ⟨2, ?_⟩, rfl, rfl, ?_, ?_⟩
  all_goals decide

end Manager

end Claudia5gc.Amf
