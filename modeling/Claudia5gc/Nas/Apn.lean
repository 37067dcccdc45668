import Claudia5gc.Nas.Transport

/-!
# DNNs as labels

A DNN goes over the radio as a list of labels, each behind its length.  `decodeAPN` also takes a DNN
that was sent as plain text, and tells the two apart by the first octet: from 0x20 on it is text.
-/

namespace Claudia5gc.Nas

open Go List UInt8 Proc

def splitLabels (dnn : Bytes) : List Bytes := dnn.splitOn 0x2E

/-- `encodeAPN`: the labels between the dots, each behind its length. -/
def encodeAPN (dnn : Bytes) : Bytes :=
  (splitLabels dnn).flatMap fun label => ofNat label.length :: label

theorem length_labels {labels : List Bytes} (h : labels ≠ []) :
    (labels.flatMap fun label => ofNat label.length :: label).length =
      (joinLabels labels).length + 1 := by
  induction labels with
  | nil => exact absurd rfl h
  | cons label labels ih =>
    cases labels with
    | nil => simp [joinLabels, intercalate]
    | cons label' labels =>
      have htail := ih (cons_ne_nil _ _)
      rw [flatMap_cons, length_append, htail]
      simp only [joinLabels, intercalate, intersperse_cons_cons, flatten_cons,
        length_cons, length_append, length_nil]
      omega

theorem joinLabels_splitLabels (dnn : Bytes) : joinLabels (splitLabels dnn) = dnn :=
  intercalate_splitOn _

theorem length_encodeAPN (dnn : Bytes) : (encodeAPN dnn).length = dnn.length + 1 := by
  have hne : splitLabels dnn ≠ [] := splitOn_ne_nil _ _
  rw [encodeAPN, length_labels hne, joinLabels_splitLabels]

/-! ## The labels in some octets -/

/-- The labels that follow each other, up to an empty one or one that does not fit. -/
def labelsIn : Bytes → List Bytes
  | [] => []
  | l :: r =>
    if l.toNat = 0 ∨ r.length < l.toNat then []
    else r.take l.toNat :: labelsIn (r.drop l.toNat)
termination_by b => b.length
decreasing_by
  simp only [length_drop, length_cons]
  omega

theorem run_apnLabel {b : Bytes} {i : Nat} {l : UInt8} {r : Bytes} (hdrop : b.drop i = l :: r)
    (labels : List Bytes) : (apnLabel b labels).run i =
      if l.toNat = 0 ∨ r.length < l.toNat then (.ok (.done labels), i + 1)
      else (.ok (.next (labels ++ [r.take l.toNat])), i + 1 + l.toNat) := by
  have hlen : b.length = i + (r.length + 1) := by
    have := congrArg length hdrop
    rw [length_drop, length_cons] at this
    omega
  have hindex : index b i = .ok l := by
    have hget : b[i]? = some l := by
      have := congrArg (·[0]?) hdrop
      simpa using this
    rw [index, hget]
  have hnext : b.drop (i + 1) = r := by
    rw [← drop_drop, hdrop, drop_one, tail_cons]
  simp only [apnLabel, run_bind, run_get, run_lift, run_modify, hindex]
  by_cases h : l.toNat = 0 ∨ r.length < l.toNat
  · rw [if_pos h, if_pos (by omega)]
    rfl
  · rw [if_neg h, if_neg (by omega), run_bind, slice_of_le (by omega) (by omega), hnext,
      Nat.add_sub_cancel_left]
    rfl

-- Induction on the bound of the loop; the labels read so far are in front of the rest.
theorem run_apnLoop (b : Bytes) : ∀ (fuel i : Nat) (labels : List Bytes), b.length - i ≤ fuel →
    ((loop (fun i => decide (i < b.length)) (apnLabel b) fuel labels).run i).1 =
      .ok (labels ++ labelsIn (b.drop i)) := by
  intro fuel
  induction fuel with
  | zero =>
    intro i labels hi
    rw [run_loop_exit (by simp; omega), drop_of_length_le (by omega), labelsIn, append_nil]
  | succ fuel ih =>
    intro i labels hi
    rcases Nat.lt_or_ge i b.length with hlt | hge
    · rcases hdrop : b.drop i with _ | ⟨l, r⟩
      · rw [drop_eq_nil_iff] at hdrop
        omega
      · have hafter : b.drop (i + 1 + l.toNat) = r.drop l.toNat := by
          rw [← drop_drop, ← drop_drop, hdrop, drop_one, tail_cons]
        rw [run_loop_step (by simpa using hlt), run_apnLabel hdrop, labelsIn]
        by_cases hend : l.toNat = 0 ∨ r.length < l.toNat
        · simp only [if_pos hend, append_nil]
        · simp only [if_neg hend]
          rw [ih _ _ (by omega), hafter, append_assoc, singleton_append]
    · rw [run_loop_exit (by simpa using hge), drop_of_length_le hge, labelsIn, append_nil]

theorem decodeAPN_cons (l : UInt8) (r : Bytes) :
    decodeAPN (l :: r) = .ok (if 0x20 ≤ l ∨ labelsIn (l :: r) = [] then l :: r
      else joinLabels (labelsIn (l :: r))) := by
  have hloop := run_apnLoop (l :: r) (l :: r).length 0 [] (by omega)
  rw [nil_append, drop_zero] at hloop
  rw [decodeAPN, if_neg (by simp), index_cons_zero, Outcome.ok_bind]
  by_cases htext : 0x20 ≤ l
  · rw [if_pos htext, if_pos (.inl htext)]
    rfl
  · rw [if_neg htext, hloop, Outcome.ok_bind]
    by_cases hnil : labelsIn (l :: r) = []
    · rw [if_pos (by rw [hnil]; rfl), if_pos (.inr hnil)]
      rfl
    · rw [if_neg (by rwa [length_eq_zero_iff]), if_neg (by simp [htext, hnil])]
      rfl

/-! ## The round trip -/

theorem labelsIn_encode {labels : List Bytes}
    (h : ∀ label ∈ labels, 1 ≤ label.length ∧ label.length ≤ 255) :
    labelsIn (labels.flatMap fun label => ofNat label.length :: label) = labels := by
  induction labels with
  | nil => rw [flatMap_nil, labelsIn]
  | cons label labels ih =>
    obtain ⟨hpos, hmax⟩ := h label mem_cons_self
    have hlen : (ofNat label.length).toNat = label.length := by
      rw [toNat_ofNat', Nat.mod_eq_of_lt (by omega)]
    rw [flatMap_cons, cons_append, labelsIn, hlen, if_neg (by rw [length_append]; omega),
      take_left, drop_left, ih fun l hl => h l (mem_cons_of_mem _ hl)]

/-- A DNN is read back exactly when its first label has less than 32 octets. -/
theorem decodeAPN_encodeAPN_iff {dnn : Bytes}
    (h : ∀ label ∈ splitLabels dnn, 1 ≤ label.length ∧ label.length ≤ 63) :
    decodeAPN (encodeAPN dnn) = .ok dnn ↔ ∀ label ∈ (splitLabels dnn).head?, label.length < 32 := by
  have hencode : encodeAPN dnn =
      (splitLabels dnn).flatMap fun label => ofNat label.length :: label := rfl
  have hread : labelsIn (encodeAPN dnn) = splitLabels dnn :=
    labelsIn_encode fun label hlabel =>
      ⟨(h label hlabel).1, Nat.le_trans (h label hlabel).2 (by decide)⟩
  have hjoin : joinLabels (splitLabels dnn) = dnn := joinLabels_splitLabels dnn
  have hlonger := length_encodeAPN dnn
  rcases hlabels : splitLabels dnn with _ | ⟨label, labels⟩
  · exact absurd hlabels (splitOn_ne_nil _ _)
  rw [hlabels] at hencode hread hjoin
  rw [flatMap_cons, cons_append] at hencode
  have hfirst : label.length ≤ 63 := (h label (by simp [hlabels])).2
  have htext : 0x20 ≤ ofNat label.length ↔ 32 ≤ label.length := by
    rw [le_iff_toNat_le, toNat_ofNat', Nat.mod_eq_of_lt (by omega)]
    rfl
  rw [hencode] at hread hlonger ⊢
  rw [decodeAPN_cons, hread, Outcome.ok.injEq, hjoin]
  simp only [htext, cons_ne_nil, or_false, head?_cons, Option.mem_def, Option.some.injEq,
    forall_eq']
  constructor
  · intro heq
    by_contra hge
    rw [if_pos (by omega)] at heq
    rw [heq] at hlonger
    omega
  · intro hlt
    rw [if_neg (by omega)]

/-- The first label is "internet". -/
theorem decodeAPN_encodeAPN_internet :
    decodeAPN (encodeAPN [0x69, 0x6E, 0x74, 0x65, 0x72, 0x6E, 0x65, 0x74, 0x2E, 0x6D, 0x6E]) =
      .ok [0x69, 0x6E, 0x74, 0x65, 0x72, 0x6E, 0x65, 0x74, 0x2E, 0x6D, 0x6E] :=
  (decodeAPN_encodeAPN_iff (by decide)).mpr (by decide)

/-- A label of 32 octets comes back with its length in front of it. -/
theorem decodeAPN_encodeAPN_long :
    decodeAPN (encodeAPN (replicate 32 0x61)) = .ok (0x20 :: replicate 32 0x61) := by
  decide +kernel

end Claudia5gc.Nas
