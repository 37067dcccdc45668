import Claudia5gc.Nas.NetworkName

/-!
# The septets of short messages and warnings

The packer of the package `gsm7` does what the one for network names does, but takes the low seven
bits of any octet; the unpacker is told how many septets to read and finds zeros after the octets.
-/

namespace Claudia5gc.Gsm7

open Go List Outcome Nas

variable {packed : Bytes} {i : Nat}

/-- An assignment `packed[i] |= v`. -/
def orAt (packed : Bytes) (i : Nat) (v : UInt8) : Outcome Bytes :=
  if i < packed.length then .ok (packed.modify i (· ||| v)) else .panic

def packTurn (packed : Bytes) (i : Nat) (s : UInt8) : Outcome Bytes := do
  let s := s &&& 0x7F
  let bytePos := i * 7 / 8
  let bitOffset := i * 7 % 8
  let packed ← orAt packed bytePos (s <<< UInt8.ofNat bitOffset)
  if 1 < bitOffset ∧ bytePos + 1 < packed.length then
    orAt packed (bytePos + 1) (s >>> UInt8.ofNat (8 - bitOffset))
  else return packed

def packFrom : Nat → Bytes → Bytes → Outcome Bytes
  | _, packed, [] => .ok packed
  | i, packed, s :: septets => do packFrom (i + 1) (← packTurn packed i s) septets

def packSeptets (septets : Bytes) : Outcome Bytes :=
  packFrom 0 (replicate ((septets.length * 7 + 7) / 8) 0) septets

def unpackTurn (packed : Bytes) (i : Nat) : Outcome UInt8 := do
  let bytePos := i * 7 / 8
  let bitOffset := i * 7 % 8
  let v ← if bytePos < packed.length then do
      let lo ← index packed bytePos
      pure (lo >>> UInt8.ofNat bitOffset)
    else pure 0
  let v ← if 1 < bitOffset ∧ bytePos + 1 < packed.length then do
      let hi ← index packed (bytePos + 1)
      pure (v ||| hi <<< UInt8.ofNat (8 - bitOffset))
    else pure v
  return v &&& 0x7F

def unpackSeptets (packed : Bytes) : Nat → Outcome Bytes
  | 0 => .ok []
  | i + 1 => do
    let septets ← unpackSeptets packed i
    return septets ++ [← unpackTurn packed i]

def septetCountForOctets (octets : Nat) : Nat := octets * 8 / 7

-- The second octet of a septet that needs one is there.
theorem packTurn_eq_ok (h : i * 7 + 7 ≤ packed.length * 8) (s : UInt8) :
    packTurn packed i s = .ok (Nas.packTurn packed i (s &&& 0x7F)) := by
  simp only [packTurn, orAt, Nas.packTurn_eq]
  rw [if_pos (by omega), ok_bind, length_modify]
  by_cases hshift : 1 < i * 7 % 8
  · rw [if_pos (by omega), if_pos (by omega), if_pos hshift]
  · rw [if_neg (by omega), if_neg hshift]
    rfl

theorem packFrom_eq_ok (septets : Bytes) (h : (i + septets.length) * 7 ≤ packed.length * 8) :
    packFrom i packed septets = .ok (packGSM7From i packed (septets.map (· &&& 0x7F))) := by
  induction septets generalizing i packed with
  | nil => rfl
  | cons s septets ih =>
    rw [length_cons] at h
    rw [packFrom, packTurn_eq_ok (by omega), ok_bind]
    exact ih (by rw [length_packTurn]; omega)

theorem packSeptets_eq (septets : Bytes) :
    packSeptets septets = .ok (packGSM7 (septets.map (· &&& 0x7F))).1 := by
  rw [packSeptets, packFrom_eq_ok septets (by rw [length_replicate]; omega), packGSM7, length_map]

theorem unpackTurn_eq (packed : Bytes) (i : Nat) :
    unpackTurn packed i = .ok (septetAt packed i) := by
  simp only [unpackTurn, septetAt]
  by_cases hlo : i * 7 / 8 < packed.length
  · rw [if_pos hlo, index_of_lt hlo, getD_eq_getElem _ _ hlo]
    split_ifs with hhi
    · simp [index_of_lt hhi.2, hhi.2]
    · rfl
  · have hhi : ¬(1 < i * 7 % 8 ∧ i * 7 / 8 + 1 < packed.length) := by omega
    rw [if_neg hlo, pure_eq, ok_bind, if_neg hhi, if_neg hhi, getD_eq_default _ _ (by omega)]
    simp

theorem unpackSeptets_eq (packed : Bytes) (count : Nat) :
    unpackSeptets packed count = .ok ((range' 0 count).map (septetAt packed)) := by
  induction count with
  | zero => rfl
  | succ n ih =>
    rw [unpackSeptets, ih, ok_bind, unpackTurn_eq, ok_bind, range'_1_concat, map_append,
      Nat.zero_add]
    rfl

/-- The octets that are packed, of which there are as many as are needed, have the septets and
nothing after them.  A receiver that counts the septets by the octets finds one more if seven bits
are unused. -/
theorem septets_packed (s : Bytes) : ∃ packed, packSeptets s = .ok packed ∧
    unpackSeptets packed s.length = .ok (s.map (· &&& 0x7F)) ∧
    packed.length = (7 * s.length + 7) / 8 ∧ (∀ j ≥ 7 * s.length, bitAt 8 packed j = false) ∧
    (∀ octets count, ∃ septets, unpackSeptets octets count = .ok septets) ∧
    septetCountForOctets packed.length = if s.length % 8 = 7 then s.length + 1 else s.length := by
  have hs : ∀ x ∈ s.map (· &&& 0x7F), x.toNat < 128 := forall_mem_map.2 fun x _ => and_7F_lt x
  obtain ⟨hlen, hbits⟩ := packGSM7_bits hs
  rw [length_map] at hlen
  refine ⟨_, packSeptets_eq s, ?_, by omega, fun j hj => ?_, fun octets count => ?_, ?_⟩
  · rw [unpackSeptets_eq, ← length_map, map_septetAt_packGSM7 hs]
  · rw [hbits, bitAt_of_length_le (by rw [length_map]; omega)]
  · exact ⟨_, unpackSeptets_eq octets count⟩
  · have hoctets : (s.length * 7 + 7) / 8 = s.length - s.length / 8 := by omega
    rw [hlen, hoctets, septetCountForOctets]
    split <;> omega

end Claudia5gc.Gsm7
