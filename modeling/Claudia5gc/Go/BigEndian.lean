import Claudia5gc.Go.Outcome
import Mathlib.Data.Nat.Bitwise

/-!
# `encoding/binary` in big-endian order

The accessors read and write a number at an offset of a slice, `binary.BigEndian.Uint16(b[i:])`
and so on.  They panic when the slice ends before the number does.
-/

namespace Claudia5gc.Go

open List Outcome Nat UInt16

variable (pre : Bytes) (v : UInt16) {a b : Bytes} {i : Nat}

/-! ## Octets and words -/

def octet (b : Bytes) (i : Nat) : Nat := (b.getD i 0).toNat

/-- The two octets at `i` as a number. -/
def word (b : Bytes) (i : Nat) : Nat := octet b i * 256 + octet b (i + 1)

theorem octet_lt (b : Bytes) (i : Nat) : octet b i < 256 := UInt8.toNat_lt _

theorem word_lt (b : Bytes) (i : Nat) : word b i < 65536 := by
  have hhi := octet_lt b i
  have hlo := octet_lt b (i + 1)
  unfold word
  omega

theorem octet_append_left (h : i < a.length) (b : Bytes) : octet (a ++ b) i = octet a i := by
  rw [octet, octet, getD_append _ _ _ _ h]

theorem octet_append_right (h : a.length ≤ i) (b : Bytes) :
    octet (a ++ b) i = octet b (i - a.length) := by
  rw [octet, octet, getD_append_right _ _ _ _ h]

theorem word_append_left (h : i + 1 < a.length) (b : Bytes) : word (a ++ b) i = word a i := by
  rw [word, word, octet_append_left (by omega), octet_append_left h]

theorem index_eq_octet (h : i < b.length) : index b i = .ok (UInt8.ofNat (octet b i)) := by
  rw [index_of_lt h, octet, getD_eq_getElem _ _ h, UInt8.ofNat_toNat]

theorem octet_take {n : Nat} (h : i < n) : octet (b.take n) i = octet b i := by
  rw [octet, octet, getD_eq_getElem?_getD, getD_eq_getElem?_getD, getElem?_take_of_lt h]

theorem octet_drop (b : Bytes) (n i : Nat) : octet (b.drop n) i = octet b (n + i) := by
  rw [octet, octet, getD_eq_getElem?_getD, getD_eq_getElem?_getD, getElem?_drop]

theorem word_take {n : Nat} (h : i + 1 < n) : word (b.take n) i = word b i := by
  rw [word, word, octet_take (by omega), octet_take h]

theorem word_drop (b : Bytes) (n i : Nat) : word (b.drop n) i = word b (n + i) := by
  rw [word, word, octet_drop, octet_drop, add_assoc]

/-! ## Reading -/

def uint16 (b : Bytes) (i : Nat) : Outcome UInt16 := do
  let hi ← index b i
  let lo ← index b (i + 1)
  return hi.toUInt16 <<< 8 ||| lo.toUInt16

def uint32 (b : Bytes) (i : Nat) : Outcome UInt32 := do
  let hi ← uint16 b i
  let lo ← uint16 b (i + 2)
  return hi.toUInt32 <<< 16 ||| lo.toUInt32

def uint64 (b : Bytes) (i : Nat) : Outcome UInt64 := do
  let hi ← uint32 b i
  let lo ← uint32 b (i + 4)
  return hi.toUInt64 <<< 32 ||| lo.toUInt64

theorem uint16_of_lt (h : i + 1 < b.length) : uint16 b i = .ok (ofNat (word b i)) := by
  have hhi := octet_lt b i
  have hlo := octet_lt b (i + 1)
  rw [uint16, index_eq_octet (by omega), index_eq_octet h, ok_bind, ok_bind, pure_eq]
  congr 1
  apply UInt16.toNat_inj.1
  rw [UInt16.toNat_or, UInt16.toNat_shiftLeft, UInt8.toNat_toUInt16, UInt8.toNat_toUInt16,
    UInt8.toNat_ofNat_of_lt' hhi, UInt8.toNat_ofNat_of_lt' hlo,
    toNat_ofNat_of_lt' (word_lt b i)]
  show octet b i <<< 8 % 65536 ||| octet b (i + 1) = word b i
  rw [shiftLeft_eq, mod_eq_of_lt (by omega), ← shiftLeft_eq,
    ← shiftLeft_add_eq_or_of_lt (by omega), shiftLeft_eq]
  rfl

theorem uint32_of_lt (h : i + 3 < b.length) :
    uint32 b i = .ok (UInt32.ofNat (word b i * 65536 + word b (i + 2))) := by
  have hhi := word_lt b i
  have hlo := word_lt b (i + 2)
  rw [uint32, uint16_of_lt (by omega), uint16_of_lt (by omega), ok_bind, ok_bind, pure_eq]
  congr 1
  apply UInt32.toNat_inj.1
  rw [UInt32.toNat_or, UInt32.toNat_shiftLeft, toNat_toUInt32, toNat_toUInt32,
    toNat_ofNat_of_lt' hhi, toNat_ofNat_of_lt' hlo,
    UInt32.toNat_ofNat_of_lt' (show _ < 4294967296 by omega)]
  show word b i <<< 16 % 4294967296 ||| word b (i + 2) = _
  rw [shiftLeft_eq, mod_eq_of_lt (by omega), ← shiftLeft_eq,
    ← shiftLeft_add_eq_or_of_lt (by omega), shiftLeft_eq]

theorem uint64_of_lt (h : i + 7 < b.length) :
    uint64 b i = .ok (UInt64.ofNat ((word b i * 65536 + word b (i + 2)) * 4294967296 +
      (word b (i + 4) * 65536 + word b (i + 6)))) := by
  have h0 := word_lt b i
  have h2 := word_lt b (i + 2)
  have h4 := word_lt b (i + 4)
  have h6 := word_lt b (i + 6)
  have h6' : word b (i + 4 + 2) < 65536 := h6
  rw [uint64, uint32_of_lt (by omega), uint32_of_lt (by omega), ok_bind, ok_bind, pure_eq]
  congr 1
  apply UInt64.toNat_inj.1
  rw [UInt64.toNat_or, UInt64.toNat_shiftLeft, UInt32.toNat_toUInt64, UInt32.toNat_toUInt64,
    UInt32.toNat_ofNat_of_lt' (show _ < 4294967296 by omega),
    UInt32.toNat_ofNat_of_lt' (show _ < 4294967296 by omega),
    UInt64.toNat_ofNat_of_lt' (show _ < 18446744073709551616 by omega)]
  show (word b i * 65536 + word b (i + 2)) <<< 32 % 18446744073709551616 |||
    (word b (i + 4) * 65536 + word b (i + 4 + 2)) = _
  rw [shiftLeft_eq, mod_eq_of_lt (by omega), ← shiftLeft_eq,
    ← shiftLeft_add_eq_or_of_lt (by omega), shiftLeft_eq]

/-! ## Writing -/

def be16 (v : UInt16) : Bytes := [(v >>> 8).toUInt8, v.toUInt8]

def be32 (v : UInt32) : Bytes := be16 (v >>> 16).toUInt16 ++ be16 v.toUInt16

def put (b : Bytes) (i : Nat) (data : Bytes) : Outcome Bytes :=
  if i + data.length ≤ b.length then .ok (b.take i ++ data ++ b.drop (i + data.length))
  else .panic

def putUint16 (b : Bytes) (i : Nat) (v : UInt16) : Outcome Bytes := put b i (be16 v)

def putUint32 (b : Bytes) (i : Nat) (v : UInt32) : Outcome Bytes := put b i (be32 v)

theorem octet_be16 : octet (be16 v) 0 = v.toNat / 256 ∧ octet (be16 v) 1 = v.toNat % 256 := by
  have hlt := v.toNat_lt
  refine ⟨?_, ?_⟩
  · show (v >>> 8).toUInt8.toNat = _
    show v.toNat >>> 8 % 256 = _
    omega
  · show v.toUInt8.toNat = _
    rw [toNat_toUInt8]

theorem word_be16 : word (be16 v) 0 = v.toNat := by
  obtain ⟨hhi, hlo⟩ := octet_be16 v
  rw [word, hhi, hlo]
  omega

@[simp] theorem length_be16 : (be16 v).length = 2 := rfl

@[simp] theorem length_be32 (v : UInt32) : (be32 v).length = 4 := rfl

theorem word_append_be16 (pre : Bytes) (v : UInt16) (post : Bytes) :
    word (pre ++ be16 v ++ post) pre.length = v.toNat := by
  rw [word, append_assoc, octet_append_right (le_refl _),
    octet_append_right (Nat.le_add_right _ 1), Nat.sub_self, Nat.add_sub_cancel_left,
    octet_append_left (by simp), octet_append_left (by simp)]
  exact word_be16 v

theorem uint16_append_be16 (pre : Bytes) (v : UInt16) (post : Bytes) :
    uint16 (pre ++ be16 v ++ post) pre.length = .ok v := by
  rw [uint16_of_lt (by simp; omega), word_append_be16, UInt16.ofNat_toNat]

theorem uint32_append_be32 (v : UInt32) (post : Bytes) :
    uint32 (pre ++ be32 v ++ post) pre.length = .ok v := by
  have hlt := v.toNat_lt
  have hhi : uint16 (pre ++ be32 v ++ post) pre.length = .ok (v >>> 16).toUInt16 := by
    have h := uint16_append_be16 pre (v >>> 16).toUInt16 (be16 v.toUInt16 ++ post)
    rwa [append_assoc pre, ← append_assoc (be16 _), ← append_assoc pre] at h
  have hlo : uint16 (pre ++ be32 v ++ post) (pre.length + 2) = .ok v.toUInt16 := by
    have h := uint16_append_be16 (pre ++ be16 (v >>> 16).toUInt16) v.toUInt16 post
    rwa [append_assoc pre (be16 _) (be16 _), length_append, length_be16] at h
  rw [uint32, hhi, hlo, ok_bind, ok_bind, pure_eq]
  congr 1
  apply UInt32.toNat_inj.1
  show (v.toNat >>> 16 % 65536) <<< 16 % 4294967296 ||| v.toNat % 65536 = v.toNat
  rw [shiftRight_eq_div_pow, shiftLeft_eq, mod_eq_of_lt (by omega),
    ← shiftLeft_eq, ← shiftLeft_add_eq_or_of_lt (by omega), shiftLeft_eq]
  omega

theorem eq_append_be16 (h : i + 1 < b.length) :
    b = b.take i ++ be16 (ofNat (word b i)) ++ b.drop (i + 2) := by
  have hword := word_lt b i
  have hlo := octet_lt b (i + 1)
  have hbe : be16 (ofNat (word b i)) = [b.getD i 0, b.getD (i + 1) 0] := by
    obtain ⟨h0, h1⟩ := octet_be16 (ofNat (word b i))
    rw [toNat_ofNat_of_lt' hword] at h0 h1
    have hfirst : ((ofNat (word b i)) >>> 8).toUInt8 = b.getD i 0 := by
      apply UInt8.toNat_inj.1
      refine h0.trans ?_
      show word b i / 256 = octet b i
      unfold word
      omega
    have hsecond : (ofNat (word b i)).toUInt8 = b.getD (i + 1) 0 := by
      apply UInt8.toNat_inj.1
      refine h1.trans ?_
      show word b i % 256 = octet b (i + 1)
      unfold word
      omega
    rw [be16, hfirst, hsecond]
  have hdrop : b.drop i = b.getD i 0 :: b.getD (i + 1) 0 :: b.drop (i + 2) := by
    rw [drop_eq_getElem_cons (by omega), drop_eq_getElem_cons h,
      getD_eq_getElem _ _ (by omega), getD_eq_getElem _ _ h]
  rw [hbe, append_assoc]
  conv_lhs => rw [← take_append_drop i b, hdrop]
  rfl

end Claudia5gc.Go
