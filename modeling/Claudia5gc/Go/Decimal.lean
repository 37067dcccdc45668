import Claudia5gc.Go.Base64

/-!
# Strings of decimal digits

`digitString` is the string that `'0' + d` makes of digits.  Its octets are the codes of the
digits, and every string of decimal digits is one.
-/

namespace Claudia5gc.Go

open List UInt8

variable {d : UInt8} {s : String} {ds : List UInt8}

/-! ## The octets of a string -/

theorem stringBytes_eq (s : String) : stringBytes s = s.toList.flatMap String.utf8EncodeChar := by
  conv => lhs; rw [← String.ofList_toList (s := s)]
  rw [stringBytes, String.toUTF8_eq_toByteArray, String.toByteArray_ofList, utf8Encode,
    data_toByteArray]

theorem stringBytes_of_ascii (h : ∀ c ∈ s.toList, c.toNat < 128) :
    stringBytes s = s.toList.map fun c => ofNat c.toNat := by
  rw [stringBytes_eq]
  generalize s.toList = l at h
  induction l with
  | nil => rfl
  | cons c l ih =>
    have hsize : c.utf8Size = 1 := by
      rw [Char.utf8Size_eq_one_iff, UInt32.le_iff_toNat_le]
      exact Nat.le_of_lt_succ (h c mem_cons_self)
    rw [flatMap_cons, String.utf8EncodeChar_eq_singleton hsize, map_cons,
      ih fun d hd => h d (mem_cons_of_mem _ hd)]
    rfl

/-! ## Digits -/

def digitChar (d : UInt8) : Char := Char.ofNat (0x30 + d.toNat)

def digitString (ds : List UInt8) : String := String.ofList (ds.map digitChar)

/-- Every octet is a digit. -/
def Decimal (ds : List UInt8) : Prop := ∀ d ∈ ds, d < 10

instance (ds : List UInt8) : Decidable (Decimal ds) :=
  decidableBAll (· < 10) ds

def IsDecimal (n : Nat) (s : String) : Prop :=
  s.toList.length = n ∧ ∀ c ∈ s.toList, c.isDigit = true

instance (n : Nat) (s : String) : Decidable (IsDecimal n s) :=
  have : Decidable (∀ c ∈ s.toList, c.isDigit = true) := decidableBAll _ s.toList
  inferInstanceAs (Decidable (_ ∧ _))

theorem toNat_lt_ten (h : d < 10) : d.toNat < 10 := lt_iff_toNat_lt.mp h

theorem toNat_digitChar (h : d < 10) : (digitChar d).toNat = 0x30 + d.toNat := by
  have hall : ∀ n < 10, (Char.ofNat (0x30 + n)).toNat = 0x30 + n := by decide
  exact hall d.toNat (toNat_lt_ten h)

theorem exists_digitChar {c : Char} (h : c.isDigit = true) :
    ∃ d : UInt8, d < 10 ∧ digitChar d = c := by
  rw [Char.isDigit, Bool.and_eq_true, decide_eq_true_eq, decide_eq_true_eq] at h
  have hlow : 48 ≤ c.toNat := UInt32.le_iff_toNat_le.mp h.1
  have hhigh : c.toNat ≤ 57 := UInt32.le_iff_toNat_le.mp h.2
  have hd : (ofNat (c.toNat - 48)).toNat = c.toNat - 48 := by
    rw [toNat_ofNat', Nat.mod_eq_of_lt (by omega)]
  refine ⟨ofNat (c.toNat - 48), ?_, ?_⟩
  · rw [lt_iff_toNat_lt, hd]
    show c.toNat - 48 < 10
    omega
  · rw [digitChar, hd, show 0x30 + (c.toNat - 48) = c.toNat by omega, Char.ofNat_toNat]

theorem isDigit_digitChar (h : d < 10) : (digitChar d).isDigit = true := by
  have hall : ∀ n < 10, (Char.ofNat (0x30 + n)).isDigit = true := by decide
  exact hall d.toNat (toNat_lt_ten h)

theorem isDecimal_digitString (h : Decimal ds) : IsDecimal ds.length (digitString ds) := by
  rw [IsDecimal, digitString, String.toList_ofList, length_map]
  refine ⟨rfl, fun c hc => ?_⟩
  obtain ⟨d, hd, rfl⟩ := mem_map.mp hc
  exact isDigit_digitChar (h d hd)

theorem IsDecimal.exists_digits {n : Nat} (h : IsDecimal n s) :
    ∃ ds, ds.length = n ∧ Decimal ds ∧ digitString ds = s := by
  obtain ⟨hlen, hdigits⟩ := h
  have hlist : ∀ l : List Char, (∀ c ∈ l, c.isDigit = true) →
      ∃ ds, Decimal ds ∧ ds.map digitChar = l := by
    intro l
    induction l with
    | nil => exact fun _ => ⟨[], nofun, rfl⟩
    | cons c l ih =>
      intro hl
      obtain ⟨d, hd, rfl⟩ := exists_digitChar (hl c mem_cons_self)
      obtain ⟨ds, hds, rfl⟩ := ih fun c' hc' => hl c' (mem_cons_of_mem _ hc')
      exact ⟨d :: ds, forall_mem_cons.mpr ⟨hd, hds⟩, rfl⟩
  obtain ⟨ds, hds, hmap⟩ := hlist s.toList hdigits
  refine ⟨ds, ?_, hds, ?_⟩
  · rw [← hlen, ← hmap, length_map]
  · rw [digitString, hmap, String.ofList_toList]

theorem stringBytes_digitString (h : Decimal ds) :
    stringBytes (digitString ds) = ds.map (0x30 + ·) := by
  have hascii : ∀ c ∈ (digitString ds).toList, c.toNat < 128 := by
    intro c hc
    rw [digitString, String.toList_ofList] at hc
    obtain ⟨d, hd, rfl⟩ := mem_map.mp hc
    have := toNat_lt_ten (h d hd)
    rw [toNat_digitChar (h d hd)]
    omega
  rw [stringBytes_of_ascii hascii, digitString, String.toList_ofList, map_map]
  refine map_congr_left fun d hd => ?_
  rw [Function.comp_apply, toNat_digitChar (h d hd), UInt8.ofNat_add, UInt8.ofNat_toNat]
  rfl

theorem toString_of_lt_ten {n : Nat} (h : n < 10) :
    toString n = String.singleton (Char.ofNat (0x30 + n)) := by
  have hall : ∀ n < 10, toString n = String.singleton (Char.ofNat (0x30 + n)) := by decide
  exact hall n h

end Claudia5gc.Go
