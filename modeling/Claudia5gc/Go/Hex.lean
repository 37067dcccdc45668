import Claudia5gc.Go.Outcome

/-!
# Hexadecimal text

`encoding/hex` and the hexadecimal verbs of `fmt`.  `hexDecode` returns what it
decoded before an error together with the error, as `hex.DecodeString` does;
callers that drop the error go on with the shorter value.
-/

namespace Claudia5gc.Go

def hexDigit (n : Nat) : Char := Nat.digitChar (n % 16)

/-- The digits of `n` in base sixteen, with zeros in front up to `width`. -/
def hexDigits (width n : Nat) : List Char :=
  let ds := Nat.toDigits 16 n
  List.replicate (width - ds.length) '0' ++ ds

def sprint02X (b : UInt8) : String :=
  String.ofList ((hexDigits 2 b.toNat).map Char.toUpper)

def sprint06x (n : UInt32) : String := String.ofList (hexDigits 6 n.toNat)

def hexEncode (b : Bytes) : String :=
  String.ofList (b.flatMap fun x => [hexDigit (x.toNat / 16), hexDigit x.toNat])

/-- The value of a hexadecimal digit in either case. -/
def fromHexChar (c : Char) : Option Nat :=
  if '0' ≤ c ∧ c ≤ '9' then some (c.toNat - '0'.toNat)
  else if 'a' ≤ c ∧ c ≤ 'f' then some (c.toNat - 'a'.toNat + 10)
  else if 'A' ≤ c ∧ c ≤ 'F' then some (c.toNat - 'A'.toNat + 10)
  else none

/-- `hex.DecodeString`: the octets decoded, and whether there was an error. -/
def hexDecodeChars : List Char → Bytes × Bool
  | [] => ([], false)
  | [_] => ([], true)
  | c :: d :: cs =>
    match fromHexChar c, fromHexChar d with
    | some hi, some lo =>
      let (bs, failed) := hexDecodeChars cs
      (UInt8.ofNat (hi * 16 + lo) :: bs, failed)
    | _, _ => ([], true)

def hexDecode (s : String) : Bytes × Bool := hexDecodeChars s.toList

/-- A slice converted to an array of length `n`, if it has that length. -/
def toArray? (n : Nat) (b : Bytes) : Option (Vector UInt8 n) :=
  if h : b.length = n then some ⟨b.toArray, by simpa using h⟩ else none

theorem toArray?_toList {n : Nat} (v : Vector UInt8 n) : toArray? n v.toList = some v := by
  unfold toArray?
  rw [dif_pos (by simp)]
  congr

open List

theorem fromHexChar_hexDigit : ∀ n < 16, fromHexChar (hexDigit n) = some n := by
  decide

/-- What was encoded is decoded without an error. -/
theorem hexDecode_hexEncode (b : Bytes) : hexDecode (hexEncode b) = (b, false) := by
  unfold hexDecode hexEncode
  rw [String.toList_ofList]
  induction b with
  | nil => rfl
  | cons x b ih =>
    have hx : x.toNat < 256 := x.toNat_lt
    have hhi := fromHexChar_hexDigit (x.toNat / 16) (by omega)
    have hlo : fromHexChar (hexDigit x.toNat) = some (x.toNat % 16) := by
      rw [← fromHexChar_hexDigit (x.toNat % 16) (by omega)]
      simp [hexDigit]
    have hsum : x.toNat / 16 * 16 + x.toNat % 16 = x.toNat := by omega
    simp only [flatMap_cons, cons_append, nil_append, hexDecodeChars, hhi,
      hlo, ih, hsum, UInt8.ofNat_toNat]

/-! ## The digits of `%06x` -/

theorem hexDigits_succ {width : Nat} (hwidth : 0 < width) (n : Nat) :
    hexDigits (width + 1) n = hexDigits width (n / 16) ++ [hexDigit n] := by
  unfold hexDigits hexDigit
  rcases Nat.lt_or_ge n 16 with hlt | hge
  · have hquot : n / 16 = 0 := Nat.div_eq_of_lt hlt
    have hzeros : replicate width '0' = replicate (width - 1) '0' ++ ['0'] := by
      rw [← replicate_succ', Nat.sub_add_cancel hwidth]
    rw [Nat.toDigits_of_lt_base hlt, hquot, Nat.mod_eq_of_lt hlt]
    show replicate width '0' ++ _ = (replicate (width - 1) '0' ++ ['0']) ++ _
    rw [hzeros]
  · rw [Nat.toDigits_of_base_le (by decide) hge]
    simp [append_assoc]

theorem hexDigits_one {n : Nat} (h : n < 16) : hexDigits 1 n = [hexDigit n] := by
  unfold hexDigits hexDigit
  rw [Nat.toDigits_of_lt_base h, Nat.mod_eq_of_lt h]
  rfl

theorem toList_sprint06x {n : UInt32} (h : n.toNat < 16777216) : (sprint06x n).toList =
      [hexDigit (n.toNat / 1048576), hexDigit (n.toNat / 65536), hexDigit (n.toNat / 4096),
        hexDigit (n.toNat / 256), hexDigit (n.toNat / 16), hexDigit n.toNat] := by
  have htop : n.toNat / 16 / 16 / 16 / 16 / 16 < 16 := by omega
  unfold sprint06x
  rw [String.toList_ofList, hexDigits_succ (by decide), hexDigits_succ (by decide),
    hexDigits_succ (by decide), hexDigits_succ (by decide), hexDigits_succ (by decide),
    hexDigits_one htop]
  simp only [Nat.div_div_eq_div_mul, cons_append, nil_append, Nat.reduceMul]

/-- The digits that `%x` writes. -/
def lowerHexDigits : List Char := "0123456789abcdef".toList

theorem hexDigit_mem (n : Nat) : hexDigit n ∈ lowerHexDigits := by
  have hall : ∀ d < 16, Nat.digitChar d ∈ lowerHexDigits := by decide
  exact hall (n % 16) (Nat.mod_lt _ (by decide))

theorem exists_hexDigit : ∀ c ∈ lowerHexDigits, ∃ d < 16, hexDigit d = c := by
  -- `List.all` and not a decidable `∀`, which could be taken to range over all of `Char`.
  have hall : lowerHexDigits.all (fun c => (range 16).any fun d => hexDigit d == c) = true := by
    decide
  intro c hc
  obtain ⟨d, hd, hdigit⟩ := any_eq_true.mp (all_eq_true.mp hall c hc)
  exact ⟨d, mem_range.mp hd, eq_of_beq hdigit⟩

theorem hexDigit_congr {m n : Nat} (h : m % 16 = n % 16) : hexDigit m = hexDigit n := by
  rw [hexDigit, h, hexDigit]

theorem utf8ByteSize_ofList_digits {l : List Char} (h : ∀ c ∈ l, c ∈ lowerHexDigits) :
    (String.ofList l).utf8ByteSize = l.length := by
  have hall : lowerHexDigits.all (fun c => decide (c.utf8Size = 1)) = true := by decide
  have hdigit : ∀ c ∈ lowerHexDigits, c.utf8Size = 1 :=
    fun c hc => of_decide_eq_true (all_eq_true.mp hall c hc)
  induction l with
  | nil => rfl
  | cons c l ih =>
    rw [String.ofList_cons, String.utf8ByteSize_append, String.utf8ByteSize_singleton,
      hdigit c (h c mem_cons_self), ih fun c' hc' => h c' (mem_cons_of_mem c hc'),
      length_cons, Nat.add_comm]
end Claudia5gc.Go
