import Claudia5gc.Go.Outcome
import Mathlib.Algebra.Group.Nat.Defs

/-!
# AES with a key of 128 bits

`crypto/aes` for keys of sixteen octets.  A block is a list of sixteen octets in
the order of the wire.  That the definitions compute the cipher is shown by a
published test vector.
-/

namespace Claudia5gc.Go.Aes

open List

variable {key text : Bytes} {fuel : Nat}

def sboxTable : Bytes :=
  [0x63, 0x7c, 0x77, 0x7b, 0xf2, 0x6b, 0x6f, 0xc5, 0x30, 0x01, 0x67, 0x2b, 0xfe, 0xd7, 0xab, 0x76,
   0xca, 0x82, 0xc9, 0x7d, 0xfa, 0x59, 0x47, 0xf0, 0xad, 0xd4, 0xa2, 0xaf, 0x9c, 0xa4, 0x72, 0xc0,
   0xb7, 0xfd, 0x93, 0x26, 0x36, 0x3f, 0xf7, 0xcc, 0x34, 0xa5, 0xe5, 0xf1, 0x71, 0xd8, 0x31, 0x15,
   0x04, 0xc7, 0x23, 0xc3, 0x18, 0x96, 0x05, 0x9a, 0x07, 0x12, 0x80, 0xe2, 0xeb, 0x27, 0xb2, 0x75,
   0x09, 0x83, 0x2c, 0x1a, 0x1b, 0x6e, 0x5a, 0xa0, 0x52, 0x3b, 0xd6, 0xb3, 0x29, 0xe3, 0x2f, 0x84,
   0x53, 0xd1, 0x00, 0xed, 0x20, 0xfc, 0xb1, 0x5b, 0x6a, 0xcb, 0xbe, 0x39, 0x4a, 0x4c, 0x58, 0xcf,
   0xd0, 0xef, 0xaa, 0xfb, 0x43, 0x4d, 0x33, 0x85, 0x45, 0xf9, 0x02, 0x7f, 0x50, 0x3c, 0x9f, 0xa8,
   0x51, 0xa3, 0x40, 0x8f, 0x92, 0x9d, 0x38, 0xf5, 0xbc, 0xb6, 0xda, 0x21, 0x10, 0xff, 0xf3, 0xd2,
   0xcd, 0x0c, 0x13, 0xec, 0x5f, 0x97, 0x44, 0x17, 0xc4, 0xa7, 0x7e, 0x3d, 0x64, 0x5d, 0x19, 0x73,
   0x60, 0x81, 0x4f, 0xdc, 0x22, 0x2a, 0x90, 0x88, 0x46, 0xee, 0xb8, 0x14, 0xde, 0x5e, 0x0b, 0xdb,
   0xe0, 0x32, 0x3a, 0x0a, 0x49, 0x06, 0x24, 0x5c, 0xc2, 0xd3, 0xac, 0x62, 0x91, 0x95, 0xe4, 0x79,
   0xe7, 0xc8, 0x37, 0x6d, 0x8d, 0xd5, 0x4e, 0xa9, 0x6c, 0x56, 0xf4, 0xea, 0x65, 0x7a, 0xae, 0x08,
   0xba, 0x78, 0x25, 0x2e, 0x1c, 0xa6, 0xb4, 0xc6, 0xe8, 0xdd, 0x74, 0x1f, 0x4b, 0xbd, 0x8b, 0x8a,
   0x70, 0x3e, 0xb5, 0x66, 0x48, 0x03, 0xf6, 0x0e, 0x61, 0x35, 0x57, 0xb9, 0x86, 0xc1, 0x1d, 0x9e,
   0xe1, 0xf8, 0x98, 0x11, 0x69, 0xd9, 0x8e, 0x94, 0x9b, 0x1e, 0x87, 0xe9, 0xce, 0x55, 0x28, 0xdf,
   0x8c, 0xa1, 0x89, 0x0d, 0xbf, 0xe6, 0x42, 0x68, 0x41, 0x99, 0x2d, 0x0f, 0xb0, 0x54, 0xbb, 0x16]

def sbox (x : UInt8) : UInt8 := sboxTable.getD x.toNat 0

def xtime (x : UInt8) : UInt8 := (x <<< 1) ^^^ (if x &&& 0x80 = 0 then 0 else 0x1b)

def xor (a b : Bytes) : Bytes := zipWith (· ^^^ ·) a b

@[simp] theorem length_xor (a b : Bytes) : (xor a b).length = min a.length b.length := by
  simp [xor]

theorem xor_xor_cancel {a b : Bytes} (h : a.length ≤ b.length) : xor (xor a b) b = a := by
  refine ext_getElem (by simp; omega) fun i h₁ h₂ => ?_
  simp only [xor, getElem_zipWith, UInt8.xor_assoc, UInt8.xor_self, UInt8.xor_zero]

/-! ## Rounds -/

def shiftRows (s : Bytes) : Bytes :=
  [0, 5, 10, 15, 4, 9, 14, 3, 8, 13, 2, 7, 12, 1, 6, 11].map fun i => s.getD i 0

def mixColumns : Bytes → Bytes
  | a :: b :: c :: d :: rest =>
    let t := a ^^^ b ^^^ c ^^^ d
    (a ^^^ t ^^^ xtime (a ^^^ b)) :: (b ^^^ t ^^^ xtime (b ^^^ c)) ::
      (c ^^^ t ^^^ xtime (c ^^^ d)) :: (d ^^^ t ^^^ xtime (d ^^^ a)) :: mixColumns rest
  | s => s

def nextKey (rcon : UInt8) (key : Bytes) : Bytes :=
  let w₃ := key.drop 12
  let t := (w₃.drop 1 ++ w₃.take 1).map sbox
  let w₀ := xor (xor (key.take 4) t) [rcon, 0, 0, 0]
  let w₁ := xor ((key.drop 4).take 4) w₀
  let w₂ := xor ((key.drop 8).take 4) w₁
  w₀ ++ w₁ ++ w₂ ++ xor w₃ w₂

/-- The rounds with the constants that are left; the last one mixes no columns. -/
def rounds : List UInt8 → Bytes → Bytes → Bytes
  | [], _, s => s
  | [rcon], key, s => xor (shiftRows (s.map sbox)) (nextKey rcon key)
  | rcon :: rcons, key, s =>
    let key := nextKey rcon key
    rounds rcons key (xor (mixColumns (shiftRows (s.map sbox))) key)

def encrypt (key block : Bytes) : Bytes :=
  rounds [0x01, 0x02, 0x04, 0x08, 0x10, 0x20, 0x40, 0x80, 0x1b, 0x36] key (xor block key)

theorem length_shiftRows (s : Bytes) : (shiftRows s).length = 16 := by
  simp [shiftRows]

theorem length_nextKey (rcon : UInt8) (hkey : key.length = 16) :
    (nextKey rcon key).length = 16 := by
  simp [nextKey, hkey]

theorem length_rounds {rcons : List UInt8} (hrcons : rcons ≠ [])
    (hkey : key.length = 16) (s : Bytes) : (rounds rcons key s).length = 16 := by
  fun_induction rounds rcons key s with
  | case1 => exact absurd rfl hrcons
  | case2 rcon key s => simp [length_shiftRows, length_nextKey rcon hkey]
  | case3 rcon rcons key s h key' ih => exact ih h (length_nextKey rcon hkey)

theorem length_encrypt (hkey : key.length = 16) (block : Bytes) : (encrypt key block).length = 16 :=
  length_rounds (by decide) hkey _

example : encrypt
    [0x00, 0x01, 0x02, 0x03, 0x04, 0x05, 0x06, 0x07, 0x08, 0x09, 0x0a, 0x0b, 0x0c, 0x0d, 0x0e, 0x0f]
    [0x00, 0x11, 0x22, 0x33, 0x44, 0x55, 0x66, 0x77, 0x88, 0x99, 0xaa, 0xbb, 0xcc, 0xdd,
     0xee, 0xff] =
    [0x69, 0xc4, 0xe0, 0xd8, 0x6a, 0x7b, 0x04, 0x30, 0xd8, 0xcd, 0xb7, 0x80, 0x70, 0xb4,
     0xc5, 0x5a] := by
  decide +kernel

/-! ## Counter mode -/

/-- A counter block of sixteen octets as a number, and back. -/
def counterOf (iv : Bytes) : Nat := iv.foldl (fun n b => n * 256 + b.toNat) 0

def counterBlock (n : Nat) : Bytes :=
  (range 16).map fun i => UInt8.ofNat (n / 256 ^ (15 - i))

def ctrBlocks (key : Bytes) : Nat → Nat → Bytes → Bytes
  | 0, _, _ => []
  | fuel + 1, n, text =>
    xor (text.take 16) (encrypt key (counterBlock n)) ++ ctrBlocks key fuel (n + 1) (text.drop 16)

def ctr (key iv text : Bytes) : Bytes :=
  ctrBlocks key ((text.length + 15) / 16) (counterOf iv) text

section

variable {key : Bytes} (hkey : key.length = 16)
include hkey

theorem length_ctrBlocks (n : Nat) (h : text.length ≤ 16 * fuel) :
    (ctrBlocks key fuel n text).length = text.length := by
  induction fuel generalizing n text with
  | zero => simp_all [ctrBlocks]
  | succ fuel ih =>
    rw [ctrBlocks, length_append, length_xor, length_encrypt hkey, length_take,
      ih (n + 1) (by rw [length_drop]; omega), length_drop]
    omega

theorem ctrBlocks_ctrBlocks (n : Nat) (h : text.length ≤ 16 * fuel) :
    ctrBlocks key fuel n (ctrBlocks key fuel n text) = text := by
  induction fuel generalizing n text with
  | zero => simp_all [ctrBlocks]
  | succ fuel ih =>
    have hdrop : (text.drop 16).length ≤ 16 * fuel := by
      rw [length_drop]
      omega
    have hblock : (text.take 16).length ≤ (encrypt key (counterBlock n)).length := by
      rw [length_encrypt hkey]
      exact length_take_le 16 text
    rcases Nat.lt_or_ge text.length 16 with hlast | hfull
    · -- The block is the last one, and nothing is left behind it.
      have hnil : text.drop 16 = [] := drop_eq_nil_of_le (by omega)
      have hrest : ∀ m, ctrBlocks key fuel m [] = [] := fun m =>
        length_eq_zero_iff.mp (length_ctrBlocks hkey m (Nat.zero_le _))
      have hlength : (xor text (encrypt key (counterBlock n))).length ≤ 16 := by
        rw [length_xor]
        omega
      rw [take_of_length_le (by omega)] at hblock
      simp only [ctrBlocks, hnil, hrest, append_nil]
      rw [take_of_length_le (i := 16) (l := text) (by omega), take_of_length_le hlength,
        drop_eq_nil_of_le hlength, hrest, append_nil, xor_xor_cancel hblock]
    · have hlength : (xor (text.take 16) (encrypt key (counterBlock n))).length = 16 := by
        rw [length_xor, length_encrypt hkey, length_take]
        omega
      simp only [ctrBlocks]
      rw [take_left' hlength, drop_left' hlength, xor_xor_cancel hblock,
        ih (n + 1) hdrop, take_append_drop]

/-- Counter mode deciphers what it enciphers. -/
theorem ctr_ctr (iv text : Bytes) : ctr key iv (ctr key iv text) = text := by
  have h : text.length ≤ 16 * ((text.length + 15) / 16) := by omega
  rw [ctr, show (ctr key iv text).length = text.length from length_ctrBlocks hkey _ h]
  exact ctrBlocks_ctrBlocks hkey _ h

end

end Claudia5gc.Go.Aes
