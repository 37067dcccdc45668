import Claudia5gc.Cmac

/-!
# Counter mode

The keystream of a block function: its values at consecutive counter blocks, which are the numbers
of 128 bits with the first octet the most significant.  A text is XORed with it octet by octet.
-/

namespace Claudia5gc.Ctr

open Cmac List

variable (E : List UInt8 → List UInt8) (iv : BitVec 128)

def keystream (i : Nat) : UInt8 :=
  (E (octets (iv + BitVec.ofNat 128 (i / 16)))).getD (i % 16) 0

def xorFrom : Nat → List UInt8 → List UInt8
  | _, [] => []
  | i, b :: bs => (b ^^^ keystream E iv i) :: xorFrom (i + 1) bs

theorem xorFrom_xorFrom (i : Nat) (bs : List UInt8) : xorFrom E iv i (xorFrom E iv i bs) = bs := by
  induction bs generalizing i with
  | nil => rfl
  | cons b bs ih => rw [xorFrom, xorFrom, ih, UInt8.xor_assoc, UInt8.xor_self, UInt8.xor_zero]

/-! ## The increment -/

/-- One more, from the last octet (which comes first here) on, as far as there is a carry. -/
def carry : List UInt8 → List UInt8
  | [] => []
  | c :: cs => if c + 1 ≠ 0 then (c + 1) :: cs else (c + 1) :: carry cs

@[simp] theorem length_carry (cs : List UInt8) : (carry cs).length = cs.length := by
  induction cs with
  | nil => rfl
  | cons c cs ih =>
    rw [carry]
    split
    · rfl
    · rw [length_cons, ih, length_cons]

theorem number_reverse_cons (c : UInt8) (cs : List UInt8) :
    number (c :: cs).reverse = 256 * number cs.reverse + c.toNat := by
  rw [reverse_cons, number_append]
  simp [number]

theorem number_carry (cs : List UInt8) :
    number (carry cs).reverse = (number cs.reverse + 1) % 256 ^ cs.length := by
  induction cs with
  | nil => decide
  | cons c cs ih =>
    have hlt := number_lt cs.reverse
    rw [length_reverse] at hlt
    have hc := c.toNat_lt
    rw [carry, length_cons, pow_succ]
    split_ifs with hcarry
    · have hsucc : (c + 1).toNat = c.toNat + 1 := by
        rw [Ne, ← UInt8.toNat_inj] at hcarry
        exact Nat.mod_eq_of_lt (by simp at hcarry ⊢; omega)
      have hlast := (c + 1).toNat_lt
      rw [number_reverse_cons, number_reverse_cons, hsucc, Nat.mod_eq_of_lt (by omega)]
      omega
    · have hzero : c + 1 = 0 := not_not.mp hcarry
      have hlast : c.toNat = 255 := by
        rw [← UInt8.toNat_inj, UInt8.toNat_add] at hzero
        simp at hzero
        omega
      rw [number_reverse_cons, number_reverse_cons, ih, hzero, hlast,
        show 256 * number cs.reverse + 255 + 1 = 256 * (number cs.reverse + 1) by omega,
        Nat.mul_comm (256 ^ cs.length), Nat.mul_mod_mul_left]
      rfl

def increment (bs : List UInt8) : List UInt8 := (carry bs.reverse).reverse

@[simp] theorem length_increment (bs : List UInt8) : (increment bs).length = bs.length := by
  rw [increment, length_reverse, length_carry, length_reverse]

theorem increment_octets (b : BitVec 128) : increment (octets b) = octets (b + 1) := by
  apply block_injective (by simp) (by simp)
  apply BitVec.eq_of_toNat_eq
  rw [block_octets, toNat_block (by simp), increment, number_carry, reverse_reverse,
    length_reverse, length_octets, octets, number_digits, BitVec.toNat_add,
    Nat.mod_eq_of_lt (show b.toNat < 256 ^ 16 from b.isLt)]
  rfl

end Claudia5gc.Ctr
