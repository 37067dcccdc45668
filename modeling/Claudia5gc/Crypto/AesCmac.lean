import Claudia5gc.Cmac
import Claudia5gc.Crypto.NasSecurity
import Claudia5gc.Go.BigEndian

/-!
# AES-CMAC, and 128-NIA2 over it

`aesCMAC` as the program computes it, octet by octet, for any block function in the place of AES: it
is the code of RFC 4493. 128-NIA2 is its first four octets, over a message that starts with the
COUNT, the bearer and the direction.
-/

namespace Claudia5gc.Crypto

open Go Cmac List Outcome Nat

variable {src x key : Bytes}

structure BlockFunction where
  encrypt : Bytes → Bytes
  length_encrypt : ∀ b, (encrypt b).length = 16

/-! ## The program -/

def blockSize : Nat := 16

/-- The loop of `shiftLeft1`, from the last octet to the first: the octets so far and the
carry. -/
def shiftLoop (src : Bytes) : Bytes × UInt8 :=
  src.foldr (fun (b : UInt8) r => ((b <<< 1 ||| r.2) :: r.1, b >>> 7)) ([], 0)

def shiftLeft1 (src : Bytes) : Bytes := (shiftLoop src).1

def xorBlock (a b : Bytes) : Bytes := zipWith (· ^^^ ·) a b

/-- A step of `generateSubkeys`: a shift, and the constant when a one was shifted out. -/
def nextSubkey (src : Bytes) : Bytes :=
  let k := shiftLeft1 src
  if src.headD 0 &&& 0x80 ≠ 0 then k.modify (blockSize - 1) (· ^^^ 0x87) else k

namespace BlockFunction

variable (E : BlockFunction)

def generateSubkeys : Bytes × Bytes :=
  let L := E.encrypt (replicate blockSize 0)
  let k1 := nextSubkey L
  let k2 := nextSubkey k1
  (k1, k2)

def cbcLoop (data : Bytes) (lastCompleteBlock : Nat) : Nat → Nat → Bytes → Outcome Bytes
  | 0, _, _ => .hang
  | fuel + 1, i, x =>
    if i < lastCompleteBlock then do
      let d ← slice data i (i + blockSize)
      cbcLoop data lastCompleteBlock fuel (i + blockSize) (E.encrypt (xorBlock x d))
    else .ok x

def maskLast (data : Bytes) (lastCompleteBlock : Nat) (flag : Bool) : Outcome Bytes :=
  let (k1, k2) := E.generateSubkeys
  let n := data.length
  let lastBlock := replicate blockSize 0
  if flag then do
    let lastBlock ← put lastBlock 0 (← sliceFrom data lastCompleteBlock)
    return xorBlock lastBlock k1
  else do
    let padLen := n % blockSize
    let lastBlock ← put lastBlock 0 (← slice data lastCompleteBlock n)
    let lastBlock ← put lastBlock padLen [0x80]
    return xorBlock lastBlock k2

def lastBlockOf (n : Nat) : Nat × Bool :=
  if n = 0 then (0, false)
  else if n % blockSize = 0 then (n - blockSize, true)
  else (n - n % blockSize, false)

def aesCMAC (data : Bytes) : Outcome Bytes := do
  let (lastCompleteBlock, flag) := lastBlockOf data.length
  let lastBlock ← E.maskLast data lastCompleteBlock flag
  let x ← E.cbcLoop data lastCompleteBlock (data.length + 1) 0 (replicate blockSize 0)
  return E.encrypt (xorBlock x lastBlock)

end BlockFunction

/-! ## Octets and bits -/

theorem shiftLoop_spec (src : Bytes) :
    (shiftLoop src).1.length = src.length ∧ (shiftLoop src).2.toNat ≤ 1 ∧
      256 ^ src.length * (shiftLoop src).2.toNat + number (shiftLoop src).1 = 2 * number src := by
  induction src with
  | nil => exact ⟨rfl, zero_le 1, rfl⟩
  | cons b src ih =>
    obtain ⟨hlen, hcarry, hsum⟩ := ih
    have hb := b.toNat_lt
    have hstep : shiftLoop (b :: src) =
      ((b <<< 1 ||| (shiftLoop src).2) :: (shiftLoop src).1, b >>> 7) := rfl
    -- one octet: what it keeps and what it carries
    have hcarry' : (b >>> 7).toNat = b.toNat / 128 := by
      exact shiftRight_eq_div_pow b.toNat 7
    have hkeep : (b <<< 1 ||| (shiftLoop src).2).toNat =
        2 * b.toNat % 256 + (shiftLoop src).2.toNat := by
      show b.toNat <<< 1 % 2 ^ 8 ||| (shiftLoop src).2.toNat = _
      have heven : b.toNat <<< 1 % 2 ^ 8 = (b.toNat % 128) <<< 1 := by
        omega
      rw [heven, ← shiftLeft_add_eq_or_of_lt (by omega), shiftLeft_eq]
      omega
    rw [hstep]
    refine ⟨by simp [hlen], by rw [hcarry']; omega, ?_⟩
    have hb2 : 2 * b.toNat = 256 * (b.toNat / 128) + 2 * b.toNat % 256 := by omega
    rw [number, number, hcarry', hkeep, hlen, length_cons, pow_succ]
    calc 256 ^ src.length * 256 * (b.toNat / 128) +
          (256 ^ src.length * (2 * b.toNat % 256 + (shiftLoop src).2.toNat) +
            number (shiftLoop src).1)
        = 256 ^ src.length * (256 * (b.toNat / 128) + 2 * b.toNat % 256) +
          (256 ^ src.length * (shiftLoop src).2.toNat + number (shiftLoop src).1) := by ring
      _ = 256 ^ src.length * (2 * b.toNat) + 2 * number src := by rw [← hb2, hsum]
      _ = 2 * (256 ^ src.length * b.toNat + number src) := by ring

@[simp] theorem length_shiftLeft1 (src : Bytes) : (shiftLeft1 src).length = src.length :=
  (shiftLoop_spec src).1

theorem block_shiftLeft1 (h : src.length = 16) : block (shiftLeft1 src) = block src <<< 1 := by
  obtain ⟨-, -, hsum⟩ := shiftLoop_spec src
  apply BitVec.eq_of_toNat_eq
  have hlt := number_lt (shiftLeft1 src)
  rw [length_shiftLeft1, h] at hlt
  rw [BitVec.toNat_shiftLeft, toNat_block h, toNat_block (by simpa using h),
    shiftLeft_eq, mul_comm, pow_one, ← hsum, h]
  show number (shiftLeft1 src) = (2 ^ 128 * (shiftLoop src).2.toNat + _) % 2 ^ 128
  rw [mul_add_mod]
  exact (mod_eq_of_lt hlt).symm

theorem msb_block (h : src.length = 16) : (block src).msb = true ↔ src.headD 0 &&& 0x80 ≠ 0 := by
  match src, h with
  | b :: rest, h =>
    have hrest : rest.length = 15 := succ.inj h
    have hlt := number_lt rest
    rw [hrest] at hlt
    have hbit : (b &&& 0x80 ≠ 0) ↔ 128 ≤ b.toNat := by
      have hb := b.toNat_lt
      rw [ne_eq, ← UInt8.toNat_inj, UInt8.toNat_and]
      show ¬ b.toNat &&& 2 ^ 7 = 0 ↔ _
      rw [and_two_pow, testBit_eq_decide_div_mod_eq]
      by_cases hle : 128 ≤ b.toNat
      · simp [hle, show b.toNat / 128 % 2 = 1 by omega]
      · simp [hle, show b.toNat / 128 % 2 = 0 by omega]
    rw [BitVec.msb_eq_decide, decide_eq_true_iff, toNat_block h, number, hrest, headD_cons, hbit]
    constructor
    · intro hle
      by_contra hsmall
      omega
    · intro hle
      omega

theorem xorBlock_constant {k : Bytes} (h : k.length = 16) :
    k.modify (blockSize - 1) (· ^^^ 0x87) = xorBlock k (replicate 15 0 ++ [0x87]) := by
  match k, h with
  | [_, _, _, _, _, _, _, _, _, _, _, _, _, _, _, _], _ =>
    simp [xorBlock, blockSize, List.modify]

theorem length_nextSubkey (h : src.length = 16) : (nextSubkey src).length = 16 := by
  rw [nextSubkey]
  split <;> simp [h]

theorem block_nextSubkey (h : src.length = 16) : block (nextSubkey src) = double (block src) := by
  rw [nextSubkey, double]
  by_cases hmsb : (block src).msb = true
  · rw [if_pos ((msb_block h).1 hmsb), if_pos hmsb, xorBlock_constant (by simpa using h),
      xorBlock, block_xor (by simpa using h) (by simp), block_shiftLeft1 h]
    congr 1
  · rw [if_neg (fun hbit => hmsb ((msb_block h).2 hbit)), if_neg hmsb, block_shiftLeft1 h]

/-! ## The code of RFC 4493 -/

namespace BlockFunction

variable (E : BlockFunction)

/-- The block function on strings of bits. -/
def onBits (b : BitVec 128) : BitVec 128 := block (E.encrypt (octets b))

theorem block_encrypt (h : x.length = 16) : block (E.encrypt x) = E.onBits (block x) := by
  rw [onBits, octets_block h]

theorem subkeys_spec : E.generateSubkeys.1.length = 16 ∧ E.generateSubkeys.2.length = 16 ∧
      block E.generateSubkeys.1 = subkey1 E.onBits ∧
      block E.generateSubkeys.2 = subkey2 E.onBits := by
  have hL := E.length_encrypt (replicate blockSize 0)
  have h1 := length_nextSubkey hL
  have hzero : block (replicate blockSize 0) = 0 := by decide
  have hk1 : block E.generateSubkeys.1 = subkey1 E.onBits := by
    rw [generateSubkeys, block_nextSubkey hL,
      E.block_encrypt (length_replicate (n := blockSize) (a := 0)), hzero]
    rfl
  refine ⟨h1, length_nextSubkey h1, hk1, ?_⟩
  rw [subkey2, ← hk1]
  exact block_nextSubkey h1

variable (m : Bytes)

theorem lastBlockOf_eq : lastBlockOf m.length =
      (16 * (blocks m - 1), decide ((part m (blocks m - 1)).length = 16)) := by
  rw [lastBlockOf, blockSize, part, blocks, length_take, length_drop]
  split
  · rename_i hnil
    rw [hnil]
    rfl
  · split
    · rename_i hne hmod
      rw [Prod.mk.injEq, eq_comm (a := true), decide_eq_true_iff]
      omega
    · rename_i hne hmod
      rw [Prod.mk.injEq, eq_comm (a := false), decide_eq_false_iff_not]
      omega

theorem part_last : part m (blocks m - 1) = m.drop (16 * (blocks m - 1)) := by
  rw [part, take_of_length_le]
  rw [length_drop, blocks]
  omega

theorem length_part_lt {m : Bytes} (h : (part m (blocks m - 1)).length ≠ 16) :
    (part m (blocks m - 1)).length < 16 := by
  have hle : (part m (blocks m - 1)).length ≤ 16 := length_take_le ..
  omega

theorem length_pad {bs : Bytes} (h : bs.length < 16) : (pad bs).length = 16 := by
  simp [pad]
  omega

theorem maskLast_eq : E.maskLast m (lastBlockOf m.length).1 (lastBlockOf m.length).2 =
      .ok (if (part m (blocks m - 1)).length = 16 then
          xorBlock (part m (blocks m - 1)) E.generateSubkeys.1
        else xorBlock (pad (part m (blocks m - 1))) E.generateSubkeys.2) := by
  have hle : 16 * (blocks m - 1) ≤ m.length := by
    rw [blocks]
    omega
  have hlast : (part m (blocks m - 1)).length = m.length - 16 * (blocks m - 1) := by
    rw [part_last, length_drop]
  rw [lastBlockOf_eq, maskLast]
  by_cases hfull : (part m (blocks m - 1)).length = 16
  · have hput : put (replicate blockSize 0) 0 (part m (blocks m - 1)) =
        .ok (part m (blocks m - 1)) := by
      simp [put, blockSize, hfull]
    simp only [hfull, decide_true, if_pos, sliceFrom_of_le hle, ok_bind, ← part_last, hput]
    rfl
  · have hshort := length_part_lt hfull
    have hpad : m.length % blockSize = (part m (blocks m - 1)).length := by
      rw [hlast, blockSize]
      omega
    have hslice : slice m (16 * (blocks m - 1)) m.length = .ok (part m (blocks m - 1)) := by
      rw [slice_of_le hle (le_refl _), part_last, ← length_drop, take_length]
    simp only [hfull, decide_false, hpad, hslice, ok_bind]
    generalize part m (blocks m - 1) = last at hshort
    have hput : put (replicate blockSize 0) 0 last =
        .ok (last ++ replicate (16 - last.length) 0) := by
      rw [put, if_pos (by simp [blockSize]; omega), take_zero, nil_append,
        zero_add, drop_replicate, blockSize]
    have hone : put (last ++ replicate (16 - last.length) 0) last.length [0x80] =
        .ok (pad last) := by
      rw [put, if_pos (by simp; omega), take_left, pad]
      simp [show 16 - last.length - 1 = 15 - last.length by omega]
    rw [hput, ok_bind, hone]
    rfl

theorem maskLast_spec :
    ∃ b, E.maskLast m (lastBlockOf m.length).1 (lastBlockOf m.length).2 = .ok b ∧
      b.length = 16 ∧ block b = lastBlock E.onBits m := by
  obtain ⟨hlen1, hlen2, hk1, hk2⟩ := E.subkeys_spec
  refine ⟨_, E.maskLast_eq m, ?_⟩
  rw [lastBlock]
  by_cases hfull : (part m (blocks m - 1)).length = 16
  · rw [if_pos hfull, if_pos hfull, xorBlock, block_xor hfull hlen1, hk1]
    simp [hfull, hlen1]
  · have hpad := length_pad (length_part_lt hfull)
    rw [if_neg hfull, if_neg hfull, xorBlock, block_xor hpad hlen2, hk2]
    simp [hpad, hlen2]

theorem cbcLoop_spec (fuel : Nat) {k n : Nat} (hle : 16 * (k + n) ≤ m.length)
    (hfuel : n < fuel) (hx : x.length = 16) (hchain : block x = chain E.onBits m k) :
    ∃ y, E.cbcLoop m (16 * (k + n)) fuel (16 * k) x = .ok y ∧ y.length = 16 ∧
      block y = chain E.onBits m (k + n) := by
  induction n generalizing k fuel x with
  | zero =>
    obtain ⟨fuel, rfl⟩ : ∃ f, fuel = f + 1 := ⟨fuel - 1, by omega⟩
    refine ⟨x, ?_, hx, hchain⟩
    rw [cbcLoop, if_neg (by omega)]
  | succ n ih =>
    obtain ⟨fuel, rfl⟩ : ∃ f, fuel = f + 1 := ⟨fuel - 1, by omega⟩
    have hpart : slice m (16 * k) (16 * k + blockSize) = .ok (part m k) := by
      rw [slice_of_le (by omega) (by rw [blockSize]; omega), Nat.add_sub_cancel_left]
      rfl
    have hlen : (part m k).length = 16 := by
      rw [part, length_take, length_drop]
      omega
    have hxor : (xorBlock x (part m k)).length = 16 := by simp [xorBlock, hx, hlen]
    have hnext : block (E.encrypt (xorBlock x (part m k))) = chain E.onBits m (k + 1) := by
      rw [E.block_encrypt hxor, xorBlock, block_xor hx hlen, hchain, chain, chain,
        range_succ, foldl_append]
      rfl
    have hstep := ih fuel (k := k + 1) (by omega) (by omega) (E.length_encrypt _) hnext
    rw [cbcLoop, if_pos (by omega), hpart, ok_bind]
    rw [show k + 1 + n = k + (n + 1) by omega, mul_add 16 k 1] at hstep
    exact hstep

theorem aesCMAC_spec : ∃ t, E.aesCMAC m = .ok t ∧ t.length = 16 ∧ block t = mac E.onBits m := by
  obtain ⟨b, hb, hblen, hblock⟩ := E.maskLast_spec m
  have hzero : block (replicate blockSize 0) = 0 := by decide
  have hle : 16 * (0 + (blocks m - 1)) ≤ m.length := by
    rw [blocks]
    omega
  obtain ⟨x, hx, hxlen, hxblock⟩ := E.cbcLoop_spec m (m.length + 1) hle (by omega)
    (length_replicate (n := blockSize) (a := 0)) hzero
  have hxor : (xorBlock x b).length = 16 := by simp [xorBlock, hxlen, hblen]
  refine ⟨E.encrypt (xorBlock x b), ?_, E.length_encrypt _, ?_⟩
  · rw [zero_add, mul_zero] at hx
    have hstart : (lastBlockOf m.length).1 = 16 * (blocks m - 1) := by rw [lastBlockOf_eq]
    rw [← hstart] at hx
    simp only [aesCMAC, hb, ok_bind, hx]
    rfl
  · rw [E.block_encrypt hxor, xorBlock, block_xor hxlen hblen, hblock, hxblock, zero_add,
      BitVec.xor_comm]
    rfl

end BlockFunction

/-! ## AES -/

def aes (key : Bytes) (h : key.length = 16) : BlockFunction where
  encrypt := Aes.encrypt key
  length_encrypt := Aes.length_encrypt h

theorem aes_encrypt (h : key.length = 16) : (aes key h).encrypt = Aes.encrypt key := by
  unfold aes
  with_reducible rfl

namespace Nia

theorem xorBlock_eq (a b : Bytes) : xorBlock a b = Aes.xor a b := rfl

theorem shiftLeft1_eq (src : Bytes) : shiftLeft1 src = Crypto.shiftLeft1 src := by
  -- the carry into an octet is the first bit of the one behind it
  have hcarry (b : UInt8) (src : Bytes) : (shiftLoop (b :: src)).2 = b >>> 7 := rfl
  have hstep (b : UInt8) (src : Bytes) :
      Crypto.shiftLeft1 (b :: src) = (b <<< 1 ||| (shiftLoop src).2) :: Crypto.shiftLeft1 src :=
    rfl
  fun_induction shiftLeft1 src with
  | case1 => rfl
  | case2 b =>
    simp [shiftLoop, Crypto.shiftLeft1]
  | case3 b c bs ih => rw [hstep, hcarry, ih]

theorem subkey_eq (h : src.length = 16) : subkey src = nextSubkey src := by
  rw [subkey, nextSubkey, xorBlock_constant (by simpa using h), shiftLeft1_eq]
  rfl

theorem cbc_eq (hkey : key.length = 16) (m : Bytes) (fuel : Nat) {k n : Nat}
    (hle : 16 * (k + n) ≤ m.length) (hfuel : n < fuel) :
    (aes key hkey).cbcLoop m (16 * (k + n)) fuel (16 * k) x =
      .ok (cbc key n x (m.drop (16 * k))) := by
  induction n generalizing k fuel x with
  | zero =>
    obtain ⟨fuel, rfl⟩ : ∃ f, fuel = f + 1 := ⟨fuel - 1, by omega⟩
    rw [BlockFunction.cbcLoop, if_neg (by omega)]
    rfl
  | succ n ih =>
    obtain ⟨fuel, rfl⟩ : ∃ f, fuel = f + 1 := ⟨fuel - 1, by omega⟩
    rw [BlockFunction.cbcLoop, if_pos (by omega), blockSize, slice_of_le (by omega) (by omega),
      ok_bind, cbc, drop_drop, Nat.add_sub_cancel_left]
    have hstep := ih fuel (k := k + 1)
      (x := (aes key hkey).encrypt (xorBlock x ((m.drop (16 * k)).take 16))) (by omega) (by omega)
    rw [show k + 1 + n = k + (n + 1) by omega, mul_add 16 k 1] at hstep
    rw [hstep, aes_encrypt, xorBlock_eq]

theorem aesCMAC_eq (hkey : key.length = 16) (m : Bytes) :
    (aes key hkey).aesCMAC m = .ok (aesCMAC key m) := by
  have hmask := (aes key hkey).maskLast_eq m
  have hstart : (BlockFunction.lastBlockOf m.length).1 = 16 * (blocks m - 1) := by
    rw [BlockFunction.lastBlockOf_eq]
  have hle : 16 * (0 + (blocks m - 1)) ≤ m.length := by
    rw [blocks]
    omega
  have hloop := cbc_eq hkey m (m.length + 1) (x := replicate blockSize 0) hle (by omega)
  rw [zero_add, mul_zero, drop_zero, ← hstart] at hloop
  have hL : (Aes.encrypt key (replicate 16 0)).length = 16 := Aes.length_encrypt hkey _
  have hk1 : (aes key hkey).generateSubkeys.1 = subkey (Aes.encrypt key (replicate 16 0)) := by
    rw [BlockFunction.generateSubkeys, aes_encrypt, blockSize, subkey_eq hL]
  have hk2 : (aes key hkey).generateSubkeys.2 =
      subkey (subkey (Aes.encrypt key (replicate 16 0))) := by
    rw [BlockFunction.generateSubkeys, aes_encrypt, blockSize, subkey_eq hL,
      subkey_eq (length_nextSubkey hL)]
  have hcomplete : (m.length ≠ 0 ∧ m.length % 16 = 0) ↔ (part m (blocks m - 1)).length = 16 := by
    rw [part, blocks, length_take, length_drop]
    omega
  have hlen : (part m (blocks m - 1)).length = m.length - 16 * (blocks m - 1) := by
    rw [BlockFunction.part_last, length_drop]
  have hblocks : blocks m = max 1 ((m.length + 15) / 16) := rfl
  simp only [BlockFunction.aesCMAC, hmask, ok_bind, hloop, hk1, hk2, aes_encrypt,
    xorBlock_eq, pure_eq, aesCMAC, hcomplete]
  by_cases hfull : (part m (blocks m - 1)).length = 16
  · simp only [if_pos hfull]
    rw [show m.length - 16 = 16 * (blocks m - 1) by omega, ← BlockFunction.part_last,
      Nat.mul_div_cancel_left _ (by decide), blockSize]
  · simp only [if_neg hfull]
    rw [show m.length - m.length % 16 = 16 * (blocks m - 1) by omega,
      ← BlockFunction.part_last, Nat.mul_div_cancel_left _ (by decide), blockSize, pad,
      show 15 - m.length % 16 = 15 - (part m (blocks m - 1)).length by omega]

end Nia

/-! ## 128-NIA2 -/

def nasInputBits (count : UInt32) (bearer dir : UInt8) : BitVec 64 :=
  count.toBitVec ++ bearer.toBitVec.extractLsb' 0 5 ++ dir.toBitVec.extractLsb' 0 1 ++ 0#26

theorem number_putUint32 (n : UInt32) : number (putUint32 n) = n.toNat := by
  have hlt := n.toNat_lt
  show 256 ^ 3 * (n.toNat >>> 24 % 256) + (256 ^ 2 * (n.toNat >>> 16 % 256) +
    (256 ^ 1 * (n.toNat >>> 8 % 256) + (256 ^ 0 * (n.toNat % 256) + 0))) = n.toNat
  omega

theorem nasInputBits_eq (count : UInt32) (bearer dir : UInt8) :
    number (nasInputHeader count bearer dir ++ [0, 0, 0]) =
      (nasInputBits count bearer dir).toNat := by
  have hoctet : ((bearer &&& 0x1F) <<< 3 ||| (dir &&& 0x01) <<< 2).toNat =
      (bearer.toNat % 32) * 8 + (dir.toNat % 2) * 4 := by
    show (bearer.toNat &&& (2 ^ 5 - 1)) <<< 3 % 2 ^ 8 |||
      (dir.toNat &&& (2 ^ 1 - 1)) <<< 2 % 2 ^ 8 = _
    have hb : (bearer.toNat % 2 ^ 5) * 2 ^ 3 % 2 ^ 8 = (bearer.toNat % 2 ^ 5) * 2 ^ 3 := by omega
    have hd : (dir.toNat % 2 ^ 1) * 2 ^ 2 % 2 ^ 8 = (dir.toNat % 2 ^ 1) * 2 ^ 2 := by omega
    rw [and_two_pow_sub_one_eq_mod, and_two_pow_sub_one_eq_mod, shiftLeft_eq,
      shiftLeft_eq, hb, hd, ← shiftLeft_eq _ 3, ← shiftLeft_add_eq_or_of_lt (by omega),
      shiftLeft_eq]
    norm_num
  rw [nasInputHeader, append_assoc, number_append, number_putUint32]
  simp only [nasInputBits, BitVec.toNat_append, BitVec.extractLsb'_toNat, shiftRight_zero]
  rw [← shiftLeft_add_eq_or_of_lt (by omega), ← shiftLeft_add_eq_or_of_lt (by omega),
    ← shiftLeft_add_eq_or_of_lt (mod_lt _ (by decide)), shiftLeft_eq, shiftLeft_eq, shiftLeft_eq]
  show 256 ^ 4 * count.toNat + (256 ^ 3 * _ + 0) =
    ((count.toNat * 2 ^ 5 + bearer.toNat % 2 ^ 5) * 2 ^ 1 + dir.toNat % 2 ^ 1) * 2 ^ 26 + 0
  omega

theorem number_take_four {t : Bytes} (h : t.length = 16) :
    BitVec.ofNat 32 (number (t.take 4)) = (block t).extractLsb' 96 32 := by
  have hsplit := number_append (t.take 4) (t.drop 4)
  have hlow := number_lt (t.drop 4)
  rw [take_append_drop] at hsplit
  rw [length_drop, h] at hlow hsplit
  apply BitVec.eq_of_toNat_eq
  rw [BitVec.extractLsb'_toNat, toNat_block h, hsplit, BitVec.toNat_ofNat, shiftRight_eq_div_pow]
  show _ = (2 ^ 96 * _ + _) / 2 ^ 96 % 2 ^ 32
  rw [mul_add_div (by decide), div_eq_of_lt (b := 2 ^ 96) hlow, add_zero]

/-- For every block function, `aesCMAC` comes to the code of RFC 4493 on every message, with
subkeys that are doubled in the field; and 128-NIA2 is the first 32 bits of that code under AES,
over the COUNT, the bearer, the direction and 26 zero bits in front of the message. -/
theorem integrity_is_cmac : (∀ (E : BlockFunction) (m : Bytes),
      ∃ t, E.aesCMAC m = .ok t ∧ t.length = 16 ∧ block t = mac E.onBits m) ∧
    (∀ E : BlockFunction, poly (subkey1 E.onBits) = .X * poly (E.onBits 0) %ₘ modulus ∧
      poly (subkey2 E.onBits) = .X * poly (subkey1 E.onBits) %ₘ modulus) ∧
    (∀ (key : Bytes) (hkey : key.length = 16) (count : UInt32) (bearer dir : UInt8) (m : Bytes),
      ∃ header mac, header.length = 8 ∧ number header = (nasInputBits count bearer dir).toNat ∧
        Nia.nia2 key count bearer dir m = .ok mac ∧ mac.length = 4 ∧ BitVec.ofNat 32 (number mac) =
          (Cmac.mac (aes key hkey).onBits (header ++ m)).extractLsb' 96 32) ∧
    ∀ (key : Bytes) (count : UInt32) (bearer dir : UInt8) (m : Bytes), key.length ≠ 16 →
      Nia.nia2 key count bearer dir m = .err (.new "nia2: key must be 128 bits") := by
  refine ⟨BlockFunction.aesCMAC_spec, fun E => ⟨poly_double _, poly_double _⟩, ?_,
    fun key count bearer dir m hkey => if_pos hkey⟩
  intro key hkey count bearer dir m
  refine ⟨nasInputHeader count bearer dir ++ [0, 0, 0], _, rfl, nasInputBits_eq count bearer dir,
    if_neg (not_not.2 hkey), ?_⟩
  obtain ⟨t, ht, hlen, hmac⟩ :=
    (aes key hkey).aesCMAC_spec (nasInputHeader count bearer dir ++ [0, 0, 0] ++ m)
  obtain rfl := ok.inj ((Nia.aesCMAC_eq hkey _).symm.trans ht)
  rw [number_take_four hlen, hmac]
  exact ⟨by rw [length_take, hlen]; rfl, rfl⟩

end Claudia5gc.Crypto
