import Claudia5gc.Crypto.Kdf
import Claudia5gc.Go.Aes
import Claudia5gc.Go.Hex

/-!
# NAS security algorithms

128-NIA2, the integrity algorithm, is AES-CMAC cut to four octets; 128-NEA2, the
ciphering algorithm, is AES in counter mode.  Both start from the COUNT, the bearer
and the direction, and both refuse a key that is not sixteen octets long.
-/

namespace Claudia5gc.Crypto

open Go List

def nasInputHeader (count : UInt32) (bearer dir : UInt8) : Bytes :=
  putUint32 count ++ [((bearer &&& 0x1F) <<< 3) ||| ((dir &&& 0x01) <<< 2)]

/-! ## NIA2 -/

namespace Nia

def shiftLeft1 : Bytes → Bytes
  | [] => []
  | [b] => [b <<< 1]
  | b :: c :: bs => ((b <<< 1) ||| (c >>> 7)) :: shiftLeft1 (c :: bs)

def subkey (block : Bytes) : Bytes :=
  let shifted := shiftLeft1 block
  if block.headD 0 &&& 0x80 ≠ 0 then
    Aes.xor shifted (replicate 15 0 ++ [0x87])
  else
    shifted

def cbc (key : Bytes) : Nat → Bytes → Bytes → Bytes
  | 0, x, _ => x
  | blocks + 1, x, data =>
    cbc key blocks (Aes.encrypt key (Aes.xor x (data.take 16))) (data.drop 16)

/-- `aesCMAC`. -/
def aesCMAC (key data : Bytes) : Bytes :=
  let k1 := subkey (Aes.encrypt key (replicate 16 0))
  let n := data.length
  let complete := n ≠ 0 ∧ n % 16 = 0
  let lastCompleteBlock := if complete then n - 16 else n - n % 16
  let last := data.drop lastCompleteBlock
  let lastBlock :=
    if complete then Aes.xor last k1
    else Aes.xor (last ++ 0x80 :: replicate (15 - n % 16) 0) (subkey k1)
  let x := cbc key (lastCompleteBlock / 16) (replicate 16 0) data
  Aes.encrypt key (Aes.xor x lastBlock)

def nia2 (key : Bytes) (count : UInt32) (bearer dir : UInt8) (message : Bytes) : Outcome Bytes :=
  if key.length ≠ 16 then .err (.new "nia2: key must be 128 bits")
  else .ok ((aesCMAC key (nasInputHeader count bearer dir ++ [0, 0, 0] ++ message)).take 4)

theorem nia2_ok {key : Bytes} (hkey : key.length = 16) (count : UInt32) (bearer dir : UInt8)
    (message : Bytes) : ∃ mac, nia2 key count bearer dir message = .ok mac :=
  ⟨_, if_neg (not_not.mpr hkey)⟩

theorem length_of_nia2 {key : Bytes} {count : UInt32} {bearer dir : UInt8} {message mac : Bytes}
    (h : nia2 key count bearer dir message = .ok mac) : mac.length = 4 := by
  unfold nia2 at h
  split at h
  · cases h
  · next hkey =>
    obtain rfl := Outcome.ok.inj h
    rw [length_take, aesCMAC, Aes.length_encrypt (not_not.mp hkey)]
    rfl

def verify (key : Bytes) (count : UInt32) (bearer dir : UInt8) (message mac : Bytes) :
    Outcome Bool := do
  let expected ← nia2 key count bearer dir message
  return expected == mac

-- `TestNIA2_KnownVector`
example : nia2 (hexDecode "d3c5d592327fb11c4035c6680af8c6d1").1 0x398a59b4 0x1a 0x01
    (hexDecode "484583d5afe082ae").1 = .ok (hexDecode "b93787e6").1 := by
  decide +kernel

end Nia

/-! ## NEA2 -/

namespace Nea

def nea2 (key : Bytes) (count : UInt32) (bearer dir : UInt8) (message : Bytes) : Outcome Bytes :=
  if key.length ≠ 16 then .err (.new "nea2: key must be 128 bits")
  else .ok (Aes.ctr key (nasInputHeader count bearer dir ++ replicate 11 0) message)

theorem nea2_nea2 {key : Bytes} {count : UInt32} {bearer dir : UInt8} {message ciphered : Bytes}
    (h : nea2 key count bearer dir message = .ok ciphered) :
    nea2 key count bearer dir ciphered = .ok message := by
  unfold nea2 at h ⊢
  split at h
  · cases h
  · next hkey =>
    obtain rfl := Outcome.ok.inj h
    rw [if_neg hkey, Aes.ctr_ctr (not_not.mp hkey)]

-- `TestNEA2_MaxBearer`
example : nea2 (hexDecode "2bd6459f82c5b300952c49104881ff48").1 0xFFFFFFFF 0x1F 0x01
    (hexDecode "deadbeefcafebabe").1 = .ok (hexDecode "08aff0d9082cf1dd").1 := by
  decide +kernel

end Nea

end Claudia5gc.Crypto
