import Claudia5gc.Go.Aes
import Claudia5gc.Go.Hex

/-!
# Milenage

The authentication functions of the subscriber's key.  Every function is AES under
that key over the challenge and the operator's constant; they differ in a rotation
and in a mask.
-/

namespace Claudia5gc.Crypto.Milenage

open Go

def rotR : List Nat := [64, 0, 32, 64, 96]

def applyConst (c : UInt8) : Bytes := List.replicate 15 0 ++ [c]

def rotateTowardMSB128 (x : Bytes) (n : Nat) : Bytes :=
  let byteShift := n % 128 / 8
  let bitShift := UInt8.ofNat (n % 8)
  (List.range 16).map fun i =>
    let src := (i + byteShift) % 16
    let high := x.getD src 0 >>> bitShift
    if 0 < bitShift then high ||| (x.getD ((src + 1) % 16) 0 <<< (8 - bitShift)) else high

def temp (k opc rand : Bytes) : Bytes := Aes.encrypt k (Aes.xor rand opc)

/-- The block of f2 to f5 and f5*, for the rotation `r` and the mask `c`. -/
def out (k opc rand : Bytes) (r : Nat) (c : UInt8) : Bytes :=
  let rot := rotateTowardMSB128 (Aes.xor (temp k opc rand) opc) (rotR.getD r 0)
  Aes.xor (Aes.encrypt k (Aes.xor rot (applyConst c))) opc

def computeOut1 (k opc rand sqn amf : Bytes) : Bytes :=
  let in1 := sqn ++ amf ++ sqn ++ amf
  let rot := rotateTowardMSB128 (Aes.xor (Aes.xor in1 opc) (applyConst 0)) (rotR.getD 0 0)
  Aes.xor (Aes.encrypt k (Aes.xor rot (temp k opc rand))) opc

/-- `AV` without the challenge, with the anonymity key. -/
structure AV where
  xres : Bytes
  autn : Bytes
  ck : Bytes
  ik : Bytes
  ak : Bytes

def generateAV (k opc rand sqn amf : Bytes) : AV :=
  let macA := (computeOut1 k opc rand sqn amf).take 8
  let out2 := out k opc rand 1 1
  let ak := out2.take 6
  { xres := (out2.drop 8).take 8
    autn := Aes.xor sqn ak ++ amf ++ macA
    ck := out k opc rand 2 2
    ik := out k opc rand 3 4
    ak := ak }

def computeMACS (k opc rand sqnMS amf : Bytes) : Bytes :=
  ((computeOut1 k opc rand sqnMS amf).drop 8).take 8

def verifyMACS (k opc rand sqnMS macS : Bytes) : Bool :=
  computeMACS k opc rand sqnMS [0, 0] == macS

def f5Star (k opc rand : Bytes) : Bytes := (out k opc rand 4 8).take 6

def sqnFromAUTS (auts : Vector UInt8 14) (akStar : Bytes) : Vector UInt8 6 :=
  Vector.ofFn fun i => auts[i] ^^^ akStar.getD i 0

section TestSet1

def set1K : Bytes := (hexDecode "465b5ce8b199b49faa5f0a2ee238a6bc").1
def set1OPc : Bytes := (hexDecode "cd63cb71954a9f4e48a5994e37a02baf").1
def set1RAND : Bytes := (hexDecode "23553cbe9637a89d218ae64dae47bf35").1
def set1SQN : Bytes := (hexDecode "ff9bb4d0b607").1

-- `TestSet1_GenerateAV`, `TestSet1_ComputeMACS` and `TestSet1_F5Star`
example : hexEncode (generateAV set1K set1OPc set1RAND set1SQN [0xb9, 0xb9]).xres =
    "a54211d5e3ba50bf" := by decide +kernel

example : hexEncode (computeMACS set1K set1OPc set1RAND set1SQN [0xb9, 0xb9]) =
    "01cfaf9ec4e871e9" := by decide +kernel

example : hexEncode (f5Star set1K set1OPc set1RAND) = "451e8beca43b" := by decide +kernel

end TestSet1

end Claudia5gc.Crypto.Milenage
