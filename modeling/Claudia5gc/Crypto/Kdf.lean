import Claudia5gc.Go.Base64
import Claudia5gc.Go.Sha256

/-!
# Key derivation of the 5G key hierarchy

All keys are HMAC-SHA-256 over a function code and length-tagged parameters.
-/

namespace Claudia5gc.Crypto

open Go

def putUint16 (n : Nat) : Bytes := [UInt8.ofNat (n / 256), UInt8.ofNat n]

def putUint32 (n : UInt32) : Bytes :=
  [(n >>> 24).toUInt8, (n >>> 16).toUInt8, (n >>> 8).toUInt8, n.toUInt8]

def derive (key s : Bytes) : Bytes := Sha256.hmac key s

/-- `buildS`: the function code, and each parameter followed by its length. -/
def buildS (fc : UInt8) (params : List Bytes) : Bytes :=
  fc :: params.flatMap fun p => p ++ putUint16 p.length

def kausf (ck ik : Bytes) (snName : String) (sqnXorAK : Bytes) : Bytes :=
  derive (ck ++ ik) (buildS 0x6A [stringBytes snName, sqnXorAK])

def kseaf (kausf : Bytes) (snName : String) : Bytes :=
  derive kausf (buildS 0x6C [stringBytes snName])

def kamf (kseaf : Bytes) (supi : String) (abba : Bytes) : Bytes :=
  derive kseaf (buildS 0x6D [stringBytes supi, abba])

def algDistNASEnc : UInt8 := 0x01
def algDistNASInt : UInt8 := 0x02
def algDistRRCEnc : UInt8 := 0x03
def algDistRRCInt : UInt8 := 0x04
def algDistUPEnc : UInt8 := 0x05
def algDistUPInt : UInt8 := 0x06

variable (kamf : Bytes)

def knasint (algID : UInt8) : Bytes :=
  (derive kamf (buildS 0x69 [[algDistNASInt], [algID]])).drop 16

def knasenc (algID : UInt8) : Bytes :=
  (derive kamf (buildS 0x69 [[algDistNASEnc], [algID]])).drop 16

theorem length_knasint (algID : UInt8) : (knasint kamf algID).length = 16 := by
  simp [knasint, derive]

theorem length_knasenc (algID : UInt8) : (knasenc kamf algID).length = 16 := by
  simp [knasenc, derive]

def knh (kamf synchInput : Bytes) : Bytes := derive kamf (buildS 0x6F [synchInput])

def kgnb (nasCount : UInt32) (accessType : UInt8) : Bytes :=
  derive kamf (buildS 0x6E [putUint32 nasCount, [accessType]])

def xresStar (ck ik : Bytes) (snName : String) (rand : Vector UInt8 16) (xres : Bytes) : Bytes :=
  (derive (ck ++ ik) (buildS 0x6B [stringBytes snName, rand.toList, xres])).drop 16

/-- `HRESStar`: the lower half of SHA-256 over RAND and XRES*. -/
def hresStar (rand : Vector UInt8 16) (xresStar : Bytes) : Bytes :=
  (Sha256.sum (rand.toList ++ xresStar)).drop 16

end Claudia5gc.Crypto
