import Claudia5gc.Crypto.Kdf

/-!
# EAP-AKA'

The key hierarchy of the method and the codec of its packets, from the server's
side: the challenge is built, and the response is checked for its length, its
AT_MAC and its AT_RES.
-/

namespace Claudia5gc.Crypto.EapAka

open Go

/-! ## Keys -/

def deriveCKPrimeIKPrime (ck ik : Bytes) (snName : String) (sqnXorAK : Bytes) : Bytes × Bytes :=
  let out := derive (ck ++ ik) (buildS 0x20 [stringBytes snName, sqnXorAK])
  (out.take 16, (out.drop 16).take 16)

/-- The loop of `PRFPrime`.  Each turn appends a block, so `outLen` turns are enough
to reach `outLen` octets. -/
def prfLoop (key s : Bytes) (outLen : Nat) : Nat → UInt8 → Bytes → Bytes → Bytes
  | 0, _, _, out => out
  | fuel + 1, i, prev, out =>
    if out.length < outLen then
      let prev := Sha256.hmac key (prev ++ s ++ [i])
      prfLoop key s outLen fuel (i + 1) prev (out ++ prev)
    else
      out

def prfPrime (key s : Bytes) (outLen : Nat) : Bytes :=
  (prfLoop key s outLen outLen 1 [] []).take outLen

/-- The keys the AUSF uses; K_encr, K_re and MSK are skipped over. -/
structure Keys where
  kAut : Bytes
  emsk : Bytes

def deriveKeys (ckPrime ikPrime : Vector UInt8 16) (identity : String) : Keys :=
  let mk := prfPrime (ikPrime.toList ++ ckPrime.toList)
    (stringBytes "EAP-AKA'" ++ stringBytes identity) 208
  { kAut := (mk.drop 16).take 32, emsk := (mk.drop 144).take 64 }

def kausfFromEMSK (emsk : Bytes) : Bytes := emsk.take 32

/-! ## Packets -/

def codeRequest : UInt8 := 1
def codeResponse : UInt8 := 2
def codeSuccess : UInt8 := 3
def codeFailure : UInt8 := 4
def typeEAPAKAPrime : UInt8 := 50
def subtypeAKAChallenge : UInt8 := 1
def atRAND : UInt8 := 1
def atAUTN : UInt8 := 2
def atRES : UInt8 := 3
def atMAC : UInt8 := 11
def atKDFInput : UInt8 := 23
def atKDF : UInt8 := 24
def macLen : Nat := 16
def headerLen : Nat := 8

/-- `encodeAttr`: type, length in units of four octets, value padded with zeros. -/
def encodeAttr (typ : UInt8) (value : Bytes) : Bytes :=
  let pad := (2 + value.length) % 4
  let value := if pad ≠ 0 then value ++ List.replicate (4 - pad) 0 else value
  typ :: UInt8.ofNat ((2 + value.length) / 4) :: value

def fixedAttr (typ : UInt8) (data : Bytes) : Bytes := encodeAttr typ (0 :: 0 :: data)

def resAttr (res : Bytes) : Bytes := encodeAttr atRES (putUint16 (res.length * 8) ++ res)

def kdfInputAttr (networkName : String) : Bytes :=
  let name := stringBytes networkName
  encodeAttr atKDFInput (putUint16 name.length ++ name)

def kdfAttr (id : Nat) : Bytes := encodeAttr atKDF (putUint16 id)

def frame (code identifier subtype : UInt8) (attrs : Bytes) : Bytes :=
  [code, identifier] ++ putUint16 (headerLen + attrs.length) ++
    [typeEAPAKAPrime, subtype, 0, 0] ++ attrs

def findAttrFrom (pkt : Bytes) (typ : UInt8) : Nat → Nat → Option Nat
  | 0, _ => none
  | fuel + 1, off =>
    if off + 2 ≤ pkt.length then
      let aLen := (pkt.getD (off + 1) 0).toNat * 4
      if aLen = 0 ∨ pkt.length < off + aLen then none
      else if pkt.getD off 0 = typ then some off
      else findAttrFrom pkt typ fuel (off + aLen)
    else
      none

/-- `findAttr`.  Each turn moves on by at least four octets. -/
def findAttr (pkt : Bytes) (typ : UInt8) : Option Nat :=
  if pkt.length < headerLen then none else findAttrFrom pkt typ pkt.length headerLen

def computeMAC (pkt kAut : Bytes) : Bytes := (Sha256.hmac kAut pkt).take macLen

def insertMAC (pkt kAut : Bytes) : Bytes :=
  match findAttr pkt atMAC with
  | none => pkt
  | some off =>
    pkt.take (off + 4) ++ computeMAC pkt kAut ++ pkt.drop (off + 4 + macLen)

variable (identifier : UInt8)

def buildChallenge (rand autn : Vector UInt8 16) (networkName : String) (kAut : Bytes) : Bytes :=
  let attrs := fixedAttr atRAND rand.toList ++ fixedAttr atAUTN autn.toList ++ kdfAttr 1 ++
    kdfInputAttr networkName ++ fixedAttr atMAC (List.replicate macLen 0)
  insertMAC (frame codeRequest identifier subtypeAKAChallenge attrs) kAut

def buildResponse (res kAut : Bytes) : Bytes :=
  let attrs := resAttr res ++ fixedAttr atMAC (List.replicate macLen 0)
  insertMAC (frame codeResponse identifier subtypeAKAChallenge attrs) kAut

def buildSuccess : Bytes := [codeSuccess, identifier, 0, 4]

def buildFailure : Bytes := [codeFailure, identifier, 0, 4]

def verifyMAC (pkt kAut : Bytes) : Bool :=
  match findAttr pkt atMAC with
  | none => false
  | some off =>
    if pkt.length < off + 4 + macLen then false
    else
      let got := (pkt.drop (off + 4)).take macLen
      let clone := pkt.take (off + 4) ++ List.replicate macLen 0 ++ pkt.drop (off + 4 + macLen)
      got == computeMAC clone kAut

/-- `ExtractRES`; `none` is an error.  The bit count is rounded up in sixteen bits. -/
def extractRES (pkt : Bytes) : Option Bytes :=
  match findAttr pkt atRES with
  | none => none
  | some off =>
    if pkt.length < off + 4 then none
    else
      let bits := (pkt.getD (off + 2) 0).toUInt16 <<< 8 ||| (pkt.getD (off + 3) 0).toUInt16
      let n := ((bits + 7) / 8).toNat
      if pkt.length < off + 4 + n then none else some ((pkt.drop (off + 4)).take n)

def validate (pkt : Bytes) : Option String :=
  if pkt.length < 4 then some "eapaka: packet too short"
  else
    let declared := (pkt.getD 2 0).toNat * 256 + (pkt.getD 3 0).toNat
    if declared ≠ pkt.length then
      some s!"eapaka: length mismatch: header={declared} actual={pkt.length}"
    else
      none

end Claudia5gc.Crypto.EapAka
