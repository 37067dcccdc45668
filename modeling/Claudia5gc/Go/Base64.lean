import Claudia5gc.Go.Outcome

/-!
# Base64 text and the octets of a string

`base64.StdEncoding`.  Line breaks are skipped when decoding, as the package
documents.
-/

namespace Claudia5gc.Go

def stringBytes (s : String) : Bytes := s.toUTF8.data.toList

def base64Alphabet : List Char :=
  "ABCDEFGHIJKLMNOPQRSTUVWXYZabcdefghijklmnopqrstuvwxyz0123456789+/".toList

def base64Digit (n : Nat) : Char := base64Alphabet.getD (n % 64) 'A'

def fromBase64Char (c : Char) : Option Nat :=
  let i := base64Alphabet.idxOf c
  if i < 64 then some i else none

def base64EncodeChars : Bytes → List Char
  | [] => []
  | [a] =>
    let n := a.toNat * 2 ^ 16
    [base64Digit (n / 2 ^ 18), base64Digit (n / 2 ^ 12), '=', '=']
  | [a, b] =>
    let n := a.toNat * 2 ^ 16 + b.toNat * 2 ^ 8
    [base64Digit (n / 2 ^ 18), base64Digit (n / 2 ^ 12), base64Digit (n / 2 ^ 6), '=']
  | a :: b :: c :: rest =>
    let n := a.toNat * 2 ^ 16 + b.toNat * 2 ^ 8 + c.toNat
    base64Digit (n / 2 ^ 18) :: base64Digit (n / 2 ^ 12) :: base64Digit (n / 2 ^ 6) ::
      base64Digit n :: base64EncodeChars rest

def base64Encode (b : Bytes) : String := String.ofList (base64EncodeChars b)

/-- Groups of four characters; only the last group may be padded. -/
def base64DecodeChars : List Char → Option Bytes
  | [] => some []
  | [a, b, '=', '='] => do
    let n := (← fromBase64Char a) * 2 ^ 18 + (← fromBase64Char b) * 2 ^ 12
    return [UInt8.ofNat (n / 2 ^ 16)]
  | [a, b, c, '='] => do
    let n := (← fromBase64Char a) * 2 ^ 18 + (← fromBase64Char b) * 2 ^ 12 +
      (← fromBase64Char c) * 2 ^ 6
    return [UInt8.ofNat (n / 2 ^ 16), UInt8.ofNat (n / 2 ^ 8)]
  | a :: b :: c :: d :: rest => do
    let n := (← fromBase64Char a) * 2 ^ 18 + (← fromBase64Char b) * 2 ^ 12 +
      (← fromBase64Char c) * 2 ^ 6 + (← fromBase64Char d)
    let bs ← base64DecodeChars rest
    return UInt8.ofNat (n / 2 ^ 16) :: UInt8.ofNat (n / 2 ^ 8) :: UInt8.ofNat n :: bs
  | _ => none

def base64Decode (s : String) : Option Bytes :=
  base64DecodeChars (s.toList.filter fun c => c != '\n' && c != '\r')

end Claudia5gc.Go
