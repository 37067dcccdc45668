import Claudia5gc.Crypto.AesCmac
import Claudia5gc.Ctr
import Claudia5gc.Go.Decimal

/-!
# The concealed identifier

The SUCI as the UDM reads it from text, and Profile A of ECIES: the UE's ephemeral public key, the
digits of the MSIN under a counter mode written by hand, and a tag of eight octets.  X25519,
SHA-256, HMAC and AES are parameters.
-/

namespace Claudia5gc.Crypto.Suci

open Go List Cmac Outcome

abbrev Profile := UInt8

def profileNull : Profile := 0
def profileA : Profile := 1

structure SUCI where
  supiFormat : UInt8 := 0
  mcc : String := ""
  mnc : String := ""
  routingIndicator : String := ""
  protectionScheme : Profile
  homeNetworkPublicKeyID : UInt8 := 0
  schemeOutput : Bytes
  deriving DecidableEq

structure DeconceaResult where
  msin : String
  supi : String
  deriving DecidableEq

/-! ## The text -/

def splitN (sep : Char) : Nat → List Char → List (List Char)
  | 0, _ => []
  | 1, s => [s]
  | n + 2, s =>
    match s.dropWhile (· ≠ sep) with
    | [] => [s]
    | _ :: rest => s.takeWhile (· ≠ sep) :: splitN sep (n + 1) rest

/-- The loop of `strconv.ParseUint` in base ten, for numbers up to `max`. -/
def parseDigits (max n : Nat) : List Char → Except Error Nat
  | [] => .ok n
  | c :: cs =>
    if ¬c.isDigit then .error (.sentinel "invalid syntax")
    else if max < n * 10 + (c.toNat - 48) then .error (.sentinel "value out of range")
    else parseDigits max (n * 10 + (c.toNat - 48)) cs

def parseUint8 (s : List Char) : Except Error Nat :=
  let failed := Error.wrap ("strconv.ParseUint: parsing " ++ (String.ofList s).quote)
  if s = [] then .error (failed (.sentinel "invalid syntax"))
  else (parseDigits 255 0 s).mapError failed

/-- `ParseSUCIString`.  What `hex` says of a scheme output is left out. -/
def parseSUCIString (s : String) : Except Error SUCI :=
  if ¬"suci-".toList.isPrefixOf s.toList then .error (.new ("suci: not a SUCI: " ++ s.quote))
  else
    match splitN '-' 6 s.toList with
    | [_, encoded, routingIndicator, _, psi, output] =>
      if encoded.length < 5 ∨ 6 < encoded.length then
        .error (.new ("suci: MCC+MNC field must be 5 or 6 chars, got " ++
          (String.ofList encoded).quote))
      else
        match parseUint8 psi with
        | .error e =>
          .error (.wrap ("suci: protection scheme " ++ (String.ofList psi).quote) e)
        | .ok psi =>
          match hexDecodeChars output with
          | (_, true) => .error (.new ("suci: scheme output " ++ (String.ofList output).quote ++
              " is not valid hex"))
          | (schemeOutput, false) => .ok {
              supiFormat := 0
              mcc := String.ofList (encoded.take 3)
              mnc := String.ofList (encoded.drop 3)
              routingIndicator := String.ofList routingIndicator
              protectionScheme := UInt8.ofNat psi
              schemeOutput }
    | _ => .error (.new
        ("suci: invalid format (need 6 dash-separated fields): " ++ s.quote))

theorem splitN_append {sep : Char} {a : List Char} (ha : sep ∉ a) (n : Nat) (rest : List Char) :
    splitN sep (n + 2) (a ++ sep :: rest) = a :: splitN sep (n + 1) rest := by
  have hne : ∀ c ∈ a, decide (c ≠ sep) = true := fun c hc =>
    decide_eq_true fun h => ha (h ▸ hc)
  have hdrop : (a ++ sep :: rest).dropWhile (· ≠ sep) = sep :: rest := by
    rw [dropWhile_append_of_pos hne, dropWhile_cons_of_neg (by simp)]
  have htake : (a ++ sep :: rest).takeWhile (· ≠ sep) = a := by
    rw [takeWhile_append_of_pos hne, takeWhile_cons_of_neg (by simp), append_nil]
  rw [splitN, hdrop, htake]

/-! ## Digits -/

def encodeBCDLoop : Nat → Bytes → List Char → Bytes
  | _, out, [] => out
  | i, out, c :: digits =>
    let d := UInt8.ofNat c.toNat - 0x30
    encodeBCDLoop (i + 1)
      (if i % 2 = 0 then out.set (i / 2) d else out.modify (i / 2) (· ||| d <<< 4)) digits

def encodeBCDLowNibbleFirst (digits : String) : Bytes :=
  let n := digits.toList.length
  let out := encodeBCDLoop 0 (replicate ((n + 1) / 2) 0) digits.toList
  if n % 2 = 1 then out.modify (out.length - 1) (· ||| 0xF0) else out

def decodeBCDLowNibbleFirst (b : Bytes) : String :=
  digitString (b.flatMap fun (byt : UInt8) =>
    let high := (byt >>> 4) &&& 0x0F
    [byt &&& 0x0F] ++ if high ≠ 0x0F then [high] else [])

def buildSUPI (s : SUCI) (msin : String) : String :=
  if s.supiFormat = 0 then "imsi-" ++ s.mcc ++ s.mnc ++ msin else msin

/-- The octets of a string of digits, two at a time. -/
def pairs : List UInt8 → Bytes
  | [] => []
  | [d] => [d ||| 0xF0]
  | d :: d' :: ds => (d ||| d' <<< 4) :: pairs ds

theorem digit_of_digitChar {d : UInt8} (h : d < 10) :
    UInt8.ofNat (digitChar d).toNat - 0x30 = d := by
  rw [toNat_digitChar h, UInt8.ofNat_add, UInt8.ofNat_toNat, UInt8.add_comm]
  exact UInt8.add_sub_cancel d 0x30

theorem modify_length {α : Type} (pre : List α) (a : α) (post : List α) (f : α → α) :
    (pre ++ a :: post).modify pre.length f = pre ++ f a :: post := by
  induction pre with
  | nil => rfl
  | cons b pre ih => rw [cons_append, length_cons, modify_succ_cons, ih]; rfl

/-- Two turns of the loop fill an octet, and a digit that is left half of one. -/
theorem encodeBCDLoop_eq (ds : List UInt8) : Decimal ds → ∀ pre : Bytes,
    let out := encodeBCDLoop (2 * pre.length) (pre ++ replicate ((ds.length + 1) / 2) 0)
      (ds.map digitChar)
    (if ds.length % 2 = 1 then out.modify (out.length - 1) (· ||| 0xF0) else out) =
      pre ++ pairs ds := by
  induction ds using pairs.induct with
  | case1 =>
    intro _ pre
    rfl
  | case2 d =>
    intro hds pre
    have hd := digit_of_digitChar (hds d mem_cons_self)
    have hhalf : 2 * pre.length / 2 = pre.length := by omega
    have hfill := modify_length pre d [] (· ||| 0xF0)
    simpa [encodeBCDLoop, hd, hhalf, pairs] using hfill
  | case3 d d' ds ih =>
    intro hds pre
    have hd := digit_of_digitChar (hds d mem_cons_self)
    have hd' := digit_of_digitChar (hds d' (by simp))
    have hrest := ih (fun e he => hds e (by simp [he])) (pre ++ [d ||| d' <<< 4])
    have hhalf : 2 * pre.length / 2 = pre.length := by omega
    have hhalf' : (2 * pre.length + 1) / 2 = pre.length := by omega
    have hlen : (ds.length + 1 + 1 + 1) / 2 = (ds.length + 1) / 2 + 1 := by omega
    have hodd : (ds.length + 1 + 1) % 2 = ds.length % 2 := by omega
    have hnext : 2 * pre.length + 1 + 1 = 2 * (pre ++ [d ||| d' <<< 4]).length := by simp; omega
    have heven : 2 * pre.length % 2 = 0 := by omega
    have hset : (pre ++ 0 :: replicate ((ds.length + 1) / 2) 0).set pre.length d =
        pre ++ d :: replicate ((ds.length + 1) / 2) 0 := by simp
    simp only [map_cons, length_cons, encodeBCDLoop, hd, hd', hhalf, hhalf', hlen, hodd,
      replicate_succ, heven, if_true, hset, modify_length, hnext,
      show ¬(2 * pre.length + 1) % 2 = 0 by omega, if_false]
    simpa [pairs] using hrest

theorem encodeBCDLowNibbleFirst_digitString {ds : List UInt8} (h : Decimal ds) :
    encodeBCDLowNibbleFirst (digitString ds) = pairs ds := by
  have hloop := encodeBCDLoop_eq ds h []
  simpa [encodeBCDLowNibbleFirst, digitString] using hloop

theorem decodeBCDLowNibbleFirst_pairs {ds : List UInt8} (h : Decimal ds) :
    decodeBCDLowNibbleFirst (pairs ds) = digitString ds := by
  have hpair : ∀ {d d' : UInt8}, d < 10 → d' < 10 → (d ||| d' <<< 4) &&& 0x0F = d ∧
      ((d ||| d' <<< 4) >>> 4) &&& 0x0F = d' ∧ d' ≠ 0x0F := by
    intro d d' hd hd'
    have hall : ∀ m < 10, ∀ n < 10, let d := UInt8.ofNat m; let d' := UInt8.ofNat n
        (d ||| d' <<< 4) &&& 0x0F = d ∧ ((d ||| d' <<< 4) >>> 4) &&& 0x0F = d' ∧ d' ≠ 0x0F := by
      decide
    simpa using hall d.toNat (toNat_lt_ten hd) d'.toNat (toNat_lt_ten hd')
  have hlast : ∀ {d : UInt8}, d < 10 → (d ||| 0xF0) &&& 0x0F = d ∧
      ((d ||| 0xF0) >>> 4) &&& 0x0F = 0x0F := by
    intro d hd
    have hall : ∀ n < 10, let d := UInt8.ofNat n
        (d ||| 0xF0) &&& 0x0F = d ∧ ((d ||| 0xF0) >>> 4) &&& 0x0F = 0x0F := by decide
    simpa using hall d.toNat (toNat_lt_ten hd)
  unfold decodeBCDLowNibbleFirst
  congr 1
  induction ds using pairs.induct with
  | case1 => rfl
  | case2 d =>
    obtain ⟨hlow, hhigh⟩ := hlast (h d mem_cons_self)
    simp [pairs, hlow, hhigh]
  | case3 d d' ds ih =>
    obtain ⟨hlow, hhigh, hne⟩ := hpair (h d mem_cons_self) (h d' (by simp))
    have hrest := ih fun e he => h e (by simp [he])
    simp only [pairs, flatMap_cons, hlow, hhigh, if_pos hne, hrest]
    rfl

/-! ## The counter mode -/

structure CtrStream where
  counter : Bytes
  keystream : Bytes

def newCTR (iv : Bytes) : CtrStream := ⟨iv, []⟩

def encryptCounter (block : BlockFunction) (counter : Bytes) : Outcome Bytes :=
  if counter.length < 16 then .panic
  else .ok (block.encrypt (counter.take 16) ++ replicate (counter.length - 16) 0)

namespace CtrStream

/-- The first statement of the loop: a new block of the keystream when the last is used up. -/
def refill (block : BlockFunction) (c : CtrStream) : Outcome CtrStream :=
  if c.keystream.length = 0 then do
    let keystream ← encryptCounter block c.counter
    return ⟨Ctr.increment c.counter, keystream⟩
  else .ok c

def xorKeyStream (block : BlockFunction) (c : CtrStream) : Bytes → Outcome (Bytes × CtrStream)
  | [] => .ok ([], c)
  | b :: src => do
    let c ← c.refill block
    let k ← index c.keystream 0
    let (dst, c) ← xorKeyStream block { c with keystream := c.keystream.drop 1 } src
    return ((b ^^^ k) :: dst, c)

end CtrStream

section Stream

variable (block : BlockFunction) (iv : BitVec 128)

structure Reached (i : Nat) (c : CtrStream) : Prop where
  counter : c.counter = octets (iv + BitVec.ofNat 128 ((i + 15) / 16))
  keystream : c.keystream = if i % 16 = 0 then []
    else (block.encrypt (octets (iv + BitVec.ofNat 128 (i / 16)))).drop (i % 16)

variable {block iv}

theorem reached_newCTR (block : BlockFunction) {iv : Bytes} (h : iv.length = 16) :
    Reached block (Cmac.block iv) 0 (newCTR iv) where
  counter := by simp [newCTR, Cmac.octets_block h]
  keystream := rfl

theorem Reached.refill {i : Nat} {c : CtrStream} (h : Reached block iv i c) :
    c.refill block = .ok ⟨octets (iv + BitVec.ofNat 128 ((i + 1 + 15) / 16)),
      (block.encrypt (octets (iv + BitVec.ofNat 128 (i / 16)))).drop (i % 16)⟩ := by
  obtain ⟨counter, keystream⟩ := c
  obtain ⟨rfl, rfl⟩ := h
  have hlen := block.length_encrypt (octets (iv + BitVec.ofNat 128 (i / 16)))
  unfold CtrStream.refill
  by_cases hi : i % 16 = 0
  · have hnow : (i + 15) / 16 = i / 16 := by omega
    have hnext : (i + 1 + 15) / 16 = i / 16 + 1 := by omega
    have hwhole : (octets (iv + BitVec.ofNat 128 (i / 16))).take 16 =
        octets (iv + BitVec.ofNat 128 (i / 16)) := take_of_length_le (by simp)
    simp only [hi, hnow, hnext, if_true, length_nil, encryptCounter, length_octets,
      Nat.lt_irrefl, if_false, Nat.sub_self, replicate_zero, append_nil, hwhole,
      ok_bind, Ctr.increment_octets, drop_zero]
    rw [BitVec.add_assoc, BitVec.ofNat_add]
    rfl
  · have hnext : (i + 1 + 15) / 16 = (i + 15) / 16 := by omega
    rw [if_neg hi, hnext, if_neg (by rw [length_drop, hlen]; omega)]

theorem Reached.next {i : Nat} {c : CtrStream} (h : Reached block iv i c) :
    ∃ c', c.refill block = .ok c' ∧ index c'.keystream 0 = .ok (Ctr.keystream block.encrypt iv i) ∧
      Reached block iv (i + 1) { c' with keystream := c'.keystream.drop 1 } := by
  have hlen := block.length_encrypt (octets (iv + BitVec.ofNat 128 (i / 16)))
  refine ⟨_, h.refill, ?_, rfl, ?_⟩
  · rw [index_of_lt (by rw [length_drop, hlen]; omega), Ctr.keystream,
      getD_eq_getElem _ _ (by rw [hlen]; omega)]
    simp
  · rw [drop_drop]
    by_cases hlast : (i + 1) % 16 = 0
    · rw [if_pos hlast]
      exact drop_eq_nil_of_le (by rw [hlen]; omega)
    · rw [if_neg hlast, show (i + 1) / 16 = i / 16 by omega,
        show (i + 1) % 16 = i % 16 + 1 by omega]

theorem Reached.xorKeyStream {i : Nat} {c : CtrStream} (h : Reached block iv i c) (src : Bytes) :
    ∃ c', c.xorKeyStream block src = .ok (Ctr.xorFrom block.encrypt iv i src, c') := by
  induction src generalizing i c with
  | nil => exact ⟨c, rfl⟩
  | cons b src ih =>
    obtain ⟨c₁, hrefill, hindex, hnext⟩ := h.next
    obtain ⟨c', hrest⟩ := ih hnext
    refine ⟨c', ?_⟩
    rw [CtrStream.xorKeyStream, hrefill, ok_bind, hindex, ok_bind, hrest]
    rfl

end Stream

/-! ## Profile A -/

/-- What Profile A is built of. -/
structure Primitives where
  sha256 : Bytes → Bytes
  hmac : Bytes → Bytes → Bytes
  aes : Bytes → BlockFunction
  x25519 : Bytes → Bytes → Except Error Bytes
  length_sha256 : ∀ m, (sha256 m).length = 32
  length_hmac : ∀ key m, (hmac key m).length = 32
  length_x25519 : ∀ {scalar point q}, x25519 scalar point = .ok q → q.length = 32

def basepoint : Bytes := 9 :: replicate 31 0

namespace Primitives

variable (P : Primitives)

def newCipher (key : Bytes) : Outcome BlockFunction :=
  let n := key.length
  if n = 16 ∨ n = 24 ∨ n = 32 then .ok (P.aes key)
  else .err (.new s!"crypto/aes: invalid key size {n}")

def aesCTREncryptIV (key iv plaintext : Bytes) : Outcome Bytes := do
  let block ← P.newCipher key
  let (ciphertext, _) ← (newCTR iv).xorKeyStream block plaintext
  return ciphertext

def aesCTRDecryptIV (key iv ciphertext : Bytes) : Outcome Bytes :=
  P.aesCTREncryptIV key iv ciphertext

def hmacSHA256Truncated (key data : Bytes) (length : Nat) : Bytes :=
  (P.hmac key data).take length

def kdfLoop (sharedSecret sharedInfo : Bytes) (total counter : Nat) (out : Bytes) : Bytes :=
  if out.length < total then
    kdfLoop sharedSecret sharedInfo total (counter + 1)
      (out ++ P.sha256 (sharedSecret ++ be32 (UInt32.ofNat counter) ++ sharedInfo))
  else out
  termination_by total - out.length
  decreasing_by
    rw [length_append, P.length_sha256]
    omega

def eciesKDF (sharedSecret sharedInfo : Bytes) (encLen macLen : Nat) : Bytes × Bytes :=
  let out := P.kdfLoop sharedSecret sharedInfo (encLen + macLen) 1 []
  (out.take encLen, (out.drop encLen).take macLen)

def deconceaProfileA (suci : SUCI) (homeNetPrivKey : Bytes) : Outcome DeconceaResult :=
  let n := suci.schemeOutput.length
  if suci.protectionScheme ≠ profileA then .err (.new "suci: not profile A")
  else if n < 32 + 8 then .err (.new s!"suci: scheme output too short: {n}")
  else
    let ephPub := suci.schemeOutput.take 32
    let ciphertext := (suci.schemeOutput.take (n - 8)).drop 32
    let mac := suci.schemeOutput.drop (n - 8)
    match P.x25519 homeNetPrivKey ephPub with
    | .error e => .err (.wrap "suci: ECDH" e)
    | .ok sharedSecret =>
      let (encKey, ivAndMacKey) := P.eciesKDF sharedSecret ephPub 16 48
      let iv := ivAndMacKey.take 16
      let macKey := ivAndMacKey.drop 16
      if mac ≠ P.hmacSHA256Truncated macKey ciphertext 8 then
        .err (.new "suci: MAC verification failed")
      else do
        let plaintext ← P.aesCTRDecryptIV encKey iv ciphertext
        let msin := decodeBCDLowNibbleFirst plaintext
        return ⟨msin, buildSUPI suci msin⟩

def encryptProfileA (ephPriv : Except Error Bytes) (msin : String) (homeNetPubKey : Bytes)
    (schemeID : UInt8) : Outcome SUCI :=
  match ephPriv with
  | .error e => .err e
  | .ok ephPriv =>
    match P.x25519 ephPriv basepoint, P.x25519 ephPriv homeNetPubKey with
    | .error e, _ => .err e
    | .ok _, .error e => .err e
    | .ok ephPub, .ok sharedSecret => do
      let (encKey, ivAndMacKey) := P.eciesKDF sharedSecret ephPub 16 48
      let iv := ivAndMacKey.take 16
      let macKey := ivAndMacKey.drop 16
      let ciphertext ← P.aesCTREncryptIV encKey iv (encodeBCDLowNibbleFirst msin)
      let mac := P.hmacSHA256Truncated macKey ciphertext 8
      return {
        protectionScheme := profileA
        homeNetworkPublicKeyID := schemeID
        schemeOutput := ephPub ++ ciphertext ++ mac }

theorem aesCTREncryptIV_eq {key iv : Bytes} (hkey : key.length = 16) (hiv : iv.length = 16)
    (plaintext : Bytes) : P.aesCTREncryptIV key iv plaintext =
      .ok (Ctr.xorFrom (P.aes key).encrypt (Cmac.block iv) 0 plaintext) := by
  obtain ⟨c', hstream⟩ := (reached_newCTR (P.aes key) hiv).xorKeyStream plaintext
  simp [aesCTREncryptIV, newCipher, hkey, hstream]

theorem length_hmacSHA256Truncated (key data : Bytes) :
    (P.hmacSHA256Truncated key data 8).length = 8 := by
  rw [hmacSHA256Truncated, length_take, P.length_hmac]
  rfl

theorem length_eciesKDF (sharedSecret sharedInfo : Bytes) :
    (P.eciesKDF sharedSecret sharedInfo 16 48).1.length = 16 ∧
      ((P.eciesKDF sharedSecret sharedInfo 16 48).2.take 16).length = 16 := by
  have hlen : 64 ≤ (P.kdfLoop sharedSecret sharedInfo 64 1 []).length := by
    rw [kdfLoop, if_pos (by decide), kdfLoop, if_pos (by simp [P.length_sha256]), kdfLoop,
      if_neg (by simp [P.length_sha256])]
    simp [P.length_sha256]
  simp only [eciesKDF, length_take, length_drop, Nat.reduceAdd]
  omega

theorem deconceaProfileA_parts {suci : SUCI} {ephPub ciphertext mac : Bytes}
    (hscheme : suci.protectionScheme = profileA) (heph : ephPub.length = 32)
    (hmac : mac.length = 8) (hparts : suci.schemeOutput = ephPub ++ ciphertext ++ mac)
    {homeNetPrivKey sharedSecret : Bytes}
    (hsecret : P.x25519 homeNetPrivKey ephPub = .ok sharedSecret) :
    P.deconceaProfileA suci homeNetPrivKey = let keys := P.eciesKDF sharedSecret ephPub 16 48
      if mac ≠ P.hmacSHA256Truncated (keys.2.drop 16) ciphertext 8 then
        .err (.new "suci: MAC verification failed")
      else do
        let plaintext ← P.aesCTRDecryptIV keys.1 (keys.2.take 16) ciphertext
        let msin := decodeBCDLowNibbleFirst plaintext
        return ⟨msin, buildSUPI suci msin⟩ := by
  have hn : suci.schemeOutput.length = 32 + ciphertext.length + 8 := by
    rw [hparts, length_append, length_append, heph, hmac]
  have htake : suci.schemeOutput.take 32 = ephPub := by
    rw [hparts, append_assoc, take_left' heph]
  have hmid : (suci.schemeOutput.take (suci.schemeOutput.length - 8)).drop 32 = ciphertext := by
    rw [hn, hparts, take_left' (by rw [length_append, heph]; omega), drop_left' heph]
  have hlast : suci.schemeOutput.drop (suci.schemeOutput.length - 8) = mac := by
    rw [hn, hparts, drop_left' (by rw [length_append, heph]; omega)]
  unfold deconceaProfileA
  dsimp only
  rw [if_neg (not_not.mpr hscheme), if_neg (by omega), htake, hmid, hlast, hsecret]

/-- De-concealment returns what was concealed, the stream is counter mode, and a tag that is not
the code of the ciphertext is refused. -/
theorem profileA_roundTrip {ephPriv ephPub homeNetPrivKey homeNetPubKey sharedSecret : Bytes}
    (heph : P.x25519 ephPriv basepoint = .ok ephPub)
    (hsecret : P.x25519 ephPriv homeNetPubKey = .ok sharedSecret)
    (hagree : P.x25519 homeNetPrivKey ephPub = .ok sharedSecret) {n : Nat} {msin : String}
    (hmsin : IsDecimal n msin) (schemeID : UInt8) :
    (∃ suci, P.encryptProfileA (.ok ephPriv) msin homeNetPubKey schemeID = .ok suci ∧
      P.deconceaProfileA suci homeNetPrivKey = .ok ⟨msin, "imsi-" ++ msin⟩) ∧
    (∀ key iv text : Bytes, key.length = 16 → iv.length = 16 → P.aesCTREncryptIV key iv text =
        .ok (Ctr.xorFrom (P.aes key).encrypt (block iv) 0 text)) ∧
    ∀ (suci : SUCI) (ciphertext mac : Bytes), suci.protectionScheme = profileA →
      mac.length = 8 → suci.schemeOutput = ephPub ++ ciphertext ++ mac →
      mac ≠ P.hmacSHA256Truncated ((P.eciesKDF sharedSecret ephPub 16 48).2.drop 16) ciphertext 8 →
      P.deconceaProfileA suci homeNetPrivKey = .err (.new "suci: MAC verification failed") := by
  have hlen := P.length_x25519 heph
  refine ⟨?_, fun key iv text hkey hiv => P.aesCTREncryptIV_eq hkey hiv text, ?_⟩
  · obtain ⟨ds, -, hds, rfl⟩ := hmsin.exists_digits
    obtain ⟨hkey, hiv⟩ := P.length_eciesKDF sharedSecret ephPub
    unfold encryptProfileA
    simp only [heph, hsecret, P.aesCTREncryptIV_eq hkey hiv, ok_bind]
    refine ⟨_, rfl, ?_⟩
    rw [P.deconceaProfileA_parts rfl hlen (P.length_hmacSHA256Truncated _ _) rfl hagree]
    rw [if_neg (not_not.mpr rfl), aesCTRDecryptIV, P.aesCTREncryptIV_eq hkey hiv, ok_bind,
      Ctr.xorFrom_xorFrom, encodeBCDLowNibbleFirst_digitString hds,
      decodeBCDLowNibbleFirst_pairs hds]
    rfl
  · intro suci ciphertext mac hscheme hmac hparts hne
    rw [P.deconceaProfileA_parts hscheme hlen hmac hparts hagree]
    exact if_pos hne

/-- A commutative operation in the place of X25519. -/
def exchange (a b : Bytes) : Bytes := (range 32).map fun i => a.getD i 0 ^^^ b.getD i 0

def labPrimitives : Primitives where
  sha256 := Sha256.sum
  hmac := Sha256.hmac
  aes key := if h : key.length = 16 then Crypto.aes key h
    else ⟨fun _ => replicate 16 0, fun _ => rfl⟩
  x25519 scalar point := .ok (exchange scalar point)
  length_sha256 := Sha256.length_sum
  length_hmac := Sha256.length_hmac
  length_x25519 h := by rw [← Except.ok.inj h, exchange, length_map, length_range]

/-- An MSIN of ten digits. -/
theorem profileA_roundTrip_tenDigits :
    ∃ suci, labPrimitives.encryptProfileA (.ok [7]) "0000000129" (exchange [5] basepoint) 1 =
        .ok suci ∧
      labPrimitives.deconceaProfileA suci [5] = .ok ⟨"0000000129", "imsi-" ++ "0000000129"⟩ := by
  have hagree : exchange [5] (exchange [7] basepoint) = exchange [7] (exchange [5] basepoint) := by
    decide
  exact (labPrimitives.profileA_roundTrip (n := 10)
    (show labPrimitives.x25519 [7] basepoint = .ok (exchange [7] basepoint) from rfl) rfl
    (congrArg Except.ok hagree) (by decide) 1).1

end Primitives

end Claudia5gc.Crypto.Suci
