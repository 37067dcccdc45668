import Claudia5gc.Go.Hex
import Claudia5gc.Nas.Ie

/-!
# Network names and the Configuration Update Command

The network name elements carry the name of the operator, in the GSM seven-bit alphabet or in UCS-2.
Their decoder returns on every input.
-/

namespace Claudia5gc.Nas

open Go Proc

/-! ## Network name -/

/-- `gsm7BasicSet`, the GSM seven-bit default alphabet without its escape. -/
def gsm7BasicSet : List (Char × UInt8) :=
  [('@', 0x00), ('£', 0x01), ('$', 0x02), ('¥', 0x03), ('è', 0x04), ('é', 0x05),
   ('ù', 0x06), ('ì', 0x07), ('ò', 0x08), ('Ç', 0x09), ('\n', 0x0A), ('Ø', 0x0B),
   ('ø', 0x0C), ('\r', 0x0D), ('Å', 0x0E), ('å', 0x0F), ('Δ', 0x10), ('_', 0x11),
   ('Φ', 0x12), ('Γ', 0x13), ('Λ', 0x14), ('Ω', 0x15), ('Π', 0x16), ('Ψ', 0x17),
   ('Σ', 0x18), ('Θ', 0x19), ('Ξ', 0x1A), ('Æ', 0x1C), ('æ', 0x1D), ('ß', 0x1E),
   ('É', 0x1F), (' ', 0x20), ('!', 0x21), ('\"', 0x22), ('#', 0x23), ('¤', 0x24),
   ('%', 0x25), ('&', 0x26), ('\'', 0x27), ('(', 0x28), (')', 0x29), ('*', 0x2A),
   ('+', 0x2B), (',', 0x2C), ('-', 0x2D), ('.', 0x2E), ('/', 0x2F), ('0', 0x30),
   ('1', 0x31), ('2', 0x32), ('3', 0x33), ('4', 0x34), ('5', 0x35), ('6', 0x36),
   ('7', 0x37), ('8', 0x38), ('9', 0x39), (':', 0x3A), (';', 0x3B), ('<', 0x3C),
   ('=', 0x3D), ('>', 0x3E), ('?', 0x3F), ('¡', 0x40), ('A', 0x41), ('B', 0x42),
   ('C', 0x43), ('D', 0x44), ('E', 0x45), ('F', 0x46), ('G', 0x47), ('H', 0x48),
   ('I', 0x49), ('J', 0x4A), ('K', 0x4B), ('L', 0x4C), ('M', 0x4D), ('N', 0x4E),
   ('O', 0x4F), ('P', 0x50), ('Q', 0x51), ('R', 0x52), ('S', 0x53), ('T', 0x54),
   ('U', 0x55), ('V', 0x56), ('W', 0x57), ('X', 0x58), ('Y', 0x59), ('Z', 0x5A),
   ('Ä', 0x5B), ('Ö', 0x5C), ('Ñ', 0x5D), ('Ü', 0x5E), ('§', 0x5F), ('¿', 0x60),
   ('a', 0x61), ('b', 0x62), ('c', 0x63), ('d', 0x64), ('e', 0x65), ('f', 0x66),
   ('g', 0x67), ('h', 0x68), ('i', 0x69), ('j', 0x6A), ('k', 0x6B), ('l', 0x6C),
   ('m', 0x6D), ('n', 0x6E), ('o', 0x6F), ('p', 0x70), ('q', 0x71), ('r', 0x72),
   ('s', 0x73), ('t', 0x74), ('u', 0x75), ('v', 0x76), ('w', 0x77), ('x', 0x78),
   ('y', 0x79), ('z', 0x7A), ('ä', 0x7B), ('ö', 0x7C), ('ñ', 0x7D), ('ü', 0x7E), ('à', 0x7F)]

def gsm7Reverse (s : UInt8) : Option Char :=
  (gsm7BasicSet.find? fun p => p.2 == s).map Prod.fst

structure NetworkName where
  codingScheme : UInt8
  addCI : Bool
  text : String
  deriving DecidableEq

/-- One iteration of `unpackGSM7`; the state is `i`. -/
def unpackSeptet (packed septets : Bytes) : Proc Nat (Ctl Bytes) := do
  let bitPos := (← Proc.get) * 7
  let octet := bitPos / 8
  let shift := bitPos % 8
  let v := (← Proc.lift (index packed octet)) >>> UInt8.ofNat shift
  let v ←
    if 1 < shift ∧ octet + 1 < packed.length then do
      let hi ← Proc.lift (index packed (octet + 1))
      pure (v ||| hi <<< UInt8.ofNat (8 - shift))
    else pure v
  Proc.modify (· + 1)
  return .next (septets ++ [v &&& 0x7F])

def unpackGSM7 (packed : Bytes) (spareBits : UInt8) : Outcome Bytes :=
  if packed.length = 0 then .ok []
  else
    let total := (packed.length * 8 - spareBits.toNat) / 7
    ((Proc.loop (fun i => decide (i < total)) (unpackSeptet packed) total []).run 0).1

/-- The loop over the septets of a network name. -/
def gsm7Runes : Bytes → Outcome (List Char)
  | [] => .ok []
  | s :: rest => do
    match gsm7Reverse s with
    | none =>
      let text := sprint02X s
      .err (.new s!"nas: septet 0x{text} is not in the GSM basic set")
    | some r => return r :: (← gsm7Runes rest)

/-- The sixteen-bit units of a UCS-2 name. -/
def ucs2Units : Bytes → List UInt16
  | hi :: lo :: rest => (hi.toUInt16 <<< 8 ||| lo.toUInt16) :: ucs2Units rest
  | _ => []

/-- A single unit of `utf16.Decode`: a surrogate on its own becomes U+FFFD. -/
def utf16Unit (u : UInt16) : Char :=
  if 0xD800 ≤ u ∧ u < 0xE000 then Char.ofNat 0xFFFD else Char.ofNat u.toNat

def utf16Decode : List UInt16 → List Char
  | [] => []
  | [u] => [utf16Unit u]
  | u :: v :: rest =>
    if (0xD800 ≤ u ∧ u < 0xDC00) ∧ 0xDC00 ≤ v ∧ v < 0xE000 then
      Char.ofNat (0x10000 + (u.toNat - 0xD800) * 0x400 + (v.toNat - 0xDC00)) ::
        utf16Decode rest
    else utf16Unit u :: utf16Decode (v :: rest)

def decodeNetworkName (b : Bytes) : Outcome NetworkName := do
  if b.length < 1 then .err (.new "nas: network name too short") else
  let header ← index b 0
  let codingScheme := (header >>> 4) &&& 0x07
  let addCI := decide (header &&& 0x08 ≠ 0)
  let spareBits := header &&& 0x07
  let body ← sliceFrom b 1
  if codingScheme = 0x01 then
    let len := body.length
    if len % 2 ≠ 0 then
      .err (.new s!"nas: UCS-2 network name has odd length {len}")
    else return { codingScheme, addCI, text := String.ofList (utf16Decode (ucs2Units body)) }
  else if codingScheme = 0x00 then
    let runes ← gsm7Runes (← unpackGSM7 body spareBits)
    return { codingScheme, addCI, text := String.ofList runes }
  else .err (.new s!"nas: unsupported network name coding scheme {codingScheme}")

theorem returns_unpackGSM7 (packed : Bytes) (spareBits : UInt8) :
    (unpackGSM7 packed spareBits).Returns := by
  rw [unpackGSM7]
  split
  · trivial
  · refine Proc.Safe.returns (Q := fun _ _ => True) ?_
    refine Proc.safe_loop (fun _ _ => True)
      (fun i => (packed.length * 8 - spareBits.toNat) / 7 - i) ?_
      (fun _ _ _ _ => trivial) ?_ _ _ _ (Nat.sub_le _ _) trivial
    · intro i hi
      simp only [decide_eq_true_eq] at hi
      omega
    · intro septets i _ hi
      simp only [decide_eq_true_eq] at hi
      have hoctet : i * 7 / 8 < packed.length := by omega
      simp only [unpackSeptet, Proc.safe_bind, Proc.safe_get, index_of_lt hoctet]
      refine Proc.safe_lift trivial fun v _ => ?_
      refine Proc.safe_ite (fun hspill => ?_) fun _ => ?_
      · rw [Proc.safe_bind, index_of_lt hspill.2]
        exact ⟨by dsimp only; omega, trivial⟩
      · exact ⟨by dsimp only; omega, trivial⟩

theorem returns_gsm7Runes (septets : Bytes) : (gsm7Runes septets).Returns := by
  induction septets with
  | nil => trivial
  | cons s rest ih =>
    rw [gsm7Runes]
    cases gsm7Reverse s with
    | none => trivial
    | some r => exact ih.bind fun _ _ => trivial

theorem returns_decodeNetworkName (b : Bytes) : (decodeNetworkName b).Returns := by
  rw [decodeNetworkName]
  split
  · trivial
  · rw [index_of_lt (by omega), Outcome.ok_bind, sliceFrom_of_le (by omega), Outcome.ok_bind]
    split
    · dsimp only
      split <;> trivial
    split
    · exact (returns_unpackGSM7 _ _).bind fun septets _ =>
        (returns_gsm7Runes septets).bind fun _ _ => trivial
    · trivial

/-! ## Configuration Update Command -/

structure ConfigurationUpdateCommand where
  configUpdateIndication : Option UInt8 := none
  fiveGGUTI : Option MobileIdentity := none
  taiList : Bytes := []
  allowedNSSAI : Option NSSAI := none
  fullNameForNetwork : String := ""
  shortNameForNetwork : String := ""
  configuredNSSAI : Option NSSAI := none
  networkSlicingIndication : Option UInt8 := none
  deriving DecidableEq

def configurationUpdateCommandIE (iei : UInt8) (c : ConfigurationUpdateCommand) :
    Proc Reader (Ctl ConfigurationUpdateCommand) :=
  if iei >>> 4 = 0xD then
    pure (.next { c with configUpdateIndication := some (iei &&& 0x0F) })
  else if iei >>> 4 = 0x9 then
    pure (.next { c with networkSlicingIndication := some (iei &&& 0x0F) })
  else if iei = 0x77 then do
    let gutiBytes ← readLVE
    let mi ← lift (decodeMobileIdentityOrNil gutiBytes)
    return .next { c with fiveGGUTI := mi }
  else if iei = 0x54 then do
    let taiList ← readLV
    return .next { c with taiList }
  else if iei = 0x15 then do
    let nssai ← readNSSAI
    return .next { c with allowedNSSAI := some nssai }
  else if iei = 0x43 then do
    let nameBytes ← readLV
    match ← (lift (decodeNetworkName nameBytes)).attempt with
    | .ok n => return .next { c with fullNameForNetwork := n.text }
    | .error _ => return .next c
  else if iei = 0x45 then do
    let nameBytes ← readLV
    match ← (lift (decodeNetworkName nameBytes)).attempt with
    | .ok n => return .next { c with shortNameForNetwork := n.text }
    | .error _ => return .next c
  else if iei = 0x31 then do
    let nssai ← readNSSAI
    return .next { c with configuredNSSAI := some nssai }
  else if 0x80 ≤ iei then return .next c
  else do
    skipLV
    return .next c

def decodeConfigurationUpdateCommand (b : Bytes) : Outcome ConfigurationUpdateCommand :=
  ((forEachIE 1 configurationUpdateCommandIE {}).run b).1

theorem lenientWalk_layout_of_nibble {iei n : UInt8} (h : iei >>> 4 = n) (hn : 8 ≤ n) :
    lenientWalk.layout iei = .bare := by
  have hge : 0x80 ≤ iei := by
    rw [UInt8.le_iff_toNat_le] at hn ⊢
    have := congrArg UInt8.toNat h
    simp only [UInt8.toNat_shiftRight, UInt8.reduceToNat, Nat.reduceMod,
      Nat.shiftRight_eq_div_pow] at this hn ⊢
    omega
  have hne : iei ≠ 0x77 := by
    rintro rfl
    exact absurd hge (by decide)
  simp [lenientWalk, hne, UInt8.not_lt.mpr hge]

theorem attempt_decodeNetworkName (v r : Bytes) :
    (∃ n, (lift (decodeNetworkName v)).attempt.run r = (.ok (.ok n), r)) ∨
      ∃ e, (lift (decodeNetworkName v)).attempt.run r = (.ok (.error e), r) := by
  have h := returns_decodeNetworkName v
  cases hn : decodeNetworkName v with
  | ok n => exact .inl ⟨n, rfl⟩
  | err e => exact .inr ⟨e, rfl⟩
  | panic | hang => simp [hn] at h

theorem lenientWalk_follows_configurationUpdateCommand :
    lenientWalk.Follows EndsEmpty configurationUpdateCommandIE := by
  intro iei c r
  by_cases h15 : iei = 0x15
  · subst h15
    exact foresees_readNSSAI (fun n => ⟨_, rfl⟩) (by rfl) (by rfl) (by rfl)
  by_cases h31 : iei = 0x31
  · subst h31
    exact foresees_readNSSAI (fun n => ⟨_, rfl⟩) (by rfl) (by rfl) (by rfl)
  have htrap : ¬lenientWalk.Traps EndsEmpty iei r :=
    not_traps_of_none (by simp [lenientWalk, h15, h31])
  unfold configurationUpdateCommandIE
  split
  · rename_i h
    exact ⟨by rw [lenientWalk_layout_of_nibble h (by decide)]; rfl, rfl, htrap⟩
  split
  · rename_i h
    exact ⟨by rw [lenientWalk_layout_of_nibble h (by decide)]; rfl, rfl, htrap⟩
  split
  · rename_i h
    subst h
    refine foresees_readLVE (fun v => ?_) rfl rfl htrap
    obtain ⟨mi, hmi⟩ := decodeMobileIdentityOrNil_ok v
    exact ⟨_, by rw [hmi]; rfl⟩
  rename_i h77
  split
  · rename_i h
    subst h
    exact foresees_readLV (fun v => ⟨_, rfl⟩) rfl rfl htrap
  split
  · rename_i h
    subst h
    refine foresees_readLV (fun v => ?_) rfl rfl htrap
    rcases attempt_decodeNetworkName v (lvTail r) with ⟨n, hn⟩ | ⟨e, he⟩
    · exact ⟨_, by rw [run_bind_ok hn]; rfl⟩
    · exact ⟨_, by rw [run_bind_ok he]; rfl⟩
  split
  · rename_i h
    subst h
    refine foresees_readLV (fun v => ?_) rfl rfl htrap
    rcases attempt_decodeNetworkName v (lvTail r) with ⟨n, hn⟩ | ⟨e, he⟩
    · exact ⟨_, by rw [run_bind_ok hn]; rfl⟩
    · exact ⟨_, by rw [run_bind_ok he]; rfl⟩
  split
  · rename_i hge
    exact ⟨by simp [lenientWalk, h77, UInt8.not_lt.mpr hge, Layout.tail], rfl, htrap⟩
  · rename_i hlt
    rw [run_bind_ok (run_skipLV r)]
    exact ⟨by simp [lenientWalk, h77, UInt8.not_le.mp hlt, Layout.tail], rfl, htrap⟩

theorem returns_decodeConfigurationUpdateCommand_iff (b : Bytes) :
    (decodeConfigurationUpdateCommand b).Returns ↔ ∀ v ∈ lenientWalk.reached b, ¬EndsEmpty v :=
  IEWalk.returns_forEachIE_iff lenientWalk_follows_configurationUpdateCommand _ _

end Claudia5gc.Nas
