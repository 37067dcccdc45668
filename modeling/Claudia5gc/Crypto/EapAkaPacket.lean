import Claudia5gc.Crypto.EapAka

/-!
# Reading EAP-AKA' packets

What `findAttr` finds is an attribute of the packet.  `ExtractRES` bounds RES by the packet, not by
the attribute, and rounds its bits up in sixteen bits; the packets that `BuildResponse` writes are
read back.
-/

namespace Claudia5gc.Crypto.EapAka

open Go List Option UInt8

variable {pkt : Bytes} {typ : UInt8} {off : Nat}

/-! ## Attributes -/

/-- The length of the attribute at an offset, in octets. -/
def attrLen (pkt : Bytes) (off : Nat) : Nat := (pkt.getD (off + 1) 0).toNat * 4

def attrAt (pkt : Bytes) (off : Nat) : Bytes := (pkt.drop off).take (attrLen pkt off)

theorem findAttrFrom_eq_some {fuel start : Nat} (h : findAttrFrom pkt typ fuel start = some off) :
    pkt.getD off 0 = typ ∧ 4 ≤ attrLen pkt off ∧ off + attrLen pkt off ≤ pkt.length := by
  induction fuel generalizing start with
  | zero => cases h
  | succ fuel ih =>
    unfold findAttrFrom at h
    dsimp only at h
    split_ifs at h with hin hbad htyp
    · obtain rfl := some.inj h
      obtain ⟨hne, hle⟩ := not_or.1 hbad
      refine ⟨htyp, ?_, Nat.not_lt.1 hle⟩
      unfold attrLen
      omega
    · exact ih h

theorem findAttr_eq_some (h : findAttr pkt typ = some off) :
    pkt.getD off 0 = typ ∧ 4 ≤ attrLen pkt off ∧ off + attrLen pkt off ≤ pkt.length := by
  unfold findAttr at h
  split_ifs at h
  exact findAttrFrom_eq_some h

/-- The walk ends by itself: each turn moves on by at least four octets, so turns past the length
of the packet make no difference. -/
theorem findAttrFrom_fuel {n m start : Nat} (hn : pkt.length ≤ start + n)
    (hm : pkt.length ≤ start + m) :
    findAttrFrom pkt typ n start = findAttrFrom pkt typ m start := by
  induction n generalizing m start with
  | zero =>
    cases m with
    | zero => rfl
    | succ m => rw [findAttrFrom, findAttrFrom, if_neg (by omega)]
  | succ n ih =>
    cases m with
    | zero => rw [findAttrFrom, findAttrFrom, if_neg (by omega)]
    | succ m =>
      unfold findAttrFrom
      dsimp only
      split_ifs with hin hbad htyp
      · rfl
      · rfl
      · exact ih (by omega) (by omega)
      · rfl

section Walk

variable {pre value post : Bytes} {t l : UInt8} {fuel : Nat}

theorem findAttrFrom_attr (hl : l.toNat * 4 = 2 + value.length) :
    findAttrFrom (pre ++ t :: l :: (value ++ post)) typ (fuel + 1) pre.length =
      if t = typ then some pre.length
      else findAttrFrom (pre ++ t :: l :: (value ++ post)) typ fuel
        (pre ++ t :: l :: value).length := by
  have hlen : (pre ++ t :: l :: value).length = pre.length + l.toNat * 4 := by
    rw [hl, length_append, length_cons, length_cons]
    omega
  have htyp : (pre ++ t :: l :: (value ++ post)).getD pre.length 0 = t := by
    rw [getD_eq_getElem?_getD, getElem?_append_right (Nat.le_refl _), Nat.sub_self]
    rfl
  have hword : (pre ++ t :: l :: (value ++ post)).getD (pre.length + 1) 0 = l := by
    rw [getD_eq_getElem?_getD, getElem?_append_right (by omega), Nat.add_sub_cancel_left]
    rfl
  rw [findAttrFrom, hword, htyp, hlen]
  have hall : (pre ++ t :: l :: (value ++ post)).length =
      pre.length + l.toNat * 4 + post.length := by
    simp only [length_append, length_cons]
    omega
  rw [if_pos (by omega)]
  rw [if_neg (by omega)]

end Walk

/-! ## RES -/

def resBits (pkt : Bytes) (off : Nat) : UInt16 :=
  (pkt.getD (off + 2) 0).toUInt16 <<< 8 ||| (pkt.getD (off + 3) 0).toUInt16

def resOctets (pkt : Bytes) (off : Nat) : Nat := ((resBits pkt off).toNat + 7) / 8

/-- Whatever `ExtractRES` returns is RES, whole, from within the attribute. -/
def ReadsInside (pkt : Bytes) : Prop :=
  ∀ res, extractRES pkt = some res → ∃ off, findAttr pkt atRES = some off ∧
    res = ((attrAt pkt off).drop 4).take (resOctets pkt off) ∧ res.length = resOctets pkt off

theorem toNat_rounded (bits : UInt16) :
    ((bits + 7) / 8).toNat = if bits.toNat ≤ 65528 then (bits.toNat + 7) / 8 else 0 := by
  have hlt := bits.toNat_lt
  show (bits.toNat + 7) % 65536 / 8 = _
  split_ifs <;> omega

theorem extractRES_of_findAttr (h : findAttr pkt atRES = some off) : extractRES pkt =
      let n := if (resBits pkt off).toNat ≤ 65528 then resOctets pkt off else 0
      if pkt.length < off + 4 + n then none else some ((pkt.drop (off + 4)).take n) := by
  obtain ⟨-, hfour, hend⟩ := findAttr_eq_some h
  rw [extractRES, h]
  dsimp only
  rw [if_neg (by omega), ← resBits, toNat_rounded]
  rfl

theorem readsInside_iff (pkt : Bytes) : ReadsInside pkt ↔ ∀ off, findAttr pkt atRES = some off →
      4 + resOctets pkt off ≤ attrLen pkt off ∨
        ((resBits pkt off).toNat ≤ 65528 ∧ pkt.length < off + 4 + resOctets pkt off) := by
  constructor
  · intro h off hoff
    obtain ⟨-, hfour, hend⟩ := findAttr_eq_some hoff
    have hrun := extractRES_of_findAttr hoff
    by_contra hnot
    obtain ⟨hout, hrefused⟩ := not_or.1 hnot
    by_cases hbits : (resBits pkt off).toNat ≤ 65528
    · -- as many octets as declared, more than the attribute has
      rw [if_pos hbits, if_neg (fun hlt => hrefused ⟨hbits, hlt⟩)] at hrun
      obtain ⟨off', hoff', hres, hlen⟩ := h _ hrun
      obtain rfl := some.inj (hoff.symm.trans hoff')
      rw [hres, length_take, length_drop, attrAt, length_take, length_drop] at hlen
      omega
    · -- the sum has wrapped, and nothing is returned for 65529 bits or more
      rw [if_neg hbits, if_neg (by omega)] at hrun
      obtain ⟨off', hoff', -, hlen⟩ := h _ hrun
      obtain rfl := some.inj (hoff.symm.trans hoff')
      rw [take_zero, length_nil, resOctets] at hlen
      omega
  · intro h res hres
    cases hfind : findAttr pkt atRES with
    | none =>
      rw [extractRES, hfind] at hres
      cases hres
    | some off =>
      obtain ⟨-, -, hend⟩ := findAttr_eq_some hfind
      have hword := (pkt.getD (off + 1) 0).toNat_lt
      rw [extractRES_of_findAttr hfind] at hres
      refine ⟨off, rfl, ?_⟩
      obtain hin | ⟨hbits, hshort⟩ := h off hfind
      · have hbits : (resBits pkt off).toNat ≤ 65528 := by
          unfold attrLen resOctets at hin
          omega
        rw [if_pos hbits, if_neg (by omega)] at hres
        obtain rfl := some.inj hres
        have hslice : (attrAt pkt off).drop 4 =
            (pkt.drop (off + 4)).take (attrLen pkt off - 4) := by
          rw [attrAt, drop_take, drop_drop]
        rw [hslice, take_take, Nat.min_eq_left (by omega), length_take, length_drop]
        exact ⟨rfl, by omega⟩
      · rw [if_pos hbits, if_pos hshort] at hres
        cases hres

/-! ## The response -/

theorem encodeAttr_eq (t : UInt8) (v : Bytes) (h : v.length ≤ 250) :
    ∃ l pad, encodeAttr t v = t :: l :: (v ++ pad) ∧ l.toNat * 4 = 2 + (v ++ pad).length := by
  have hword (n : Nat) (hn : n ≤ 252) (hfour : (2 + n) % 4 = 0) :
      (ofNat ((2 + n) / 4)).toNat * 4 = 2 + n := by
    rw [toNat_ofNat']
    omega
  unfold encodeAttr
  dsimp only
  split_ifs with hpad
  · refine ⟨_, replicate (4 - (2 + v.length) % 4) 0, rfl, hword _ ?_ ?_⟩ <;>
      rw [length_append, length_replicate] <;> omega
  · refine ⟨ofNat ((2 + v.length) / 4), [], ?_, ?_⟩ <;> rw [append_nil]
    exact hword _ (by omega) (by omega)

theorem resAttr_eq {res : Bytes} (h : res.length ≤ 16) :
    ∃ l pad, resAttr res = atRES :: l :: (putUint16 (res.length * 8) ++ (res ++ pad)) ∧
      l.toNat * 4 = 2 + (putUint16 (res.length * 8) ++ (res ++ pad)).length := by
  obtain ⟨l, pad, hattr, hl⟩ := encodeAttr_eq atRES (putUint16 (res.length * 8) ++ res) (by
    rw [putUint16, length_append, length_cons, length_cons, length_nil]
    omega)
  exact ⟨l, pad, hattr, hl⟩

theorem length_computeMAC (pkt kAut : Bytes) : (computeMAC pkt kAut).length = macLen := by
  rfl

def responseHeader (identifier : UInt8) (res : Bytes) : Bytes :=
  [codeResponse, identifier] ++ putUint16 (headerLen + ((resAttr res).length + 20)) ++
    [typeEAPAKAPrime, subtypeAKAChallenge, 0, 0]

/-- A response without the value of its AT_MAC, which is its end. -/
def responseHead (identifier : UInt8) (res : Bytes) : Bytes :=
  responseHeader identifier res ++ resAttr res ++ [atMAC, 5, 0, 0]

section Response

variable {identifier : UInt8} {res mac : Bytes}

theorem length_responseHead :
    (responseHead identifier res).length = headerLen + (resAttr res).length + 4 := by
  rw [responseHead, length_append, length_append]
  rfl

section

variable (hres : res.length ≤ 16)
include hres

theorem findAttr_response (hmac : mac.length = macLen) :
    findAttr (responseHead identifier res ++ mac) atRES = some headerLen ∧
      findAttr (responseHead identifier res ++ mac) atMAC =
        some (headerLen + (resAttr res).length) := by
  obtain ⟨l, pad, hattr, hl⟩ := resAttr_eq hres
  have hlen : (responseHead identifier res ++ mac).length =
      headerLen + (resAttr res).length + 18 + 1 + 1 := by
    rw [length_append, length_responseHead, hmac]
    rfl
  have hres' : responseHead identifier res ++ mac = responseHeader identifier res ++ atRES :: l ::
        (putUint16 (res.length * 8) ++ (res ++ pad) ++ atMAC :: 5 :: 0 :: 0 :: mac) := by
    rw [responseHead, hattr]
    simp only [append_assoc, cons_append, nil_append]
  have hmac' : responseHead identifier res ++ mac =
      (responseHeader identifier res ++ resAttr res) ++ atMAC :: 5 :: (0 :: 0 :: mac ++ []) := by
    rw [responseHead, append_nil]
    simp only [append_assoc, cons_append, nil_append]
  have hfirst (typ : UInt8) := @findAttrFrom_attr typ (responseHeader identifier res) _
    (atMAC :: 5 :: 0 :: 0 :: mac) atRES l (headerLen + (resAttr res).length + 18 + 1) hl
  have hsecond := @findAttrFrom_attr atMAC (responseHeader identifier res ++ resAttr res)
    (0 :: 0 :: mac) [] atMAC 5 (headerLen + (resAttr res).length + 18) (by
      rw [length_cons, length_cons, hmac]
      rfl)
  rw [← hmac', if_pos rfl] at hsecond
  rw [← hres', ← hattr] at hfirst
  refine ⟨?_, ?_⟩ <;> rw [findAttr, if_neg (by rw [hlen]; unfold headerLen; omega), hlen]
  · exact (hfirst atRES).trans (if_pos rfl)
  · refine ((hfirst atMAC).trans (if_neg (by decide))).trans (hsecond.trans ?_)
    rw [length_append]
    rfl

theorem buildResponse_eq (kAut : Bytes) :
    buildResponse identifier res kAut = responseHead identifier res ++
      computeMAC (responseHead identifier res ++ replicate macLen 0) kAut := by
  have hframe : frame codeResponse identifier subtypeAKAChallenge
      (resAttr res ++ fixedAttr atMAC (replicate macLen 0)) =
        responseHead identifier res ++ replicate macLen 0 := by
    rw [frame, responseHead, responseHeader, length_append]
    simp only [append_assoc]
    rfl
  rw [buildResponse, hframe, insertMAC, (findAttr_response hres length_replicate).2]
  dsimp only
  rw [← length_responseHead, take_left, drop_of_length_le, append_nil]
  exact Nat.le_of_eq (by rw [length_append, length_replicate])

theorem verifyMAC_buildResponse (kAut : Bytes) :
    verifyMAC (buildResponse identifier res kAut) kAut = true := by
  have hlen := length_computeMAC (responseHead identifier res ++ replicate macLen 0) kAut
  rw [buildResponse_eq hres, verifyMAC, (findAttr_response hres hlen).2]
  dsimp only
  rw [← length_responseHead, if_neg (by rw [length_append, hlen]; exact Nat.lt_irrefl _),
    drop_left, take_left, take_of_length_le (Nat.le_of_eq hlen), beq_iff_eq,
    drop_of_length_le (Nat.le_of_eq (by rw [length_append, hlen])), append_nil]

theorem resBits_response :
    (resBits (responseHead identifier res ++ mac) headerLen).toNat = res.length * 8 := by
  obtain ⟨l, pad, hattr, -⟩ := resAttr_eq hres
  have hbits : resBits (responseHead identifier res ++ mac) headerLen =
      (ofNat (res.length * 8 / 256)).toUInt16 <<< 8 |||
        (ofNat (res.length * 8)).toUInt16 := by
    rw [responseHead, hattr]
    rfl
  have hdeclared : ∀ n ≤ 16, ((ofNat (n * 8 / 256)).toUInt16 <<< 8 |||
      (ofNat (n * 8)).toUInt16).toNat = n * 8 := by decide
  rw [hbits, hdeclared _ hres]

theorem extractRES_buildResponse (kAut : Bytes) :
    extractRES (buildResponse identifier res kAut) = some res := by
  obtain ⟨l, pad, hattr, -⟩ := resAttr_eq hres
  have hlen := length_computeMAC (responseHead identifier res ++ replicate macLen 0) kAut
  rw [buildResponse_eq hres, extractRES_of_findAttr (findAttr_response hres hlen).1]
  have hdrop (mac : Bytes) : (responseHead identifier res ++ mac).drop (headerLen + 4) =
      res ++ (pad ++ [atMAC, 5, 0, 0] ++ mac) := by
    rw [responseHead, hattr]
    simp only [append_assoc, cons_append]
    rfl
  have hoctets : (res.length * 8 + 7) / 8 = res.length := by omega
  have hall : headerLen + 4 + res.length ≤ (responseHead identifier res ++
      computeMAC (responseHead identifier res ++ replicate macLen 0) kAut).length := by
    rw [length_append, length_responseHead, hattr]
    simp only [length_cons, length_append]
    omega
  have hdeclared : res.length * 8 ≤ 65528 := by omega
  rw [resOctets, resBits_response hres, if_pos hdeclared, hoctets, if_neg (Nat.not_lt.2 hall),
    hdrop, take_left]

end

end Response

end Claudia5gc.Crypto.EapAka
