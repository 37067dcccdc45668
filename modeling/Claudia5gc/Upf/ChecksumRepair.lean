import Claudia5gc.OnesComplement
import Claudia5gc.Upf.L4csum

/-!
# What a repair leaves

A packet that carries one whole TCP or UDP segment is cut into its parts, and its checksum is
the one's complement sum of RFC 1071 over the pseudo-header and the segment.  The repair comes
to an end on every packet, changes nothing but the checksum, and leaves it right.
-/

namespace Claudia5gc.Upf.L4csum

open Go List Outcome Nat

variable (v : UInt64) (seg : Bytes) {b pkt : Bytes} {d : Datagram} {fuel x : Nat} {acc : UInt64}

/-! ## What the sums are -/

section Sums

open OnesComplement

theorem toNat_add_of_lt {a b : UInt64} (h : a.toNat + b.toNat < 2 ^ 64) :
    (a + b).toNat = a.toNat + b.toNat := by
  rw [UInt64.toNat_add, mod_eq_of_lt h]

theorem toNat_shiftRight_32 : (v >>> 32).toNat = v.toNat / 4294967296 := by
  exact shiftRight_eq_div_pow v.toNat 32

theorem toNat_shiftRight_16 : (v >>> 16).toNat = v.toNat / 65536 := by
  exact shiftRight_eq_div_pow v.toNat 16

theorem toNat_and_32 : (v &&& 0xFFFFFFFF).toNat = v.toNat % 4294967296 := by
  exact and_two_pow_sub_one_eq_mod v.toNat 32

theorem toNat_and_16 : (v &&& 0xFFFF).toNat = v.toNat % 65536 := by
  exact and_two_pow_sub_one_eq_mod v.toNat 16

theorem words_of_le (h : 2 ≤ b.length) : words b = word b 0 :: words (b.drop 2) := by
  match b with
  | [] => simp at h
  | [_] => simp at h
  | _ :: _ :: _ => rfl

theorem sum_words_of_le (h : 8 ≤ b.length) :
    (words b).sum = word b 0 + word b 2 + word b 4 + word b 6 + (words (b.drop 8)).sum := by
  have hlen : ∀ n, (b.drop n).length = b.length - n := fun n => length_drop
  rw [words_of_le (by omega), words_of_le (by rw [hlen]; omega), drop_drop,
    words_of_le (by rw [hlen]; omega), drop_drop, words_of_le (by rw [hlen]; omega),
    drop_drop, word_drop, word_drop, word_drop]
  show word b 0 + (word b 2 + (word b 4 + (word b 6 + (words (b.drop 8)).sum))) = _
  omega

/-- A loop over `b` has come to `b'`: what is left stands for the rest, the accumulator for what
is gone, and it has not run over. -/
structure Added (b : Bytes) (acc : UInt64) (b' : Bytes) (acc' : UInt64) : Prop where
  rep : rep 65535 (acc'.toNat + (words b').sum) = rep 65535 (acc.toNat + (words b).sum)
  le : acc'.toNat + 2 ^ 33 * b'.length ≤ acc.toNat + 2 ^ 33 * b.length

theorem Added.trans {b' b'' : Bytes} {acc' acc'' : UInt64} (h : Added b acc b' acc')
    (h' : Added b' acc' b'' acc'') : Added b acc b'' acc'' :=
  ⟨h'.rep.trans h.rep, h'.le.trans h.le⟩

theorem added_uint64 (hlen : 8 ≤ b.length) (hacc : acc.toNat + 2 ^ 33 * b.length < 2 ^ 64) :
    ∃ v, uint64 b 0 = .ok v ∧ Added b acc (b.drop 8) (acc + (v >>> 32 + (v &&& 0xFFFFFFFF))) := by
  have h0 := word_lt b 0
  have h2 := word_lt b 2
  have h4 := word_lt b 4
  have h6 := word_lt b 6
  refine ⟨_, uint64_of_lt (by omega), ?_⟩
  generalize hv : UInt64.ofNat ((word b 0 * 65536 + word b (0 + 2)) * 4294967296 +
    (word b (0 + 4) * 65536 + word b (0 + 6))) = v
  have htoNat : v.toNat = (word b 0 * 65536 + word b 2) * 4294967296 +
      (word b 4 * 65536 + word b 6) := by
    rw [← hv]
    exact UInt64.toNat_ofNat_of_lt' (show _ < 18446744073709551616 by
      simp only [zero_add]
      omega)
  have hhi : (v >>> 32).toNat = word b 0 * 65536 + word b 2 := by
    rw [toNat_shiftRight_32]
    omega
  have hlo : (v &&& 0xFFFFFFFF).toNat = word b 4 * 65536 + word b 6 := by
    rw [toNat_and_32]
    omega
  have hsum : (v >>> 32 + (v &&& 0xFFFFFFFF)).toNat =
      word b 0 * 65536 + word b 2 + (word b 4 * 65536 + word b 6) := by
    rw [toNat_add_of_lt (by omega), hhi, hlo]
  have hacc' : (acc + (v >>> 32 + (v &&& 0xFFFFFFFF))).toNat =
      acc.toNat + (word b 0 * 65536 + word b 2 + (word b 4 * 65536 + word b 6)) := by
    rw [toNat_add_of_lt (by omega), hsum]
  have hdrop : (b.drop 8).length = b.length - 8 := length_drop
  refine ⟨?_, by omega⟩
  rw [hacc', sum_words_of_le hlen]
  apply rep_congr <;> omega

theorem added_uint16 (hlen : 2 ≤ b.length) (hacc : acc.toNat + 2 ^ 33 * b.length < 2 ^ 64) :
    ∃ v, uint16 b 0 = .ok v ∧ Added b acc (b.drop 2) (acc + v.toUInt64) := by
  have h0 := word_lt b 0
  refine ⟨_, uint16_of_lt (by omega), ?_⟩
  have hv : (UInt16.ofNat (word b 0)).toUInt64.toNat = word b 0 := by
    exact UInt16.toNat_ofNat_of_lt' h0
  have hacc' : (acc + (UInt16.ofNat (word b 0)).toUInt64).toNat = acc.toNat + word b 0 := by
    rw [toNat_add_of_lt (by omega), hv]
  have hdrop : (b.drop 2).length = b.length - 2 := length_drop
  refine ⟨?_, by omega⟩
  rw [hacc', words_of_le hlen, sum_cons, add_assoc]

theorem sum8_spec (hfuel : b.length < fuel) (hacc : acc.toNat + 2 ^ 33 * b.length < 2 ^ 64) :
    ∃ b' acc', sum8 fuel b acc = .ok (b', acc') ∧ Added b acc b' acc' := by
  induction fuel generalizing b acc with
  | zero => omega
  | succ fuel ih =>
    rw [sum8]
    split_ifs with hlen
    · obtain ⟨v, hv, hadded⟩ := added_uint64 hlen hacc
      rw [hv, ok_bind, sliceFrom_of_le hlen, ok_bind]
      obtain ⟨b', acc', hrest, hadded'⟩ := ih
        (by rw [length_drop]; omega) (lt_of_le_of_lt hadded.le hacc)
      exact ⟨b', acc', hrest, hadded.trans hadded'⟩
    · exact ⟨b, acc, rfl, rfl, le_refl _⟩

theorem sum2_spec (hfuel : b.length < fuel) (hacc : acc.toNat + 2 ^ 33 * b.length < 2 ^ 64) :
    ∃ b' acc', sum2 fuel b acc = .ok (b', acc') ∧ Added b acc b' acc' ∧ b'.length < 2 := by
  induction fuel generalizing b acc with
  | zero => omega
  | succ fuel ih =>
    rw [sum2]
    split_ifs with hlen
    · obtain ⟨v, hv, hadded⟩ := added_uint16 hlen hacc
      rw [hv, ok_bind, sliceFrom_of_le hlen, ok_bind]
      obtain ⟨b', acc', hrest, hadded', hshort⟩ := ih
        (by rw [length_drop]; omega) (lt_of_le_of_lt hadded.le hacc)
      exact ⟨b', acc', hrest, hadded.trans hadded', hshort⟩
    · exact ⟨b, acc, rfl, ⟨rfl, le_refl _⟩, by omega⟩

theorem sum_spec (b : Bytes) (acc : UInt64) (hacc : acc.toNat + 2 ^ 33 * b.length < 2 ^ 64) :
    ∃ acc', sum b acc = .ok acc' ∧ Added b acc [] acc' := by
  obtain ⟨b₁, acc₁, hsum8, hadded₁⟩ := sum8_spec (lt_succ_self b.length) hacc
  have hacc₁ := lt_of_le_of_lt hadded₁.le hacc
  obtain ⟨b₂, acc₂, hsum2, hadded₂, hshort⟩ := sum2_spec (lt_succ_self b₁.length) hacc₁
  have hacc₂ := lt_of_le_of_lt hadded₂.le hacc₁
  rw [sum, hsum8, ok_bind]
  dsimp only
  rw [hsum2, ok_bind]
  match b₂ with
  | [] => exact ⟨acc₂, rfl, hadded₁.trans hadded₂⟩
  | [x] =>
    refine ⟨_, rfl, (hadded₁.trans hadded₂).trans ?_⟩
    have hx := x.toNat_lt
    have hshift : (x.toUInt64 <<< 8).toNat = x.toNat * 256 := by
      show x.toNat <<< 8 % 18446744073709551616 = _
      omega
    simp only [length_singleton] at hacc₂
    have hsum : (acc₂ + x.toUInt64 <<< 8).toNat = acc₂.toNat + x.toNat * 256 := by
      rw [toNat_add_of_lt (by omega), hshift]
    refine ⟨?_, ?_⟩
    · rw [hsum]
      simp [words]
    · simp only [length_nil, length_singleton]
      omega
  | _ :: _ :: _ =>
    simp only [length_cons] at hshort
    omega

theorem foldLoop_spec (hfuel : acc.toNat < fuel) :
    ∃ r, foldLoop fuel acc = .ok r ∧ r.toNat = rep 65535 acc.toNat := by
  induction fuel generalizing acc with
  | zero => omega
  | succ fuel ih =>
    have hlt := acc.toNat_lt
    rw [foldLoop]
    split
    · rename_i hbig
      have hbig' : 65535 < acc.toNat := by
        by_contra hsmall
        refine hbig (UInt64.toNat_inj.1 ?_)
        rw [toNat_shiftRight_16]
        show _ = 0
        omega
      have hcarry : ((acc &&& (0xFFFF : UInt64)) + (acc >>> 16)).toNat = carry 65535 acc.toNat := by
        rw [toNat_add_of_lt, toNat_and_16, toNat_shiftRight_16]
        · rfl
        · rw [toNat_and_16, toNat_shiftRight_16]
          omega
      have hless := carry_lt (m := 65535) (by omega) hbig'
      have hfuel' : ((acc &&& (0xFFFF : UInt64)) + (acc >>> 16)).toNat < fuel := by
        omega
      obtain ⟨r, hr, hrep⟩ := ih hfuel'
      refine ⟨r, hr, ?_⟩
      rw [hrep, hcarry, rep_carry]
    · rename_i hsmall
      have hle : acc.toNat ≤ 65535 := by
        have hzero : (acc >>> 16).toNat = 0 := by rw [not_not.1 hsmall]; rfl
        rw [toNat_shiftRight_16] at hzero
        omega
      exact ⟨acc, rfl, (rep_of_le hle).symm⟩

/-- `fold` gives the word that the accumulator stands for. -/
theorem fold_spec (acc : UInt64) : ∃ w, fold acc = .ok w ∧ w.toNat = rep 65535 acc.toNat := by
  obtain ⟨r, hr, hrep⟩ := foldLoop_spec (lt_succ_self acc.toNat)
  rw [fold, hr, ok_bind]
  refine ⟨_, rfl, ?_⟩
  have hle := rep_le (m := 65535) (by omega) acc.toNat
  rw [UInt64.toNat_toUInt16, hrep]
  omega

end Sums

/-! ## Packets with a checksum -/

def Proto.number : Proto → UInt8
  | .tcp => ipProtoTCP
  | .udp => ipProtoUDP

/-- Where the checksum is in a segment. -/
def Proto.offset : Proto → Nat
  | .tcp => 16
  | .udp => 6

/-- The parts of an IP packet that carries one whole TCP or UDP segment. -/
structure Datagram where
  ip : IP
  proto : Proto
  /-- The IP header. -/
  header : Bytes
  /-- The segment up to its checksum. -/
  before : Bytes
  checksum : UInt16
  after : Bytes
  /-- What comes behind the packet. -/
  padding : Bytes

namespace Datagram

def segment (d : Datagram) : Bytes := d.before ++ be16 d.checksum ++ d.after

def bytes (d : Datagram) : Bytes := d.header ++ d.segment ++ d.padding

/-- The header in front of the segment is one of its IP version, it says how long the packet
is, that the packet is no fragment and which protocol it carries. -/
def HeaderOk (d : Datagram) : Prop :=
  match d.ip with
  | .v4 => octet d.header 0 / 16 = 4 ∧ 20 ≤ d.header.length ∧
      d.header.length = octet d.header 0 % 16 * 4 ∧
      word d.header 2 = d.header.length + d.segment.length ∧
      word d.header 6 % 16384 = 0 ∧ octet d.header 9 = d.proto.number.toNat
  | .v6 => octet d.header 0 / 16 = 6 ∧ d.header.length = 40 ∧
      word d.header 4 = d.segment.length ∧ octet d.header 6 = d.proto.number.toNat

/-- The segment is as long as its header at least, and as long as it says. -/
def SegmentOk (d : Datagram) : Prop :=
  d.before.length = d.proto.offset ∧ match d.proto with
    | .tcp => 20 ≤ d.segment.length
    | .udp => word d.before 4 = d.segment.length

structure Wf (d : Datagram) : Prop where
  header : d.HeaderOk
  segment : d.SegmentOk

/-- The pseudo-header of RFC 768 and RFC 793, and the one of RFC 8200. -/
def pseudoHeader (d : Datagram) : Bytes :=
  match d.ip with
  | .v4 => (d.header.drop 12).take 8 ++ [0, d.proto.number] ++ be16 (UInt16.ofNat d.segment.length)
  | .v6 => (d.header.drop 8).take 32 ++ be32 (UInt32.ofNat d.segment.length) ++
      [0, 0, 0, d.proto.number]

/-- The checksum verifies: the one's complement sum of all words is the word of ones. -/
def Verifies (d : Datagram) : Prop :=
  OnesComplement.sum 65535 (OnesComplement.words (d.pseudoHeader ++ d.segment)) = 65535

instance (d : Datagram) : Decidable d.Verifies := inferInstanceAs (Decidable (_ = 65535))

/-- The checksum verifies, and a UDP checksum is not zero. -/
def Valid (d : Datagram) : Prop := d.Verifies ∧ (d.proto = .udp → d.checksum ≠ 0)

/-- IPv4 leaves the UDP checksum out by a zero. -/
def Unchecked (d : Datagram) : Prop := d.ip = .v4 ∧ d.proto = .udp ∧ d.checksum = 0

section Segments

open OnesComplement

variable {d : Datagram}

theorem length_segment (d : Datagram) :
    d.segment.length = d.before.length + 2 + d.after.length := by
  simp only [segment, length_append, length_be16]

theorem words_be16 (v : UInt16) : words (be16 v) = [v.toNat] := by
  rw [words_of_le (by simp)]
  rw [word_be16]
  rfl

/-- The sum of the words of everything but the checksum. -/
def rest (d : Datagram) : Nat :=
  (words d.pseudoHeader).sum + (words d.before).sum + (words d.after).sum

theorem SegmentOk.even (h : d.SegmentOk) : d.before.length % 2 = 0 := by
  rw [h.1]
  cases d.proto <;> rfl

theorem HeaderOk.length_lt (h : d.HeaderOk) : d.segment.length < 65536 := by
  have h2 := word_lt d.header 2
  have h4 := word_lt d.header 4
  unfold HeaderOk at h
  split at h <;> omega

def addresses (d : Datagram) : Bytes :=
  match d.ip with
  | .v4 => (d.header.drop 12).take 8
  | .v6 => (d.header.drop 8).take 32

theorem HeaderOk.length_addresses (h : d.HeaderOk) :
    d.addresses.length % 2 = 0 ∧ d.addresses.length ≤ 32 := by
  unfold HeaderOk at h
  unfold addresses
  split at h <;> simp only [*, length_take, length_drop] <;> omega

theorem words_be32 {n : Nat} (h : n < 65536) : words (be32 (UInt32.ofNat n)) = [0, n] := by
  have hn : (UInt32.ofNat n).toNat = n := UInt32.toNat_ofNat_of_lt' (show _ < 4294967296 by omega)
  have hhi : (UInt32.ofNat n >>> 16).toUInt16.toNat = 0 := by
    rw [UInt32.toNat_toUInt16, UInt32.toNat_shiftRight, hn]
    show n >>> 16 % 65536 = 0
    omega
  have hlo : (UInt32.ofNat n).toUInt16.toNat = n := by
    rw [UInt32.toNat_toUInt16, hn]
    omega
  rw [be32, words_append (by simp), words_be16, words_be16, hhi, hlo]
  rfl

/-- Behind the addresses the pseudo-header has the protocol and the length. -/
theorem pseudoHeader_eq (h : d.HeaderOk) : ∃ trailer, d.pseudoHeader = d.addresses ++ trailer ∧
    trailer.length % 2 = 0 ∧ (words trailer).sum = d.proto.number.toNat + d.segment.length := by
  have hlt := h.length_lt
  have hlen : (UInt16.ofNat d.segment.length).toNat = d.segment.length :=
    UInt16.toNat_ofNat_of_lt' hlt
  unfold pseudoHeader addresses
  cases d.ip with
  | v4 =>
    refine ⟨_, append_assoc .., by simp, ?_⟩
    rw [words_append (by simp), words_be16, hlen]
    simp [words]
  | v6 =>
    refine ⟨_, append_assoc .., by simp, ?_⟩
    rw [words_append (by simp), words_be32 hlt]
    simp [words, add_comm]

theorem sum_pseudoHeader (h : d.HeaderOk) : d.pseudoHeader.length % 2 = 0 ∧
    (words d.pseudoHeader).sum =
      (words d.addresses).sum + (d.proto.number.toNat + d.segment.length) := by
  obtain ⟨trailer, heq, heven, hsum⟩ := pseudoHeader_eq h
  have haddr := h.length_addresses.1
  rw [heq, words_append haddr, List.sum_append, hsum, length_append]
  exact ⟨by omega, rfl⟩

theorem verifies_iff (hwf : d.Wf) : d.Verifies ↔ rep 65535 (d.rest + d.checksum.toNat) = 65535 := by
  have hwords : (words (d.pseudoHeader ++ d.segment)).sum = d.rest + d.checksum.toNat := by
    rw [words_append (sum_pseudoHeader hwf.header).1, segment, append_assoc,
      words_append hwf.segment.even, words_append (by simp), words_be16, rest]
    simp only [List.sum_append, List.sum_singleton]
    omega
  rw [Verifies, sum_eq_rep (words_le _), hwords]

/-! ## What the code does with them -/

theorem l4Header_tcp : l4Header seg ipProtoTCP =
    .ok (if seg.length < 20 then none else some (16, .tcp)) := by
  unfold l4Header
  show (if seg.length < 20 then _ else _) = _
  split <;> rfl

theorem l4Header_udp : l4Header seg ipProtoUDP =
    .ok (if seg.length < 8 ∨ word seg 4 ≠ seg.length then none else some (6, .udp)) := by
  unfold l4Header
  show (if seg.length < 8 then _ else _) = _
  by_cases hlen : seg.length < 8
  · rw [if_pos hlen, if_pos (.inl hlen)]
  · rw [if_neg hlen, show uint16 seg udpOffLength = .ok (UInt16.ofNat (word seg 4)) from
      uint16_of_lt (show 4 + 1 < seg.length by omega), ok_bind,
      UInt16.toNat_ofNat_of_lt' (word_lt seg 4)]
    by_cases hword : word seg 4 ≠ seg.length
    · rw [if_pos hword, if_pos (.inr hword)]
      rfl
    · rw [if_neg hword, if_neg (by tauto)]
      rfl

theorem l4Header_segment (h : d.SegmentOk) :
    l4Header d.segment d.proto.number = .ok (some (d.proto.offset, d.proto)) := by
  have hlen := d.length_segment
  obtain ⟨hoff, hproto⟩ := h
  cases hp : d.proto with
  | tcp =>
    rw [hp] at hproto
    show l4Header d.segment ipProtoTCP = _
    rw [l4Header_tcp, if_neg (by omega)]
    rfl
  | udp =>
    rw [hp] at hproto hoff
    have hoff' : d.before.length = 6 := hoff
    have hword : word d.segment 4 = d.segment.length := by
      have hleft : word d.segment 4 = word d.before 4 := by
        rw [segment, append_assoc, word_append_left (by omega)]
      rw [hleft]
      exact hproto
    show l4Header d.segment ipProtoUDP = _
    rw [l4Header_udp, if_neg (by omega)]
    rfl

theorem l4Header_cases (n : UInt8) (ip : IP) (header padding : Bytes) :
    l4Header seg n = .ok none ∨ ∃ d : Datagram, d.ip = ip ∧ d.header = header ∧
      d.padding = padding ∧ d.proto.number = n ∧ d.segment = seg ∧ d.SegmentOk := by
  by_cases htcp : n = ipProtoTCP
  · subst htcp
    rw [l4Header_tcp]
    by_cases hlen : seg.length < 20
    · rw [if_pos hlen]
      exact .inl rfl
    · have hseg := eq_append_be16 (b := seg) (i := 16) (by omega)
      refine .inr ⟨⟨ip, .tcp, header, seg.take 16, UInt16.ofNat (word seg 16), seg.drop 18,
        padding⟩, rfl, rfl, rfl, rfl, hseg.symm, ?_, ?_⟩
      · show (seg.take 16).length = 16
        rw [length_take]
        omega
      · show 20 ≤ (seg.take 16 ++ be16 _ ++ seg.drop (16 + 2)).length
        rw [← hseg]
        omega
  · by_cases hudp : n = ipProtoUDP
    · subst hudp
      rw [l4Header_udp]
      by_cases hlen : seg.length < 8 ∨ word seg 4 ≠ seg.length
      · rw [if_pos hlen]
        exact .inl rfl
      · have hseg := eq_append_be16 (b := seg) (i := 6) (by omega)
        refine .inr ⟨⟨ip, .udp, header, seg.take 6, UInt16.ofNat (word seg 6), seg.drop 8,
          padding⟩, rfl, rfl, rfl, rfl, hseg.symm, ?_, ?_⟩
        · show (seg.take 6).length = 6
          rw [length_take]
          omega
        · show word (seg.take 6) 4 = (seg.take 6 ++ be16 _ ++ seg.drop (6 + 2)).length
          rw [← hseg, word_take (by omega)]
          omega
    · unfold l4Header
      rw [if_neg htcp, if_neg hudp]
      exact .inl rfl

def withChecksum (d : Datagram) (c : UInt16) : Datagram := { d with checksum := c }

theorem length_withChecksum (d : Datagram) (c : UInt16) :
    (d.withChecksum c).segment.length = d.segment.length := by
  rw [length_segment, length_segment]
  rfl

theorem Wf.withChecksum (hwf : d.Wf) (c : UInt16) : (d.withChecksum c).Wf := by
  have hlen := length_withChecksum d c
  refine ⟨?_, ?_⟩
  · have h := hwf.header
    unfold HeaderOk at h ⊢
    rw [hlen]
    exact h
  · have h := hwf.segment
    unfold SegmentOk at h ⊢
    rw [hlen]
    exact h

theorem verifies_withChecksum (hwf : d.Wf) (c : UInt16) :
    (d.withChecksum c).Verifies ↔ rep 65535 (d.rest + c.toNat) = 65535 := by
  have hrest : (d.withChecksum c).rest = d.rest := by
    unfold rest pseudoHeader
    rw [length_withChecksum]
    rfl
  rw [verifies_iff (hwf.withChecksum c), hrest]
  rfl

theorem valid_computed (hwf : d.Wf) {folded : UInt16} (hfolded : folded.toNat = rep 65535 d.rest) :
    (d.withChecksum (if d.proto = .udp ∧ ~~~folded = 0 then 0xFFFF else ~~~folded)).Valid := by
  have hnot : (~~~folded).toNat = 65535 - rep 65535 d.rest := by
    rw [UInt16.toNat_not, hfolded]
    rfl
  have hverifies : rep 65535 (d.rest + (~~~folded).toNat) = 65535 := by
    rw [hnot]
    exact rep_add_complement (by omega) _
  split
  · -- zero is sent as the other zero
    rename_i hzero
    refine ⟨(verifies_withChecksum hwf _).2 ?_, fun _ => show (0xFFFF : UInt16) ≠ 0 by decide⟩
    rw [hzero.2] at hverifies
    obtain ⟨_, hmod⟩ := (rep_eq_top (by omega)).1 hverifies
    have hzero' : (0 : UInt16).toNat = 0 := rfl
    have htop : (0xFFFF : UInt16).toNat = 65535 := rfl
    rw [rep_eq_top (by omega), htop]
    omega
  · rename_i hne
    refine ⟨(verifies_withChecksum hwf _).2 hverifies, fun hudp hzero => hne ⟨hudp, hzero⟩⟩

theorem finish_segment (hwf : d.Wf)
    (hacc : rep 65535 acc.toNat = rep 65535 (words d.pseudoHeader).sum) (hlt : acc.toNat < 2 ^ 60) :
    (d.Unchecked ∨ d.Valid → finish d.segment d.proto.number d.ip acc (d.ip == .v6) =
      .ok (none, d.segment)) ∧
    (¬ (d.Unchecked ∨ d.Valid) → ∃ c, finish d.segment d.proto.number d.ip acc (d.ip == .v6) =
      .ok (some ⟨d.proto, d.ip, d.checksum, c⟩, (d.withChecksum c).segment) ∧
        (d.withChecksum c).Valid) := by
  have hlen := d.length_segment
  have hlen' := hwf.header.length_lt
  have hoff : d.proto.offset = d.before.length := hwf.segment.1.symm
  have hudp : d.proto.number = ipProtoUDP ↔ d.proto = .udp := by
    cases d.proto <;> decide
  have hv6 : ((d.ip == .v6) = false ↔ d.ip = .v4) ∧ ((d.ip == .v6) = true ↔ d.ip = .v6) := by
    cases d.ip <;> decide
  have hbefore : slice d.segment 0 d.before.length = .ok d.before := by
    rw [slice_of_le (zero_le _) (by omega), segment, append_assoc]
    simp
  have hafter : sliceFrom d.segment (d.before.length + 2) = .ok d.after := by
    rw [sliceFrom_of_le (by omega), segment, drop_left' (by simp)]
  obtain ⟨acc₁, hsum₁, hadded₁⟩ := sum_spec d.before acc (by omega)
  have hle₁ := hadded₁.le
  obtain ⟨acc₂, hsum₂, hadded₂⟩ := sum_spec d.after acc₁ (by omega)
  have hle₂ := hadded₂.le
  -- the accumulator stands for everything but the checksum
  have hrep : rep 65535 acc₂.toNat = rep 65535 d.rest := by
    have h₁ := hadded₁.rep
    have h₂ := hadded₂.rep
    simp only [words, sum_nil, add_zero] at h₁ h₂
    rw [h₂, rep_add_congr h₁, add_assoc, rep_add_congr hacc, ← add_assoc]
    rfl
  obtain ⟨folded, hfold, hfolded⟩ := fold_spec acc₂
  obtain ⟨check, hfold', hcheck⟩ := fold_spec (acc₂ + d.checksum.toUInt64)
  have hstored := d.checksum.toNat_lt
  have hsum : (acc₂ + d.checksum.toUInt64).toNat = acc₂.toNat + d.checksum.toNat := by
    rw [toNat_add_of_lt, UInt16.toNat_toUInt64]
    rw [UInt16.toNat_toUInt64]
    omega
  have hvalid : check = csumValid ↔ d.Verifies := by
    rw [verifies_iff hwf, ← UInt16.toNat_inj, hcheck, hsum, rep_add_congr hrep]
    exact Iff.rfl
  have hput : ∀ c, putUint16 d.segment d.before.length c = .ok (d.withChecksum c).segment := by
    intro c
    rw [putUint16, put, if_pos (by rw [length_be16]; omega), length_be16]
    simp [segment, withChecksum]
    rfl
  have hrun : finish d.segment d.proto.number d.ip acc (d.ip == .v6) =
      if d.proto = .udp ∧ d.checksum = 0 ∧ d.ip = .v4 then .ok (none, d.segment)
      else if ¬ (d.proto = .udp ∧ d.ip = .v6 ∧ d.checksum = 0) ∧ d.Verifies then
        .ok (none, d.segment)
      else
        let c := if d.proto = .udp ∧ ~~~folded = 0 then 0xFFFF else ~~~folded
        .ok (some ⟨d.proto, d.ip, d.checksum, c⟩, (d.withChecksum c).segment) := by
    rw [finish, l4Header_segment hwf.segment, ok_bind]
    dsimp only
    rw [hoff, show uint16 d.segment d.before.length = .ok d.checksum from
      uint16_append_be16 .., ok_bind]
    simp only [hudp, hv6, hbefore, hafter, hsum₁, hsum₂, hfold, hfold', hvalid, hput,
      ok_bind, pure_eq]
  rw [hrun]
  constructor
  · rintro (⟨hip, hproto, hzero⟩ | ⟨hverifies, hnonzero⟩)
    · rw [if_pos ⟨hproto, hzero, hip⟩]
    · rw [if_pos (c := ¬ _ ∧ _) ⟨fun h => hnonzero h.1 h.2.2, hverifies⟩]
      split <;> rfl
  · intro hneither
    rw [not_or] at hneither
    have hchecked : ¬ (d.proto = .udp ∧ d.checksum = 0 ∧ d.ip = .v4) :=
      fun h => hneither.1 ⟨h.2.2, h.1, h.2.1⟩
    have hwrong : ¬ (¬ (d.proto = .udp ∧ d.ip = .v6 ∧ d.checksum = 0) ∧ d.Verifies) := by
      rintro ⟨hfilled, hverifies⟩
      refine hneither.2 ⟨hverifies, fun hproto hzero => ?_⟩
      cases hip : d.ip with
      | v4 => exact hchecked ⟨hproto, hzero, hip⟩
      | v6 => exact hfilled ⟨hproto, hip, hzero⟩
    rw [if_neg hchecked, if_neg hwrong]
    exact ⟨_, rfl, valid_computed hwf (hfolded.trans hrep)⟩

theorem sum_addresses (hwf : d.Wf) : ∃ acc, sum d.addresses 0 = .ok acc ∧
    rep 65535 (acc + (d.proto.number.toUInt64 + UInt64.ofNat d.segment.length)).toNat =
      rep 65535 (words d.pseudoHeader).sum ∧
    (acc + (d.proto.number.toUInt64 + UInt64.ofNat d.segment.length)).toNat < 2 ^ 60 := by
  have hlt := hwf.header.length_lt
  have hproto := d.proto.number.toNat_lt
  have haddr := hwf.header.length_addresses.2
  have hzero : (0 : UInt64).toNat = 0 := rfl
  obtain ⟨acc, hsum, hadded⟩ := sum_spec d.addresses 0 (by omega)
  have hle := hadded.le
  have hrep := hadded.rep
  simp only [words, sum_nil, length_nil, mul_zero, add_zero, hzero, zero_add] at hle hrep
  have hlen : (UInt64.ofNat d.segment.length).toNat = d.segment.length :=
    UInt64.toNat_ofNat_of_lt' (show _ < 18446744073709551616 by omega)
  have hadd : (d.proto.number.toUInt64 + UInt64.ofNat d.segment.length).toNat =
      d.proto.number.toNat + d.segment.length := by
    rw [toNat_add_of_lt (by rw [hlen, UInt8.toNat_toUInt64]; omega), hlen, UInt8.toNat_toUInt64]
  have hacc : (acc + (d.proto.number.toUInt64 + UInt64.ofNat d.segment.length)).toNat =
      acc.toNat + (d.proto.number.toNat + d.segment.length) := by
    rw [toNat_add_of_lt (by rw [hadd]; omega), hadd]
  refine ⟨acc, hsum, ?_, ?_⟩
  · rw [hacc, (sum_pseudoHeader hwf.header).2]
    exact rep_add_congr hrep _
  · omega

/-- What should come of a datagram: one that is valid, or not to be checked, is left alone, and
any other gets a checksum that makes it valid. -/
def Repaired (d : Datagram) (r : Outcome (Option Result × Bytes)) : Prop :=
  (d.Unchecked ∨ d.Valid → r = .ok (none, d.bytes)) ∧ (¬ (d.Unchecked ∨ d.Valid) → ∃ c,
      r = .ok (some ⟨d.proto, d.ip, d.checksum, c⟩, (d.withChecksum c).bytes) ∧
        (d.withChecksum c).Valid)

def repairSegment (pkt : Bytes) (lo hi : Nat) (addresses : Bytes) (n : UInt8) (ip : IP) :
    Outcome (Option Result × Bytes) := do
  let seg := (pkt.drop lo).take (hi - lo)
  let acc ← sum addresses 0
  let (res, seg) ← finish seg n ip (acc + (n.toUInt64 + UInt64.ofNat seg.length)) (ip == .v6)
  return (res, splice pkt lo hi seg)

theorem length_bytes (d : Datagram) :
    d.bytes.length = d.header.length + d.segment.length + d.padding.length := by
  rw [bytes, length_append, length_append]

theorem octet_bytes {i : Nat} (hi : i < d.header.length) : octet d.bytes i = octet d.header i := by
  rw [bytes, append_assoc, octet_append_left hi]

theorem word_bytes {i : Nat} (hi : i + 1 < d.header.length) : word d.bytes i = word d.header i := by
  rw [word, word, octet_bytes (by omega), octet_bytes hi]

theorem take_drop_bytes {i n : Nat} (h : i + n ≤ d.header.length) :
    (d.bytes.drop i).take n = (d.header.drop i).take n := by
  rw [bytes, append_assoc, drop_append_of_le_length (by omega), take_append_of_le_length]
  rw [length_drop]
  omega

theorem repaired_repairSegment (hwf : d.Wf) {lo hi : Nat} (hlo : lo = d.header.length)
    (hhi : hi = d.header.length + d.segment.length) :
    d.Repaired (repairSegment d.bytes lo hi d.addresses d.proto.number d.ip) := by
  have hsegment : (d.bytes.drop lo).take (hi - lo) = d.segment := by
    rw [hlo, hhi, Nat.add_sub_cancel_left, bytes, append_assoc, drop_left, take_left]
  have hsplice : ∀ c, splice d.bytes lo hi (d.withChecksum c).segment =
      (d.withChecksum c).bytes := by
    intro c
    have htake : d.bytes.take d.header.length = d.header := by
      rw [bytes, append_assoc, take_left]
    have hdrop : d.bytes.drop (d.header.length + d.segment.length) = d.padding := by
      rw [bytes, drop_left' length_append]
    rw [splice, hlo, hhi, htake, hdrop]
    rfl
  have hself : d.withChecksum d.checksum = d := rfl
  obtain ⟨acc, hsum, hrep, hlt⟩ := d.sum_addresses hwf
  obtain ⟨halone, hfixed⟩ := finish_segment hwf hrep hlt
  rw [repairSegment, hsegment, hsum, ok_bind]
  refine ⟨fun h => ?_, fun h => ?_⟩
  · rw [halone h, ok_bind]
    have hsame := hsplice d.checksum
    rw [hself] at hsame
    dsimp only
    rw [hsame]
    rfl
  · obtain ⟨c, hc, hvalid⟩ := hfixed h
    rw [hc, ok_bind]
    dsimp only
    rw [hsplice]
    exact ⟨c, rfl, hvalid⟩

end Segments

end Datagram

/-! ## Whole packets -/

section Packets

theorem toNat_shiftRight_4 (h : x < 256) : (UInt8.ofNat x >>> 4).toNat = x / 16 := by
  rw [UInt8.toNat_shiftRight, UInt8.toNat_ofNat_of_lt' h]
  exact shiftRight_eq_div_pow x 4

theorem toNat_and_0F (h : x < 256) : (UInt8.ofNat x &&& 0x0F).toNat = x % 16 := by
  rw [UInt8.toNat_and, UInt8.toNat_ofNat_of_lt' h]
  exact and_two_pow_sub_one_eq_mod x 4

theorem and_fragMask (h : x < 65536) : UInt16.ofNat x &&& ipv4FragMask ≠ 0 ↔ x % 16384 ≠ 0 := by
  have htoNat : (UInt16.ofNat x &&& ipv4FragMask).toNat = x % 16384 := by
    rw [UInt16.toNat_and, UInt16.toNat_ofNat_of_lt' h]
    exact and_two_pow_sub_one_eq_mod x 14
  rw [ne_eq, ← UInt16.toNat_inj, htoNat]
  exact Iff.rfl

def headerLength (pkt : Bytes) : Nat := octet pkt 0 % 16 * 4

/-- An IPv4 packet that is whole and no fragment. -/
def WholeV4 (pkt : Bytes) : Prop :=
  20 ≤ pkt.length ∧ 20 ≤ headerLength pkt ∧ word pkt 2 ≤ pkt.length ∧
    headerLength pkt ≤ word pkt 2 ∧ word pkt 6 % 16384 = 0

theorem repairV4_cases (pkt : Bytes) :
    (WholeV4 pkt → repairV4 pkt = Datagram.repairSegment pkt (headerLength pkt) (word pkt 2)
      ((pkt.drop 12).take 8) (UInt8.ofNat (octet pkt 9)) .v4) ∧
    (¬ WholeV4 pkt → repairV4 pkt = .ok (none, pkt)) := by
  unfold repairV4
  by_cases hlen : pkt.length < 20
  · exact ⟨fun h => absurd h.1 (by omega), fun _ => if_pos hlen⟩
  have htotal : uint16 pkt ipv4OffTotalLen = .ok (UInt16.ofNat (word pkt 2)) :=
    uint16_of_lt (show 2 + 1 < pkt.length by omega)
  rw [if_neg (c := pkt.length < ipv4MinHdr) hlen, index_eq_octet (by omega), ok_bind, htotal,
    ok_bind, toNat_and_0F (octet_lt pkt 0), UInt16.toNat_ofNat_of_lt' (word_lt pkt 2),
    show octet pkt 0 % 16 * 4 = headerLength pkt from rfl]
  by_cases hlens : headerLength pkt < 20 ∨ word pkt 2 > pkt.length ∨ headerLength pkt > word pkt 2
  · exact ⟨fun ⟨_, hhdr, hfits, hseg, _⟩ => by omega, fun _ => if_pos hlens⟩
  have hfrag : uint16 pkt ipv4OffFrag = .ok (UInt16.ofNat (word pkt 6)) :=
    uint16_of_lt (show 6 + 1 < pkt.length by omega)
  have hproto : index pkt ipv4OffProto = .ok (UInt8.ofNat (octet pkt 9)) :=
    index_eq_octet (show 9 < pkt.length by omega)
  have haddr : slice pkt ipv4OffSrc (ipv4OffSrc + 2 * ipv4AddrLen) =
      .ok ((pkt.drop 12).take 8) := slice_of_le (show 12 ≤ 20 by omega) (not_lt.1 hlen)
  rw [if_neg (c := _ < ipv4MinHdr ∨ _) hlens, hfrag, ok_bind]
  by_cases hwhole : word pkt 6 % 16384 = 0
  · refine ⟨fun _ => ?_, fun h => absurd ⟨by omega, by omega, by omega, by omega, hwhole⟩ h⟩
    rw [if_neg (by rw [and_fragMask (word_lt pkt 6)]; exact not_not.2 hwhole), hproto, ok_bind,
      slice_of_le (by omega) (by omega), ok_bind, haddr, ok_bind]
    rfl
  · exact ⟨fun h => absurd h.2.2.2.2 hwhole,
      fun _ => if_pos ((and_fragMask (word_lt pkt 6)).2 hwhole)⟩

def WholeV6 (pkt : Bytes) : Prop := 40 + word pkt 4 ≤ pkt.length

theorem repairV6_cases (pkt : Bytes) :
    (WholeV6 pkt → repairV6 pkt = Datagram.repairSegment pkt 40 (40 + word pkt 4)
      ((pkt.drop 8).take 32) (UInt8.ofNat (octet pkt 6)) .v6) ∧
    (¬ WholeV6 pkt → repairV6 pkt = .ok (none, pkt)) := by
  unfold repairV6
  by_cases hlen : pkt.length < 40
  · exact ⟨fun h => absurd (show 40 + word pkt 4 ≤ _ from h) (by omega), fun _ => if_pos hlen⟩
  have hplen : uint16 pkt ipv6OffPayload = .ok (UInt16.ofNat (word pkt 4)) :=
    uint16_of_lt (show 4 + 1 < pkt.length by omega)
  have hproto : index pkt ipv6OffNext = .ok (UInt8.ofNat (octet pkt 6)) :=
    index_eq_octet (show 6 < pkt.length by omega)
  have haddr : slice pkt ipv6OffSrc (ipv6OffSrc + 2 * ipv6AddrLen) =
      .ok ((pkt.drop 8).take 32) := slice_of_le (show 8 ≤ 40 by omega) (not_lt.1 hlen)
  rw [if_neg (c := pkt.length < ipv6Hdr) hlen, hplen, ok_bind,
    UInt16.toNat_ofNat_of_lt' (word_lt pkt 4)]
  refine ⟨fun h => ?_, fun h => if_pos (Nat.lt_of_not_le h)⟩
  rw [if_neg (c := ipv6Hdr + _ > _) (not_lt.2 h), hproto, ok_bind,
    slice_of_le (le_add_right ipv6Hdr _) h, ok_bind, haddr, ok_bind]
  rfl

theorem finish_of_none {seg : Bytes} {n : UInt8} (h : l4Header seg n = .ok none) (ip : IP)
    (acc : UInt64) (v6 : Bool) : finish seg n ip acc v6 = .ok (none, seg) := by
  rw [finish, h]
  rfl

theorem splice_self (pkt : Bytes) {lo hi : Nat} (h : lo ≤ hi) :
    splice pkt lo hi ((pkt.drop lo).take (hi - lo)) = pkt := by
  have hrest : pkt.drop hi = (pkt.drop lo).drop (hi - lo) := by
    rw [drop_drop, Nat.add_sub_cancel' h]
  rw [splice, hrest, append_assoc, take_append_drop, take_append_drop]

theorem repair_of_version (h : 0 < pkt.length) : repair pkt =
    if octet pkt 0 / 16 = 4 then repairV4 pkt
    else if octet pkt 0 / 16 = 6 then repairV6 pkt else .ok (none, pkt) := by
  have hlt := octet_lt pkt 0
  have hversion : ∀ v : UInt8, UInt8.ofNat (octet pkt 0) >>> 4 = v ↔
      octet pkt 0 / 16 = v.toNat := by
    intro v
    rw [← UInt8.toNat_inj, toNat_shiftRight_4 hlt]
  unfold repair
  rw [if_neg (by omega), index_eq_octet h, ok_bind]
  simp only [hversion]
  rfl

theorem repaired_v4 (hwf : d.Wf) (hip : d.ip = .v4) : d.Repaired (repairV4 d.bytes) := by
  have hheader := hwf.header
  unfold Datagram.HeaderOk at hheader
  rw [hip] at hheader
  obtain ⟨_, hlen, hhl, htotal, hfrag, hproto⟩ := hheader
  have hbytes := d.length_bytes
  have hhl' : headerLength d.bytes = d.header.length := by
    rw [headerLength, d.octet_bytes (by omega), ← hhl]
  have htotal' : word d.bytes 2 = d.header.length + d.segment.length := by
    rw [d.word_bytes (by omega), htotal]
  have hwhole : WholeV4 d.bytes := by
    refine ⟨by omega, by omega, by omega, by omega, ?_⟩
    rw [d.word_bytes (by omega), hfrag]
  have haddr : (d.header.drop 12).take 8 = d.addresses := by rw [Datagram.addresses, hip]
  rw [(repairV4_cases _).1 hwhole, d.take_drop_bytes (by omega), haddr,
    d.octet_bytes (by omega), hproto, UInt8.ofNat_toNat, ← hip]
  exact d.repaired_repairSegment hwf hhl' htotal'

theorem repaired_v6 (hwf : d.Wf) (hip : d.ip = .v6) : d.Repaired (repairV6 d.bytes) := by
  have hheader := hwf.header
  unfold Datagram.HeaderOk at hheader
  rw [hip] at hheader
  obtain ⟨_, hlen, hplen, hproto⟩ := hheader
  have hbytes := d.length_bytes
  have hplen' : word d.bytes 4 = d.segment.length := by rw [d.word_bytes (by omega), hplen]
  have hwhole : WholeV6 d.bytes := by
    show 40 + word d.bytes 4 ≤ _
    omega
  have haddr : (d.header.drop 8).take 32 = d.addresses := by rw [Datagram.addresses, hip]
  rw [(repairV6_cases _).1 hwhole, d.take_drop_bytes (by omega), haddr,
    d.octet_bytes (by omega), hproto, UInt8.ofNat_toNat, ← hip]
  exact d.repaired_repairSegment hwf hlen.symm (by omega)

theorem repaired_repair (hwf : d.Wf) : d.Repaired (repair d.bytes) := by
  have hheader := hwf.header
  unfold Datagram.HeaderOk at hheader
  have hbytes := d.length_bytes
  cases hip : d.ip with
  | v4 =>
    rw [hip] at hheader
    obtain ⟨hversion, hlen, _⟩ := hheader
    rw [repair_of_version (by omega), d.octet_bytes (by omega), if_pos hversion]
    exact repaired_v4 hwf hip
  | v6 =>
    rw [hip] at hheader
    obtain ⟨hversion, hlen, _⟩ := hheader
    rw [repair_of_version (by omega), d.octet_bytes (by omega), if_neg (by omega), if_pos hversion]
    exact repaired_v6 hwf hip

theorem repairSegment_cases {lo hi : Nat} {addresses : Bytes} (hle : lo ≤ hi)
    (hhi : hi ≤ pkt.length) (haddr : addresses.length ≤ 32) (n : UInt8) (ip : IP) :
    Datagram.repairSegment pkt lo hi addresses n ip = .ok (none, pkt) ∨ ∃ d : Datagram,
      d.ip = ip ∧ d.header = pkt.take lo ∧ d.header.length = lo ∧ d.segment.length = hi - lo ∧
        d.proto.number = n ∧ d.SegmentOk ∧ d.bytes = pkt := by
  rcases Datagram.l4Header_cases ((pkt.drop lo).take (hi - lo)) n ip (pkt.take lo) (pkt.drop hi)
    with hnone | ⟨d, hip, hheader, hpadding, hproto, hsegment, hok⟩
  · have hzero : (0 : UInt64).toNat = 0 := rfl
    obtain ⟨acc, hacc, _⟩ := sum_spec addresses 0 (by omega)
    rw [Datagram.repairSegment, hacc, ok_bind, finish_of_none hnone, ok_bind]
    dsimp only
    rw [splice_self pkt hle]
    exact .inl rfl
  · refine .inr ⟨d, hip, hheader, ?_, ?_, hproto, hok, ?_⟩
    · rw [hheader, length_take, min_eq_left (by omega)]
    · rw [hsegment, length_take, length_drop, min_eq_left (by omega)]
    · rw [Datagram.bytes, hheader, hsegment, hpadding]
      exact splice_self pkt hle

/-- A packet that is left alone for what it is, or the parts of it. -/
theorem repair_cases (pkt : Bytes) :
    repair pkt = .ok (none, pkt) ∨ ∃ d : Datagram, d.Wf ∧ d.bytes = pkt := by
  by_cases hempty : pkt.length < 1
  · exact .inl (if_pos hempty)
  rw [repair_of_version (by omega)]
  split
  · rename_i hversion
    by_cases hwhole : WholeV4 pkt
    case neg => exact .inl ((repairV4_cases _).2 hwhole)
    rw [(repairV4_cases _).1 hwhole]
    obtain ⟨hlen, hhl, htotal, hle, hfrag⟩ := hwhole
    refine (repairSegment_cases hle htotal (by rw [length_take]; omega) _ _).imp_right ?_
    rintro ⟨d, hip, hheader, hlength, hseglen, hproto, hok, hbytes⟩
    refine ⟨d, ⟨?_, hok⟩, hbytes⟩
    unfold Datagram.HeaderOk
    rw [hip]
    rw [hlength, hseglen, hheader, octet_take (by omega), octet_take (by omega),
      word_take (by omega), word_take (by omega), hproto, UInt8.toNat_ofNat_of_lt' (octet_lt pkt 9)]
    exact ⟨hversion, hhl, rfl, by omega, hfrag, rfl⟩
  split_ifs with hversion
  · by_cases hwhole : WholeV6 pkt
    case neg => exact .inl ((repairV6_cases _).2 hwhole)
    rw [(repairV6_cases _).1 hwhole]
    refine (repairSegment_cases (le_add_right _ _) hwhole (by rw [length_take]; omega)
      _ _).imp_right ?_
    rintro ⟨d, hip, hheader, hlength, hseglen, hproto, hok, hbytes⟩
    refine ⟨d, ⟨?_, hok⟩, hbytes⟩
    unfold Datagram.HeaderOk
    rw [hip]
    dsimp only
    rw [hlength, hseglen, hheader, octet_take (by omega), octet_take (by omega),
      word_take (by omega), hproto, UInt8.toNat_ofNat_of_lt' (octet_lt pkt 6)]
    exact ⟨hversion, rfl, by omega, rfl⟩
  · exact .inl rfl

theorem getElem?_withChecksum (d : Datagram) (c : UInt16) {i : Nat}
    (hhi : i ≠ d.header.length + d.before.length)
    (hlo : i ≠ d.header.length + d.before.length + 1) :
    (d.withChecksum c).bytes[i]? = d.bytes[i]? := by
  have hbytes : ∀ c, (d.withChecksum c).bytes =
      (d.header ++ d.before) ++ (be16 c ++ (d.after ++ d.padding)) := by
    intro c
    simp [Datagram.bytes, Datagram.segment, Datagram.withChecksum]
  have hself : d.bytes = (d.withChecksum d.checksum).bytes := rfl
  rw [hself, hbytes, hbytes]
  rcases lt_or_ge i (d.header ++ d.before).length with hin | hout
  · rw [getElem?_append_left hin, getElem?_append_left hin]
  · have hbehind : ∀ c, (be16 c).length ≤ i - (d.header ++ d.before).length := by
      intro c
      rw [length_append] at hout ⊢
      rw [length_be16]
      omega
    have hget : ∀ c, ((d.header ++ d.before) ++ (be16 c ++ (d.after ++ d.padding)))[i]? =
        (d.after ++ d.padding)[i - (d.header ++ d.before).length - 2]? := by
      intro c
      rw [getElem?_append_right hout, getElem?_append_right (hbehind c), length_be16]
    rw [hget, hget]

/-- `Repair` comes to an end on every packet.  It changes no more than the two octets of the
checksum; a packet that it repairs is valid afterwards; a packet that is no whole TCP or UDP
segment, is not to be checked or is valid stays as it is; and a second repair does nothing. -/
theorem repair_sound_and_minimal (pkt : Bytes) : ∃ res out, repair pkt = .ok (res, out) ∧
    (res = none → out = pkt) ∧ (∀ r, res = some r → ∃ d : Datagram, d.Wf ∧ d.bytes = pkt ∧
      r.proto = d.proto ∧ r.ip = d.ip ∧ r.old = d.checksum ∧
      out = (d.withChecksum r.new).bytes ∧ (d.withChecksum r.new).Wf ∧
      (d.withChecksum r.new).Valid ∧
      ∀ i, i ≠ d.header.length + d.before.length → i ≠ d.header.length + d.before.length + 1 →
        out[i]? = pkt[i]?) ∧
    ((∀ d : Datagram, d.Wf → d.bytes = pkt → d.Unchecked ∨ d.Valid) → res = none) ∧
    repair out = .ok (none, out) := by
  rcases repair_cases pkt with hnone | ⟨d, hwf, rfl⟩
  · exact ⟨none, pkt, hnone, fun _ => rfl, fun _ h => absurd h (by simp), fun _ => rfl, hnone⟩
  · obtain ⟨halone, hfixed⟩ := repaired_repair hwf
    by_cases hgood : d.Unchecked ∨ d.Valid
    · have hnone := halone hgood
      exact ⟨none, d.bytes, hnone, fun _ => rfl, fun _ h => absurd h (by simp), fun _ => rfl, hnone⟩
    · obtain ⟨c, hc, hvalid⟩ := hfixed hgood
      refine ⟨_, _, hc, fun h => absurd h (by simp), ?_, fun h => absurd (h d hwf rfl) hgood, ?_⟩
      · rintro r ⟨⟩
        exact ⟨d, hwf, rfl, rfl, rfl, rfl, rfl, hwf.withChecksum c, hvalid,
          fun i hhi hlo => getElem?_withChecksum d c hhi hlo⟩
      · exact (repaired_repair (hwf.withChecksum c)).1 (.inr hvalid)

end Packets

end Claudia5gc.Upf.L4csum
