import Mathlib.Data.Finset.Insert
import Mathlib.Data.Finset.Basic
import Claudia5gc.Upf.Gtpu

/-!
# The address pools of the SMF

An IPv4 pool hands out the lowest free address of its subnet.  An IPv6 pool hands out the lowest
free /64 of its base prefix, which it keeps as a number.
-/

namespace Claudia5gc.Smf

open Go List Nat Finset Outcome
open Upf (IPNet ipEqual to4 to16)

/-! ## IPv4 -/

/-- The loop of `incIP` over the octets of an address, the last one first. -/
def incOctets : Bytes → Bytes
  | [] => []
  | b :: bs => if b + 1 > 0 then (b + 1) :: bs else (b + 1) :: incOctets bs

def incIP (ip : Bytes) : Bytes := (incOctets ip.reverse).reverse

theorem length_incOctets (bs : Bytes) : (incOctets bs).length = bs.length := by
  induction bs with
  | nil => rfl
  | cons b bs ih =>
    unfold incOctets
    split <;> simp [ih]

theorem length_incIP (ip : Bytes) : (incIP ip).length = ip.length := by
  simp [incIP, length_incOctets]

/-- `IPPool`.  The map from addresses to `true` is a set. -/
structure IPPool where
  subnet : IPNet
  allocated : Finset Bytes := ∅

namespace IPPool

/-- `p.subnet.IP.Mask(p.subnet.Mask)` -/
def network (p : IPPool) : Bytes := zipWith (· &&& ·) p.subnet.ip p.subnet.mask

/-- The conventional address of the router. -/
def gateway (p : IPPool) : Bytes := incIP p.network

/-- The loop of `Allocate`, which counts with wrap-around. -/
def allocateFrom (p : IPPool) : Nat → Bytes → Outcome (Option Bytes)
  | 0, _ => .hang
  | rounds + 1, ip =>
    if p.subnet.contains ip then
      if ip ∉ p.allocated ∧ ¬ ipEqual ip p.subnet.ip ∧ ¬ ipEqual ip p.gateway then .ok (some ip)
      else p.allocateFrom rounds (incIP ip)
    else .ok none

def allocate (p : IPPool) : Outcome (Except Error (Bytes × IPPool)) := do
  match ← p.allocateFrom (256 ^ p.subnet.ip.length) p.network with
  | some ip => return .ok (ip, { p with allocated := insert ip p.allocated })
  | none => return .error (.new "IP pool exhausted")

def release (p : IPPool) (ip : Bytes) : IPPool := { p with allocated := p.allocated.erase ip }

variable {p p' : IPPool} {ip : Bytes}

theorem allocateFrom_eq_some {rounds : Nat} {start : Bytes}
    (h : p.allocateFrom rounds start = .ok (some ip)) :
    ip ∉ p.allocated ∧ ip.length = start.length := by
  induction rounds generalizing start with
  | zero => exact absurd h (by simp [allocateFrom])
  | succ rounds ih =>
    unfold allocateFrom at h
    split at h
    · split_ifs at h with hfree
      · obtain rfl := Option.some.inj (ok.inj h)
        exact ⟨hfree.1, rfl⟩
      · rw [← length_incIP start]
        exact ih h
    · exact absurd (ok.inj h) (by simp)

def Out (p : IPPool) (ip : Bytes) : Prop := ip ∈ p.allocated

theorem allocate_eq_ok (h : p.allocate = .ok (.ok (ip, p'))) :
    ¬ p.Out ip ∧ (∀ ip', p'.Out ip' ↔ ip' = ip ∨ p.Out ip') ∧
      ip.length = p.network.length ∧ p'.subnet = p.subnet := by
  obtain ⟨found, hfound, h⟩ := bind_eq_ok.1 h
  cases found with
  | none => exact absurd (ok.inj h) (by simp)
  | some ip₀ =>
    obtain ⟨rfl, rfl⟩ := Prod.mk.inj (Except.ok.inj (ok.inj h))
    obtain ⟨hfree, hlen⟩ := allocateFrom_eq_some hfound
    exact ⟨hfree, fun ip' => mem_insert, hlen, rfl⟩

theorem out_release (p : IPPool) (ip ip' : Bytes) :
    (p.release ip).Out ip' ↔ p.Out ip' ∧ ip ≠ ip' := by
  show ip' ∈ p.allocated.erase ip ↔ _
  rw [mem_erase, and_comm, ne_comm]
  rfl

end IPPool

/-! ## IPv6 -/

/-- `IPv6Pool`. -/
structure IPv6Pool where
  base : Bytes
  baseOnes : Nat
  allocated : Finset Nat := ∅
  length_base : base.length = 16
  ones_ok : 8 ≤ baseOnes ∧ baseOnes ≤ 64 ∧ baseOnes % 8 = 0
  allocated_lt : ∀ idx ∈ allocated, idx < 1 <<< (64 - baseOnes)

/-- `copy(base, src)` into sixteen octets. -/
def copyTo16 (src : Bytes) : Bytes := (src ++ replicate 16 0).take 16

theorem length_copyTo16 (src : Bytes) : (copyTo16 src).length = 16 := by
  simp [copyTo16]

def newIPv6Pool (cidr : String) (ip network : Bytes) (ones : Nat) : Except Error IPv6Pool :=
  if (to4 ip).isSome then .error (.new (cidr.quote ++ " is not an IPv6 prefix"))
  else if h : ones < 8 ∨ ones > 64 ∨ ones % 8 ≠ 0 then
    .error (.new ("IPv6 base prefix length /" ++ toString ones ++
      " must be a multiple of 8 in [8,64]"))
  else .ok
    { base := copyTo16 ((to16 network).getD [])
      baseOnes := ones
      length_base := length_copyTo16 _
      ones_ok := by omega
      allocated_lt := by simp }

/-- The loop of `prefixForIndex`: the number in `n` octets, written from the last octet on. -/
def writeIndex : Nat → Nat → Bytes
  | 0, _ => []
  | n + 1, v => writeIndex n (v >>> 8) ++ [UInt8.ofNat (v &&& 0xFF)]

/-- The loop of `indexForPrefix`. -/
def readIndex (octets : Bytes) : Nat :=
  octets.foldl (fun idx b => idx <<< 8 ||| b.toNat) 0

theorem length_writeIndex (n v : Nat) : (writeIndex n v).length = n := by
  induction n generalizing v with
  | zero => rfl
  | succ n ih => simp [writeIndex, ih]

theorem readIndex_writeIndex {n v : Nat} (h : v < 256 ^ n) : readIndex (writeIndex n v) = v := by
  induction n generalizing v with
  | zero =>
    rw [writeIndex, readIndex, foldl_nil]
    omega
  | succ n ih =>
    have hbyte : v &&& 0xFF = v % 256 := and_two_pow_sub_one_eq_mod v 8
    have hrest : v >>> 8 = v / 256 := shiftRight_eq_div_pow v 8
    have hdiv : v / 256 < 256 ^ n := by
      omega
    have hfold : readIndex (writeIndex (n + 1) v) =
        readIndex (writeIndex n (v >>> 8)) <<< 8 ||| (UInt8.ofNat (v &&& 0xFF)).toNat := by
      rw [writeIndex, readIndex, foldl_append]
      rfl
    have hoctet : (UInt8.ofNat (v % 256)).toNat = v % 256 := by
      rw [UInt8.toNat_ofNat', mod_mod]
    rw [hfold, hrest, ih hdiv, hbyte, hoctet,
      ← shiftLeft_add_eq_or_of_lt (mod_lt v (by decide)), shiftLeft_eq]
    omega

namespace IPv6Pool

variable (p : IPv6Pool)

def startByte : Nat := p.baseOnes / 8

def max : Nat := 1 <<< (64 - p.baseOnes)

/-- The address of a /64; its mask is 64 ones. -/
def prefixForIndex (idx : Nat) : Bytes :=
  p.base.take p.startByte ++ writeIndex (8 - p.startByte) idx ++ p.base.drop 8

def indexForPrefix (ip : Bytes) : Option Nat :=
  match to16 ip with
  | none => none
  | some ip16 =>
    let idx := readIndex ((ip16.take 8).drop p.startByte)
    if idx ≥ p.max then none else some idx

/-- The loop of `Allocate`: the lowest free number from `idx` on. -/
def allocateFrom : Nat → Nat → Option Nat
  | 0, _ => none
  | left + 1, idx => if idx ∈ p.allocated then allocateFrom left (idx + 1) else some idx

theorem allocateFrom_eq_some {p : IPv6Pool} {left start idx : Nat}
    (h : p.allocateFrom left start = some idx) : idx ∉ p.allocated ∧ idx < start + left := by
  induction left generalizing start with
  | zero => exact absurd h (by simp [allocateFrom])
  | succ left ih =>
    unfold allocateFrom at h
    split_ifs at h with hfree
    · obtain ⟨hfree, hlt⟩ := ih h
      exact ⟨hfree, by omega⟩
    · obtain rfl := Option.some.inj h
      exact ⟨hfree, by omega⟩

def take (idx : Nat) (h : idx < p.max) : IPv6Pool :=
  { p with
    allocated := insert idx p.allocated
    allocated_lt := by
      intro i hi
      rcases mem_insert.1 hi with rfl | hi
      · exact h
      · exact p.allocated_lt i hi }

/-- `Allocate`.  The interface identifier that goes with every /64 is left out. -/
def allocate : Except Error (Bytes × IPv6Pool) :=
  match h : p.allocateFrom p.max 0 with
  | some idx =>
    .ok (p.prefixForIndex idx, p.take idx (by have := (allocateFrom_eq_some h).2; omega))
  | none => .error (.new "IPv6 /64 pool exhausted")

def release (net : Bytes) : IPv6Pool :=
  match p.indexForPrefix net with
  | none => p
  | some idx =>
    { p with
      allocated := p.allocated.erase idx
      allocated_lt := fun i hi => p.allocated_lt i (mem_of_mem_erase hi) }

theorem startByte_le : p.startByte ≤ 8 := by
  have := p.ones_ok
  unfold startByte
  omega

theorem max_eq : p.max = 256 ^ (8 - p.startByte) := by
  have hones := p.ones_ok
  have hexp : 64 - p.baseOnes = 8 * (8 - p.startByte) := by
    unfold startByte
    omega
  rw [max, hexp, one_shiftLeft, pow_mul]
  rfl

theorem length_prefixForIndex (idx : Nat) : (p.prefixForIndex idx).length = 16 := by
  have hle := p.startByte_le
  have hbase := p.length_base
  simp only [prefixForIndex, length_append, length_take, length_drop, length_writeIndex]
  omega

theorem indexForPrefix_prefixForIndex {idx : Nat} (h : idx < p.max) :
    p.indexForPrefix (p.prefixForIndex idx) = some idx := by
  have hle := p.startByte_le
  have hbase := p.length_base
  have h16 : to16 (p.prefixForIndex idx) = some (p.prefixForIndex idx) := by
    simp [to16, p.length_prefixForIndex]
  have hhead : (p.base.take p.startByte).length = p.startByte := by
    rw [length_take]
    omega
  have hoctets : ((p.prefixForIndex idx).take 8).drop p.startByte =
      writeIndex (8 - p.startByte) idx := by
    have hlen : (p.base.take p.startByte ++ writeIndex (8 - p.startByte) idx).length = 8 := by
      rw [length_append, hhead, length_writeIndex]
      omega
    rw [prefixForIndex, take_left' hlen, drop_left' hhead]
  have hread : readIndex (writeIndex (8 - p.startByte) idx) = idx :=
    readIndex_writeIndex (by rwa [← p.max_eq])
  unfold indexForPrefix
  rw [h16]
  dsimp only
  rw [hoctets, hread, if_neg (by omega)]

theorem prefixForIndex_injective {idx idx' : Nat} (h : idx < p.max) (h' : idx' < p.max)
    (heq : p.prefixForIndex idx = p.prefixForIndex idx') : idx = idx' := by
  have hfound := p.indexForPrefix_prefixForIndex h
  rw [heq, p.indexForPrefix_prefixForIndex h'] at hfound
  exact (Option.some.inj hfound).symm

variable {p} {net : Bytes} {p' : IPv6Pool}

/-- The pools differ in what is taken only. -/
def SameBase (p p' : IPv6Pool) : Prop := p'.base = p.base ∧ p'.baseOnes = p.baseOnes

theorem SameBase.prefixForIndex (h : SameBase p p') (idx : Nat) :
    p'.prefixForIndex idx = p.prefixForIndex idx := by
  simp [IPv6Pool.prefixForIndex, startByte, h.1, h.2]

def Out (p : IPv6Pool) (net : Bytes) : Prop := ∃ idx ∈ p.allocated, net = p.prefixForIndex idx

theorem allocate_eq_ok (h : p.allocate = .ok (net, p')) :
    ¬ p.Out net ∧ (∀ net', p'.Out net' ↔ net' = net ∨ p.Out net') ∧ net.length = 16 := by
  unfold allocate at h
  split at h
  · rename_i idx hidx
    obtain ⟨rfl, rfl⟩ := Prod.mk.inj (Except.ok.inj h)
    obtain ⟨hfree, hlt⟩ := allocateFrom_eq_some hidx
    rw [zero_add] at hlt
    refine ⟨?_, fun net' => ⟨?_, ?_⟩, p.length_prefixForIndex idx⟩
    · rintro ⟨i, hi, heq⟩
      rw [p.prefixForIndex_injective hlt (p.allocated_lt i hi) heq] at hfree
      exact hfree hi
    · rintro ⟨i, hi, rfl⟩
      rcases mem_insert.1 hi with rfl | hi
      · exact .inl rfl
      · exact .inr ⟨i, hi, rfl⟩
    · rintro (rfl | ⟨i, hi, rfl⟩)
      · exact ⟨idx, mem_insert_self idx p.allocated, rfl⟩
      · exact ⟨i, mem_insert_of_mem hi, rfl⟩
  · exact absurd h (by simp)

theorem out_release (h : p.Out net) (net' : Bytes) :
    (p.release net).Out net' ↔ p.Out net' ∧ net ≠ net' := by
  obtain ⟨idx, hidx, rfl⟩ := h
  have hlt := p.allocated_lt idx hidx
  have hnum := p.indexForPrefix_prefixForIndex hlt
  have hrelease : (p.release (p.prefixForIndex idx)).allocated = p.allocated.erase idx ∧
      SameBase p (p.release (p.prefixForIndex idx)) := by
    unfold release
    rw [hnum]
    exact ⟨rfl, rfl, rfl⟩
  constructor
  · rintro ⟨i, hi, rfl⟩
    rw [hrelease.1, mem_erase] at hi
    rw [hrelease.2.prefixForIndex]
    refine ⟨⟨i, hi.2, rfl⟩, fun heq => hi.1 ?_⟩
    exact (p.prefixForIndex_injective hlt (p.allocated_lt i hi.2) heq).symm
  · rintro ⟨⟨i, hi, rfl⟩, hne⟩
    refine ⟨i, ?_, (hrelease.2.prefixForIndex i).symm⟩
    rw [hrelease.1, mem_erase]
    refine ⟨?_, hi⟩
    rintro rfl
    exact hne rfl

end IPv6Pool

end Claudia5gc.Smf
