import Claudia5gc.Go.Memory
import Claudia5gc.Go.Run
import Claudia5gc.SecondaryIndex

/-!
# The bindings of the BSF

The BSF keeps which PCF serves a UE address.  A binding is stored under its identifier and found
through two indexes, one by IPv4 address and one by SUPI; every other query walks over all bindings.
The IPv6 prefix has no index, and the IPv4 index is under the address and the domain together.
-/

namespace Claudia5gc.Bsf

open Go SecondaryIndex AList List

structure Snssai where
  sst : Int := 0
  sd : String := ""
  deriving DecidableEq

structure PcfBinding where
  bindingID : String := ""
  supi : String := ""
  gpsi : String := ""
  ipv4Addr : String := ""
  ipv6Prefix : String := ""
  macAddr48 : String := ""
  ipDomain : String := ""
  dnn : String := ""
  snssai : Snssai := {}
  deriving DecidableEq

/-- What a consumer asks for; the empty text for what it does not. -/
structure DiscoveryQuery where
  ipv4Addr : String := ""
  ipv6Prefix : String := ""
  macAddr48 : String := ""
  supi : String := ""
  gpsi : String := ""
  dnn : String := ""
  snssai : Option Snssai := none
  ipDomain : String := ""

structure Store where
  bindings : Map String PcfBinding := ∅
  ipv4Index : Map String String := ∅
  supiIndex : Map String (List String) := ∅

variable {s : Store} {b : PcfBinding} {q : DiscoveryQuery} {id : String}

def ipv4Key (ipv4Addr ipDomain : String) : String := ipv4Addr ++ "|" ++ ipDomain

/-- The identifiers under a SUPI. -/
def Store.supis (s : Store) (supi : String) : List String := (s.supiIndex.lookup supi).getD []

/-- `Create`, with the binding it returns, or none for a duplicate. -/
def Store.create (s : Store) (b : PcfBinding) : Store × Option PcfBinding :=
  let key := ipv4Key b.ipv4Addr b.ipDomain
  if b.ipv4Addr ≠ "" ∧ (s.ipv4Index.lookup key).getD "" ≠ "" then (s, none)
  else
    ({ bindings := s.bindings.insert b.bindingID b
       ipv4Index := if b.ipv4Addr ≠ "" then s.ipv4Index.insert key b.bindingID else s.ipv4Index
       supiIndex :=
         if b.supi ≠ "" then s.supiIndex.insert b.supi (s.supis b.supi ++ [b.bindingID])
         else s.supiIndex }, some b)

def Store.delete (s : Store) (bindingID : String) : Store × Bool :=
  match s.bindings.lookup bindingID with
  | none => (s, false)
  | some b =>
    let filtered := (s.supis b.supi).filter (· ≠ bindingID)
    ({ bindings := s.bindings.erase bindingID
       ipv4Index :=
         if b.ipv4Addr ≠ "" then s.ipv4Index.erase (ipv4Key b.ipv4Addr b.ipDomain)
         else s.ipv4Index
       supiIndex :=
         if b.supi = "" then s.supiIndex
         else if filtered = [] then s.supiIndex.erase b.supi
         else s.supiIndex.insert b.supi filtered }, true)

/-- A parameter that is set is the one of the binding. -/
def agrees (asked has : String) : Bool := asked = "" || has = asked

def matchesQuery (b : PcfBinding) (q : DiscoveryQuery) : Bool :=
  agrees q.ipv4Addr b.ipv4Addr && agrees q.ipv6Prefix b.ipv6Prefix &&
  agrees q.macAddr48 b.macAddr48 && agrees q.supi b.supi && agrees q.gpsi b.gpsi &&
  agrees q.dnn b.dnn && agrees q.ipDomain b.ipDomain &&
  q.snssai.all fun snssai => b.snssai.sst = snssai.sst && agrees snssai.sd b.snssai.sd

/-- `FindByQuery`, where `walk` has the bindings in the order in which the map is walked. -/
def Store.findByQuery (s : Store) (walk : List PcfBinding) (q : DiscoveryQuery) :
    Option PcfBinding :=
  if q.ipv4Addr ≠ "" then
    ((s.ipv4Index.lookup (ipv4Key q.ipv4Addr q.ipDomain)).bind (s.bindings.lookup ·)).filter
      (matchesQuery · q)
  else if q.supi ≠ "" then
    ((s.supis q.supi).filterMap (s.bindings.lookup ·)).find? (matchesQuery · q)
  else walk.find? (matchesQuery · q)

inductive Call where
  | create (b : PcfBinding)
  | delete (bindingID : String)

def Store.next (s : Store) : Call → Store
  | .create b => (s.create b).1
  | .delete bindingID => (s.delete bindingID).1

/-! ## What the store is for -/

/-- A binding is there under an identifier. -/
def Store.Live (s : Store) (id : String) (b : PcfBinding) : Prop := s.bindings.lookup id = some b

/-- The server makes up an identifier for each binding it creates. -/
def Fresh (s : Store) : Call → Prop
  | .create b => b.bindingID ≠ "" ∧ s.bindings.lookup b.bindingID = none
  | .delete _ => True

/-- A text that is there. -/
def given (text : String) : Option String := if text = "" then none else some text

def PcfBinding.ipv4Key? (b : PcfBinding) : Option String :=
  (given b.ipv4Addr).map (ipv4Key · b.ipDomain)

/-- The indexes have the bindings that are there and no others. -/
structure Store.Exact (s : Store) : Prop where
  bindingID : ∀ id b, s.Live id b → id ≠ ""
  ipv4Index : Indexes s.Live PcfBinding.ipv4Key? fun key id => s.ipv4Index.lookup key = some id
  supiIndex : Indexes s.Live (fun b => given b.supi) fun supi id => id ∈ s.supis supi

/-- Two bindings for one UE address. -/
def PcfBinding.SameAddress (b b' : PcfBinding) : Prop :=
  (b.ipv4Addr ≠ "" ∧ b'.ipv4Addr = b.ipv4Addr ∧ b'.ipDomain = b.ipDomain) ∨
    (b.ipv6Prefix ≠ "" ∧ b'.ipv6Prefix = b.ipv6Prefix)

def Store.RefusesDuplicates (s : Store) : Prop :=
  ∀ b, (s.create b).2 = none ↔ ∃ id b', s.Live id b' ∧ b.SameAddress b'

/-- A query finds a binding that satisfies it if there is one, in whatever order the map is
walked. -/
def Store.Finds (s : Store) : Prop :=
  ∀ walk, (∀ b, b ∈ walk ↔ ∃ id, s.Live id b) → ∀ q,
    (∀ b, s.findByQuery walk q = some b → (∃ id, s.Live id b) ∧ matchesQuery b q) ∧
      ((∃ id b, s.Live id b ∧ matchesQuery b q) → (s.findByQuery walk q).isSome)

/-- An address that the store can tell from every other: IPv4, without a domain and without the
separator of the key. -/
structure PcfBinding.Plain (b : PcfBinding) : Prop where
  ipDomain : b.ipDomain = ""
  ipv6Prefix : b.ipv6Prefix = ""
  separator : '|' ∉ b.ipv4Addr.toList

/-! ## The indexes -/

theorem given_eq_some {text text' : String} :
    given text = some text' ↔ text ≠ "" ∧ text = text' := by
  rw [given]
  split <;> simp_all

theorem PcfBinding.ipv4Key?_eq_some {key : String} :
    b.ipv4Key? = some key ↔ b.ipv4Addr ≠ "" ∧ ipv4Key b.ipv4Addr b.ipDomain = key := by
  rw [ipv4Key?, given]
  split <;> simp_all

theorem Store.Exact.empty : ({} : Store).Exact where
  bindingID _ _ h := by simp [Live] at h
  ipv4Index := by simp [Indexes, Live]
  supiIndex := by simp [Indexes, Live, supis]

theorem Store.Exact.create (h : s.Exact) (hid : b.bindingID ≠ "")
    (hfresh : s.bindings.lookup b.bindingID = none) : (s.create b).1.Exact := by
  rw [Store.create]
  split
  · exact h
  rename_i hfree
  have hlive : ∀ id x, lookup id (s.bindings.insert b.bindingID b) = some x ↔
      (id = b.bindingID ∧ b = x) ∨ s.Live id x := by
    intro id x
    rw [Map.lookup_insert_eq_some, Live]
    grind
  -- Under the key of the new binding there is nothing: an entry has an identifier.
  have hnone : b.ipv4Addr ≠ "" → s.ipv4Index.lookup (ipv4Key b.ipv4Addr b.ipDomain) = none := by
    intro ha
    rw [Option.eq_none_iff_forall_ne_some]
    intro id hentry
    obtain ⟨b', hb', -⟩ := (h.ipv4Index _ _).1 hentry
    exact hfree ⟨ha, by simpa [hentry] using h.bindingID _ _ hb'⟩
  refine ⟨?_, h.ipv4Index.insert hlive ?_, h.supiIndex.insert hlive ?_⟩
  · intro id x hx
    rcases (hlive id x).1 hx with ⟨rfl, -⟩ | hx
    · exact hid
    · exact h.bindingID _ _ hx
  · intro key id
    rw [PcfBinding.ipv4Key?_eq_some]
    split
    · rw [Map.lookup_insert_eq_some]
      grind
    · simp_all
  · intro supi id
    rw [given_eq_some, supis]
    dsimp only
    split
    · by_cases hsupi : supi = b.supi
      · subst hsupi
        simp [*, or_comm]
      · rw [lookup_insert_ne hsupi, ← supis]
        grind
    · rw [← supis]
      simp_all

theorem getD_lookup_put (m : Map String (List String)) (k k' : String) (ids : List String) :
    (lookup k' (if ids = [] then m.erase k else m.insert k ids)).getD [] =
      if k' = k then ids else (lookup k' m).getD [] := by
  by_cases h : k' = k
  · subst h
    split <;> simp [*]
  · split <;> simp [h, lookup_erase_ne, lookup_insert_ne]

theorem Store.Exact.delete (h : s.Exact) (bindingID : String) : (s.delete bindingID).1.Exact := by
  rw [Store.delete]
  split
  · exact h
  rename_i b hb
  have hlive : ∀ id x, lookup id (s.bindings.erase bindingID) = some x ↔
      id ≠ bindingID ∧ s.Live id x := by
    intro id x
    rw [Map.lookup_erase_eq_some, Live]
  have hown : ∀ x, s.Live bindingID x → x = b := fun x hx => Option.some.inj (hx.symm.trans hb)
  refine ⟨?_, h.ipv4Index.erase hlive ?_, h.supiIndex.erase hlive ?_⟩
  · intro id x hx
    exact h.bindingID _ _ ((hlive id x).1 hx).2
  · intro key id
    have hentry := h.ipv4Index
    simp only [Indexes, PcfBinding.ipv4Key?_eq_some] at hentry
    split
    · rename_i ha
      have hkey := (hentry _ _).2 ⟨b, hb, ha, rfl⟩
      rw [Map.lookup_erase_eq_some]
      grind
    · grind
  · intro supi id
    have hentry := h.supiIndex supi
    simp only [given_eq_some] at hentry
    rw [supis]
    dsimp only
    split
    · rw [← supis]
      grind
    · rw [getD_lookup_put, ← supis]
      grind

/-! ## Duplicates and queries -/

section Plain

variable (h : s.Exact) (hplain : ∀ id b, s.Live id b → b.Plain)

include h hplain

/-- Among plain addresses the key is that of one address and domain only. -/
theorem Store.Exact.lookup_ipv4Key {a d : String} : s.ipv4Index.lookup (ipv4Key a d) = some id ↔
      ∃ b, s.Live id b ∧ b.ipv4Addr ≠ "" ∧ b.ipv4Addr = a ∧ b.ipDomain = d := by
  refine (h.ipv4Index (ipv4Key a d) id).trans ?_
  simp only [PcfBinding.ipv4Key?_eq_some]
  constructor
  · rintro ⟨b, hb, ha, hkey⟩
    obtain ⟨hdomain, -, hsep⟩ := hplain id b hb
    have htext := congrArg String.toList hkey
    simp only [ipv4Key, hdomain, String.toList_append, append_assoc] at htext
    obtain ⟨haddr, -, hrest⟩ :=
      (append_cons_inj_of_notMem hsep (not_mem_nil)).1 htext
    exact ⟨b, hb, ha, String.toList_inj.1 haddr, hdomain.trans (String.toList_inj.1 hrest)⟩
  · rintro ⟨b, hb, ha, rfl, rfl⟩
    exact ⟨b, hb, ha, rfl⟩

theorem Store.Exact.refusesDuplicates : s.RefusesDuplicates := by
  intro b
  have hrefused : (s.create b).2 = none ↔
      b.ipv4Addr ≠ "" ∧ (s.ipv4Index.lookup (ipv4Key b.ipv4Addr b.ipDomain)).getD "" ≠ "" := by
    rw [Store.create]
    split <;> simp_all
  rw [hrefused]
  constructor
  · rintro ⟨ha, hentry⟩
    cases hid : s.ipv4Index.lookup (ipv4Key b.ipv4Addr b.ipDomain) with
    | none => simp [hid] at hentry
    | some id =>
      obtain ⟨b', hb', -, haddr, hdomain⟩ := (h.lookup_ipv4Key hplain).1 hid
      exact ⟨id, b', hb', .inl ⟨ha, haddr, hdomain⟩⟩
  · rintro ⟨id, b', hb', ⟨ha, haddr, hdomain⟩ | ⟨hp, hsame⟩⟩
    · have hid := (h.lookup_ipv4Key hplain).2 ⟨b', hb', haddr ▸ ha, haddr, hdomain⟩
      exact ⟨ha, by simpa [hid] using h.bindingID id b' hb'⟩
    · exact absurd (hsame.symm.trans (hplain id b' hb').ipv6Prefix) hp

theorem Store.Exact.finds : s.Finds := by
  intro walk hwalk q
  rw [Store.findByQuery]
  split
  · rename_i ha
    constructor
    · intro b hb
      obtain ⟨hb, hmatch⟩ := Option.filter_eq_some_iff.1 hb
      obtain ⟨id, -, hb⟩ := Option.bind_eq_some_iff.1 hb
      exact ⟨⟨id, hb⟩, hmatch⟩
    · rintro ⟨id, b, hb, hmatch⟩
      have haddr : b.ipv4Addr = q.ipv4Addr ∧ b.ipDomain = q.ipDomain := by
        have hdomain := (hplain id b hb).ipDomain
        simp [matchesQuery, agrees] at hmatch
        grind
      have hid := (h.lookup_ipv4Key hplain).2 ⟨b, hb, haddr.1 ▸ ha, haddr⟩
      rw [Store.Live] at hb
      simp [hid, hb, hmatch]
  split_ifs with hsupi
  · constructor
    · intro b hb
      obtain ⟨id, -, hlive⟩ := mem_filterMap.1 (mem_of_find?_eq_some hb)
      exact ⟨⟨id, hlive⟩, by simpa using find?_some hb⟩
    · rintro ⟨id, b, hb, hmatch⟩
      rw [find?_isSome]
      have hid : id ∈ s.supis q.supi := by
        have hgiven : b.supi = q.supi := by
          simp [matchesQuery, agrees] at hmatch
          grind
        exact (h.supiIndex _ _).2 ⟨b, hb, given_eq_some.2 ⟨hgiven ▸ hsupi, hgiven⟩⟩
      exact ⟨b, mem_filterMap.2 ⟨id, hid, hb⟩, hmatch⟩
  · constructor
    · intro b hb
      exact ⟨(hwalk b).1 (mem_of_find?_eq_some hb), by simpa using find?_some hb⟩
    · rintro ⟨id, b, hb, hmatch⟩
      rw [find?_isSome]
      exact ⟨b, (hwalk b).2 ⟨id, hb⟩, hmatch⟩

end Plain

/-- Whatever is created and deleted, the indexes are those of the bindings that are there.  While
these are plain, a binding is refused exactly as a duplicate, and a query finds what satisfies
it. -/
theorem store_correct {ls : List Call} (run : Run ((System.ofFun Store.next).when Fresh) {} ls s) :
    s.Exact ∧ ((∀ id b, s.Live id b → b.Plain) → s.RefusesDuplicates ∧ s.Finds) := by
  have h : s.Exact := by
    refine run.invariant Store.Exact.empty ?_
    rintro s (b | bindingID) _ h ⟨hfresh, rfl⟩
    · exact h.create hfresh.1 hfresh.2
    · exact h.delete bindingID
  exact ⟨h, fun hplain => ⟨h.refusesDuplicates hplain, h.finds hplain⟩⟩

def homeBinding : PcfBinding :=
  { bindingID := "b1", supi := "imsi-001010000000001", ipv4Addr := "10.60.0.1", dnn := "internet" }

/-- A binding in a domain, with a prefix. -/
def domainBinding : PcfBinding :=
  { homeBinding with ipDomain := "corp", ipv6Prefix := "2001:db8::/64" }

theorem run_create (hid : b.bindingID ≠ "") :
    Run ((System.ofFun Store.next).when Fresh) {} [.create b] (({} : Store).next (.create b)) :=
  Run.foldl_allowed ⟨⟨hid, rfl⟩, trivial⟩

theorem live_create {x : PcfBinding} :
    (({} : Store).next (.create b)).Live id x ↔ id = b.bindingID ∧ b = x := by
  rw [Store.Live, Store.next, Store.create, if_neg (by simp)]
  simp only [Map.lookup_insert_eq_some, lookup_empty, reduceCtorEq, and_false, or_false]

theorem store_correct_homeBinding : (({} : Store).next (.create homeBinding)).RefusesDuplicates ∧
      (({} : Store).next (.create homeBinding)).Finds := by
  refine (store_correct (run_create (by decide))).2 ?_
  intro id b hb
  obtain ⟨-, rfl⟩ := live_create.1 hb
  exact ⟨rfl, rfl, by decide⟩

/-- A second binding with the prefix is created, and a query for the address without a domain does
not find the binding. -/
theorem duplicate_prefix_and_missed_domain :
    Run ((System.ofFun Store.next).when Fresh) {} [.create domainBinding]
        (({} : Store).next (.create domainBinding)) ∧
      ¬ (({} : Store).next (.create domainBinding)).RefusesDuplicates ∧
      ¬ (({} : Store).next (.create domainBinding)).Finds := by
  have hlive := (@live_create domainBinding _ _).2 ⟨rfl, rfl⟩
  refine ⟨run_create (by decide), fun hrefuses => ?_, fun hfinds => ?_⟩
  · have hrefused := (hrefuses { bindingID := "b2", ipv6Prefix := "2001:db8::/64" }).2
      ⟨_, domainBinding, hlive, .inr ⟨by decide, rfl⟩⟩
    exact absurd hrefused (by decide)
  · have hfound := (hfinds [domainBinding] (by simp [live_create, eq_comm])
      { ipv4Addr := "10.60.0.1" }).2 ⟨_, domainBinding, hlive, by decide⟩
    exact absurd hfound (by decide)

end Claudia5gc.Bsf
