import Claudia5gc.Go.Memory
import Claudia5gc.Go.Outcome
import Claudia5gc.Smf.BitRate

/-!
# SM policies

The PCF decides on the QoS of a session when its policy is created, and again when the SMF asks for
a change. The creation looks at the overrides, the policy data of the UDR, the subscription and the
defaults of the operator; the update looks at the overrides and the defaults only.
-/

namespace Claudia5gc.Pcf

open Go Smf List Option

/-! ## The handlers -/

/-- What an override, an entry of the UDR or the operator says about a session.  In an override or
an entry, zero and the empty text stand for nothing. -/
@[ext] structure QoS where
  fiveQI : Int
  arpPriority : Int
  ambrUplink : String
  ambrDownlink : String
  deriving DecidableEq

structure SMPolicyDefaults where
  qos : QoS
  authorized5QI : List Int := []
  maxSessionAMBRMbps : Int := 0

/-- `SmPolicyContextData` as it is read; zero and the empty text for what is not there. -/
structure SmPolicyContext where
  supi : String
  dnn : String
  subsDefQos5QI : ℚ := 0
  subsDefQosARP : ℚ := 0
  subsSessAmbrUplink : String := ""
  subsSessAmbrDownlink : String := ""

structure SmPolicyUpdate where
  fiveQI : Int := 0
  ambrUplink : String := ""
  ambrDownlink : String := ""
  supi : String := ""
  dnn : String := ""

inductive QoSSource where
  | operatorDefault
  | udmSubscription
  | udrPolicyData
  | pcfOverride
  | pcfAuthorized
  deriving DecidableEq

structure Decision where
  qos : QoS
  source : QoSSource
  deriving DecidableEq

inductive Reply where
  | problem (status : Nat) (cause detail : String)
  | created (smPolicyId : String) (d : Decision)
  | decided (d : Decision)
  deriving DecidableEq

/-- The buckets of a document, one for each S-NSSAI, in the order in which they are walked. -/
abbrev SmPolicyData := List (String × Map String QoS)

structure Server where
  defaults : SMPolicyDefaults
  policies : Map String SmPolicyContext := ∅
  smPolicyOverrides : Map String QoS := ∅

def overrideKey (supi dnn : String) : String := if dnn = "" then supi else supi ++ "|" ++ dnn

variable (s : Server)

def Server.override (supi dnn : String) : Option QoS :=
  (s.smPolicyOverrides.lookup (overrideKey supi dnn)).or (s.smPolicyOverrides.lookup supi)

def resolveSmPolicyDnnData (dnn : String) : SmPolicyData → Option QoS → Option QoS
  | [], wide => wide
  | (_, e) :: data, wide =>
    match if dnn = "" then none else e.lookup dnn with
    | some d => some d
    | none => resolveSmPolicyDnnData dnn data ((e.lookup "").or wide)

/-- What `q` says, and `d` where it says nothing. -/
def QoS.over (q d : QoS) : QoS where
  fiveQI := if q.fiveQI ≠ 0 then q.fiveQI else d.fiveQI
  arpPriority := if q.arpPriority ≠ 0 then q.arpPriority else d.arpPriority
  ambrUplink := if q.ambrUplink ≠ "" then q.ambrUplink else d.ambrUplink
  ambrDownlink := if q.ambrDownlink ≠ "" then q.ambrDownlink else d.ambrDownlink

/-- The 5QI of an override counts even if it is zero. -/
def QoS.overriding (ov d : QoS) : QoS := { ov.over d with fiveQI := ov.fiveQI }

def SmPolicyContext.subscribed (req : SmPolicyContext) (d : QoS) : Decision where
  qos :=
    { fiveQI := if 0 < req.subsDefQos5QI then ⌊req.subsDefQos5QI⌋ else d.fiveQI
      arpPriority := if 0 < req.subsDefQosARP then ⌊req.subsDefQosARP⌋ else d.arpPriority
      ambrUplink :=
        if req.subsSessAmbrUplink ≠ "" then req.subsSessAmbrUplink else d.ambrUplink
      ambrDownlink :=
        if req.subsSessAmbrDownlink ≠ "" then req.subsSessAmbrDownlink else d.ambrDownlink }
  source := if 0 < req.subsDefQos5QI then .udmSubscription else .operatorDefault

/-- The decision at the creation.  `udr` is what the UDR answers, if it is asked and answers. -/
def Server.decide (req : SmPolicyContext) (udr : Option SmPolicyData) : Decision :=
  let base := req.subscribed s.defaults.qos
  match s.override req.supi req.dnn with
  | some ov => ⟨ov.overriding base.qos, .pcfOverride⟩
  | none =>
    match udr.bind (resolveSmPolicyDnnData req.dnn · none) with
    | some d => ⟨d.over base.qos, .udrPolicyData⟩
    | none => base

def Server.handleCreateSmPolicy (smPolicyId : String)
    (body : Except String SmPolicyContext) (udr : Option SmPolicyData) : Reply × Server :=
  match body with
  | .error e => (.problem 400 "MANDATORY_IE_MISSING" e, s)
  | .ok req =>
    (.created smPolicyId (s.decide req udr),
      { s with policies := s.policies.insert smPolicyId req })

def Server.is5QIAuthorized (fiveQI : Int) : Prop :=
  s.defaults.authorized5QI = [] ∨ fiveQI ∈ s.defaults.authorized5QI

instance (s : Server) (fiveQI : Int) : Decidable (s.is5QIAuthorized fiveQI) :=
  inferInstanceAs (Decidable (_ ∨ _))

def atoi (text : List Char) : Option Int :=
  let (sign, ds) : Int × List Char :=
    match text with
    | '-' :: ds => (-1, ds)
    | '+' :: ds => (1, ds)
    | ds => (1, ds)
  let v := sign * digits ds
  if ds ≠ [] ∧ ds.all isDigit ∧ -2 ^ 63 ≤ v ∧ v < 2 ^ 63 then some v else none

/-- The number at the head of the text, and zero for what is not a whole number. -/
def ambrMbps (text : String) : Int :=
  (atoi ((text.toList.dropWhile isSpace).takeWhile (!isSpace ·))).getD 0

/-- What an update asks for; the operator's defaults where it asks for nothing. -/
def Server.requested (req : SmPolicyUpdate) : QoS where
  fiveQI := if 0 < req.fiveQI then req.fiveQI else s.defaults.qos.fiveQI
  arpPriority := s.defaults.qos.arpPriority
  ambrUplink := if req.ambrUplink ≠ "" then req.ambrUplink else s.defaults.qos.ambrUplink
  ambrDownlink := if req.ambrDownlink ≠ "" then req.ambrDownlink else s.defaults.qos.ambrDownlink

/-- The check of a request against the operator's policy. -/
def Server.authorize (q : QoS) : Reply :=
  let fiveQI := q.fiveQI
  let max := s.defaults.maxSessionAMBRMbps
  if ¬ s.is5QIAuthorized fiveQI then
    .problem 403 "REQUESTED_QOS_NOT_AUTHORIZED" s!"5qi {fiveQI} not in authorized set"
  else if 0 < max ∧ (max < ambrMbps q.ambrUplink ∨ max < ambrMbps q.ambrDownlink) then
    .problem 403 "REQUESTED_QOS_NOT_AUTHORIZED"
      s!"requested Session-AMBR exceeds authorized ceiling of {max} Mbps"
  else .decided ⟨q, .pcfAuthorized⟩

def Server.handleUpdateSmPolicy (smPolicyId : String)
    (body : Except String SmPolicyUpdate) : Reply :=
  match s.policies.lookup smPolicyId with
  | none => .problem 404 "CONTEXT_NOT_FOUND" ("no SM policy with id " ++ smPolicyId)
  | some stored =>
    match body with
    | .error e => .problem 400 "INVALID_BODY" e
    | .ok req =>
      let supi := if stored.supi = "" then req.supi else stored.supi
      let dnn := if stored.dnn = "" then req.dnn else stored.dnn
      match s.override supi dnn with
      | some ov => .decided ⟨ov.overriding (s.requested req), .pcfOverride⟩
      | none => s.authorize (s.requested req)

/-! ## The ceiling of the Session-AMBR -/

variable {text : String} {n : Number} {u : BitRateUnit} {s : Server} {d : Decision}

theorem digit_not_space {c : Char} (h : isDigit c = true) :
    isSpace c = false ∧ c ≠ '-' ∧ c ≠ '+' := by
  have hrange : 48 ≤ c.toNat ∧ c.toNat ≤ 57 := by
    simpa [isDigit, Char.le_def, UInt32.le_iff_toNat_le] using h
  refine ⟨?_, ?_, ?_⟩
  · simp [isSpace]
    omega
  · rintro rfl
    exact absurd hrange (by decide)
  · rintro rfl
    exact absurd hrange (by decide)

theorem atoi_digits {ds : List Char} (hne : ds ≠ []) (hdigits : ds.all isDigit = true)
    (hmax : digits ds < 2 ^ 63) : atoi ds = some (digits ds : Int) := by
  obtain ⟨c, cs, rfl⟩ := exists_cons_of_ne_nil hne
  obtain ⟨_, hminus, hplus⟩ := digit_not_space (all_eq_true.1 hdigits c mem_cons_self)
  have hparts : (match c :: cs with
      | '-' :: ds => ((-1 : Int), ds)
      | '+' :: ds => (1, ds)
      | ds => (1, ds)) = (1, c :: cs) := by
    split <;> simp_all
  unfold atoi
  rw [hparts]
  dsimp only
  rw [one_mul, if_pos ⟨hne, hdigits, by omega, by omega⟩]

/-- The text is one whose rate in Mbps is at most the number that the check reads. -/
def ReadInMbps (n : Number) (u : BitRateUnit) : Prop :=
  n.frac = [] ∧ u.kbps ≤ 1000 ∧ digits n.whole < 2 ^ 63

theorem exactKbps_le (hrate : IsBitRate (trimSpace text.toList) n u) (h : ReadInMbps n u) :
    exactKbps n u ≤ 1000 * ambrMbps text := by
  obtain ⟨hfrac, hunit, hmax⟩ := h
  obtain ⟨number, ⟨hne, hdigits, hnumber⟩, htext⟩ := hrate
  obtain rfl : number = n.whole := by simpa [hfrac] using hnumber
  have hfield : (text.toList.dropWhile isSpace).takeWhile (!isSpace ·) = n.whole := by
    obtain ⟨blanks, hblanks⟩ := rdropWhile_prefix isSpace (text.toList.dropWhile isSpace)
    rw [← hblanks, show (text.toList.dropWhile isSpace).rdropWhile isSpace = _ from htext,
      append_assoc, takeWhile_append_of_pos, cons_append,
      takeWhile_cons_of_neg (by decide), append_nil]
    intro c hc
    rw [(digit_not_space (all_eq_true.1 hdigits c hc)).1]
    rfl
  have hvalue : n.value = digits n.whole := by simp [Number.value, hfrac, digits]
  rw [ambrMbps, hfield, atoi_digits hne hdigits hmax, exactKbps, hvalue, mul_comm]
  exact mul_le_mul_of_nonneg_right hunit (Nat.cast_nonneg _)

def Server.Grants (s : Server) (smPolicyId : String) (req : SmPolicyUpdate) (d : Decision) : Prop :=
  s.handleUpdateSmPolicy smPolicyId (.ok req) = .decided d ∧ d.source = .pcfAuthorized

theorem Server.Grants.checked {smPolicyId : String} {req : SmPolicyUpdate}
    (h : s.Grants smPolicyId req d) : s.is5QIAuthorized d.qos.fiveQI ∧
      (0 < s.defaults.maxSessionAMBRMbps → ∀ text ∈ [d.qos.ambrUplink, d.qos.ambrDownlink],
        ambrMbps text ≤ s.defaults.maxSessionAMBRMbps) := by
  obtain ⟨h, hsource⟩ := h
  unfold handleUpdateSmPolicy at h
  split at h
  · cases h
  · dsimp only at h
    split at h
    · cases h
      cases hsource
    · unfold authorize at h
      dsimp only at h
      split_ifs at h with hfive hceiling
      cases h
      refine ⟨hfive, fun hmax => ?_⟩
      rw [not_and, not_or, not_lt, not_lt] at hceiling
      simpa using hceiling hmax

/-- An operator with a ceiling of 100 Mbps, and a policy of a subscriber. -/
def labServer : Server where
  defaults := ⟨⟨9, 8, "100 Mbps", "100 Mbps"⟩, [], 100⟩
  policies := AList.insert "p" ⟨"imsi-1", "internet", 0, 0, "", ""⟩ ∅

/-! ## Creation and update -/

/-- The update asks for nothing, and names no other subscriber or DNN than the policy. -/
structure SmPolicyUpdate.NoChange (upd : SmPolicyUpdate) (req : SmPolicyContext) : Prop where
  fiveQI : upd.fiveQI = 0
  ambr : upd.ambrUplink = "" ∧ upd.ambrDownlink = ""
  supi : req.supi = "" → upd.supi = ""
  dnn : req.dnn = "" → upd.dnn = ""

/-- The override leaves nothing open that the subscription decides otherwise than the operator; or
without an override, the creation has decided as the defaults do that the operator may have set. -/
def Server.Agrees (s : Server) (req : SmPolicyContext) (udr : Option SmPolicyData) : Prop :=
  let base := (req.subscribed s.defaults.qos).qos
  match s.override req.supi req.dnn with
  | some ov =>
    (ov.arpPriority = 0 → base.arpPriority = s.defaults.qos.arpPriority) ∧
      (ov.ambrUplink = "" → base.ambrUplink = s.defaults.qos.ambrUplink) ∧
      (ov.ambrDownlink = "" → base.ambrDownlink = s.defaults.qos.ambrDownlink)
  | none => (s.decide req udr).qos = s.defaults.qos ∧
    s.authorize s.defaults.qos = .decided ⟨s.defaults.qos, .pcfAuthorized⟩

theorem ite_not_eq_iff {α : Type} {p : Prop} [Decidable p] {x a b : α} :
    (if ¬p then x else a) = (if ¬p then x else b) ↔ (p → b = a) := by
  by_cases hp : p
  · simp [hp, eq_comm]
  · simp [hp]

theorem QoS.overriding_eq_iff {ov base d : QoS} : ov.overriding d = ov.overriding base ↔
    (ov.arpPriority = 0 → base.arpPriority = d.arpPriority) ∧
      (ov.ambrUplink = "" → base.ambrUplink = d.ambrUplink) ∧
      (ov.ambrDownlink = "" → base.ambrDownlink = d.ambrDownlink) := by
  rw [QoS.ext_iff]
  simp only [QoS.overriding, QoS.over, true_and]
  exact and_congr ite_not_eq_iff (and_congr ite_not_eq_iff ite_not_eq_iff)

theorem Server.handleUpdate_noChange {req : SmPolicyContext} {upd : SmPolicyUpdate}
    (hnone : upd.NoChange req) {smPolicyId : String}
    (hstored : s.policies.lookup smPolicyId = some req) :
    s.handleUpdateSmPolicy smPolicyId (.ok upd) = match s.override req.supi req.dnn with
      | some ov => .decided ⟨ov.overriding s.defaults.qos, .pcfOverride⟩
      | none => s.authorize s.defaults.qos := by
  have hrequested : s.requested upd = s.defaults.qos := by
    simp [Server.requested, hnone.fiveQI, hnone.ambr]
  have hsupi : (if req.supi = "" then upd.supi else req.supi) = req.supi := by
    split_ifs with h
    · rw [hnone.supi h, h]
    · rfl
  have hdnn : (if req.dnn = "" then upd.dnn else req.dnn) = req.dnn := by
    split_ifs with h
    · rw [hnone.dnn h, h]
    · rfl
  unfold handleUpdateSmPolicy
  rw [hstored]
  dsimp only
  rw [hsupi, hdnn, hrequested]

theorem authorize_eq_decided {q : QoS} (h : s.authorize q = .decided d) :
    d = ⟨q, .pcfAuthorized⟩ := by
  unfold Server.authorize at h
  dsimp only at h
  split_ifs at h
  cases h
  rfl

/-! ## Which entry of the UDR counts -/

def exactly (dnn : String) (e : Map String QoS) : Option QoS :=
  if dnn = "" then none else e.lookup dnn

variable {dnn : String} {data walk walk' : SmPolicyData} {q : QoS}

/-- The first entry for the DNN, or else the last one for all DNNs. -/
theorem resolve_eq (dnn : String) (data : SmPolicyData) (wide : Option QoS) :
    resolveSmPolicyDnnData dnn data wide = (data.findSome? fun b => exactly dnn b.2).or
      ((data.filterMap fun b => b.2.lookup "").getLast?.or wide) := by
  induction data generalizing wide with
  | nil => rfl
  | cons b data ih =>
    obtain ⟨key, e⟩ := b
    rw [resolveSmPolicyDnnData, findSome?_cons]
    change (match exactly dnn e with
      | some d => some d
      | none => resolveSmPolicyDnnData dnn data ((e.lookup "").or wide)) = _
    cases exactly dnn e with
    | some d => rfl
    | none =>
      rw [ih]
      cases hwide : e.lookup "" with
      | none => simp [hwide]
      | some w => cases h : (data.filterMap fun b => b.2.lookup "").getLast? <;>
          simp [hwide, h, getLast?_cons]

theorem resolve_eq_none_iff : resolveSmPolicyDnnData dnn walk none = none ↔
    ∀ b ∈ walk, exactly dnn b.2 = none ∧ b.2.lookup "" = none := by
  simp [resolve_eq, or_eq_none_iff, findSome?_eq_none_iff, forall_and]

/-- The entries that can be met first, over all orders of the buckets. -/
def Candidate (dnn : String) (data : SmPolicyData) (q : QoS) : Prop :=
  (∃ b ∈ data, exactly dnn b.2 = some q) ∨
    (∀ b ∈ data, exactly dnn b.2 = none) ∧ ∃ b ∈ data, b.2.lookup "" = some q

theorem exists_walk_iff : (∃ walk, walk.Perm data ∧ resolveSmPolicyDnnData dnn walk none = some q) ↔
      Candidate dnn data q := by
  constructor
  · rintro ⟨walk, hperm, h⟩
    rw [resolve_eq, or_none, or_eq_some_iff] at h
    rcases h with h | ⟨hnone, h⟩
    · obtain ⟨b, hb, hq⟩ := exists_of_findSome?_eq_some h
      exact .inl ⟨b, hperm.mem_iff.1 hb, hq⟩
    · obtain ⟨b, hb, hq⟩ := mem_filterMap.1 (mem_of_getLast? h)
      exact .inr ⟨fun b hb => findSome?_eq_none_iff.1 hnone b (hperm.mem_iff.2 hb), b,
        hperm.mem_iff.1 hb, hq⟩
  · rintro (⟨b, hb, hq⟩ | ⟨hnone, b, hb, hq⟩)
    · -- the bucket comes first
      obtain ⟨before, after, rfl⟩ := append_of_mem hb
      refine ⟨b :: (before ++ after), perm_middle.symm, ?_⟩
      rw [resolve_eq, findSome?_cons, hq]
      rfl
    · -- the bucket comes last
      obtain ⟨before, after, rfl⟩ := append_of_mem hb
      have hperm : (before ++ after ++ [b]).Perm (before ++ b :: after) :=
        (perm_append_singleton b _).trans perm_middle.symm
      refine ⟨_, hperm, ?_⟩
      rw [resolve_eq, findSome?_eq_none_iff.2 fun b hb => hnone b (hperm.mem_iff.1 hb),
        filterMap_append]
      simp [hq]

/-- The PCF keeps its own entries under the S-NSSAI "0". -/
def udrSmPolicyBucketKey : String := "0"

/-- An entry for the session in the bucket of its S-NSSAI, or in that of the PCF. -/
def OwnEntry (snssai dnn : String) (data : SmPolicyData) (q : QoS) : Prop :=
  ∃ b ∈ data, (b.1 = snssai ∨ b.1 = udrSmPolicyBucketKey) ∧
    (exactly dnn b.2 = some q ∨ b.2.lookup "" = some q)

structure Server.SliceFaithful (s : Server) (snssai : String) (req : SmPolicyContext)
    (data : SmPolicyData) : Prop where
  order : ∀ walk walk', walk.Perm data → walk'.Perm data →
    s.decide req (some walk) = s.decide req (some walk')
  slice : ∀ walk q, walk.Perm data → s.override req.supi req.dnn = none →
    resolveSmPolicyDnnData req.dnn walk none = some q →
    (∃ own, OwnEntry snssai req.dnn data own) → OwnEntry snssai req.dnn data q

theorem decide_of_resolve {req : SmPolicyContext} (hnone : s.override req.supi req.dnn = none)
    (hq : resolveSmPolicyDnnData req.dnn walk none = some q) : s.decide req (some walk) =
      ⟨q.over (req.subscribed s.defaults.qos).qos, .udrPolicyData⟩ := by
  rw [Server.decide, hnone, bind_some, hq]

/-- The decision depends on neither the order of the buckets nor another slice exactly if all
entries that can be met come to the same decision, and are in the slice's own buckets when these
have any. -/
theorem sliceFaithful_iff (s : Server) (snssai : String) (req : SmPolicyContext)
    (data : SmPolicyData) : s.SliceFaithful snssai req data ↔ (s.override req.supi req.dnn = none →
        (∀ q q', Candidate req.dnn data q → Candidate req.dnn data q' →
          q.over (req.subscribed s.defaults.qos).qos =
            q'.over (req.subscribed s.defaults.qos).qos) ∧
        ((∃ own, OwnEntry snssai req.dnn data own) →
          ∀ q, Candidate req.dnn data q → OwnEntry snssai req.dnn data q)) := by
  constructor
  · rintro ⟨horder, hslice⟩ hnone
    refine ⟨fun q q' hq hq' => ?_, fun hown q hq => ?_⟩
    · obtain ⟨walk, hwalk, hres⟩ := exists_walk_iff.2 hq
      obtain ⟨walk', hwalk', hres'⟩ := exists_walk_iff.2 hq'
      have heq := horder walk walk' hwalk hwalk'
      rw [decide_of_resolve hnone hres, decide_of_resolve hnone hres'] at heq
      exact congrArg Decision.qos heq
    · obtain ⟨walk, hwalk, hres⟩ := exists_walk_iff.2 hq
      exact hslice walk q hwalk hnone hres hown
  · intro h
    refine ⟨fun walk walk' hwalk hwalk' => ?_, fun walk q hwalk hnone hres hown =>
      (h hnone).2 hown q (exists_walk_iff.1 ⟨walk, hwalk, hres⟩)⟩
    cases hov : s.override req.supi req.dnn with
    | some ov => simp only [Server.decide, hov]
    | none =>
      cases hres : resolveSmPolicyDnnData req.dnn walk none with
      | none =>
        have hres' : resolveSmPolicyDnnData req.dnn walk' none = none :=
          resolve_eq_none_iff.2 fun b hb =>
            resolve_eq_none_iff.1 hres b ((hwalk.trans hwalk'.symm).mem_iff.2 hb)
        simp only [Server.decide, hov, bind_some, hres, hres']
      | some q =>
        obtain ⟨q', hres'⟩ : ∃ q', resolveSmPolicyDnnData req.dnn walk' none = some q' := by
          refine ne_none_iff_exists'.1 fun hnone => ?_
          have hnone' := resolve_eq_none_iff.2 fun b hb =>
            resolve_eq_none_iff.1 hnone b ((hwalk.trans hwalk'.symm).mem_iff.1 hb)
          exact absurd (hnone'.symm.trans hres) (by simp)
        rw [decide_of_resolve hov hres, decide_of_resolve hov hres', (h hov).1 q q'
          (exists_walk_iff.1 ⟨walk, hwalk, hres⟩) (exists_walk_iff.1 ⟨walk', hwalk', hres'⟩)]

/-- Two slices with the same DNN: what the session of the first gets depends on the order. -/
def sharedDNN : SmPolicyData :=
  [("1-000001", AList.insert "internet" ⟨5, 0, "", ""⟩ ∅),
    ("1-000002", AList.insert "internet" ⟨6, 0, "", ""⟩ ∅)]

theorem other_slice_decides : ¬ labServer.SliceFaithful "1-000001"
    { supi := "imsi-1", dnn := "internet" } sharedDNN := by
  intro h
  have heq := h.order _ _ (.refl _) (reverse_perm _)
  exact absurd heq (by decide +kernel)

end Claudia5gc.Pcf
