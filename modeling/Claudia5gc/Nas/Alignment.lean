import Claudia5gc.Nas.UplinkTransport

/-!
# Alignment with the optional elements of a Registration Request

A decoder that takes an element for longer or shorter than it is reads octets of values as
identifiers from there on.  `DecodeRegistrationRequest` stays with the elements as long as none of
them is a last visited registered TAI, which has no length octet and is read as if it had one.
-/

namespace Claudia5gc.Nas

open Go List Proc UInt8

variable (t : RequestCut) {r v r' : Bytes} {es : List RequestIE} {fuel : Nat} {iei : UInt8}

/-! ## Codings -/

/-- The coding can carry the value. -/
def Layout.Admits : Layout → Bytes → Prop
  | .bare, v => v = []
  | .fixed n, v => v.length = n
  | .lv, v => v.length ≤ 255
  | .lve, v => v.length ≤ 65535

def Layout.encode : Layout → Bytes → Bytes
  | .bare, _ => []
  | .fixed _, v => v
  | .lv, v => ofNat v.length :: v
  | .lve, v => be16 v.length ++ v

def Layout.lengthOctets : Layout → Nat
  | .lv => 1
  | .lve => 2
  | _ => 0

/-- The octets behind the IEI end before the value does. -/
def Layout.Cut : Layout → Bytes → Prop
  | .bare, _ => False
  | .fixed n, r => r.length < n
  | .lv, r => lvFits r = false
  | .lve, r => ∀ hi lo v, r = hi :: lo :: v → v.length < beNat hi lo

theorem lv_encode (h : v.length ≤ 255) (rest : Bytes) :
    lvFits (Layout.lv.encode v ++ rest) = true ∧ lvValue (Layout.lv.encode v ++ rest) = v ∧
      lvTail (Layout.lv.encode v ++ rest) = rest := by
  have hlen : (ofNat v.length).toNat = v.length := by
    rw [toNat_ofNat', Nat.mod_eq_of_lt (by omega)]
  simp [Layout.encode, lvFits, lvValue, lvTail, hlen]

theorem lve_encode (h : v.length ≤ 65535) (rest : Bytes) :
    lveTail (Layout.lve.encode v ++ rest) = rest := by
  have hlen := beNat_be16 h
  simp [Layout.encode, be16, lveTail, hlen]

/-! ## The elements of a Registration Request -/

def ieiLastVisitedTAI : UInt8 := 0x52

/-- The coding that TS 24.501 gives an element. -/
def registrationRequestLayout (iei : UInt8) : Layout :=
  if 0x80 ≤ iei then .bare
  else if iei = ieiLastVisitedTAI then .fixed 6
  else if iei ∈ registrationRequestTLVE then .lve
  else .lv

/-- A well-formed optional element. -/
structure RequestIE where
  iei : UInt8
  value : Bytes
  admits : (registrationRequestLayout iei).Admits value
  capability : iei = ieiUESecurityCapability → 2 ≤ value.length
  nssai : iei = ieiRequestedNSSAI → nssaiEnd value = .whole

namespace RequestIE

def octets (e : RequestIE) : Bytes := e.iei :: (registrationRequestLayout e.iei).encode e.value

def securityCapability (e : RequestIE) : Option UESecurityCapability :=
  if e.iei = ieiUESecurityCapability then
    match decodeUESecurityCapability e.value with
    | .ok cap => some cap
    | _ => none
  else none

def requestedNSSAI (e : RequestIE) : Option NSSAI :=
  if e.iei = ieiRequestedNSSAI then
    match decodeNSSAI e.value with
    | .ok (nssai, _) => some nssai
    | _ => none
  else none

def taken (r : RegistrationRequest) (e : RequestIE) : RegistrationRequest :=
  { r with
    fiveGMMCapability := if e.iei = iei5GMMCapability then e.value else r.fiveGMMCapability
    ueSecurityCapability := e.securityCapability.or r.ueSecurityCapability
    requestedNSSAI := e.requestedNSSAI.or r.requestedNSSAI }

theorem layout_lv (h : iei ∈ [iei5GMMCapability, ieiUESecurityCapability,
    ieiRequestedNSSAI]) : registrationRequestLayout iei = .lv := by
  simp only [mem_cons, not_mem_nil, or_false] at h
  rcases h with rfl | rfl | rfl <;> rfl

theorem layout_lve (h : iei ∈ registrationRequestTLVE) : registrationRequestLayout iei = .lve := by
  simp only [registrationRequestTLVE, mem_cons, not_mem_nil, or_false] at h
  rcases h with rfl | rfl | rfl | rfl | rfl | rfl <;> rfl

theorem layout_of_lt (hlt : iei < 0x80) (hE : iei ∉ registrationRequestTLVE)
    (htai : iei ≠ ieiLastVisitedTAI) : registrationRequestLayout iei = .lv := by
  rw [registrationRequestLayout, if_neg (UInt8.not_le.mpr hlt), if_neg htai, if_neg hE]

theorem layout_of_ge (hge : ¬iei < 0x80) : registrationRequestLayout iei = .bare :=
  if_pos (UInt8.not_lt.mp hge)

/-- The decoder takes an element and stands behind it, unless it is a TAI. -/
theorem run_registrationRequestIE (e : RequestIE) (htai : e.iei ≠ ieiLastVisitedTAI)
    (r : RegistrationRequest) (rest : Bytes) : (registrationRequestIE e.iei r).run
        ((registrationRequestLayout e.iei).encode e.value ++ rest) =
      (.ok (.next (taken r e)), rest) := by
  obtain ⟨iei, value, admits, capability, nssai⟩ := e
  unfold registrationRequestIE taken securityCapability requestedNSSAI
  dsimp only
  by_cases h10 : iei = iei5GMMCapability
  · subst h10
    obtain ⟨hfits, hvalue, htail⟩ := lv_encode admits rest
    rw [if_pos rfl, layout_lv (by decide), run_bind_ok (run_requireLV_fits hfits), hvalue, htail]
    rfl
  by_cases h2E : iei = ieiUESecurityCapability
  · subst h2E
    obtain ⟨hfits, hvalue, htail⟩ := lv_encode admits rest
    obtain ⟨cap, hcap⟩ := decodeUESecurityCapability_ok (capability rfl)
    rw [if_neg h10, if_pos rfl, layout_lv (by decide),
      run_bind_ok (run_requireLV_fits hfits), hvalue, htail, hcap]
    rfl
  by_cases h2F : iei = ieiRequestedNSSAI
  · subst h2F
    obtain ⟨hfits, hvalue, htail⟩ := lv_encode admits rest
    have hdecode := decodeNSSAI_eq value
    rw [nssai rfl] at hdecode
    obtain ⟨n, hn⟩ := hdecode
    rw [if_neg h10, if_neg h2E, if_pos rfl, layout_lv (by decide),
      run_bind_ok (run_requireLV_fits hfits), hvalue, htail, hn]
    rfl
  · simp only [h10, h2E, h2F, if_false, Option.none_or]
    by_cases hE : iei ∈ registrationRequestTLVE
    · rw [layout_lve hE] at admits ⊢
      rw [if_pos hE, run_bind_ok (run_skipLVE _), lve_encode admits]
      rfl
    rw [if_neg hE]
    by_cases hlt : iei < 0x80
    · rw [layout_of_lt hlt hE htai] at admits ⊢
      rw [if_pos hlt, run_bind_ok (run_skipLV _), (lv_encode admits rest).2.2]
      rfl
    · rw [layout_of_ge hlt, if_neg hlt]
      rfl

def lastCapability (es : List RequestIE) : Option UESecurityCapability :=
  (es.filterMap securityCapability).getLast?

def lastNSSAI (es : List RequestIE) : Option NSSAI :=
  (es.filterMap requestedNSSAI).getLast?

theorem getLast?_filterMap_cons {α : Type} (f : RequestIE → Option α) (e : RequestIE)
    (es : List RequestIE) :
    ((e :: es).filterMap f).getLast? = (es.filterMap f).getLast?.or (f e) := by
  cases h : f e with
  | none => simp [h]
  | some a =>
    rw [filterMap_cons_some h, getLast?_cons]
    cases (es.filterMap f).getLast? <;> rfl

theorem foldl_taken (es : List RequestIE) (r : RegistrationRequest) :
    (es.foldl taken r).ueSecurityCapability = (lastCapability es).or r.ueSecurityCapability ∧
      (es.foldl taken r).requestedNSSAI = (lastNSSAI es).or r.requestedNSSAI := by
  induction es generalizing r with
  | nil => exact ⟨rfl, rfl⟩
  | cons e es ih =>
    rw [foldl_cons, (ih (taken r e)).1, (ih (taken r e)).2]
    simp only [lastCapability, lastNSSAI, getLast?_filterMap_cons, taken, Option.or_assoc, and_self]

end RequestIE

/-! ## The loop -/

variable {α : Type}

variable (body : UInt8 → α → Proc Reader (Ctl α))

def ieLoop (fuel : Nat) (a : α) : Proc Reader α :=
  loop (fun r => decide (1 ≤ r.length))
    (fun a => do
      match ← readByte.attempt with
      | .error _ => pure (.done a)
      | .ok iei => body iei a)
    fuel a

theorem run_forEachIE (a : α) (r : Bytes) :
    (forEachIE 1 body a).run r = (ieLoop body r.length a).run r := rfl

theorem run_ieLoop_cons {body : UInt8 → α → Proc Reader (Ctl α)} {a a' : α}
    (h : (body iei a).run r = (.ok (.next a'), r')) (fuel : Nat) :
    (ieLoop body (fuel + 1) a).run (iei :: r) = (ieLoop body fuel a').run r' := by
  have hread : readByte.attempt.run (iei :: r) = (.ok (.ok iei), r) := rfl
  rw [ieLoop, run_loop_step (by simp), run_bind_ok hread, h]
  rfl

theorem RequestIE.length_octets_pos (e : RequestIE) : 1 ≤ e.octets.length := by
  rw [octets, length_cons]
  omega

theorem run_ieLoop_octets (hes : ∀ e ∈ es, e.iei ≠ ieiLastVisitedTAI) (r : RegistrationRequest)
    (hfuel : (es.flatMap RequestIE.octets).length ≤ fuel) :
    (ieLoop registrationRequestIE fuel r).run (es.flatMap RequestIE.octets) =
      (.ok (es.foldl RequestIE.taken r), []) := by
  induction es generalizing r fuel with
  | nil => exact run_loop_exit rfl
  | cons e es ih =>
    have hpos := e.length_octets_pos
    rw [flatMap_cons, length_append] at hfuel
    obtain ⟨fuel, rfl⟩ : ∃ n, fuel = n + 1 := ⟨fuel - 1, by omega⟩
    have hstep := e.run_registrationRequestIE (hes e mem_cons_self) r
      (es.flatMap RequestIE.octets)
    rw [flatMap_cons, RequestIE.octets, cons_append, run_ieLoop_cons hstep]
    exact ih (fun e' he' => hes e' (mem_cons_of_mem _ he')) _ (by omega)

/-! ## The mandatory part -/

/-- A well-formed mandatory part. -/
structure RequestHead where
  combined : UInt8
  identity : Bytes
  length_le : identity.length ≤ 65535
  fits : mobileIdentityFits identity = true

def RequestHead.octets (h : RequestHead) : Bytes :=
  h.combined :: (be16 h.identity.length ++ h.identity)

theorem RequestHead.run (h : RequestHead) (rest : Bytes) :
    ∃ m, registrationRequestHead.run (h.octets ++ rest) = (.ok m, rest) ∧
      m.ueSecurityCapability = none ∧ m.requestedNSSAI = none := by
  obtain ⟨mi, hmi⟩ := decodeMobileIdentity_ok h.fits
  have hlen := beNat_be16 h.length_le
  have hread : (readBytes h.identity.length).run (h.identity ++ rest) = (.ok h.identity, rest) := by
    rw [run_readBytes_of_le (by simp), take_left, drop_left]
  rw [RequestHead.octets, be16, registrationRequestHead]
  simp only [cons_append, nil_append]
  rw [run_bind_ok (run_readByte_cons _ _), run_bind_ok (run_readByte_cons _ _),
    run_bind_ok (run_readByte_cons _ _), hlen, run_bind, run_wrapErr, hread]
  dsimp only
  rw [hmi]
  exact ⟨_, rfl, rfl, rfl⟩

theorem decodeRegistrationRequest_octets (h : RequestHead)
    (hes : ∀ e ∈ es, e.iei ≠ ieiLastVisitedTAI) :
    ∃ r, decodeRegistrationRequest (h.octets ++ es.flatMap RequestIE.octets) = .ok r ∧
      r.ueSecurityCapability = RequestIE.lastCapability es ∧
      r.requestedNSSAI = RequestIE.lastNSSAI es := by
  obtain ⟨m, hm, hcap, hnssai⟩ := h.run (es.flatMap RequestIE.octets)
  have hlen : ¬(h.octets ++ es.flatMap RequestIE.octets).length < 3 := by
    simp only [RequestHead.octets, be16, length_append, length_cons]
    omega
  refine ⟨es.foldl RequestIE.taken m, ?_, ?_, ?_⟩
  · rw [decodeRegistrationRequest, if_neg hlen, run_bind_ok hm, run_forEachIE,
      run_ieLoop_octets hes m (Nat.le_refl _)]
  · rw [(RequestIE.foldl_taken es m).1, hcap, Option.or_none]
  · rw [(RequestIE.foldl_taken es m).2, hnssai, Option.or_none]

/-! ## Octets read as identifiers -/

/-- The loop again: the octets that are left each time it reads an identifier. -/
def identifiers {α : Type} (body : UInt8 → α → Proc Reader (Ctl α)) : Nat → α → Bytes → List Bytes
  | 0, _, _ => []
  | _ + 1, _, [] => []
  | fuel + 1, a, iei :: r =>
    (iei :: r) ::
      match (body iei a).run r with
      | (.ok (.next a'), r') => identifiers body fuel a' r'
      | _ => []

def registrationRequestIdentifiers (b : Bytes) : List Bytes :=
  match registrationRequestHead.run b with
  | (.ok m, r) => identifiers registrationRequestIE r.length m r
  | _ => []

theorem identifiers_cons {body : UInt8 → α → Proc Reader (Ctl α)} {a a' : α}
    (h : (body iei a).run r = (.ok (.next a'), r')) (fuel : Nat) :
    identifiers body (fuel + 1) a (iei :: r) = (iei :: r) :: identifiers body fuel a' r' := by
  rw [identifiers, h]

theorem length_pos_of_mem_identifiers {body : UInt8 → α → Proc Reader (Ctl α)} {a : α}
    {b : Bytes} (h : b ∈ identifiers body fuel a r) : 0 < b.length := by
  induction fuel generalizing a r with
  | zero => cases h
  | succ fuel ih =>
    cases r with
    | nil => cases h
    | cons iei r =>
      rw [identifiers, mem_cons] at h
      rcases h with rfl | h
      · exact Nat.succ_pos _
      · split at h
        · exact ih h
        · cases h

theorem mem_identifiers_self (a : α)
    (hr : r ≠ []) (hfuel : r.length ≤ fuel) : r ∈ identifiers body fuel a r := by
  cases r with
  | nil => exact absurd rfl hr
  | cons iei r =>
    obtain ⟨fuel, rfl⟩ : ∃ n, fuel = n + 1 := ⟨fuel - 1, by simp at hfuel; omega⟩
    exact mem_cons_self

/-- The identifiers up to the end of some elements are those of the elements. -/
theorem identifiers_octets (hes : ∀ e ∈ es, e.iei ≠ ieiLastVisitedTAI) (r : RegistrationRequest)
    (rest : Bytes) (hfuel : (es.flatMap RequestIE.octets ++ rest).length ≤ fuel) :
    ∃ r' fuel', rest.length ≤ fuel' ∧
      ∀ b ∈ identifiers registrationRequestIE fuel r (es.flatMap RequestIE.octets ++ rest),
        rest.length < b.length ∨ b ∈ identifiers registrationRequestIE fuel' r' rest := by
  induction es generalizing r fuel with
  | nil => exact ⟨r, fuel, hfuel, fun b hb => .inr hb⟩
  | cons e es ih =>
    have hpos := e.length_octets_pos
    rw [flatMap_cons, append_assoc, length_append] at hfuel
    obtain ⟨fuel, rfl⟩ : ∃ n, fuel = n + 1 := ⟨fuel - 1, by omega⟩
    have hstep := e.run_registrationRequestIE (hes e mem_cons_self) r
      (es.flatMap RequestIE.octets ++ rest)
    have hrest : (es.flatMap RequestIE.octets ++ rest).length ≤ fuel := by omega
    obtain ⟨r', fuel', hfuel', hb'⟩ :=
      ih (fun e' he' => hes e' (mem_cons_of_mem _ he')) (e.taken r) hrest
    refine ⟨r', fuel', hfuel', fun b hb => ?_⟩
    rw [flatMap_cons, append_assoc, RequestIE.octets, cons_append,
      identifiers_cons hstep, mem_cons] at hb
    rcases hb with rfl | hb
    · left
      simp only [length_cons, length_append]
      omega
    · exact hb' b hb

/-! ## A last element that is cut -/

/-- An element whose value does not end before the message does. -/
structure RequestCut where
  iei : UInt8
  present : Bytes
  cut : (registrationRequestLayout iei).Cut present

namespace RequestCut

def octets (t : RequestCut) : Bytes := t.iei :: t.present

def value (t : RequestCut) : Bytes :=
  t.present.drop (registrationRequestLayout t.iei).lengthOctets

/-- The elements whose truncation is an error. -/
def required : List UInt8 := [iei5GMMCapability, ieiUESecurityCapability, ieiRequestedNSSAI]

/-- The decoder stops at the element, or happens to skip all that is there of it: a TAI
whose first octet counts the others. -/
def Harmless (t : RequestCut) : Prop :=
  t.value = [] ∨ t.iei ∈ required ∨ (t.iei = ieiLastVisitedTAI ∧
      (t.present.length ≤ 1 ∨ t.present.length = (t.present.headD 0).toNat + 1))

theorem length_value_le : t.value.length ≤ t.present.length := by
  rw [value, length_drop]
  omega

theorem run_required (h : t.iei ∈ required) (r : RegistrationRequest) :
    ∃ e r', (registrationRequestIE t.iei r).run t.present = (.err e, r') := by
  obtain ⟨iei, present, cut⟩ := t
  rw [RequestIE.layout_lv h] at cut
  obtain ⟨e, r', he⟩ := run_requireLV_truncated cut
  simp only [required, mem_cons, not_mem_nil, or_false] at h
  rcases h with rfl | rfl | rfl
  all_goals exact ⟨e, r', run_bind_err he⟩

/-- What is left behind an element that is skipped. -/
def left (t : RequestCut) : Bytes :=
  if t.iei ∈ registrationRequestTLVE then lveTail t.present else lvTail t.present

theorem iei_lt : t.iei < 0x80 := by
  by_contra hge
  have hcut := t.cut
  rw [RequestIE.layout_of_ge hge] at hcut
  exact hcut

theorem run_skipped (h : t.iei ∉ required) (r : RegistrationRequest) :
    (registrationRequestIE t.iei r).run t.present = (.ok (.next r), t.left) := by
  simp only [required, mem_cons, not_mem_nil, or_false, not_or] at h
  obtain ⟨h10, h2E, h2F⟩ := h
  rw [registrationRequestIE, if_neg h10, if_neg h2E, if_neg h2F, left]
  by_cases hE : t.iei ∈ registrationRequestTLVE
  · rw [if_pos hE, if_pos hE, run_bind_ok (run_skipLVE _)]
    rfl
  · rw [if_neg hE, if_neg hE, if_pos t.iei_lt, run_bind_ok (run_skipLV _)]
    rfl

theorem identifiers_octets (r : RegistrationRequest) (fuel : Nat) :
    identifiers registrationRequestIE (fuel + 1) r t.octets =
      t.octets :: if t.iei ∈ required then [] else
        identifiers registrationRequestIE fuel r t.left := by
  rw [octets]
  by_cases h : t.iei ∈ required
  · obtain ⟨e, r', he⟩ := t.run_required h r
    rw [if_pos h, identifiers, he]
  · rw [if_neg h, identifiers_cons (t.run_skipped h r)]

theorem left_eq_value (htai : t.iei ≠ ieiLastVisitedTAI) (h : t.value ≠ []) : t.left = t.value := by
  obtain ⟨iei, present, cut⟩ := t
  dsimp only [left, value] at htai h ⊢
  by_cases hE : iei ∈ registrationRequestTLVE
  · rw [RequestIE.layout_lve hE] at cut h ⊢
    rw [if_pos hE]
    obtain _ | ⟨hi, _ | ⟨lo, v⟩⟩ := present
    · exact absurd rfl h
    · exact absurd rfl h
    · have hlt := cut hi lo v rfl
      simp [lveTail, Layout.lengthOctets, Nat.not_le.mpr hlt]
  · have hlt : iei < 0x80 := iei_lt ⟨iei, present, cut⟩
    rw [RequestIE.layout_of_lt hlt hE htai] at cut h ⊢
    rw [if_neg hE]
    cases present with
    | nil => exact absurd rfl h
    | cons l v =>
      have hlt : ¬l.toNat ≤ v.length := of_decide_eq_false cut
      simp [lvTail, Layout.lengthOctets, hlt]

theorem left_tai (h : t.iei = ieiLastVisitedTAI) :
    t.value = t.present ∧ t.left = lvTail t.present := by
  rw [value, left, h]
  exact ⟨rfl, rfl⟩

theorem harmless_iff : t.Harmless ↔ t.value = [] ∨ t.iei ∈ required ∨ t.left = [] := by
  unfold Harmless
  by_cases hvalue : t.value = []
  · simp [hvalue]
  simp only [hvalue, false_or]
  refine or_congr_right ?_
  by_cases htai : t.iei = ieiLastVisitedTAI
  · obtain ⟨hpresent, hleft⟩ := t.left_tai htai
    rw [hpresent] at hvalue
    rw [hleft, and_iff_right htai]
    cases hp : t.present with
    | nil => exact absurd hp hvalue
    | cons l rest =>
      simp only [lvTail, length_cons, headD_cons]
      split
      · rw [drop_eq_nil_iff]
        omega
      · rw [← length_eq_zero_iff]
        omega
  · rw [t.left_eq_value htai hvalue]
    simp [htai, hvalue]

theorem length_left_le (h : t.value ≠ []) : t.left.length ≤ t.value.length := by
  by_cases htai : t.iei = ieiLastVisitedTAI
  · obtain ⟨hpresent, hleft⟩ := t.left_tai htai
    rw [hpresent, hleft]
    exact length_lvTail_le _
  · exact Nat.le_of_eq (congrArg length (t.left_eq_value htai h))

end RequestCut

/-! ## Which messages the decoder keeps to -/

def Aligned (h : RequestHead) (es : List RequestIE) : Option RequestCut → Prop
  | none => ∃ r, decodeRegistrationRequest (h.octets ++ es.flatMap RequestIE.octets) = .ok r ∧
      r.ueSecurityCapability = RequestIE.lastCapability es ∧
      r.requestedNSSAI = RequestIE.lastNSSAI es
  | some t => ∀ b ∈ registrationRequestIdentifiers
      (h.octets ++ (es.flatMap RequestIE.octets ++ t.octets)), t.value.length < b.length

/-- The elements with an identifier in `ieis` and the last one, if it is cut, leave the
decoder where it should be. -/
def Skippable (ieis : Set UInt8) : Option RequestCut → Prop
  | none => ieiLastVisitedTAI ∉ ieis
  | some t => t.value = [] ∨ (ieiLastVisitedTAI ∉ ieis ∧ t.Harmless)

theorem aligned_of_skippable {ieis : Set UInt8} {last : Option RequestCut}
    (hskip : Skippable ieis last) (h : RequestHead) (hes : ∀ e ∈ es, e.iei ∈ ieis) :
    Aligned h es last := by
  cases last with
  | none =>
    exact decodeRegistrationRequest_octets h fun e he htai => hskip (htai ▸ hes e he)
  | some t =>
    intro b hb
    obtain ⟨m, hm, -⟩ := h.run (es.flatMap RequestIE.octets ++ t.octets)
    rw [registrationRequestIdentifiers, hm] at hb
    rcases hskip with hempty | ⟨htai, hharmless⟩
    · rw [hempty]
      exact length_pos_of_mem_identifiers hb
    · obtain ⟨r', fuel', hfuel', hb'⟩ := identifiers_octets
        (fun e he htai' => htai (htai' ▸ hes e he)) m t.octets (Nat.le_refl _)
      have hvalue := t.length_value_le
      have hoctets : t.octets.length = t.present.length + 1 := rfl
      rcases hb' b hb with hlt | hb
      · omega
      · obtain ⟨fuel, rfl⟩ : ∃ n, fuel' = n + 1 := ⟨fuel' - 1, by omega⟩
        rw [t.identifiers_octets, mem_cons] at hb
        rcases hb with rfl | hb
        · omega
        · split at hb
          · cases hb
          · next hrequired =>
            rcases t.harmless_iff.mp hharmless with hempty | hmem | hleft
            · rw [hempty]
              exact length_pos_of_mem_identifiers hb
            · exact absurd hmem hrequired
            · rw [hleft] at hb
              cases fuel <;> cases hb

/-! ### Messages that it does not keep to -/

def suciHead : RequestHead where
  combined := 0x79
  identity := [0x01, 0x00, 0xF1, 0x10, 0xF0, 0xFF, 0x00, 0x00, 0x00, 0x00, 0x00, 0x00, 0x10]
  length_le := by decide
  fits := by decide

def lastVisitedTAI (v : Bytes) (h : v.length = 6) : RequestIE where
  iei := ieiLastVisitedTAI
  value := v
  admits := h
  capability := fun h => absurd h (by decide)
  nssai := fun h => absurd h (by decide)

theorem RequestHead.identifiers (h : RequestHead) (rest : Bytes) :
    ∃ m, registrationRequestIdentifiers (h.octets ++ rest) =
      Nas.identifiers registrationRequestIE rest.length m rest := by
  obtain ⟨m, hm, -⟩ := h.run rest
  exact ⟨m, by rw [registrationRequestIdentifiers, hm]⟩

/-- The TAI in front of a cut element that makes the decoder skip to its value. -/
def skippingTAI (t : RequestCut) : RequestIE :=
  lastVisitedTAI
    [ofNat ((registrationRequestLayout t.iei).lengthOctets + 6), 0, 0, 0, 0, 0] rfl

theorem value_mem_identifiers (hvalue : t.value ≠ []) : t.value ∈ registrationRequestIdentifiers
      (suciHead.octets ++ ([skippingTAI t].flatMap RequestIE.octets ++ t.octets)) := by
  obtain ⟨m, hm⟩ := suciHead.identifiers ([skippingTAI t].flatMap RequestIE.octets ++ t.octets)
  have hlen : (ofNat ((registrationRequestLayout t.iei).lengthOctets + 6)).toNat =
      (registrationRequestLayout t.iei).lengthOctets + 6 := by
    cases registrationRequestLayout t.iei <;> rfl
  have hpresent : (registrationRequestLayout t.iei).lengthOctets ≤ t.present.length := by
    have hpos := length_pos_iff.mpr hvalue
    rw [RequestCut.value, length_drop] at hpos
    omega
  have hstep : (registrationRequestIE ieiLastVisitedTAI m).run
      (ofNat ((registrationRequestLayout t.iei).lengthOctets + 6) ::
        0 :: 0 :: 0 :: 0 :: 0 :: t.octets) = (.ok (.next m), t.value) := by
    rw [registrationRequestIE, if_neg (by decide), if_neg (by decide), if_neg (by decide),
      if_neg (by decide), if_pos (by decide), run_bind_ok (run_skipLV _), lvTail, hlen, if_pos]
    · rfl
    · simp only [RequestCut.octets, length_cons]
      omega
  have hoctets : [skippingTAI t].flatMap RequestIE.octets ++ t.octets =
      ieiLastVisitedTAI :: ofNat ((registrationRequestLayout t.iei).lengthOctets + 6) ::
        0 :: 0 :: 0 :: 0 :: 0 :: t.octets := rfl
  rw [hm, hoctets, length_cons, identifiers_cons hstep]
  refine mem_cons_of_mem _ (mem_identifiers_self _ m hvalue ?_)
  have hle := t.length_value_le
  simp only [RequestCut.octets, length_cons]
  omega

/-- The decoder keeps to every message made of elements with these identifiers, and of
the last one if it is cut, exactly when there is no TAI among them and the last one is
harmless. -/
theorem aligned_iff (ieis : Set UInt8) (last : Option RequestCut) :
    (∀ (h : RequestHead) (es : List RequestIE), (∀ e ∈ es, e.iei ∈ ieis) → Aligned h es last) ↔
      Skippable ieis last := by
  refine ⟨fun haligned => ?_, fun hskip h es hes => aligned_of_skippable hskip h hes⟩
  cases last with
  | none =>
    intro htai
    obtain ⟨r, hr, -⟩ := haligned suciHead
      [lastVisitedTAI [0, ieiUESecurityCapability, 0, 0, 0, 0] rfl]
      fun e he => mem_singleton.mp he ▸ htai
    cases hr
  | some t =>
    by_cases hvalue : t.value = []
    · exact .inl hvalue
    refine .inr ⟨fun htai => ?_, ?_⟩
    · have hlt := haligned suciHead [skippingTAI t]
        (fun e he => mem_singleton.mp he ▸ htai) t.value (value_mem_identifiers t hvalue)
      exact Nat.lt_irrefl _ hlt
    · by_contra hharmless
      rw [t.harmless_iff, not_or, not_or] at hharmless
      obtain ⟨-, hrequired, hleft⟩ := hharmless
      have hle := t.length_left_le hvalue
      obtain ⟨m, hm⟩ := suciHead.identifiers ([].flatMap RequestIE.octets ++ t.octets)
      have hmem : t.left ∈ registrationRequestIdentifiers
          (suciHead.octets ++ ([].flatMap RequestIE.octets ++ t.octets)) := by
        have hpresent := t.length_value_le
        rw [hm, flatMap_nil, nil_append,
          show t.octets.length = t.present.length + 1 from rfl, t.identifiers_octets,
          if_neg hrequired]
        exact mem_cons_of_mem _ (mem_identifiers_self _ m hleft (by omega))
      have hlt := haligned suciHead [] (fun e he => absurd he not_mem_nil) t.left hmem
      omega

def visitedElements : List RequestIE :=
  [lastVisitedTAI [0x00, 0xF1, 0x10, 0x00, 0x00, 0x01] rfl,
    { iei := ieiUESecurityCapability
      value := [0xF0, 0xF0]
      admits := show 2 ≤ 255 by decide
      capability := fun _ => Nat.le_refl 2
      nssai := fun h => absurd h (by decide) }]

/-- The UE security capability behind the TAI is lost. -/
theorem capability_lost_behind_tai : (RequestIE.lastCapability visitedElements).isSome = true ∧
      (∃ r, decodeRegistrationRequest
          (suciHead.octets ++ visitedElements.flatMap RequestIE.octets) = .ok r ∧
        r.ueSecurityCapability = none) ∧
      ¬Aligned suciHead visitedElements none := by
  have hsome : (RequestIE.lastCapability visitedElements).isSome = true := by decide
  have hlost : ∃ r, decodeRegistrationRequest
      (suciHead.octets ++ visitedElements.flatMap RequestIE.octets) = .ok r ∧
        r.ueSecurityCapability = none := ⟨_, rfl, rfl⟩
  refine ⟨hsome, hlost, ?_⟩
  rintro ⟨r, hr, hcap, -⟩
  obtain ⟨r', hr', hnone⟩ := hlost
  obtain rfl := Outcome.ok.inj (hr.symm.trans hr')
  rw [← hcap, hnone] at hsome
  cases hsome

end Claudia5gc.Nas
