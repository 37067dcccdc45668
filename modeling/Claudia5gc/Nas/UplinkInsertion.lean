import Claudia5gc.Nas.Apn
import Claudia5gc.Nas.UplinkTransport

/-!
# Elements that UL NAS Transport does not use

Table 8.7.1.1 has optional elements that `DecodeULNASTransport` knows nothing of.  It skips all of
them as if they were TLVs: the octet behind the IEI is a length, and as many octets are skipped when
there are as many.
-/

namespace Claudia5gc.Nas

open Go List ULNASTransport Proc Option

variable {r r' : Bytes} {es : List UplinkIE} {msg : ULNASTransport} {e : UplinkIE}

/-! ## The elements -/

/-- The optional elements that `DecodeULNASTransport` has no branch for. -/
inductive UnusedIE where
  /-- TV of two octets. -/
  | oldPDUSessionID (value : UInt8)
  /-- One octet, with the IEI in its high half: MA PDU session information, Release assistance
  indication. -/
  | halfOctet (octet : UInt8) (h : 0x90 ≤ octet)
  /-- TLV -/
  | additionalInformation (value : Bytes) (h : value.length ≤ 255)

/-- What stands behind the first octet. -/
def UnusedIE.content : UnusedIE → Bytes
  | .oldPDUSessionID value => [value]
  | .halfOctet _ _ => []
  | .additionalInformation value _ => UInt8.ofNat value.length :: value

def UnusedIE.iei : UnusedIE → UInt8
  | .oldPDUSessionID _ => 0x59
  | .halfOctet octet _ => octet
  | .additionalInformation _ _ => 0x24

/-- The optional elements of an UL NAS Transport. -/
inductive UplinkIE where
  | pduSessionID (psi : UInt8)
  | requestType (rt : UInt8)
  | snssai (s : SNSSAITransport)
  | dnn (value : Bytes)
  | unused (ie : UnusedIE)

def UplinkIE.octets : UplinkIE → Bytes
  | .pduSessionID psi => [ieiPDUSessionID, psi]
  | .requestType rt => [0x80 ||| (rt &&& 0x0F)]
  | .snssai s => ieiSNSSAITransport :: encodeSNSSAITransport s
  | .dnn value => tlv ieiDNN value
  | .unused ie => ie.iei :: ie.content

def UplinkIE.used : UplinkIE → Bool
  | .unused _ => false
  | _ => true

def uplinkOctets (es : List UplinkIE) : Bytes := es.flatMap UplinkIE.octets

def ULNASTransport.elements (msg : ULNASTransport) : List UplinkIE :=
  msg.pduSessionID.toList.map .pduSessionID ++ (msg.requestType.toList.map .requestType ++
    (msg.snssai.toList.map .snssai ++ msg.dnn.toList.map .dnn))

/-- The message without its optional fields. -/
def ULNASTransport.bare (msg : ULNASTransport) : ULNASTransport :=
  { payloadContainerType := msg.payloadContainerType, payloadContainer := msg.payloadContainer }

/-- The message with these optional elements. -/
def ulNASTransportWith (msg : ULNASTransport) (es : List UplinkIE) : Bytes :=
  msg.payloadContainerType :: be16 msg.payloadContainer.length ++
    (msg.payloadContainer ++ uplinkOctets es)

/-- `es` are the elements of the message with unused ones put between them. -/
def Inserted (msg : ULNASTransport) (es : List UplinkIE) : Prop :=
  es.filter UplinkIE.used = msg.elements

theorem uplinkOctets_cons (e : UplinkIE) (es : List UplinkIE) :
    uplinkOctets (e :: es) = e.octets ++ uplinkOctets es := flatMap_cons

theorem uplinkOctets_append (es es' : List UplinkIE) :
    uplinkOctets (es ++ es') = uplinkOctets es ++ uplinkOctets es' := flatMap_append

theorem encodeULNASTransport_elements (h : msg.Encodable) :
    encodeULNASTransport msg = .ok (ulNASTransportWith msg msg.elements) := by
  have hdnn : ¬255 < (msg.dnn.getD []).length := by
    have hmax := h.2
    cases hdnn : msg.dnn with
    | none => simp
    | some dnn => exact Nat.not_lt.mpr (hmax dnn hdnn)
  rw [encodeULNASTransport, if_neg (Nat.not_lt.mpr h.1), if_neg hdnn]
  obtain ⟨pct, container, psi, rt, snssai, dnn⟩ := msg
  cases psi <;> cases rt <;> cases snssai <;> cases dnn <;>
    simp [ulNASTransportOctets, ulNASTransportWith, ulNASTransportIEs, optionalIE, uplinkOctets,
      elements, UplinkIE.octets]

/-! ## The loop -/

/-- The loop over the elements comes to stand with `msg'` in front of `r'`. -/
abbrev Reaches : ULNASTransport → Bytes → ULNASTransport → Bytes → Prop :=
  Proc.Reaches (fun r : Reader => decide (0 < r.length)) ulNASTransportIE length

theorem Reaches.step {msg' : ULNASTransport} (hlt : r'.length < r.length)
    (h : (ulNASTransportIE msg).run r = (.ok (.next msg'), r')) : Reaches msg r msg' r' := by
  refine Proc.Reaches.step ?_ hlt h
  rw [decide_eq_true_eq]
  omega

theorem decodeULNASTransport_with (es : List UplinkIE) (h : msg.payloadContainer.length ≤ 65535) :
    decodeULNASTransport (ulNASTransportWith msg es) =
      ((loop (fun r : Reader => decide (0 < r.length)) ulNASTransportIE
        (uplinkOctets es).length msg.bare).run (uplinkOctets es)).1 :=
  decodeULNASTransport_container h _

/-! ## Behind an unused element -/

/-- The generic rule leads behind the element when `r` follows it. -/
def UnusedIE.AlignedBefore : UnusedIE → Bytes → Prop
  | .oldPDUSessionID value, r => value = 0 ∨ r.length < value.toNat
  | .halfOctet _ _, r => r = []
  | .additionalInformation _ _, _ => True

/-- Every unused element is skipped up to the next element. -/
def UplinkAligned : List UplinkIE → Prop
  | [] => True
  | .unused ie :: es => ie.AlignedBefore (uplinkOctets es) ∧ UplinkAligned es
  | _ :: es => UplinkAligned es

def NoBranch (iei : UInt8) : Prop :=
  iei &&& 0xF0 ≠ 0x80 ∧ iei ≠ ieiPDUSessionID ∧ iei ≠ ieiSNSSAITransport ∧ iei ≠ ieiDNN

instance (iei : UInt8) : Decidable (NoBranch iei) := inferInstanceAs (Decidable (_ ∧ _))

theorem run_ulNASTransportIE_noBranch (msg : ULNASTransport) {iei : UInt8} (h : NoBranch iei)
    (r : Bytes) : (ulNASTransportIE msg).run (iei :: r) = (.ok (.next msg), lvTail r) := by
  obtain ⟨hrt, hpsi, hsnssai, hdnn⟩ := h
  have hpeek : peekByte.attempt.run (iei :: r) = (.ok (.ok iei), iei :: r) := rfl
  rw [ulNASTransportIE, run_bind_ok hpeek]
  dsimp only
  rw [if_neg hrt, if_neg hpsi, if_neg hsnssai, if_neg hdnn,
    run_bind_ok (run_readByte_orZero_cons _ _), run_bind_ok (run_get _)]
  cases r with
  | nil => rfl
  | cons l r =>
    rw [if_pos (by simp), run_bind_ok (run_readByte_orZero_cons _ _),
      run_bind_ok (run_get _), lvTail]
    by_cases hskip : 0 < l ∧ l.toNat ≤ r.length
    · rw [if_pos hskip, if_pos hskip.2, run_bind, run_readBytes_orZero, if_pos hskip.2]
      rfl
    · rw [if_neg hskip]
      split
      · next hle =>
        have hzero : l = 0 := by
          by_contra hne
          exact hskip ⟨UInt8.pos_iff_ne_zero.mpr hne, hle⟩
        rw [hzero]
        rfl
      · rfl

theorem noBranch_iei (ie : UnusedIE) : NoBranch ie.iei := by
  cases ie with
  | oldPDUSessionID value => exact (by decide : NoBranch 0x59)
  | halfOctet octet h =>
    have hall : ∀ n < 256, 0x90 ≤ UInt8.ofNat n → NoBranch (UInt8.ofNat n) := by
      decide +kernel
    have := hall octet.toNat octet.toNat_lt
    rw [UInt8.ofNat_toNat] at this
    exact this h
  | additionalInformation value h => exact (by decide : NoBranch 0x24)

theorem lvTail_suffix (r : Bytes) : lvTail r <:+ r := by
  cases r with
  | nil => exact suffix_refl _
  | cons l r =>
    rw [lvTail]
    split
    · exact (drop_suffix _ _).trans (suffix_cons _ _)
    · exact suffix_cons _ _

theorem lvTail_of_alignedBefore {ie : UnusedIE} (h : ie.AlignedBefore r) :
    lvTail (ie.content ++ r) = r := by
  cases ie with
  | oldPDUSessionID value =>
    rcases h with rfl | hlt
    · rfl
    · exact if_neg (Nat.not_le.mpr hlt)
  | halfOctet octet h90 =>
    rw [h]
    rfl
  | additionalInformation value hmax =>
    have hlen : (UInt8.ofNat value.length).toNat = value.length := by
      rw [UInt8.toNat_ofNat', Nat.mod_eq_of_lt (by omega)]
    rw [UnusedIE.content, cons_append, lvTail, hlen, if_pos (by simp), drop_left]

theorem lvTail_of_not_alignedBefore {ie : UnusedIE} (h : ¬ie.AlignedBefore r) :
    lvTail (ie.content ++ r) <:+ r ∧ (lvTail (ie.content ++ r)).length < r.length := by
  cases ie with
  | oldPDUSessionID value =>
    rw [UnusedIE.AlignedBefore, not_or, ← UInt8.toNat_inj] at h
    have hskip : lvTail ([value] ++ r) = r.drop value.toNat := if_pos (Nat.not_lt.mp h.2)
    have hpos : value.toNat ≠ 0 := h.1
    rw [UnusedIE.content, hskip, length_drop]
    exact ⟨drop_suffix _ _, by omega⟩
  | halfOctet octet h90 =>
    obtain ⟨l, rest, rfl⟩ := exists_cons_of_ne_nil h
    refine ⟨lvTail_suffix _, ?_⟩
    show (lvTail (l :: rest)).length < _
    rw [lvTail]
    split
    · rw [length_drop, length_cons]
      omega
    · exact Nat.lt_succ_self _
  | additionalInformation value hmax => exact absurd trivial h

/-! ## Reading the elements -/

def UplinkIE.readInto : UplinkIE → ULNASTransport → ULNASTransport
  | .pduSessionID psi, msg => { msg with pduSessionID := some psi }
  | .requestType rt, msg => { msg with requestType := some (rt &&& 0x0F) }
  | .snssai s, msg => { msg with snssai := some s.threeOctets }
  | .dnn value, msg => { msg with dnn := some (apnText value) }
  | .unused _, msg => msg

def UplinkIE.readAll (msg : ULNASTransport) (es : List UplinkIE) : ULNASTransport :=
  es.foldl (fun m e => e.readInto m) msg

/-- The lengths of the DNNs fit into their octet. -/
def Fit (es : List UplinkIE) : Prop :=
  ∀ e ∈ es, ∀ value, e = .dnn value → value.length ≤ 255

theorem Fit.tail (h : Fit (e :: es)) : Fit es :=
  fun e' he' => h e' (mem_cons_of_mem _ he')

theorem run_ulNASTransportIE_used (msg : ULNASTransport) (hused : e.used = true)
    (hfit : ∀ value, e = .dnn value → value.length ≤ 255) (r : Bytes) :
    (ulNASTransportIE msg).run (e.octets ++ r) = (.ok (.next (e.readInto msg)), r) := by
  cases e with
  | pduSessionID psi => exact run_ulNASTransportIE_pduSessionID msg psi r
  | requestType rt => exact run_ulNASTransportIE_requestType msg rt r
  | snssai s => exact run_ulNASTransportIE_snssai msg s r
  | dnn value => exact run_ulNASTransportIE_dnn msg (hfit value rfl) r
  | unused ie => cases hused

theorem length_octets_pos (e : UplinkIE) : 0 < e.octets.length := by
  cases e <;> exact Nat.succ_pos _

section

variable (msg : ULNASTransport)

theorem reaches_element (hfit : ∀ value, e = .dnn value → value.length ≤ 255)
    (haligned : ∀ ie, e = .unused ie → ie.AlignedBefore r) :
    Reaches msg (e.octets ++ r) (e.readInto msg) r := by
  have hpos := length_octets_pos e
  refine .step (by rw [length_append]; omega) ?_
  cases hused : e.used with
  | true => exact run_ulNASTransportIE_used msg hused hfit r
  | false =>
    cases e with
    | unused ie =>
      show (ulNASTransportIE msg).run (ie.iei :: (ie.content ++ r)) = _
      rw [run_ulNASTransportIE_noBranch msg (noBranch_iei ie),
        lvTail_of_alignedBefore (haligned ie rfl)]
      rfl
    | _ => cases hused

theorem reaches_used (r : Bytes) (hused : ∀ e ∈ es, e.used = true)
    (hfit : Fit es) : Reaches msg (uplinkOctets es ++ r) (UplinkIE.readAll msg es) r := by
  induction es generalizing msg with
  | nil => exact .refl
  | cons e es ih =>
    rw [uplinkOctets_cons, append_assoc]
    refine (reaches_element msg (hfit e mem_cons_self) fun ie hie => ?_).trans
      (ih _ (fun e' he' => hused e' (mem_cons_of_mem _ he')) hfit.tail)
    rw [hie] at hused
    cases hused _ mem_cons_self

theorem reaches_aligned (haligned : UplinkAligned es) (hfit : Fit es) :
    Reaches msg (uplinkOctets es) (UplinkIE.readAll msg es) [] := by
  induction es generalizing msg with
  | nil => exact .refl
  | cons e es ih =>
    have hrest : UplinkAligned es := by
      cases e with
      | unused ie => exact haligned.2
      | _ => exact haligned
    refine (reaches_element msg (hfit e mem_cons_self) fun ie hie => ?_).trans
      (ih _ hrest hfit.tail)
    rw [hie] at haligned
    exact haligned.1

theorem readAll_filter (es : List UplinkIE) :
    UplinkIE.readAll msg (es.filter UplinkIE.used) = UplinkIE.readAll msg es := by
  induction es generalizing msg with
  | nil => rfl
  | cons e es ih =>
    cases e <;> exact ih _

theorem readAll_elements : UplinkIE.readAll msg.bare msg.elements = msg.readBack := by
  obtain ⟨pct, container, psi, rt, snssai, dnn⟩ := msg
  cases psi <;> cases rt <;> cases snssai <;> cases dnn <;> rfl

end

theorem Inserted.fit (h : Inserted msg es) (hmsg : msg.Encodable) : Fit es := by
  intro e he value hvalue
  have hmem : UplinkIE.dnn value ∈ msg.elements := by
    rw [← show es.filter UplinkIE.used = msg.elements from h, mem_filter, ← hvalue]
    exact ⟨he, by rw [hvalue]; rfl⟩
  simp only [elements, mem_append, List.mem_map, reduceCtorEq, and_false,
    exists_false, false_or, UplinkIE.dnn.injEq, exists_eq_right, mem_toList] at hmem
  exact hmsg.2 value hmem

theorem decodeULNASTransport_aligned (hmsg : msg.Encodable) (hinserted : Inserted msg es)
    (haligned : UplinkAligned es) :
    decodeULNASTransport (ulNASTransportWith msg es) = .ok msg.readBack := by
  have hreaches := reaches_aligned msg.bare haligned (hinserted.fit hmsg)
  rw [decodeULNASTransport_with es hmsg.1, hreaches.run rfl (Nat.le_refl _), ← readAll_filter,
    show es.filter UplinkIE.used = msg.elements from hinserted, readAll_elements]

/-! ## The octets that a message takes -/

def SNSSAITransport.size (s : SNSSAITransport) : Nat := s.sd.elim 3 fun _ => 6

/-- The octets of the optional elements of a message. -/
def ULNASTransport.size (msg : ULNASTransport) : Nat :=
  msg.pduSessionID.elim 0 (fun _ => 2) + msg.requestType.elim 0 (fun _ => 1) +
    msg.snssai.elim 0 SNSSAITransport.size + msg.dnn.elim 0 (fun value => value.length + 2)

theorem length_encodeSNSSAITransport (s : SNSSAITransport) :
    (encodeSNSSAITransport s).length + 1 = s.size := by
  obtain ⟨sst, sd⟩ := s
  cases sd <;> rfl

theorem length_uplinkOctets_elements (msg : ULNASTransport) :
    (uplinkOctets msg.elements).length = msg.size := by
  obtain ⟨pct, container, psi, rt, snssai, dnn⟩ := msg
  cases psi <;> cases rt <;> cases snssai <;> cases dnn <;>
    simp [uplinkOctets, elements, UplinkIE.octets, size, tlv,
      ← length_encodeSNSSAITransport] <;> omega

theorem length_labelsIn (b : Bytes) :
    ((labelsIn b).flatMap fun label => UInt8.ofNat label.length :: label).length ≤ b.length := by
  induction b using labelsIn.induct with
  | case1 => rw [labelsIn]; exact Nat.zero_le _
  | case2 l r h => rw [labelsIn, if_pos h]; exact Nat.zero_le _
  | case3 l r h ih =>
    rw [not_or] at h
    rw [labelsIn, if_neg (not_or.mpr h), flatMap_cons, length_append, length_cons,
      length_take, length_cons]
    rw [length_drop] at ih
    omega

theorem length_joinLabels_labelsIn {b : Bytes} (h : labelsIn b ≠ []) :
    (joinLabels (labelsIn b)).length < b.length := by
  have hlabels := length_labels h
  have hle := length_labelsIn b
  omega

theorem apnText_cons (l : UInt8) (r : Bytes) :
    apnText (l :: r) = if 0x20 ≤ l ∨ labelsIn (l :: r) = [] then l :: r
      else joinLabels (labelsIn (l :: r)) := by
  rw [apnText, decodeAPN_cons]

theorem length_apnText_le (value : Bytes) : (apnText value).length ≤ value.length := by
  cases value with
  | nil => exact Nat.le_refl _
  | cons l r =>
    rw [apnText_cons]
    split
    · exact Nat.le_refl _
    · next h => exact Nat.le_of_lt (length_joinLabels_labelsIn fun hnil => h (.inr hnil))

theorem size_readInto_le (e : UplinkIE) (msg : ULNASTransport) :
    (e.readInto msg).size ≤ msg.size + e.octets.length := by
  cases e with
  | pduSessionID psi' | requestType rt' => simp [size, UplinkIE.readInto, UplinkIE.octets]; omega
  | snssai s =>
    have hsize : s.threeOctets.size = s.size := by
      obtain ⟨sst, sd⟩ := s
      cases sd <;> rfl
    have hlen := length_encodeSNSSAITransport s
    simp only [size, UplinkIE.readInto, UplinkIE.octets, elim_some, length_cons, hsize]
    omega
  | dnn value =>
    have hlen := length_apnText_le value
    simp only [size, UplinkIE.readInto, UplinkIE.octets, elim_some, tlv,
      length_append, length_cons, length_nil]
    omega
  | unused ie => exact Nat.le_add_right _ _

theorem size_readAll_le (es : List UplinkIE) (msg : ULNASTransport) :
    (UplinkIE.readAll msg es).size ≤ msg.size + (uplinkOctets es).length := by
  induction es generalizing msg with
  | nil => exact Nat.le_refl _
  | cons e es ih =>
    have hfirst := size_readInto_le e msg
    have hrest := ih (e.readInto msg)
    rw [uplinkOctets_cons, length_append]
    show (UplinkIE.readAll (e.readInto msg) es).size ≤ _
    omega

/-! ## One turn of the loop -/

theorem run_ulNASTransportSNSSAI_ok {s : SNSSAITransport}
    (h : ulNASTransportSNSSAI.run r = (.ok s, r')) :
    ∃ skipped, r = skipped ++ r' ∧ s.size ≤ skipped.length + 1 := by
  cases r with
  | nil => cases h
  | cons l r =>
    rw [ulNASTransportSNSSAI, run_bind_ok (run_readByte_orZero_cons _ _)] at h
    by_cases hlen : l < 1 ∨ 8 < l
    · rw [if_pos hlen] at h
      cases h
    rw [if_neg hlen, run_bind, run_wrapErr] at h
    rcases Nat.lt_or_ge r.length l.toNat with hlt | hge
    · obtain ⟨e, he⟩ := run_readBytes_of_lt hlt
      rw [he] at h
      cases h
    have hpos : 0 < l.toNat := by
      have h1 : 1 ≤ l := UInt8.not_lt.mp fun h => hlen (.inl h)
      exact UInt8.le_iff_toNat_le.mp h1
    have hval : (r.take l.toNat).length = l.toNat := by
      rw [length_take]
      omega
    rw [run_readBytes_of_le hge] at h
    dsimp only at h
    rw [run_bind, index_of_lt (by omega)] at h
    obtain ⟨hs, hr'⟩ := Prod.mk.inj h
    refine ⟨l :: r.take l.toNat, by rw [← hr', cons_append, take_append_drop], ?_⟩
    rw [Outcome.ok.injEq] at hs
    rw [← hs, length_cons]
    -- An SD is only found in a value of four octets or more.
    dsimp only [SNSSAITransport.size]
    split
    · next hfour =>
      rw [hfour, length_cons, length_cons, length_cons, length_cons]
      show 6 ≤ _
      omega
    · show 3 ≤ _
      omega

theorem run_ulNASTransportIE_cases {c : Ctl ULNASTransport} {iei : UInt8}
    (h : (ulNASTransportIE msg).run (iei :: r) = (.ok c, r')) : ∃ msg', c = .next msg' ∧
    ((msg' = { msg with requestType := some (iei &&& 0x0F) } ∧ r' = r) ∨
    (iei = ieiPDUSessionID ∧ msg' = { msg with pduSessionID := some (r.headD 0) } ∧ r' = r.tail) ∨
    (∃ s skipped, msg' = { msg with snssai := some s } ∧ r = skipped ++ r' ∧
      s.size ≤ skipped.length + 1) ∨
    (iei = ieiDNN ∧ msg' = { msg with dnn := some (apnText (lvValue r)) } ∧ r' = lvTail r) ∨
    (msg' = msg ∧ r' = lvTail r)) := by
  have hpeek : peekByte.attempt.run (iei :: r) = (.ok (.ok iei), iei :: r) := rfl
  by_cases hbranch : NoBranch iei
  · rw [run_ulNASTransportIE_noBranch msg hbranch] at h
    cases h
    exact ⟨_, rfl, .inr (.inr (.inr (.inr ⟨rfl, rfl⟩)))⟩
  rw [ulNASTransportIE, run_bind_ok hpeek] at h
  dsimp only at h
  by_cases hrt : iei &&& 0xF0 = 0x80
  · rw [if_pos hrt, run_bind_ok (run_readByte_orZero_cons _ _)] at h
    cases h
    exact ⟨_, rfl, .inl ⟨rfl, rfl⟩⟩
  rw [if_neg hrt] at h
  by_cases hpsi : iei = ieiPDUSessionID
  · rw [if_pos hpsi, run_bind_ok (run_readByte_orZero_cons _ _)] at h
    cases r with
    | nil | cons psi r =>
      cases h
      exact ⟨_, rfl, .inr (.inl ⟨hpsi, rfl, rfl⟩)⟩
  rw [if_neg hpsi] at h
  by_cases hsnssai : iei = ieiSNSSAITransport
  · rw [if_pos hsnssai, run_bind_ok (run_readByte_orZero_cons _ _), run_bind] at h
    rcases hrun : ulNASTransportSNSSAI.run r with ⟨s | e | _ | _, r''⟩
    all_goals rw [hrun] at h
    · cases h
      obtain ⟨skipped, hr, hsize⟩ := run_ulNASTransportSNSSAI_ok hrun
      exact ⟨_, rfl, .inr (.inr (.inl ⟨s, skipped, rfl, hr, hsize⟩))⟩
    · cases h
    · cases h
    · cases h
  rw [if_neg hsnssai] at h
  by_cases hdnn : iei = ieiDNN
  · rw [if_pos hdnn, run_bind_ok (run_readByte_orZero_cons _ _),
      run_bind_ok (run_readLV r), decodeAPN_eq] at h
    cases h
    exact ⟨_, rfl, .inr (.inr (.inr (.inl ⟨hdnn, rfl, rfl⟩)))⟩
  · exact absurd ⟨hrt, hpsi, hsnssai, hdnn⟩ hbranch

theorem length_lvValue_add_lvTail (l : UInt8) (r : Bytes) :
    (lvValue (l :: r)).length + (lvTail (l :: r)).length ≤ r.length := by
  rw [lvValue, lvTail]
  split
  · rw [length_take, length_drop]
    omega
  · rw [length_nil]
    omega

/-- The last octet is an IEI without its value, which sets a field to zero. -/
def CutOff (msg : ULNASTransport) (r : Bytes) (out : ULNASTransport) : Prop :=
  (r.getLast? = some ieiPDUSessionID ∧ msg.pduSessionID = none ∧ out.pduSessionID = some 0) ∨
    (r.getLast? = some ieiDNN ∧ out.dnn = some [])

theorem size_step_le {c : Ctl ULNASTransport} {iei : UInt8}
    (h : (ulNASTransportIE msg).run (iei :: r) = (.ok c, r')) : ∃ msg', c = .next msg' ∧
    ((msg'.size + r'.length ≤ msg.size + (iei :: r).length ∧ r' <:+ r ∧
      (msg'.pduSessionID = none → msg.pduSessionID = none)) ∨
    (r' = [] ∧ msg'.size ≤ msg.size + 2 ∧ r = [] ∧ CutOff msg [iei] msg')) := by
  obtain ⟨pct, container, psi, rt, snssai, dnn⟩ := msg
  obtain ⟨msg', hnext, hcases⟩ := run_ulNASTransportIE_cases h
  refine ⟨msg', hnext, ?_⟩
  rw [length_cons]
  rcases hcases with ⟨rfl, rfl⟩ | ⟨rfl, rfl, rfl⟩ |
    ⟨s, skipped, rfl, rfl, hsize⟩ | ⟨rfl, rfl, rfl⟩ | ⟨rfl, rfl⟩
  · refine .inl ⟨?_, suffix_refl _, id⟩
    dsimp only [size, elim_some]
    omega
  · cases r with
    | nil =>
      cases psi with
      | none =>
        refine .inr ⟨rfl, ?_, rfl, .inl ⟨rfl, rfl, rfl⟩⟩
        dsimp only [size, elim_some, elim_none]
        omega
      | some psi =>
        refine .inl ⟨?_, suffix_refl _, nofun⟩
        dsimp only [size, elim_some, tail_nil, length_nil]
        omega
    | cons psi' r =>
      refine .inl ⟨?_, suffix_cons _ _, nofun⟩
      dsimp only [size, elim_some, tail_cons, length_cons]
      omega
  · refine .inl ⟨?_, suffix_append _ _, id⟩
    dsimp only [size, elim_some]
    rw [length_append]
    omega
  · cases r with
    | nil =>
      refine .inr ⟨rfl, ?_, rfl, .inr ⟨rfl, rfl⟩⟩
      show _ + 2 ≤ _
      dsimp only [size]
      omega
    | cons l r =>
      have htext := length_apnText_le (lvValue (l :: r))
      have hread := length_lvValue_add_lvTail l r
      refine .inl ⟨?_, lvTail_suffix _, id⟩
      dsimp only [size, elim_some]
      rw [length_cons]
      omega
  · have := (lvTail_suffix r).length_le
    exact .inl ⟨by omega, lvTail_suffix _, id⟩

theorem getLast?_of_suffix (h : r' <:+ r) {c : UInt8} (hlast : r'.getLast? = some c) :
    r.getLast? = some c := by
  obtain ⟨front, rfl⟩ := h
  rw [getLast?_append, hlast, some_or]

-- Induction on the bound of the loop.  Behind an element that is cut off nothing is left to read.
theorem size_loop_le : ∀ (fuel : Nat) {msg out : ULNASTransport} {r r' : Bytes},
    (loop (fun r : Reader => decide (0 < r.length)) ulNASTransportIE fuel msg).run r =
      (.ok out, r') →
    out.size ≤ msg.size + r.length ∨ (out.size ≤ msg.size + r.length + 1 ∧ CutOff msg r out) := by
  intro fuel
  induction fuel with
  | zero =>
    intro msg out r r' h
    cases r with
    | nil =>
      cases h
      exact .inl (Nat.le_refl _)
    | cons iei r => cases h
  | succ fuel ih =>
    intro msg out r r' h
    cases r with
    | nil =>
      cases h
      exact .inl (Nat.le_refl _)
    | cons iei r =>
      have hstep := @Proc.run_loop_step Reader ULNASTransport (fun r => decide (0 < r.length))
        ulNASTransportIE fuel msg (iei :: r) rfl
      rw [hstep] at h
      rcases hrun : (ulNASTransportIE msg).run (iei :: r) with ⟨c | e | _ | _, r''⟩
      all_goals rw [hrun] at h
      · obtain ⟨msg', rfl, hturn⟩ := size_step_le hrun
        dsimp only at h
        rcases hturn with ⟨hle, hsuffix, hpsi⟩ | ⟨rfl, hle, rfl, hcut⟩
        · rcases ih h with hout | ⟨hout, hcut⟩
          · exact .inl (by omega)
          · have hsuffix' : r'' <:+ iei :: r := hsuffix.trans (suffix_cons _ _)
            refine .inr ⟨by omega, ?_⟩
            rcases hcut with ⟨hlast, hnone, hzero⟩ | ⟨hlast, hempty⟩
            · exact .inl ⟨getLast?_of_suffix hsuffix' hlast, hpsi hnone, hzero⟩
            · exact .inr ⟨getLast?_of_suffix hsuffix' hlast, hempty⟩
        · rw [run_loop_exit rfl] at h
          cases h
          exact .inr ⟨hle, hcut⟩
      · cases h
      · cases h
      · cases h

/-! ## Inside the elements -/

theorem pduSessionID_readAll (h : (UplinkIE.readAll msg es).pduSessionID = none) :
    msg.pduSessionID = none ∧ ∀ e ∈ es, ∀ psi, e ≠ .pduSessionID psi := by
  induction es generalizing msg with
  | nil => exact ⟨h, nofun⟩
  | cons e es ih =>
    obtain ⟨hfirst, hrest⟩ := ih h
    rw [forall_mem_cons]
    cases e with
    | pduSessionID psi => cases hfirst
    | _ => exact ⟨hfirst, nofun, hrest⟩

theorem getLast?_elements (h : msg.dnn = some []) :
    (uplinkOctets msg.elements).getLast? = some 0 := by
  have hlast : msg.elements = (msg.pduSessionID.toList.map UplinkIE.pduSessionID ++
      (msg.requestType.toList.map UplinkIE.requestType ++ msg.snssai.toList.map UplinkIE.snssai)) ++
      [UplinkIE.dnn []] := by
    rw [elements, h, append_assoc, append_assoc]
    rfl
  rw [hlast, uplinkOctets_append, getLast?_append]
  rfl

theorem not_reads_inside {front back : List UplinkIE} (helements : front ++ back = msg.elements)
    (hsuffix : r' <:+ uplinkOctets back) (hlt : r'.length < (uplinkOctets back).length)
    (fuel : Nat) : ((loop (fun r : Reader => decide (0 < r.length)) ulNASTransportIE fuel
      (UplinkIE.readAll msg.bare front)).run r').1 ≠ .ok msg := by
  intro hread
  have hfront : (UplinkIE.readAll msg.bare front).size ≤ (uplinkOctets front).length := by
    simpa [size, bare] using size_readAll_le front msg.bare
  have hsize := length_uplinkOctets_elements msg
  rw [← helements, uplinkOctets_append, length_append] at hsize
  rcases size_loop_le fuel (Prod.ext hread rfl) with hout | ⟨hout, hcut⟩
  · omega
  rcases hcut with ⟨hlast, hnone, hzero⟩ | ⟨hlast, hempty⟩
  · -- The session ID is the first element, and the reader stands on its value.
    obtain ⟨rest, hrest⟩ : ∃ rest, msg.elements = .pduSessionID 0 :: rest :=
      ⟨_, by rw [elements, hzero]; rfl⟩
    have hnil : front = [] := by
      cases front with
      | nil => rfl
      | cons e front =>
        rw [hrest, cons_append, cons.injEq] at helements
        exact absurd helements.1 ((pduSessionID_readAll hnone).2 e mem_cons_self 0)
    rw [hnil, nil_append] at helements
    rw [hnil] at hread hout hsize
    have hback : uplinkOctets back = ieiPDUSessionID :: 0 :: uplinkOctets rest := by
      rw [helements, hrest, uplinkOctets_cons]
      rfl
    have hlen : (uplinkOctets back).length = (uplinkOctets rest).length + 2 := by
      rw [hback, length_cons, length_cons]
    have hbare : (UplinkIE.readAll msg.bare []).size = 0 := rfl
    have hr' : r' = 0 :: uplinkOctets rest := by
      rw [hback] at hsuffix
      rcases suffix_cons_iff.mp hsuffix with heq | hsuffix
      · rw [heq, hback] at hlt
        exact absurd hlt (Nat.lt_irrefl _)
      · refine hsuffix.eq_of_length_le ?_
        rw [length_cons]
        omega
    -- The value is zero, and is skipped as an unknown element.
    rw [hr'] at hread
    cases fuel with
    | zero => cases hread
    | succ fuel =>
      have hstep := @Proc.run_loop_step Reader ULNASTransport (fun r => decide (0 < r.length))
        ulNASTransportIE fuel (UplinkIE.readAll msg.bare []) (0 :: uplinkOctets rest) rfl
      rw [hstep, run_ulNASTransportIE_noBranch _ (by decide)] at hread
      have htail := (lvTail_suffix (uplinkOctets rest)).length_le
      rcases size_loop_le fuel (Prod.ext hread rfl) with hout | ⟨hout, -⟩
      · omega
      · omega
  · -- The last octet is the length of the DNN, which is zero.
    have hzero := getLast?_elements hempty
    rw [← helements, uplinkOctets_append, getLast?_append, getLast?_of_suffix hsuffix hlast]
      at hzero
    cases hzero

theorem exists_of_not_aligned (h : ¬UplinkAligned es) :
    ∃ front ie back, es = front ++ .unused ie :: back ∧ ¬ie.AlignedBefore (uplinkOctets back) := by
  induction es with
  | nil => exact absurd trivial h
  | cons e es ih =>
    by_cases hrest : UplinkAligned es
    · cases e with
      | unused ie => exact ⟨[], ie, es, rfl, fun hie => h ⟨hie, hrest⟩⟩
      | _ => exact absurd hrest h
    · obtain ⟨front, ie, back, rfl, hie⟩ := ih hrest
      exact ⟨e :: front, ie, back, rfl, hie⟩

theorem decodeULNASTransport_not_aligned (hmsg : msg.Encodable) (hinserted : Inserted msg es)
    (hone : es.length ≤ msg.elements.length + 1) (haligned : ¬UplinkAligned es) :
    decodeULNASTransport (ulNASTransportWith msg es) ≠ .ok msg := by
  have hfit := hinserted.fit hmsg
  obtain ⟨front, ie, back, rfl, hie⟩ := exists_of_not_aligned haligned
  have hfilter : front.filter UplinkIE.used ++ back.filter UplinkIE.used = msg.elements := by
    rw [← show _ = msg.elements from hinserted, filter_append]
    rfl
  have hlengths := congrArg length hfilter
  rw [length_append] at hlengths
  rw [length_append, length_cons] at hone
  have hfrontle := length_filter_le UplinkIE.used front
  have hbackle := length_filter_le UplinkIE.used back
  have hfront : ∀ e ∈ front, e.used = true :=
    length_filter_eq_length_iff.mp (by omega)
  have hback : ∀ e ∈ back, e.used = true :=
    length_filter_eq_length_iff.mp (by omega)
  rw [filter_eq_self.mpr hfront, filter_eq_self.mpr hback] at hfilter
  obtain ⟨hsuffix, hlt⟩ := lvTail_of_not_alignedBefore hie
  have hreaches : Reaches msg.bare (uplinkOctets (front ++ .unused ie :: back))
      (UplinkIE.readAll msg.bare front) (lvTail (ie.content ++ uplinkOctets back)) := by
    rw [uplinkOctets_append, uplinkOctets_cons]
    refine (reaches_used _ _ hfront fun e he => hfit e (mem_append_left _ he)).trans
      (Reaches.step ?_ (run_ulNASTransportIE_noBranch _ (noBranch_iei ie) _))
    rw [length_append]
    omega
  obtain ⟨fuel, -, hrun⟩ := hreaches _ (Nat.le_refl _)
  rw [decodeULNASTransport_with _ hmsg.1, hrun]
  exact not_reads_inside hfilter hsuffix hlt fuel

/-! ## The result -/

/-- The DNN is not taken for labels: its first octet is a character, or no length of a label. -/
def PlainDNN : Bytes → Prop
  | [] => True
  | l :: r => 0x20 ≤ l ∨ l = 0 ∨ r.length < l.toNat

theorem apnText_eq_self_iff (value : Bytes) : apnText value = value ↔ PlainDNN value := by
  cases value with
  | nil => exact ⟨fun _ => trivial, fun _ => rfl⟩
  | cons l r =>
    have hnil : labelsIn (l :: r) = [] ↔ l = 0 ∨ r.length < l.toNat := by
      rw [labelsIn, ← UInt8.toNat_inj]
      split
      · next h => exact ⟨fun _ => h, fun _ => rfl⟩
      · next h => exact ⟨fun h' => absurd h' (cons_ne_nil _ _), fun h' => absurd h' h⟩
    rw [apnText_cons, PlainDNN, ← hnil]
    split
    · next h => exact ⟨fun _ => h, fun _ => rfl⟩
    · next h =>
      have hlt := length_joinLabels_labelsIn fun hempty => h (.inr hempty)
      refine ⟨fun heq => ?_, fun h' => absurd h' h⟩
      rw [heq] at hlt
      exact absurd hlt (Nat.lt_irrefl _)

theorem and_0F_of_lt {b : UInt8} (h : b < 16) : b &&& 0x0F = b := by
  have hall : ∀ n < 16, UInt8.ofNat n &&& 0x0F = UInt8.ofNat n := by decide
  have := hall b.toNat (UInt8.lt_iff_toNat_lt.mp h)
  rwa [UInt8.ofNat_toNat] at this

/-- Every field fits into its place. -/
structure ULNASTransport.WithinLimits (msg : ULNASTransport) : Prop where
  encodable : msg.Encodable
  requestType : ∀ rt ∈ msg.requestType, rt < 16
  sd : ∀ s ∈ msg.snssai, ∀ sd ∈ s.sd, sd < 16777216

theorem readBack_eq_self_iff (h : msg.WithinLimits) :
    msg.readBack = msg ↔ ∀ dnn ∈ msg.dnn, PlainDNN dnn := by
  obtain ⟨pct, container, psi, rt, snssai, dnn⟩ := msg
  have hrt : rt.map (· &&& 0x0F) = rt := by
    cases rt with
    | none => rfl
    | some rt =>
      rw [map_some, and_0F_of_lt (h.requestType rt rfl)]
  have hsnssai : snssai.map SNSSAITransport.threeOctets = snssai := by
    cases snssai with
    | none => rfl
    | some s =>
      obtain ⟨sst, sd⟩ := s
      cases sd with
      | none => rfl
      | some sd =>
        have hsd : sd % 16777216 = sd := by
          have hlt := UInt32.lt_iff_toNat_lt.mp (h.sd _ rfl sd rfl)
          exact UInt32.toNat_inj.mp (by rw [UInt32.toNat_mod]; exact Nat.mod_eq_of_lt hlt)
        rw [map_some, SNSSAITransport.threeOctets, map_some, hsd]
  simp only [readBack, hrt, hsnssai, mk.injEq, true_and]
  cases dnn with
  | none => simp
  | some dnn => simp [apnText_eq_self_iff]

/-- A message is read back when its DNN is plain.  Unused elements between its own ones do not
change that when the generic rule leads behind each of them; when there is only one, it has to. -/
theorem decodeULNASTransport_inserted_iff {msg : ULNASTransport} (h : msg.WithinLimits) :
    (∃ b, encodeULNASTransport msg = .ok b ∧
      (decodeULNASTransport b = .ok msg ↔ ∀ dnn ∈ msg.dnn, PlainDNN dnn)) ∧
    ∀ es, Inserted msg es → ((∀ dnn ∈ msg.dnn, PlainDNN dnn) → UplinkAligned es →
        decodeULNASTransport (ulNASTransportWith msg es) = .ok msg) ∧
      (es.length ≤ msg.elements.length + 1 →
        (decodeULNASTransport (ulNASTransportWith msg es) = .ok msg ↔
          (∀ dnn ∈ msg.dnn, PlainDNN dnn) ∧ UplinkAligned es)) := by
  have hencode := encodeULNASTransport_elements h.encodable
  refine ⟨⟨_, hencode, ?_⟩, fun es hes => ?_⟩
  · rw [decodeULNASTransport_encode hencode, Outcome.ok.injEq, readBack_eq_self_iff h]
  · have haligned : UplinkAligned es → (decodeULNASTransport (ulNASTransportWith msg es) = .ok msg ↔
        ∀ dnn ∈ msg.dnn, PlainDNN dnn) := by
      intro haligned
      rw [decodeULNASTransport_aligned h.encodable hes haligned, Outcome.ok.injEq,
        readBack_eq_self_iff h]
    refine ⟨fun hplain hal => (haligned hal).mpr hplain, fun hone => ⟨fun hread => ?_, fun hok =>
      (haligned hok.2).mpr hok.1⟩⟩
    have hal : UplinkAligned es := by
      by_contra hnot
      exact decodeULNASTransport_not_aligned h.encodable hes hone hnot hread
    exact ⟨(haligned hal).mp hread, hal⟩

def internetRequest : ULNASTransport :=
  { payloadContainerType := 1
    payloadContainer := [0x2E, 0x05, 0x01, 0xC1]
    pduSessionID := some 5
    requestType := some 1
    snssai := some ⟨1, none⟩
    dnn := some [0x69, 0x6E, 0x74, 0x65, 0x72, 0x6E, 0x65, 0x74] }

/-- Additional information is skipped everywhere, and MA PDU session information at the end. -/
theorem decodeULNASTransport_inserted_internet :
    decodeULNASTransport (ulNASTransportWith internetRequest
      [.pduSessionID 5, .unused (.additionalInformation [0xAB, 0xCD] (by decide)), .requestType 1,
        .snssai ⟨1, none⟩, .dnn [0x69, 0x6E, 0x74, 0x65, 0x72, 0x6E, 0x65, 0x74],
        .unused (.halfOctet 0xA1 (by decide))]) = .ok internetRequest := by
  have hlimits : internetRequest.WithinLimits :=
    ⟨by decide, by rintro _ ⟨⟩; decide, by rintro _ ⟨⟩ _ ⟨⟩⟩
  refine ((decodeULNASTransport_inserted_iff hlimits).2 _ ?_).1 ?_ ⟨trivial, rfl, trivial⟩
  · rfl
  · rintro _ ⟨⟩
    exact .inl (by decide)

/-- MA PDU session information in front of the S-NSSAI loses the S-NSSAI and the DNN, and an Old PDU
session ID in front of the request type this and the S-NSSAI.  A DNN that starts with the length of
a label loses it. -/
theorem unused_element_loses_slice_and_dnn :
    decodeULNASTransport (ulNASTransportWith internetRequest
      [.pduSessionID 5, .requestType 1, .unused (.halfOctet 0xA1 (by decide)), .snssai ⟨1, none⟩,
        .dnn [0x69, 0x6E, 0x74, 0x65, 0x72, 0x6E, 0x65, 0x74]]) =
      .ok { internetRequest with snssai := none, dnn := none } ∧
    decodeULNASTransport (ulNASTransportWith internetRequest
      [.pduSessionID 5, .unused (.oldPDUSessionID 4), .requestType 1, .snssai ⟨1, none⟩,
        .dnn [0x69, 0x6E, 0x74, 0x65, 0x72, 0x6E, 0x65, 0x74]]) =
      .ok { internetRequest with requestType := none, snssai := none } ∧
    decodeULNASTransport (ulNASTransportWith { internetRequest with dnn := some [0x01, 0x61] }
      [.pduSessionID 5, .requestType 1, .snssai ⟨1, none⟩, .dnn [0x01, 0x61]]) =
      .ok { internetRequest with dnn := some [0x61] } := by
  decide +kernel

end Claudia5gc.Nas
