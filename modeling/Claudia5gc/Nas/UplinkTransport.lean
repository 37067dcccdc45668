import Claudia5gc.Nas.Encode

/-!
# UL NAS Transport, written and read back

`EncodeULNASTransport` and the round trip through `DecodeULNASTransport`.  Every element is read
back whatever octets follow it, so the proof takes the optional elements from the last to the first.
-/

namespace Claudia5gc.Nas

open Go Proc Nat List Outcome

variable (msg : ULNASTransport) (b : Bytes) {value r : Bytes}

/-! ## The encoder -/

/-- The S-NSSAI of an UL NAS Transport, behind its IEI. -/
def encodeSNSSAITransport (s : SNSSAITransport) : Bytes :=
  let snssaiBytes := s.sst ::
    match s.sd with
    | some sd => [(sd >>> 16).toUInt8, (sd >>> 8).toUInt8, sd.toUInt8]
    | none => []
  UInt8.ofNat snssaiBytes.length :: snssaiBytes

def optionalIE {α : Type} (encode : α → Bytes) : Option α → Bytes
  | some a => encode a
  | none => []

/-- The optional elements in the order of `EncodeULNASTransport`. -/
def ulNASTransportIEs (msg : ULNASTransport) (snssai : Option Bytes) : Bytes :=
  optionalIE (fun psi => [ieiPDUSessionID, psi]) msg.pduSessionID ++
  (optionalIE (fun rt => [0x80 ||| (rt &&& 0x0F)]) msg.requestType ++
  (optionalIE (fun lv => ieiSNSSAITransport :: lv) snssai ++ optionalIE (tlv ieiDNN) msg.dnn))

def ulNASTransportOctets (msg : ULNASTransport) (snssai : Option Bytes) : Bytes :=
  msg.payloadContainerType :: be16 msg.payloadContainer.length ++
    (msg.payloadContainer ++ ulNASTransportIEs msg snssai)

/-- The lengths fit into their fields. -/
def ULNASTransport.Encodable (msg : ULNASTransport) : Prop :=
  msg.payloadContainer.length ≤ 65535 ∧ ∀ dnn ∈ msg.dnn, dnn.length ≤ 255

instance (msg : ULNASTransport) : Decidable msg.Encodable :=
  inferInstanceAs (Decidable (_ ∧ _))

def encodeULNASTransport (msg : ULNASTransport) : Outcome Bytes :=
  if 65535 < msg.payloadContainer.length then .err (.new "nas: payload container too long")
  else if 255 < (msg.dnn.getD []).length then .err (.new "nas: DNN too long")
  else .ok (ulNASTransportOctets msg (msg.snssai.map encodeSNSSAITransport))

/-! ## Numbers in octets -/

theorem beNat_be16 {n : Nat} (h : n ≤ 65535) :
    beNat (UInt8.ofNat (n / 256)) (UInt8.ofNat n) = n := by
  have hlow : n % 256 < 2 ^ 8 := mod_lt _ (by decide)
  have hhigh : n / 256 % 256 = n / 256 := mod_eq_of_lt (by omega)
  simp only [beNat, UInt8.toNat_ofNat', reducePow, hhigh]
  rw [← shiftLeft_add_eq_or_of_lt hlow, shiftLeft_eq]
  omega

theorem beUInt16_octets (id : UInt16) : beUInt16 (id >>> 8).toUInt8 id.toUInt8 = id := by
  have hid := id.toNat_lt
  apply UInt16.toNat_inj.mp
  simp only [beUInt16, UInt16.toNat_or, UInt16.toNat_shiftLeft, UInt8.toNat_toUInt16,
    UInt16.toNat_toUInt8, UInt16.toNat_shiftRight, UInt16.reduceToNat, reduceMod,
    reducePow, shiftRight_eq_div_pow, shiftLeft_eq]
  have hhigh : id.toNat / 256 % 256 * 256 % 65536 = (id.toNat / 256) <<< 8 := by
    omega
  rw [hhigh, ← shiftLeft_add_eq_or_of_lt (mod_lt _ (by decide)), shiftLeft_eq]
  omega

theorem toNat_sdOfBytes (b0 b1 b2 : UInt8) :
    (sdOfBytes b0 b1 b2).toNat = b0.toNat * 65536 + b1.toNat * 256 + b2.toNat := by
  have h0 : b0.toNat < 256 := b0.toNat_lt
  have h1 : b1.toNat < 256 := b1.toNat_lt
  have h2 : b2.toNat < 256 := b2.toNat_lt
  have hlow : b1.toNat <<< 8 + b2.toNat = b1.toNat <<< 8 ||| b2.toNat :=
    shiftLeft_add_eq_or_of_lt h2 _
  have hall : b0.toNat <<< 16 + (b1.toNat <<< 8 + b2.toNat) =
      b0.toNat <<< 16 ||| (b1.toNat <<< 8 + b2.toNat) :=
    shiftLeft_add_eq_or_of_lt (by rw [shiftLeft_eq]; omega) _
  have hs0 : b0.toNat <<< 16 % 4294967296 = b0.toNat <<< 16 :=
    mod_eq_of_lt (by rw [shiftLeft_eq]; omega)
  have hs1 : b1.toNat <<< 8 % 4294967296 = b1.toNat <<< 8 :=
    mod_eq_of_lt (by rw [shiftLeft_eq]; omega)
  simp only [sdOfBytes, UInt32.toNat_or, UInt32.toNat_shiftLeft, UInt8.toNat_toUInt32,
    UInt32.reduceToNat, reducePow, reduceMod, hs0, hs1]
  rw [Nat.or_assoc, ← hlow, ← hall, Nat.shiftLeft_eq, Nat.shiftLeft_eq]
  omega

theorem sdOfBytes_octets (sd : UInt32) :
    sdOfBytes (sd >>> 16).toUInt8 (sd >>> 8).toUInt8 sd.toUInt8 = sd % 16777216 := by
  apply UInt32.toNat_inj.mp
  rw [toNat_sdOfBytes]
  simp only [UInt32.toNat_toUInt8, UInt32.toNat_shiftRight, UInt32.toNat_mod,
    UInt32.reduceToNat, reduceMod, shiftRight_eq_div_pow, reducePow]
  omega

theorem requestTypeOctet : ∀ rt : UInt8,
    (0x80 ||| (rt &&& 0x0F)) &&& 0xF0 = 0x80 ∧ (0x80 ||| (rt &&& 0x0F)) &&& 0x0F = rt &&& 0xF := by
  intro rt
  have hall : ∀ n < 256, (0x80 ||| (UInt8.ofNat n &&& 0x0F)) &&& 0xF0 = 0x80 ∧
      (0x80 ||| (UInt8.ofNat n &&& 0x0F)) &&& 0x0F = UInt8.ofNat n &&& 0xF := by
    decide +kernel
  have := hall rt.toNat rt.toNat_lt
  rwa [UInt8.ofNat_toNat] at this

/-! ## One element -/

theorem run_readBytes_append (value r : Bytes) :
    ((readBytes value.length).orZero []).run (value ++ r) = (.ok value, r) := by
  rw [run_orZero, run_readBytes_of_le (by simp), take_left, drop_left]

theorem run_readLV_append (h : value.length ≤ 255) (r : Bytes) :
    readLV.run (UInt8.ofNat value.length :: (value ++ r)) = (.ok value, r) := by
  have hlen : (UInt8.ofNat value.length).toNat = value.length := by
    rw [UInt8.toNat_ofNat', mod_eq_of_lt (by omega)]
  rw [readLV, run_bind_ok (run_readByte_orZero_cons _ _), hlen, run_readBytes_append]

theorem run_readLVE_append (h : value.length ≤ 65535) (r : Bytes) :
    readLVE.run (be16 value.length ++ value ++ r) = (.ok value, r) := by
  show readLVE.run (UInt8.ofNat (value.length / 256) :: UInt8.ofNat value.length ::
    (value ++ r)) = _
  rw [readLVE, run_bind_ok (run_readByte_orZero_cons _ _),
    run_bind_ok (run_readByte_orZero_cons _ _), beNat_be16 h, run_readBytes_append]

theorem run_ulNASTransportIE_pduSessionID (psi : UInt8) (r : Bytes) :
    (ulNASTransportIE msg).run (ieiPDUSessionID :: psi :: r) =
      (.ok (.next { msg with pduSessionID := some psi }), r) := rfl

theorem run_ulNASTransportIE_requestType (rt : UInt8) (r : Bytes) :
    (ulNASTransportIE msg).run ((0x80 ||| (rt &&& 0x0F)) :: r) =
      (.ok (.next { msg with requestType := some (rt &&& 0x0F) }), r) := by
  obtain ⟨hiei, hvalue⟩ := requestTypeOctet rt
  have hpeek : peekByte.attempt.run ((0x80 ||| (rt &&& 0x0F)) :: r) =
      (.ok (.ok (0x80 ||| (rt &&& 0x0F))), (0x80 ||| (rt &&& 0x0F)) :: r) := rfl
  rw [ulNASTransportIE, run_bind_ok hpeek]
  dsimp only
  rw [if_pos hiei, hvalue]
  rfl

/-- The S-NSSAI as it is read back. -/
def SNSSAITransport.threeOctets (s : SNSSAITransport) : SNSSAITransport :=
  { s with sd := s.sd.map (· % 16777216) }

theorem run_ulNASTransportIE_snssai (s : SNSSAITransport) (r : Bytes) :
    (ulNASTransportIE msg).run (ieiSNSSAITransport :: (encodeSNSSAITransport s ++ r)) =
      (.ok (.next { msg with snssai := some s.threeOctets }), r) := by
  obtain ⟨sst, sd⟩ := s
  cases sd with
  | none => rfl
  | some sd =>
    show _ = (ok (Ctl.next { msg with snssai := some ⟨sst, some (sd % 16777216)⟩ }), r)
    rw [← sdOfBytes_octets sd]
    rfl

theorem apnLabel_ne_err (labels : List Bytes) (i : Nat) (e : Error) :
    ((apnLabel b labels).run i).1 ≠ .err e := by
  intro h
  simp only [apnLabel, run_bind, run_get, run_lift, run_modify, index, slice] at h
  cases hl : b[i]? with
  | none =>
    rw [hl] at h
    cases h
  | some l =>
    rw [hl] at h
    dsimp only at h
    split at h
    · cases h
    · rw [if_pos ⟨by omega, by omega⟩] at h
      cases h

theorem exists_decodeAPN : ∃ dnn, decodeAPN b = .ok dnn := by
  have hreturns := returns_decodeAPN b
  cases h : decodeAPN b with
  | ok dnn => exact ⟨dnn, rfl⟩
  | err e =>
    have hloop : ((loop (fun i => decide (i < b.length)) (apnLabel b) b.length []).run
        0).1 ≠ .err e := loop_ne_err (apnLabel_ne_err b) _ _ _ _
    rw [decodeAPN] at h
    split at h
    · cases h
    · rw [index_of_lt (by omega), ok_bind] at h
      split at h
      · cases h
      · rcases hlabels : ((loop (fun i => decide (i < b.length)) (apnLabel b) b.length
          []).run 0).1 with labels | e' | _ | _
        all_goals rw [hlabels] at h
        · rw [ok_bind] at h
          split at h <;> cases h
        · rw [err_bind, err.injEq] at h
          exact absurd (h ▸ hlabels) hloop
        · cases h
        · cases h
  | panic | hang =>
    rw [h] at hreturns
    exact hreturns.elim

/-- What `decodeAPN` makes of the octets. -/
def apnText (b : Bytes) : Bytes :=
  match decodeAPN b with
  | .ok dnn => dnn
  | _ => []

theorem decodeAPN_eq : decodeAPN b = .ok (apnText b) := by
  obtain ⟨dnn, hdnn⟩ := exists_decodeAPN b
  rw [apnText, hdnn]

theorem run_ulNASTransportIE_dnn (h : value.length ≤ 255) (r : Bytes) :
    (ulNASTransportIE msg).run (tlv ieiDNN value ++ r) =
      (.ok (.next { msg with dnn := some (apnText value) }), r) := by
  have hpeek : peekByte.attempt.run (tlv ieiDNN value ++ r) =
      (.ok (.ok ieiDNN), tlv ieiDNN value ++ r) := rfl
  have hiei : (readByte.orZero 0).run (tlv ieiDNN value ++ r) =
      (.ok ieiDNN, UInt8.ofNat value.length :: (value ++ r)) := rfl
  rw [ulNASTransportIE, run_bind_ok hpeek]
  show (readByte.orZero 0 >>= fun _ => readLV >>= fun dnnBytes =>
    lift (decodeAPN dnnBytes) >>= fun dnnStr =>
      pure (Ctl.next { msg with dnn := some dnnStr })).run _ = _
  rw [run_bind_ok hiei, run_bind_ok (run_readLV_append h r), decodeAPN_eq]
  rfl

/-! ## The walk over the elements -/

/-- The loop over the optional elements ends with `out` when it has enough turns. -/
def ReadsAs (msg : ULNASTransport) (r : Bytes) (out : ULNASTransport) : Prop :=
  ∀ fuel, r.length ≤ fuel →
    (loop (fun r : Reader => decide (0 < r.length)) ulNASTransportIE fuel msg).run r = (.ok out, [])

theorem ReadsAs.nil : ReadsAs msg [] msg :=
  fun _ _ => run_loop_exit rfl

theorem ReadsAs.element {msg msg' out : ULNASTransport} {e : Bytes} (he : 0 < e.length)
    (hrun : (ulNASTransportIE msg).run (e ++ r) = (.ok (.next msg'), r))
    (hrest : ReadsAs msg' r out) : ReadsAs msg (e ++ r) out := by
  intro fuel hfuel
  rw [length_append] at hfuel
  obtain ⟨fuel, rfl⟩ : ∃ n, fuel = n + 1 := ⟨fuel - 1, by omega⟩
  have hcond : decide (0 < (e ++ r).length) = true := by
    rw [decide_eq_true_eq, length_append]
    omega
  have hstep := @Proc.run_loop_step Reader ULNASTransport (fun r => decide (0 < r.length))
    ulNASTransportIE fuel msg (e ++ r) hcond
  rw [hstep, hrun]
  exact hrest fuel (by omega)

theorem ReadsAs.optional {α : Type} {encode : α → Bytes} {o : Option α}
    {k : Option α → ULNASTransport} {out : ULNASTransport}
    (helement : ∀ a ∈ o, 0 < (encode a).length ∧
      (ulNASTransportIE (k none)).run (encode a ++ r) = (.ok (.next (k (some a))), r))
    (hrest : ReadsAs (k o) r out) : ReadsAs (k none) (optionalIE encode o ++ r) out := by
  cases o with
  | none => exact hrest
  | some a => exact .element (helement a rfl).1 (helement a rfl).2 hrest

def ULNASTransport.readBack (msg : ULNASTransport) : ULNASTransport :=
  { msg with
    requestType := msg.requestType.map (· &&& 0x0F)
    snssai := msg.snssai.map SNSSAITransport.threeOctets
    dnn := msg.dnn.map apnText }

theorem readsAs_ulNASTransportIEs {msg : ULNASTransport}
    (hdnn : ∀ dnn ∈ msg.dnn, dnn.length ≤ 255) :
    ReadsAs { payloadContainerType := msg.payloadContainerType
              payloadContainer := msg.payloadContainer }
      (ulNASTransportIEs msg (msg.snssai.map encodeSNSSAITransport)) msg.readBack := by
  obtain ⟨pct, container, psi, rt, snssai, dnn⟩ := msg
  refine .optional (k := fun psi => ⟨pct, container, psi, none, none, none⟩)
    (fun psi _ => ⟨Nat.two_pos, run_ulNASTransportIE_pduSessionID _ psi _⟩) ?_
  refine .optional (k := fun rt => ⟨pct, container, psi, rt.map (· &&& 0x0F), none, none⟩)
    (fun rt _ => ⟨Nat.one_pos, run_ulNASTransportIE_requestType _ rt _⟩) ?_
  rw [← append_nil (optionalIE (tlv ieiDNN) dnn)]
  have hsnssai : optionalIE (fun lv => ieiSNSSAITransport :: lv)
      (snssai.map encodeSNSSAITransport) =
      optionalIE (fun s => ieiSNSSAITransport :: encodeSNSSAITransport s) snssai := by
    cases snssai <;> rfl
  rw [hsnssai]
  refine .optional (k := fun snssai => ⟨pct, container, psi, rt.map (· &&& 0x0F),
      snssai.map SNSSAITransport.threeOctets, none⟩)
    (fun s _ => ⟨succ_pos _, run_ulNASTransportIE_snssai _ s _⟩) ?_
  refine .optional (k := fun dnn => ⟨pct, container, psi, rt.map (· &&& 0x0F),
      snssai.map SNSSAITransport.threeOctets, dnn.map apnText⟩)
    (fun value hvalue => ⟨succ_pos _, run_ulNASTransportIE_dnn _ (hdnn value hvalue) _⟩) ?_
  exact .nil _

theorem decodeULNASTransport_container {pct : UInt8} {container : Bytes}
    (h : container.length ≤ 65535) (ies : Bytes) :
    decodeULNASTransport (pct :: be16 container.length ++ (container ++ ies)) =
      ((loop (fun r : Reader => decide (0 < r.length)) ulNASTransportIE ies.length
        { payloadContainerType := pct, payloadContainer := container }).run ies).1 := by
  have hlen := beNat_be16 h
  have hfits : ¬(container ++ ies).length < container.length := by
    rw [length_append]
    omega
  unfold decodeULNASTransport
  rw [if_neg (by simp [be16])]
  rw [ulNASTransportBody, be16, cons_append, cons_append, cons_append,
    nil_append, run_bind_ok (run_readByte_orZero_cons _ _), run_bind_ok
    (run_readByte_orZero_cons _ _), run_bind_ok (run_readByte_orZero_cons _ _), hlen, run_bind_ok
    (run_get _), if_neg hfits, run_bind_ok (run_readBytes_append _ _), run_bind_ok (run_get _)]

theorem decodeULNASTransport_octets {msg : ULNASTransport} (h : msg.Encodable) :
    decodeULNASTransport
      (ulNASTransportOctets msg (msg.snssai.map encodeSNSSAITransport)) = .ok msg.readBack := by
  rw [ulNASTransportOctets, decodeULNASTransport_container h.1,
    readsAs_ulNASTransportIEs h.2 _ (Nat.le_refl _)]

/-- The round trip. -/
theorem decodeULNASTransport_encode {msg : ULNASTransport} {b : Bytes}
    (h : encodeULNASTransport msg = .ok b) : decodeULNASTransport b = .ok msg.readBack := by
  unfold encodeULNASTransport at h
  split at h
  · cases h
  · next hcontainer =>
    split at h
    · cases h
    · next hdnn =>
      rw [ok.injEq] at h
      have hdnn' : ∀ dnn ∈ msg.dnn, dnn.length ≤ 255 := by
        intro dnn hmem
        rw [Option.mem_def.mp hmem] at hdnn
        exact Nat.not_lt.mp hdnn
      rw [← h]
      exact decodeULNASTransport_octets ⟨Nat.not_lt.mp hcontainer, hdnn'⟩

end Claudia5gc.Nas
