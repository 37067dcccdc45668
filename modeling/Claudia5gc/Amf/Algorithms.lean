import Claudia5gc.Amf.DownlinkCount

/-!
# Announced and applied algorithms

The Security Mode Command of Phase 2 announces an integrity and a ciphering algorithm.  The routines
that protect and open NAS PDUs know one of each: 128-NIA2, whatever was announced, and 128-NEA2
unless NEA0 was announced.
-/

namespace Claudia5gc.Amf

open Go Crypto Nas Proc Crypto

variable {selected : NASSecurityAlgorithms} {ue : Ptr} {r : AuthenticationResponse}
  {cap : UESecurityCapability} {nullSecurity : Bool} {t : Handler}

/-- The algorithms that have an identifier and no implementation in the source. -/
structure Unimplemented where
  nia : UInt8 → Bytes → UInt32 → UInt8 → UInt8 → Bytes → Vector UInt8 4
  nea : UInt8 → Bytes → UInt32 → UInt8 → UInt8 → Bytes → Bytes

namespace Unimplemented

def integrity (others : Unimplemented) (id : UInt8) : Algorithm :=
  if id = 0 then fun _ _ _ _ _ => .ok [0, 0, 0, 0]
  else if id = 2 then Nia.nia2
  else fun key count bearer dir message => .ok (others.nia id key count bearer dir message).toList

def ciphering (others : Unimplemented) (id : UInt8) : Algorithm :=
  if id = 0 then fun _ _ _ _ message => .ok message
  else if id = 2 then Nea.nea2
  else fun key count bearer dir message => .ok (others.nea id key count bearer dir message)

end Unimplemented

def check (mac : Algorithm) (knasint : Bytes) (count : UInt32) (pdu : Bytes) : Outcome Bool := do
  let expected ← mac knasint count 0x01 0x00 (pdu.drop 6)
  return expected == (pdu.drop 2).take 4

def decipherBy (crypt : Algorithm) (knasenc : Bytes) (count : UInt32) (pdu : Bytes) :
    Outcome Bytes :=
  if Handler.securityHeaderType pdu = Handler.securityHeaderIntegrityProtectedAndCiphered ∨
      Handler.securityHeaderType pdu =
        Handler.securityHeaderIntegrityProtectedAndCipheredWithNewSC then
    crypt knasenc count 0x01 0x00 (pdu.drop 7)
  else .ok (pdu.drop 7)

def unprotect (crypt : Algorithm) (knasenc : Bytes) (count : UInt32) (pdu : Bytes) :
    Outcome Bytes := do
  let inner ← decipherBy crypt knasenc count pdu
  return pdu.take 7 ++ inner

namespace Handler

structure Applies (others : Unimplemented) (selected : NASSecurityAlgorithms) (ue : Ptr)
    (t : Handler) : Prop where
  integrityOnly : ∀ body sht pdu t', (sendNASIntegrityOnly ue body sht).run t = (.ok pdu, t') →
    protect (others.integrity selected.integrityAlgorithmID) (others.ciphering 0)
      (t.sec ue).knasint (t.sec ue).knasenc (t.sec ue).downlinkCount sht body = .ok pdu
  secured : ∀ body pdu t', (sendNASSecured ue body).run t = (.ok pdu, t') →
    protect (others.integrity selected.integrityAlgorithmID)
      (others.ciphering selected.cipheringAlgorithmID) (t.sec ue).knasint (t.sec ue).knasenc
      (t.sec ue).downlinkCount securityHeaderIntegrityProtectedAndCiphered body = .ok pdu
  opened : (t.sec ue).active = true → ∀ pdu plain t',
    (unwrapNASSecurity ue pdu).run t = (.ok plain, t') →
    check (others.integrity selected.integrityAlgorithmID) (t.sec ue).knasint
        (t.sec ue).uplinkCount pdu = verifyMAC (t.sec ue) pdu ∧
      unprotect (others.ciphering selected.cipheringAlgorithmID) (t.sec ue).knasenc
        (t.sec ue).uplinkCount pdu = .ok plain

/-! ## What the routines apply -/

section

variable {ue : Ptr} {t : Handler} {pdu plain : Bytes}

theorem unprotect_of_unwrapNASSecurity {t' : Handler}
    (h : (unwrapNASSecurity ue pdu).run t = (.ok plain, t')) :
    unprotect (hardwired (t.sec ue).cipheringAlgID) (t.sec ue).knasenc (t.sec ue).uplinkCount
      pdu = .ok plain := by
  rcases Nat.lt_or_ge pdu.length 7 with hlt | hge
  · obtain ⟨e, hrun⟩ := run_unwrapNASSecurity_of_lt ue hlt t
    rw [hrun] at h
    cases h
  · rw [run_unwrapNASSecurity hge] at h
    have hdecipher : decipherBy (hardwired (t.sec ue).cipheringAlgID) (t.sec ue).knasenc
        (t.sec ue).uplinkCount pdu =
        decipher (t.ctx ue).securityCtx (securityHeaderType pdu) (pdu.drop 7) := by
      unfold decipherBy decipher hardwired sec
      split
      · split <;> rfl
      · rfl
    rw [unprotect, hdecipher]
    cases hplain : decipher (t.ctx ue).securityCtx (securityHeaderType pdu) (pdu.drop 7) with
    | ok inner =>
      rw [hplain] at h
      exact (Prod.mk.inj h).1
    | err e | panic | hang => rw [hplain] at h; cases h

def Announced (id : UInt8) (sec : SecurityContext) : Prop :=
  sec.cipheringAlgID = id ∨ sec.knasint = [] ∧ sec.active = false

theorem applies_of_announced (others : Unimplemented) (hinteg : selected.integrityAlgorithmID = 2)
    (hcipher : selected.cipheringAlgorithmID = 0 ∨ selected.cipheringAlgorithmID = 2)
    (h : Announced selected.cipheringAlgorithmID (t.sec ue)) : Applies others selected ue t := by
  have hmac : others.integrity selected.integrityAlgorithmID = Nia.nia2 := by
    rw [hinteg]
    rfl
  have hcrypt : others.ciphering selected.cipheringAlgorithmID =
      hardwired selected.cipheringAlgorithmID := by
    rcases hcipher with hcipher | hcipher
    · rw [hcipher]
      rfl
    · rw [hcipher]
      rfl
  constructor
  · intro body sht pdu t' hrun
    rw [hmac]
    exact run_sendNASIntegrityOnly_iff.mp ⟨t', hrun⟩
  · intro body pdu t' hrun
    have hprotect := run_sendNASSecured_iff.mp ⟨t', hrun⟩
    rw [hmac, hcrypt]
    rcases h with hid | ⟨hkey, -⟩
    · rw [hid] at hprotect
      exact hprotect
    · -- Without a key there is no PDU.
      obtain ⟨inner, -, hprotect⟩ := Outcome.bind_eq_ok.mp hprotect
      obtain ⟨ciphered, -, hprotect⟩ := Outcome.bind_eq_ok.mp hprotect
      rw [hkey] at hprotect
      cases hprotect
  · intro hactive pdu plain t' hrun
    have hopened := unprotect_of_unwrapNASSecurity hrun
    rw [hmac, hcrypt]
    rcases h with hid | ⟨-, hinactive⟩
    · rw [hid] at hopened
      exact ⟨rfl, hopened⟩
    · rw [hinactive] at hactive
      cases hactive

end

/-! ## Later states -/

section

variable {drops : Prop} {ue : Ptr} {s s' : Handler}

theorem SecurityStep.keys (h : SecurityStep drops ue s s') :
    (∃ key, keysOf (s'.keyLog ue) = keysOf (s.keyLog ue) ++ [key]) ∨
      keysOf (s'.keyLog ue) = keysOf (s.keyLog ue) ∧
        (∀ id, Announced id (s.sec ue) → Announced id (s'.sec ue)) := by
  cases h with
  | silent hsec hevents =>
    obtain ⟨new, htrace, hsilent⟩ := hevents
    right
    rw [keyLog_of_silent htrace hsilent, hsec]
    exact ⟨rfl, fun _ => id⟩
  | plain pdu e hpdu hsec hevents hcarries =>
    right
    rw [keyLog_snoc hevents, hcarries.keyUse, hpdu, if_neg Bool.false_ne_true,
      Option.toList_none, List.append_nil, hsec]
    exact ⟨rfl, fun _ => id⟩
  | protect pdu before e hbuilt hsec hevents hsilent hcarries =>
    let s₁ : Handler := { s with trace := s.trace ++ before }
    have hbefore : s₁.keyLog ue = s.keyLog ue := keyLog_of_silent rfl hsilent
    have hlog : s'.keyLog ue = s₁.keyLog ue ++ _ := keyLog_snoc hevents
    right
    rw [hlog, hbefore, hcarries.keyUse, if_pos hbuilt.isProtected, Option.toList_some,
      keysOf_snoc, hsec]
    exact ⟨List.append_nil _, fun _ => id⟩
  | drop hdrop hsec hevents | uplink hsec hevents =>
    right
    unfold keyLog
    rw [hevents, hsec]
    exact ⟨rfl, fun _ => id⟩
  | rekey cfg kausf c hsec hevents =>
    left
    rw [keyLog_snoc hevents, Event.keyUse, if_pos rfl, Option.toList_some, keysOf_snoc]
    exact ⟨_, rfl⟩
  | reset hsec hevents =>
    right
    rw [keyLog_snoc hevents, Event.keyUse, if_pos rfl, Option.toList_some, keysOf_snoc, hsec]
    exact ⟨List.append_nil _, fun _ _ => .inr ⟨rfl, rfl⟩⟩

/-- Since there were only `keys`, new ones have come or `id` is still announced. -/
def Settled (keys : List Bytes) (id : UInt8) (ue : Ptr) (t : Handler) : Prop :=
  ∃ more, keysOf (t.keyLog ue) = keys ++ more ∧ (more = [] → Announced id (t.sec ue))

theorem Settled.secures {keys : List Bytes} {id : UInt8} (h : Settled keys id ue s)
    (hsteps : Secures drops ue s s') : Settled keys id ue s' := by
  induction hsteps with
  | refl => exact h
  | tail _ hstep ih =>
    obtain ⟨more, hkeys, hannounced⟩ := ih
    rcases hstep.keys with ⟨key, hkeys'⟩ | ⟨hkeys', hkeep⟩
    · refine ⟨more ++ [key], ?_, ?_⟩
      · rw [hkeys', hkeys, List.append_assoc]
      · intro hnil
        simp at hnil
    · exact ⟨more, hkeys'.trans hkeys, fun hnil => hkeep id (hannounced hnil)⟩

end

/-- For a UE of the capability `cap`, the algorithms that Phase 2 announces are those applied
to every PDU from then on, as long as no new keys are put into use. -/
def AnnouncedApplied (cap : UESecurityCapability) (nullSecurity : Bool) : Prop :=
  ∀ (others : Unimplemented) (cfg : Config) (env : Env) (ue : Ptr) (r : AuthenticationResponse)
    (s s₁ : Handler) (smcReq : SecurityModeCommand) (displaced : Option Ptr),
    cfg.nullSecurity = nullSecurity → (s.ctx ue).ueSecCap = cap →
    (phase2ProcessAuthResponse cfg env ue r).run s = (.ok (smcReq, displaced), s₁) →
    Applies others smcReq.selectedNASSecurityAlgorithms ue s₁ ∧
    ∀ (inputs : List UEInput) (t : Handler),
      Run (ueStep cfg ue) ((handleAuthenticationResponse cfg env ue r).run s).2 inputs t →
      keysOf (t.keyLog ue) = keysOf (s₁.keyLog ue) →
      Applies others smcReq.selectedNASSecurityAlgorithms ue t

theorem deriveSecurityContext_eq (cfg : Config) (kausf : Bytes) (c : UEContext) :
    deriveSecurityContext cfg kausf c =
      let kamf := kamf (kseaf kausf cfg.servingNetName) (trimIMSI c.supi) abba
      let integAlg := preferredAlgorithm c.ueSecCap.ia1 c.ueSecCap.ia2
      let cipherAlg :=
        if cfg.nullSecurity then 0 else preferredAlgorithm c.ueSecCap.ea1 c.ueSecCap.ea2
      { ngksi := c.pendingNGKSI
        integrityAlgID := integAlg
        cipheringAlgID := cipherAlg
        kamf := kamf
        knasint := knasint kamf integAlg
        knasenc := knasenc kamf cipherAlg
        active := true } := by
  unfold deriveSecurityContext selectSecurityAlgorithms
  cases cfg.nullSecurity <;> rfl

theorem selected_of_phase2 {cfg : Config} {env : Env}
    {s s₁ : Handler} {smcReq : SecurityModeCommand} {displaced : Option Ptr}
    (h : (phase2ProcessAuthResponse cfg env ue r).run s = (.ok (smcReq, displaced), s₁)) :
    let selected := smcReq.selectedNASSecurityAlgorithms
    let cap := (s.ctx ue).ueSecCap
    selected.integrityAlgorithmID = preferredAlgorithm cap.ia1 cap.ia2 ∧
    selected.cipheringAlgorithmID =
      (if cfg.nullSecurity then 0 else preferredAlgorithm cap.ea1 cap.ea2) ∧
    (s₁.sec ue).cipheringAlgID = selected.cipheringAlgorithmID := by
  obtain ⟨rfl, kausf, c, hctx⟩ := gives_phase2ProcessAuthResponse cfg env ue r _ _ _ h
  have hkeeps : Keeps (Frame UEContext.ueSecCap fun _ => True)
      (phase2ProcessAuthResponse cfg env ue r) :=
    keeps_phase2ProcessAuthResponse cfg env ue r (fun _ _ _ => trivial) (fun _ _ => rfl)
      fun _ _ => rfl
  have hcap := (hkeeps s).1 ue
  rw [h, hctx] at hcap
  change c.ueSecCap = (s.ctx ue).ueSecCap at hcap
  have hsec : (s₁.ctx ue).securityCtx = deriveSecurityContext cfg kausf c := by
    rw [hctx]
    rfl
  refine ⟨?_, ?_, rfl⟩
  · change (s₁.ctx ue).securityCtx.integrityAlgID = _
    rw [hsec, deriveSecurityContext_eq, hcap]
  · change (s₁.ctx ue).securityCtx.cipheringAlgID = _
    rw [hsec, deriveSecurityContext_eq, hcap]

def Supported (cap : UESecurityCapability) (nullSecurity : Bool) : Prop :=
  cap.ia2 = true ∧ (nullSecurity = true ∨ cap.ea2 = true ∨ cap.ea1 = false)

theorem announcedApplied_of_supported
    (h : Supported cap nullSecurity) : AnnouncedApplied cap nullSecurity := by
  intro others cfg env ue r s s₁ smcReq displaced hnull hcap hphase2
  obtain ⟨hinteg, hcipher, hid⟩ := selected_of_phase2 hphase2
  obtain ⟨hia2, hea⟩ := h
  rw [hcap, hia2] at hinteg
  have hcipher' : smcReq.selectedNASSecurityAlgorithms.cipheringAlgorithmID = 0 ∨
      smcReq.selectedNASSecurityAlgorithms.cipheringAlgorithmID = 2 := by
    rw [hcipher, hnull, hcap]
    rcases hea with hea | hea | hea
    · exact .inl (if_pos hea)
    · rw [hea]
      cases nullSecurity
      · exact .inr rfl
      · exact .inl rfl
    · rw [hea]
      cases nullSecurity
      · cases cap.ea2
        · exact .inl rfl
        · exact .inr rfl
      · exact .inl rfl
  refine ⟨applies_of_announced others hinteg hcipher' (.inl hid), ?_⟩
  intro inputs t hrun hkeys
  have hstart : Settled (keysOf (s₁.keyLog ue))
      smcReq.selectedNASSecurityAlgorithms.cipheringAlgorithmID ue s₁ :=
    ⟨[], (List.append_nil _).symm, fun _ => .inl hid⟩
  have hconfirmed : Secures True ue s₁ _ := secures_of_phase2 hphase2
  have hsettled := hrun.invariant (hstart.secures hconfirmed)
    fun _ _ _ h hstep => h.secures (secures_ueStep hstep)
  obtain ⟨more, hmore, hannounced⟩ := hsettled
  have hnil : more = [] := by
    rw [hkeys] at hmore
    exact List.self_eq_append_right.mp hmore
  exact applies_of_announced others hinteg hcipher' (hannounced hnil)

/-! ## Where another algorithm is announced -/

def idleAlgorithms : Unimplemented where
  nia := fun _ _ _ _ _ _ => Vector.replicate 4 0
  nea := fun _ _ _ _ _ message => message

def capable (cap : UESecurityCapability) : Handler :=
  ((update 0 fun c => { c with ueSecCap := cap }).run newcomer).2

def confirming : Env where
  confirmAuth := .ok ⟨"imsi-001010000000001", List.replicate 32 5⟩

def confirmedKAMF : Bytes :=
  kamf (kseaf (List.replicate 32 5) Config.minimal.servingNetName)
    (trimIMSI "imsi-001010000000001") abba

def shortest : DownlinkBody := .registrationReject 0

theorem protect_shortest_ok {id : UInt8} {knasint knasenc : Bytes} (hknasint : knasint.length = 16)
    (hknasenc : id = 0 ∨ knasenc.length = 16) (count : UInt32) (sht : UInt8) :
    ∃ pdu, protect Nia.nia2 (hardwired id) knasint knasenc count sht shortest = .ok pdu := by
  have hcipher : ∃ ciphered, hardwired id knasenc count 0x01 0x01 [0x7E, 0x00, 0x44, 0x00] =
      .ok ciphered := by
    unfold hardwired
    split_ifs with hid
    · exact ⟨_, rfl⟩
    · exact ⟨_, if_neg (not_not.mpr (hknasenc.resolve_left hid))⟩
  obtain ⟨ciphered, hciphered⟩ := hcipher
  obtain ⟨code, hcode⟩ := Nia.nia2_ok hknasint count 0x01 0x01 (count.toUInt8 :: ciphered)
  exact ⟨_, Outcome.bind_eq_ok.mpr ⟨_, rfl, Outcome.bind_eq_ok.mpr ⟨_, hciphered,
    Outcome.bind_eq_ok.mpr ⟨code, hcode, rfl⟩⟩⟩⟩

theorem Applies.integrityOnly_eq {others : Unimplemented}
    (h : Applies others selected ue t) (hkey : (t.sec ue).knasint.length = 16) :
    protect (others.integrity selected.integrityAlgorithmID) (others.ciphering 0)
        (t.sec ue).knasint [] (t.sec ue).downlinkCount 0x03 shortest =
      protect Nia.nia2 (hardwired 0) (t.sec ue).knasint [] (t.sec ue).downlinkCount 0x03
        shortest := by
  obtain ⟨pdu, hpdu⟩ := protect_shortest_ok hkey (.inl rfl) (t.sec ue).downlinkCount 0x03
  obtain ⟨t', hrun⟩ := run_sendNASIntegrityOnly_iff.mpr hpdu
  exact (h.integrityOnly shortest 0x03 pdu t' hrun).trans hpdu.symm

theorem Applies.secured_eq {others : Unimplemented}
    (h : Applies others selected ue t) (hknasint : (t.sec ue).knasint.length = 16)
    (hknasenc : (t.sec ue).knasenc.length = 16) :
    protect (others.integrity selected.integrityAlgorithmID)
        (others.ciphering selected.cipheringAlgorithmID) (t.sec ue).knasint (t.sec ue).knasenc
        (t.sec ue).downlinkCount securityHeaderIntegrityProtectedAndCiphered shortest =
      protect Nia.nia2 (hardwired (t.sec ue).cipheringAlgID) (t.sec ue).knasint
        (t.sec ue).knasenc (t.sec ue).downlinkCount
        securityHeaderIntegrityProtectedAndCiphered shortest := by
  obtain ⟨pdu, hpdu⟩ := protect_shortest_ok hknasint (.inr hknasenc) (t.sec ue).downlinkCount _
  obtain ⟨t', hrun⟩ := run_sendNASSecured_iff.mpr hpdu
  exact (h.secured shortest pdu t' hrun).trans hpdu.symm

theorem run_phase2ProcessAuthResponse (cfg : Config) (env : Env) (ue : Ptr)
    {confirm : AUSFConfirmResponse} (s : Handler) (hres : r.res ≠ [])
    (hconfirm : env.confirmAuth = .ok confirm) :
    ∃ displaced s₁, (phase2ProcessAuthResponse cfg env ue r).run s =
        (.ok (securityModeCommand (s₁.ctx ue), displaced), s₁) ∧
      s₁.ctx ue = establishSecurity cfg confirm.kausf { s.ctx ue with supi := confirm.supi } := by
  have hanswer : ∀ s' : Handler,
      ((answer env.confirmAuth).wrapErr "ausf: confirm auth").run s' = (.ok confirm, s') := by
    intro s'
    rw [hconfirm]
    rfl
  rw [phase2ProcessAuthResponse, if_neg hres, run_load_bind, run_emit_bind, run_bind_ok (hanswer _)]
  let s₂ : Handler := { s with trace := s.trace ++
    [.confirmAuth ue (s.ctx ue).authCtxID (hexEncode r.res)] }
  let s₃ : Handler := { s₂ with mgr := (s₂.mgr.setSUPI ue confirm.supi).2 }
  have hsupi : s₃.ctx ue = { s.ctx ue with supi := confirm.supi } := by
    have hues : s₃.mgr.ues = s.mgr.ues.modify ue ({ · with supi := confirm.supi }) := by
      change (s₂.mgr.setSUPI ue confirm.supi).2.ues = _
      unfold Manager.setSUPI
      dsimp only
      split <;> rfl
    change s₃.mgr.ues.get ue = _
    rw [hues]
    exact Heap.get_modify_same s.mgr.ues ue _
  let s₄ : Handler := ((update ue (establishSecurity cfg confirm.kausf)).run s₃).2
  let s₁ : Handler := { s₄ with trace := s₄.trace ++
    [.authenticated ue (s₄.ctx ue).securityCtx.knasint] }
  refine ⟨_, s₁, rfl, ?_⟩
  change s₄.ctx ue = _
  rw [ctx_update, if_pos rfl, hsupi]

theorem exists_commanded (cap : UESecurityCapability) (nullSecurity : Bool) :
    ∃ (smcReq : SecurityModeCommand) (displaced : Option Ptr) (s₁ : Handler),
      (phase2ProcessAuthResponse { Config.minimal with nullSecurity } confirming 0
        { res := [0xAA] }).run (capable cap) = (.ok (smcReq, displaced), s₁) ∧
      (s₁.sec 0).knasint = knasint confirmedKAMF
        smcReq.selectedNASSecurityAlgorithms.integrityAlgorithmID ∧
      (s₁.sec 0).knasenc = knasenc confirmedKAMF
        smcReq.selectedNASSecurityAlgorithms.cipheringAlgorithmID ∧
      (s₁.sec 0).downlinkCount = 0 := by
  obtain ⟨displaced, s₁, hphase2, hctx⟩ := run_phase2ProcessAuthResponse
    { Config.minimal with nullSecurity } confirming 0 (r := { res := [0xAA] }) (capable cap)
    (List.cons_ne_nil _ _) rfl
  refine ⟨_, displaced, s₁, hphase2, ?_⟩
  rw [securityModeCommand, sec, hctx]
  exact ⟨rfl, rfl, rfl⟩

theorem ueSecCap_capable (cap : UESecurityCapability) : ((capable cap).ctx 0).ueSecCap = cap := by
  unfold capable
  rw [ctx_update, if_pos rfl]

theorem protect_confirmed_ne : (∀ ia1 : Bool, let integAlg := preferredAlgorithm ia1 false
      protect (idleAlgorithms.integrity integAlg) (idleAlgorithms.ciphering 0)
          (knasint confirmedKAMF integAlg) [] 0 0x03 shortest ≠
        protect Nia.nia2 (hardwired 0) (knasint confirmedKAMF integAlg) [] 0 0x03
          shortest) ∧
    protect (idleAlgorithms.integrity 2) (idleAlgorithms.ciphering 1)
        (knasint confirmedKAMF 2) (knasenc confirmedKAMF 1) 0
        securityHeaderIntegrityProtectedAndCiphered shortest ≠
      protect Nia.nia2 (hardwired 1) (knasint confirmedKAMF 2)
        (knasenc confirmedKAMF 1) 0 securityHeaderIntegrityProtectedAndCiphered
        shortest := by
  decide +kernel

theorem supported_of_announcedApplied
    (h : AnnouncedApplied cap nullSecurity) : Supported cap nullSecurity := by
  obtain ⟨smcReq, displaced, s₁, hphase2, hknasint, hknasenc, hcount⟩ :=
    exists_commanded cap nullSecurity
  have hcap := ueSecCap_capable cap
  obtain ⟨happlies, -⟩ := h idleAlgorithms _ confirming 0 _ _ s₁ _ displaced rfl hcap hphase2
  obtain ⟨hinteg, hcipher, hid⟩ := selected_of_phase2 hphase2
  rw [hcap] at hinteg hcipher
  have hia2 : cap.ia2 = true := by
    have hprotect := happlies.integrityOnly_eq (by rw [hknasint]; exact length_knasint _ _)
    rw [hknasint, hinteg, hcount] at hprotect
    by_contra hia2
    rw [eq_false_of_ne_true hia2] at hprotect
    exact protect_confirmed_ne.1 cap.ia1 hprotect
  refine ⟨hia2, ?_⟩
  by_contra hea
  obtain ⟨hnull, hea2, hea1⟩ : nullSecurity = false ∧ cap.ea2 = false ∧ cap.ea1 = true := by
    simpa using hea
  have hinteg' : smcReq.selectedNASSecurityAlgorithms.integrityAlgorithmID = 2 := by
    rw [hinteg, hia2]
    rfl
  have hcipher' : smcReq.selectedNASSecurityAlgorithms.cipheringAlgorithmID = 1 := by
    rw [hcipher, hnull, hea1, hea2]
    rfl
  have hsecured := happlies.secured_eq (by rw [hknasint]; exact length_knasint _ _)
    (by rw [hknasenc]; exact length_knasenc _ _)
  rw [hid, hknasint, hknasenc, hinteg', hcipher', hcount] at hsecured
  exact protect_confirmed_ne.2 hsecured

/-- The algorithms announced are the ones applied if and only if the UE supports 128-NIA2,
and 128-NEA2 or no 128-NEA1 where the AMF ciphers. -/
theorem announcedApplied_iff (cap : UESecurityCapability) (nullSecurity : Bool) :
    AnnouncedApplied cap nullSecurity ↔ Supported cap nullSecurity :=
  ⟨supported_of_announcedApplied, announcedApplied_of_supported⟩

/-- A UE with 128-NIA1 and 128-NEA2 is told 128-NIA1 and gets MACs of 128-NIA2. -/
theorem nia1_announced :
    ¬∀ (cap : UESecurityCapability) (nullSecurity : Bool), AnnouncedApplied cap nullSecurity := by
  intro h
  have hsupported := supported_of_announcedApplied (h { ia1 := true, ea2 := true } false)
  exact absurd hsupported.1 Bool.false_ne_true

end Handler

end Claudia5gc.Amf
