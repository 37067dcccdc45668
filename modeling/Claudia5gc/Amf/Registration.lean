import Claudia5gc.Amf.Nssaa

/-!
# Initial registration

The procedure has three phases, each started by a message of the UE: the AUSF hands
out a challenge, the AUSF confirms the answer to it and the keys are derived, and
the UDM's subscription decides what the registered UE gets.  No phase asks which
phase came before.
-/

namespace Claudia5gc.Amf

variable (cfg : Config) (env : Env) (ue : Ptr)

open Go Nas Proc

def errServiceAreaRestricted : Error :=
  .sentinel "service area restriction: TAC not allowed (cause #73)"

def errNeedSUCI : Error := .sentinel "UE presented GUTI not resolvable — need SUCI"

/-! ## Helpers -/

def suciText (s : SUCIMobileIdentity) : String :=
  "suci-" ++ s.mcc ++ s.mnc ++ "-" ++ s.routingIndicator ++ "-0-" ++
    toString s.protectionSchemeID.toNat ++ "-" ++ hexEncode s.schemeOutput

def gutiText (g : GUTIMobileIdentity) : String :=
  "guti-" ++ g.mcc ++ g.mnc ++ String.ofList (hexDigits 2 g.amfRegionID.toNat) ++
    String.ofList (hexDigits 4 g.amfSetID.toNat) ++ String.ofList (hexDigits 8 g.tmsi.toNat)

def extractIdentity (rr : RegistrationRequest) : String :=
  let mi := rr.mobileIdentity
  if mi.type = mobileIdentitySUCI then (mi.suci.map suciText).getD "unknown"
  else if mi.type = mobileIdentityGUTI then (mi.guti.map gutiText).getD "unknown"
  else "unknown"

def allocateFreshNGKSI (currentKSI : UInt8) : UInt8 := (currentKSI + 1) % 7

def preferredAlgorithm (alg1 alg2 : Bool) : UInt8 :=
  if alg2 then 2 else if alg1 then 1 else 0

def selectSecurityAlgorithms (c : UEContext) : UInt8 × UInt8 :=
  let integ := preferredAlgorithm c.ueSecCap.ia1 c.ueSecCap.ia2
  if cfg.nullSecurity then (0, integ)
  else (preferredAlgorithm c.ueSecCap.ea1 c.ueSecCap.ea2, integ)

def filterAllowedNSSAI (requested subscribed : List SNSSAISubscribed) : List SNSSAISubscribed :=
  if requested = [] then subscribed
  else subscribed.filter fun sub =>
    requested.any fun req => req.sst = sub.sst && (req.sd = "" || req.sd = sub.sd)

def nasSD (sd : String) : UInt32 :=
  if sd ≠ "" ∧ sd.utf8ByteSize = 6 then
    match hexDecode sd with
    | ([b0, b1, b2], false) => sdOfBytes b0 b1 b2
    | _ => sdNotPresent
  else sdNotPresent

def buildAllowedNSSAI (subs : List SNSSAISubscribed) : NSSAI :=
  subs.map fun s => { sst := s.sst, sd := nasSD s.sd }

/-- `isAllowedTA`. -/
def isAllowedTA (tac : UInt32) (sar : ServiceAreaRestriction) : Bool :=
  let listed (tacs : List String) : Bool :=
    tacs.any fun t => t.map Char.toLower = sprint06x tac
  if sar.restrictionType = "ALLOWED_AREAS" then
    sar.allowedTACs = [] || listed sar.allowedTACs
  else if sar.restrictionType = "NOT_ALLOWED_AREAS" then !listed sar.notAllowedTACs
  else true

namespace Handler

def buildTAIList (tac : UInt32) : Outcome Bytes :=
  let tacs := if tac ∈ cfg.servedTACs then cfg.servedTACs else cfg.servedTACs ++ [tac]
  encodeTAIList cfg.plmnMCC cfg.plmnMNC tacs

def authenticationRequest (ausf : AUSFInitResponse) : Proc Handler AuthenticationRequest := do
  update ue fun c => { c with authCtxID := ausf.authCtxID, pendingRAND := ausf.rand }
  let c ← load ue
  return {
    ngksi := { keySetIdentifier := c.pendingNGKSI, type := 0 }
    abba := abba
    rand := ausf.rand.toList
    autn := ausf.autn.toList }

/-! ## Phase 1 -/

variable (rr : RegistrationRequest)

def takeRegistrationRequest (c : UEContext) : UEContext :=
  { c with
    suci := extractIdentity rr
    registrationType := rr.registrationType
    pendingNGKSI := allocateFreshNGKSI rr.ngksi.keySetIdentifier
    ueSecCap := rr.ueSecurityCapability.getD c.ueSecCap }

/-- The identity for the AUSF: a 5G-GUTI has to lead to a context with a SUPI. -/
def resolveIdentity : Proc Handler String := do
  if rr.mobileIdentity.type = mobileIdentityGUTI then
    match rr.mobileIdentity.guti with
    | none => fail errNeedSUCI
    | some guti =>
      let s ← get
      match s.mgr.getByTMSI guti.tmsi with
      | none => fail errNeedSUCI
      | some existing =>
        let supi := (s.ctx existing).supi
        if supi ≠ "" then return supi else fail errNeedSUCI
  else return extractIdentity rr

/-- The call of the AUSF that Phase 1 ends with, with or without a SUCI. -/
def initiateAuth (id : String) : Proc Handler AuthenticationRequest := do
  emit (.initiateAuth ue id cfg.servingNetName)
  let ausf ← (answer env.initiateAuth).wrapErr "ausf: initiate auth"
  authenticationRequest ue ausf

def phase1InitiateAuthentication : Proc Handler AuthenticationRequest := do
  update ue (takeRegistrationRequest rr)
  let suciOrGUTI ← resolveIdentity rr
  initiateAuth cfg env ue suciOrGUTI

def phase1AuthenticateWithSUCI (suci : String) : Proc Handler AuthenticationRequest := do
  update ue fun c => { c with suci := suci }
  initiateAuth cfg env ue suci

def phase1ResyncAuth (auts : Bytes) : Proc Handler AuthenticationRequest := do
  let c ← load ue
  let suciOrSUPI := if c.suci = "" then c.supi else c.suci
  emit (.resyncAuth ue suciOrSUPI cfg.servingNetName c.pendingRAND auts)
  let ausf ← (answer env.resyncAuth).wrapErr "ausf: resync auth"
  authenticationRequest ue ausf

/-! ## Phase 2 -/

def setSUPI (supi : String) : Proc Handler (Option Ptr) := do
  let s ← get
  let (displaced, mgr) := s.mgr.setSUPI ue supi
  modify fun s => { s with mgr := mgr }
  return displaced

def trimIMSI (supi : String) : String :=
  if "imsi-".toList.isPrefixOf supi.toList then String.ofList (supi.toList.drop 5) else supi

def deriveSecurityContext (kausf : Bytes) (c : UEContext) : SecurityContext :=
  let kamf := Crypto.kamf (Crypto.kseaf kausf cfg.servingNetName) (trimIMSI c.supi) abba
  let (cipherAlg, integAlg) := selectSecurityAlgorithms cfg c
  { ngksi := c.pendingNGKSI
    integrityAlgID := integAlg
    cipheringAlgID := cipherAlg
    kamf := kamf
    knasint := Crypto.knasint kamf integAlg
    knasenc := Crypto.knasenc kamf cipherAlg
    uplinkCount := 0
    downlinkCount := 0
    active := true }

/-- The writes of Phase 2 behind `SetSUPI`. -/
def establishSecurity (kausf : Bytes) (c : UEContext) : UEContext :=
  { c with kausf := kausf, securityCtx := deriveSecurityContext cfg kausf c }

/-- The Security Mode Command of Phase 2; it asks for the IMEISV and for the initial
message to be sent again. -/
def securityModeCommand (c : UEContext) : SecurityModeCommand where
  selectedNASSecurityAlgorithms :=
    { cipheringAlgorithmID := c.securityCtx.cipheringAlgID
      integrityAlgorithmID := c.securityCtx.integrityAlgID }
  ngksi := { keySetIdentifier := c.securityCtx.ngksi, type := 0 }
  replayedUESecurityCapabilities := c.ueSecCap
  imeisvRequest := some 0x01
  additional5GSecurityInfo := some 0x02

def takeKeys (kausf : Bytes) : Proc Handler UEContext := do
  update ue (establishSecurity cfg kausf)
  let c ← load ue
  emit (.authenticated ue c.securityCtx.knasint)
  return c

def phase2ProcessAuthResponse (authResp : AuthenticationResponse) :
    Proc Handler (SecurityModeCommand × Option Ptr) := do
  if authResp.res = [] then fail (.new "amf: auth response missing RES*") else
  emit (.confirmAuth ue (← load ue).authCtxID (hexEncode authResp.res))
  let confirm ← (answer env.confirmAuth).wrapErr "ausf: confirm auth"
  let displaced ← setSUPI ue confirm.supi
  let c ← takeKeys cfg ue confirm.kausf
  return (securityModeCommand c, displaced)

/-- A Phase 2 that succeeds leaves a context with newly derived keys, and its command
announces the algorithms of that context. -/
theorem gives_phase2ProcessAuthResponse (authResp : AuthenticationResponse) : Proc.Gives
    (fun r s => r.1 = securityModeCommand (s.ctx ue) ∧ ∃ kausf c, s.ctx ue = establishSecurity cfg
    kausf c) (phase2ProcessAuthResponse cfg env ue authResp) := by
  unfold phase2ProcessAuthResponse
  split
  · intro s r s' hrun
    cases hrun
  · refine .bind fun c => .bind fun _ => .bind fun confirm => .bind fun displaced => ?_
    intro s r s' hrun
    obtain ⟨hr, hs⟩ := Prod.mk.inj hrun
    have hctx : s'.ctx ue = establishSecurity cfg confirm.kausf (s.ctx ue) := by
      rw [← hs]
      exact (ctx_update s ue ue _).trans (if_pos rfl)
    refine ⟨?_, _, _, hctx⟩
    rw [← Outcome.ok.inj hr, ← hs]
    rfl

/-! ## Phase 3 -/

def assignGUTI : Proc Handler GUTI5G := do
  let s ← get
  let (guti, mgr) := s.mgr.assignGUTI ue env.nextTMSI
  modify fun s => { s with mgr := mgr }
  return guti

def transitionTo (state : GMM5State) : Proc Handler Unit :=
  update ue fun c => { c with state := state }

/-- The slices that are intersected with the subscription: those of the NSSF when it
is configured and answers, those the UE requested otherwise. -/
def candidateSlices : Proc Handler (List SNSSAISubscribed) := do
  let requested := (← load ue).requestedNSSAI
  if cfg.nssf then
    emit (.nsSelection cfg.nfInstanceID requested)
    match env.nsSelection with
    | .ok nssfAllowed => return nssfAllowed
    | .error _ => return requested
  else return requested

/-- The new Allowed NSSAI, without the slices that are withheld for NSSAA. -/
def grantSlices (candidates subscribed : List SNSSAISubscribed) (c : UEContext) : UEContext :=
  splitPendingNSSAA cfg { c with allowedNSSAI := filterAllowedNSSAI candidates subscribed }

/-- The AM policy association.  A failed call leaves the restriction of an earlier
registration in force. -/
def applyAMPolicy : Proc Handler Unit := do
  if !cfg.amPolicy then return () else
  emit (.createAMPolicyAssociation (← load ue).supi cfg.plmnMCC cfg.plmnMNC)
  match env.createAMPolicy with
  | .error _ => pure ()
  | .ok a =>
    update ue fun c => { c with
      amPolicyAssocID := a.polAssoID
      rfsp := if 0 < a.rfsp then a.rfsp else c.rfsp
      servAreaRes := a.servAreaRes }
  let c ← load ue
  match c.servAreaRes with
  | none => return ()
  | some sar => if isAllowedTA c.tac sar then return () else fail errServiceAreaRestricted

def fetchUEPolicy : Proc Handler Unit := do
  if !cfg.pcf then return () else
  emit (.createUEPolicyAssociation (← load ue).supi (cfg.plmnMCC ++ cfg.plmnMNC))
  match env.createUEPolicy with
  | .error _ => return ()
  | .ok (polAssoID, container) =>
    if container ≠ [] then
      update ue fun c =>
        { c with policyAssociationID := polAssoID, pendingPolicyContainer := container }
    else return ()

def setT3512Value : Proc Handler (Option UInt8) := do
  if env.t3512Secs ≤ 0 then return none else
  update ue fun c => { c with t3512SentSecs := env.t3512Secs }
  return some (encodeGPRSTimer3 env.t3512Secs)

def registrationAccept (guti : GUTI5G) : Proc Handler RegistrationAccept := do
  let c ← load ue
  let taiList ← lift (buildTAIList cfg c.tac)
  let t3512Value ← setT3512Value env ue
  return {
    registrationResult := 0x01
    fiveGGUTI := some {
      type := mobileIdentityGUTI
      guti := some {
        mcc := guti.mcc, mnc := guti.mnc, amfRegionID := guti.amfRegionID,
        amfSetID := guti.amfSetID, amfID := guti.amfID, tmsi := guti.tmsi } }
    taiList := taiList
    allowedNSSAI := some (buildAllowedNSSAI c.allowedNSSAI)
    networkFeatureSupport := newNetworkFeatureSupport cfg.imsVoPS3GPP
    t3512Value := t3512Value }

def phase3ProcessSMCComplete : Proc Handler RegistrationAccept := do
  emit (.registerAMF (← load ue).supi cfg.nfInstanceID cfg.servingNetName)
  let amSub ← (answer env.amSubscriptionData).wrapErr "udm: get AM subscription"
  emit (.amSubscriptionData ue amSub)
  let candidates ← candidateSlices cfg env ue
  update ue (grantSlices cfg candidates amSub.allowedNSSAI)
  update ue fun c => { c with subscribedAMBR := (amSub.ambrUplink, amSub.ambrDownlink) }
  let guti ← assignGUTI env ue
  transitionTo ue .registered
  emit (.registered ue (← load ue).securityCtx)
  update ue fun c => { c with rfsp := cfg.defaultRFSP }
  applyAMPolicy cfg env ue
  fetchUEPolicy cfg env ue
  registrationAccept cfg env ue guti

/-! ## Registration update -/

def buildRegistrationUpdateAccept : Proc Handler RegistrationAccept := do
  let guti ← assignGUTI env ue
  transitionTo ue .registered
  registrationAccept cfg env ue guti

end Handler

end Claudia5gc.Amf
