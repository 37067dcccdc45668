import Claudia5gc.Crypto.EapAka
import Claudia5gc.Go.Hex
import Claudia5gc.Go.Memory
import Claudia5gc.Go.Run

/-!
# The authentication server

The AUSF keeps one store of authentication contexts.  `handleInitAuth` creates a context for 5G-AKA
or for EAP-AKA', as the UDM decides; `handleConfirm` and `handleEAPSession` check the answer of the
UE against it and remove it.
-/

namespace Claudia5gc.Ausf

open Go Crypto EapAka

/-! ## Contexts and their store -/

/-- The method a context was created for.  The source writes the empty string for
5G-AKA. -/
inductive AuthType where
  | fiveGAKA
  | eapAKAPrime
  deriving DecidableEq

structure AuthContext where
  supi : String
  suci : String := ""
  servingNetName : String
  rand : Vector UInt8 16
  autn : Vector UInt8 16
  xres : Vector UInt8 8 := Vector.replicate 8 0
  xresStar : Bytes := []
  hresStar : Bytes := []
  kausf : Bytes
  createdAt : Int
  authType : AuthType := .fiveGAKA
  eapKAut : Bytes := []
  eapIdentifier : UInt8 := 0

abbrev AuthStore := Map String AuthContext

namespace AuthStore

def put (s : AuthStore) (id : String) (ctx : AuthContext) (reached : Bool) : AuthStore :=
  if reached then s.insert id ctx else s

def get (s : AuthStore) (id : String) (reached : Bool) : Option AuthContext :=
  if reached then s.lookup id else none

def delete (s : AuthStore) (id : String) (reached : Bool) : AuthStore :=
  if reached then s.erase id else s

end AuthStore

/-- `time.Since(ctx.CreatedAt) > 5*time.Minute` -/
def AuthContext.expired (ctx : AuthContext) (now : Int) : Bool :=
  5 * 60 * 1000000000 < now - ctx.createdAt

/-! ## Answers -/

/-- What a handler writes to the client. -/
inductive Response where
  | problem (status : Nat) (cause detail : String)
  | fiveGAKACreated (location rand hxresStar autn supi : String)
  | eapAKAPrimeCreated (location eapPayload servingNetworkName : String)
  | confirmed (kausf supi : String)
  | eapFailure (eapPayload : String)
  | eapSuccess (eapPayload kSeaf supi : String)
  | noContent
  deriving DecidableEq

def Response.success : Response → Bool
  | .confirmed .. => true
  | .eapSuccess .. => true
  | _ => false

/-! ## Creating a context -/

/-- The request body of `handleInitAuth`, without the resynchronisation data, which
only the UDM looks at. -/
structure AuthInfo where
  supiOrSuci : String
  servingNetworkName : String

structure UDMAuthDataResponse where
  authType : String := ""
  rand : String := ""
  autn : String := ""
  xresStar : String := ""
  hxresStar : String := ""
  kausf : String := ""
  supi : String := ""
  ckPrime : String := ""
  ikPrime : String := ""
  xres : String := ""

def ueAuthenticationsURL (id : String) : String := "/nausf-auth/v1/ue-authentications/" ++ id

def eapIdentifier : UInt8 := 1

/-- The context that the 5G-AKA branch stores. -/
def fiveGAKAContext (info : AuthInfo) (udm : UDMAuthDataResponse) (now : Int) :
    Option AuthContext := do
  let rand ← toArray? 16 (hexDecode udm.rand).1
  let autn ← toArray? 16 (hexDecode udm.autn).1
  return {
    supi := udm.supi
    suci := info.supiOrSuci
    servingNetName := info.servingNetworkName
    rand := rand
    autn := autn
    xresStar := (hexDecode udm.xresStar).1
    hresStar := (hexDecode udm.hxresStar).1
    kausf := (hexDecode udm.kausf).1
    createdAt := now }

/-- The checks of `initEAPAKAPrime` on the vector it is given. -/
def eapAKAPrimeVector (udm : UDMAuthDataResponse) :
    Option (Vector UInt8 16 × Vector UInt8 16 × Vector UInt8 16 × Vector UInt8 16 × Bytes) := do
  let fields := [udm.rand, udm.autn, udm.ckPrime, udm.ikPrime, udm.xres].map hexDecode
  if fields.any (·.2) then none
  let rand ← toArray? 16 (hexDecode udm.rand).1
  let autn ← toArray? 16 (hexDecode udm.autn).1
  let ckPrime ← toArray? 16 (hexDecode udm.ckPrime).1
  let ikPrime ← toArray? 16 (hexDecode udm.ikPrime).1
  let xres := (hexDecode udm.xres).1
  if xres = [] then none
  return (rand, autn, ckPrime, ikPrime, xres)

/-- `initEAPAKAPrime`: the context to store and the answer. -/
def initEAPAKAPrime (cfgServingNetworkName snName : String) (udm : UDMAuthDataResponse)
    (spare : Bytes) (id : String) (now : Int) : Outcome (Option AuthContext × Response) :=
  let snName := if snName = "" then cfgServingNetworkName else snName
  match eapAKAPrimeVector udm with
  | none => .ok (none, .problem 500 "NF_FAILURE" "invalid EAP-AKA' AV from UDM")
  | some (rand, autn, ckPrime, ikPrime, xres) =>
    let keys := deriveKeys ckPrime ikPrime udm.supi
    let challenge := buildChallenge eapIdentifier rand autn snName keys.kAut
    match toArray? 8 ((xres ++ spare).take 8) with
    | none => .panic
    | some xres =>
      .ok (some {
          supi := udm.supi
          servingNetName := snName
          rand := rand
          autn := autn
          xres := xres
          kausf := kausfFromEMSK keys.emsk
          createdAt := now
          authType := .eapAKAPrime
          eapKAut := keys.kAut
          eapIdentifier := eapIdentifier },
        .eapAKAPrimeCreated (ueAuthenticationsURL id) (base64Encode challenge) snName)

structure InitAuth where
  body : Except String AuthInfo
  udm : Except String UDMAuthDataResponse
  spare : Bytes
  id : String
  now : Int
  putReached : Bool

def handleInitAuth (cfgServingNetworkName : String) (env : InitAuth) (store : AuthStore) :
    Outcome (Response × AuthStore) :=
  match env.body with
  | .error e => .ok (.problem 400 "MANDATORY_IE_MISSING" e, store)
  | .ok info =>
    match env.udm with
    | .error e => .ok (.problem 500 "NF_FAILURE" ("UDM error: " ++ e), store)
    | .ok udm =>
      if udm.authType = "EAP_AKA_PRIME" then
        (initEAPAKAPrime cfgServingNetworkName info.servingNetworkName udm env.spare env.id
          env.now).bind fun (ctx, answer) =>
            .ok (answer, match ctx with
              | some ctx => store.put env.id ctx env.putReached
              | none => store)
      else
        match fiveGAKAContext info udm env.now with
        | none => .ok (.problem 500 "NF_FAILURE" "invalid AV from UDM", store)
        | some ctx =>
          .ok (.fiveGAKACreated (ueAuthenticationsURL env.id) udm.rand
              (hexEncode ctx.hresStar) udm.autn udm.supi,
            store.put env.id ctx env.putReached)

/-! ## Checking the answer of the UE -/

def verifyRES (ctx : AuthContext) (resStar : Bytes) (now : Int) : Option Bytes :=
  if ctx.expired now then none
  else
    let resOK := resStar == ctx.xresStar
    let hresOK := hresStar ctx.rand resStar == ctx.hresStar
    if !resOK && !hresOK then none else some ctx.kausf

/-- What `handleConfirm` and `handleEAPSession` read from outside: the time of the
check, and whether the store was reached by the `Get` and by the `Delete`. -/
structure Confirm where
  now : Int
  getReached : Bool
  deleteReached : Bool

def handleConfirm (env : Confirm) (id : String) (body : Except String String)
    (store : AuthStore) : Response × AuthStore :=
  match body with
  | .error e => (.problem 400 "MANDATORY_IE_MISSING" e, store)
  | .ok text =>
    let (resStar, failed) := hexDecode text
    if failed then
      (.problem 400 "MANDATORY_IE_INCORRECT" "resStar: invalid hex", store)
    else
      match store.get id env.getReached with
      | none => (.problem 404 "CONTEXT_NOT_FOUND" "unknown authCtxId", store)
      | some ctx =>
        match verifyRES ctx resStar env.now with
        | none => (.problem 200 "AUTHENTICATION_REJECTED" "RES* mismatch", store)
        | some kausf =>
          (.confirmed (hexEncode kausf) ctx.supi, store.delete id env.deleteReached)

/-- The part of `handleEAPSession` after the context was found: the answer, and
whether the context is removed before it is sent. -/
def checkEAPSession (ctx : AuthContext) (eapPayload : String) (now : Int) : Response × Bool :=
  if ctx.authType ≠ .eapAKAPrime then
    (.problem 400 "MANDATORY_IE_INCORRECT" "auth context is not EAP-AKA'", false)
  else if ctx.expired now then
    (.problem 404 "CONTEXT_NOT_FOUND" "auth context expired", true)
  else
    match base64Decode eapPayload with
    | none => (.problem 400 "MANDATORY_IE_INCORRECT" "eapPayload: invalid base64", false)
    | some pkt =>
      match validate pkt with
      | some e => (.problem 400 "MANDATORY_IE_INCORRECT" e, false)
      | none =>
        let macOK := verifyMAC pkt ctx.eapKAut
        let resOK := extractRES pkt == some ctx.xres.toList
        if !macOK || !resOK then
          (.eapFailure (base64Encode (buildFailure ctx.eapIdentifier)), true)
        else
          (.eapSuccess (base64Encode (buildSuccess ctx.eapIdentifier))
            (hexEncode (kseaf ctx.kausf ctx.servingNetName)) ctx.supi, true)

def handleEAPSession (env : Confirm) (id : String) (body : Except String String)
    (store : AuthStore) : Response × AuthStore :=
  match body with
  | .error e => (.problem 400 "MANDATORY_IE_MISSING" e, store)
  | .ok eapPayload =>
    match store.get id env.getReached with
    | none => (.problem 404 "CONTEXT_NOT_FOUND" "unknown authCtxId", store)
    | some ctx =>
      match checkEAPSession ctx eapPayload env.now with
      | (answer, false) => (answer, store)
      | (answer, true) => (answer, store.delete id env.deleteReached)

def handleDelete (id : String) (deleteReached : Bool) (store : AuthStore) : Response × AuthStore :=
  (.noContent, store.delete id deleteReached)

end Claudia5gc.Ausf
