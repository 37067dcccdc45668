import Claudia5gc.Crypto.Kdf
import Claudia5gc.Go.Memory
import Claudia5gc.Go.Run
import Claudia5gc.Nas.Ie

/-!
# UE contexts of the AMF

The manager keeps every UE context behind a pointer and finds it by the AMF UE NGAP ID, by the SUPI
and by the 5G-TMSI.  The three indexes hold pointers, so a context that changes its identity is
still the one an old key leads to.
-/

namespace Claudia5gc.Amf

open Go

/-! ## Types -/

/-- 5GMM state of a UE as seen by the AMF. -/
inductive GMM5State where
  | deregistered
  | registered
  | deregisteredInitiated
  | serviceRequestInitiated
  deriving DecidableEq

/-- 5G Globally Unique Temporary Identifier. -/
structure GUTI5G where
  mcc : String
  mnc : String
  amfRegionID : UInt8
  amfSetID : UInt16
  amfID : UInt8
  tmsi : UInt32
  deriving DecidableEq

/-- Whether the UE has a signalling connection over N2. -/
inductive CMState where
  | idle
  | connected
  deriving DecidableEq

structure SecurityContext where
  ngksi : UInt8 := 0
  integrityAlgID : UInt8 := 0
  cipheringAlgID : UInt8 := 0
  kamf : Bytes := []
  knasint : Bytes := []
  knasenc : Bytes := []
  uplinkCount : UInt32 := 0
  downlinkCount : UInt32 := 0
  active : Bool := false
  deriving DecidableEq

/-- `SNSSAISubscribed`. -/
structure SNSSAISubscribed where
  sst : UInt8
  sd : String
  dnn : String := ""
  subjectToNSSAA : Bool := false
  deriving DecidableEq

structure ServiceAreaRestriction where
  restrictionType : String
  allowedTACs : List String := []
  notAllowedTACs : List String := []
  deriving DecidableEq

structure PDUSession where
  pduSessionID : UInt8
  smfInstanceID : String
  dnn : Bytes
  snssai : SNSSAISubscribed
  n2SmTransfer : Bytes
  deriving DecidableEq

/-- The per-UE state object, with the zero values a fresh context has. -/
structure UEContext where
  supi : String := ""
  suci : String := ""
  guti : Option GUTI5G := none
  pei : String := ""
  amfUENGAPId : Int64 := 0
  ranUENGAPId : Int64 := 0
  tac : UInt32 := 0
  kgnb : Bytes := List.replicate 32 0
  nh : Bytes := List.replicate 32 0
  ncc : UInt8 := 0
  nhValid : Bool := false
  cmState : CMState := .idle
  state : GMM5State := .deregistered
  registrationType : UInt8 := 0
  securityCtx : SecurityContext := {}
  ueSecCap : Nas.UESecurityCapability := {}
  authCtxID : String := ""
  pendingRAND : Vector UInt8 16 := Vector.replicate 16 0
  pendingNGKSI : UInt8 := 0
  kausf : Bytes := []
  allowedNSSAI : List SNSSAISubscribed := []
  requestedNSSAI : List SNSSAISubscribed := []
  pendingNSSAA : List SNSSAISubscribed := []
  nssaaInProgress : Option SNSSAISubscribed := none
  nssaaEAPID : UInt8 := 0
  rejectedNSSAI : List SNSSAISubscribed := []
  subscribedAMBR : UInt64 × UInt64 := (0, 0)
  pduSessions : Map UInt8 PDUSession := ∅
  pendingRemoval : Bool := false
  pagedPDUSessions : Map UInt8 Unit := ∅
  policyAssociationID : String := ""
  amPolicyAssocID : String := ""
  rfsp : Int := 0
  servAreaRes : Option ServiceAreaRestriction := none
  pendingPolicyContainer : Bytes := []
  urspVersion : UInt8 := 0
  t3512SentSecs : Int := 0

namespace UEContext

def kamfUsable (kamf : Bytes) : Bool := kamf.any (· != 0)

/-- `SetKgNB` starts the chain of next-hop keys again. -/
def setKgNB (ue : UEContext) (kgnb : Bytes) : UEContext :=
  if kamfUsable ue.securityCtx.kamf then
    { ue with
      kgnb := kgnb
      nh := Crypto.knh ue.securityCtx.kamf kgnb
      ncc := 1
      nhValid := true }
  else
    { ue with kgnb := kgnb, nh := List.replicate 32 0, ncc := 0, nhValid := false }

def nccModulus : UInt8 := 8

def nextNH (ue : UEContext) : Option (Bytes × UInt8) × UEContext :=
  if ue.nhValid && kamfUsable ue.securityCtx.kamf then
    let ncc := (ue.ncc + 1) % nccModulus
    let nh := Crypto.knh ue.securityCtx.kamf ue.nh
    (some (nh, ncc), { ue with nh := nh, ncc := ncc })
  else (none, ue)

def sortedPaged (ue : UEContext) : List UInt8 := ue.pagedPDUSessions.keys.mergeSort

end UEContext

/-- Identity of this AMF instance, copied into the GUTIs it assigns. -/
structure AMFIdentity where
  mcc : String
  mnc : String
  amfRegionID : UInt8
  amfSetID : UInt16
  amfID : UInt8
  deriving DecidableEq

/-- All UE contexts of the AMF with their indexes. -/
structure Manager where
  ues : Heap UEContext
  uesByNGAPId : Map Int64 Ptr
  uesBySUPI : Map String Ptr
  uesByTMSI : Map UInt32 Ptr
  ngapIDCounter : Int64
  tmsiCounter : UInt32
  amfID : AMFIdentity
  db : Bool
  cache : Bool

namespace Manager

/-! ## Start -/

def newManager (id : AMFIdentity) (db cache : Bool) : Manager where
  ues := ⟨fun _ => {}, 0⟩
  uesByNGAPId := ∅
  uesBySUPI := ∅
  uesByTMSI := ∅
  ngapIDCounter := 0
  tmsiCounter := 0
  amfID := id
  db := db
  cache := cache

/-- What the store answers while the contexts of an earlier run are purged. -/
structure StartAnswers where
  maxTMSI : Except Error UInt32
  purgeAllUEContexts : Except Error Int64

variable (m : Manager)

/-- `LoadFromStore`. -/
def loadFromStore (env : StartAnswers) : Option Error × Manager :=
  if !m.db then
    (none, m)
  else
    let maxTMSI := match env.maxTMSI with
      | .ok v => v
      | .error _ => 0
    match env.purgeAllUEContexts with
    | .error e => (some (.wrap "amf manager: LoadFromStore purge" e), m)
    | .ok _ =>
      if 0 < maxTMSI && !m.cache then
        (none, { m with tmsiCounter := maxTMSI })
      else
        (none, m)

/-! ## Operations -/

def allocateUEContext (ranID : Int64) : Ptr × Manager :=
  let amfID := m.ngapIDCounter + 1
  let (ue, ues) := m.ues.new { amfUENGAPId := amfID, ranUENGAPId := ranID }
  (ue, { m with
    ues := ues
    ngapIDCounter := amfID
    uesByNGAPId := m.uesByNGAPId.insert amfID ue })

def getByNGAPId (id : Int64) : Option Ptr := m.uesByNGAPId.lookup id

def getBySUPI (supi : String) : Option Ptr := m.uesBySUPI.lookup supi

def getByTMSI (tmsi : UInt32) : Option Ptr := m.uesByTMSI.lookup tmsi

def setSUPI (ue : Ptr) (supi : String) : Option Ptr × Manager :=
  let m := { m with ues := m.ues.modify ue ({ · with supi := supi }) }
  let old := m.getBySUPI supi
  if old = some ue then
    (none, m)
  else
    (old, { m with uesBySUPI := m.uesBySUPI.insert supi ue })

/-- The part of `AssignGUTI` that picks the 5G-TMSI; `answer` is what `NextTMSI`
of the external counter returns if it is called. -/
def nextTMSI (answer : Except Error UInt32) : UInt32 × Manager :=
  let local_ := m.tmsiCounter + 1
  if m.cache then
    match answer with
    | .ok v => (v, m)
    | .error _ => (local_, { m with tmsiCounter := local_ })
  else
    (local_, { m with tmsiCounter := local_ })

def assignGUTI (ue : Ptr) (answer : Except Error UInt32) : GUTI5G × Manager :=
  let (tmsi, m) := m.nextTMSI answer
  let guti : GUTI5G :=
    { mcc := m.amfID.mcc, mnc := m.amfID.mnc, amfRegionID := m.amfID.amfRegionID,
      amfSetID := m.amfID.amfSetID, amfID := m.amfID.amfID, tmsi := tmsi }
  (guti, { m with
    ues := m.ues.modify ue ({ · with guti := some guti })
    uesByTMSI := m.uesByTMSI.insert tmsi ue })

def ownsSUPI (ue : Ptr) : Bool :=
  (m.ues.get ue).supi ≠ "" && m.getBySUPI (m.ues.get ue).supi = some ue

def remove (ue : Ptr) : Manager :=
  { m with
    uesByNGAPId := m.uesByNGAPId.erase (m.ues.get ue).amfUENGAPId
    uesBySUPI := if m.ownsSUPI ue then m.uesBySUPI.erase (m.ues.get ue).supi
      else m.uesBySUPI
    uesByTMSI := match (m.ues.get ue).guti with
      | some guti => m.uesByTMSI.erase guti.tmsi
      | none => m.uesByTMSI }

/-! ## The manager as a system -/

/-- A call of one of the operations that change the indexes. -/
inductive Op where
  | allocateUEContext (ranID : Int64)
  | setSUPI (ue : Ptr) (supi : String)
  | assignGUTI (ue : Ptr) (answer : Except Error UInt32)
  | remove (ue : Ptr)

def apply : Op → Manager
  | .allocateUEContext ranID => (m.allocateUEContext ranID).2
  | .setSUPI ue supi => (m.setSUPI ue supi).2
  | .assignGUTI ue answer => (m.assignGUTI ue answer).2
  | .remove ue => m.remove ue

/-- The contexts a caller can name are those the manager has allocated, also when
they have been removed since. -/
def Op.Allocated : Op → Prop
  | .allocateUEContext _ => True
  | .setSUPI ue _ => ue < m.ues.next
  | .assignGUTI ue _ => ue < m.ues.next
  | .remove ue => ue < m.ues.next

def step : System Manager Op := fun m op m' => op.Allocated m ∧ m' = m.apply op

/-- The context is still in the index by NGAP ID. -/
def Live (ue : Ptr) : Prop := ∃ id, m.getByNGAPId id = some ue

end Manager

end Claudia5gc.Amf
