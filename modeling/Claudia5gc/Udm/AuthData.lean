import Claudia5gc.Crypto.Aka
import Claudia5gc.Go.Run

/-!
# Generating authentication data

The UDM answers a request for authentication data in three steps, two of which are calls to the UDR:
it reads the subscription of the SUPI, generates a vector for the sequence number it found there, or
for the one after SQN_MS when the request carries an AUTS, and writes the next sequence number back.
The write does not look at what was read before, and a write that fails is only logged.
-/

namespace Claudia5gc.Udm

open Go Crypto Crypto.Aka Function

variable {t : Nat} {sqn : SQN} {w : World} {rand : Except String (Vector UInt8 16)}

/-! ## The handler -/

/-- `UDRAuthSub` without the algorithm, which the UDM does not look at. -/
structure UDRAuthSub where
  authMethod : String := ""
  k : String := ""
  opc : String := ""
  sqn : String := ""
  amf : String := ""

structure ResynchronizationInfo where
  rand : String
  auts : String

structure Request where
  servingNetworkName : String
  resynchronizationInfo : Option ResynchronizationInfo

/-- What the handler writes to the client. -/
inductive Response where
  | problem (status : Nat) (cause detail : String)
  | eapAKAPrime (rand autn xres ckPrime ikPrime supi : String)
  | fiveGAKA (rand autn xresStar hxresStar kausf supi : String)
  deriving DecidableEq

/-- How the UDR answers a read: with the record, with a problem body under a status other
than 404, in which the client finds none of the fields, or with an error of the client. -/
inductive Fetch where
  | record
  | problem
  | failed (error : String)

variable (record : UDRAuthSub)

def getAuthSubscription : Fetch → Except String UDRAuthSub
  | .record => .ok record
  | .problem => .ok {}
  | .failed e => .error e

/-- `UpdateSQN`.  A request that the UDR refuses looks to the client like one that it
stored. -/
def updateSQN (newSQN : String) (stored : Bool) : UDRAuthSub :=
  if stored then { record with sqn := newSQN } else record

/-- The sequence number of a subscription, with the default for one that does not parse. -/
def UDRAuthSub.currentSQN (sub : UDRAuthSub) : SQN :=
  (parseHexSQN sub.sqn).getD #v[0, 0, 0, 0, 0, 1]

def resyncSQN (k opc : Vector UInt8 16) (ri : ResynchronizationInfo) : Except Response SQN :=
  match parseHex 16 ri.rand with
  | none => .error (.problem 400 "MANDATORY_IE_INCORRECT" "invalid resync RAND")
  | some rand =>
    match parseHex 14 ri.auts with
    | none => .error (.problem 400 "MANDATORY_IE_INCORRECT" "invalid AUTS length")
    | some auts =>
      match resyncFromAUTS k opc rand auts with
      | none => .error (.problem 403 "AUTHENTICATION_REJECTED"
          "aka: resync: MAC-S verification failed — AUTS rejected")
      | some sqnMS => .ok sqnMS

def heavInput (sub : UDRAuthSub) (req : Request) : Except Response HEAVInput :=
  match parseHexKey sub.k with
  | none => .error (.problem 500 "NF_FAILURE" "invalid K")
  | some k =>
    match parseHexKey sub.opc with
    | none => .error (.problem 500 "NF_FAILURE" "invalid OPc")
    | some opc =>
      let amf := (parseHexAMF sub.amf).getD #v[0x80, 0x00]
      match req.resynchronizationInfo with
      | none => .ok ⟨k, opc, amf, sub.currentSQN⟩
      | some ri =>
        match resyncSQN k opc ri with
        | .error answer => .error answer
        | .ok sqnMS => .ok ⟨k, opc, amf, incrementSQN sqnMS⟩

def vectorResponse (supi snName : String) (sub : UDRAuthSub) (i : HEAVInput)
    (rand : Vector UInt8 16) : Response :=
  if sub.authMethod = "EAP_AKA_PRIME" then
    let av := generateEAPAKAPrime i snName rand
    .eapAKAPrime (hexEncode av.rand.toList) (hexEncode av.autn) (hexEncode av.xres)
      (hexEncode av.ckPrime) (hexEncode av.ikPrime) supi
  else
    let av := generateFull i snName rand
    .fiveGAKA (hexEncode av.rand.toList) (hexEncode av.autn) (hexEncode av.xresStar)
      (hexEncode av.hresStar) (hexEncode av.kausf) supi

/-- The handler between its two calls to the UDR: the sequence number of the vector and the answer
to send, or the answer that refuses. -/
def generate (cfgSNName supi : String) (req : Request) (sub : UDRAuthSub)
    (rand : Except String (Vector UInt8 16)) : Except Response (SQN × Response) :=
  match heavInput sub req with
  | .error answer => .error answer
  | .ok i =>
    let snName := if req.servingNetworkName = "" then cfgSNName else req.servingNetworkName
    match rand with
    | .error e => .error (.problem 500 "NF_FAILURE" ("aka: rand: " ++ e))
    | .ok rand => .ok (i.sqn, vectorResponse supi snName sub i rand)

def handleGenerateAuthData (cfgSNName supi : String) (req : Request) (fetch : Fetch)
    (rand : Except String (Vector UInt8 16)) (stored : Bool) (record : UDRAuthSub) :
    Response × UDRAuthSub :=
  match getAuthSubscription record fetch with
  | .error e =>
    (.problem 404 "RESOURCE_URI_STRUCTURE_NOT_FOUND" ("subscriber not found: " ++ e), record)
  | .ok sub =>
    match generate cfgSNName supi req sub rand with
    | .error answer => (answer, record)
    | .ok (sqn, answer) =>
      (answer, updateSQN record (hexEncode (incrementSQN sqn).toList) stored)

/-! ## Requests that overlap -/

/-- How far a request is. -/
inductive Phase where
  | received
  | fetched (sub : UDRAuthSub)
  | generated (sqn : SQN) (answer : Response)
  | updated (sqn : SQN) (answer : Response)
  | answered (answer : Response)

/-- The request has read the subscription and was not answered yet. -/
def Phase.InFlight : Phase → Prop
  | .received => False
  | .fetched _ => True
  | .generated _ _ => True
  | .updated _ _ => True
  | .answered _ => False

/-- The handler's read of the subscription. -/
def Phase.read (fetch : Fetch) : Phase :=
  match getAuthSubscription record fetch with
  | .error e =>
    .answered (.problem 404 "RESOURCE_URI_STRUCTURE_NOT_FOUND" ("subscriber not found: " ++ e))
  | .ok sub => .fetched sub

/-- The record of one SUPI in the UDR, how far each request for it is, and the sequence
numbers of the vectors that were sent, in the order of sending. -/
structure World where
  record : UDRAuthSub
  phase : Nat → Phase
  issued : List SQN

/-- A step of one of the requests. -/
inductive Event where
  | read (t : Nat) (fetch : Fetch)
  | generate (t : Nat) (rand : Except String (Vector UInt8 16))
  | update (t : Nat) (stored : Bool)
  | answer (t : Nat)

def World.init : World := ⟨record, fun _ => .received, []⟩

section Interleaving

variable (cfgSNName supi : String) (requests : Nat → Request)

def Phase.generate (req : Request) (sub : UDRAuthSub) (rand : Except String (Vector UInt8 16)) :
    Phase :=
  match Udm.generate cfgSNName supi req sub rand with
  | .error answer => .answered answer
  | .ok (sqn, answer) => .generated sqn answer

inductive Event.Step : World → Event → World → Prop where
  | read (w : World) (t : Nat) (fetch : Fetch) (hp : w.phase t = .received) : Step w (.read t fetch)
      { w with phase := Function.update w.phase t (.read w.record fetch) }
  | generate (w : World) (t : Nat) (rand : Except String (Vector UInt8 16))
      (sub : UDRAuthSub) (hp : w.phase t = .fetched sub) :
    Step w (.generate t rand)
      { w with
        phase := Function.update w.phase t
          (.generate cfgSNName supi (requests t) sub rand) }
  | update (w : World) (t : Nat) (stored : Bool) (sqn : SQN) (answer : Response)
      (hp : w.phase t = .generated sqn answer) :
    Step w (.update t stored)
      { w with
        record := updateSQN w.record (hexEncode (incrementSQN sqn).toList) stored
        phase := Function.update w.phase t (.updated sqn answer) }
  | answer (w : World) (t : Nat) (sqn : SQN) (answer : Response)
      (hp : w.phase t = .updated sqn answer) :
    Step w (.answer t)
      { w with
        phase := Function.update w.phase t (.answered answer)
        issued := w.issued ++ [sqn] }

theorem run_handleGenerateAuthData (w : World) (t : Nat) (fetch : Fetch)
    (rand : Except String (Vector UInt8 16)) (stored : Bool) (hp : w.phase t = .received) :
    ∃ es w', Run (Event.Step cfgSNName supi requests) w es w' ∧ w'.phase t = .answered
        (handleGenerateAuthData cfgSNName supi (requests t) fetch rand stored w.record).1 ∧
      w'.record =
        (handleGenerateAuthData cfgSNName supi (requests t) fetch rand stored w.record).2 := by
  have hread : Run (Event.Step cfgSNName supi requests) w _ _ :=
    Run.nil.snoc (Event.read t fetch) (Event.Step.read w t fetch hp)
  unfold handleGenerateAuthData
  cases hfetch : getAuthSubscription w.record fetch with
  | error e =>
    refine ⟨_, _, hread, ?_, rfl⟩
    simp [Phase.read, hfetch]
  | ok sub =>
    have hgenerate := hread.snoc (Event.generate t rand)
      (Event.Step.generate _ t rand sub (by simp [Phase.read, hfetch]))
    dsimp only
    cases hgen : Udm.generate cfgSNName supi (requests t) sub rand with
    | error answer =>
      refine ⟨_, _, hgenerate, ?_, rfl⟩
      simp [Phase.generate, hgen]
    | ok vector =>
      have hupdate := hgenerate.snoc (Event.update t stored)
        (Event.Step.update _ t stored vector.1 vector.2 (by simp [Phase.generate, hgen]))
      have hanswer := hupdate.snoc (Event.answer t)
        (Event.Step.answer _ t vector.1 vector.2 (by simp))
      refine ⟨_, _, hanswer, ?_, rfl⟩
      simp

theorem run_vector {start : World} {es : List Event}
    (run : Run (Event.Step cfgSNName supi requests) start es w) (t : Nat)
    (hp : w.phase t = .received) (stored : Bool) {answer : Response}
    (hgen : Udm.generate cfgSNName supi (requests t) w.record rand = .ok (sqn, answer)) :
    ∃ es' w', Run (Event.Step cfgSNName supi requests) start es' w' ∧
      w'.issued = w.issued ++ [sqn] ∧
      w'.record = updateSQN w.record (hexEncode (incrementSQN sqn).toList) stored ∧
      ∀ t', t' ≠ t → w'.phase t' = w.phase t' := by
  have hread := run.snoc (Event.read t .record) (Event.Step.read w t .record hp)
  have hgenerate := hread.snoc (Event.generate t rand)
    (Event.Step.generate _ t rand w.record (by simp [Phase.read, getAuthSubscription]))
  have hupdate := hgenerate.snoc (Event.update t stored)
    (Event.Step.update _ t stored sqn answer (by simp [Phase.generate, hgen]))
  have hanswer := hupdate.snoc (Event.answer t) (Event.Step.answer _ t sqn answer (by simp))
  refine ⟨_, _, hanswer, rfl, rfl, ?_⟩
  intro t' hne
  simp [update_of_ne hne]

def acceptedSQNMS (sub : UDRAuthSub) (req : Request) : Option SQN := do
  let k ← parseHexKey sub.k
  let opc ← parseHexKey sub.opc
  let ri ← req.resynchronizationInfo
  (resyncSQN k opc ri).toOption

def Event.OneAtATime (w : World) : Event → Prop
  | .read t _ => ∀ t', t' ≠ t → ¬(w.phase t').InFlight
  | .generate t _ => ∀ sub, w.phase t = .fetched sub →
      (∀ sqnMS, acceptedSQNMS sub (requests t) = some sqnMS →
        (∀ sqn ∈ w.issued, sqnValue sqn ≤ sqnValue sqnMS) ∧ sqnValue sqnMS + 1 < sqnLimit) ∧
      ∀ i, heavInput sub (requests t) = .ok i → sqnValue i.sqn + 1 < sqnLimit
  | .update _ stored => stored = true
  | .answer _ => True

def oneAtATimeStep : System World Event :=
  System.when (Event.Step cfgSNName supi requests) fun w e => e.OneAtATime requests w

/-- All sequence numbers sent so far are below this one. -/
def World.Below (w : World) (sqn : SQN) : Prop :=
  ∀ sent ∈ w.issued, sqnValue sent < sqnValue sqn

/-- What a request that is in flight knows. -/
def Phase.Fresh (w : World) : Phase → Prop
  | .received => True
  | .fetched sub => parseHexKey sub.k = none ∨ sub.currentSQN = w.record.currentSQN
  | .generated sqn _ => w.Below sqn ∧ sqnValue sqn + 1 < sqnLimit
  | .updated sqn _ => w.Below sqn ∧ sqnValue sqn < sqnValue w.record.currentSQN
  | .answered _ => True

/-- At most one request is in flight, and the stored sequence number is above all those
that were sent. -/
structure FreshInv (w : World) : Prop where
  increasing : w.issued.Pairwise fun sqn sqn' => sqnValue sqn < sqnValue sqn'
  stored : w.Below w.record.currentSQN
  alone : ∀ t t', (w.phase t).InFlight → (w.phase t').InFlight → t = t'
  fresh : ∀ t, (w.phase t).Fresh w

variable {cfgSNName supi requests}

theorem Phase.fresh_of_not_inFlight {p : Phase} (w : World) (h : ¬p.InFlight) : p.Fresh w := by
  cases p with
  | received | answered answer => trivial
  | fetched sub | generated sqn answer | updated sqn answer => exact absurd trivial h

theorem sqn_heavInput {sub : UDRAuthSub} {req : Request} {i : HEAVInput}
    (h : heavInput sub req = .ok i) : (∃ k, parseHexKey sub.k = some k) ∧ (i.sqn = sub.currentSQN ∨
      ∃ sqnMS, acceptedSQNMS sub req = some sqnMS ∧ i.sqn = incrementSQN sqnMS) := by
  unfold heavInput at h
  cases hk : parseHexKey sub.k with
  | none => simp [hk] at h
  | some k =>
    cases hopc : parseHexKey sub.opc with
    | none => simp [hk, hopc] at h
    | some opc =>
      refine ⟨⟨k, rfl⟩, ?_⟩
      cases hri : req.resynchronizationInfo with
      | none =>
        simp only [hk, hopc, hri, Except.ok.injEq] at h
        exact Or.inl (by rw [← h])
      | some ri =>
        cases hresync : resyncSQN k opc ri with
        | error answer => simp [hk, hopc, hri, hresync] at h
        | ok sqnMS =>
          simp only [hk, hopc, hri, hresync, Except.ok.injEq] at h
          refine Or.inr ⟨sqnMS, ?_, by rw [← h]⟩
          simp [acceptedSQNMS, hk, hopc, hri, hresync, Except.toOption]

theorem currentSQN_updateSQN (record : UDRAuthSub) (sqn : SQN) :
    (updateSQN record (hexEncode sqn.toList) true).currentSQN = sqn := by
  simp [updateSQN, UDRAuthSub.currentSQN, parseHexSQN_hexEncode]

theorem freshInv_init (record : UDRAuthSub) : FreshInv (World.init record) where
  increasing := List.Pairwise.nil
  stored := by
    intro sent h
    cases h
  alone := by
    intro t t' h
    cases h
  fresh := fun _ => trivial

namespace FreshInv

theorem others (hw : FreshInv w) (ht : (w.phase t).InFlight) :
    ∀ t', t' ≠ t → ¬(w.phase t').InFlight := by
  intro t' hne h
  exact hne (hw.alone t' t h ht)

theorem of_step {w' : World} {p : Phase} (hphase : w'.phase = update w.phase t p)
    (others : ∀ t', t' ≠ t → ¬(w.phase t').InFlight)
    (increasing : w'.issued.Pairwise fun sqn sqn' => sqnValue sqn < sqnValue sqn')
    (stored : w'.Below w'.record.currentSQN) (fresh : p.Fresh w') : FreshInv w' := by
  have hself : w'.phase t = p := by rw [hphase, update_self]
  have hother : ∀ t', t' ≠ t → ¬(w'.phase t').InFlight := by
    intro t' hne
    rw [hphase, update_of_ne hne]
    exact others t' hne
  have hone : ∀ t', (w'.phase t').InFlight → t' = t := by
    intro t' h
    by_contra hne
    exact hother t' hne h
  refine ⟨increasing, stored, ?_, ?_⟩
  · intro t₁ t₂ h₁ h₂
    rw [hone t₁ h₁, hone t₂ h₂]
  · intro t'
    by_cases hne : t' = t
    · rw [hne, hself]
      exact fresh
    · exact Phase.fresh_of_not_inFlight w' (hother t' hne)

section

variable (hw : FreshInv w)
include hw

theorem read (t : Nat) (fetch : Fetch) (others : ∀ t', t' ≠ t → ¬(w.phase t').InFlight) :
    FreshInv { w with phase := update w.phase t (.read w.record fetch) } := by
  refine of_step rfl others hw.increasing hw.stored ?_
  cases fetch with
  | record => exact Or.inr rfl
  | problem => exact Or.inl (by decide)
  | failed e => trivial

theorem generate {sub : UDRAuthSub}
    (hp : w.phase t = .fetched sub) (ok : Event.OneAtATime requests w (.generate t rand)) :
    FreshInv { w with
      phase := update w.phase t
        (.generate cfgSNName supi (requests t) sub rand) } := by
  have others := hw.others (t := t) (by rw [hp]; trivial)
  refine of_step rfl others hw.increasing hw.stored ?_
  obtain ⟨hms, hlast⟩ := ok sub hp
  have hfresh := hw.fresh t
  rw [hp] at hfresh
  unfold Phase.generate Udm.generate
  cases hi : heavInput sub (requests t) with
  | error answer => trivial
  | ok i =>
    cases rand with
    | error e => trivial
    | ok rand =>
      refine ⟨?_, hlast i hi⟩
      intro sent hsent
      obtain ⟨⟨k, hk⟩, hsqn⟩ := sqn_heavInput hi
      cases hsqn with
      | inl hcurrent =>
        have hsame : sub.currentSQN = w.record.currentSQN := by
          cases hfresh with
          | inl hnone => simp [hk] at hnone
          | inr hsame => exact hsame
        have hbelow := hw.stored sent hsent
        rw [hcurrent, hsame]
        exact hbelow
      | inr hresync =>
        obtain ⟨sqnMS, haccepted, hinc⟩ := hresync
        obtain ⟨hle, hmslast⟩ := hms sqnMS haccepted
        have hsent' := hle sent hsent
        have hvalue := sqnValue_incrementSQN hmslast
        rw [hinc]
        omega

theorem update {answer : Response} (hp : w.phase t = .generated sqn answer) : FreshInv { w with
      record := updateSQN w.record (hexEncode (incrementSQN sqn).toList) true
      phase := update w.phase t (.updated sqn answer) } := by
  have others := hw.others (t := t) (by rw [hp]; trivial)
  have hfresh := hw.fresh t
  rw [hp] at hfresh
  obtain ⟨hbelow, hlast⟩ := hfresh
  have hvalue := sqnValue_incrementSQN hlast
  refine of_step rfl others hw.increasing ?_ ⟨hbelow, ?_⟩
  · intro sent hsent
    have hsent' := hbelow sent hsent
    rw [currentSQN_updateSQN]
    omega
  · rw [currentSQN_updateSQN]
    omega

theorem answer {answer : Response} (hp : w.phase t = .updated sqn answer) : FreshInv { w with
      phase := Function.update w.phase t (.answered answer)
      issued := w.issued ++ [sqn] } := by
  have others := hw.others (t := t) (by rw [hp]; trivial)
  have hfresh := hw.fresh t
  rw [hp] at hfresh
  obtain ⟨hbelow, hstored⟩ := hfresh
  refine of_step rfl others ?_ ?_ trivial
  · apply List.pairwise_append.mpr
    refine ⟨hw.increasing, List.pairwise_singleton _ _, ?_⟩
    intro sent hsent last hlast
    rw [List.mem_singleton.mp hlast]
    exact hbelow sent hsent
  · intro sent hsent
    cases List.mem_append.mp hsent with
    | inl hold => exact hw.stored sent hold
    | inr hnew =>
      rw [List.mem_singleton.mp hnew]
      exact hstored

theorem step {w' : World} {e : Event}
    (hstep : oneAtATimeStep cfgSNName supi requests w e w') : FreshInv w' := by
  obtain ⟨ok, hstep⟩ := hstep
  cases hstep with
  | read t fetch hp => exact hw.read t fetch ok
  | generate t rand sub hp => exact hw.generate hp ok
  | update t stored sqn a hp =>
    have hstored : stored = true := ok
    subst hstored
    exact hw.update hp
  | answer t sqn a hp => exact hw.answer hp

end

end FreshInv

end Interleaving

section Samples

def sampleRecord (sqn : String) : UDRAuthSub :=
  { authMethod := "5G_AKA"
    k := "00000000000000000000000000000000"
    opc := "00000000000000000000000000000000"
    sqn := sqn
    amf := "8000" }

def sampleInput (sqn : SQN) : HEAVInput :=
  ⟨Vector.replicate 16 0, Vector.replicate 16 0, #v[0x80, 0x00], sqn⟩

def plainRequest : Request := ⟨"5G:mnc001.mcc001.3gppnetwork.org", none⟩

def resyncRequest : Request :=
  ⟨"5G:mnc001.mcc001.3gppnetwork.org",
    some ⟨"00000000000000000000000000000000", "39352148bb6027931fafa8437bd8"⟩⟩

def sampleSUPI : String := "imsi-001010000000001"

def sampleRAND : Except String (Vector UInt8 16) := .ok (Vector.replicate 16 0)

theorem generate_sample {req : Request} {record : UDRAuthSub}
    (h : heavInput record req = .ok (sampleInput sqn)) :
    ∃ answer, Udm.generate "" sampleSUPI req record sampleRAND = .ok (sqn, answer) := by
  unfold Udm.generate
  rw [h]
  exact ⟨_, rfl⟩

theorem run_two_vectors (requests : Nat → Request) (record : UDRAuthSub) (stored : Bool)
    {s n : SQN} (hfirst : heavInput record (requests 0) = .ok (sampleInput s))
    (hsecond : heavInput (updateSQN record (hexEncode (incrementSQN s).toList) stored)
      (requests 1) = .ok (sampleInput n)) :
    ∃ es w, Run (Event.Step "" sampleSUPI requests) (World.init record) es w ∧
      w.issued = [s, n] := by
  have run₀ : Run (Event.Step "" sampleSUPI requests) (World.init record) [] _ := Run.nil
  obtain ⟨answer, hgen⟩ := generate_sample hfirst
  obtain ⟨es, w, run, hissued, hstored, hphase⟩ := run_vector "" sampleSUPI requests
    run₀ 0 rfl stored hgen
  obtain ⟨answer', hgen'⟩ := generate_sample hsecond
  have hstored' : updateSQN record (hexEncode (incrementSQN s).toList) stored = w.record :=
    hstored.symm
  rw [hstored'] at hgen'
  have hreceived : w.phase 1 = .received := hphase 1 (by decide)
  obtain ⟨es', w', run', hissued', _, _⟩ := run_vector "" sampleSUPI requests
    run 1 hreceived true hgen'
  refine ⟨es', w', run', ?_⟩
  rw [hissued', hissued]
  rfl

theorem heavInput_sampleRecord : heavInput (sampleRecord "000000000001") plainRequest =
    .ok (sampleInput #v[0, 0, 0, 0, 0, 1]) := by
  decide +kernel

end Samples

end Claudia5gc.Udm
