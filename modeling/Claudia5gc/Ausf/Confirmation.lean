import Claudia5gc.Ausf.Server

/-!
# Confirmations

`handleConfirm` answers AUTHENTICATION_SUCCESS to the RES* that a 5G-AKA context expects, and to an
empty one for an EAP-AKA' context, which is in the same store.  A context is good for one success as
long as no two requests are between their look-up and their removal at once.
-/

namespace Claudia5gc.Ausf

open Go Crypto

variable {s : AuthStore} {now : Int} {t : Nat} {cfg : String} {w w' : World} {ctx : AuthContext}
  {answer : Response} {reached : Bool}

/-! ## The store over a run -/

/-- A request that changes the store. -/
inductive Op where
  | initAuth (env : InitAuth)
  | confirm (env : Confirm) (id : String) (body : Except String String)
  | eapSession (env : Confirm) (id : String) (body : Except String String)
  | delete (id : String) (reached : Bool)

def AuthStore.apply (cfgServingNetworkName : String) (s : AuthStore) : Op → AuthStore
  | .initAuth env =>
    match handleInitAuth cfgServingNetworkName env s with
    | .ok (_, s') => s'
    | _ => s
  | .confirm env id body => (handleConfirm env id body s).2
  | .eapSession env id body => (handleEAPSession env id body s).2
  | .delete id reached => (handleDelete id reached s).2

/-- One request. -/
def storeStep (cfgServingNetworkName : String) : System AuthStore Op :=
  fun s op s' => s' = s.apply cfgServingNetworkName op

def CreatedFor5GAKA (ctx : AuthContext) : Prop :=
  ∃ info udm now, fiveGAKAContext info udm now = some ctx

/-- What the EAP-AKA' branch leaves empty. -/
structure CreatedForEAP (ctx : AuthContext) : Prop where
  authType : ctx.authType = .eapAKAPrime
  xresStar : ctx.xresStar = []
  hresStar : ctx.hresStar = []

/-- Every stored context came from one of the two branches. -/
def StoreInv (s : AuthStore) : Prop :=
  ∀ id ctx, s.lookup id = some ctx → CreatedFor5GAKA ctx ∨ CreatedForEAP ctx

theorem createdForEAP_initEAPAKAPrime {snName : String} {udm : UDMAuthDataResponse}
    {spare : Bytes} {id : String}
    (h : initEAPAKAPrime cfg snName udm spare id now = .ok (some ctx, answer)) :
    CreatedForEAP ctx := by
  unfold initEAPAKAPrime at h
  dsimp only at h
  split at h
  · cases h
  · split at h
    · cases h
    · cases h
      exact ⟨rfl, rfl, rfl⟩

theorem StoreInv.put (hs : StoreInv s) {id : String}
    (hctx : CreatedFor5GAKA ctx ∨ CreatedForEAP ctx) : StoreInv (s.put id ctx reached) := by
  unfold AuthStore.put
  split
  · intro id' ctx' h
    rcases Map.lookup_insert_eq_some.mp h with ⟨_, rfl⟩ | ⟨_, h⟩
    · exact hctx
    · exact hs id' ctx' h
  · exact hs

theorem StoreInv.delete (hs : StoreInv s) {id : String} : StoreInv (s.delete id reached) := by
  unfold AuthStore.delete
  split
  · intro id' ctx' h
    exact hs id' ctx' (Map.lookup_erase_eq_some.mp h).2
  · exact hs

theorem StoreInv.initAuth (hs : StoreInv s) (cfg : String) (env : InitAuth) :
    StoreInv (s.apply cfg (.initAuth env)) := by
  unfold AuthStore.apply
  dsimp only
  split
  · rename_i answer s' h
    unfold handleInitAuth at h
    split at h
    · cases h
      exact hs
    split at h
    · cases h
      exact hs
    split at h
    · cases heap : initEAPAKAPrime cfg _ _ env.spare env.id env.now with
      | ok r =>
        obtain ⟨ctx, r⟩ := r
        rw [heap] at h
        cases h
        cases ctx with
        | none => exact hs
        | some ctx => exact hs.put (Or.inr (createdForEAP_initEAPAKAPrime heap))
      | err e | panic | hang => rw [heap] at h; cases h
    split at h
    · cases h
      exact hs
    · rename_i ctx hctx
      cases h
      exact hs.put (Or.inl ⟨_, _, _, hctx⟩)
  · exact hs

variable (env : Confirm)

theorem handleConfirm_store (id : String) (body : Except String String) (s : AuthStore) :
    (handleConfirm env id body s).2 = s ∨
      (handleConfirm env id body s).2 = s.delete id env.deleteReached := by
  unfold handleConfirm
  repeat' split
  all_goals simp

theorem handleEAPSession_store (id : String) (body : Except String String) (s : AuthStore) :
    (handleEAPSession env id body s).2 = s ∨
      (handleEAPSession env id body s).2 = s.delete id env.deleteReached := by
  unfold handleEAPSession
  repeat' split
  all_goals simp

theorem StoreInv.of_cases {s' : AuthStore} (hs : StoreInv s) {id : String}
    (h : s' = s ∨ s' = s.delete id reached) : StoreInv s' := by
  rcases h with rfl | rfl
  · exact hs
  · exact hs.delete

theorem StoreInv.step {s' : AuthStore} (hs : StoreInv s) {op : Op} (h : storeStep cfg s op s') :
    StoreInv s' := by
  subst h
  cases op with
  | initAuth env => exact hs.initAuth cfg env
  | confirm env id body => exact hs.of_cases (handleConfirm_store env id body s)
  | eapSession env id body => exact hs.of_cases (handleEAPSession_store env id body s)
  | delete id reached => exact hs.delete

theorem storeInv_of_run {ops : List Op} (run : Run (storeStep cfg) ∅ ops s) : StoreInv s :=
  run.invariant (fun _ _ h => nomatch h) fun _ _ _ hs h => hs.step h

/-! ## What a confirmation accepts -/

/-- A success is for a 5G-AKA context whose XRES*, which is not empty, is the RES*
of the request. -/
def ConfirmsXRESStar (id : String) (body : Except String String) (s : AuthStore) : Prop :=
  ∀ kausf supi, (handleConfirm env id body s).1 = .confirmed kausf supi →
    ∃ ctx text, s.lookup id = some ctx ∧ CreatedFor5GAKA ctx ∧
      kausf = hexEncode ctx.kausf ∧ body = .ok text ∧
      hexDecode text = (ctx.xresStar, false) ∧ ctx.xresStar ≠ []

/-- The addressed context, found and not expired, is not asked for an empty RES* while
its XRES* is empty, nor for a RES* other than its XRES* that hashes to its HRES*. -/
def NoForeignMatch (id : String) (body : Except String String) (s : AuthStore) : Prop :=
  ∀ ctx text resStar, s.get id env.getReached = some ctx → ctx.expired env.now = false →
    body = .ok text → hexDecode text = (resStar, false) → (ctx.xresStar = [] → resStar ≠ []) ∧
      (resStar ≠ ctx.xresStar → hresStar ctx.rand resStar ≠ ctx.hresStar)

theorem lookup_of_get {id : String} (h : s.get id reached = some ctx) : s.lookup id = some ctx := by
  unfold AuthStore.get at h
  split at h
  · exact h
  · cases h

theorem verifyRES_eq_some {resStar kausf : Bytes} : verifyRES ctx resStar now = some kausf ↔
      ctx.expired now = false ∧
        (resStar = ctx.xresStar ∨ hresStar ctx.rand resStar = ctx.hresStar) ∧
        kausf = ctx.kausf := by
  unfold verifyRES
  by_cases hexp : ctx.expired now = true
  · simp [hexp]
  · by_cases hres : resStar = ctx.xresStar
    · simp [hexp, hres, eq_comm]
    · by_cases hhres : hresStar ctx.rand resStar = ctx.hresStar
      · simp [hexp, hres, hhres, eq_comm]
      · simp [hexp, hres, hhres]

theorem handleConfirm_confirmed {env : Confirm} {id : String} {body : Except String String}
    {kausf supi : String} : (handleConfirm env id body s).1 = .confirmed kausf supi ↔
      ∃ ctx text resStar, s.get id env.getReached = some ctx ∧ body = .ok text ∧
        hexDecode text = (resStar, false) ∧ verifyRES ctx resStar env.now = some ctx.kausf ∧
        kausf = hexEncode ctx.kausf ∧ supi = ctx.supi := by
  constructor
  · intro h
    unfold handleConfirm at h
    split at h
    · cases h
    · rename_i text
      dsimp only at h
      split at h
      · cases h
      · rename_i hfailed
        split at h
        · cases h
        · rename_i ctx hget
          split at h
          · cases h
          · rename_i key hverify
            have hkey := (verifyRES_eq_some.mp hverify).2.2
            subst hkey
            cases h
            refine ⟨ctx, text, _, hget, rfl, ?_, hverify, rfl, rfl⟩
            exact Prod.ext rfl (by simpa using hfailed)
  · rintro ⟨ctx, text, resStar, hget, rfl, hhex, hverify, rfl, rfl⟩
    simp [handleConfirm, hhex, hget, hverify]

/-- In every reachable store, a confirmation succeeds for the expected RES* of a 5G-AKA
context only, exactly when the request makes no foreign match. -/
theorem confirmsXRESStar_iff (cfg : String) (ops : List Op) (s : AuthStore)
    (run : Run (storeStep cfg) ∅ ops s) (env : Confirm) (id : String)
    (body : Except String String) :
    ConfirmsXRESStar env id body s ↔ NoForeignMatch env id body s := by
  have hinv := storeInv_of_run run
  constructor
  · intro hprop ctx text resStar hget hexp hbody hhex
    -- a match of either kind is a success, so the property speaks about it
    have hsuccess : (resStar = ctx.xresStar ∨ hresStar ctx.rand resStar = ctx.hresStar) →
        resStar = ctx.xresStar ∧ ctx.xresStar ≠ [] := by
      intro hmatch
      have hverify := verifyRES_eq_some.mpr ⟨hexp, hmatch, rfl⟩
      obtain ⟨ctx', text', hlookup, _, _, hbody', hhex', hne⟩ :=
        hprop _ _ (handleConfirm_confirmed.mpr
          ⟨ctx, text, resStar, hget, hbody, hhex, hverify, rfl, rfl⟩)
      rw [lookup_of_get hget] at hlookup
      cases hlookup
      rw [hbody] at hbody'
      cases hbody'
      rw [hhex] at hhex'
      exact ⟨(Prod.ext_iff.mp hhex').1, hne⟩
    refine ⟨?_, ?_⟩
    · intro hx hr
      exact (hsuccess (Or.inl (hr.trans hx.symm))).2 hx
    · intro hne hhres
      exact hne (hsuccess (Or.inr hhres)).1
  · intro hcond kausf supi h
    obtain ⟨ctx, text, resStar, hget, hbody, hhex, hverify, hkausf, _⟩ :=
      handleConfirm_confirmed.mp h
    obtain ⟨hexp, hmatch, _⟩ := verifyRES_eq_some.mp hverify
    obtain ⟨hempty, hforeign⟩ := hcond ctx text resStar hget hexp hbody hhex
    have hres : resStar = ctx.xresStar := by
      by_contra hne
      rcases hmatch with hmatch | hmatch
      · exact hne hmatch
      · exact hforeign hne hmatch
    have hne : ctx.xresStar ≠ [] := fun hx => hempty hx (hres.trans hx)
    rcases hinv id ctx (lookup_of_get hget) with haka | heap
    · exact ⟨ctx, text, lookup_of_get hget, haka, hkausf, hbody, hres ▸ hhex, hne⟩
    · exact absurd heap.xresStar hne

/-- A RES* that is the XRES* of a stored 5G-AKA context is confirmed as it should be. -/
theorem confirmsXRESStar_expected : ConfirmsXRESStar ⟨0, true, true⟩ "a" (.ok "01")
      (AuthStore.apply "" ∅ (.initAuth ⟨.ok ⟨"suci", "5G"⟩,
        .ok { rand := "00000000000000000000000000000000",
              autn := "00000000000000000000000000000000", xresStar := "01" },
        [], "a", 0, true⟩)) := by
  refine (confirmsXRESStar_iff "" _ _ (Run.nil.snoc _ rfl) _ _ _).mpr ?_
  intro ctx text resStar hget _ hbody hhex
  cases hget
  cases hbody
  cases hhex
  exact ⟨nofun, fun h => absurd rfl h⟩

/-- An empty RES* on the 5G-AKA endpoint is a success for a context that was created for
EAP-AKA'. -/
theorem empty_resStar_confirms_eap_context : ∃ ops s, Run (storeStep "") ∅ ops s ∧
      ¬ConfirmsXRESStar ⟨0, true, true⟩ "a" (.ok "") s := by
  refine ⟨_, _, Run.nil.snoc (Op.initAuth ⟨.ok ⟨"suci", "5G"⟩,
    .ok { authType := "EAP_AKA_PRIME", supi := "imsi-001010000000001",
          rand := "00000000000000000000000000000000", autn := "00000000000000000000000000000000",
          ckPrime := "00000000000000000000000000000000",
          ikPrime := "00000000000000000000000000000000", xres := "0000000000000000" },
    [], "a", 0, true⟩) rfl, ?_⟩
  intro hprop
  obtain ⟨ctx, _, hlookup, _, _, _, _, hne⟩ := hprop _ _ rfl
  cases hlookup
  exact hne rfl

/-! ## Requests that overlap -/

inductive Request where
  | confirmation (id : String) (body : Except String String)
  | eapSession (id : String) (body : Except String String)

def Request.id : Request → String
  | .confirmation id _ => id
  | .eapSession id _ => id

/-- The answer of the UE that is still to be checked. -/
inductive Credential where
  | resStar (octets : Bytes)
  | eapPayload (text : String)

/-- How far a handler has come.  Between two phases lies one call of the store or one
reading of the clock. -/
inductive Phase where
  | received
  | got (credential : Credential) (ctx : AuthContext)
  | deleting (answer : Response)
  | answered (answer : Response)

/-- A handler up to and with its `Get`. -/
def Request.receive (s : AuthStore) (getReached : Bool) : Request → Phase
  | .confirmation id body =>
    match body with
    | .error e => .answered (.problem 400 "MANDATORY_IE_MISSING" e)
    | .ok text =>
      let (resStar, failed) := hexDecode text
      if failed then
        .answered (.problem 400 "MANDATORY_IE_INCORRECT" "resStar: invalid hex")
      else
        match s.get id getReached with
        | none => .answered (.problem 404 "CONTEXT_NOT_FOUND" "unknown authCtxId")
        | some ctx => .got (.resStar resStar) ctx
  | .eapSession id body =>
    match body with
    | .error e => .answered (.problem 400 "MANDATORY_IE_MISSING" e)
    | .ok eapPayload =>
      match s.get id getReached with
      | none => .answered (.problem 404 "CONTEXT_NOT_FOUND" "unknown authCtxId")
      | some ctx => .got (.eapPayload eapPayload) ctx

/-- A handler from its `Get` up to its `Delete`, or to its answer if there is none. -/
def Credential.check (ctx : AuthContext) (now : Int) : Credential → Phase
  | .resStar octets =>
    match verifyRES ctx octets now with
    | none => .answered (.problem 200 "AUTHENTICATION_REJECTED" "RES* mismatch")
    | some kausf => .deleting (.confirmed (hexEncode kausf) ctx.supi)
  | .eapPayload text =>
    match checkEAPSession ctx text now with
    | (answer, false) => .answered answer
    | (answer, true) => .deleting answer

/-- A request handled from its first to its last phase without another in between. -/
def Request.serve (s : AuthStore) (req : Request) : Option Response × AuthStore :=
  match req.receive s env.getReached with
  | .got credential ctx =>
    match credential.check ctx env.now with
    | .deleting answer => (some answer, s.delete req.id env.deleteReached)
    | .answered answer => (some answer, s)
    | _ => (none, s)
  | .answered answer => (some answer, s)
  | _ => (none, s)

theorem serve_confirmation (s : AuthStore) (id : String) (body : Except String String) :
    (Request.confirmation id body).serve env s =
      (some (handleConfirm env id body s).1, (handleConfirm env id body s).2) := by
  unfold Request.serve Request.receive handleConfirm
  cases body with
  | error e => rfl
  | ok text =>
    by_cases hfailed : (hexDecode text).2 = true
    · simp [hfailed]
    · simp only [hfailed, Bool.false_eq_true, if_false]
      cases hget : s.get id env.getReached with
      | none => rfl
      | some ctx =>
        simp only [Credential.check]
        cases hverify : verifyRES ctx (hexDecode text).1 env.now with
        | none | some kausf => rfl

theorem serve_eapSession (s : AuthStore) (id : String) (body : Except String String) :
    (Request.eapSession id body).serve env s =
      (some (handleEAPSession env id body s).1, (handleEAPSession env id body s).2) := by
  unfold Request.serve Request.receive handleEAPSession
  cases body with
  | error e => rfl
  | ok eapPayload =>
    dsimp only
    cases hget : s.get id env.getReached with
    | none => rfl
    | some ctx =>
      simp only [Credential.check]
      rcases hcheck : checkEAPSession ctx eapPayload env.now with ⟨answer, removed⟩
      cases removed <;> rfl

/-- The store, the identifiers handed out so far, and how far each request is. -/
structure World where
  store : AuthStore
  issued : List String
  phase : Nat → Phase

def World.setPhase (w : World) (t : Nat) (p : Phase) : World :=
  { w with phase := fun t' => if t' = t then p else w.phase t' }

@[simp] theorem World.setPhase_self (w : World) (t : Nat) (p : Phase) :
    (w.setPhase t p).phase t = p := by
  simp [World.setPhase]

theorem World.setPhase_of_ne (w : World) {t' : Nat} (p : Phase) (h : t' ≠ t) :
    (w.setPhase t p).phase t' = w.phase t' := by
  simp [World.setPhase, h]

/-- A step of one of the handlers that run at the same time. -/
inductive Event where
  | create (id : String) (ctx : AuthContext)
  | get (t : Nat) (reached : Bool)
  | check (t : Nat) (now : Int)
  | delete (t : Nat) (reached : Bool)
  | remove (id : String) (reached : Bool)

section Interleaving

variable (requests : Nat → Request)

/-- One step.  A fresh identifier is one that was not handed out before. -/
inductive Event.Step : World → Event → World → Prop where
  | create (w : World) (id : String) (ctx : AuthContext) (fresh : id ∉ w.issued) :
    Step w (.create id ctx)
      { w with store := w.store.insert id ctx, issued := id :: w.issued }
  | get (w : World) (t : Nat) (reached : Bool) (hp : w.phase t = .received) :
    Step w (.get t reached) (w.setPhase t ((requests t).receive w.store reached))
  | check (w : World) (t : Nat) (now : Int) (credential : Credential)
      (ctx : AuthContext) (hp : w.phase t = .got credential ctx) :
    Step w (.check t now) (w.setPhase t (credential.check ctx now))
  | delete (w : World) (t : Nat) (reached : Bool) (answer : Response)
      (hp : w.phase t = .deleting answer) :
    Step w (.delete t reached)
      { w.setPhase t (.answered answer) with
        store := w.store.delete (requests t).id reached }
  | remove (w : World) (id : String) (reached : Bool) :
    Step w (.remove id reached) { w with store := w.store.delete id reached }

def World.Holds (w : World) (t : Nat) : Prop :=
  (∃ credential ctx, w.phase t = .got credential ctx) ∨ ∃ answer, w.phase t = .deleting answer

def World.Succeeded (w : World) (t : Nat) : Prop :=
  ∃ answer, w.phase t = .answered answer ∧ answer.success = true

/-- The condition under which a context is good for one success: a request looks its
context up only while no other request holds it, and a removal reaches the store. -/
def Event.OneAtATime (w : World) : Event → Prop
  | .get t _ => ∀ t', t' ≠ t → (requests t').id = (requests t).id → ¬w.Holds t'
  | .delete _ reached => reached = true
  | _ => True

def oneAtATimeStep : System World Event :=
  System.when (Event.Step requests) fun w e => e.OneAtATime requests w

def World.init : World := ⟨∅, [], fun _ => .received⟩

/-- The request holds its context or has succeeded with it. -/
def World.Uses (w : World) (t : Nat) : Prop := w.Holds t ∨ w.Succeeded t

/-- At most one request uses a context, and a context that served a success is not in the store. -/
structure OneShotInv (w : World) : Prop where
  stored : ∀ id ctx, w.store.lookup id = some ctx → id ∈ w.issued
  used : ∀ t, w.Uses t → (requests t).id ∈ w.issued
  user : ∀ t t', w.Uses t → w.Uses t' → (requests t).id = (requests t').id → t = t'
  spent : ∀ t, w.Succeeded t → w.store.lookup (requests t).id = none

variable {requests}

theorem Request.receive_cases (req : Request) (s : AuthStore) (reached : Bool) :
    (∃ answer, req.receive s reached = .answered answer ∧ answer.success = false) ∨
      ∃ credential ctx, req.receive s reached = .got credential ctx ∧
        s.lookup req.id = some ctx := by
  cases req with
  | confirmation id body =>
    unfold Request.receive
    dsimp only
    split
    · exact Or.inl ⟨_, rfl, rfl⟩
    · split
      · exact Or.inl ⟨_, rfl, rfl⟩
      · split
        · exact Or.inl ⟨_, rfl, rfl⟩
        · rename_i ctx hget
          exact Or.inr ⟨_, ctx, rfl, lookup_of_get hget⟩
  | eapSession id body =>
    unfold Request.receive
    dsimp only
    split
    · exact Or.inl ⟨_, rfl, rfl⟩
    · split
      · exact Or.inl ⟨_, rfl, rfl⟩
      · rename_i ctx hget
        exact Or.inr ⟨_, ctx, rfl, lookup_of_get hget⟩

theorem checkEAPSession_kept {text : String}
    (h : checkEAPSession ctx text now = (answer, false)) : answer.success = false := by
  unfold checkEAPSession at h
  dsimp only at h
  repeat' split at h
  all_goals
    cases h
    try rfl

theorem Credential.check_cases (credential : Credential) (ctx : AuthContext) (now : Int) :
    (∃ answer, credential.check ctx now = .answered answer ∧ answer.success = false) ∨
      ∃ answer, credential.check ctx now = .deleting answer := by
  cases credential with
  | resStar octets =>
    unfold Credential.check
    dsimp only
    split
    · exact Or.inl ⟨_, rfl, rfl⟩
    · exact Or.inr ⟨_, rfl⟩
  | eapPayload text =>
    unfold Credential.check
    dsimp only
    split
    · rename_i answer hcheck
      exact Or.inl ⟨answer, rfl, checkEAPSession_kept hcheck⟩
    · exact Or.inr ⟨_, rfl⟩

/-! Holding and having succeeded depend on the phase of the request alone. -/

theorem World.holds_congr (h : w'.phase t = w.phase t) : w'.Holds t ↔ w.Holds t := by
  unfold World.Holds
  rw [h]

theorem World.succeeded_congr (h : w'.phase t = w.phase t) : w'.Succeeded t ↔ w.Succeeded t := by
  unfold World.Succeeded
  rw [h]

theorem World.not_holds_of_answered (h : w.phase t = .answered answer) : ¬w.Holds t := by
  rintro (⟨_, _, h'⟩ | ⟨_, h'⟩) <;> rw [h] at h' <;> cases h'

theorem World.not_succeeded_of_refused (h : w.phase t = .answered answer)
    (hno : answer.success = false) : ¬w.Succeeded t := by
  rintro ⟨answer', h', hyes⟩
  rw [h] at h'
  cases h'
  rw [hno] at hyes
  cases hyes

theorem World.not_succeeded_of_holds (h : w.Holds t) : ¬w.Succeeded t := by
  rintro ⟨answer, h', _⟩
  exact World.not_holds_of_answered h' h

theorem World.uses_congr (h : w'.phase t = w.phase t) : w'.Uses t ↔ w.Uses t :=
  or_congr (World.holds_congr h) (World.succeeded_congr h)

theorem not_uses_init : ¬World.init.Uses t := by
  rintro ((⟨_, _, h⟩ | ⟨_, h⟩) | ⟨_, h, _⟩) <;> cases h

theorem oneShotInv_init : OneShotInv requests World.init :=
  ⟨nofun, fun _ h => absurd h not_uses_init, fun _ _ h => absurd h not_uses_init,
    fun _ h => absurd (Or.inr h) not_uses_init⟩

theorem OneShotInv.of_subset (hw : OneShotInv requests w) (hissued : w'.issued = w.issued)
    (hstore : ∀ id ctx, w'.store.lookup id = some ctx → w.store.lookup id = some ctx)
    (huses : ∀ t, w'.Uses t → w.Uses t)
    (hspent : ∀ t, w'.Succeeded t → w'.store.lookup (requests t).id = none) :
    OneShotInv requests w' := by
  refine ⟨?_, ?_, ?_, hspent⟩
  · intro id ctx h
    rw [hissued]
    exact hw.stored id ctx (hstore id ctx h)
  · intro t h
    rw [hissued]
    exact hw.used t (huses t h)
  · intro t t' h h' heq
    exact hw.user t t' (huses t h) (huses t' h') heq

theorem lookup_of_lookup_delete {id id' : String}
    (h : (s.delete id reached).lookup id' = some ctx) : s.lookup id' = some ctx := by
  unfold AuthStore.delete at h
  split at h
  · exact (Map.lookup_erase_eq_some.mp h).2
  · exact h

theorem lookup_delete_of_none {id id' : String} (h : s.lookup id' = none) :
    (s.delete id reached).lookup id' = none := by
  apply Option.eq_none_iff_forall_ne_some.mpr
  intro ctx hctx
  rw [lookup_of_lookup_delete hctx] at h
  cases h

section

variable (hw : OneShotInv requests w)
include hw

theorem OneShotInv.setPhase {p : Phase}
    (hholds : (w.setPhase t p).Holds t → w.Holds t) (hsucc : ¬(w.setPhase t p).Succeeded t) :
    OneShotInv requests (w.setPhase t p) := by
  refine hw.of_subset rfl (fun _ _ h => h) ?_ ?_
  · intro t' h
    by_cases ht : t' = t
    · subst ht
      exact h.imp hholds fun h => absurd h hsucc
    · exact (World.uses_congr (w.setPhase_of_ne p ht)).mp h
  · intro t' h
    have ht : t' ≠ t := by
      rintro rfl
      exact hsucc h
    exact hw.spent t' ((World.succeeded_congr (w.setPhase_of_ne p ht)).mp h)

theorem OneShotInv.create {id : String} (fresh : id ∉ w.issued) : OneShotInv requests
      { w with store := w.store.insert id ctx, issued := id :: w.issued } := by
  refine ⟨?_, ?_, hw.user, ?_⟩
  · intro id' ctx' h
    rcases Map.lookup_insert_eq_some.mp h with ⟨rfl, _⟩ | ⟨_, h⟩
    · exact List.mem_cons_self
    · exact List.mem_cons_of_mem _ (hw.stored id' ctx' h)
  · intro t h
    exact List.mem_cons_of_mem _ (hw.used t h)
  · intro t h
    -- the identifier of a spent context is taken, so the new context has another one
    have hne : (requests t).id ≠ id := fun heq => fresh (heq ▸ hw.used t (Or.inr h))
    rw [AList.lookup_insert_ne hne]
    exact hw.spent t h

theorem OneShotInv.get {credential : Credential}
    (hfound : w.store.lookup (requests t).id = some ctx)
    (halone : ∀ t', t' ≠ t → (requests t').id = (requests t).id → ¬w.Holds t') :
    OneShotInv requests (w.setPhase t (.got credential ctx)) := by
  have hold : ∀ t', t' ≠ t → (w.setPhase t (.got credential ctx)).Uses t' → w.Uses t' :=
    fun t' ht h => (World.uses_congr (w.setPhase_of_ne _ ht)).mp h
  -- the context just found is neither held nor spent
  have hfree : ∀ t', t' ≠ t → (requests t').id = (requests t).id → ¬w.Uses t' := by
    rintro t' ht heq (h | h)
    · exact halone t' ht heq h
    · rw [← heq, hw.spent t' h] at hfound
      cases hfound
  refine ⟨hw.stored, ?_, ?_, ?_⟩
  · intro t' h
    by_cases ht : t' = t
    · subst ht
      exact hw.stored _ ctx hfound
    · exact hw.used t' (hold t' ht h)
  · intro t₁ t₂ h₁ h₂ heq
    by_cases ht₁ : t₁ = t <;> by_cases ht₂ : t₂ = t
    · rw [ht₁, ht₂]
    · exact absurd (hold t₂ ht₂ h₂) (hfree t₂ ht₂ (by rw [← heq, ht₁]))
    · exact absurd (hold t₁ ht₁ h₁) (hfree t₁ ht₁ (by rw [heq, ht₂]))
    · exact hw.user t₁ t₂ (hold t₁ ht₁ h₁) (hold t₂ ht₂ h₂) heq
  · intro t' h
    have ht : t' ≠ t := by
      rintro rfl
      exact World.not_succeeded_of_holds (Or.inl ⟨credential, ctx, w.setPhase_self t' _⟩) h
    exact hw.spent t' ((World.succeeded_congr (w.setPhase_of_ne _ ht)).mp h)

theorem OneShotInv.delete (hp : w.phase t = .deleting answer) :
    OneShotInv requests { w.setPhase t (.answered answer) with
      store := w.store.delete (requests t).id true } := by
  refine hw.of_subset rfl (fun _ _ h => lookup_of_lookup_delete h) ?_ ?_
  · intro t' h
    by_cases ht : t' = t
    · subst ht
      exact Or.inl (Or.inr ⟨answer, hp⟩)
    · exact (World.uses_congr (w.setPhase_of_ne (.answered answer) ht)).mp h
  · intro t' h
    by_cases ht : t' = t
    · subst ht
      exact AList.lookup_erase _ _
    · refine lookup_delete_of_none (hw.spent t' ?_)
      exact (World.succeeded_congr (w.setPhase_of_ne (.answered answer) ht)).mp h

theorem OneShotInv.step {e : Event}
    (h : oneAtATimeStep requests w e w') : OneShotInv requests w' := by
  obtain ⟨hok, hstep⟩ := h
  cases hstep with
  | create id ctx fresh => exact hw.create fresh
  | get t reached hp =>
    rcases (requests t).receive_cases w.store reached with
      ⟨answer, hreceive, hno⟩ | ⟨credential, ctx, hreceive, hfound⟩
    · rw [hreceive]
      have hself := w.setPhase_self t (.answered answer)
      exact hw.setPhase (fun h => absurd h (World.not_holds_of_answered hself))
        (World.not_succeeded_of_refused hself hno)
    · rw [hreceive]
      exact hw.get hfound hok
  | check t now credential ctx hp =>
    have hheld : w.Holds t := Or.inl ⟨credential, ctx, hp⟩
    rcases credential.check_cases ctx now with ⟨answer, hcheck, hno⟩ | ⟨answer, hcheck⟩
    · rw [hcheck]
      exact hw.setPhase (fun _ => hheld)
        (World.not_succeeded_of_refused (w.setPhase_self t _) hno)
    · rw [hcheck]
      exact hw.setPhase (fun _ => hheld)
        (World.not_succeeded_of_holds (Or.inr ⟨answer, w.setPhase_self t _⟩))
  | delete t reached answer hp =>
    have hreached : reached = true := hok
    rw [hreached]
    exact hw.delete hp
  | remove id reached =>
    exact hw.of_subset rfl (fun _ _ h => lookup_of_lookup_delete h) (fun _ h => h)
      fun t h => lookup_delete_of_none (hw.spent t h)

end

end Interleaving

/-- In every run whose steps all meet the condition, at most one request on a context is
answered with success. -/
theorem one_success_of_run (requests : Nat → Request) (es : List Event) (w : World)
    (run : Run (oneAtATimeStep requests) World.init es w) :
    ∀ t t', (requests t).id = (requests t').id → w.Succeeded t → w.Succeeded t' → t = t' := by
  intro t t' same h h'
  have hinv : OneShotInv requests w :=
    run.invariant oneShotInv_init fun _ _ _ hw hstep => hw.step hstep
  exact hinv.user t t' (Or.inr h) (Or.inr h') same

def sampleContext : AuthContext :=
  { supi := "imsi-001010000000001", servingNetName := "5G", rand := Vector.replicate 16 0,
    autn := Vector.replicate 16 0, xresStar := [1], kausf := [2], createdAt := 0 }

/-- Confirmations of one context that all bring its RES*. -/
def sampleRequests : Nat → Request := fun _ => .confirmation "a" (.ok "01")

/-- One of the requests runs to its end, and it is the only one that succeeds. -/
theorem one_success_of_first_request : ∃ w : World, w.Succeeded 0 ∧
      ∀ t t', (sampleRequests t).id = (sampleRequests t').id → w.Succeeded t →
        w.Succeeded t' → t = t' := by
  have h₁ : Run (oneAtATimeStep sampleRequests) World.init _ _ :=
    Run.nil.snoc (Event.create "a" sampleContext) ⟨trivial, .create _ _ _ (by decide)⟩
  have h₂ := h₁.snoc (Event.get 0 true) ⟨?_, .get _ 0 true rfl⟩
  have h₃ := h₂.snoc (Event.check 0 0)
    ⟨trivial, .check _ 0 0 (.resStar [1]) sampleContext rfl⟩
  have h₄ := h₃.snoc (Event.delete 0 true)
    ⟨rfl, .delete _ 0 true (.confirmed "02" "imsi-001010000000001") rfl⟩
  · exact ⟨_, ⟨_, rfl, rfl⟩, one_success_of_run sampleRequests _ _ h₄⟩
  · rintro t' _ _ (⟨_, _, h⟩ | ⟨_, h⟩) <;> cases h

/-- Two requests that both look the context up before one of them removes it both
succeed. -/
theorem two_successes_when_overlapping : ∃ es w, Run (Event.Step sampleRequests) World.init es w ∧
      w.Succeeded 0 ∧ w.Succeeded 1 := by
  have h₁ : Run (Event.Step sampleRequests) World.init _ _ :=
    Run.nil.snoc (Event.create "a" sampleContext) (.create _ _ _ (by decide))
  have h₂ := h₁.snoc (Event.get 0 true) (.get _ 0 true rfl)
  have h₃ := h₂.snoc (Event.get 1 true) (.get _ 1 true rfl)
  have h₄ := h₃.snoc (Event.check 0 0) (.check _ 0 0 (.resStar [1]) sampleContext rfl)
  have h₅ := h₄.snoc (Event.check 1 0) (.check _ 1 0 (.resStar [1]) sampleContext rfl)
  have h₆ := h₅.snoc (Event.delete 0 true)
    (.delete _ 0 true (.confirmed "02" "imsi-001010000000001") rfl)
  have h₇ := h₆.snoc (Event.delete 1 true)
    (.delete _ 1 true (.confirmed "02" "imsi-001010000000001") rfl)
  exact ⟨_, _, h₇, ⟨_, rfl, rfl⟩, ⟨_, rfl, rfl⟩⟩

end Claudia5gc.Ausf
