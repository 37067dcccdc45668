import Claudia5gc.Crypto.Suci

/-!
# Access tokens at the NRF

With `OAUTH2_ENFORCE` on, the middleware of the NRF keeps a request from the handlers when its
Bearer token does not verify, or when it has no Authorization header. A header of another kind is
not looked at. HMAC, base64 and JSON are parameters.
-/

namespace Claudia5gc.Nrf

open Go Crypto.Suci List

/-- `jwtClaims` without the audience, which is neither set nor read. -/
structure JwtClaims where
  issuer : String
  subject : String
  scope : String
  issuedAt : Int
  expiresAt : Int

structure Codec where
  hmac : Bytes → List Char → Bytes
  encodeToString : Bytes → List Char
  decodeString : List Char → Except Error Bytes
  marshal : JwtClaims → Bytes
  unmarshal : Bytes → Except Error JwtClaims

/-- Base64 has no dots, and what was written is read back. -/
structure Codec.Faithful (c : Codec) : Prop where
  no_dot : ∀ b, '.' ∉ c.encodeToString b
  decodeString : ∀ b, c.decodeString (c.encodeToString b) = .ok b
  unmarshal : ∀ claims, c.unmarshal (c.marshal claims) = .ok claims

structure Server where
  codec : Codec
  oauth2Secret : Bytes

structure Request where
  path : List Char
  authorization : List Char := []

/-- Either the middleware answers, or the handler behind it does. -/
inductive Reply where
  | problem (status : Nat) (cause : String) (detail : Error)
  | served
  deriving DecidableEq

def tokenTTL : Int := 3600

def hdrJSON : Bytes := "\x7b\"alg\":\"HS256\",\"typ\":\"JWT\"\x7d".toUTF8.toList

def bearer : List Char := "Bearer ".toList

namespace Server

def jwtSign (s : Server) (data : List Char) : List Char :=
  s.codec.encodeToString (s.codec.hmac s.oauth2Secret data)

def issueJWT (s : Server) (issuer subject scope : String) (now : Int) : List Char :=
  let payload := s.codec.marshal ⟨issuer, subject, scope, now, now + tokenTTL⟩
  let unsigned := s.codec.encodeToString hdrJSON ++ '.' :: s.codec.encodeToString payload
  unsigned ++ '.' :: s.jwtSign unsigned

/-- The claims of a payload that was signed. -/
def readClaims (s : Server) (payload : List Char) : Except Error JwtClaims :=
  match s.codec.decodeString payload with
  | .error e => .error (.wrap "decode JWT payload" e)
  | .ok payloadBytes =>
    match s.codec.unmarshal payloadBytes with
    | .error e => .error (.wrap "unmarshal JWT claims" e)
    | .ok claims => .ok claims

def validateBearerToken (s : Server) (now : Int) (token : List Char) : Except Error String :=
  match splitN '.' 3 token with
  | [header, payload, sig] =>
    if s.jwtSign (header ++ '.' :: payload) ≠ sig then .error (.new "invalid JWT signature")
    else
      match s.readClaims payload with
      | .error e => .error e
      | .ok claims =>
        if claims.expiresAt < now then .error (.new "JWT expired") else .ok claims.subject
  | _ => .error (.new "malformed JWT")

end Server

/-- The paths that need a token. -/
def Request.Guarded (r : Request) : Prop :=
  r.path ≠ "/healthz".toList ∧ ¬ "/oauth2/".toList <+: r.path

instance (r : Request) : Decidable r.Guarded := inferInstanceAs (Decidable (_ ∧ _))

def Server.middleware (s : Server) (enforce : Bool) (now : Int) (r : Request) : Reply :=
  if r.Guarded then
    if bearer <+: r.authorization then
      match s.validateBearerToken now (r.authorization.drop bearer.length) with
      | .error e => if enforce then .problem 401 "INVALID_TOKEN" e else .served
      | .ok _ => .served
    else if enforce ∧ r.authorization = [] then
      .problem 401 "MISSING_TOKEN" (.new "Authorization: Bearer required")
    else .served
  else .served

/-! ## Tokens that are accepted -/

theorem of_splitN {sep : Char} {n : Nat} {text a b : List Char} {rest : List (List Char)}
    (h : splitN sep (n + 2) text = a :: b :: rest) :
    ∃ tail, text = a ++ sep :: tail ∧ sep ∉ a ∧ splitN sep (n + 1) tail = b :: rest := by
  rw [splitN] at h
  split at h
  · cases h
  · rename_i c tail hdrop
    obtain ⟨rfl, htail⟩ := cons.inj h
    have hc : c = sep := by
      have hhead := head?_dropWhile_not (· ≠ sep) text
      rw [hdrop] at hhead
      simpa using hhead
    subst hc
    refine ⟨tail, ?_, ?_, htail⟩
    · rw [← hdrop, takeWhile_append_dropWhile]
    · intro hmem
      simpa using all_eq_true.1 all_takeWhile _ hmem

/-- A token of three parts, the last of which is the MAC of the first two, that has not expired. -/
def Server.Verifies (s : Server) (now : Int) (token : List Char) : Prop :=
  ∃ header payload claims, '.' ∉ header ∧ '.' ∉ payload ∧
    token = header ++ '.' :: (payload ++ '.' :: s.jwtSign (header ++ '.' :: payload)) ∧
    s.readClaims payload = .ok claims ∧ now ≤ claims.expiresAt

variable {s : Server} {now : Int} {token : List Char}

theorem verifies_iff : (∃ subject, s.validateBearerToken now token = .ok subject) ↔
    s.Verifies now token := by
  constructor
  · rintro ⟨subject, h⟩
    unfold Server.validateBearerToken at h
    split at h
    · rename_i header payload sig hparts
      obtain ⟨tail, rfl, hheader, htail⟩ := of_splitN hparts
      obtain ⟨sig', rfl, hpayload, hsig⟩ := of_splitN htail
      obtain rfl := (cons.inj hsig).1
      split at h
      · cases h
      · rename_i hsign
        split at h
        · cases h
        · rename_i claims hclaims
          split at h
          · cases h
          · rename_i hexpired
            refine ⟨header, payload, claims, hheader, hpayload, ?_, hclaims, not_lt.1 hexpired⟩
            rw [not_not.1 hsign]
    · cases h
  · rintro ⟨header, payload, claims, hheader, hpayload, rfl, hclaims, hexpires⟩
    refine ⟨claims.subject, ?_⟩
    unfold Server.validateBearerToken
    rw [splitN_append hheader, splitN_append hpayload, splitN]
    simp [hclaims, not_lt.2 hexpires]

theorem verifies_issueJWT (h : s.codec.Faithful) (issuer subject scope : String) {issued : Int}
    (hnow : now ≤ issued + tokenTTL) : s.Verifies now (s.issueJWT issuer subject scope issued) := by
  refine ⟨_, _, ⟨issuer, subject, scope, issued, issued + tokenTTL⟩, h.no_dot _, h.no_dot _,
    append_assoc .., ?_, hnow⟩
  rw [Server.readClaims, h.decodeString]
  dsimp only
  rw [h.unmarshal]

def Server.Authorized (s : Server) (now : Int) (r : Request) : Prop :=
  ∃ token, r.authorization = bearer ++ token ∧ s.Verifies now token

/-- A request for a guarded path reaches its handler with a token that verifies only, unless it has
an Authorization header of another kind than Bearer; and the tokens that are issued are accepted
until they expire. -/
theorem only_bearers_served_iff (s : Server) (now : Int) (r : Request) :
    ((r.Guarded → s.middleware true now r = .served → s.Authorized now r) ↔
      (r.Guarded → r.authorization ≠ [] → bearer <+: r.authorization)) ∧
    (s.codec.Faithful → ∀ issuer subject scope issued, now ≤ issued + tokenTTL →
      r.authorization = bearer ++ s.issueJWT issuer subject scope issued →
      s.middleware true now r = .served) := by
  refine ⟨forall_congr' fun hguarded => ⟨fun h hheader => ?_, fun h hserved => ?_⟩, ?_⟩
  · by_contra hbearer
    obtain ⟨token, htoken, _⟩ := h (by
      rw [Server.middleware, if_pos hguarded, if_neg hbearer, if_neg (fun h => hheader h.2)])
    exact hbearer ⟨token, htoken.symm⟩
  · rw [Server.middleware, if_pos hguarded] at hserved
    by_cases hheader : r.authorization = []
    · have hbearer : ¬ bearer <+: r.authorization := by
        rw [hheader]
        decide
      rw [if_neg hbearer, if_pos ⟨rfl, hheader⟩] at hserved
      cases hserved
    · obtain ⟨token, htoken⟩ := h hheader
      rw [if_pos (h hheader), ← htoken, drop_left] at hserved
      refine ⟨token, htoken.symm, verifies_iff.1 ?_⟩
      split at hserved
      · cases hserved
      · rename_i subject hvalid
        exact ⟨subject, hvalid⟩
  · intro hfaithful issuer subject scope issued hnow htoken
    obtain ⟨subject', hvalid⟩ :=
      verifies_iff.2 (verifies_issueJWT hfaithful issuer subject scope hnow)
    rw [Server.middleware, htoken, drop_left, hvalid]
    simp

/-- Without the secret: a Basic header lets a request through to the discovery. -/
theorem basic_header_served :
    let s : Server := ⟨⟨fun _ _ => [], fun _ => [], fun _ => .ok [], fun _ => [],
      fun _ => .error (.new "")⟩, [1]⟩
    let r : Request := ⟨"/nnrf-disc/v1/nf-instances".toList, "Basic Og==".toList⟩
    r.Guarded ∧ s.middleware true 0 r = .served ∧ ¬ s.Authorized 0 r := by
  refine ⟨by decide, by decide, ?_⟩
  rintro ⟨token, htoken, _⟩
  exact absurd ⟨token, htoken.symm⟩ (show ¬ bearer <+: "Basic Og==".toList by decide)

end Claudia5gc.Nrf
