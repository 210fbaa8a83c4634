import AuthKit.Library.Text
import AuthKit.WebAuthn.Registry

/-!
# The WebAuthn verifier

`generate_challenge`, `verify_registration` and `verify_authentication` as functions from the
verifier's state before a call to the state after it, for a call that nothing interrupts. The
hash, the encodings and the JSON parser are parameters, and so is the session store.
-/
namespace AuthKit.WebAuthn

open Execution AuthKit.Domain

/-- Third-party functions: `Sha256::digest`, `URL_SAFE_NO_PAD.encode`, `serde_json::from_str`. -/
structure Externals where
  sha256 : List UInt8 → Vector UInt8 32
  encode : List UInt8 → String
  fromStr : String → Except String CollectedClientData

/-- The session store in the shape this module calls it (the last argument, always `None`, is
left out). The value `verify_state` returns on success is of a type of the store's own: the
caller drops it. -/
structure ChallengeStore (Store Env Answer : Type) where
  bindState : Env → (key value purpose : String) → (ttlSecs : UInt64) → Store →
    Store × Outcome SessionStoreError Unit
  verifyState : Env → (key value purpose : String) → Store →
    Store × Outcome SessionStoreError Answer

/-- The port of `domain/session_store.rs` in that shape: it knows neither purposes nor time to
live. -/
def ChallengeStore.ofPort {Store Env : Type} (port : SessionStore Store Env) :
    ChallengeStore Store Env Bool where
  bindState env key value _ _ store := port.bindState env key value store
  verifyState env key value _ store := port.verifyState env key value store

structure WebAuthnVerifier (Store : Type) where
  sessionStore : Store
  credentials : Registry

def WebAuthnVerifier.new {Store : Type} (sessionStore : Store) : WebAuthnVerifier Store :=
  ⟨sessionStore, ∅⟩

/-- The arguments of `verify_registration`. -/
structure Registration where
  userId : String
  challenge : String
  authenticatorData : AuthenticatorData
  clientDataJson : String
  credentialId : List UInt8
  publicKey : List UInt8

/-- The arguments of `verify_authentication`. -/
structure Authentication where
  userId : String
  challenge : String
  authenticatorData : AuthenticatorData
  clientDataJson : String
  credentialId : List UInt8

/-- What a call to the verifier returns. -/
inductive Reply where
  | generated (result : Outcome WebAuthnError String)
  | registered (result : Outcome WebAuthnError WebAuthnCredential)
  | authenticated (result : Outcome WebAuthnError Unit)
  deriving DecidableEq

def PURPOSE : String := "webauthn-challenge"

namespace WebAuthnConfig

variable (config : WebAuthnConfig)

/-- The key of `generate_challenge`. -/
def challengeKey (operation userId : String) : String :=
  "webauthn:" ++ operation ++ ":" ++ config.rpId ++ ":" ++ userId

/-- The key of `verify_registration`. -/
def createKey (userId : String) : String :=
  "webauthn:create:" ++ config.rpId ++ ":" ++ userId

/-- The key of `verify_authentication`. -/
def getKey (userId : String) : String :=
  "webauthn:get:" ++ config.rpId ++ ":" ++ userId

end WebAuthnConfig

/-- The placeholder looks at the length of the public key only. -/
def verifySignature (publicKey : List UInt8) (_authenticatorData : AuthenticatorData)
    (_clientDataJson : String) : Except WebAuthnError Unit :=
  if publicKey.isEmpty then .error .credentialNotFound else .ok ()

section Checks

variable (lib : Externals) (config : WebAuthnConfig)

def checkRpIdHash (data : AuthenticatorData) : Except WebAuthnError Unit :=
  let expected := lib.sha256 (Text.utf8 config.rpId.toList)
  if data.rpIdHash ≠ expected then
    .error (.rpIdHashMismatch (lib.encode expected.toList) (lib.encode data.rpIdHash.toList))
  else .ok ()

def checkClientData (ty challenge clientDataJson : String) : Except WebAuthnError Unit :=
  match lib.fromStr clientDataJson with
  | .error error => .error (.clientDataJson error)
  | .ok clientData =>
      if clientData.ty ≠ ty then .error .challengeNotFound
      else if clientData.challenge ≠ challenge then .error .challengeNotFound
      else if clientData.origin ∉ config.allowedOrigins then .error .challengeNotFound
      else .ok ()

/-- Steps 1 to 3 of `verify_registration`. -/
def registrationChecks (r : Registration) : Except WebAuthnError Unit := do
  checkRpIdHash lib config r.authenticatorData
  if !r.authenticatorData.flags.up then throw .userPresenceNotSet
  if !r.authenticatorData.flags.uv then throw .userVerificationNotSet
  checkClientData lib config "webauthn.create" r.challenge r.clientDataJson

/-- Steps 1 to 3 of `verify_authentication`; user verification is not required here. -/
def authenticationChecks (a : Authentication) : Except WebAuthnError Unit := do
  checkRpIdHash lib config a.authenticatorData
  if !a.authenticatorData.flags.up then throw .userPresenceNotSet
  checkClientData lib config "webauthn.get" a.challenge a.clientDataJson

end Checks

namespace WebAuthnVerifier

variable {Store Env Answer : Type} (lib : Externals) (config : WebAuthnConfig)
  (port : ChallengeStore Store Env Answer)

/-- The random bytes are an argument. -/
def generateChallenge (env : Env) (bytes : Vector UInt8 32) (userId operation : String)
    (v : WebAuthnVerifier Store) : WebAuthnVerifier Store × Outcome WebAuthnError String :=
  let challenge := lib.encode bytes.toList
  let bound := port.bindState env (config.challengeKey operation userId) challenge PURPOSE
    config.challengeTtlSecs v.sessionStore
  ({ v with sessionStore := bound.1 }, (bound.2.mapErr .sessionStore).map fun _ => challenge)

/-- Step 4 of both verifications: `verify_state(..).await?;`. -/
def consumeChallenge (env : Env) (key challenge : String) (v : WebAuthnVerifier Store) :
    WebAuthnVerifier Store × Outcome WebAuthnError Unit :=
  -- an error stops the call, an answer does not, whatever it is
  let verified := port.verifyState env key challenge PURPOSE v.sessionStore
  ({ v with sessionStore := verified.1 }, (verified.2.mapErr .sessionStore).map fun _ => ())

/-- Step 6 of `verify_registration`. -/
def register (createdAt : String) (r : Registration) (v : WebAuthnVerifier Store) :
    WebAuthnVerifier Store × WebAuthnCredential :=
  let credential : WebAuthnCredential :=
    { credentialId := r.credentialId
      publicKey := r.publicKey
      signCount := r.authenticatorData.signCount
      label := none
      createdAt := createdAt }
  ({ v with credentials := v.credentials.push r.userId credential }, credential)

/-- Steps 5 and 6 of `verify_authentication`. -/
def raiseAndVerify (a : Authentication) (v : WebAuthnVerifier Store) :
    WebAuthnVerifier Store × Except WebAuthnError Unit :=
  let raised := v.credentials.raiseCount a.userId a.credentialId a.authenticatorData.signCount
  -- the count is stored before the signature is looked at
  ({ v with credentials := raised.1 },
    raised.2.bind fun publicKey => verifySignature publicKey a.authenticatorData a.clientDataJson)

def verifyRegistration (env : Env) (createdAt : String) (r : Registration)
    (v : WebAuthnVerifier Store) :
    WebAuthnVerifier Store × Outcome WebAuthnError WebAuthnCredential :=
  match registrationChecks lib config r with
  | .error error => (v, .err error)
  | .ok () =>
      match v.consumeChallenge port env (config.createKey r.userId) r.challenge with
      | (v, .panicked) => (v, .panicked)
      | (v, .err error) => (v, .err error)
      | (v, .ok ()) =>
          -- step 5, under the read lock; step 6 takes the write lock anew
          if v.credentials.contains r.credentialId then (v, .err .credentialAlreadyExists)
          else
            let registered := v.register createdAt r
            (registered.1, .ok registered.2)

def verifyAuthentication (env : Env) (a : Authentication) (v : WebAuthnVerifier Store) :
    WebAuthnVerifier Store × Outcome WebAuthnError Unit :=
  match authenticationChecks lib config a with
  | .error error => (v, .err error)
  | .ok () =>
      match v.consumeChallenge port env (config.getKey a.userId) a.challenge with
      | (v, .panicked) => (v, .panicked)
      | (v, .err error) => (v, .err error)
      | (v, .ok ()) =>
          let verified := v.raiseAndVerify a
          (verified.1, .ofExcept verified.2)

end WebAuthnVerifier

section Consumption

variable {Store Env Answer : Type} (port : ChallengeStore Store Env Answer)

theorem consumeChallenge_credentials (env : Env) (key challenge : String)
    (v : WebAuthnVerifier Store) :
    (v.consumeChallenge port env key challenge).1.credentials = v.credentials := rfl

theorem consumeChallenge_ok_iff (env : Env) (key challenge : String)
    (v : WebAuthnVerifier Store) :
    (v.consumeChallenge port env key challenge).2 = .ok () ↔
      ∃ answer, (port.verifyState env key challenge PURPOSE v.sessionStore).2 = .ok answer := by
  simp only [WebAuthnVerifier.consumeChallenge, Outcome.map_eq_ok_iff, Outcome.mapErr_eq_ok_iff,
    and_true]

end Consumption

/-! ### What the checks ask for -/

section Checked

variable (lib : Externals) (config : WebAuthnConfig)

theorem checkClientData_ok_iff (ty challenge clientDataJson : String) :
    checkClientData lib config ty challenge clientDataJson = .ok () ↔
      ∃ origin ∈ config.allowedOrigins,
        lib.fromStr clientDataJson = .ok ⟨ty, challenge, origin⟩ := by
  unfold checkClientData
  cases lib.fromStr clientDataJson with
  | error error => simp
  | ok clientData =>
    obtain ⟨ty', challenge', origin⟩ := clientData
    simp only [ne_eq, ite_not, Except.ok.injEq, CollectedClientData.mk.injEq]
    constructor
    · intro passed
      -- the checks in the order in which the source makes them
      by_cases sameTy : ty' = ty
      · by_cases sameChallenge : challenge' = challenge
        · by_cases allowed : origin ∈ config.allowedOrigins
          · exact ⟨origin, allowed, sameTy, sameChallenge, rfl⟩
          · simp [sameTy, sameChallenge, allowed] at passed
        · simp [sameTy, sameChallenge] at passed
      · simp [sameTy] at passed
    · rintro ⟨origin', allowed, rfl, rfl, rfl⟩
      simp [allowed]

theorem authenticationChecks_ok_iff (a : Authentication) :
    authenticationChecks lib config a = .ok () ↔
      a.authenticatorData.rpIdHash = lib.sha256 (Text.utf8 config.rpId.toList) ∧
      a.authenticatorData.flags.up = true ∧
      ∃ origin ∈ config.allowedOrigins,
        lib.fromStr a.clientDataJson = .ok ⟨"webauthn.get", a.challenge, origin⟩ := by
  rw [← checkClientData_ok_iff]
  unfold authenticationChecks checkRpIdHash
  by_cases hash : a.authenticatorData.rpIdHash = lib.sha256 (Text.utf8 config.rpId.toList)
  · cases up : a.authenticatorData.flags.up with
    | false => simp [hash, bind, Except.bind, throw, throwThe, MonadExceptOf.throw]
    | true => simp [hash, bind, Except.bind]
  · simp [hash, bind, Except.bind]

end Checked

/-! ### What a verification can do -/

section Cases

variable {Store Env Answer : Type} (lib : Externals) (config : WebAuthnConfig)
  (port : ChallengeStore Store Env Answer)

/-- A registration is refused by its checks or by the store, finds its id taken, or inserts. -/
theorem verifyRegistration_cases (env : Env) (createdAt : String) (r : Registration)
    (v : WebAuthnVerifier Store) :
    let consumed := v.consumeChallenge port env (config.createKey r.userId) r.challenge
    (∃ error, registrationChecks lib config r = .error error ∧
      v.verifyRegistration lib config port env createdAt r = (v, .err error)) ∨
    (registrationChecks lib config r = .ok () ∧ consumed.2 ≠ .ok () ∧
      ∃ result, (∀ credential, result ≠ .ok credential) ∧
        v.verifyRegistration lib config port env createdAt r = (consumed.1, result)) ∨
    (registrationChecks lib config r = .ok () ∧ consumed.2 = .ok () ∧
      v.credentials.contains r.credentialId = true ∧
      v.verifyRegistration lib config port env createdAt r =
        (consumed.1, .err .credentialAlreadyExists)) ∨
    (registrationChecks lib config r = .ok () ∧ consumed.2 = .ok () ∧
      v.credentials.contains r.credentialId = false ∧
      v.verifyRegistration lib config port env createdAt r =
        ((consumed.1.register createdAt r).1, .ok (consumed.1.register createdAt r).2)) := by
  have kept := consumeChallenge_credentials port env (config.createKey r.userId) r.challenge v
  dsimp only
  unfold WebAuthnVerifier.verifyRegistration
  cases registrationChecks lib config r with
  | error refused => exact Or.inl ⟨refused, rfl, rfl⟩
  | ok done =>
    right
    rcases answered : v.consumeChallenge port env (config.createKey r.userId) r.challenge with
      ⟨v', _ | error | _⟩
    · rw [answered] at kept
      -- the store does not touch the registry, so the id is looked for where it was
      have same : v'.credentials.contains r.credentialId = v.credentials.contains r.credentialId :=
        congrArg (Registry.contains · r.credentialId) kept
      simp only [same]
      cases v.credentials.contains r.credentialId with
      | true => exact Or.inr (Or.inl ⟨trivial, trivial, rfl, rfl⟩)
      | false => exact Or.inr (Or.inr ⟨trivial, trivial, rfl, rfl⟩)
    · exact Or.inl ⟨rfl, by simp, .err error, by simp, rfl⟩
    · exact Or.inl ⟨rfl, by simp, .panicked, by simp, rfl⟩

/-- An assertion is refused by its checks or by the store, or it gets to the stored count. -/
theorem verifyAuthentication_cases (env : Env) (a : Authentication) (v : WebAuthnVerifier Store) :
    let consumed := v.consumeChallenge port env (config.getKey a.userId) a.challenge
    (∃ error, authenticationChecks lib config a = .error error ∧
      v.verifyAuthentication lib config port env a = (v, .err error)) ∨
    (authenticationChecks lib config a = .ok () ∧ consumed.2 ≠ .ok () ∧
      ∃ result, result ≠ .ok () ∧
        v.verifyAuthentication lib config port env a = (consumed.1, result)) ∨
    (authenticationChecks lib config a = .ok () ∧ consumed.2 = .ok () ∧
      v.verifyAuthentication lib config port env a =
        ((consumed.1.raiseAndVerify a).1, .ofExcept (consumed.1.raiseAndVerify a).2)) := by
  dsimp only
  unfold WebAuthnVerifier.verifyAuthentication
  cases authenticationChecks lib config a with
  | error refused => exact Or.inl ⟨refused, rfl, rfl⟩
  | ok done =>
    right
    rcases v.consumeChallenge port env (config.getKey a.userId) a.challenge with ⟨v', _ | error | _⟩
    · exact Or.inr ⟨rfl, rfl, rfl⟩
    · exact Or.inl ⟨rfl, by simp, .err error, by simp, rfl⟩
    · exact Or.inl ⟨rfl, by simp, .panicked, by simp, rfl⟩

/-- The write-locked section and the signature check succeed for a stored credential with a lower
count and a key. -/
theorem raiseAndVerify_ok_iff (a : Authentication) (v : WebAuthnVerifier Store) :
    (v.raiseAndVerify a).2 = .ok () ↔
      ∃ cred, v.credentials.stored a.userId a.credentialId = some cred ∧
        cred.signCount < a.authenticatorData.signCount ∧ cred.publicKey ≠ [] := by
  unfold WebAuthnVerifier.raiseAndVerify
  rcases v.credentials.raiseCount_cases a.userId a.credentialId a.authenticatorData.signCount with
    ⟨absent, result⟩ | ⟨cred, found, low, result⟩ | ⟨cred, found, higher, result⟩
  · simp [result, Except.bind, absent]
  · have notHigher : ¬ cred.signCount < a.authenticatorData.signCount := UInt32.not_lt.mpr low
    simp [result, Except.bind, found, notHigher]
  · -- the count is stored, and the key decides
    cases key : cred.publicKey <;>
      simp [result, Except.bind, verifySignature, found, higher, key]

/-- Everything that an accepted assertion has passed. -/
theorem verifyAuthentication_accepts_iff (env : Env) (a : Authentication)
    (v : WebAuthnVerifier Store) :
    (v.verifyAuthentication lib config port env a).2 = .ok () ↔
      authenticationChecks lib config a = .ok () ∧
      (∃ answer, (port.verifyState env (config.getKey a.userId) a.challenge PURPOSE
        v.sessionStore).2 = .ok answer) ∧
      ∃ cred, v.credentials.stored a.userId a.credentialId = some cred ∧
        cred.signCount < a.authenticatorData.signCount ∧ cred.publicKey ≠ [] := by
  have section_ok := raiseAndVerify_ok_iff a
    (v.consumeChallenge port env (config.getKey a.userId) a.challenge).1
  rw [consumeChallenge_credentials] at section_ok
  rw [← consumeChallenge_ok_iff, ← section_ok]
  rcases verifyAuthentication_cases lib config port env a v with
    ⟨error, checked, result⟩ | ⟨checked, refused, _, notOk, result⟩ | ⟨checked, passed, result⟩
  · simp [result, checked]
  · simp [result, notOk, refused]
  · simp only [result, checked, passed, true_and, Outcome.ofExcept_eq_ok_iff]

end Cases

end AuthKit.WebAuthn
