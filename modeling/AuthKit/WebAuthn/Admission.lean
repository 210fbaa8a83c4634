import AuthKit.WebAuthn.Ceremonies
import AuthKit.WebAuthn.Contract

/-!
# What registration admits and what authentication accepts

The two verifications check different fields. Whatever registration stores should pass the
lookup, the counter and the signature check of a later assertion; all of it does, except a
credential that was registered with an empty public key.
-/
namespace AuthKit.WebAuthn

open Execution AuthKit.Domain

/-- The key under which a call addresses the session store. -/
def Ceremony.sessionKey {Env : Type} (config : WebAuthnConfig) : Ceremony Env → String
  | .generate _ _ userId operation => config.challengeKey operation userId
  | .register _ _ r => config.createKey r.userId
  | .authenticate _ a => config.getKey a.userId

/-- The call asserts the credential of that id for that user. -/
def Ceremony.Asserts {Env : Type} (userId : String) (credentialId : List UInt8) :
    Ceremony Env → Prop
  | .generate _ _ _ _ => False
  | .register _ _ _ => False
  | .authenticate _ a => a.userId = userId ∧ a.credentialId = credentialId

/-- An assertion of the registered credential that answers the challenge `c`: nothing but the
public key is left to decide. -/
structure Genuine (lib : Externals) (config : WebAuthnConfig) (r : Registration) (c : String)
    (a : Authentication) : Prop where
  userId : a.userId = r.userId
  credentialId : a.credentialId = r.credentialId
  challenge : a.challenge = c
  rpIdHash : a.authenticatorData.rpIdHash = lib.sha256 (Text.utf8 config.rpId.toList)
  up : a.authenticatorData.flags.up = true
  clientData : ∃ origin ∈ config.allowedOrigins,
    lib.fromStr a.clientDataJson = .ok ⟨"webauthn.get", c, origin⟩
  signCount : r.authenticatorData.signCount < a.authenticatorData.signCount

section Effects

variable {Store Env Answer : Type} (lib : Externals) (config : WebAuthnConfig)
  (port : ChallengeStore Store Env Answer)

theorem Genuine.checks {lib : Externals} {config : WebAuthnConfig} {r : Registration} {c : String}
    {a : Authentication} (genuine : Genuine lib config r c a) :
    authenticationChecks lib config a = .ok () := by
  rw [authenticationChecks_ok_iff, genuine.challenge]
  exact ⟨genuine.rpIdHash, genuine.up, genuine.clientData⟩

/-- A registration succeeds only with an id that nobody has, and then stores its own values. -/
theorem verifyRegistration_ok (env : Env) (createdAt : String) (r : Registration)
    (v registered : WebAuthnVerifier Store) (credential : WebAuthnCredential)
    (ok : v.verifyRegistration lib config port env createdAt r = (registered, .ok credential)) :
    registered.credentials.stored r.userId r.credentialId =
      some ⟨r.credentialId, r.publicKey, r.authenticatorData.signCount, none, createdAt⟩ := by
  rcases verifyRegistration_cases lib config port env createdAt r v with
    ⟨_, _, result⟩ | ⟨_, _, _, refused, result⟩ | ⟨_, _, _, result⟩ | ⟨_, _, absent, result⟩
  · cases result.symm.trans ok
  · exact absurd (Prod.mk.inj (result.symm.trans ok)).2 (refused credential)
  · cases result.symm.trans ok
  · obtain ⟨rfl, _⟩ := Prod.mk.inj (result.symm.trans ok)
    -- so `find` stops at the new entry, which is the last of the user's list
    have fresh : v.credentials.stored r.userId r.credentialId = none := by
      rw [Registry.stored, List.find?_eq_none]
      intro c member same
      rw [← Bool.not_eq_true, Registry.contains_iff] at absent
      apply absent
      exact ⟨r.userId, List.mem_map.mpr ⟨c, member, of_decide_eq_true same⟩⟩
    simp [WebAuthnVerifier.register, Registry.stored_push, consumeChallenge_credentials, fresh]

/-- What a call can do to the registry: nothing, add a credential at the end of a user's list, or
raise the count of the one it asserts. -/
theorem perform_credentials_cases (call : Ceremony Env) (v : WebAuthnVerifier Store) :
    (v.perform lib config port call).1.credentials = v.credentials ∨
    (∃ env createdAt r credential, call = .register env createdAt r ∧
      (v.perform lib config port call).1.credentials = v.credentials.push r.userId credential) ∨
    (∃ env a, call = .authenticate env a ∧
      (v.perform lib config port call).1.credentials =
        (v.credentials.raiseCount a.userId a.credentialId a.authenticatorData.signCount).1) := by
  cases call with
  | generate env bytes userId operation => exact Or.inl rfl
  | register env createdAt r =>
    rcases verifyRegistration_cases lib config port env createdAt r v with
      ⟨_, _, result⟩ | ⟨_, _, _, _, result⟩ | ⟨_, _, _, result⟩ | ⟨_, _, _, result⟩
    · exact Or.inl (congrArg (·.1.credentials) result)
    · exact Or.inl (congrArg (·.1.credentials) result)
    · exact Or.inl (congrArg (·.1.credentials) result)
    · exact Or.inr (Or.inl ⟨env, createdAt, r, _, rfl, congrArg (·.1.credentials) result⟩)
  | authenticate env a =>
    rcases verifyAuthentication_cases lib config port env a v with
      ⟨_, _, result⟩ | ⟨_, _, _, _, result⟩ | ⟨_, _, result⟩
    · exact Or.inl (congrArg (·.1.credentials) result)
    · exact Or.inl (congrArg (·.1.credentials) result)
    · exact Or.inr (Or.inr ⟨env, a, rfl, congrArg (·.1.credentials) result⟩)

/-- Once `find` selects a credential, it stays as it is until a call asserts it. -/
theorem perform_stored (call : Ceremony Env) (v : WebAuthnVerifier Store) (userId : String)
    (credentialId : List UInt8) (idle : ¬ call.Asserts userId credentialId)
    (cred : WebAuthnCredential) (found : v.credentials.stored userId credentialId = some cred) :
    (v.perform lib config port call).1.credentials.stored userId credentialId = some cred := by
  rcases perform_credentials_cases lib config port call v with
    same | ⟨env, createdAt, r, credential, rfl, pushed⟩ | ⟨env, a, rfl, raised⟩
  · rw [same, found]
  · rw [pushed, Registry.stored_push, found, Option.some_or]
  · rw [raised]
    rcases v.credentials.raiseCount_cases a.userId a.credentialId a.authenticatorData.signCount with
      ⟨_, result⟩ | ⟨_, _, _, result⟩ | ⟨_, _, _, result⟩
    · rw [result, found]
    · rw [result, found]
    · have other : ¬ (userId = a.userId ∧ credentialId = a.credentialId) := by
        rintro ⟨rfl, rfl⟩
        exact idle ⟨rfl, rfl⟩
      rw [result, Registry.stored_raised, found, Option.map_some, if_neg other]

theorem exec_stored (calls : List (Ceremony Env)) (v : WebAuthnVerifier Store) (userId : String)
    (credentialId : List UInt8) (idle : ∀ call ∈ calls, ¬ call.Asserts userId credentialId)
    (cred : WebAuthnCredential) (found : v.credentials.stored userId credentialId = some cred) :
    ((ceremonies lib config port).exec v calls).1.credentials.stored userId credentialId =
      some cred := by
  induction calls generalizing v with
  | nil => exact found
  | cons call rest ih =>
    apply ih
    · exact fun later member => idle later (List.mem_cons_of_mem _ member)
    · exact perform_stored lib config port call v userId credentialId (idle call List.mem_cons_self)
        cred found

/-- A call touches the session store at most once, under its own key. -/
theorem perform_sessionStore_cases (call : Ceremony Env) (v : WebAuthnVerifier Store) :
    (v.perform lib config port call).1.sessionStore = v.sessionStore ∨
    (∃ env value purpose ttlSecs, (v.perform lib config port call).1.sessionStore =
      (port.bindState env (call.sessionKey config) value purpose ttlSecs v.sessionStore).1) ∨
    (∃ env value purpose, (v.perform lib config port call).1.sessionStore =
      (port.verifyState env (call.sessionKey config) value purpose v.sessionStore).1) := by
  cases call with
  | generate env bytes userId operation => exact Or.inr (Or.inl ⟨_, _, _, _, rfl⟩)
  -- what comes after the store's answer leaves the store alone
  | register env createdAt r =>
    rcases verifyRegistration_cases lib config port env createdAt r v with
      ⟨_, _, result⟩ | ⟨_, _, _, _, result⟩ | ⟨_, _, _, result⟩ | ⟨_, _, _, result⟩
    · exact Or.inl (congrArg (·.1.sessionStore) result)
    · exact Or.inr (Or.inr ⟨env, r.challenge, PURPOSE, congrArg (·.1.sessionStore) result⟩)
    · exact Or.inr (Or.inr ⟨env, r.challenge, PURPOSE, congrArg (·.1.sessionStore) result⟩)
    · exact Or.inr (Or.inr ⟨env, r.challenge, PURPOSE, congrArg (·.1.sessionStore) result⟩)
  | authenticate env a =>
    rcases verifyAuthentication_cases lib config port env a v with
      ⟨_, _, result⟩ | ⟨_, _, _, _, result⟩ | ⟨_, _, result⟩
    · exact Or.inl (congrArg (·.1.sessionStore) result)
    · exact Or.inr (Or.inr ⟨env, a.challenge, PURPOSE, congrArg (·.1.sessionStore) result⟩)
    · exact Or.inr (Or.inr ⟨env, a.challenge, PURPOSE, congrArg (·.1.sessionStore) result⟩)

/-- With its other checks passed and its count above the stored one, an assertion is accepted iff
the session store lets its challenge pass and the credential has a key. -/
theorem verifyAuthentication_ok_iff (env : Env) (a : Authentication) (v : WebAuthnVerifier Store)
    (checks : authenticationChecks lib config a = .ok ()) (cred : WebAuthnCredential)
    (found : v.credentials.stored a.userId a.credentialId = some cred)
    (higher : cred.signCount < a.authenticatorData.signCount) :
    (v.verifyAuthentication lib config port env a).2 = .ok () ↔
      (∃ answer, (port.verifyState env (config.getKey a.userId) a.challenge PURPOSE
        v.sessionStore).2 = .ok answer) ∧ cred.publicKey ≠ [] := by
  rw [verifyAuthentication_accepts_iff]
  constructor
  · rintro ⟨_, live, cred', found', _, keyed⟩
    cases found.symm.trans found'
    exact ⟨live, keyed⟩
  · rintro ⟨live, keyed⟩
    exact ⟨checks, live, cred, found, higher, keyed⟩

end Effects

section Login

variable {Store Env Answer : Type} (lib : Externals) (config : WebAuthnConfig)
  {port : ChallengeStore Store Env Answer} (contract : Contract port)

/-- The store answers `Ok` exactly to a matching binding. -/
theorem Contract.ok_iff (env : Env) (key value purpose : String) (store : Store) :
    (∃ answer, (port.verifyState env key value purpose store).2 = .ok answer) ↔
      ∃ b, contract.binding store key = some b ∧ b.Matches value purpose (contract.clock env) := by
  constructor
  · rintro ⟨answer, passed⟩
    exact contract.matches_of_ok env key value purpose store answer passed
  · intro matched
    exact (contract.verify_ok env key value purpose store matched).1

/-- Whatever it answers, a verification leaves the bindings of other keys in place. -/
theorem Contract.binding_verify_ne (env : Env) (key value purpose : String) (store : Store)
    (k : String) (other : k ≠ key) :
    contract.binding (port.verifyState env key value purpose store).1 k =
      contract.binding store k := by
  by_cases matched : ∃ b, contract.binding store key = some b ∧
      b.Matches value purpose (contract.clock env)
  · rw [(contract.verify_ok env key value purpose store matched).2, if_neg other]
  · rw [(contract.verify_err env key value purpose store matched).2]

/-- A call that goes to another key leaves the binding of a key in place. -/
theorem perform_binding (call : Ceremony Env) (v : WebAuthnVerifier Store) (key : String)
    (other : call.sessionKey config ≠ key) :
    contract.binding (v.perform lib config port call).1.sessionStore key =
      contract.binding v.sessionStore key := by
  rcases perform_sessionStore_cases lib config port call v with
    same | ⟨env, value, purpose, ttlSecs, bound⟩ | ⟨env, value, purpose, verified⟩
  · rw [same]
  · rw [bound, contract.binding_bind, if_neg (Ne.symm other)]
  · rw [verified, contract.binding_verify_ne _ _ _ _ _ _ (Ne.symm other)]

theorem exec_binding (calls : List (Ceremony Env)) (v : WebAuthnVerifier Store) (key : String)
    (untouched : ∀ call ∈ calls, call.sessionKey config ≠ key) :
    contract.binding ((ceremonies lib config port).exec v calls).1.sessionStore key =
      contract.binding v.sessionStore key := by
  induction calls generalizing v with
  | nil => rfl
  | cons call rest ih =>
    refine (ih _ fun later member => untouched later (List.mem_cons_of_mem _ member)).trans ?_
    exact perform_binding lib config contract call v key (untouched call List.mem_cons_self)

/-- After a registration in any run of uninterrupted calls, a later assertion of the credential
that answers a challenge generated for its user is accepted iff the registered public key is not
empty and the challenge has not run out. In between there may be any calls that neither assert
the credential nor, once the challenge is generated, go to its key. -/
theorem registered_credential_accepted_iff (store : Store)
    (earlier between waiting : List (Ceremony Env)) (registeredAt generatedAt assertedAt : Env)
    (createdAt : String) (r : Registration) (credential : WebAuthnCredential)
    (bytes : Vector UInt8 32) (c : String) (a : Authentication)
    (registered challenged : WebAuthnVerifier Store)
    (registration : ((ceremonies lib config port).exec (.new store) earlier).1.verifyRegistration lib
      config port registeredAt createdAt r = (registered, .ok credential))
    (idle : ∀ call ∈ between, ¬ call.Asserts r.userId r.credentialId)
    (generation : ((ceremonies lib config port).exec registered between).1.generateChallenge lib
      config port generatedAt bytes r.userId "get" = (challenged, .ok c))
    (untouched : ∀ call ∈ waiting, call.sessionKey config ≠ config.getKey r.userId)
    (genuine : Genuine lib config r c a) :
    (((ceremonies lib config port).exec challenged waiting).1.verifyAuthentication lib config port
        assertedAt a).2 = .ok () ↔
      r.publicKey ≠ [] ∧
        contract.clock assertedAt <
          contract.clock generatedAt + ttlNanos config.challengeTtlSecs := by
  -- the credential is still stored as it was registered
  have found := verifyRegistration_ok lib config port registeredAt createdAt r _ registered credential
    registration
  have kept := exec_stored lib config port between registered r.userId r.credentialId idle _ found
  have challengedEq := (congrArg Prod.fst generation).symm
  have answerEq := (congrArg Prod.snd generation).symm
  dsimp only at challengedEq answerEq
  have stored : ((ceremonies lib config port).exec challenged waiting).1.credentials.stored a.userId
      a.credentialId =
        some ⟨r.credentialId, r.publicKey, r.authenticatorData.signCount, none, createdAt⟩ := by
    rw [genuine.userId, genuine.credentialId]
    apply exec_stored lib config port waiting challenged r.userId r.credentialId
    · -- an assertion of the credential would go to the key of its user
      intro call member asserts
      cases call with
      | generate env bytes userId operation => exact asserts
      | register env createdAt r => exact asserts
      | authenticate env a =>
        apply untouched _ member
        rw [Ceremony.sessionKey, asserts.1]
    · rw [challengedEq]
      exact kept
  -- the challenge is still bound as it was generated
  have bound : contract.binding ((ceremonies lib config port).exec challenged waiting).1.sessionStore
      (config.getKey a.userId) =
        some ⟨a.challenge, PURPOSE,
          contract.clock generatedAt + ttlNanos config.challengeTtlSecs⟩ := by
    have text : c = lib.encode bytes.toList := by
      obtain ⟨_, _, rfl⟩ := (Outcome.map_eq_ok_iff _ _ _).mp answerEq.symm
      rfl
    rw [genuine.userId, exec_binding lib config contract waiting challenged _ untouched,
      challengedEq, WebAuthnVerifier.generateChallenge, contract.binding_bind,
      if_pos (config.getKey_eq r.userId), genuine.challenge, text]
  rw [verifyAuthentication_ok_iff lib config port assertedAt a _ genuine.checks _ stored
    genuine.signCount, contract.ok_iff, bound, and_comm]
  simp [Binding.Matches]

end Login

/-! ### A registration with and without a key -/

def loginRegistration (publicKey : List UInt8) : Registration :=
  sampleRegistration "alice" zeroChallenge publicKey

def loginAuthentication : Authentication := sampleAuthentication "alice" fullChallenge 5

theorem login_genuine (publicKey : List UInt8) :
    Genuine sampleExternals sampleConfig (loginRegistration publicKey) fullChallenge
      loginAuthentication where
  userId := rfl
  credentialId := rfl
  challenge := rfl
  rpIdHash := by decide
  up := rfl
  clientData := ⟨"https://app.example.com", by decide, by decide⟩
  signCount := by
    change (1 : UInt32) < 5
    decide

/-- `alice` registers, and logs in ten seconds later with a challenge generated just before. -/
def loginCalls (publicKey : List UInt8) : List (Ceremony Int) :=
  [.generate 0 (sampleBytes 0) "alice" "create",
    .register 1 "1970-01-01T00:00:00+00:00" (loginRegistration publicKey),
    .generate 10000000000 (sampleBytes 255) "alice" "get",
    .authenticate 10000000001 loginAuthentication]

/-- With a key of one byte the login succeeds. -/
theorem keyed_login_accepted :
    let reached := ((ceremonies sampleExternals sampleConfig documentedPort).exec (.new ∅)
      [.generate 0 (sampleBytes 0) "alice" "create"]).1
    let registered := (reached.verifyRegistration sampleExternals sampleConfig documentedPort 1
      "1970-01-01T00:00:00+00:00" (loginRegistration [4])).1
    let challenged := (registered.generateChallenge sampleExternals sampleConfig documentedPort
      10000000000 (sampleBytes 255) "alice" "get").1
    (challenged.verifyAuthentication sampleExternals sampleConfig documentedPort 10000000001
      loginAuthentication).2 = .ok () := by
  intro reached registered challenged
  have registers : (reached.verifyRegistration sampleExternals sampleConfig documentedPort 1
      "1970-01-01T00:00:00+00:00" (loginRegistration [4])).2 =
        .ok ⟨[7], [4], 1, none, "1970-01-01T00:00:00+00:00"⟩ := by
    decide +kernel
  have drawn : sampleEncode (sampleBytes 255).toList = fullChallenge := by decide
  refine (registered_credential_accepted_iff sampleExternals sampleConfig documentedContract ∅
    [.generate 0 (sampleBytes 0) "alice" "create"] [] [] 1 10000000000 10000000001
    "1970-01-01T00:00:00+00:00" (loginRegistration [4]) _ (sampleBytes 255) fullChallenge
    loginAuthentication registered challenged (Prod.ext rfl registers) (by simp)
    (Prod.ext rfl (congrArg Outcome.ok drawn)) (by simp) (login_genuine [4])).mpr ?_
  exact ⟨List.cons_ne_nil 4 [], by decide⟩

/-- Without a key the registration succeeds all the same, and the same login fails. -/
theorem keyless_login_refused :
    ((ceremonies sampleExternals sampleConfig documentedPort).exec (.new ∅) (loginCalls [])).2.map
        (·.reply) =
      [.generated (.ok zeroChallenge),
        .registered (.ok ⟨[7], [], 1, none, "1970-01-01T00:00:00+00:00"⟩),
        .generated (.ok fullChallenge),
        .authenticated (.err .credentialNotFound)] ∧
      Genuine sampleExternals sampleConfig (loginRegistration []) fullChallenge
        loginAuthentication := by
  refine ⟨?_, login_genuine []⟩
  decide +kernel

end AuthKit.WebAuthn
