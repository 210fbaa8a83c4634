import AuthKit.WebAuthn.Admission
import AuthKit.WebAuthn.Counters

/-!
# The decision on the sign count

An assertion with a higher count than the stored one is accepted, and its count is stored. The
counter step of WebAuthn lets one more pair pass: an authenticator without a counter always
presents zero. The verifier turns that pair down like every count that is not higher.
-/
namespace AuthKit.WebAuthn

open Execution AuthKit.Domain

/-- The counter step of the specification. -/
def CounterStep (stored presented : UInt32) : Prop :=
  stored < presented ∨ (stored = 0 ∧ presented = 0)

/-- What the verifier asks of an assertion before it looks at the session store. -/
structure OtherwiseValid (lib : Externals) (config : WebAuthnConfig) (a : Authentication) :
    Prop where
  rpIdHash : a.authenticatorData.rpIdHash = lib.sha256 (Text.utf8 config.rpId.toList)
  up : a.authenticatorData.flags.up = true
  clientData : ∃ origin ∈ config.allowedOrigins,
    lib.fromStr a.clientDataJson = .ok ⟨"webauthn.get", a.challenge, origin⟩

section Decision

variable {Store Env Answer : Type} (lib : Externals) (config : WebAuthnConfig)
  (port : ChallengeStore Store Env Answer)

/-- The session store has the challenge of the assertion. -/
def Live (env : Env) (a : Authentication) (v : WebAuthnVerifier Store) : Prop :=
  ∃ answer, (port.verifyState env (config.getKey a.userId) a.challenge PURPOSE
    v.sessionStore).2 = .ok answer

/-- The count of an accepted assertion is stored. -/
theorem verifyAuthentication_stores (env : Env) (a : Authentication) (v : WebAuthnVerifier Store)
    (cred : WebAuthnCredential)
    (found : v.credentials.stored a.userId a.credentialId = some cred)
    (accepted : (v.verifyAuthentication lib config port env a).2 = .ok ()) :
    (v.verifyAuthentication lib config port env a).1.credentials.stored a.userId a.credentialId =
      some { cred with signCount := a.authenticatorData.signCount } := by
  have kept := consumeChallenge_credentials port env (config.getKey a.userId) a.challenge v
  rcases verifyAuthentication_cases lib config port env a v with
    ⟨_, _, result⟩ | ⟨_, _, _, notOk, result⟩ | ⟨_, _, result⟩
  · rw [result] at accepted
    cases accepted
  · rw [result] at accepted
    exact absurd accepted notOk
  · rw [result]
    rw [result, Outcome.ofExcept_eq_ok_iff, raiseAndVerify_ok_iff, kept] at accepted
    obtain ⟨cred', found', higher, _⟩ := accepted
    cases found.symm.trans found'
    -- of the cases of the write-locked section only the last has a lower count
    unfold WebAuthnVerifier.raiseAndVerify
    rw [kept]
    rcases v.credentials.raiseCount_cases a.userId a.credentialId a.authenticatorData.signCount with
      ⟨absent, _⟩ | ⟨cred', found', low, _⟩ | ⟨_, _, _, raised⟩
    · cases found.symm.trans absent
    · cases found.symm.trans found'
      exact absurd low (UInt32.not_le.mpr higher)
    · rw [raised, Registry.stored_raised, found, Option.map_some, if_pos ⟨rfl, rfl⟩]

/-- For a credential with a key and an otherwise valid assertion the counts decide alone. -/
theorem verifyAuthentication_counts (env : Env) (a : Authentication) (v : WebAuthnVerifier Store)
    (cred : WebAuthnCredential) (valid : OtherwiseValid lib config a)
    (live : Live config port env a v)
    (found : v.credentials.stored a.userId a.credentialId = some cred)
    (keyed : cred.publicKey ≠ []) :
    (v.verifyAuthentication lib config port env a).2 = .ok () ↔
      cred.signCount < a.authenticatorData.signCount := by
  rw [verifyAuthentication_accepts_iff, authenticationChecks_ok_iff]
  constructor
  · rintro ⟨_, _, cred', found', higher, _⟩
    cases found.symm.trans found'
    exact higher
  · intro higher
    exact ⟨⟨valid.rpIdHash, valid.up, valid.clientData⟩, live, cred, found, higher, keyed⟩

/-- The verifier follows the counter step except on two zeros. -/
theorem counterStep_followed_iff (env : Env) (a : Authentication) (v : WebAuthnVerifier Store)
    (cred : WebAuthnCredential) (valid : OtherwiseValid lib config a)
    (live : Live config port env a v)
    (found : v.credentials.stored a.userId a.credentialId = some cred)
    (keyed : cred.publicKey ≠ []) :
    ((v.verifyAuthentication lib config port env a).2 = .ok () ↔
        CounterStep cred.signCount a.authenticatorData.signCount) ↔
      ¬ (cred.signCount = 0 ∧ a.authenticatorData.signCount = 0) := by
  rw [verifyAuthentication_counts lib config port env a v cred valid live found keyed, CounterStep]
  constructor
  · intro same zeros
    have higher := same.mpr (Or.inr zeros)
    rw [zeros.1, zeros.2] at higher
    exact absurd higher (UInt32.lt_irrefl 0)
  · intro counted
    rw [or_iff_left counted]

end Decision

section Runs

variable {Store Env Answer : Type} (lib : Externals) (config : WebAuthnConfig)
  (port : ChallengeStore Store Env Answer) (store : Store)
  (schedule : List (Action Task (Supply Env)))

/-- In every state that an interleaving reaches, an otherwise valid assertion of the credential
that its id selects is accepted iff its count is above the stored one, and then its count is the
stored one; and no assertion that presents zero has been accepted on the way there. -/
theorem higher_count_accepted_iff :
    let run := (verifier lib config port).run (.new store) schedule
    (∀ env a cred, OtherwiseValid lib config a → Live config port env a run.1.shared →
      run.1.shared.credentials.stored a.userId a.credentialId = some cred → cred.publicKey ≠ [] →
      ((run.1.shared.verifyAuthentication lib config port env a).2 = .ok () ↔
        cred.signCount < a.authenticatorData.signCount) ∧
      ((run.1.shared.verifyAuthentication lib config port env a).2 = .ok () →
        (run.1.shared.verifyAuthentication lib config port env a).1.credentials.stored a.userId
            a.credentialId =
          some { cred with signCount := a.authenticatorData.signCount })) ∧
    (∀ userId credentialId, ∀ count ∈ run.2.filterMap (acceptedCount userId credentialId),
      count ≠ 0) := by
  intro run
  refine ⟨?_, ?_⟩
  · intro env a cred valid live found keyed
    exact ⟨verifyAuthentication_counts lib config port env a run.1.shared cred valid live found keyed,
      verifyAuthentication_stores lib config port env a run.1.shared cred found⟩
  · rintro userId credentialId count member rfl
    -- an accepted count lies above the registered one
    have tracked := countsTracked_run lib config port store schedule userId credentialId
    cases found : run.1.shared.credentials.stored userId credentialId with
    | none =>
      rw [(tracked.unregistered found).2] at member
      cases member
    | some cred =>
      obtain ⟨first, _, _, bounds⟩ := tracked.registered cred found
      exact absurd (bounds 0 member).1 (UInt32.not_lt.mpr UInt32.zero_le)

end Runs

/-! ### Registered counts -/

def countedRegistration (challenge : String) (signCount : UInt32) : Registration :=
  { sampleRegistration "alice" challenge [4] with authenticatorData := sampleData signCount }

theorem sampleAuthentication_valid (signCount : UInt32) :
    OtherwiseValid sampleExternals sampleConfig
      (sampleAuthentication "alice" oneChallenge signCount) where
  rpIdHash := by
    change sampleHash = _
    decide
  up := rfl
  clientData := ⟨"https://app.example.com", by decide, by
    change sampleParse (clientDataText (sampleClientData "webauthn.get" oneChallenge)) =
      .ok (sampleClientData "webauthn.get" oneChallenge)
    decide⟩

/-- `alice` registers with the count, and a challenge for her next login is generated. -/
def countedLogin (signCount : UInt32) : List (Action Task (Supply Int)) :=
  [.invoke 0 (.generate "alice" "create"), .advance 0 (clockSupply 0),
    .invoke 1 (.register (countedRegistration zeroChallenge signCount)),
    .advance 1 (clockSupply 1), .advance 1 (clockSupply 1), .advance 1 (clockSupply 1),
    .invoke 2 (.generate "alice" "get"),
    .advance 2 { clockSupply 2 with bytes := sampleBytes 1 }]

/-- Two registrations of one id by `alice` overtake each other, with the counts 1 and 5. -/
def racedLogin : List (Action Task (Supply Int)) :=
  [.invoke 0 (.generate "alice" "create"), .advance 0 (clockSupply 0),
    .invoke 1 (.register (countedRegistration zeroChallenge 1)), .advance 1 (clockSupply 1),
    .invoke 2 (.generate "alice" "create"),
    .advance 2 { clockSupply 2 with bytes := sampleBytes 255 },
    .invoke 3 (.register (countedRegistration fullChallenge 5)), .advance 3 (clockSupply 3),
    .advance 1 (clockSupply 4), .advance 3 (clockSupply 4),
    .advance 1 (clockSupply 5), .advance 3 (clockSupply 5),
    .invoke 4 (.generate "alice" "get"),
    .advance 4 { clockSupply 6 with bytes := sampleBytes 1 }]

theorem counted_login_accepted :
    (((verifier sampleExternals sampleConfig documentedPort).run (.new ∅)
      (countedLogin 1)).1.shared.verifyAuthentication sampleExternals sampleConfig documentedPort 3
        (sampleAuthentication "alice" oneChallenge 5)).2 = .ok () := by
  have decided := (higher_count_accepted_iff sampleExternals sampleConfig documentedPort ∅
    (countedLogin 1)).1 3 (sampleAuthentication "alice" oneChallenge 5)
    ⟨[7], [4], 1, none, "1970-01-01T00:00:00+00:00"⟩ (sampleAuthentication_valid 5)
    ⟨(), by decide +kernel⟩ (by decide +kernel) (by decide)
  exact decided.1.mpr (by decide)

/-- The pair of zeros, which the counter step lets pass, is refused; and where a race has stored an
id twice, the count of the second entry is not looked at. -/
theorem counter_step_missed :
    (let reached := ((verifier sampleExternals sampleConfig documentedPort).run (.new ∅)
        (countedLogin 0)).1.shared
      let a := sampleAuthentication "alice" oneChallenge 0
      OtherwiseValid sampleExternals sampleConfig a ∧
        Live sampleConfig documentedPort 3 a reached ∧
        reached.credentials.listCredentials "alice" =
          [⟨[7], [4], 0, none, "1970-01-01T00:00:00+00:00"⟩] ∧
        CounterStep 0 a.authenticatorData.signCount ∧
        (reached.verifyAuthentication sampleExternals sampleConfig documentedPort 3 a).2 ≠ .ok ()) ∧
    (let reached := ((verifier sampleExternals sampleConfig documentedPort).run (.new ∅)
        racedLogin).1.shared
      let a := sampleAuthentication "alice" oneChallenge 3
      OtherwiseValid sampleExternals sampleConfig a ∧
        Live sampleConfig documentedPort 7 a reached ∧
        ⟨[7], [4], 5, none, "1970-01-01T00:00:00+00:00"⟩ ∈
          reached.credentials.listCredentials "alice" ∧
        ¬ CounterStep 5 a.authenticatorData.signCount ∧
        (reached.verifyAuthentication sampleExternals sampleConfig documentedPort 7 a).2 = .ok ()) := by
  -- two runs from the empty verifier: a registration with count 0, and a raced one
  refine ⟨⟨sampleAuthentication_valid 0, ⟨(), ?_⟩, ?_, Or.inr ⟨rfl, rfl⟩, ?_⟩,
    ⟨sampleAuthentication_valid 3, ⟨(), ?_⟩, ?_, ?_, ?_⟩⟩
  · decide +kernel
  · decide +kernel
  · decide +kernel
  · decide +kernel
  · decide +kernel
  · unfold CounterStep
    decide
  · decide +kernel

end AuthKit.WebAuthn
