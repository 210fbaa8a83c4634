import AuthKit.Domain.Poisoning
import AuthKit.WebAuthn.Admission
import AuthKit.WebAuthn.SingleUse
import AuthKit.WebAuthn.Ledger

/-!
# What a run decides about the next verification

Over a store that keeps the documented contract, the bindings and the registry of a reached state
are functions of the history. So whether a verification is accepted can be read off the history: its
challenge is the last one issued for the user and the operation, not used and not expired, and the
credential is new, or was registered and never presented with such a count.
-/
namespace AuthKit.WebAuthn

open Execution AuthKit.Domain

section Bindings

variable {Store Env Answer : Type} (lib : Externals) (config : WebAuthnConfig)
  {port : ChallengeStore Store Env Answer} (contract : Contract port)

/-- The key holds the binding that the history left there. -/
def Held (key : String) (b : Binding) (history : List (Turn Env)) : Prop :=
  Since (Binds config port contract.view key b)
    (fun turn => ¬ Rebinds config key turn ∧ ¬ Consumes config key turn) history

/-- A section that issues nothing and presents nothing leaves what a key holds. -/
private theorem held_quiet (key : String) (b : Binding) (history : List (Turn Env))
    (turn : Turn Env) (issuesNone : issued turn = none)
    (unconsumed : ¬ Consumes config key turn) :
    Held config contract key b (history ++ [turn]) ↔ Held config contract key b history := by
  rw [Held, Since.concat_iff]
  constructor
  · rintro (⟨c, new, _⟩ | ⟨before, _⟩)
    · rw [issuesNone] at new
      cases new
    · exact before
  · intro before
    refine Or.inr ⟨before, ?_, unconsumed⟩
    rintro ⟨c, new, _⟩
    rw [issuesNone] at new
    cases new

private theorem held_issued (key : String) (b : Binding) (history : List (Turn Env))
    (turn : Turn Env) (c : Challenge) (new : issued turn = some c)
    (presentsNone : presented turn = none) :
    Held config contract key b (history ++ [turn]) ↔
      if key = config.keyOf c then
        b = ⟨c.text, PURPOSE,
          contract.clock turn.input.env + ttlNanos config.challengeTtlSecs⟩
      else Held config contract key b history := by
  rw [Held, Since.concat_iff]
  have unconsumed : ¬ Consumes config key turn := by
    rintro ⟨c', shown, _⟩
    rw [presentsNone] at shown
    cases shown
  split
  next mine =>
    constructor
    · rintro (⟨c', new', _, stored⟩ | ⟨_, unbound, _⟩)
      · cases new.symm.trans new'
        exact stored
      · exact absurd ⟨c, new, mine.symm⟩ unbound
    · exact fun stored => Or.inl ⟨c, new, mine.symm, stored⟩
  next other =>
    constructor
    · rintro (⟨c', new', same, _⟩ | ⟨before, _⟩)
      · cases new.symm.trans new'
        exact absurd same.symm other
      · exact before
    · intro before
      refine Or.inr ⟨before, ?_, unconsumed⟩
      rintro ⟨c', new', same⟩
      cases new.symm.trans new'
      exact other same.symm

/-- A challenge that the store lets pass empties its key. -/
private theorem held_consumed (key : String) (b : Binding) (history : List (Turn Env))
    (turn : Turn Env) (c : Challenge) (shown : presented turn = some c)
    (issuesNone : issued turn = none) (moved : ∃ next, turn.outcome = .inl next) :
    Held config contract key b (history ++ [turn]) ↔
      key ≠ config.keyOf c ∧ Held config contract key b history := by
  by_cases mine : key = config.keyOf c
  · rw [Held, Since.concat_iff]
    constructor
    · rintro (⟨c', new, _⟩ | ⟨_, _, unconsumed⟩)
      · rw [issuesNone] at new
        cases new
      · exact absurd ⟨c, shown, mine.symm, moved⟩ unconsumed
    · exact fun other => absurd mine other.1
  · rw [held_quiet config contract key b history turn issuesNone, and_iff_right mine]
    rintro ⟨c', shown', same, _⟩
    cases shown.symm.trans shown'
    exact mine same.symm

/-- One section changes what the store holds as it changes what the history says of it. -/
private theorem held_advance (history : List (Turn Env)) (turn : Turn Env)
    (v v' : WebAuthnVerifier Store)
    (advanced : (verifier lib config port).advance turn.args turn.point turn.input v =
      (v', turn.outcome))
    (before : ∀ key b, contract.binding v.sessionStore key = some b ↔
      Held config contract key b history) (key : String) (b : Binding) :
    contract.binding v'.sessionStore key = some b ↔
      Held config contract key b (history ++ [turn]) := by
  rcases session_cases lib config port turn v v' advanced with
    ⟨c, silent, store, reply⟩ | ⟨c, shown, silent, store, passes⟩ | ⟨store, silent, silent'⟩
  · -- the store of the contract takes every challenge
    rcases reply with ⟨new, _⟩ | ⟨_, refused⟩
    · rw [store, contract.binding_bind, held_issued config contract key b history turn c new silent,
        ← before]
      split
      · rw [Option.some.injEq, eq_comm]
      · rfl
    · exact absurd (contract.bind_ok _ _ _ _ _ _) refused
  · rw [store]
    by_cases matched : ∃ b, contract.binding v.sessionStore (config.keyOf c) = some b ∧
        b.Matches c.text PURPOSE (contract.clock turn.input.env)
    · obtain ⟨passed, emptied⟩ := contract.verify_ok _ _ _ _ _ matched
      rw [emptied, held_consumed config contract key b history turn c shown silent (passes.mpr passed),
        ← before]
      split
      next mine => simp [mine]
      next other => simp [other]
    · obtain ⟨⟨error, failed⟩, unchanged⟩ := contract.verify_err _ _ _ _ _ matched
      rw [unchanged, before, held_quiet config contract key b history turn silent]
      rintro ⟨c', shown', _, moved⟩
      cases shown.symm.trans shown'
      obtain ⟨answer, passed⟩ := passes.mp moved
      rw [failed] at passed
      cases passed
  · rw [store, before, held_quiet config contract key b history turn silent']
    rintro ⟨c', shown', _⟩
    rw [silent] at shown'
    cases shown'

variable (store : Store) (schedule : List (Action Task (Supply Env)))

/-- In every interleaving over a store that keeps the documented contract, a key holds a binding
iff the last section that issued a challenge under it left that binding and no challenge presented
under the key has passed since. -/
theorem bindings_follow_history (empty : ∀ key, contract.binding store key = none)
    (key : String) (b : Binding) :
    contract.binding ((verifier lib config port).run (.new store) schedule).1.shared.sessionStore
        key = some b ↔
      Held config contract key b ((verifier lib config port).run (.new store) schedule).2 := by
  refine (verifier lib config port).invariant
    (fun world history => ∀ key b, contract.binding world.shared.sessionStore key = some b ↔
      Held config contract key b history)
    (.new store) ?_ (fun world history _ _ same _ => same) ?_ schedule key b
  · intro key b
    rw [show contract.binding (World.idle (WebAuthnVerifier.new store)).shared.sessionStore key = none
      from empty key]
    exact iff_of_false (by simp) Since.not_nil
  · intro world history id args point supply shared outcome before _ advanced
    exact held_advance lib config contract history ⟨id, args, point, supply, outcome⟩ world.shared
      shared advanced before

/-- The challenge is the last one issued for its user and operation, no call has used it, and it has
not run out. -/
def Outstanding (c : Challenge) (env : Env) (history : List (Turn Env)) : Prop :=
  Since
    (fun turn => issued turn = some c ∧
      contract.clock env < contract.clock turn.input.env + ttlNanos config.challengeTtlSecs)
    (fun turn => ¬ Supersedes c turn ∧ ¬ Uses c turn) history

/-- What the history left under the key of a challenge matches it iff the challenge is outstanding. -/
theorem held_matches_iff_outstanding (documented : DocumentedOperations schedule) (c : Challenge)
    (ceremony : c.operation = "create" ∨ c.operation = "get") (env : Env) :
    (∃ b, Held config contract (config.keyOf c) b
        ((verifier lib config port).run (.new store) schedule).2 ∧
      b.Matches c.text PURPOSE (contract.clock env)) ↔
      Outstanding config contract c env ((verifier lib config port).run (.new store) schedule).2 := by
  -- under the key of a documented operation there is only one user and one operation
  have owned : ∀ turn ∈ ((verifier lib config port).run (.new store) schedule).2, ∀ c',
      issued turn = some c' → config.keyOf c' = config.keyOf c →
        c'.operation = c.operation ∧ c'.userId = c.userId := by
    intro turn member c' new same
    exact keyOf_inj config c' c
      (documented_operation lib config store schedule documented turn member c' new) ceremony same
  have sameKey : ∀ c' : Challenge, c'.operation = c.operation → c'.userId = c.userId →
      config.keyOf c' = config.keyOf c := by
    intro c' operation user
    simp only [WebAuthnConfig.keyOf, operation, user]
  constructor
  · rintro ⟨b, ⟨start, issue, rest, split, ⟨c', new, same, stored⟩, quiet⟩, text, _, unexpired⟩
    have stored : b = ⟨c'.text, PURPOSE,
      contract.clock issue.input.env + ttlNanos config.challengeTtlSecs⟩ := stored
    rw [stored] at text unexpired
    obtain ⟨operation, user⟩ := owned issue (by rw [split]; simp) c' new same
    obtain rfl : c' = c := Challenge.ext operation user text
    refine ⟨start, issue, rest, split, ⟨new, unexpired⟩, fun turn member => ?_⟩
    obtain ⟨unbound, unconsumed⟩ := quiet turn member
    constructor
    · rintro ⟨later, newer, sameOperation, sameUser⟩
      exact unbound ⟨later, newer, sameKey later sameOperation sameUser⟩
    · rintro ⟨used, shown, sameOperation, sameUser, moved⟩
      exact unconsumed ⟨used, shown, sameKey used sameOperation sameUser, moved⟩
  · rintro ⟨start, issue, rest, split, ⟨new, unexpired⟩, quiet⟩
    refine ⟨⟨c.text, PURPOSE,
      contract.clock issue.input.env + ttlNanos config.challengeTtlSecs⟩,
      ⟨start, issue, rest, split, ⟨c, new, rfl, rfl⟩, fun turn member => ?_⟩, rfl, rfl, unexpired⟩
    obtain ⟨unsuperseded, unused⟩ := quiet turn member
    constructor
    · rintro ⟨later, newer, same⟩
      obtain ⟨operation, user⟩ := owned turn (by rw [split]; simp [member]) later newer same
      exact unsuperseded ⟨later, newer, operation, user⟩
    · rintro ⟨used, shown, same, moved⟩
      obtain ⟨operation, user⟩ :=
        keyOf_inj config used c (presented_operation turn used shown) ceremony same
      exact unused ⟨used, shown, operation, user, moved⟩

/-- The store lets a challenge pass iff it is outstanding. -/
theorem verifyState_ok_iff_outstanding (documented : DocumentedOperations schedule)
    (empty : ∀ key, contract.binding store key = none) (c : Challenge)
    (ceremony : c.operation = "create" ∨ c.operation = "get") (env : Env) :
    (∃ answer, (port.verifyState env (config.keyOf c) c.text PURPOSE
      ((verifier lib config port).run (.new store) schedule).1.shared.sessionStore).2 = .ok answer) ↔
      Outstanding config contract c env ((verifier lib config port).run (.new store) schedule).2 := by
  rw [contract.ok_iff, ← held_matches_iff_outstanding lib config contract store schedule documented c
    ceremony env]
  simp only [bindings_follow_history lib config contract store schedule empty]

end Bindings

section Decided

variable {Store Env Answer : Type} (lib : Externals) (config : WebAuthnConfig)

theorem registrationChecks_ok_iff (r : Registration) :
    registrationChecks lib config r = .ok () ↔
      r.authenticatorData.rpIdHash = lib.sha256 (Text.utf8 config.rpId.toList) ∧
      r.authenticatorData.flags.up = true ∧ r.authenticatorData.flags.uv = true ∧
      ∃ origin ∈ config.allowedOrigins,
        lib.fromStr r.clientDataJson = .ok ⟨"webauthn.create", r.challenge, origin⟩ := by
  rw [← checkClientData_ok_iff]
  unfold registrationChecks checkRpIdHash
  by_cases hash : r.authenticatorData.rpIdHash = lib.sha256 (Text.utf8 config.rpId.toList)
  · cases up : r.authenticatorData.flags.up with
    | false => simp [hash, bind, Except.bind, throw, throwThe, MonadExceptOf.throw]
    | true =>
      cases uv : r.authenticatorData.flags.uv with
      | false => simp [hash, bind, Except.bind, throw, throwThe, MonadExceptOf.throw]
      | true => simp [hash, bind, Except.bind]
  · simp [hash, bind, Except.bind]

/-- Everything that an accepted registration has passed. -/
theorem verifyRegistration_accepts_iff (port : ChallengeStore Store Env Answer) (env : Env)
    (createdAt : String) (r : Registration) (v : WebAuthnVerifier Store)
    (credential : WebAuthnCredential) :
    (v.verifyRegistration lib config port env createdAt r).2 = .ok credential ↔
      registrationChecks lib config r = .ok () ∧
      (∃ answer, (port.verifyState env (config.createKey r.userId) r.challenge PURPOSE
        v.sessionStore).2 = .ok answer) ∧
      v.credentials.contains r.credentialId = false ∧
      credential = ⟨r.credentialId, r.publicKey, r.authenticatorData.signCount, none, createdAt⟩ := by
  rw [← consumeChallenge_ok_iff]
  rcases verifyRegistration_cases lib config port env createdAt r v with
    ⟨error, checked, result⟩ | ⟨checked, refused, _, notOk, result⟩ |
    ⟨checked, passed, taken, result⟩ | ⟨checked, passed, free, result⟩
  · simp [result, checked]
  · simp [result, notOk, refused]
  · simp [result, taken]
  · simp only [result, checked, passed, free, true_and, Outcome.ok.injEq]
    exact eq_comm

variable {port : ChallengeStore Store Env Answer} (contract : Contract port) (store : Store)
  (schedule : List (Action Task (Supply Env)))

/-- In every state that any interleaving reaches, `verify_authentication` returns `Ok` iff its
checks pass, its challenge is outstanding and its count outranks the history. -/
theorem authentication_decided (documented : DocumentedOperations schedule)
    (empty : ∀ key, contract.binding store key = none) (env : Env) (a : Authentication)
    (v : WebAuthnVerifier Store) (history : List (Turn Env))
    (ran : (v, history) = (((verifier lib config port).run (.new store) schedule).1.shared,
      ((verifier lib config port).run (.new store) schedule).2)) :
    (v.verifyAuthentication lib config port env a).2 = .ok () ↔
      (a.authenticatorData.rpIdHash = lib.sha256 (Text.utf8 config.rpId.toList) ∧
        a.authenticatorData.flags.up = true ∧
        ∃ origin ∈ config.allowedOrigins,
          lib.fromStr a.clientDataJson = .ok ⟨"webauthn.get", a.challenge, origin⟩) ∧
      Outstanding config contract ⟨"get", a.userId, a.challenge⟩ env history ∧
      Outranks history a := by
  obtain ⟨rfl, rfl⟩ := Prod.mk.inj ran
  have passes := verifyState_ok_iff_outstanding lib config contract store schedule documented empty
    ⟨"get", a.userId, a.challenge⟩ (Or.inr rfl) env
  rw [show config.keyOf ⟨"get", a.userId, a.challenge⟩ = config.getKey a.userId from
    (config.getKey_eq a.userId).symm] at passes
  rw [verifyAuthentication_accepts_iff, authenticationChecks_ok_iff, passes,
    stored_lower_iff_outranks]

/-- In every state that any interleaving reaches, `verify_registration` returns `Ok` iff its checks
pass, its challenge is outstanding and nobody has inserted its credential id; and what it returns is
what it was given, unlabelled. -/
theorem registration_decided (documented : DocumentedOperations schedule)
    (empty : ∀ key, contract.binding store key = none) (env : Env) (createdAt : String)
    (r : Registration) (credential : WebAuthnCredential)
    (v : WebAuthnVerifier Store) (history : List (Turn Env))
    (ran : (v, history) = (((verifier lib config port).run (.new store) schedule).1.shared,
      ((verifier lib config port).run (.new store) schedule).2)) :
    (v.verifyRegistration lib config port env createdAt r).2 = .ok credential ↔
      (r.authenticatorData.rpIdHash = lib.sha256 (Text.utf8 config.rpId.toList) ∧
        r.authenticatorData.flags.up = true ∧ r.authenticatorData.flags.uv = true ∧
        ∃ origin ∈ config.allowedOrigins,
          lib.fromStr r.clientDataJson = .ok ⟨"webauthn.create", r.challenge, origin⟩) ∧
      Outstanding config contract ⟨"create", r.userId, r.challenge⟩ env history ∧
      r.credentialId ∉ history.filterMap insertedId ∧
      credential = ⟨r.credentialId, r.publicKey, r.authenticatorData.signCount, none, createdAt⟩ := by
  obtain ⟨rfl, rfl⟩ := Prod.mk.inj ran
  have passes := verifyState_ok_iff_outstanding lib config contract store schedule documented empty
    ⟨"create", r.userId, r.challenge⟩ (Or.inl rfl) env
  rw [show config.keyOf ⟨"create", r.userId, r.challenge⟩ = config.createKey r.userId from
    (config.createKey_eq r.userId).symm] at passes
  rw [verifyRegistration_accepts_iff, registrationChecks_ok_iff, passes, ← contains_run_iff lib config
    port store schedule, Bool.not_eq_true]

end Decided

/-! ### Over the repository's own session store -/

section InMemory

variable (lib : Externals) (config : WebAuthnConfig) (store : InMemorySessionStore)
  (healthy : store.poisoned = false)
  (schedule : List (Action Task (Supply InMemorySessionStore.Readings)))

include healthy

theorem poisoned_run_iff :
    ((verifier lib config (.ofPort InMemorySessionStore.port)).run (.new store)
        schedule).1.shared.sessionStore.poisoned = true ↔
      ∃ turn ∈ ((verifier lib config (.ofPort InMemorySessionStore.port)).run (.new store)
        schedule).2, turn.outcome = .inr (.generated .panicked) := by
  refine (verifier lib config (.ofPort InMemorySessionStore.port)).invariant
    (fun world history => world.shared.sessionStore.poisoned = true ↔
      ∃ turn ∈ history, turn.outcome = .inr (.generated .panicked))
    (.new store) ?_ (fun world history _ _ same _ => same) ?_ schedule
  · exact iff_of_false (by simp [World.idle, WebAuthnVerifier.new, healthy]) (by simp)
  · intro world history id args point supply shared outcome before _ advanced
    -- the flag moves only where the section's own outcome says so
    have moved : shared.sessionStore.poisoned = true ↔
        world.shared.sessionStore.poisoned = true ∨ outcome = .inr (.generated .panicked) := by
      cases point with
      | bindChallenge userId operation =>
        cases advanced
        have result := world.shared.sessionStore.bindState_poisoned_iff
          (config.challengeKey operation userId) (lib.encode supply.bytes.toList)
          supply.env.evictNow supply.env.insertNow
        simp only [WebAuthnVerifier.generateChallenge, ChallengeStore.ofPort,
          InMemorySessionStore.port, result, Sum.inr.injEq, Reply.generated.injEq]
        cases (world.shared.sessionStore.bindState (config.challengeKey operation userId)
          (lib.encode supply.bytes.toList) supply.env.evictNow supply.env.insertNow).2 <;>
            simp [Outcome.map, Outcome.mapErr]
      | consumeCreate r =>
        have kept := world.shared.sessionStore.verifyState_poisoned (config.createKey r.userId)
          r.challenge supply.env.evictNow
        obtain ⟨rfl, rfl⟩ := Prod.mk.inj advanced
        rw [or_iff_left]
        · exact iff_of_eq (congrArg (· = true) kept)
        · split <;> simp
      | consumeGet a =>
        have kept := world.shared.sessionStore.verifyState_poisoned (config.getKey a.userId)
          a.challenge supply.env.evictNow
        obtain ⟨rfl, rfl⟩ := Prod.mk.inj advanced
        rw [or_iff_left]
        · exact iff_of_eq (congrArg (· = true) kept)
        · split <;> simp
      | checkUnique r =>
        obtain ⟨rfl, rfl⟩ := Prod.mk.inj advanced
        rw [or_iff_left]
        split <;> simp
      | insert r => cases advanced; simp [WebAuthnVerifier.register]
      | raise a => cases advanced; simp [WebAuthnVerifier.raiseAndVerify]
    rw [moved, before]
    simp only [List.mem_append, List.mem_singleton, or_and_right, exists_or, exists_eq_left]

/-- Over the repository's own session store, in every state that any interleaving reaches,
`verify_authentication` returns `Ok` iff its checks pass, no `generate_challenge` has panicked and
its count outranks the history: whether its challenge was ever issued makes no difference. -/
theorem inMemory_authentication_decided (env : InMemorySessionStore.Readings) (a : Authentication)
    (v : WebAuthnVerifier InMemorySessionStore) (history : List InMemoryTurn)
    (ran : (v, history) =
      (((verifier lib config (.ofPort InMemorySessionStore.port)).run (.new store) schedule).1.shared,
        ((verifier lib config (.ofPort InMemorySessionStore.port)).run (.new store) schedule).2)) :
    (v.verifyAuthentication lib config (.ofPort InMemorySessionStore.port) env a).2 = .ok () ↔
      (a.authenticatorData.rpIdHash = lib.sha256 (Text.utf8 config.rpId.toList) ∧
        a.authenticatorData.flags.up = true ∧
        ∃ origin ∈ config.allowedOrigins,
          lib.fromStr a.clientDataJson = .ok ⟨"webauthn.get", a.challenge, origin⟩) ∧
      (∀ turn ∈ history, turn.outcome ≠ .inr (.generated .panicked)) ∧
      Outranks history a := by
  obtain ⟨rfl, rfl⟩ := Prod.mk.inj ran
  have answered : (∃ answer, ((ChallengeStore.ofPort InMemorySessionStore.port).verifyState env
      (config.getKey a.userId) a.challenge PURPOSE
      ((verifier lib config (.ofPort InMemorySessionStore.port)).run (.new store)
        schedule).1.shared.sessionStore).2 = .ok answer) ↔
      ∀ turn ∈ ((verifier lib config (.ofPort InMemorySessionStore.port)).run (.new store)
        schedule).2, turn.outcome ≠ .inr (.generated .panicked) := by
    rw [← not_iff_not]
    push Not
    rw [← poisoned_run_iff lib config store healthy schedule, ← Bool.not_eq_false]
    exact (not_exists.symm.trans (not_congr (InMemorySessionStore.verifyState_ok_iff _ _ _ _)))
  rw [verifyAuthentication_accepts_iff, authenticationChecks_ok_iff, answered,
    stored_lower_iff_outranks]

end InMemory

/-! ### A login and a registration -/

/-- `alice` has registered a credential and asked for a challenge to log in with. -/
def loginSchedule : List (Action Task (Supply Int)) :=
  uninterrupted 0 ((loginCalls [4]).take 3)

def loginRun : World (WebAuthnVerifier (AList fun _ : String => Binding)) Task Point Reply ×
    List (Turn Int) :=
  (verifier sampleExternals sampleConfig documentedPort).run (.new ∅) loginSchedule

theorem loginSchedule_documented : DocumentedOperations loginSchedule := by
  intro id userId operation made
  simp [loginSchedule, loginCalls, uninterrupted, Ceremony.task, Ceremony.supplies] at made
  rcases made with made | made
  · exact Or.inl made.2.2
  · exact Or.inr made.2.2

theorem login_outranks :
    Outstanding sampleConfig documentedContract ⟨"get", "alice", fullChallenge⟩ (10000000001 : Int)
      loginRun.2 ∧ Outranks loginRun.2 loginAuthentication := by
  have accepted : (loginRun.1.shared.verifyAuthentication sampleExternals sampleConfig
      documentedPort (10000000001 : Int) loginAuthentication).2 = .ok () := by decide +kernel
  exact ((authentication_decided sampleExternals sampleConfig documentedContract ∅ loginSchedule
    loginSchedule_documented (fun _ => rfl) (10000000001 : Int) loginAuthentication
    loginRun.1.shared loginRun.2 (by rw [loginRun])).mp accepted).2

def enrolledRun : World (WebAuthnVerifier (AList fun _ : String => Binding)) Task Point Reply ×
    List (Turn Int) :=
  (verifier sampleExternals sampleConfig documentedPort).run (.new ∅)
    (uninterrupted 0 ((loginCalls [4]).take 1))

theorem enrollment_outstanding :
    Outstanding sampleConfig documentedContract ⟨"create", "alice", zeroChallenge⟩ (2 : Int)
      enrolledRun.2 := by
  have documented : DocumentedOperations (uninterrupted 0 ((loginCalls [4]).take 1)) := by
    intro id userId operation made
    simp [loginCalls, uninterrupted, Ceremony.task, Ceremony.supplies] at made
    exact Or.inl made.2.2
  have accepted : (enrolledRun.1.shared.verifyRegistration sampleExternals sampleConfig
      documentedPort (2 : Int) "" (loginRegistration [4])).2 = .ok ⟨[7], [4], 1, none, ""⟩ := by
    decide +kernel
  exact ((registration_decided sampleExternals sampleConfig documentedContract ∅ _ documented
    (fun _ => rfl) (2 : Int) "" (loginRegistration [4]) _ enrolledRun.1.shared enrolledRun.2
    (by rw [enrolledRun])).mp accepted).2.1

/-- Nobody issued the challenge of this login, and over the repository's store it is accepted. -/
theorem unissued_challenge_accepted :
    oneChallenge ∉ countedRun.2.filterMap (fun turn => (issued turn).map (·.text)) ∧
      (countedRun.1.shared.verifyAuthentication sampleExternals sampleConfig
        (.ofPort InMemorySessionStore.port) sampleReadings
        (sampleAuthentication "alice" oneChallenge 6)).2 = .ok () ∧
      Outranks countedRun.2 (sampleAuthentication "alice" oneChallenge 6) := by
  have accepted : (countedRun.1.shared.verifyAuthentication sampleExternals sampleConfig
      (.ofPort InMemorySessionStore.port) sampleReadings
      (sampleAuthentication "alice" oneChallenge 6)).2 = .ok () := by decide +kernel
  exact ⟨by decide +kernel, accepted,
    ((inMemory_authentication_decided sampleExternals sampleConfig .new rfl countedSchedule
      sampleReadings (sampleAuthentication "alice" oneChallenge 6) countedRun.1.shared countedRun.2
      (by rw [countedRun])).mp accepted).2.2⟩

end AuthKit.WebAuthn
