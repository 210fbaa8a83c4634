import AuthKit.WebAuthn.Challenges

/-!
# Challenges over the repository's own session store

`verify_state` of the port answers `Ok(false)` for an unknown or mismatched challenge and never
removes a binding; the verifier drops the answer. What is left of single use is what the callers
keep by themselves.
-/
namespace AuthKit.WebAuthn

open Execution AuthKit.Domain

/-- The bindings of the in-memory store. Its `verify_state` evicts but does not consume. -/
def inMemoryView : ChallengeView (.ofPort InMemorySessionStore.port) String where
  binding store key := (store.inner.lookup key).map (·.sessionId)
  stores _ value _ _ b := b = value
  consumes := False
  binding_bind env key value purpose ttlSecs store k b held := by
    change ((store.bindState key value env.evictNow env.insertNow).1.inner.lookup k).map _ = _ at held
    change (_ ∧ (store.bindState key value env.evictNow env.insertNow).2 = _ ∧ _) ∨
      ((_ → (store.bindState key value env.evictNow env.insertNow).2 ≠ _) ∧ _)
    obtain ⟨entry, found, rfl⟩ := Option.map_eq_some_iff.mp held
    -- an entry that survives the eviction was there before
    have kept : (InMemorySessionStore.evictExpired env.evictNow store.inner).lookup k = some entry →
        (store.inner.lookup k).map (·.sessionId) = some entry.sessionId := by
      intro left
      rw [((InMemorySessionStore.lookup_evictExpired _ _ _ _).mp left).1, Option.map_some]
    cases healthy : store.poisoned with
    | true =>
      have result : store.bindState key value env.evictNow env.insertNow =
          (store, .err .poisoned) := by
        simp [InMemorySessionStore.bindState, healthy]
      rw [result] at found ⊢
      exact Or.inr ⟨fun _ => by simp, by rw [found, Option.map_some]⟩
    | false =>
      rcases store.bindState_cases healthy key value env.evictNow env.insertNow with
        ⟨_, result⟩ | ⟨_, ⟨_, result⟩ | ⟨expires, _, result⟩⟩
      · rw [result] at found ⊢
        exact Or.inr ⟨fun _ => by simp, kept found⟩
      · rw [result] at found ⊢
        exact Or.inr ⟨fun _ => by simp, kept found⟩
      · rw [result] at found ⊢
        by_cases same : k = key
        · subst same
          rw [AList.lookup_insert, Option.some.injEq] at found
          exact Or.inl ⟨rfl, rfl, by rw [← found]⟩
        · rw [AList.lookup_insert_ne same] at found
          exact Or.inr ⟨fun equal => absurd equal same, kept found⟩
  binding_verify env key value purpose store k b held := by
    change ((store.verifyState key value env.evictNow).1.inner.lookup k).map _ = _ at held
    refine ⟨?_, fun never => never.elim⟩
    cases healthy : store.poisoned with
    | true => simpa [InMemorySessionStore.verifyState, healthy] using held
    | false =>
      rw [store.verifyState_healthy healthy] at held
      obtain ⟨entry, found, rfl⟩ := Option.map_eq_some_iff.mp held
      rw [((InMemorySessionStore.lookup_evictExpired _ _ _ _).mp found).1, Option.map_some]

abbrev InMemoryTurn := Turn InMemorySessionStore.Readings

/-- The key does not read as a key of another operation: `generate_challenge` formats any text
into it, so that one with colons can run into the user id. -/
def OwnKey (config : WebAuthnConfig) (operation userId : String) : Prop :=
  ((config.createKey "").toList <+: (config.challengeKey operation userId).toList →
    operation = "create") ∧
  ((config.getKey "").toList <+: (config.challengeKey operation userId).toList →
    operation = "get")

/-- What the store does not enforce: unless it is poisoned, the key has an unexpired binding to
the challenge presented, and the challenge has not been presented before. -/
def PresentedOnce (store : InMemorySessionStore) (now : DateTime) (key challenge : String)
    (history : List InMemoryTurn) : Prop :=
  store.poisoned = false →
    (∃ entry ∈ store.inner.lookup key, entry.sessionId = challenge ∧ now < entry.expiresAt) ∧
      ∀ turn ∈ history, (presented turn).map (·.text) ≠ some challenge

/-- The condition on a call's next section: challenges are issued under keys of their own, and
presented as the documentation of the verifier wants it. -/
def KeepsContract (config : WebAuthnConfig) (store : InMemorySessionStore) (now : DateTime)
    (history : List InMemoryTurn) : Option (Call Task Point Reply) → Prop
  | some (.running _ (.bindChallenge userId operation)) => OwnKey config operation userId
  | some (.running _ (.consumeCreate r)) =>
      PresentedOnce store now (config.createKey r.userId) r.challenge history
  | some (.running _ (.consumeGet a)) =>
      PresentedOnce store now (config.getKey a.userId) a.challenge history
  | _ => True

instance (config : WebAuthnConfig) (operation userId : String) :
    Decidable (OwnKey config operation userId) := inferInstanceAs (Decidable (_ ∧ _))

instance (store : InMemorySessionStore) (now : DateTime) (key challenge : String)
    (history : List InMemoryTurn) : Decidable (PresentedOnce store now key challenge history) :=
  inferInstanceAs (Decidable (_ → _))

instance (config : WebAuthnConfig) (store : InMemorySessionStore) (now : DateTime)
    (history : List InMemoryTurn) : (call : Option (Call Task Point Reply)) →
      Decidable (KeepsContract config store now history call)
  | some (.running _ (.bindChallenge userId operation)) =>
      inferInstanceAs (Decidable (OwnKey config operation userId))
  | some (.running _ (.consumeCreate r)) =>
      inferInstanceAs (Decidable (PresentedOnce store now (config.createKey r.userId) r.challenge
        history))
  | some (.running _ (.consumeGet a)) =>
      inferInstanceAs (Decidable (PresentedOnce store now (config.getKey a.userId) a.challenge
        history))
  | some (.running _ (.checkUnique _)) => inferInstanceAs (Decidable True)
  | some (.running _ (.insert _)) => inferInstanceAs (Decidable True)
  | some (.running _ (.raise _)) => inferInstanceAs (Decidable True)
  | some (.returned _ _) => inferInstanceAs (Decidable True)
  | none => inferInstanceAs (Decidable True)

/-- The condition on one action, in the world and with the history it is taken in. -/
def ActionKeeps (config : WebAuthnConfig)
    (now : World (WebAuthnVerifier InMemorySessionStore) Task Point Reply × List InMemoryTurn) :
    Action Task (Supply InMemorySessionStore.Readings) → Prop
  | .invoke _ _ => True
  | .advance id supply =>
      KeepsContract config now.1.shared.sessionStore supply.env.evictNow now.2 (now.1.calls id)

instance (config : WebAuthnConfig)
    (now : World (WebAuthnVerifier InMemorySessionStore) Task Point Reply × List InMemoryTurn) :
    (action : Action Task (Supply InMemorySessionStore.Readings)) →
      Decidable (ActionKeeps config now action)
  | .invoke _ _ => inferInstanceAs (Decidable True)
  | .advance _ _ => inferInstanceAs (Decidable (KeepsContract _ _ _ _ _))

theorem OwnKey.operation_eq (config : WebAuthnConfig) (c c' : Challenge)
    (own : OwnKey config c.operation c.userId) (sameKey : config.keyOf c = config.keyOf c')
    (ceremony : c'.operation = "create" ∨ c'.operation = "get") : c.operation = c'.operation := by
  rcases ceremony with create | get
  · have key : config.challengeKey c.operation c.userId = config.createKey c'.userId := by
      rw [config.createKey_eq, ← create]
      exact sameKey
    rw [create]
    exact own.1 ⟨c'.userId.toList, by rw [key, ← config.createKey_toList]⟩
  · have key : config.challengeKey c.operation c.userId = config.getKey c'.userId := by
      rw [config.getKey_eq, ← get]
      exact sameKey
    rw [get]
    exact own.2 ⟨c'.userId.toList, by rw [key, ← config.getKey_toList]⟩

section Runs

variable (lib : Externals) (config : WebAuthnConfig) (store : InMemorySessionStore)
  (schedule : List (Action Task (Supply InMemorySessionStore.Readings)))

/-- The verifier over the repository's store. -/
abbrev inMemoryVerifier : Procedure (WebAuthnVerifier InMemorySessionStore) Task
    (Supply InMemorySessionStore.Readings) Point Reply :=
  verifier lib config (.ofPort InMemorySessionStore.port)

/-- Every action of the run meets the condition. -/
def ContractKept : Prop :=
  ∀ earlier action rest, schedule = earlier ++ action :: rest →
    ActionKeeps config ((inMemoryVerifier lib config).run (.new store) earlier) action

theorem ContractKept.earlier (kept : ContractKept lib config store schedule)
    (first rest : List (Action Task (Supply InMemorySessionStore.Readings)))
    (split : schedule = first ++ rest) : ContractKept lib config store first := by
  intro earlier action rest' same
  exact kept earlier action (rest' ++ rest) (by rw [split, same]; simp)

/-- A run is checked one action after the other. -/
theorem contractKept_of_take
    (each : ∀ n, ∀ _ : n < schedule.length, ActionKeeps config
      ((inMemoryVerifier lib config).run (.new store) (schedule.take n)) schedule[n]) :
    ContractKept lib config store schedule :=
  forall_split_of_take schedule each

theorem ContractKept.ownKey (kept : ContractKept lib config store schedule)
    (turn : InMemoryTurn) (member : turn ∈ ((inMemoryVerifier lib config).run (.new store) schedule).2)
    (c : Challenge) (new : issued turn = some c) : OwnKey config c.operation c.userId := by
  obtain ⟨before, after, split⟩ := List.append_of_mem member
  obtain ⟨earlier, rest, prefixed, _, running, _⟩ :=
    (inMemoryVerifier lib config).reached _ schedule before after turn split
  have step := kept earlier _ rest prefixed
  rw [issued_cases turn c new] at running
  simpa only [ActionKeeps, KeepsContract, running] using step

/-- A challenge that passes the session store is unexpired there and was never presented
before. -/
theorem ContractKept.passed (kept : ContractKept lib config store schedule)
    (before after : List InMemoryTurn) (turn : InMemoryTurn) (c : Challenge)
    (split : ((inMemoryVerifier lib config).run (.new store) schedule).2 = before ++ turn :: after)
    (shown : presented turn = some c) (moved : ∃ next, turn.outcome = .inl next) :
    ∃ earlier rest, schedule = earlier ++ rest ∧
      ((inMemoryVerifier lib config).run (.new store) earlier).2 = before ∧
      inMemoryView.binding ((inMemoryVerifier lib config).run (.new store) earlier).1.shared.sessionStore
        (config.keyOf c) = some c.text ∧
      ∀ turn ∈ before, ∀ c', presented turn = some c' → c'.text ≠ c.text := by
  obtain ⟨earlier, rest, prefixed, historyEq, running, outcome⟩ :=
    (inMemoryVerifier lib config).reached _ schedule before after turn split
  have step := kept earlier _ rest prefixed
  rw [ActionKeeps, historyEq] at step
  refine ⟨earlier, _, prefixed, historyEq, ?_⟩
  generalize ((inMemoryVerifier lib config).run (.new store) earlier).1 = world
    at running outcome step ⊢
  -- the store answered, so it is not poisoned
  have healthy : world.shared.sessionStore.poisoned = false := by
    obtain ⟨answer, passed⟩ := presented_passes lib config (.ofPort InMemorySessionStore.port) turn c
      world.shared _ (Prod.ext rfl outcome) shown moved
    by_contra poisoned
    have result : (world.shared.sessionStore.verifyState (config.keyOf c) c.text
        turn.input.env.evictNow).2 = .err .poisoned := by
      simp [InMemorySessionStore.verifyState, Bool.eq_true_of_not_eq_false poisoned]
    cases result.symm.trans passed
  have agrees : PresentedOnce world.shared.sessionStore turn.input.env.evictNow (config.keyOf c)
      c.text before := by
    rcases presented_cases turn c shown with ⟨r, point, rfl⟩ | ⟨a, point, rfl⟩
    · rw [point] at running
      simp only [KeepsContract, running, config.createKey_eq] at step
      exact step
    · rw [point] at running
      simp only [KeepsContract, running, config.getKey_eq] at step
      exact step
  obtain ⟨⟨entry, bound, text, _⟩, fresh⟩ := agrees healthy
  refine ⟨by simp [inMemoryView, Option.mem_def.mp bound, text], ?_⟩
  intro earlierTurn member c' shown' same
  exact fresh earlierTurn member (by rw [shown', Option.map_some, same])

theorem ContractKept.standing (kept : ContractKept lib config store schedule)
    (empty : store.inner = ∅) (before after : List InMemoryTurn) (turn : InMemoryTurn)
    (c : Challenge)
    (split : ((inMemoryVerifier lib config).run (.new store) schedule).2 = before ++ turn :: after)
    (shown : presented turn = some c) (moved : ∃ next, turn.outcome = .inl next) :
    Standing c before := by
  obtain ⟨earlier, rest, prefixed, rfl, bound, _⟩ :=
    kept.passed lib config store schedule before after turn c split shown moved
  have keptEarlier := kept.earlier lib config store schedule earlier rest prefixed
  have noBinding : ∀ key, inMemoryView.binding store key = none := by
    intro key
    simp [inMemoryView, empty]
  obtain ⟨first, binder, between, historyEq, ⟨c', new, sameKey, sameText⟩, quiet⟩ :=
    backed_run lib config _ store earlier inMemoryView noBinding (config.keyOf c) c.text bound
  -- the key determines the operation, the user and, with the binding, the text
  have own := keptEarlier.ownKey lib config store earlier binder (by simp [historyEq]) c' new
  have same : c' = c := by
    have operation := own.operation_eq config c' c sameKey
      (presented_operation turn c shown)
    rw [WebAuthnConfig.keyOf, WebAuthnConfig.keyOf, operation] at sameKey
    exact Challenge.ext operation (config.challengeKey_inj_user _ _ _ sameKey) sameText.symm
  refine ⟨first, binder, between, historyEq, same ▸ new, fun later member superseded => ?_⟩
  obtain ⟨c'', new'', operation', userId'⟩ := superseded
  refine (quiet later member).1 ⟨c'', new'', ?_⟩
  rw [WebAuthnConfig.keyOf, operation', userId', WebAuthnConfig.keyOf]

/-- In every run over the repository's store whose steps meet the condition: a verification
that returns `Ok` presented a challenge that was issued for its user and operation and had not
been superseded, and no two of them used the same challenge. -/
theorem challenges_single_use (ttl : Duration) (maxEntries : Nat)
    (kept : ContractKept lib config (.withCapacity ttl maxEntries) schedule)
    (history : List InMemoryTurn)
    (ran : history = ((inMemoryVerifier lib config).run (.new (.withCapacity ttl maxEntries))
      schedule).2) :
    (∀ before turn after c, history = before ++ turn :: after → accepted turn = some c →
      ∃ first consumption between, before = first ++ consumption :: between ∧
        consumption.id = turn.id ∧ presented consumption = some c ∧ Standing c first) ∧
    (∀ turn ∈ history, ∀ turn' ∈ history, ∀ c c', accepted turn = some c →
      accepted turn' = some c' → c.text = c'.text → turn.id = turn'.id) := by
  subst ran
  constructor
  · intro before turn after c split accept
    obtain ⟨first, consumption, between, rfl, sameId, shown, moved⟩ :=
      accepted_presented lib config _ _ schedule before after turn c split accept
    rw [List.append_assoc] at split
    exact ⟨first, consumption, between, rfl, sameId, shown,
      kept.standing lib config _ schedule rfl first _ consumption c split shown moved⟩
  · intro turn member turn' member' c c' accept accept' sameText
    obtain ⟨before, after, split⟩ := List.append_of_mem member
    obtain ⟨before', after', split'⟩ := List.append_of_mem member'
    obtain ⟨first, u, between, rfl, sameId, shown, moved⟩ :=
      accepted_presented lib config _ _ schedule before after turn c split accept
    obtain ⟨first', u', between', rfl, sameId', shown', moved'⟩ :=
      accepted_presented lib config _ _ schedule before' after' turn' c' split' accept'
    rw [List.append_assoc, List.cons_append] at split split'
    -- two presentations of one text: the later one breaks the condition
    have place : u' ∈ first ++ u :: (between ++ turn :: after) := by
      rw [← split, split']
      simp
    rcases List.mem_append.mp place with early | place
    · obtain ⟨_, _, _, _, _, fresh⟩ :=
        kept.passed lib config _ schedule first _ u c split shown moved
      exact absurd sameText.symm (fresh u' early c' shown')
    · rcases List.mem_cons.mp place with rfl | late
      · exact sameId.symm.trans sameId'
      · -- `u'` comes later, so it finds `u` among the earlier presentations
        obtain ⟨middle, last, rest⟩ := List.append_of_mem late
        obtain ⟨_, _, _, _, _, fresh⟩ :=
          kept.passed lib config _ schedule (first ++ u :: middle) last u' c'
            (by rw [split, rest]; simp) shown' moved'
        exact absurd sameText (fresh u (by simp) c shown)

end Runs

/-! ### A kept contract, and forged challenges -/

/-- `alice` is issued a challenge and registers with it. -/
def honestRegistration : List (Action Task (Supply InMemorySessionStore.Readings)) :=
  [.invoke 0 (.generate "alice" "create"), .advance 0 (sampleSupply 0),
    .invoke 1 (.register (sampleRegistration "alice" zeroChallenge [4])),
    .advance 1 (sampleSupply 0), .advance 1 (sampleSupply 0), .advance 1 (sampleSupply 0)]

/-- Two registrations with a challenge that nobody issued. -/
def forgedRegistrations : List (Action Task (Supply InMemorySessionStore.Readings)) :=
  [.invoke 0 (.register (sampleRegistration "alice" zeroChallenge [4])),
    .advance 0 (sampleSupply 0), .advance 0 (sampleSupply 0), .advance 0 (sampleSupply 0),
    .invoke 1 (.register { sampleRegistration "alice" zeroChallenge [4] with credentialId := [8] }),
    .advance 1 (sampleSupply 0), .advance 1 (sampleSupply 0), .advance 1 (sampleSupply 0)]

/-- The accepted challenge was standing when it was presented. -/
theorem honest_registration_standing :
    ∃ first consumption rest, ((inMemoryVerifier sampleExternals sampleConfig).run
        (.new (.withCapacity (.minutes 15) 65536)) honestRegistration).2 =
          first ++ consumption :: rest ∧
      presented consumption = some ⟨"create", "alice", zeroChallenge⟩ ∧
      Standing ⟨"create", "alice", zeroChallenge⟩ first := by
  have kept : ContractKept sampleExternals sampleConfig (.withCapacity (.minutes 15) 65536)
      honestRegistration := by
    apply contractKept_of_take
    decide +kernel
  have accepts : ⟨"create", "alice", zeroChallenge⟩ ∈
      ((inMemoryVerifier sampleExternals sampleConfig).run
        (.new (.withCapacity (.minutes 15) 65536)) honestRegistration).2.filterMap accepted := by
    decide +kernel
  obtain ⟨turn, member, accept⟩ := List.mem_filterMap.mp accepts
  obtain ⟨before, after, split⟩ := List.append_of_mem member
  obtain ⟨first, consumption, between, rfl, _, shown, standing⟩ :=
    (challenges_single_use _ _ _ _ _ kept _ rfl).1 before turn after _ split accept
  exact ⟨first, consumption, between ++ turn :: after, by rw [split]; simp, shown, standing⟩

theorem forged_challenge_accepted_twice :
    let history := ((inMemoryVerifier sampleExternals sampleConfig).run
      (.new (.withCapacity (.minutes 15) 65536)) forgedRegistrations).2
    history.filterMap issued = [] ∧
      history.filterMap accepted =
        [⟨"create", "alice", zeroChallenge⟩, ⟨"create", "alice", zeroChallenge⟩] := by
  decide +kernel

end AuthKit.WebAuthn
