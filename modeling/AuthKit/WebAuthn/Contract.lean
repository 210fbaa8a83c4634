import AuthKit.WebAuthn.Challenges
import Mathlib.Data.Set.Function
import Mathlib.Tactic.Choose

/-!
# Challenges over the session store that the verifier documents

The verifier was written for a store whose `bind_state` overwrites the binding of a key with one
that expires, and whose `verify_state` fails on a mismatch and consumes the binding on success.
Over such a store accepted calls are paired with the calls that issued their challenges.
-/
namespace AuthKit.WebAuthn

open Execution AuthKit.Domain

structure Binding where
  value : String
  purpose : String
  expires : Int
  deriving DecidableEq

/-- A binding that `verify_state` has to accept. -/
def Binding.Matches (value purpose : String) (now : Int) (b : Binding) : Prop :=
  b.value = value ∧ b.purpose = purpose ∧ now < b.expires

instance (value purpose : String) (now : Int) (b : Binding) :
    Decidable (b.Matches value purpose now) := inferInstanceAs (Decidable (_ ∧ _ ∧ _))

/-- Nanoseconds. -/
def ttlNanos (ttlSecs : UInt64) : Int := ttlSecs.toNat * 1000000000

/-- The contract of the store. `clock` is the time in nanoseconds that a call reads. -/
structure Contract {Store Env Answer : Type} (port : ChallengeStore Store Env Answer) where
  clock : Env → Int
  binding : Store → String → Option Binding
  bind_ok : ∀ env key value purpose ttlSecs store,
    (port.bindState env key value purpose ttlSecs store).2 = .ok ()
  binding_bind : ∀ env key value purpose ttlSecs store k,
    binding (port.bindState env key value purpose ttlSecs store).1 k =
      if k = key then some ⟨value, purpose, clock env + ttlNanos ttlSecs⟩ else binding store k
  verify_ok : ∀ env key value purpose store,
    (∃ b, binding store key = some b ∧ b.Matches value purpose (clock env)) →
      (∃ answer, (port.verifyState env key value purpose store).2 = .ok answer) ∧
        ∀ k, binding (port.verifyState env key value purpose store).1 k =
          if k = key then none else binding store k
  verify_err : ∀ env key value purpose store,
    (¬ ∃ b, binding store key = some b ∧ b.Matches value purpose (clock env)) →
      (∃ error, (port.verifyState env key value purpose store).2 = .err error) ∧
        ∀ k, binding (port.verifyState env key value purpose store).1 k = binding store k

section View

variable {Store Env Answer : Type} {port : ChallengeStore Store Env Answer}
  (contract : Contract port)

/-- The store answers `Ok` only to a matching binding. -/
theorem Contract.matches_of_ok (env : Env) (key value purpose : String) (store : Store)
    (answer : Answer) (passed : (port.verifyState env key value purpose store).2 = .ok answer) :
    ∃ b, contract.binding store key = some b ∧ b.Matches value purpose (contract.clock env) := by
  by_contra unmatched
  obtain ⟨⟨error, failed⟩, _⟩ := contract.verify_err env key value purpose store unmatched
  rw [failed] at passed
  cases passed

def Contract.view : ChallengeView port Binding where
  binding := contract.binding
  stores env value purpose ttlSecs b := b = ⟨value, purpose, contract.clock env + ttlNanos ttlSecs⟩
  consumes := True
  binding_bind env key value purpose ttlSecs store k b held := by
    rw [contract.binding_bind] at held
    split at held
    next same => exact Or.inl ⟨same, contract.bind_ok _ _ _ _ _ _, (Option.some.inj held).symm⟩
    next other => exact Or.inr ⟨fun same => absurd same other, held⟩
  binding_verify env key value purpose store k b held := by
    by_cases matched : ∃ b, contract.binding store key = some b ∧
        b.Matches value purpose (contract.clock env)
    · rw [(contract.verify_ok env key value purpose store matched).2] at held
      split at held
      next => cases held
      next other => exact ⟨held, fun _ same => absurd same other⟩
    · obtain ⟨⟨error, failed⟩, unchanged⟩ :=
        contract.verify_err env key value purpose store matched
      rw [unchanged] at held
      exact ⟨held, fun _ _ answer => by simp [failed]⟩

end View

section Pairing

variable {Store Env Answer : Type} (lib : Externals) (config : WebAuthnConfig)
  {port : ChallengeStore Store Env Answer} (contract : Contract port)

/-- The session store let a challenge of the user and operation of `c` pass. -/
def Uses (c : Challenge) (turn : Turn Env) : Prop :=
  ∃ used, presented turn = some used ∧ used.operation = c.operation ∧ used.userId = c.userId ∧
    ∃ next, turn.outcome = .inl next

/-- A call presented `c`, which the call named `generation` had issued less than the time to live
before, and which no call had superseded or used in between. -/
def Answers (history : List (Turn Env)) (c : Challenge) (call generation : Nat) : Prop :=
  ∃ start issue between consumption rest,
    history = start ++ issue :: (between ++ consumption :: rest) ∧
    issue.id = generation ∧ issued issue = some c ∧
    (∀ turn ∈ between, ¬ Supersedes c turn ∧ ¬ Uses c turn) ∧
    consumption.id = call ∧ presented consumption = some c ∧
    (∃ next, consumption.outcome = .inl next) ∧
    contract.clock consumption.input.env <
      contract.clock issue.input.env + ttlNanos config.challengeTtlSecs

variable (store : Store) (schedule : List (Action Task (Supply Env)))

/-- Every call of `generate_challenge` is for one of the two documented operations. -/
def DocumentedOperations : Prop :=
  ∀ id userId operation, .invoke id (.generate userId operation) ∈ schedule →
    operation = "create" ∨ operation = "get"

theorem documented_operation (documented : DocumentedOperations schedule)
    (turn : Turn Env) (member : turn ∈ ((verifier lib config port).run (.new store) schedule).2)
    (c : Challenge) (new : issued turn = some c) : c.operation = "create" ∨ c.operation = "get" := by
  obtain ⟨before, after, split⟩ := List.append_of_mem member
  have point := issued_cases turn c new
  have started := first_section lib config port _ schedule before after turn split
    (by rw [point]; rfl)
  obtain ⟨earlier, rest, prefixed, _, running, _⟩ :=
    (verifier lib config port).reached _ schedule before after turn split
  have made := (verifier lib config port).invoked _ earlier turn.id _ running
  -- only a call of `generate_challenge` starts with this section
  have args : turn.args = .generate c.userId c.operation := by
    rw [point] at started
    cases task : turn.args with
    | generate userId operation =>
      rw [task] at started
      cases started
      rfl
    | register r =>
      rw [task] at started
      simp only [startTask] at started
      split at started <;> cases started
    | authenticate a =>
      rw [task] at started
      simp only [startTask] at started
      split at started <;> cases started
  rw [Call.args, args] at made
  exact documented turn.id c.userId c.operation (prefixed ▸ List.mem_append_left _ made)

/-- Challenges of documented operations that are stored under one key are for one user and one
operation. -/
theorem keyOf_inj (c c' : Challenge) (ceremony : c.operation = "create" ∨ c.operation = "get")
    (ceremony' : c'.operation = "create" ∨ c'.operation = "get")
    (sameKey : config.keyOf c = config.keyOf c') :
    c.operation = c'.operation ∧ c.userId = c'.userId := by
  have word : ∀ operation, operation = "create" ∨ operation = "get" → ':' ∉ operation.toList := by
    rintro operation (rfl | rfl) <;> simp
  exact config.challengeKey_inj _ _ _ _ (word _ ceremony) (word _ ceremony') sameKey

/-- A challenge that passes the store was issued for its user and operation, recently, and
neither superseded nor used since. -/
theorem consumption_answered (documented : DocumentedOperations schedule)
    (empty : ∀ key, contract.binding store key = none) (before after : List (Turn Env))
    (turn : Turn Env) (c : Challenge)
    (split : ((verifier lib config port).run (.new store) schedule).2 = before ++ turn :: after)
    (shown : presented turn = some c) (moved : ∃ next, turn.outcome = .inl next) :
    ∃ generation, Answers config contract
      ((verifier lib config port).run (.new store) schedule).2 c turn.id generation := by
  obtain ⟨earlier, rest, prefixed, historyEq, running, outcome⟩ :=
    (verifier lib config port).reached _ schedule before after turn split
  have backed := backed_run lib config port store earlier contract.view empty (config.keyOf c)
  rw [historyEq] at backed
  -- the store let it pass, so there was a matching binding
  have found : ∃ b, contract.binding
      ((verifier lib config port).run (.new store) earlier).1.shared.sessionStore (config.keyOf c) =
        some b ∧ b.Matches c.text PURPOSE (contract.clock turn.input.env) := by
    obtain ⟨answer, passed⟩ :=
      presented_passes lib config port turn c _ _ (Prod.ext rfl outcome) shown moved
    exact contract.matches_of_ok _ _ _ _ _ answer passed
  -- and that binding was put there by the last section that issued under the key
  obtain ⟨b, bound, text, _, unexpired⟩ := found
  obtain ⟨start, issue, between, rfl, ⟨c', new, sameKey, stored⟩, quiet⟩ := backed b bound
  have stored : b = ⟨c'.text, PURPOSE,
    contract.clock issue.input.env + ttlNanos config.challengeTtlSecs⟩ := stored
  have member : issue ∈ ((verifier lib config port).run (.new store) schedule).2 := by
    rw [split]
    simp
  obtain ⟨operation, userId⟩ := keyOf_inj config c' c
    (documented_operation lib config store schedule documented issue member c' new)
    (presented_operation turn c shown) sameKey
  have sameText : c'.text = c.text := by rw [← text, stored]
  obtain rfl : c' = c := Challenge.ext operation userId sameText
  refine ⟨issue.id, start, issue, between, turn, after, by rw [split]; simp, rfl, new, ?_, rfl, shown,
    moved, by rw [stored] at unexpired; exact unexpired⟩
  intro other inside
  obtain ⟨unissued, unused⟩ := quiet other inside
  constructor
  · rintro ⟨later, newer, sameOperation, sameUser⟩
    exact unissued ⟨later, newer, by simp only [WebAuthnConfig.keyOf, sameOperation, sameUser]⟩
  · rintro ⟨used, shown', sameOperation, sameUser, went⟩
    exact unused trivial ⟨used, shown', by simp only [WebAuthnConfig.keyOf, sameOperation, sameUser],
      went⟩

theorem issued_returns (turn : Turn Env) (c : Challenge) (new : issued turn = some c) :
    turn.returnedId = some turn.id := by
  unfold issued at new
  split at new
  next outcome => exact (Section.returnedId_eq_some_iff turn _).mpr ⟨rfl, _, outcome⟩
  next => cases new

/-- One issued challenge answers at most one call. -/
theorem answers_inj (c c' : Challenge) (call call' generation : Nat)
    (answers : Answers config contract
      ((verifier lib config port).run (.new store) schedule).2 c call generation)
    (answers' : Answers config contract
      ((verifier lib config port).run (.new store) schedule).2 c' call' generation) :
    call = call' := by
  obtain ⟨start, issue, between, consumption, rest, split, sameId, new, quiet, rfl, shown, moved, _⟩ :=
    answers
  obtain ⟨start', issue', between', consumption', rest', split', sameId', new', quiet', rfl, shown',
    moved', _⟩ := answers'
  -- the two calls that issued are one
  obtain ⟨_, rfl, tail⟩ := split_unique ((verifier lib config port).returns_once _ schedule) split
    split' (issued_returns issue c new)
    ((issued_returns issue' c' new').trans (by rw [sameId', sameId]))
  cases new.symm.trans new'
  -- of two uses after it, the earlier would lie between the generation and the later
  rcases List.append_eq_append_iff.mp tail with ⟨middle, later, head⟩ | ⟨middle, later, head⟩
  · cases middle with
    | nil => rw [(List.cons.inj head).1]
    | cons first middle =>
      obtain ⟨rfl, _⟩ := List.cons.inj head
      exact absurd ⟨c, shown, rfl, rfl, moved⟩ (quiet' consumption (by simp [later])).2
  · cases middle with
    | nil => rw [(List.cons.inj head).1]
    | cons first middle =>
      obtain ⟨rfl, _⟩ := List.cons.inj head
      exact absurd ⟨c, shown', rfl, rfl, moved'⟩ (quiet consumption' (by simp [later])).2

theorem accepted_returns (turn : Turn Env) (c : Challenge) (accept : accepted turn = some c) :
    turn.returnedId = some turn.id := by
  unfold accepted at accept
  split at accept
  next outcome => exact (Section.returnedId_eq_some_iff turn _).mpr ⟨rfl, _, outcome⟩
  next outcome => exact (Section.returnedId_eq_some_iff turn _).mpr ⟨rfl, _, outcome⟩
  next => cases accept

/-- A call is accepted in one section only. -/
theorem accepted_unique (turn turn' : Turn Env) (c c' : Challenge)
    (member : turn ∈ ((verifier lib config port).run (.new store) schedule).2)
    (member' : turn' ∈ ((verifier lib config port).run (.new store) schedule).2)
    (accept : accepted turn = some c) (accept' : accepted turn' = some c')
    (same : turn'.id = turn.id) : turn' = turn := by
  obtain ⟨before, after, split⟩ := List.append_of_mem member
  obtain ⟨before', after', split'⟩ := List.append_of_mem member'
  have returns := accepted_returns turn c accept
  have returns' := accepted_returns turn' c' accept'
  rw [same] at returns'
  exact (split_unique ((verifier lib config port).returns_once _ schedule) split split' returns
    returns').2.1.symm

theorem accepted_answered (documented : DocumentedOperations schedule)
    (empty : ∀ key, contract.binding store key = none) (turn : Turn Env) (c : Challenge)
    (member : turn ∈ ((verifier lib config port).run (.new store) schedule).2)
    (accept : accepted turn = some c) :
    ∃ generation, Answers config contract
      ((verifier lib config port).run (.new store) schedule).2 c turn.id generation := by
  obtain ⟨before, after, split⟩ := List.append_of_mem member
  obtain ⟨first, consumption, between, rfl, sameId, shown, moved⟩ :=
    accepted_presented lib config port store schedule before after turn c split accept
  rw [List.append_assoc] at split
  rw [← sameId]
  exact consumption_answered lib config contract store schedule documented empty first _ consumption
    c split shown moved

/-- Each call has one generation that answers it, whichever of its sections is looked at. -/
private theorem call_answered (documented : DocumentedOperations schedule)
    (empty : ∀ key, contract.binding store key = none) (call : Nat) :
    ∃ generation, ∀ turn ∈ ((verifier lib config port).run (.new store) schedule).2,
      turn.id = call → ∀ c, accepted turn = some c →
        Answers config contract ((verifier lib config port).run (.new store) schedule).2 c call
          generation := by
  by_cases any : ∃ turn ∈ ((verifier lib config port).run (.new store) schedule).2,
      turn.id = call ∧ ∃ c, accepted turn = some c
  · obtain ⟨turn, member, rfl, c, accept⟩ := any
    obtain ⟨generation, answers⟩ :=
      accepted_answered lib config contract store schedule documented empty turn c member accept
    refine ⟨generation, fun turn' member' same c' accept' => ?_⟩
    obtain rfl :=
      accepted_unique lib config store schedule turn turn' c c' member member' accept accept' same
    cases accept.symm.trans accept'
    exact answers
  · exact ⟨0, fun turn member same c accept => absurd ⟨turn, member, same, c, accept⟩ any⟩

/-- When no text is issued twice, equal texts were issued by one call. -/
theorem generation_unique (history : List (Turn Env))
    (fresh : (history.filterMap fun turn => (issued turn).map (·.text)).Nodup) (c c' : Challenge)
    (call call' generation generation' : Nat)
    (answers : Answers config contract history c call generation)
    (answers' : Answers config contract history c' call' generation') (sameText : c.text = c'.text) :
    generation = generation' := by
  obtain ⟨_, issue, _, _, _, split, rfl, new, _⟩ := answers
  obtain ⟨_, issue', _, _, _, split', rfl, new', _⟩ := answers'
  have text : (issued issue).map (·.text) = some c.text := by rw [new, Option.map_some]
  have text' : (issued issue').map (·.text) = some c.text := by
    rw [new', Option.map_some, sameText]
  rw [(split_unique fresh split split' text text').2.1]

/-- Over a store that keeps the documented contract, in every interleaving: the calls that return
`Ok` are paired one to one with calls of `generate_challenge` that issued their challenges for
the same user and operation, recently, and not superseded; and when no two issued challenges are
equal, at most one call is accepted with each. -/
theorem accepted_calls_paired (documented : DocumentedOperations schedule)
    (empty : ∀ key, contract.binding store key = none) (history : List (Turn Env))
    (ran : history = ((verifier lib config port).run (.new store) schedule).2) :
    (∃ pair : Nat → Nat,
      Set.InjOn pair {call | ∃ turn ∈ history, turn.id = call ∧ ∃ c, accepted turn = some c} ∧
      ∀ turn ∈ history, ∀ c, accepted turn = some c →
        Answers config contract history c turn.id (pair turn.id)) ∧
    ((history.filterMap fun turn => (issued turn).map (·.text)).Nodup →
      ∀ turn ∈ history, ∀ turn' ∈ history, ∀ c c', accepted turn = some c →
        accepted turn' = some c' → c.text = c'.text → turn.id = turn'.id) := by
  subst ran
  constructor
  · choose pair paired using call_answered lib config contract store schedule documented empty
    refine ⟨pair, ?_, fun turn member c accept => paired turn.id turn member rfl c accept⟩
    -- two calls answered by one generation are one call
    rintro call ⟨turn, member, rfl, c, accept⟩ call' ⟨turn', member', rfl, c', accept'⟩ same
    have answers := paired turn.id turn member rfl c accept
    have answers' := paired turn'.id turn' member' rfl c' accept'
    rw [← same] at answers'
    exact answers_inj lib config contract store schedule c c' _ _ _ answers answers'
  · intro fresh turn member turn' member' c c' accept accept' sameText
    obtain ⟨generation, answers⟩ := accepted_answered lib config contract store schedule documented
      empty turn c member accept
    obtain ⟨generation', answers'⟩ := accepted_answered lib config contract store schedule documented
      empty turn' c' member' accept'
    obtain rfl := generation_unique config contract _ fresh c c' _ _ _ _ answers answers' sameText
    exact answers_inj lib config contract store schedule c c' _ _ _ answers answers'

end Pairing

/-! ### A store that keeps the contract -/

/-- The error of a failed verification is left open by the contract. -/
def documentedPort : ChallengeStore (AList fun _ : String => Binding) Int Unit where
  bindState now key value purpose ttlSecs store :=
    (store.insert key ⟨value, purpose, now + ttlNanos ttlSecs⟩, .ok ())
  verifyState now key value purpose store :=
    match store.lookup key with
    | none => (store, .err .poisoned)
    | some b =>
        if b.Matches value purpose now then (store.erase key, .ok ()) else (store, .err .poisoned)

def documentedContract : Contract documentedPort where
  clock now := now
  binding store key := store.lookup key
  bind_ok _ _ _ _ _ _ := rfl
  binding_bind now key value purpose ttlSecs store k := by
    change (store.insert key _).lookup k = _
    split
    next same => rw [same, AList.lookup_insert]
    next other => rw [AList.lookup_insert_ne other]
  verify_ok now key value purpose store := by
    rintro ⟨b, found, matched⟩
    have result : documentedPort.verifyState now key value purpose store =
        (store.erase key, .ok ()) := by
      simp only [documentedPort, found, if_pos matched]
    rw [result]
    refine ⟨⟨(), rfl⟩, fun k => ?_⟩
    split
    next same => rw [same, AList.lookup_erase]
    next other => rw [AList.lookup_erase_ne other]
  verify_err now key value purpose store unmatched := by
    simp only [documentedPort]
    split
    next => exact ⟨⟨_, rfl⟩, fun _ => rfl⟩
    next b found =>
      rw [if_neg (fun matched => unmatched ⟨b, found, matched⟩)]
      exact ⟨⟨_, rfl⟩, fun _ => rfl⟩

def clockSupply (now : Int) : Supply Int := ⟨now, sampleBytes 0, "1970-01-01T00:00:00+00:00"⟩

/-- Two calls race on the challenge issued to `alice`, one second later. -/
def racedChallenge : List (Action Task (Supply Int)) :=
  [.invoke 0 (.generate "alice" "create"), .advance 0 (clockSupply 0),
    .invoke 1 (.register (sampleRegistration "alice" zeroChallenge [4])),
    .invoke 2 (.register { sampleRegistration "alice" zeroChallenge [4] with credentialId := [8] }),
    .advance 1 (clockSupply 1000000000), .advance 2 (clockSupply 1000000000),
    .advance 1 (clockSupply 1000000000), .advance 1 (clockSupply 1000000000)]

theorem raced_challenge_paired :
    ∃ generation, Answers sampleConfig documentedContract
      ((verifier sampleExternals sampleConfig documentedPort).run (.new ∅) racedChallenge).2
      ⟨"create", "alice", zeroChallenge⟩ 1 generation := by
  have documented : DocumentedOperations racedChallenge := by
    intro id userId operation made
    simp [racedChallenge] at made
    exact Or.inl made.2.2
  have accepts : (1, (⟨"create", "alice", zeroChallenge⟩ : Challenge)) ∈
      ((verifier sampleExternals sampleConfig documentedPort).run (.new ∅) racedChallenge).2.filterMap
        fun turn => (accepted turn).map (Prod.mk turn.id) := by
    decide +kernel
  obtain ⟨turn, member, accept⟩ := List.mem_filterMap.mp accepts
  obtain ⟨c, accept, same⟩ := Option.map_eq_some_iff.mp accept
  obtain ⟨sameId, rfl⟩ := Prod.mk.inj same
  obtain ⟨⟨pair, _, paired⟩, _⟩ := accepted_calls_paired sampleExternals sampleConfig
    documentedContract ∅ racedChallenge documented (fun _ => rfl) _ rfl
  exact ⟨_, sameId ▸ paired turn member _ accept⟩

end AuthKit.WebAuthn
