import AuthKit.WebAuthn.Admission
import AuthKit.WebAuthn.Ledger

/-!
# Users apart

All calls share one session store and one registry, and their sections interleave. A group of users
is answered as if nobody else was there, as long as nobody else registers a credential id of the
group: that is the one thing by which users can get in each other's way.
-/
namespace AuthKit.WebAuthn

open Execution AuthKit.Domain

def Task.userId : Task → String
  | .generate userId _ => userId
  | .register r => r.userId
  | .authenticate a => a.userId

/-- The call that a section belongs to. -/
def Point.task : Point → Task
  | .bindChallenge userId operation => .generate userId operation
  | .consumeCreate r => .register r
  | .checkUnique r => .register r
  | .insert r => .register r
  | .consumeGet a => .authenticate a
  | .raise a => .authenticate a

/-- Some of the users, and the credential ids that are for their authenticators. -/
structure Group where
  users : String → Bool
  credentialIds : List UInt8 → Bool

/-- The call is one of the group's, or one of the others'; either way it is for one of the two
documented operations. -/
structure Group.OnSide (group : Group) (mine : Bool) (task : Task) : Prop where
  user : group.users task.userId = mine
  credential : ∀ r, task = .register r → group.credentialIds r.credentialId = mine
  operation : ∀ userId operation, task = .generate userId operation →
    operation = "create" ∨ operation = "get"

/-- Nobody outside the group has one of its credential ids. -/
def Group.Reserved (group : Group) (registry : Registry) : Prop :=
  ∀ userId, group.users userId = false → ∀ credentialId ∈ registry.credentialIds userId,
    group.credentialIds credentialId = false

/-- The action is for one of these calls. -/
def ofCalls {Env : Type} (mine : Nat → Bool) : Action Task (Supply Env) → Bool
  | .invoke id _ => mine id
  | .advance id _ => mine id

/-! ### One key of the store -/

section Store

variable {Store Env Answer : Type} {port : ChallengeStore Store Env Answer}
  (contract : Contract port)

/-- What a verification answers depends on nothing but the binding of its key. -/
def Contract.Local : Prop :=
  ∀ env key value purpose store store',
    contract.binding store key = contract.binding store' key →
      (port.verifyState env key value purpose store).2.map (fun _ => ()) =
        (port.verifyState env key value purpose store').2.map fun _ => ()

theorem Contract.binding_verify_congr (env : Env) (key value purpose : String)
    (store store' : Store)
    (same : contract.binding store key = contract.binding store' key) :
    contract.binding (port.verifyState env key value purpose store).1 key =
      contract.binding (port.verifyState env key value purpose store').1 key := by
  by_cases matched : ∃ b, contract.binding store key = some b ∧
      b.Matches value purpose (contract.clock env)
  · have matched' := same ▸ matched
    rw [(contract.verify_ok env key value purpose store matched).2,
      (contract.verify_ok env key value purpose store' matched').2, if_pos rfl, if_pos rfl]
  · have matched' := same ▸ matched
    rw [(contract.verify_err env key value purpose store matched).2,
      (contract.verify_err env key value purpose store' matched').2, same]

end Store

/-- What the section under the write lock returns is settled by the credential it selects. -/
theorem raiseCount_result (registry : Registry) (userId : String) (credentialId : List UInt8)
    (signCount : UInt32) :
    (registry.raiseCount userId credentialId signCount).2 =
      match registry.stored userId credentialId with
      | none => .error .credentialNotFound
      | some cred =>
          if cred.signCount < signCount then .ok cred.publicKey else .error .credentialNotFound := by
  rcases registry.raiseCount_cases userId credentialId signCount with
    ⟨absent, result⟩ | ⟨cred, found, low, result⟩ | ⟨cred, found, higher, result⟩
  · rw [result, absent]
  · have notHigher : ¬ cred.signCount < signCount := UInt32.not_lt.mpr low
    rw [result, found]
    simp only [notHigher, if_false]
  · rw [result, found]
    simp only [higher, if_true]

section Reserved

variable {group : Group} {registry : Registry} (reserved : group.Reserved registry)

include reserved

theorem Group.Reserved.push (userId : String) (credential : WebAuthnCredential)
    (theirs : group.users userId = false → group.credentialIds credential.credentialId = false) :
    group.Reserved (registry.push userId credential) := by
  intro other foreign credentialId member
  rw [Registry.credentialIds_push] at member
  rcases List.mem_append.mp member with old | new
  · exact reserved other foreign credentialId old
  · split at new
    next same =>
      rw [List.mem_singleton.mp new]
      exact theirs (same ▸ foreign)
    next => cases new

theorem Group.Reserved.raiseCount (userId : String) (credentialId : List UInt8)
    (signCount : UInt32) :
    group.Reserved (registry.raiseCount userId credentialId signCount).1 := by
  intro other foreign
  rw [Registry.credentialIds_raiseCount]
  exact reserved other foreign

end Reserved

/-! ### Two states that a group cannot tell apart -/

section Alike

variable {Store Env Answer : Type} (config : WebAuthnConfig)
  {port : ChallengeStore Store Env Answer} (contract : Contract port) (group : Group)

/-- The states hold the same for the users of the group, and neither holds one of the group's
credential ids for anyone else. -/
structure Alike (v v' : WebAuthnVerifier Store) : Prop where
  bindings : ∀ c : Challenge, c.operation = "create" ∨ c.operation = "get" →
    group.users c.userId = true →
      contract.binding v.sessionStore (config.keyOf c) =
        contract.binding v'.sessionStore (config.keyOf c)
  lists : ∀ userId, group.users userId = true →
    v.credentials.listCredentials userId = v'.credentials.listCredentials userId
  reserved : group.Reserved v.credentials
  reserved' : group.Reserved v'.credentials

section Sections

variable (lib : Externals) {config contract group} {v v' : WebAuthnVerifier Store}
  (alike : Alike config contract group v v')

include alike

theorem Alike.stored_eq (userId : String) (mine : group.users userId = true)
    (credentialId : List UInt8) :
    v.credentials.stored userId credentialId = v'.credentials.stored userId credentialId := by
  unfold Registry.stored
  rw [alike.lists userId mine]

/-- An id of the group is in the one registry iff it is in the other: only the group's users can
have it. -/
theorem Alike.contains_eq (credentialId : List UInt8)
    (mine : group.credentialIds credentialId = true) :
    v.credentials.contains credentialId = v'.credentials.contains credentialId := by
  rw [Bool.eq_iff_iff, Registry.contains_iff, Registry.contains_iff]
  refine exists_congr fun userId => ?_
  cases owner : group.users userId with
  | true =>
    unfold Registry.credentialIds
    rw [alike.lists userId owner]
  | false =>
    refine iff_of_false (fun member => ?_) (fun member => ?_)
    · exact absurd mine (by simp [alike.reserved userId owner credentialId member])
    · exact absurd mine (by simp [alike.reserved' userId owner credentialId member])

/-- What a challenge of another user does to the store. -/
private theorem Alike.other_store (c : Challenge)
    (documented : c.operation = "create" ∨ c.operation = "get")
    (theirs : group.users c.userId = false) (store : Store)
    (others : ∀ key, key ≠ config.keyOf c →
      contract.binding store key = contract.binding v.sessionStore key) :
    Alike config contract group { v with sessionStore := store } v' where
  bindings c' documented' mine := by
    rw [others, alike.bindings c' documented' mine]
    intro same
    obtain ⟨_, user⟩ := keyOf_inj config c' c documented' documented same
    rw [user, theirs] at mine
    cases mine
  lists := alike.lists
  reserved := alike.reserved
  reserved' := alike.reserved'

/-- What a challenge of the group does to two stores. -/
private theorem Alike.own_store (c : Challenge) (store store' : Store)
    (others : ∀ key, key ≠ config.keyOf c →
      contract.binding store key = contract.binding v.sessionStore key ∧
      contract.binding store' key = contract.binding v'.sessionStore key)
    (own : contract.binding store (config.keyOf c) = contract.binding store' (config.keyOf c)) :
    Alike config contract group { v with sessionStore := store }
      { v' with sessionStore := store' } where
  bindings c' documented' mine := by
    by_cases same : config.keyOf c' = config.keyOf c
    · simp only [same, own]
    · simp only [others _ same, alike.bindings c' documented' mine]
  lists := alike.lists
  reserved := alike.reserved
  reserved' := alike.reserved'

/-- A section of another user's call is not noticed. -/
theorem Alike.foreign_section (supply : Supply Env) (point : Point)
    (theirs : group.OnSide false point.task) :
    Alike config contract group (advanceTask lib config port supply v point).1 v' := by
  cases point with
  | bindChallenge userId operation =>
    refine alike.other_store ⟨operation, userId, ""⟩ (theirs.operation userId operation rfl)
      theirs.user _ fun key other => ?_
    rw [contract.binding_bind]
    exact if_neg other
  | consumeCreate r =>
    refine alike.other_store ⟨"create", r.userId, ""⟩ (Or.inl rfl) theirs.user _ fun key other => ?_
    refine contract.binding_verify_ne _ _ _ _ _ key ?_
    rw [config.createKey_eq]
    exact other
  | checkUnique r => exact alike
  | insert r =>
    have owner : group.users r.userId = false := theirs.user
    refine ⟨alike.bindings, fun userId mine => ?_,
      alike.reserved.push r.userId _ fun _ => theirs.credential r rfl, alike.reserved'⟩
    have other : userId ≠ r.userId := fun same => by simp [same, owner] at mine
    rw [← alike.lists userId mine]
    change (v.credentials.push r.userId _).listCredentials userId = _
    rw [Registry.listCredentials_push, if_neg other, List.append_nil]
  | consumeGet a =>
    refine alike.other_store ⟨"get", a.userId, ""⟩ (Or.inr rfl) theirs.user _ fun key other => ?_
    refine contract.binding_verify_ne _ _ _ _ _ key ?_
    rw [config.getKey_eq]
    exact other
  | raise a =>
    have owner : group.users a.userId = false := theirs.user
    refine ⟨alike.bindings, fun userId mine => ?_, alike.reserved.raiseCount a.userId _ _,
      alike.reserved'⟩
    have other : userId ≠ a.userId := fun same => by simp [same, owner] at mine
    rw [← alike.lists userId mine]
    refine (listCredentials_raiseCount v.credentials a.userId a.credentialId _ userId).trans ?_
    exact if_neg other.symm

/-- A section of the group's own call does the same in both states. -/
theorem Alike.own_section (determined : contract.Local) (supply : Supply Env) (point : Point)
    (mine : group.OnSide true point.task) :
    Alike config contract group (advanceTask lib config port supply v point).1
        (advanceTask lib config port supply v' point).1 ∧
      (advanceTask lib config port supply v point).2 =
        (advanceTask lib config port supply v' point).2 := by
  -- what both kinds of verification do to the stores, and that they answer alike
  have consumed (c : Challenge) (documented : c.operation = "create" ∨ c.operation = "get")
      (own : group.users c.userId = true) :
      Alike config contract group
          (v.consumeChallenge port supply.env (config.keyOf c) c.text).1
          (v'.consumeChallenge port supply.env (config.keyOf c) c.text).1 ∧
        (v.consumeChallenge port supply.env (config.keyOf c) c.text).2 =
          (v'.consumeChallenge port supply.env (config.keyOf c) c.text).2 := by
    have same := alike.bindings c documented own
    refine ⟨alike.own_store c _ _ (fun key other => ?_) ?_, ?_⟩
    · exact ⟨contract.binding_verify_ne _ _ _ _ _ key other,
        contract.binding_verify_ne _ _ _ _ _ key other⟩
    · exact contract.binding_verify_congr _ _ _ _ _ _ same
    · have answers := determined supply.env (config.keyOf c) c.text PURPOSE _ _ same
      simp only [WebAuthnVerifier.consumeChallenge, Outcome.map_mapErr, answers]
  cases point with
  | bindChallenge userId operation =>
    have documented := mine.operation userId operation rfl
    refine ⟨alike.own_store ⟨operation, userId, ""⟩ _ _ (fun key other => ?_) ?_, ?_⟩
    · rw [contract.binding_bind, contract.binding_bind]
      exact ⟨if_neg other, if_neg other⟩
    · rw [contract.binding_bind, contract.binding_bind]
      exact (if_pos rfl).trans (if_pos rfl).symm
    · simp only [advanceTask, WebAuthnVerifier.generateChallenge, contract.bind_ok]
  | consumeCreate r =>
    obtain ⟨after, same⟩ := consumed ⟨"create", r.userId, r.challenge⟩ (Or.inl rfl) mine.user
    simp only [WebAuthnConfig.keyOf, ← config.createKey_eq] at after same
    simp only [advanceTask, same]
    exact ⟨after, trivial⟩
  | checkUnique r =>
    simp only [advanceTask, alike.contains_eq r.credentialId (mine.credential r rfl)]
    exact ⟨alike, trivial⟩
  | insert r =>
    have owner : group.users r.userId = true := mine.user
    have theirs {credential : WebAuthnCredential} : group.users r.userId = false →
        group.credentialIds credential.credentialId = false :=
      fun foreign => by simp [owner] at foreign
    refine ⟨⟨alike.bindings, fun userId own => ?_, alike.reserved.push r.userId _ theirs,
      alike.reserved'.push r.userId _ theirs⟩, rfl⟩
    change (v.credentials.push r.userId _).listCredentials userId =
      (v'.credentials.push r.userId _).listCredentials userId
    rw [Registry.listCredentials_push, Registry.listCredentials_push, alike.lists userId own]
  | consumeGet a =>
    obtain ⟨after, same⟩ := consumed ⟨"get", a.userId, a.challenge⟩ (Or.inr rfl) mine.user
    simp only [WebAuthnConfig.keyOf, ← config.getKey_eq] at after same
    simp only [advanceTask, same]
    exact ⟨after, trivial⟩
  | raise a =>
    have owner : group.users a.userId = true := mine.user
    refine ⟨⟨alike.bindings, fun userId own => ?_, alike.reserved.raiseCount a.userId _ _,
      alike.reserved'.raiseCount a.userId _ _⟩, ?_⟩
    · refine (listCredentials_raiseCount v.credentials a.userId a.credentialId _ userId).trans ?_
      rw [alike.lists userId own]
      exact (listCredentials_raiseCount v'.credentials a.userId a.credentialId _ userId).symm
    · simp only [advanceTask, WebAuthnVerifier.raiseAndVerify, raiseCount_result,
        alike.stored_eq a.userId owner]

end Sections

end Alike

/-! ### Two runs -/

section Runs

variable {Store Env Answer : Type} (lib : Externals) (config : WebAuthnConfig)
  {port : ChallengeStore Store Env Answer} (contract : Contract port) (group : Group)
  (mine : Nat → Bool)

theorem start_task (task : Task) (point : Point)
    (started : startTask lib config task = .inl point) : point.task = task := by
  cases task with
  | generate userId operation =>
    cases started
    rfl
  | register r =>
    simp only [startTask] at started
    split at started
    next => cases started
    next => cases started; rfl
  | authenticate a =>
    simp only [startTask] at started
    split at started
    next => cases started
    next => cases started; rfl

theorem advance_task (supply : Supply Env) (v : WebAuthnVerifier Store) (point next : Point)
    (moved : (advanceTask lib config port supply v point).2 = .inl next) :
    next.task = point.task := by
  have previous := advance_previous lib config port supply v point next moved
  cases next with
  | checkUnique r => cases previous; rfl
  | insert r => cases previous; rfl
  | raise a => cases previous; rfl
  -- nothing leads to the first section of a call
  | bindChallenge userId operation => cases previous
  | consumeCreate r => cases previous
  | consumeGet a => cases previous

/-- The worlds of a run and of the run of the group's calls alone, with the actions still to come. -/
structure WorldsAlike (rest : List (Action Task (Supply Env)))
    (world world' : World (WebAuthnVerifier Store) Task Point Reply) : Prop where
  shared : Alike config contract group world.shared world'.shared
  calls : ∀ id, mine id = true → world.calls id = world'.calls id
  sides : ∀ id args point, world.calls id = some (.running args point) →
    group.OnSide (mine id) point.task
  invoked : ∀ id task, .invoke id task ∈ rest → group.OnSide (mine id) task

section Steps

variable {lib config contract group mine} {rest : List (Action Task (Supply Env))}
  {world world' : World (WebAuthnVerifier Store) Task Point Reply}

/-- A call that has moved is where its section left it. -/
private theorem sides_update (id : Nat) (args : Task) (outcome : Point ⊕ Reply)
    (sides : ∀ id args point, world.calls id = some (.running args point) →
      group.OnSide (mine id) point.task)
    (moved : ∀ point, outcome = .inl point → group.OnSide (mine id) point.task) :
    ∀ other args' point,
      Function.update world.calls id (some (Procedure.status args outcome)) other =
        some (.running args' point) → group.OnSide (mine other) point.task := by
  intro other args' point running
  by_cases same : other = id
  · subst same
    rw [Function.update_self, Option.some.injEq] at running
    cases outcome with
    | inl next =>
      cases running
      exact moved _ rfl
    | inr reply => cases running
  · rw [Function.update_of_ne same] at running
    exact sides other args' point running

/-- An action for another user's call. -/
private theorem WorldsAlike.skip (action : Action Task (Supply Env))
    (theirs : ofCalls mine action = false)
    (alike : WorldsAlike config contract group mine (action :: rest) world world') :
    WorldsAlike config contract group mine rest
        ((verifier lib config port).step world action).1 world' ∧
      ((verifier lib config port).step world action).2.filter (fun turn => mine turn.id) = [] := by
  have later : ∀ id task, .invoke id task ∈ rest → group.OnSide (mine id) task :=
    fun id task member => alike.invoked id task (List.mem_cons_of_mem _ member)
  -- a call of the group is none of the others'
  have others (id : Nat) (foreign : mine id = false)
      (call : Call Task Point Reply) (other : Nat) (own : mine other = true) :
      Function.update world.calls id (some call) other = world'.calls other := by
    have differ : other ≠ id := fun same => by simp [same, foreign] at own
    rw [Function.update_of_ne differ]
    exact alike.calls other own
  rcases (verifier lib config port).step_cases world action with
    same | ⟨id, task, rfl, _, result⟩ | ⟨id, args, point, supply, shared, outcome, rfl, running,
      advanced, result⟩
  · rw [same]
    exact ⟨⟨alike.shared, alike.calls, alike.sides, later⟩, rfl⟩
  · rw [result]
    refine ⟨⟨alike.shared, others id theirs _, ?_, later⟩, rfl⟩
    refine sides_update id task _ alike.sides fun point started => ?_
    rw [start_task lib config task point started]
    exact alike.invoked id task List.mem_cons_self
  · rw [result]
    have foreign : mine id = false := theirs
    have side := alike.sides id args point running
    obtain ⟨rfl, rfl⟩ := Prod.mk.inj advanced
    refine ⟨⟨?_, others id foreign _, ?_, later⟩, ?_⟩
    · exact alike.shared.foreign_section lib supply point (foreign ▸ side)
    · refine sides_update id args _ alike.sides fun next moved => ?_
      rw [advance_task lib config supply world.shared point next moved]
      exact side
    · simp [foreign]

/-- An action for a call of the group. -/
private theorem WorldsAlike.take (determined : contract.Local) (action : Action Task (Supply Env))
    (own : ofCalls mine action = true)
    (alike : WorldsAlike config contract group mine (action :: rest) world world') :
    WorldsAlike config contract group mine rest
        ((verifier lib config port).step world action).1
        ((verifier lib config port).step world' action).1 ∧
      ((verifier lib config port).step world action).2.filter (fun turn => mine turn.id) =
        ((verifier lib config port).step world' action).2 := by
  have later : ∀ id task, .invoke id task ∈ rest → group.OnSide (mine id) task :=
    fun id task member => alike.invoked id task (List.mem_cons_of_mem _ member)
  have unchanged : WorldsAlike config contract group mine rest world world' :=
    ⟨alike.shared, alike.calls, alike.sides, later⟩
  -- the same call moves in both worlds
  have both (id : Nat) (call : Call Task Point Reply) (other : Nat) (own' : mine other = true) :
      Function.update world.calls id (some call) other =
        Function.update world'.calls id (some call) other := by
    by_cases same : other = id
    · subst same
      rw [Function.update_self, Function.update_self]
    · rw [Function.update_of_ne same, Function.update_of_ne same]
      exact alike.calls other own'
  cases action with
  | invoke id task =>
    have sameCall := alike.calls id own
    cases found : world.calls id with
    | none =>
      rw [found] at sameCall
      simp only [Procedure.step, found, ← sameCall]
      refine ⟨⟨alike.shared, both id _, ?_, later⟩, rfl⟩
      refine sides_update id task _ alike.sides fun point started => ?_
      rw [start_task lib config task point started]
      exact alike.invoked id task List.mem_cons_self
    | some call =>
      rw [found] at sameCall
      simp only [Procedure.step, found, ← sameCall]
      exact ⟨unchanged, rfl⟩
  | advance id supply =>
    have sameCall := alike.calls id own
    have owner : mine id = true := own
    cases found : world.calls id with
    | none =>
      rw [found] at sameCall
      simp only [Procedure.step, found, ← sameCall]
      exact ⟨unchanged, rfl⟩
    | some call =>
      rw [found] at sameCall
      cases call with
      | returned args result =>
        simp only [Procedure.step, found, ← sameCall]
        exact ⟨unchanged, rfl⟩
      | running args point =>
        have side := alike.sides id args point found
        obtain ⟨shared, outcome⟩ :=
          alike.shared.own_section lib determined supply point (owner ▸ side)
        simp only [Procedure.step, found, ← sameCall, verifier, ← outcome]
        refine ⟨⟨shared, both id _, ?_, later⟩, by simp [owner]⟩
        refine sides_update id args _ alike.sides fun next moved => ?_
        rw [advance_task lib config supply world.shared point next moved]
        exact side

end Steps

variable (store : Store) (schedule : List (Action Task (Supply Env)))

/-- In every interleaving, the sections of a group's calls are those of the run in which nobody else
makes a call, with everything they return, provided that nobody else registers a credential id of
the group. -/
theorem group_answered_alone (determined : contract.Local)
    (sides : ∀ id task, .invoke id task ∈ schedule → group.OnSide (mine id) task) :
    ((verifier lib config port).run (.new store) schedule).2.filter (fun turn => mine turn.id) =
      ((verifier lib config port).run (.new store) (schedule.filter (ofCalls mine))).2 := by
  refine (verifier lib config port).machine.exec_filter_eq (verifier lib config port).machine
    (ofCalls mine) (fun turn => mine turn.id) (WorldsAlike config contract group mine) ?_ ?_
    schedule _ _ ?_
  · intro action rest world world' theirs alike
    exact alike.skip action theirs
  · intro action rest world world' own alike
    exact alike.take determined action own
  · refine ⟨⟨fun _ _ _ => rfl, fun _ _ => rfl, ?_, ?_⟩, fun _ _ => rfl, ?_, sides⟩
    · intro userId _ credentialId member
      simp [World.idle, WebAuthnVerifier.new, Registry.credentialIds] at member
    · intro userId _ credentialId member
      simp [World.idle, WebAuthnVerifier.new, Registry.credentialIds] at member
    · intro id args point running
      cases running

end Runs

/-! ### Two users -/

theorem documentedContract_local : documentedContract.Local := by
  intro now key value purpose store store' same
  have same : store.lookup key = store'.lookup key := same
  simp only [documentedPort, same]
  cases store'.lookup key with
  | none => rfl
  | some b =>
    dsimp only
    split <;> rfl

/-- `alice` and her authenticator. -/
def aliceGroup : Group := ⟨fun userId => userId == "alice", fun credentialId => credentialId == [7]⟩

/-- `alice` and `bob` enroll at the same time: her calls have the even names. The id of his
credential is given. -/
def enrollments (credentialId : List UInt8) : List (Action Task (Supply Int)) :=
  [.invoke 0 (.generate "alice" "create"), .invoke 1 (.generate "bob" "create"),
    .advance 1 (clockSupply 0), .advance 0 (clockSupply 0),
    .invoke 2 (.register (sampleRegistration "alice" zeroChallenge [4])),
    .invoke 3 (.register { sampleRegistration "bob" zeroChallenge [4] with
      credentialId := credentialId }),
    .advance 2 (clockSupply 1), .advance 3 (clockSupply 1), .advance 3 (clockSupply 1),
    .advance 3 (clockSupply 1), .advance 2 (clockSupply 1), .advance 2 (clockSupply 1)]

def even (id : Nat) : Bool := id % 2 == 0

theorem alice_enrolled_alone :
    ((verifier sampleExternals sampleConfig documentedPort).run (.new ∅) (enrollments [8])).2.filter
        (fun turn => even turn.id) =
      ((verifier sampleExternals sampleConfig documentedPort).run (.new ∅)
        ((enrollments [8]).filter (ofCalls even))).2 ∧
    ((verifier sampleExternals sampleConfig documentedPort).run (.new ∅)
        ((enrollments [8]).filter (ofCalls even))).2.filterMap accepted =
      [⟨"create", "alice", zeroChallenge⟩] := by
  refine ⟨group_answered_alone sampleExternals sampleConfig documentedContract aliceGroup even ∅
    (enrollments [8]) documentedContract_local ?_, by decide +kernel⟩
  intro id task made
  simp only [enrollments, List.mem_cons, Action.invoke.injEq, reduceCtorEq, false_or, or_false,
    List.not_mem_nil] at made
  rcases made with ⟨rfl, rfl⟩ | ⟨rfl, rfl⟩ | ⟨rfl, rfl⟩ | ⟨rfl, rfl⟩
  · exact ⟨rfl, nofun, fun _ _ same => by cases same; exact Or.inl rfl⟩
  · exact ⟨rfl, nofun, fun _ _ same => by cases same; exact Or.inl rfl⟩
  · exact ⟨rfl, fun _ same => by cases same; rfl, nofun⟩
  · exact ⟨rfl, fun _ same => by cases same; rfl, nofun⟩

/-- If `bob` takes the id of her credential, `alice` is refused. -/
example : ((verifier sampleExternals sampleConfig documentedPort).run (.new ∅)
    (enrollments [7])).2.filterMap accepted = [⟨"create", "bob", zeroChallenge⟩] := by
  decide +kernel

end AuthKit.WebAuthn
