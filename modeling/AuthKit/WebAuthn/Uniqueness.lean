import AuthKit.Library.Past
import AuthKit.WebAuthn.Ceremonies

/-!
# Uniqueness of credential ids

The check for a registered id and the insertion are two lock sections. The registry is the list
of insertions, sorted by user; so an id occurs twice iff somebody inserted it between another
call's check and that call's insertion.
-/
namespace AuthKit.WebAuthn

open Execution AuthKit.Domain

/-- No credential id occurs twice, neither under one user nor under two. -/
def Registry.UniqueIds (registry : Registry) : Prop :=
  (∀ userId, (registry.credentialIds userId).Nodup) ∧
    ∀ userId other, userId ≠ other →
      List.Disjoint (registry.credentialIds userId) (registry.credentialIds other)

variable {Env : Type}

/-- The user and the credential id of an insertion. -/
def inserted (turn : Turn Env) : Option (String × List UInt8) :=
  match turn.point with
  | .insert r => some (r.userId, r.credentialId)
  | _ => none

def insertedId (turn : Turn Env) : Option (List UInt8) := (inserted turn).map Prod.snd

/-- Since the call's own check for a registered id, no call has inserted that id. -/
def UndisturbedSince (history : List (Turn Env)) (call : Nat) (r : Registration) : Prop :=
  Since (fun turn => turn.id = call ∧ turn.point = .checkUnique r)
    (fun turn => insertedId turn ≠ some r.credentialId) history

/-- Every insertion of the run comes undisturbed after its call's check. -/
def Undisturbed (history : List (Turn Env)) : Prop :=
  ∀ before turn after r, history = before ++ turn :: after → turn.point = .insert r →
    UndisturbedSince before turn.id r

theorem insertedId_eq_some_iff (turn : Turn Env) (credentialId : List UInt8) :
    insertedId turn = some credentialId ↔
      ∃ r, turn.point = .insert r ∧ r.credentialId = credentialId := by
  unfold insertedId inserted
  cases turn.point <;> simp

/-- Items are distinct iff each owner's items are and no two owners share one. -/
private theorem nodup_snd_iff {Owner Item : Type} [DecidableEq Owner]
    (pairs : List (Owner × Item)) :
    (pairs.map Prod.snd).Nodup ↔
      (∀ owner, ((pairs.filter fun pair => decide (pair.1 = owner)).map Prod.snd).Nodup) ∧
      ∀ owner other, owner ≠ other →
        List.Disjoint ((pairs.filter fun pair => decide (pair.1 = owner)).map Prod.snd)
          ((pairs.filter fun pair => decide (pair.1 = other)).map Prod.snd) := by
  constructor
  · intro distinct
    refine ⟨fun owner => distinct.sublist (List.filter_sublist.map Prod.snd), ?_⟩
    intro owner other different item mine theirs
    simp only [List.mem_map, List.mem_filter, decide_eq_true_eq] at mine theirs
    obtain ⟨pair, ⟨member, rfl⟩, rfl⟩ := mine
    obtain ⟨pair', ⟨member', rfl⟩, same⟩ := theirs
    -- one item listed under two owners would be listed twice
    have equal := List.inj_on_of_nodup_map distinct member' member same
    exact different (congrArg Prod.fst equal).symm
  · rintro ⟨each, apart⟩
    induction pairs with
    | nil => exact List.nodup_nil
    | cons pair rest ih =>
      have smaller : ∀ owner, ((rest.filter fun p => decide (p.1 = owner)).map Prod.snd).Sublist
          (((pair :: rest).filter fun p => decide (p.1 = owner)).map Prod.snd) := fun owner =>
        ((List.sublist_cons_self pair rest).filter _).map Prod.snd
      refine List.nodup_cons.mpr ⟨?_, ih (fun owner => (each owner).sublist (smaller owner)) ?_⟩
      · intro repeated
        obtain ⟨pair', member, same⟩ := List.mem_map.mp repeated
        by_cases owner : pair'.1 = pair.1
        · -- one owner: its own items repeat
          have distinct := each pair.1
          rw [List.filter_cons_of_pos (by simp), List.map_cons, List.nodup_cons] at distinct
          apply distinct.1
          rw [← same]
          exact List.mem_map_of_mem (List.mem_filter.mpr ⟨member, by simpa using owner⟩)
        · -- two owners: they share the item
          refine apart pair'.1 pair.1 owner (a := pair.2) ?_ ?_
          · rw [← same]
            exact List.mem_map_of_mem (List.mem_filter.mpr ⟨List.mem_cons_of_mem _ member, by simp⟩)
          · exact List.mem_map_of_mem (List.mem_filter.mpr ⟨List.mem_cons_self, by simp⟩)
      · intro owner other different item mine theirs
        exact apart owner other different ((smaller owner).subset mine)
          ((smaller other).subset theirs)

section Runs

variable {Store Answer : Type} (lib : Externals) (config : WebAuthnConfig)
  (port : ChallengeStore Store Env Answer) (store : Store)
  (schedule : List (Action Task (Supply Env)))

/-- Refinement: each user's list holds the ids inserted for that user, in order. -/
theorem credentialIds_run (userId : String) :
    ((verifier lib config port).run (.new store) schedule).1.shared.credentials.credentialIds userId =
      ((((verifier lib config port).run (.new store) schedule).2.filterMap inserted).filter
        fun pair => decide (pair.1 = userId)).map Prod.snd := by
  refine (verifier lib config port).invariant
    (fun world history => ∀ userId, world.shared.credentials.credentialIds userId =
      ((history.filterMap inserted).filter fun pair => decide (pair.1 = userId)).map Prod.snd)
    (.new store) ?_ (fun world history _ _ now _ => now) ?_ schedule userId
  · intro userId
    simp [World.idle, WebAuthnVerifier.new, Registry.credentialIds]
  · intro world history id args point supply shared outcome now _ advanced userId
    have effect := advance_credentials lib config port args supply world.shared shared point outcome
      advanced
    simp only [List.filterMap_append, List.filter_append, List.map_append, ← now userId, effect]
    -- an insertion appends to one user's list, a raised count keeps every id
    cases point with
    | insert r =>
      simp only [WebAuthnVerifier.register, Registry.credentialIds_push, inserted,
        List.filterMap_cons, List.filterMap_nil]
      by_cases same : userId = r.userId
      · simp [same]
      · have other : ¬ (r.userId = userId) := fun equal => same equal.symm
        simp [same, other]
    | raise a => simp [Registry.credentialIds_raiseCount, inserted]
    | bindChallenge => simp [inserted]
    | consumeCreate => simp [inserted]
    | checkUnique => simp [inserted]
    | consumeGet => simp [inserted]

theorem uniqueIds_run_iff :
    ((verifier lib config port).run (.new store) schedule).1.shared.credentials.UniqueIds ↔
      (((verifier lib config port).run (.new store) schedule).2.filterMap insertedId).Nodup := by
  have mapped : ((verifier lib config port).run (.new store) schedule).2.filterMap insertedId =
      (((verifier lib config port).run (.new store) schedule).2.filterMap inserted).map Prod.snd :=
    List.map_filterMap.symm
  rw [mapped, nodup_snd_iff, Registry.UniqueIds]
  simp only [credentialIds_run]

/-- The check of `verify_registration` sees exactly the ids inserted before it. -/
theorem contains_run_iff (credentialId : List UInt8) :
    ((verifier lib config port).run (.new store) schedule).1.shared.credentials.contains
        credentialId = true ↔
      credentialId ∈ ((verifier lib config port).run (.new store) schedule).2.filterMap insertedId := by
  rw [Registry.contains_iff]
  simp only [credentialIds_run, List.mem_map, List.mem_filter, decide_eq_true_eq, insertedId,
    List.mem_filterMap, Option.map_eq_some_iff]
  constructor
  · rintro ⟨userId, pair, ⟨⟨turn, member, found⟩, _⟩, same⟩
    exact ⟨turn, member, pair, found, same⟩
  · rintro ⟨turn, member, pair, found, same⟩
    exact ⟨pair.1, pair, ⟨⟨turn, member, found⟩, rfl⟩, same⟩

/-- A check that lets its call go on found the id nowhere. -/
theorem checked_id_fresh (before after : List (Turn Env)) (turn : Turn Env) (r : Registration)
    (split : ((verifier lib config port).run (.new store) schedule).2 = before ++ turn :: after)
    (check : turn.point = .checkUnique r) (returnedNot : ∀ reply, turn.outcome ≠ .inr reply) :
    r.credentialId ∉ before.filterMap insertedId := by
  obtain ⟨earlier, _, _, historyEq, _, outcome⟩ :=
    (verifier lib config port).reached _ schedule before after turn split
  intro repeated
  rw [← historyEq, ← contains_run_iff] at repeated
  refine returnedNot (.registered (.err .credentialAlreadyExists)) ?_
  rw [← outcome, check]
  simp only [verifier, advanceTask]
  exact if_pos repeated

/-- In every interleaving of any calls on one verifier, over any session store: the registry
holds no credential id twice iff no call inserts an id between another call's check of that id
and that call's insertion. -/
theorem uniqueIds_iff_undisturbed :
    ((verifier lib config port).run (.new store) schedule).1.shared.credentials.UniqueIds ↔
      Undisturbed ((verifier lib config port).run (.new store) schedule).2 := by
  rw [uniqueIds_run_iff, nodup_filterMap_iff]
  constructor
  · intro fresh before turn after r split insertion
    have new := fresh before turn after r.credentialId split
      ((insertedId_eq_some_iff turn _).mpr ⟨r, insertion, rfl⟩)
    obtain ⟨first, check, between, rfl, sameId, point, _⟩ :=
      prior_section lib config port _ schedule before after turn split (.checkUnique r)
        (by rw [insertion]; rfl)
    refine ⟨first, check, between, rfl, ⟨sameId, point⟩, ?_⟩
    intro later member disturbs
    exact new (List.mem_filterMap.mpr ⟨later, by simp [member], disturbs⟩)
  · intro undisturbed before turn after credentialId split insertion repeated
    obtain ⟨r, point, rfl⟩ := (insertedId_eq_some_iff turn _).mp insertion
    obtain ⟨first, check, between, rfl, ⟨sameId, checkPoint⟩, quiet⟩ :=
      undisturbed before turn after r split point
    -- the call went on after its check, so the check did not return
    have goesOn : ∀ reply, check.outcome ≠ .inr reply := by
      intro reply returns
      exact (verifier lib config port).silent_after_return _ schedule _ after check turn reply
        split (by simp) returns sameId.symm
    rw [List.append_assoc] at split
    have free := checked_id_fresh lib config port store schedule first _ check r split checkPoint
      goesOn
    -- the repeated id was inserted before the check, by the check, or after it
    obtain ⟨other, member, found⟩ := List.mem_filterMap.mp repeated
    rcases List.mem_append.mp member with old | member
    · exact free (List.mem_filterMap.mpr ⟨other, old, found⟩)
    · rcases List.mem_cons.mp member with rfl | later
      · obtain ⟨r', insertPoint, _⟩ := (insertedId_eq_some_iff _ _).mp found
        rw [checkPoint] at insertPoint
        cases insertPoint
      · exact quiet other later found

end Runs

/-! ### Two users register one id -/

def sampleSupply (byte : UInt8) : Supply InMemorySessionStore.Readings :=
  ⟨sampleReadings, sampleBytes byte, "1970-01-01T00:00:00+00:00"⟩

/-- Both calls consume their own challenge, then both check, then both insert. -/
def racingRegistrations : List (Action Task (Supply InMemorySessionStore.Readings)) :=
  [.invoke 0 (.generate "alice" "create"), .advance 0 (sampleSupply 0),
    .invoke 1 (.generate "bob" "create"), .advance 1 (sampleSupply 255),
    .invoke 2 (.register (sampleRegistration "alice" zeroChallenge [4])),
    .invoke 3 (.register (sampleRegistration "bob" fullChallenge [4])),
    .advance 2 (sampleSupply 0), .advance 3 (sampleSupply 0),
    .advance 2 (sampleSupply 0), .advance 3 (sampleSupply 0),
    .advance 2 (sampleSupply 0), .advance 3 (sampleSupply 0)]

theorem racing_registrations_duplicate :
    let registry := ((verifier sampleExternals sampleConfig (.ofPort InMemorySessionStore.port)).run
      (.new .new) racingRegistrations).1.shared.credentials
    registry.credentialIds "alice" = [[7]] ∧ registry.credentialIds "bob" = [[7]] ∧
      ¬ registry.UniqueIds := by
  intro registry
  have alice : registry.credentialIds "alice" = [[7]] := by decide +kernel
  have bob : registry.credentialIds "bob" = [[7]] := by decide +kernel
  refine ⟨alice, bob, fun unique => ?_⟩
  have apart := unique.2 "alice" "bob" (by decide)
  rw [alice, bob] at apart
  exact apart List.mem_cons_self List.mem_cons_self

end AuthKit.WebAuthn
