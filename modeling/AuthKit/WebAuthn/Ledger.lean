import AuthKit.Library.Highest
import AuthKit.WebAuthn.Counters

/-!
# The registry as the ledger of a run

What `list_credentials` shows of a user is the replay of the sections of the run that concern this
user: an insertion adds an entry, and a write-locked section raises the count of the first entry of
its id. So every entry stays what was registered, apart from its count, and the count is the highest
one presented since; an assertion is accepted iff it presents a higher count than all before it.
-/
namespace AuthKit.WebAuthn

open Execution AuthKit.Domain

/-! ### The abstract account -/

/-- The count of the first credential of the id becomes the given one, if that is higher. -/
def raiseFirst (credentialId : List UInt8) (signCount : UInt32) :
    List WebAuthnCredential → List WebAuthnCredential
  | [] => []
  | c :: rest =>
      if c.credentialId = credentialId then
        { c with signCount := if c.signCount < signCount then signCount else c.signCount } :: rest
      else c :: raiseFirst credentialId signCount rest

section Turns

variable {Env : Type} (userId : String)

/-- The credential that a section registers for the user. -/
def registered (turn : Turn Env) : Option WebAuthnCredential :=
  match turn.point with
  | .insert r =>
      if r.userId = userId then
        some ⟨r.credentialId, r.publicKey, r.authenticatorData.signCount, none, turn.input.createdAt⟩
      else none
  | _ => none

/-- The sign count that a write-locked section presents for the user's credential, whatever comes
of it. -/
def presentedCount (credentialId : List UInt8) (turn : Turn Env) : Option UInt32 :=
  match turn.point with
  | .raise a =>
      if a.userId = userId ∧ a.credentialId = credentialId then some a.authenticatorData.signCount
      else none
  | _ => none

/-- What a section makes of the user's credentials. -/
def post (creds : List WebAuthnCredential) (turn : Turn Env) : List WebAuthnCredential :=
  match turn.point with
  | .insert _ => creds ++ (registered userId turn).toList
  | .raise a =>
      if a.userId = userId then raiseFirst a.credentialId a.authenticatorData.signCount creds
      else creds
  | _ => creds

/-- The user's credentials as the history has them. -/
def account (history : List (Turn Env)) : List WebAuthnCredential := history.foldl (post userId) []

/-- The history before an entry has an entry of the same id. -/
def Repeats (before : List (Turn Env)) (credentialId : List UInt8) : Prop :=
  credentialId ∈ (before.filterMap (registered userId)).map (·.credentialId)

instance (before : List (Turn Env)) (credentialId : List UInt8) :
    Decidable (Repeats userId before credentialId) := inferInstanceAs (Decidable (_ ∈ _))

/-- A registered credential with the count that the sections after its registration leave. Counts
are kept for the first entry of an id only. -/
def settled (before after : List (Turn Env)) (c : WebAuthnCredential) : WebAuthnCredential :=
  if Repeats userId before c.credentialId then c
  else
    { c with
      signCount :=
        Highest.highest c.signCount (after.filterMap (presentedCount userId c.credentialId)) }

/-- The id was registered for the user, first with a key, and the assertion's count is above the one
registered then and above every count presented since, to calls that failed too. -/
def Outranks (history : List (Turn Env)) (a : Authentication) : Prop :=
  ∃ start registration between c, history = start ++ registration :: between ∧
    registered a.userId registration = some c ∧ c.credentialId = a.credentialId ∧
    ¬ Repeats a.userId start a.credentialId ∧ c.publicKey ≠ [] ∧
    c.signCount < a.authenticatorData.signCount ∧
    ∀ count ∈ between.filterMap (presentedCount a.userId a.credentialId),
      count < a.authenticatorData.signCount

theorem account_concat (history : List (Turn Env)) (turn : Turn Env) :
    account userId (history ++ [turn]) = post userId (account userId history) turn := by
  rw [account, List.foldl_append]
  rfl

end Turns

/-! ### Entries of an account -/

theorem map_credentialId_raiseFirst (credentialId : List UInt8) (signCount : UInt32)
    (creds : List WebAuthnCredential) :
    (raiseFirst credentialId signCount creds).map (·.credentialId) =
      creds.map (·.credentialId) := by
  induction creds with
  | nil => rfl
  | cons c rest ih =>
    rw [raiseFirst]
    split
    · rfl
    · rw [List.map_cons, List.map_cons, ih]

theorem getElem?_raiseFirst (credentialId : List UInt8) (signCount : UInt32)
    (creds : List WebAuthnCredential) (i : Nat) :
    (raiseFirst credentialId signCount creds)[i]? = creds[i]?.map fun c =>
      if c.credentialId = credentialId ∧ credentialId ∉ (creds.take i).map (·.credentialId) then
        { c with signCount := if c.signCount < signCount then signCount else c.signCount }
      else c := by
  induction creds generalizing i with
  | nil => rfl
  | cons c rest ih =>
    rw [raiseFirst]
    cases i with
    | zero =>
      by_cases mine : c.credentialId = credentialId
      · simp [mine]
      · simp [mine]
    | succ i =>
      by_cases mine : c.credentialId = credentialId
      · -- the search stops here, and every later entry of the id has this one before it
        simp [mine]
      · have other : credentialId ≠ c.credentialId := fun same => mine same.symm
        simp [mine, other, ih]

section Accounts

variable {Env : Type} (userId : String)

theorem registered_of_insert (turn : Turn Env) (other : ∀ r, turn.point ≠ .insert r) :
    registered userId turn = none := by
  unfold registered
  split
  next r point => exact absurd point (other r)
  next => rfl

theorem presentedCount_of_raise (credentialId : List UInt8) (turn : Turn Env)
    (other : ∀ a, turn.point ≠ .raise a) : presentedCount userId credentialId turn = none := by
  unfold presentedCount
  split
  next a point => exact absurd point (other a)
  next => rfl

/-- Entries are never removed or moved: their ids are those of the registrations, in order. -/
theorem map_credentialId_account (history : List (Turn Env)) :
    (account userId history).map (·.credentialId) =
      (history.filterMap (registered userId)).map (·.credentialId) := by
  induction history using List.reverseRecOn with
  | nil => rfl
  | append_singleton history turn ih =>
    rw [account_concat, List.filterMap_append, List.map_append, ← ih, post]
    split
    next r point =>
      rw [List.map_append]
      cases new : registered userId turn <;> simp [new]
    next a point =>
      have none : registered userId turn = none :=
        registered_of_insert userId turn (by simp [point])
      split <;> simp [none, map_credentialId_raiseFirst]
    next other _ =>
      have none : registered userId turn = none := registered_of_insert userId turn other
      simp [none]

theorem length_account (history : List (Turn Env)) :
    (account userId history).length = (history.filterMap (registered userId)).length := by
  simpa using congrArg List.length (map_credentialId_account userId history)

/-- The entry of a registration stands behind those of the earlier registrations, as it was
registered, with the count that the later sections leave. -/
theorem account_entry (before after : List (Turn Env)) (turn : Turn Env) (c : WebAuthnCredential)
    (new : registered userId turn = some c) :
    (account userId (before ++ turn :: after))[(before.filterMap (registered userId)).length]? =
      some (settled userId before after c) := by
  induction after using List.reverseRecOn with
  | nil =>
    have point : ∃ r, turn.point = .insert r := by
      by_contra other
      rw [registered_of_insert userId turn (not_exists.mp other)] at new
      cases new
    obtain ⟨r, point⟩ := point
    have unraised : settled userId before [] c = c := by
      rw [settled]
      split <;> rfl
    rw [account_concat, post, point, new, ← length_account, unraised]
    exact List.getElem?_concat_length
  | append_singleton after later ih =>
    have inside : (before.filterMap (registered userId)).length <
        (account userId (before ++ turn :: after)).length := (List.getElem?_eq_some_iff.mp ih).1
    rw [← List.cons_append, ← List.append_assoc, account_concat, post]
    split
    next r point =>
      have quiet : presentedCount userId c.credentialId later = none :=
        presentedCount_of_raise userId _ later (by simp [point])
      rw [List.getElem?_append_left inside, ih]
      simp [settled, List.filterMap_append, quiet]
    next a point =>
      split
      next user =>
        -- the entries in front of this one are those registered before it
        have front : ((account userId (before ++ turn :: after)).take
            (before.filterMap (registered userId)).length).map (·.credentialId) =
              (before.filterMap (registered userId)).map (·.credentialId) := by
          rw [List.map_take, map_credentialId_account, List.filterMap_append, List.map_append,
            List.take_left' (by simp)]
        rw [getElem?_raiseFirst, ih, Option.map_some, front, Option.some.injEq]
        by_cases repeats : Repeats userId before c.credentialId
        · have kept : settled userId before after c = c := if_pos repeats
          have kept' : settled userId before (after ++ [later]) c = c := if_pos repeats
          rw [kept, kept', if_neg]
          rintro ⟨same, first⟩
          exact first (same ▸ repeats)
        · have sameId : (settled userId before after c).credentialId = c.credentialId := by
            rw [settled, if_neg repeats]
          rw [sameId]
          by_cases mine : c.credentialId = a.credentialId
          · have shown : presentedCount userId c.credentialId later =
                some a.authenticatorData.signCount := by
              simp [presentedCount, point, user, mine]
            rw [if_pos ⟨mine, mine ▸ repeats⟩, settled, settled, if_neg repeats, if_neg repeats,
              List.filterMap_append, List.filterMap_cons, shown, List.filterMap_nil,
              Highest.highest_concat]
          · have quiet : presentedCount userId c.credentialId later = none := by
              have other : ¬ (a.userId = userId ∧ a.credentialId = c.credentialId) :=
                fun both => mine both.2.symm
              simp [presentedCount, point, other]
            rw [if_neg (fun both => mine both.1)]
            simp [settled, List.filterMap_append, quiet]
      next user =>
        have quiet : presentedCount userId c.credentialId later = none := by
          simp [presentedCount, point, user]
        rw [ih]
        simp [settled, List.filterMap_append, quiet]
    next other other' =>
      have quiet : presentedCount userId c.credentialId later = none :=
        presentedCount_of_raise userId _ later other'
      rw [ih]
      simp [settled, List.filterMap_append, quiet]

/-- The first registration of an id for the user, with the history around it. -/
theorem exists_first_registration (history : List (Turn Env)) (credentialId : List UInt8)
    (known : credentialId ∈ (account userId history).map (·.credentialId)) :
    ∃ start turn rest c, history = start ++ turn :: rest ∧ registered userId turn = some c ∧
      c.credentialId = credentialId ∧ ¬ Repeats userId start credentialId := by
  rw [map_credentialId_account, List.map_filterMap] at known
  obtain ⟨ids, ids', split, first⟩ := List.eq_append_cons_of_mem known
  obtain ⟨start, rest, rfl, idsEq, later⟩ := List.filterMap_eq_append_iff.mp split
  obtain ⟨quiet, turn, after, rfl, none, new, _⟩ := List.filterMap_eq_cons_iff.mp later
  obtain ⟨c, registration, same⟩ := Option.map_eq_some_iff.mp new
  refine ⟨start ++ quiet, turn, after, c, by simp, registration, same, ?_⟩
  -- the sections between the two parts register nothing
  rw [Repeats, List.map_filterMap, List.filterMap_append, idsEq,
    List.filterMap_eq_nil_iff.mpr none, List.append_nil]
  exact first

/-- What `find` selects is the first registration of the id. -/
theorem find?_account_eq (start rest : List (Turn Env)) (turn : Turn Env) (c : WebAuthnCredential)
    (new : registered userId turn = some c) (first : ¬ Repeats userId start c.credentialId) :
    (account userId (start ++ turn :: rest)).find?
        (fun entry => decide (entry.credentialId = c.credentialId)) =
      some (settled userId start rest c) := by
  obtain ⟨inside, entry⟩ :=
    List.getElem?_eq_some_iff.mp (account_entry userId start rest turn c new)
  have split := (List.take_append_drop (start.filterMap (registered userId)).length
    (account userId (start ++ turn :: rest))).symm
  rw [List.drop_eq_getElem_cons inside, entry] at split
  refine List.find?_eq_some_iff_append.mpr ⟨?_, _, _, split, ?_⟩
  · rw [settled, if_neg first]
    exact decide_eq_true rfl
  · -- the entries in front are those registered before
    intro earlier member
    have front : earlier.credentialId ∈
        ((account userId (start ++ turn :: rest)).map (·.credentialId)).take
          (start.filterMap (registered userId)).length := by
      rw [← List.map_take]
      exact List.mem_map_of_mem member
    rw [map_credentialId_account, List.filterMap_append, List.map_append,
      List.take_left' (by simp)] at front
    simp only [Bool.not_eq_true', decide_eq_false_iff_not]
    rintro same
    exact first (same ▸ front)

end Accounts

/-! ### The registry of a run -/

theorem raiseFirst_eq (credentialId : List UInt8) (signCount : UInt32)
    (creds : List WebAuthnCredential) :
    raiseFirst credentialId signCount creds =
      match creds.find? fun c => decide (c.credentialId = credentialId) with
      | none => creds
      | some cred =>
          if cred.signCount < signCount then Registry.setSignCount credentialId signCount creds
          else creds := by
  induction creds with
  | nil => rfl
  | cons c rest ih =>
    rw [raiseFirst, List.find?_cons, Registry.setSignCount]
    by_cases mine : c.credentialId = credentialId
    · subst mine
      simp only [if_true, decide_true]
      split <;> rfl
    · simp only [mine, if_false, decide_false, ih]
      cases rest.find? fun c => decide (c.credentialId = credentialId) with
      | none => rfl
      | some cred => dsimp only; split <;> rfl

/-- The section under the write lock, as the user's list sees it. -/
theorem listCredentials_raiseCount (registry : Registry) (userId : String)
    (credentialId : List UInt8) (signCount : UInt32) (other : String) :
    (registry.raiseCount userId credentialId signCount).1.listCredentials other =
      if userId = other then raiseFirst credentialId signCount (registry.listCredentials other)
      else registry.listCredentials other := by
  by_cases user : userId = other
  · subst user
    rw [if_pos rfl, raiseFirst_eq]
    rcases registry.raiseCount_cases userId credentialId signCount with
      ⟨absent, result⟩ | ⟨cred, found, low, result⟩ | ⟨cred, found, higher, result⟩
    · rw [result, ← Registry.stored, absent]
    · have notHigher : ¬ cred.signCount < signCount := UInt32.not_lt.mpr low
      rw [result, ← Registry.stored, found]
      simp only [notHigher, if_false]
    · rw [result, ← Registry.stored, found, Registry.listCredentials_insert]
      simp only [higher, if_true]
  · rw [if_neg user]
    rcases registry.raiseCount_cases userId credentialId signCount with
      ⟨_, result⟩ | ⟨_, _, _, result⟩ | ⟨_, _, _, result⟩
    · rw [result]
    · rw [result]
    · rw [result, Registry.listCredentials_insert, if_neg (fun same => user same.symm)]

section Runs

variable {Store Env Answer : Type} (lib : Externals) (config : WebAuthnConfig)
  (port : ChallengeStore Store Env Answer) (store : Store)
  (schedule : List (Action Task (Supply Env)))

theorem listCredentials_run (userId : String) :
    ((verifier lib config port).run (.new store) schedule).1.shared.credentials.listCredentials
        userId =
      account userId ((verifier lib config port).run (.new store) schedule).2 := by
  refine (verifier lib config port).invariant
    (fun world history =>
      world.shared.credentials.listCredentials userId = account userId history)
    (.new store) ?_ (fun world history _ _ same _ => same) ?_ schedule
  · exact Registry.listCredentials_empty userId
  · intro world history id args point supply shared outcome same _ advanced
    have effect := advance_credentials lib config port args supply world.shared shared point outcome
      advanced
    rw [account_concat, ← same, post, effect]
    cases point with
    | insert r =>
      simp only [WebAuthnVerifier.register, Registry.listCredentials_push, registered]
      by_cases user : r.userId = userId
      · simp [user]
      · simp [user, Ne.symm user]
    | raise a => exact listCredentials_raiseCount _ _ _ _ _
    | bindChallenge => rfl
    | consumeCreate => rfl
    | checkUnique => rfl
    | consumeGet => rfl

/-- In every interleaving, a user's list has one entry for each insertion, in their order, as it
was registered but for the count of the first entry of an id, which is the highest one that
sections under the write lock were presented since. -/
theorem listing_is_ledger (userId : String) (listing : List WebAuthnCredential)
    (history : List (Turn Env))
    (ran : (listing, history) =
      (((verifier lib config port).run (.new store) schedule).1.shared.credentials.listCredentials
        userId, ((verifier lib config port).run (.new store) schedule).2)) :
    listing.length = (history.filterMap (registered userId)).length ∧
    ∀ before turn after c, history = before ++ turn :: after →
      registered userId turn = some c →
      listing[(before.filterMap (registered userId)).length]? =
        some (settled userId before after c) := by
  obtain ⟨rfl, rfl⟩ := Prod.mk.inj ran
  rw [listCredentials_run]
  refine ⟨length_account userId _, ?_⟩
  intro before turn after c split new
  rw [split]
  exact account_entry userId before after turn c new

/-- The entry that `find` selects has a key and a lower count iff the assertion outranks the
history. -/
theorem stored_lower_iff_outranks (a : Authentication) :
    (∃ cred, ((verifier lib config port).run (.new store) schedule).1.shared.credentials.stored
        a.userId a.credentialId = some cred ∧
      cred.signCount < a.authenticatorData.signCount ∧ cred.publicKey ≠ []) ↔
      Outranks ((verifier lib config port).run (.new store) schedule).2 a := by
  rw [Registry.stored, listCredentials_run]
  constructor
  · rintro ⟨cred, found, higher, key⟩
    have known : a.credentialId ∈ (account a.userId
        ((verifier lib config port).run (.new store) schedule).2).map (·.credentialId) := by
      have sameId : cred.credentialId = a.credentialId := by simpa using List.find?_some found
      exact sameId ▸ List.mem_map_of_mem (List.mem_of_find?_eq_some found)
    obtain ⟨start, registration, between, c, split, new, sameId, first⟩ :=
      exists_first_registration a.userId _ a.credentialId known
    have selected := find?_account_eq a.userId start between registration c new (sameId ▸ first)
    rw [sameId, ← split, found, Option.some.injEq, settled, if_neg (sameId ▸ first)] at selected
    rw [selected, Highest.highest_lt_iff, sameId] at higher
    rw [selected] at key
    exact ⟨start, registration, between, c, split, new, sameId, first, key, higher.1, higher.2⟩
  · rintro ⟨start, registration, between, c, split, new, sameId, first, key, above, highest⟩
    have selected := find?_account_eq a.userId start between registration c new (sameId ▸ first)
    rw [sameId, ← split, settled, if_neg (sameId ▸ first)] at selected
    refine ⟨_, selected, ?_, key⟩
    rw [Highest.highest_lt_iff, sameId]
    exact ⟨above, highest⟩

end Runs

/-! ### A run -/

/-- `alice` registers a credential with count 1, then asserts count 5. -/
def countedSchedule : List (Action Task (Supply InMemorySessionStore.Readings)) :=
  uninterrupted 0
    [.generate sampleReadings (sampleBytes 0) "alice" "create",
      .register sampleReadings "1970-01-01T00:00:00+00:00"
        (sampleRegistration "alice" zeroChallenge [4]),
      .generate sampleReadings (sampleBytes 255) "alice" "get",
      .authenticate sampleReadings (sampleAuthentication "alice" fullChallenge 5)]

def countedRun : World (WebAuthnVerifier InMemorySessionStore) Task Point Reply ×
    List (Turn InMemorySessionStore.Readings) :=
  (verifier sampleExternals sampleConfig (.ofPort InMemorySessionStore.port)).run (.new .new)
    countedSchedule

theorem counted_entry : ∃ before turn after c,
    countedRun.2 = before ++ turn :: after ∧ registered "alice" turn = some c ∧
      (countedRun.1.shared.credentials.listCredentials "alice")[
        (before.filterMap (registered "alice")).length]? = some (settled "alice" before after c) := by
  have new : countedRun.2.filterMap (registered "alice") =
      [⟨[7], [4], 1, none, "1970-01-01T00:00:00+00:00"⟩] := by decide +kernel
  obtain ⟨turn, member, registration⟩ := List.mem_filterMap.mp (new ▸ List.mem_singleton_self _)
  obtain ⟨before, after, split⟩ := List.append_of_mem member
  have ledger := listing_is_ledger sampleExternals sampleConfig
    (.ofPort InMemorySessionStore.port) .new countedSchedule "alice"
    (countedRun.1.shared.credentials.listCredentials "alice") countedRun.2 (by rw [countedRun])
  exact ⟨before, turn, after, _, split, registration,
    ledger.2 before turn after _ split registration⟩

end AuthKit.WebAuthn
