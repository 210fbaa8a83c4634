import AuthKit.WebAuthn.Ceremonies

/-!
# Sign counts over a run

The stored count of the credential that `find` selects never falls, and every accepted
assertion leaves its own count there. So the accepted counts increase strictly, whatever calls
that fail do in between.
-/
namespace AuthKit.WebAuthn

open Execution AuthKit.Domain

section Turns

variable {Env : Type} (userId : String) (credentialId : List UInt8)

/-- The sign count with which a section registers the credential id for the user. -/
def registeredCount (turn : Turn Env) : Option UInt32 :=
  match turn.point with
  | .insert r =>
      if r.userId = userId ∧ r.credentialId = credentialId then some r.authenticatorData.signCount
      else none
  | _ => none

/-- The sign count presented to a write-locked section of a call that returns `Ok`. -/
def acceptedCount (turn : Turn Env) : Option UInt32 :=
  match turn.point, turn.outcome with
  | .raise a, .inr (.authenticated (.ok ())) =>
      if a.userId = userId ∧ a.credentialId = credentialId then some a.authenticatorData.signCount
      else none
  | _, _ => none

/-- What the stored count of a user's credential says about the run so far. -/
structure CountsTracked (registry : Registry) (history : List (Turn Env)) : Prop where
  unregistered : registry.stored userId credentialId = none →
    history.filterMap (registeredCount userId credentialId) = [] ∧
      history.filterMap (acceptedCount userId credentialId) = []
  registered : ∀ cred, registry.stored userId credentialId = some cred →
    ∃ first, (history.filterMap (registeredCount userId credentialId)).head? = some first ∧
      first ≤ cred.signCount ∧
      ∀ count ∈ history.filterMap (acceptedCount userId credentialId),
        first < count ∧ count ≤ cred.signCount
  increasing : (history.filterMap (acceptedCount userId credentialId)).Pairwise (· < ·)

end Turns

section Steps

variable {Env : Type} {userId : String} {credentialId : List UInt8} {registry : Registry}
  {history : List (Turn Env)}

/-- A section that registers and accepts nothing of the id; it may raise the stored count. -/
private theorem CountsTracked.quiet (tracked : CountsTracked userId credentialId registry history)
    (registry' : Registry) (turn : Turn Env)
    (absent : registry'.stored userId credentialId = none →
      registry.stored userId credentialId = none)
    (risen : ∀ after, registry'.stored userId credentialId = some after →
      ∃ before, registry.stored userId credentialId = some before ∧
        before.signCount ≤ after.signCount)
    (noRegistration : registeredCount userId credentialId turn = none)
    (noAcceptance : acceptedCount userId credentialId turn = none) :
    CountsTracked userId credentialId registry' (history ++ [turn]) := by
  -- the turn adds to neither list of counts
  have registrations : (history ++ [turn]).filterMap (registeredCount userId credentialId) =
      history.filterMap (registeredCount userId credentialId) := by
    simp [List.filterMap_append, noRegistration]
  have acceptances : (history ++ [turn]).filterMap (acceptedCount userId credentialId) =
      history.filterMap (acceptedCount userId credentialId) := by
    simp [List.filterMap_append, noAcceptance]
  constructor
  · intro gone
    rw [registrations, acceptances]
    exact tracked.unregistered (absent gone)
  · intro after found
    -- bounds on the old count also hold of the risen one
    obtain ⟨before, there, rise⟩ := risen after found
    obtain ⟨first, head, low, bounds⟩ := tracked.registered before there
    rw [registrations, acceptances]
    refine ⟨first, head, UInt32.le_trans low rise, fun count member => ?_⟩
    exact ⟨(bounds count member).1, UInt32.le_trans (bounds count member).2 rise⟩
  · rw [acceptances]
    exact tracked.increasing

private theorem CountsTracked.inserted (tracked : CountsTracked userId credentialId registry history)
    (turn : Turn Env) (r : Registration) (insertion : turn.point = .insert r)
    (credential : WebAuthnCredential) (sameId : credential.credentialId = r.credentialId)
    (sameCount : credential.signCount = r.authenticatorData.signCount) :
    CountsTracked userId credentialId (registry.push r.userId credential) (history ++ [turn]) := by
  have noAcceptance : acceptedCount userId credentialId turn = none := by
    simp [acceptedCount, insertion]
  have pushed := registry.stored_push r.userId credential userId credentialId
  by_cases mine : r.userId = userId ∧ r.credentialId = credentialId
  · have registrations : (history ++ [turn]).filterMap (registeredCount userId credentialId) =
        history.filterMap (registeredCount userId credentialId) ++
          [r.authenticatorData.signCount] := by
      simp [List.filterMap_append, registeredCount, insertion, mine]
    have acceptances : (history ++ [turn]).filterMap (acceptedCount userId credentialId) =
        history.filterMap (acceptedCount userId credentialId) := by
      simp [List.filterMap_append, noAcceptance]
    rw [if_pos ⟨mine.1.symm, sameId.trans mine.2⟩] at pushed
    refine ⟨?_, ?_, acceptances ▸ tracked.increasing⟩
    · rw [pushed]
      intro none
      simp at none
    · intro cred found
      rw [pushed] at found
      rw [registrations, acceptances, List.head?_append]
      cases old : registry.stored userId credentialId with
      | none =>
        -- the first registration of the id: nothing was accepted before it
        obtain ⟨noneRegistered, noneAccepted⟩ := tracked.unregistered old
        rw [old, Option.none_or, Option.some.injEq] at found
        rw [noneRegistered, noneAccepted, ← found, sameCount]
        exact ⟨_, rfl, UInt32.le_refl _, by simp⟩
      | some selected =>
        -- a later registration goes behind the entry that `find` selects
        rw [old, Option.some_or, Option.some.injEq] at found
        obtain ⟨first, head, low, bounds⟩ := tracked.registered selected old
        rw [head, ← found]
        exact ⟨first, rfl, low, bounds⟩
  · -- another user's or another id's registration
    have other : ¬ (userId = r.userId ∧ credential.credentialId = credentialId) := by
      rintro ⟨user, id⟩
      exact mine ⟨user.symm, sameId.symm.trans id⟩
    rw [if_neg other, Option.or_none] at pushed
    have noRegistration : registeredCount userId credentialId turn = none := by
      simp [registeredCount, insertion, mine]
    apply tracked.quiet _ turn _ _ noRegistration noAcceptance
    · rw [pushed]
      exact fun absent => absent
    · rw [pushed]
      exact fun after found => ⟨after, found, UInt32.le_refl _⟩

/-- What a write-locked section can add to the accepted counts. -/
private theorem acceptedCount_cases (userId : String) (credentialId : List UInt8)
    (turn : Turn Env) (a : Authentication) (raising : turn.point = .raise a) :
    acceptedCount userId credentialId turn = none ∨
      (turn.outcome = .inr (.authenticated (.ok ())) ∧ a.userId = userId ∧
        a.credentialId = credentialId ∧
        acceptedCount userId credentialId turn = some a.authenticatorData.signCount) := by
  unfold acceptedCount
  rw [raising]
  split
  next a' accepted same outcome =>
    cases same
    split
    next mine => exact Or.inr ⟨outcome, mine.1, mine.2, rfl⟩
    next => exact Or.inl rfl
  next => exact Or.inl rfl

private theorem CountsTracked.raised (tracked : CountsTracked userId credentialId registry history)
    (turn : Turn Env) (a : Authentication) (raising : turn.point = .raise a)
    (stores : turn.outcome = .inr (.authenticated (.ok ())) →
      ∃ key, (registry.raiseCount a.userId a.credentialId a.authenticatorData.signCount).2 = .ok key) :
    CountsTracked userId credentialId
      (registry.raiseCount a.userId a.credentialId a.authenticatorData.signCount).1
      (history ++ [turn]) := by
  have noRegistration : registeredCount userId credentialId turn = none := by
    simp [registeredCount, raising]
  rcases acceptedCount_cases userId credentialId turn a raising with
    noAcceptance | ⟨accepted, rfl, rfl, acceptance⟩
  · -- a call that fails, or another credential: the count may rise, nothing is accepted
    obtain ⟨absent, risen⟩ := registry.stored_raiseCount_le a.userId a.credentialId
      a.authenticatorData.signCount userId credentialId
    exact tracked.quiet _ turn absent risen noRegistration noAcceptance
  · obtain ⟨key, passed⟩ := stores accepted
    rcases registry.raiseCount_cases a.userId a.credentialId a.authenticatorData.signCount with
      ⟨_, result⟩ | ⟨_, _, _, result⟩ | ⟨cred, found, higher, result⟩
    · rw [result] at passed
      cases passed
    · rw [result] at passed
      cases passed
    · have moved := registry.stored_raised a.userId a.credentialId a.authenticatorData.signCount
        a.userId a.credentialId
      rw [found, Option.map_some, if_pos ⟨rfl, rfl⟩] at moved
      obtain ⟨first, head, low, bounds⟩ := tracked.registered cred found
      have above : first < a.authenticatorData.signCount := UInt32.lt_of_le_of_lt low higher
      have registrations : (history ++ [turn]).filterMap
          (registeredCount a.userId a.credentialId) =
            history.filterMap (registeredCount a.userId a.credentialId) := by
        simp [List.filterMap_append, noRegistration]
      have acceptances : (history ++ [turn]).filterMap (acceptedCount a.userId a.credentialId) =
          history.filterMap (acceptedCount a.userId a.credentialId) ++
            [a.authenticatorData.signCount] := by
        simp [List.filterMap_append, acceptance]
      rw [result]
      refine ⟨?_, ?_, ?_⟩
      · rw [moved]
        intro none
        cases none
      · intro after there
        rw [moved, Option.some.injEq] at there
        rw [registrations, acceptances, ← there]
        refine ⟨first, head, UInt32.le_of_lt above, fun count member => ?_⟩
        rcases List.mem_append.mp member with earlier | new
        · have bound := bounds count earlier
          exact ⟨bound.1, UInt32.le_trans bound.2 (UInt32.le_of_lt higher)⟩
        · rw [List.mem_singleton.mp new]
          exact ⟨above, UInt32.le_refl _⟩
      · -- every count accepted so far is at most the stored one
        rw [acceptances, List.pairwise_append]
        refine ⟨tracked.increasing, List.pairwise_singleton _ _, fun count member new last => ?_⟩
        rw [List.mem_singleton.mp last]
        exact UInt32.lt_of_le_of_lt (bounds count member).2 higher

end Steps

section Runs

variable {Store Env Answer : Type} (lib : Externals) (config : WebAuthnConfig)
  (port : ChallengeStore Store Env Answer) (store : Store)
  (schedule : List (Action Task (Supply Env))) (userId : String) (credentialId : List UInt8)

theorem countsTracked_run :
    CountsTracked userId credentialId
      ((verifier lib config port).run (.new store) schedule).1.shared.credentials
      ((verifier lib config port).run (.new store) schedule).2 := by
  refine (verifier lib config port).invariant
    (fun world history => CountsTracked userId credentialId world.shared.credentials history)
    (.new store) ?_ (fun world history _ _ tracked _ => tracked) ?_ schedule
  · refine ⟨fun _ => ⟨rfl, rfl⟩, ?_, List.Pairwise.nil⟩
    intro cred found
    simp [World.idle, WebAuthnVerifier.new, Registry.stored] at found
  · intro world history id args point supply shared outcome tracked _ advanced
    have effect := advance_credentials lib config port args supply world.shared shared point outcome
      advanced
    -- four of the six sections do not touch the registry
    have untouched : ∀ turn, registeredCount userId credentialId turn = none →
        acceptedCount userId credentialId turn = none →
        CountsTracked userId credentialId world.shared.credentials (history ++ [turn]) := by
      intro turn noRegistration noAcceptance
      apply tracked.quiet _ turn _ _ noRegistration noAcceptance
      · exact fun absent => absent
      · exact fun after found => ⟨after, found, UInt32.le_refl _⟩
    rw [effect]
    cases point with
    | insert r => exact tracked.inserted _ r rfl _ rfl rfl
    | raise a =>
      apply tracked.raised _ a rfl
      intro accepted
      rw [show outcome = .inr (.authenticated (.ok ())) from accepted] at advanced
      exact raise_accepted lib config port args supply world.shared shared a advanced
    | bindChallenge => exact untouched _ rfl rfl
    | consumeCreate => exact untouched _ rfl rfl
    | checkUnique => exact untouched _ rfl rfl
    | consumeGet => exact untouched _ rfl rfl

/-- In every interleaving, the sign counts of the accepted assertions of a user's credential id
increase strictly in the order of their write-locked sections, and all of them lie above the
count with which the id was first registered for the user. -/
theorem accepted_counts_increase :
    (((verifier lib config port).run (.new store) schedule).2.filterMap
        (acceptedCount userId credentialId)).Pairwise (· < ·) ∧
    ∀ count ∈ ((verifier lib config port).run (.new store) schedule).2.filterMap
        (acceptedCount userId credentialId),
      ∃ first, (((verifier lib config port).run (.new store) schedule).2.filterMap
          (registeredCount userId credentialId)).head? = some first ∧ first < count := by
  have tracked := countsTracked_run lib config port store schedule userId credentialId
  refine ⟨tracked.increasing, fun count member => ?_⟩
  cases found : ((verifier lib config port).run (.new store) schedule).1.shared.credentials.stored
      userId credentialId with
  | none =>
    rw [(tracked.unregistered found).2] at member
    cases member
  | some cred =>
    obtain ⟨first, head, _, bounds⟩ := tracked.registered cred found
    exact ⟨first, head, (bounds count member).1⟩

end Runs

end AuthKit.WebAuthn
