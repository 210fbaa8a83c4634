import AuthKit.Library.Procedure
import AuthKit.WebAuthn.Verifier

/-!
# Concurrent ceremonies

The verifier's calls cut at its atomic steps: each session-store call, the section under the
read lock and the section under the write lock. The checks before the first session-store call
read nothing that is shared.
-/
namespace AuthKit.WebAuthn

open Execution AuthKit.Domain

inductive Task where
  | generate (userId operation : String)
  | register (r : Registration)
  | authenticate (a : Authentication)

/-- The section a call executes next. -/
inductive Point where
  | bindChallenge (userId operation : String)
  | consumeCreate (r : Registration)
  | checkUnique (r : Registration)
  | insert (r : Registration)
  | consumeGet (a : Authentication)
  | raise (a : Authentication)

/-- What the environment supplies to one section. -/
structure Supply (Env : Type) where
  env : Env
  bytes : Vector UInt8 32
  createdAt : String

abbrev Turn (Env : Type) := Section Task (Supply Env) Point Reply

section Sections

variable {Store Env Answer : Type} (lib : Externals) (config : WebAuthnConfig)
  (port : ChallengeStore Store Env Answer)

def startTask : Task → Point ⊕ Reply
  | .generate userId operation => .inl (.bindChallenge userId operation)
  | .register r =>
      match registrationChecks lib config r with
      -- refused before anything shared is read
      | .error error => .inr (.registered (.err error))
      | .ok () => .inl (.consumeCreate r)
  | .authenticate a =>
      match authenticationChecks lib config a with
      | .error error => .inr (.authenticated (.err error))
      | .ok () => .inl (.consumeGet a)

def advanceTask (supply : Supply Env) (v : WebAuthnVerifier Store) :
    Point → WebAuthnVerifier Store × (Point ⊕ Reply)
  | .bindChallenge userId operation =>
      let called := v.generateChallenge lib config port supply.env supply.bytes userId operation
      (called.1, .inr (.generated called.2))
  | .consumeCreate r =>
      let consumed := v.consumeChallenge port supply.env (config.createKey r.userId) r.challenge
      (consumed.1,
        match consumed.2 with
        | .ok () => .inl (.checkUnique r)
        | .err error => .inr (.registered (.err error))
        | .panicked => .inr (.registered .panicked))
  | .checkUnique r =>
      (v,
        if v.credentials.contains r.credentialId then
          .inr (.registered (.err .credentialAlreadyExists))
        else .inl (.insert r))
  | .insert r =>
      let registered := v.register supply.createdAt r
      (registered.1, .inr (.registered (.ok registered.2)))
  | .consumeGet a =>
      let consumed := v.consumeChallenge port supply.env (config.getKey a.userId) a.challenge
      (consumed.1,
        match consumed.2 with
        | .ok () => .inl (.raise a)
        | .err error => .inr (.authenticated (.err error))
        | .panicked => .inr (.authenticated .panicked))
  | .raise a =>
      let verified := v.raiseAndVerify a
      (verified.1, .inr (.authenticated (.ofExcept verified.2)))

def verifier : Procedure (WebAuthnVerifier Store) Task (Supply Env) Point Reply where
  start := startTask lib config
  advance _ point supply v := advanceTask lib config port supply v point

/-! ### Sections in a row -/

theorem generation_solo (userId operation : String) (s : Supply Env)
    (v : WebAuthnVerifier Store) :
    let called := v.generateChallenge lib config port s.env s.bytes userId operation
    (verifier lib config port).solo (.generate userId operation) v
        ((verifier lib config port).start (.generate userId operation)) [s] =
      (called.1, .inr (.generated called.2)) := rfl

/-- `verify_registration` is its three sections in a row. -/
theorem registration_solo (r : Registration) (s₁ s₂ s₃ : Supply Env)
    (v : WebAuthnVerifier Store) :
    let called := v.verifyRegistration lib config port s₁.env s₃.createdAt r
    (verifier lib config port).solo (.register r) v
        ((verifier lib config port).start (.register r)) [s₁, s₂, s₃] =
      (called.1, .inr (.registered called.2)) := by
  simp only [verifier, startTask, WebAuthnVerifier.verifyRegistration]
  cases registrationChecks lib config r with
  | error refused => rfl
  | ok done =>
    simp only [Procedure.solo, advanceTask]
    rcases v.consumeChallenge port s₁.env (config.createKey r.userId) r.challenge with
      ⟨v', _ | _ | _⟩
    · by_cases present : v'.credentials.contains r.credentialId = true
      · simp only [Procedure.solo, present, if_true]
      · simp only [Procedure.solo, present, Bool.false_eq_true, if_false]
    · rfl
    · rfl

/-- `verify_authentication` is its two sections in a row. -/
theorem authentication_solo (a : Authentication) (s₁ s₂ : Supply Env)
    (v : WebAuthnVerifier Store) :
    let called := v.verifyAuthentication lib config port s₁.env a
    (verifier lib config port).solo (.authenticate a) v
        ((verifier lib config port).start (.authenticate a)) [s₁, s₂] =
      (called.1, .inr (.authenticated called.2)) := by
  simp only [verifier, startTask, WebAuthnVerifier.verifyAuthentication]
  cases authenticationChecks lib config a with
  | error refused => rfl
  | ok done =>
    simp only [Procedure.solo, advanceTask]
    rcases v.consumeChallenge port s₁.env (config.getKey a.userId) a.challenge with
      ⟨v', _ | _ | _⟩ <;> rfl

/-! ### What a section can lead to -/

/-- The section that leads to this one; none leads to the first section of a call. -/
def Point.previous : Point → Option Point
  | .checkUnique r => some (.consumeCreate r)
  | .insert r => some (.checkUnique r)
  | .raise a => some (.consumeGet a)
  | _ => none

theorem start_previous (task : Task) (point : Point)
    (started : startTask lib config task = .inl point) : point.previous = none := by
  cases task with
  | generate userId operation =>
    cases started
    rfl
  | register r =>
    simp only [startTask] at started
    split at started
    next => cases started
    next => cases started; rfl
  | authenticate a =>
    simp only [startTask] at started
    split at started
    next => cases started
    next => cases started; rfl

theorem advance_previous (supply : Supply Env) (v : WebAuthnVerifier Store) (point next : Point)
    (moved : (advanceTask lib config port supply v point).2 = .inl next) :
    next.previous = some point := by
  cases point with
  | consumeCreate r =>
    simp only [advanceTask] at moved
    split at moved
    next => cases moved; rfl
    next => cases moved
    next => cases moved
  | checkUnique r =>
    simp only [advanceTask] at moved
    split at moved
    next => cases moved
    next => cases moved; rfl
  | consumeGet a =>
    simp only [advanceTask] at moved
    split at moved
    next => cases moved; rfl
    next => cases moved
    next => cases moved
  -- the other sections return
  | bindChallenge userId operation => cases moved
  | insert r => cases moved
  | raise a => cases moved

section Order

variable (v : WebAuthnVerifier Store) (schedule : List (Action Task (Supply Env)))
  (before after : List (Turn Env)) (turn : Turn Env)
  (split : ((verifier lib config port).run v schedule).2 = before ++ turn :: after)

include split

/-- A section that is not its call's first follows the section that leads to it. -/
theorem prior_section (previous : Point) (later : turn.point.previous = some previous) :
    ∃ first prior between, before = first ++ prior :: between ∧ prior.id = turn.id ∧
      prior.point = previous ∧ prior.outcome = .inl turn.point := by
  rcases (verifier lib config port).preceded v schedule before after turn split with
    started | ⟨first, prior, between, rfl, sameId, _, moved⟩
  · rw [start_previous lib config turn.args turn.point started] at later
    cases later
  · rw [List.append_assoc] at split
    obtain ⟨_, _, _, _, _, outcome⟩ :=
      (verifier lib config port).reached v schedule first _ prior split
    rw [moved] at outcome
    have led := advance_previous lib config port _ _ _ _ outcome
    rw [later, Option.some.injEq] at led
    exact ⟨first, prior, between, rfl, sameId, led.symm, moved⟩

/-- A section that nothing leads to is the one its call started with. -/
theorem first_section (first : turn.point.previous = none) :
    startTask lib config turn.args = .inl turn.point := by
  rcases (verifier lib config port).preceded v schedule before after turn split with
    started | ⟨start, prior, between, rfl, _, _, moved⟩
  · exact started
  · rw [List.append_assoc] at split
    obtain ⟨_, _, _, _, _, outcome⟩ :=
      (verifier lib config port).reached v schedule start _ prior split
    rw [moved] at outcome
    rw [advance_previous lib config port _ _ _ _ outcome] at first
    cases first

end Order

/-- The registry after a section: insertions and raised counts, nothing else. -/
theorem advance_credentials (args : Task) (supply : Supply Env) (v v' : WebAuthnVerifier Store)
    (point : Point) (outcome : Point ⊕ Reply)
    (advanced : (verifier lib config port).advance args point supply v = (v', outcome)) :
    v'.credentials =
      match point with
      | .insert r => (v.register supply.createdAt r).1.credentials
      | .raise a =>
          (v.credentials.raiseCount a.userId a.credentialId a.authenticatorData.signCount).1
      | _ => v.credentials := by
  cases point <;> cases advanced <;> rfl

/-- An assertion is accepted only if its count was stored. -/
theorem raise_accepted (args : Task) (supply : Supply Env) (v v' : WebAuthnVerifier Store)
    (a : Authentication)
    (advanced : (verifier lib config port).advance args (.raise a) supply v =
      (v', .inr (.authenticated (.ok ())))) :
    ∃ key, (v.credentials.raiseCount a.userId a.credentialId a.authenticatorData.signCount).2 =
      .ok key := by
  have outcome := congrArg Prod.snd advanced
  simp only [verifier, advanceTask, Sum.inr.injEq, Reply.authenticated.injEq,
    WebAuthnVerifier.raiseAndVerify] at outcome
  cases raised : (v.credentials.raiseCount a.userId a.credentialId
    a.authenticatorData.signCount).2 with
  | error error =>
    rw [raised] at outcome
    cases outcome
  | ok key => exact ⟨key, rfl⟩

end Sections

end AuthKit.WebAuthn
