import AuthKit.WebAuthn.Uniqueness

/-!
# Challenges and the keys they are stored under

What a run says about challenges: which were issued, which were presented to the session store
and which calls were accepted. A `ChallengeView` is what the verifier can count on in a store:
every binding was put there by a `bind_state` on its key, and perhaps a verification removes it.
-/
namespace AuthKit.WebAuthn

open Execution AuthKit.Domain

/-! ### Keys -/

namespace WebAuthnConfig

variable (config : WebAuthnConfig)

theorem createKey_eq (userId : String) :
    config.createKey userId = config.challengeKey "create" userId := by
  have joined : "webauthn:create:" = "webauthn:" ++ "create" ++ ":" := by decide
  exact congrArg (fun start => start ++ config.rpId ++ ":" ++ userId) joined

theorem getKey_eq (userId : String) : config.getKey userId = config.challengeKey "get" userId := by
  have joined : "webauthn:get:" = "webauthn:" ++ "get" ++ ":" := by decide
  exact congrArg (fun start => start ++ config.rpId ++ ":" ++ userId) joined

theorem createKey_toList (userId : String) :
    (config.createKey userId).toList = (config.createKey "").toList ++ userId.toList := by
  unfold createKey
  rw [String.toList_append,
    String.toList_append (s := "webauthn:create:" ++ config.rpId ++ ":") (t := ""),
    String.toList_empty, List.append_nil]

theorem getKey_toList (userId : String) :
    (config.getKey userId).toList = (config.getKey "").toList ++ userId.toList := by
  unfold getKey
  rw [String.toList_append,
    String.toList_append (s := "webauthn:get:" ++ config.rpId ++ ":") (t := ""),
    String.toList_empty, List.append_nil]

theorem challengeKey_inj_user (operation userId userId' : String)
    (same : config.challengeKey operation userId = config.challengeKey operation userId') :
    userId = userId' := by
  have chars := congrArg String.toList same
  simp only [challengeKey, String.toList_append, List.append_cancel_left_eq] at chars
  exact String.toList_inj.mp chars

/-- One verifier's keys tell users and operations apart as long as operations have no colon;
user ids may have some. -/
theorem challengeKey_inj (operation operation' userId userId' : String)
    (plain : ':' ∉ operation.toList) (plain' : ':' ∉ operation'.toList)
    (same : config.challengeKey operation userId = config.challengeKey operation' userId') :
    operation = operation' ∧ userId = userId' := by
  have chars := congrArg String.toList same
  have colon : (":" : String).toList = [':'] := rfl
  simp only [challengeKey, String.toList_append, colon, List.append_assoc, List.append_cancel_left_eq,
    List.singleton_append] at chars
  -- both operations are what stands before the first colon
  have parts := (Text.append_separator_inj ':' _ _ _ _ plain plain').mp chars
  have sameOperation : operation = operation' := String.toList_inj.mp parts.1
  exact ⟨sameOperation, config.challengeKey_inj_user operation' _ _ (sameOperation ▸ same)⟩

end WebAuthnConfig

/-! ### Challenges in a history -/

/-- A challenge text, for one operation of one user. -/
@[ext]
structure Challenge where
  operation : String
  userId : String
  text : String
  deriving DecidableEq

def WebAuthnConfig.keyOf (config : WebAuthnConfig) (c : Challenge) : String :=
  config.challengeKey c.operation c.userId

section Turns

variable {Env : Type}

/-- The challenge a section returns to the caller of `generate_challenge`. -/
def issued (turn : Turn Env) : Option Challenge :=
  match turn.point, turn.outcome with
  | .bindChallenge userId operation, .inr (.generated (.ok text)) => some ⟨operation, userId, text⟩
  | _, _ => none

/-- The challenge a section presents to the session store. -/
def presented (turn : Turn Env) : Option Challenge :=
  match turn.point with
  | .consumeCreate r => some ⟨"create", r.userId, r.challenge⟩
  | .consumeGet a => some ⟨"get", a.userId, a.challenge⟩
  | _ => none

/-- The challenge of a verification that returns `Ok` in this section. -/
def accepted (turn : Turn Env) : Option Challenge :=
  match turn.point, turn.outcome with
  | .insert r, .inr (.registered (.ok _)) => some ⟨"create", r.userId, r.challenge⟩
  | .raise a, .inr (.authenticated (.ok _)) => some ⟨"get", a.userId, a.challenge⟩
  | _, _ => none

theorem issued_cases (turn : Turn Env) (c : Challenge) (new : issued turn = some c) :
    turn.point = .bindChallenge c.userId c.operation := by
  unfold issued at new
  split at new
  next point _ =>
    cases new
    exact point
  next => cases new

theorem presented_cases (turn : Turn Env) (c : Challenge)
    (shown : presented turn = some c) :
    (∃ r, turn.point = .consumeCreate r ∧ c = ⟨"create", r.userId, r.challenge⟩) ∨
    (∃ a, turn.point = .consumeGet a ∧ c = ⟨"get", a.userId, a.challenge⟩) := by
  unfold presented at shown
  split at shown
  next r point => exact Or.inl ⟨r, point, (Option.some.inj shown).symm⟩
  next a point => exact Or.inr ⟨a, point, (Option.some.inj shown).symm⟩
  next => cases shown

theorem presented_operation (turn : Turn Env) (c : Challenge) (shown : presented turn = some c) :
    c.operation = "create" ∨ c.operation = "get" := by
  rcases presented_cases turn c shown with ⟨r, _, rfl⟩ | ⟨a, _, rfl⟩
  · exact Or.inl rfl
  · exact Or.inr rfl

theorem accepted_cases (turn : Turn Env) (c : Challenge) (accept : accepted turn = some c) :
    (∃ r, turn.point = .insert r ∧ c = ⟨"create", r.userId, r.challenge⟩) ∨
    (∃ a, turn.point = .raise a ∧ c = ⟨"get", a.userId, a.challenge⟩) := by
  unfold accepted at accept
  split at accept
  next r _ point _ => exact Or.inl ⟨r, point, (Option.some.inj accept).symm⟩
  next a _ point _ => exact Or.inr ⟨a, point, (Option.some.inj accept).symm⟩
  next => cases accept

/-- The section issues a challenge for the user and operation of `c`. -/
def Supersedes (c : Challenge) (turn : Turn Env) : Prop :=
  ∃ later, issued turn = some later ∧ later.operation = c.operation ∧ later.userId = c.userId

/-- `c` was issued and has not been superseded. -/
def Standing (c : Challenge) (history : List (Turn Env)) : Prop :=
  Since (fun turn => issued turn = some c) (fun turn => ¬ Supersedes c turn) history

end Turns

/-! ### What a store says about its bindings -/

/-- A reading of a store's bindings: `bind_state` puts one binding under its key, if it
succeeds; nothing else adds any; and where `consumes` holds, a successful `verify_state` removes
the binding of its key. -/
structure ChallengeView {Store Env Answer : Type} (port : ChallengeStore Store Env Answer)
    (Binding : Type) where
  binding : Store → String → Option Binding
  stores : Env → (value purpose : String) → (ttlSecs : UInt64) → Binding → Prop
  consumes : Prop
  binding_bind : ∀ env key value purpose ttlSecs store k b,
    binding (port.bindState env key value purpose ttlSecs store).1 k = some b →
      (k = key ∧ (port.bindState env key value purpose ttlSecs store).2 = .ok () ∧
        stores env value purpose ttlSecs b) ∨
      ((k = key → (port.bindState env key value purpose ttlSecs store).2 ≠ .ok ()) ∧
        binding store k = some b)
  binding_verify : ∀ env key value purpose store k b,
    binding (port.verifyState env key value purpose store).1 k = some b →
      binding store k = some b ∧
        (consumes → k = key →
          ∀ answer, (port.verifyState env key value purpose store).2 ≠ .ok answer)

section Runs

variable {Store Env Answer : Type} (lib : Externals) (config : WebAuthnConfig)
  (port : ChallengeStore Store Env Answer)

/-- The section puts the binding under the key. -/
def Binds {Binding : Type} (view : ChallengeView port Binding) (key : String) (b : Binding)
    (turn : Turn Env) : Prop :=
  ∃ c, issued turn = some c ∧ config.keyOf c = key ∧
    view.stores turn.input.env c.text PURPOSE config.challengeTtlSecs b

/-- The section issues a challenge under the key. -/
def Rebinds (key : String) (turn : Turn Env) : Prop :=
  ∃ c, issued turn = some c ∧ config.keyOf c = key

/-- The session store let a challenge presented under the key pass. -/
def Consumes (key : String) (turn : Turn Env) : Prop :=
  ∃ c, presented turn = some c ∧ config.keyOf c = key ∧ ∃ next, turn.outcome = .inl next

/-- A binding was put there by the last section that issued a challenge under its key; and where
verifications consume, none has succeeded since. -/
def Backed {Binding : Type} (view : ChallengeView port Binding) (store : Store)
    (history : List (Turn Env)) : Prop :=
  ∀ key b, view.binding store key = some b →
    Since (Binds config port view key b)
      (fun turn => ¬ Rebinds config key turn ∧ (view.consumes → ¬ Consumes config key turn)) history

/-- What a section does to the session store: it binds a new challenge, presents one, or leaves
the store alone. -/
theorem session_cases (turn : Turn Env) (v v' : WebAuthnVerifier Store)
    (advanced : (verifier lib config port).advance turn.args turn.point turn.input v =
      (v', turn.outcome)) :
    (∃ c, presented turn = none ∧
      v'.sessionStore = (port.bindState turn.input.env (config.keyOf c) c.text PURPOSE
        config.challengeTtlSecs v.sessionStore).1 ∧
      ((issued turn = some c ∧ (port.bindState turn.input.env (config.keyOf c) c.text PURPOSE
          config.challengeTtlSecs v.sessionStore).2 = .ok ()) ∨
        (issued turn = none ∧ (port.bindState turn.input.env (config.keyOf c) c.text PURPOSE
          config.challengeTtlSecs v.sessionStore).2 ≠ .ok ()))) ∨
    (∃ c, presented turn = some c ∧ issued turn = none ∧
      v'.sessionStore = (port.verifyState turn.input.env (config.keyOf c) c.text PURPOSE
        v.sessionStore).1 ∧
      ((∃ next, turn.outcome = .inl next) ↔ ∃ answer, (port.verifyState turn.input.env
        (config.keyOf c) c.text PURPOSE v.sessionStore).2 = .ok answer)) ∨
    (v'.sessionStore = v.sessionStore ∧ presented turn = none ∧ issued turn = none) := by
  obtain ⟨id, args, point, supply, outcome⟩ := turn
  dsimp only at advanced
  cases point with
  -- `generate_challenge` binds, the consuming sections verify, all others leave the store alone
  | bindChallenge userId operation =>
    refine Or.inl ⟨⟨operation, userId, lib.encode supply.bytes.toList⟩, rfl, ?_⟩
    cases advanced
    refine ⟨rfl, ?_⟩
    simp only [issued, WebAuthnVerifier.generateChallenge, WebAuthnConfig.keyOf]
    -- a challenge is issued only if the store has taken it
    cases (port.bindState supply.env (config.challengeKey operation userId)
      (lib.encode supply.bytes.toList) PURPOSE config.challengeTtlSecs v.sessionStore).2 with
    | ok done => exact Or.inl ⟨rfl, rfl⟩
    | err error => exact Or.inr ⟨rfl, by simp⟩
    | panicked => exact Or.inr ⟨rfl, by simp⟩
  | consumeCreate r =>
    have passes := consumeChallenge_ok_iff port supply.env (config.createKey r.userId) r.challenge v
    have key : config.keyOf ⟨"create", r.userId, r.challenge⟩ = config.createKey r.userId :=
      (config.createKey_eq r.userId).symm
    refine Or.inr (Or.inl ⟨⟨"create", r.userId, r.challenge⟩, rfl, rfl, ?_⟩)
    cases advanced
    simp only [key, ← passes]
    refine ⟨rfl, ?_⟩
    cases (v.consumeChallenge port supply.env (config.createKey r.userId) r.challenge).2 <;> simp
  | consumeGet a =>
    have passes := consumeChallenge_ok_iff port supply.env (config.getKey a.userId) a.challenge v
    have key : config.keyOf ⟨"get", a.userId, a.challenge⟩ = config.getKey a.userId :=
      (config.getKey_eq a.userId).symm
    refine Or.inr (Or.inl ⟨⟨"get", a.userId, a.challenge⟩, rfl, rfl, ?_⟩)
    cases advanced
    simp only [key, ← passes]
    refine ⟨rfl, ?_⟩
    cases (v.consumeChallenge port supply.env (config.getKey a.userId) a.challenge).2 <;> simp
  | checkUnique r =>
    cases advanced
    exact Or.inr (Or.inr ⟨rfl, rfl, rfl⟩)
  | insert r =>
    cases advanced
    exact Or.inr (Or.inr ⟨rfl, rfl, rfl⟩)
  | raise a =>
    cases advanced
    exact Or.inr (Or.inr ⟨rfl, rfl, rfl⟩)

/-- A challenge that lets its call go on was let pass by the session store. -/
theorem presented_passes (turn : Turn Env) (c : Challenge) (v v' : WebAuthnVerifier Store)
    (advanced : (verifier lib config port).advance turn.args turn.point turn.input v =
      (v', turn.outcome))
    (shown : presented turn = some c) (moved : ∃ next, turn.outcome = .inl next) :
    ∃ answer, (port.verifyState turn.input.env (config.keyOf c) c.text PURPOSE
      v.sessionStore).2 = .ok answer := by
  rcases session_cases lib config port turn v v' advanced with
    ⟨_, silent, _⟩ | ⟨c', shown', _, _, passes⟩ | ⟨_, silent, _⟩
  · rw [shown] at silent
    cases silent
  · cases shown.symm.trans shown'
    exact passes.mp moved
  · rw [shown] at silent
    cases silent

/-- One section keeps every binding backed by the history. -/
private theorem Backed.advance {Binding : Type} {view : ChallengeView port Binding}
    {history : List (Turn Env)} {v : WebAuthnVerifier Store}
    (backed : Backed config port view v.sessionStore history) (turn : Turn Env)
    (v' : WebAuthnVerifier Store)
    (advanced : (verifier lib config port).advance turn.args turn.point turn.input v =
      (v', turn.outcome)) :
    Backed config port view v'.sessionStore (history ++ [turn]) := by
  intro key b held
  rw [Since.concat_iff]
  rcases session_cases lib config port turn v v' advanced with
    ⟨c, silent, store, reply⟩ | ⟨c, shown, silent, store, passes⟩ | ⟨store, silent, silent'⟩
  · have unconsumed : ¬ Consumes config key turn := by
      rintro ⟨c', shown, _⟩
      rw [silent] at shown
      cases shown
    rw [store] at held
    -- the binding is the new one, or it was there and is not overwritten
    rcases view.binding_bind _ _ _ _ _ _ _ _ held with ⟨rfl, stored, puts⟩ | ⟨other, before⟩
    · rcases reply with ⟨new, _⟩ | ⟨_, refused⟩
      · exact Or.inl ⟨c, new, rfl, puts⟩
      · exact absurd stored refused
    · refine Or.inr ⟨backed key b before, ?_, fun _ => unconsumed⟩
      rintro ⟨c', new', same⟩
      rcases reply with ⟨new, stored⟩ | ⟨none, _⟩
      · cases new.symm.trans new'
        exact other same.symm stored
      · rw [none] at new'
        cases new'
  · -- a verification adds no binding, and the one it consumed is gone
    rw [store] at held
    obtain ⟨before, left⟩ := view.binding_verify _ _ _ _ _ _ _ held
    refine Or.inr ⟨backed key b before, ?_, ?_⟩
    · rintro ⟨c', new, _⟩
      rw [silent] at new
      cases new
    · rintro consumes ⟨c', shown', same, moved⟩
      cases shown.symm.trans shown'
      obtain ⟨answer, passed⟩ := passes.mp moved
      exact left consumes same.symm answer passed
  · rw [store] at held
    refine Or.inr ⟨backed key b held, ?_, ?_⟩
    · rintro ⟨c', new, _⟩
      rw [silent'] at new
      cases new
    · rintro _ ⟨c', shown, _⟩
      rw [silent] at shown
      cases shown

variable (store : Store) (schedule : List (Action Task (Supply Env)))

/-- Over a store that starts without bindings, every binding stays backed. -/
theorem backed_run {Binding : Type} (view : ChallengeView port Binding)
    (empty : ∀ key, view.binding store key = none) :
    Backed config port view ((verifier lib config port).run (.new store) schedule).1.shared.sessionStore
      ((verifier lib config port).run (.new store) schedule).2 := by
  refine (verifier lib config port).invariant
    (fun world history => Backed config port view world.shared.sessionStore history)
    (.new store) ?_ (fun world history _ _ backed _ => backed) ?_ schedule
  · intro key b held
    rw [show view.binding (World.idle (WebAuthnVerifier.new store)).shared.sessionStore key = none
      from empty key] at held
    cases held
  · intro world history id args point supply shared outcome backed _ advanced
    exact backed.advance lib config port _ shared advanced

/-- The call of an accepted challenge presented it to the session store, which let it pass. -/
theorem accepted_presented (before after : List (Turn Env)) (turn : Turn Env) (c : Challenge)
    (split : ((verifier lib config port).run (.new store) schedule).2 = before ++ turn :: after)
    (accept : accepted turn = some c) :
    ∃ first consumption between, before = first ++ consumption :: between ∧
      consumption.id = turn.id ∧ presented consumption = some c ∧
      ∃ next, consumption.outcome = .inl next := by
  rcases accepted_cases turn c accept with ⟨r, insertion, rfl⟩ | ⟨a, raising, rfl⟩
  · -- back from the insertion to the check, and from there to the consumption
    obtain ⟨first, check, between, rfl, sameId, point, _⟩ :=
      prior_section lib config port _ schedule before after turn split (.checkUnique r)
        (by rw [insertion]; rfl)
    rw [List.append_assoc, List.cons_append] at split
    obtain ⟨start, consumption, rest, rfl, sameId', consume, moved⟩ :=
      prior_section lib config port _ schedule first _ check split (.consumeCreate r)
        (by rw [point]; rfl)
    refine ⟨start, consumption, rest ++ check :: between, by simp, sameId'.trans sameId, ?_,
      _, moved⟩
    simp only [presented, consume]
  · obtain ⟨first, consumption, between, rfl, sameId, consume, moved⟩ :=
      prior_section lib config port _ schedule before after turn split (.consumeGet a)
        (by rw [raising]; rfl)
    refine ⟨first, consumption, between, rfl, sameId, ?_, _, moved⟩
    simp only [presented, consume]

end Runs

end AuthKit.WebAuthn
