import AuthKit.WebAuthn.Admission

/-!
# Challenge keys of several relying parties

A challenge is kept for an operation, a relying party and a user; the three are joined with
colons and none of them is escaped. The verifiers of several relying parties may share one session
store, and then the keys have to tell their challenges apart.
-/
namespace AuthKit.WebAuthn

open Execution AuthKit.Domain

/-- What a challenge is kept for. -/
@[ext]
structure ChallengeTuple where
  operation : String
  rpId : String
  userId : String
  deriving DecidableEq

namespace ChallengeTuple

/-- One of the two operations that `generate_challenge` documents. -/
def Documented (t : ChallengeTuple) : Prop := t.operation = "create" ∨ t.operation = "get"

def key (t : ChallengeTuple) : String :=
  "webauthn:" ++ t.operation ++ ":" ++ t.rpId ++ ":" ++ t.userId

/-- For the same operation, the relying party id of `t'` is that of `t` continued after a colon,
and the user id of `t` starts with that continuation, a colon, and ends in the user id of `t'`. -/
def Extends (t t' : ChallengeTuple) : Prop :=
  t.operation = t'.operation ∧
    ∃ middle, t'.rpId = t.rpId ++ ":" ++ middle ∧ t.userId = middle ++ ":" ++ t'.userId

def Overlaps (t t' : ChallengeTuple) : Prop := t.Extends t' ∨ t'.Extends t

theorem Documented.plain {t : ChallengeTuple} (documented : t.Documented) :
    ':' ∉ t.operation.toList := by
  rcases documented with create | get
  · rw [create]
    decide
  · rw [get]
    decide

private theorem colon : (":" : String).toList = [':'] := rfl

/-- What stands after the operation in a key. -/
private theorem party_and_user_eq_iff (rpId userId rpId' userId' : String) :
    rpId.toList ++ ':' :: userId.toList = rpId'.toList ++ ':' :: userId'.toList ↔
      (rpId = rpId' ∧ userId = userId') ∨
      (∃ middle, rpId' = rpId ++ ":" ++ middle ∧ userId = middle ++ ":" ++ userId') ∨
      (∃ middle, rpId = rpId' ++ ":" ++ middle ∧ userId' = middle ++ ":" ++ userId) := by
  have continued (a b c d : String) :
      (∃ middle : List Char, a.toList = b.toList ++ ':' :: middle ∧
        c.toList = middle ++ ':' :: d.toList) ↔
      ∃ middle : String, a = b ++ ":" ++ middle ∧ c = middle ++ ":" ++ d := by
    simp only [← String.toList_inj, String.toList_append, colon, List.append_assoc,
      List.singleton_append]
    constructor
    · rintro ⟨middle, first, second⟩
      exact ⟨.ofList middle, by rw [String.toList_ofList, first], by rw [String.toList_ofList, second]⟩
    · rintro ⟨middle, first, second⟩
      exact ⟨middle.toList, first, second⟩
  rw [Text.append_separator_eq_iff, continued, continued, String.toList_inj, String.toList_inj]

theorem key_eq_iff (t t' : ChallengeTuple) (documented : t.Documented)
    (documented' : t'.Documented) : t.key = t'.key ↔ t = t' ∨ t.Overlaps t' := by
  have joined : t.key = t'.key ↔ t.operation = t'.operation ∧
      t.rpId.toList ++ ':' :: t.userId.toList = t'.rpId.toList ++ ':' :: t'.userId.toList := by
    rw [← String.toList_inj]
    simp only [key, String.toList_append, colon, List.append_assoc, List.append_cancel_left_eq,
      List.cons_append, List.nil_append]
    rw [Text.append_separator_inj _ _ _ _ _ documented.plain documented'.plain, String.toList_inj]
  rw [joined, party_and_user_eq_iff, ChallengeTuple.ext_iff, Overlaps, Extends, Extends,
    eq_comm (a := t'.operation), ← and_or_left, ← and_or_left]

/-- Tuples that overlap are different: one relying party id is longer. -/
theorem Extends.ne {t t' : ChallengeTuple} (extends' : t.Extends t') : t ≠ t' := by
  rintro rfl
  obtain ⟨_, middle, longer, _⟩ := extends'
  have lengths := congrArg String.length longer
  simp only [String.length_append] at lengths
  have colonLength : (":" : String).length = 1 := rfl
  omega

theorem Overlaps.ne {t t' : ChallengeTuple} (overlaps : t.Overlaps t') : t ≠ t' := by
  rcases overlaps with forward | backward
  · exact forward.ne
  · exact backward.ne.symm

end ChallengeTuple

/-- The tuple that a call of the configured verifier is about. -/
def Ceremony.tuple {Env : Type} (config : WebAuthnConfig) : Ceremony Env → ChallengeTuple
  | .generate _ _ userId operation => ⟨operation, config.rpId, userId⟩
  | .register _ _ r => ⟨"create", config.rpId, r.userId⟩
  | .authenticate _ a => ⟨"get", config.rpId, a.userId⟩

/-- All three calls join their tuple in the same way. -/
theorem Ceremony.sessionKey_eq {Env : Type} (config : WebAuthnConfig) (call : Ceremony Env) :
    call.sessionKey config = (call.tuple config).key := by
  cases call with
  | generate env bytes userId operation => rfl
  | register env createdAt r => exact config.createKey_eq r.userId
  | authenticate env a => exact config.getKey_eq a.userId

/-- The keys of two calls, of the same or of different relying parties, are equal iff their tuples
are, exactly when neither tuple's relying party id continues into the other's user id. -/
theorem keys_identify_tuples_iff {Env : Type} (rpId rpId' : String)
    (allowedOrigins allowedOrigins' : List String) (call call' : Ceremony Env)
    (documented : (call.tuple (.new rpId allowedOrigins)).Documented)
    (documented' : (call'.tuple (.new rpId' allowedOrigins')).Documented) :
    (call.sessionKey (.new rpId allowedOrigins) = call'.sessionKey (.new rpId' allowedOrigins') ↔
      call.tuple (.new rpId allowedOrigins) = call'.tuple (.new rpId' allowedOrigins')) ↔
    ¬ (call.tuple (.new rpId allowedOrigins)).Overlaps
      (call'.tuple (.new rpId' allowedOrigins')) := by
  rw [Ceremony.sessionKey_eq, Ceremony.sessionKey_eq,
    ChallengeTuple.key_eq_iff _ _ documented documented', or_iff_left_iff_imp]
  constructor
  · intro equal overlaps
    exact overlaps.ne (equal overlaps)
  · intro apart overlaps
    exact absurd overlaps apart

/-- A user called `8080:alice` of one relying party, and `alice` of another whose id ends in a
port. -/
theorem port_in_user_id_collides :
    let call : Ceremony Int := .generate 0 (sampleBytes 0) "8080:alice" "get"
    let call' : Ceremony Int := .generate 0 (sampleBytes 1) "alice" "get"
    call.sessionKey (.new "localhost" []) = call'.sessionKey (.new "localhost:8080" []) ∧
      call.tuple (.new "localhost" []) ≠ call'.tuple (.new "localhost:8080" []) := by
  decide

/-- A colon in a user id alone does no harm. -/
theorem colon_in_user_id_alone :
    let call : Ceremony Int := .generate 0 (sampleBytes 0) "a:b" "get"
    let call' : Ceremony Int := .generate 0 (sampleBytes 1) "b" "get"
    ¬ (call.tuple (.new "auth.example.com" [])).Overlaps
      (call'.tuple (.new "auth.example.com" [])) := by
  intro call call'
  have apart := keys_identify_tuples_iff "auth.example.com" "auth.example.com" [] [] call call'
    (Or.inr rfl) (Or.inr rfl)
  exact apart.mp (by decide)

/-! ### One session store for several relying parties -/

/-- The verifiers of several parties: each has a registry of its own. -/
structure Deployment (Party Store : Type) where
  sessionStore : Store
  credentials : Party → Registry

section Sharing

variable {Party Store Env Answer : Type} [DecidableEq Party] (lib : Externals)
  (configs : Party → WebAuthnConfig) (port : ChallengeStore Store Env Answer)

def Deployment.verifierOf (d : Deployment Party Store) (party : Party) : WebAuthnVerifier Store :=
  ⟨d.sessionStore, d.credentials party⟩

def Deployment.serve (d : Deployment Party Store) (party : Party) (call : Ceremony Env) :
    Deployment Party Store × Reply :=
  let performed := (d.verifierOf party).perform lib (configs party) port call
  (⟨performed.1.sessionStore, Function.update d.credentials party performed.1.credentials⟩,
    performed.2)

/-- The parties' calls in the order in which they are served. -/
def deployment : Machine (Deployment Party Store) (Party × Ceremony Env) Reply where
  step d served :=
    let result := d.serve lib configs port served.1 served.2
    (result.1, [result.2])

variable {port} (contract : Contract port)

/-- A challenge generated for a tuple is bound to the key of every tuple that overlaps with it. -/
theorem overlapping_generation_overwrites (d : Deployment Party Store) (party : Party) (env : Env)
    (bytes : Vector UInt8 32) (userId operation : String) (t : ChallengeTuple)
    (documented : t.Documented)
    (generated : (⟨operation, (configs party).rpId, userId⟩ : ChallengeTuple).Documented)
    (overlaps : t.Overlaps ⟨operation, (configs party).rpId, userId⟩) :
    contract.binding (d.serve lib configs port party (.generate env bytes userId operation)).1.sessionStore
        t.key =
      some ⟨lib.encode bytes.toList, PURPOSE,
        contract.clock env + ttlNanos (configs party).challengeTtlSecs⟩ := by
  have sameKey : t.key = (configs party).challengeKey operation userId :=
    (t.key_eq_iff _ documented generated).mpr (Or.inr overlaps)
  exact (contract.binding_bind _ _ _ _ _ _ _).trans (if_pos sameKey)

/-- Whatever the parties do, a binding stays until a call for its own tuple or for one that
overlaps with it. -/
theorem deployment_keeps_binding (t : ChallengeTuple) (documented : t.Documented)
    (served : List (Party × Ceremony Env)) (d : Deployment Party Store)
    (foreign : ∀ call ∈ served, (call.2.tuple (configs call.1)).Documented ∧
      t ≠ call.2.tuple (configs call.1) ∧ ¬ t.Overlaps (call.2.tuple (configs call.1))) :
    contract.binding ((deployment lib configs port).exec d served).1.sessionStore t.key =
      contract.binding d.sessionStore t.key := by
  induction served generalizing d with
  | nil => rfl
  | cons call rest ih =>
    refine (ih _ fun later member => foreign later (List.mem_cons_of_mem _ member)).trans ?_
    obtain ⟨standard, other, apart⟩ := foreign call List.mem_cons_self
    have elsewhere : call.2.sessionKey (configs call.1) ≠ t.key := by
      rw [Ceremony.sessionKey_eq, Ne, eq_comm, ChallengeTuple.key_eq_iff _ _ documented standard]
      rintro (same | overlaps)
      · exact other same
      · exact apart overlaps
    exact perform_binding lib (configs call.1) contract call.2 (d.verifierOf call.1) t.key elsewhere

end Sharing

end AuthKit.WebAuthn
