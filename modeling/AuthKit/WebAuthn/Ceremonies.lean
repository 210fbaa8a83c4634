import AuthKit.WebAuthn.Interleaving

/-!
# Uninterrupted ceremonies

A verifier serving one call after the other; such a run is one of the interleavings. A call that
is turned away should leave the registry alone; an assertion whose signature check fails does
not, because the sign count is stored before the signature is looked at.
-/
namespace AuthKit.WebAuthn

open Execution AuthKit.Domain

/-- A call with what its environment supplies: clock readings, random bytes, a timestamp. -/
inductive Ceremony (Env : Type) where
  | generate (env : Env) (bytes : Vector UInt8 32) (userId operation : String)
  | register (env : Env) (createdAt : String) (r : Registration)
  | authenticate (env : Env) (a : Authentication)

structure Performed (Store Env : Type) where
  before : WebAuthnVerifier Store
  call : Ceremony Env
  reply : Reply
  after : WebAuthnVerifier Store

/-- The call returned an error to its caller. -/
def Reply.Failed : Reply → Prop
  | .generated result => ∃ error, result = .err error
  | .registered result => ∃ error, result = .err error
  | .authenticated result => ∃ error, result = .err error

section Sequential

variable {Store Env Answer : Type} (lib : Externals) (config : WebAuthnConfig)
  (port : ChallengeStore Store Env Answer)

def WebAuthnVerifier.perform (v : WebAuthnVerifier Store) :
    Ceremony Env → WebAuthnVerifier Store × Reply
  | .generate env bytes userId operation =>
      let called := v.generateChallenge lib config port env bytes userId operation
      (called.1, .generated called.2)
  | .register env createdAt r =>
      let called := v.verifyRegistration lib config port env createdAt r
      (called.1, .registered called.2)
  | .authenticate env a =>
      let called := v.verifyAuthentication lib config port env a
      (called.1, .authenticated called.2)

def ceremonies : Machine (WebAuthnVerifier Store) (Ceremony Env) (Performed Store Env) where
  step v call :=
    let performed := v.perform lib config port call
    (performed.1, [⟨v, call, performed.2, performed.1⟩])

/-- An assertion that passes every check before the signature check, on a credential that was
registered with an empty public key. -/
def Ceremony.AssertsKeyless (v : WebAuthnVerifier Store) : Ceremony Env → Prop
  | .generate _ _ _ _ => False
  | .register _ _ _ => False
  | .authenticate env a =>
      authenticationChecks lib config a = .ok () ∧
      (∃ answer, (port.verifyState env (config.getKey a.userId) a.challenge PURPOSE
        v.sessionStore).2 = .ok answer) ∧
      ∃ cred, v.credentials.stored a.userId a.credentialId = some cred ∧
        cred.signCount < a.authenticatorData.signCount ∧ cred.publicKey = []

/-- No registration that fails has touched the registry. -/
theorem verifyRegistration_err (env : Env) (createdAt : String) (r : Registration)
    (v : WebAuthnVerifier Store) (error : WebAuthnError)
    (failed : (v.verifyRegistration lib config port env createdAt r).2 = .err error) :
    (v.verifyRegistration lib config port env createdAt r).1.credentials = v.credentials := by
  rcases verifyRegistration_cases lib config port env createdAt r v with
    ⟨_, _, result⟩ | ⟨_, _, _, _, result⟩ | ⟨_, _, _, result⟩ | ⟨_, _, _, result⟩
  · rw [result]
  · rw [result]
    exact consumeChallenge_credentials port env (config.createKey r.userId) r.challenge v
  · rw [result]
    exact consumeChallenge_credentials port env (config.createKey r.userId) r.challenge v
  · -- only the branch that inserts changes the registry, and it succeeds
    rw [result] at failed
    cases failed

/-- The write-locked section followed by the signature check keeps the registry when it fails,
unless the count was raised for a credential without a key. -/
theorem raiseAndVerify_err_iff (a : Authentication) (v : WebAuthnVerifier Store) :
    ((∃ error, (v.raiseAndVerify a).2 = .error error) →
        (v.raiseAndVerify a).1.credentials = v.credentials) ↔
      ¬ ∃ cred, v.credentials.stored a.userId a.credentialId = some cred ∧
        cred.signCount < a.authenticatorData.signCount ∧ cred.publicKey = [] := by
  unfold WebAuthnVerifier.raiseAndVerify
  rcases v.credentials.raiseCount_cases a.userId a.credentialId a.authenticatorData.signCount with
    ⟨absent, result⟩ | ⟨cred, found, low, result⟩ | ⟨cred, found, higher, result⟩
  · simp [result, absent]
  · have notHigher : ¬ cred.signCount < a.authenticatorData.signCount := UInt32.not_lt.mpr low
    simp [result, found, notHigher]
  · have raised := v.credentials.stored_raised a.userId a.credentialId
      a.authenticatorData.signCount a.userId a.credentialId
    -- the stored count tells the registries apart
    have moved : v.credentials.insert a.userId (Registry.setSignCount a.credentialId
        a.authenticatorData.signCount (v.credentials.listCredentials a.userId)) ≠ v.credentials := by
      intro same
      rw [same, found, Option.map_some, if_pos ⟨rfl, rfl⟩, Option.some.injEq] at raised
      have equal : cred.signCount = a.authenticatorData.signCount :=
        congrArg WebAuthnCredential.signCount raised
      exact absurd (equal ▸ higher) (UInt32.lt_irrefl _)
    simp only [result, found, Except.bind, verifySignature, moved, imp_false, not_exists,
      Option.some.injEq, exists_eq_left', higher, true_and]
    cases cred.publicKey <;> simp

theorem verifyAuthentication_err_iff (env : Env) (a : Authentication)
    (v : WebAuthnVerifier Store) :
    ((∃ error, (v.verifyAuthentication lib config port env a).2 = .err error) →
        (v.verifyAuthentication lib config port env a).1.credentials = v.credentials) ↔
      ¬ (Ceremony.authenticate env a).AssertsKeyless lib config port v := by
  have kept := consumeChallenge_credentials port env (config.getKey a.userId) a.challenge v
  have passes := consumeChallenge_ok_iff port env (config.getKey a.userId) a.challenge v
  unfold Ceremony.AssertsKeyless
  rcases verifyAuthentication_cases lib config port env a v with
    ⟨error, checked, result⟩ | ⟨checked, refused, _, _, result⟩ | ⟨checked, passed, result⟩
  · simp [result, checked]
  · simp [result, kept, ← passes, refused]
  · have raise := raiseAndVerify_err_iff a
      (v.consumeChallenge port env (config.getKey a.userId) a.challenge).1
    rw [kept] at raise
    simp only [result, checked, ← passes, passed, true_and, ← raise, Outcome.ofExcept_eq_err_iff]

/-- One call keeps the registry on failure iff it does not assert a credential without a key. -/
theorem perform_failed_iff (call : Ceremony Env) (v : WebAuthnVerifier Store) :
    ((v.perform lib config port call).2.Failed →
        (v.perform lib config port call).1.credentials = v.credentials) ↔
      ¬ call.AssertsKeyless lib config port v := by
  cases call with
  | generate env bytes userId operation =>
    exact iff_of_true (fun _ => rfl) (fun impossible => impossible)
  | register env createdAt r =>
    refine iff_of_true ?_ (fun impossible => impossible)
    rintro ⟨error, failed⟩
    exact verifyRegistration_err lib config port env createdAt r v error failed
  | authenticate env a => exact verifyAuthentication_err_iff lib config port env a v

/-! ### Uninterrupted calls among the interleavings -/

def Ceremony.task : Ceremony Env → Task
  | .generate _ _ userId operation => .generate userId operation
  | .register _ _ r => .register r
  | .authenticate _ a => .authenticate a

/-- What the environment supplies to the call's sections. -/
def Ceremony.supplies : Ceremony Env → List (Supply Env)
  | .generate env bytes _ _ => [⟨env, bytes, ""⟩]
  | .register env createdAt _ => List.replicate 3 ⟨env, Vector.replicate 32 0, createdAt⟩
  | .authenticate env _ => List.replicate 2 ⟨env, Vector.replicate 32 0, ""⟩

/-- A schedule that never interrupts a call. The calls are named from `first` on. -/
def uninterrupted (first : Nat) : List (Ceremony Env) → List (Action Task (Supply Env))
  | [] => []
  | call :: rest =>
      .invoke first call.task :: call.supplies.map (.advance first) ++ uninterrupted (first + 1) rest

theorem perform_solo (call : Ceremony Env) (v : WebAuthnVerifier Store) :
    (verifier lib config port).solo call.task v ((verifier lib config port).start call.task)
        call.supplies =
      ((v.perform lib config port call).1, .inr (v.perform lib config port call).2) := by
  cases call with
  | generate env bytes userId operation =>
    exact generation_solo lib config port userId operation _ v
  | register env createdAt r => exact registration_solo lib config port r _ _ _ v
  | authenticate env a => exact authentication_solo lib config port a _ _ v

/-- Serving calls one after the other is running an interleaving in which none of them is
interrupted. -/
theorem exec_uninterrupted (calls : List (Ceremony Env)) (first : Nat)
    (world : World (WebAuthnVerifier Store) Task Point Reply)
    (unused : ∀ id, first ≤ id → world.calls id = none) :
    ((verifier lib config port).machine.exec world (uninterrupted first calls)).1.shared =
      ((ceremonies lib config port).exec world.shared calls).1 := by
  induction calls generalizing first world with
  | nil => rfl
  | cons call rest ih =>
    rw [uninterrupted, Machine.exec_append,
      (verifier lib config port).exec_solo world first call.task (unused first (Nat.le_refl first)),
      perform_solo]
    apply ih (first + 1)
    intro id later
    have other : id ≠ first := by omega
    simp only [Function.update_of_ne other]
    exact unused id (by omega)

/-! ### What a failed call leaves behind -/

/-- In every run of uninterrupted calls, from any state that any interleaving reaches, a call
that returns an error leaves the credential registry exactly as it found it iff the call is not
an assertion, otherwise in order, on a credential with an empty public key. -/
theorem failed_ceremony_keeps_registry_iff (store : Store)
    (schedule : List (Action Task (Supply Env))) (calls : List (Ceremony Env))
    (performed : Performed Store Env)
    (member : performed ∈ ((ceremonies lib config port).exec
      ((verifier lib config port).run (.new store) schedule).1.shared calls).2) :
    (performed.reply.Failed → performed.after.credentials = performed.before.credentials) ↔
      ¬ performed.call.AssertsKeyless lib config port performed.before := by
  refine (ceremonies lib config port).invariant
    (fun _ history => ∀ performed ∈ history,
      ((performed.reply.Failed → performed.after.credentials = performed.before.credentials) ↔
        ¬ performed.call.AssertsKeyless lib config port performed.before))
    _ (by simp) ?_ calls performed member
  intro v history call earlier performed member
  rcases List.mem_append.mp member with old | new
  · exact earlier performed old
  · rw [List.mem_singleton.mp new]
    exact perform_failed_iff lib config port call v

end Sequential

/-! ### A relying party -/

def sampleConfig : WebAuthnConfig := .new "auth.example.com" ["https://app.example.com"]

/-- The SHA-256 digest of `auth.example.com`. -/
def sampleHash : Vector UInt8 32 :=
  #v[194, 4, 200, 84, 255, 229, 243, 90, 59, 133, 32, 139, 217, 137, 198, 13, 28, 86, 213, 108,
    253, 154, 110, 47, 88, 242, 139, 150, 209, 126, 7, 51]

def sampleBytes (byte : UInt8) : Vector UInt8 32 := Vector.replicate 32 byte

/-- The challenges of three draws, in unpadded base64url. -/
def zeroChallenge : String := "AAAAAAAAAAAAAAAAAAAAAAAAAAAAAAAAAAAAAAAAAAA"
def oneChallenge : String := "AQEBAQEBAQEBAQEBAQEBAQEBAQEBAQEBAQEBAQEBAQE"
def fullChallenge : String := "__________________________________________8"

def sampleEncode (bytes : List UInt8) : String :=
  if bytes = List.replicate 32 0 then zeroChallenge
  else if bytes = List.replicate 32 1 then oneChallenge
  else if bytes = List.replicate 32 255 then fullChallenge
  else ""

/-- The JSON text of client data whose fields need no escapes. -/
def clientDataText (data : CollectedClientData) : String :=
  "\x7b\"challenge\":\"" ++ data.challenge ++ "\",\"crossOrigin\":false,\"origin\":\"" ++
    data.origin ++ "\",\"type\":\"" ++ data.ty ++ "\"\x7d"

def sampleClientData (ty challenge : String) : CollectedClientData :=
  ⟨ty, challenge, "https://app.example.com"⟩

def sampleParse (json : String) : Except String CollectedClientData :=
  let known := ["webauthn.create", "webauthn.get"].flatMap fun ty =>
    [zeroChallenge, oneChallenge, fullChallenge].map (sampleClientData ty)
  match known.find? fun data => decide (clientDataText data = json) with
  | some data => .ok data
  | none => .error "expected value at line 1 column 1"

def sampleExternals : Externals where
  sha256 bytes := if bytes = Text.utf8 sampleConfig.rpId.toList then sampleHash else sampleBytes 0
  encode := sampleEncode
  fromStr := sampleParse

def sampleData (signCount : UInt32) : AuthenticatorData :=
  ⟨sampleHash, ⟨true, true, false, false, false, false⟩, signCount⟩

def sampleRegistration (userId challenge : String) (publicKey : List UInt8) : Registration :=
  ⟨userId, challenge, sampleData 1, clientDataText (sampleClientData "webauthn.create" challenge),
    [7], publicKey⟩

def sampleAuthentication (userId challenge : String) (signCount : UInt32) : Authentication :=
  ⟨userId, challenge, sampleData signCount,
    clientDataText (sampleClientData "webauthn.get" challenge), [7]⟩

def sampleReadings : InMemorySessionStore.Readings := ⟨.ofSeconds 0, .ofSeconds 0⟩

/-- An assertion on a credential nobody registered is refused and changes nothing. -/
theorem unknown_credential_keeps_registry :
    let performed := ((ceremonies sampleExternals sampleConfig
      (.ofPort InMemorySessionStore.port)).exec (.new .new)
        [.authenticate sampleReadings (sampleAuthentication "alice" fullChallenge 5)]).2.get
          ⟨0, by decide⟩
    performed.reply = .authenticated (.err .credentialNotFound) ∧
      performed.after.credentials = performed.before.credentials := by
  intro performed
  have refused : performed.reply = .authenticated (.err .credentialNotFound) := by decide
  have unknown : performed.before.credentials.stored "alice" [7] = none := by decide
  refine ⟨refused, (failed_ceremony_keeps_registry_iff _ _ _ _ [] _ performed
    (List.get_mem _ _)).mpr ?_ ?_⟩
  · rintro ⟨_, _, cred, found, _⟩
    cases unknown.symm.trans found
  · rw [refused]
    exact ⟨_, rfl⟩

/-- `alice` registers a credential with an empty public key and count 1, then asserts count 5. -/
def keylessCalls : List (Ceremony InMemorySessionStore.Readings) :=
  [.generate sampleReadings (sampleBytes 0) "alice" "create",
    .register sampleReadings "1970-01-01T00:00:00+00:00" (sampleRegistration "alice" zeroChallenge []),
    .generate sampleReadings (sampleBytes 255) "alice" "get",
    .authenticate sampleReadings (sampleAuthentication "alice" fullChallenge 5)]

/-- The assertion is refused, and the stored count has moved from 1 to 5. -/
theorem keyless_assertion_moves_count :
    let history := ((ceremonies sampleExternals sampleConfig (.ofPort InMemorySessionStore.port)).exec
      (.new .new) keylessCalls).2
    (history[3]?.map fun performed =>
      (performed.reply, (performed.before.credentials.stored "alice" [7]).map (·.signCount),
        (performed.after.credentials.stored "alice" [7]).map (·.signCount))) =
      some (.authenticated (.err .credentialNotFound), some 1, some 5) := by
  decide

end AuthKit.WebAuthn
