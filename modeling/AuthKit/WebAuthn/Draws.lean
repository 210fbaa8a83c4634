import AuthKit.Library.Base64
import AuthKit.WebAuthn.Contract

/-!
# Challenges as draws of random bytes

A challenge is the base64url text of 32 random bytes. The text loses nothing, so whatever holds of
distinct challenges holds of distinct draws.
-/
namespace AuthKit.WebAuthn

open Execution AuthKit.Domain

/-- The random bytes of a section that issues a challenge. -/
def drawn {Env : Type} (turn : Turn Env) : Option (Vector UInt8 32) :=
  (issued turn).map fun _ => turn.input.bytes

section Draws

variable {Store Env Answer : Type} (lib : Externals) (config : WebAuthnConfig)
  (port : ChallengeStore Store Env Answer) (store : Store)
  (schedule : List (Action Task (Supply Env)))

/-- What is issued is the encoding of the bytes that were drawn. -/
theorem issued_text (turn : Turn Env) (c : Challenge)
    (member : turn ∈ ((verifier lib config port).run (.new store) schedule).2)
    (new : issued turn = some c) : c.text = lib.encode turn.input.bytes.toList := by
  obtain ⟨before, after, split⟩ := List.append_of_mem member
  obtain ⟨earlier, _, _, _, _, outcome⟩ :=
    (verifier lib config port).reached _ schedule before after turn split
  have point := issued_cases turn c new
  unfold issued at new
  split at new
  next userId operation text _ returned =>
    cases new
    rw [point] at outcome
    have generated := outcome.trans returned
    simp only [verifier, advanceTask, Sum.inr.injEq, Reply.generated.injEq,
      WebAuthnVerifier.generateChallenge, Outcome.map_eq_ok_iff] at generated
    obtain ⟨_, _, same⟩ := generated
    exact same.symm
  next => cases new

/-- The texts of a run are distinct iff the draws are. -/
theorem texts_nodup_iff
    (rfc : ∀ data, (lib.encode data).toList = Base64.encode Base64.urlSafe data)
    (history : List (Turn Env))
    (part : ∀ turn ∈ history, turn ∈ ((verifier lib config port).run (.new store) schedule).2) :
    (history.filterMap fun turn => (issued turn).map (·.text)).Nodup ↔
      (history.filterMap drawn).Nodup := by
  have encoded : (history.filterMap fun turn => (issued turn).map (·.text)) =
      (history.filterMap drawn).map fun bytes => lib.encode bytes.toList := by
    rw [List.map_filterMap]
    apply List.filterMap_congr
    intro turn member
    cases new : issued turn with
    | none => simp [drawn, new]
    | some c =>
      simp only [drawn, new, Option.map_some]
      rw [issued_text lib config port store schedule turn c (part turn member) new]
  rw [encoded]
  refine ⟨List.Nodup.of_map _, fun distinct => distinct.map ?_⟩
  intro bytes bytes' same
  have symbols := congrArg String.toList same
  rw [rfc, rfc] at symbols
  exact Vector.toList_inj.mp (Base64.encode_inj Base64.urlSafe (Or.inr rfl) _ _ symbols)

end Draws

section SingleUse

variable {Store Env Answer : Type} (lib : Externals) (config : WebAuthnConfig)
  {port : ChallengeStore Store Env Answer} (contract : Contract port) (store : Store)
  (schedule : List (Action Task (Supply Env)))

/-- In every interleaving over a store that keeps the documented contract, every issued challenge is
a text of 43 base64url symbols, and as long as no bytes are drawn twice, no two calls are accepted
with one challenge. -/
theorem drawn_challenges_single_use
    (rfc : ∀ data, (lib.encode data).toList = Base64.encode Base64.urlSafe data)
    (documented : DocumentedOperations schedule)
    (empty : ∀ key, contract.binding store key = none) (history : List (Turn Env))
    (ran : history = ((verifier lib config port).run (.new store) schedule).2) :
    (∀ turn ∈ history, ∀ c, issued turn = some c →
      c.text.toList.length = 43 ∧
        ∀ character ∈ c.text.toList, ∃ value < 64, character = Base64.symbol Base64.urlSafe value) ∧
    ((history.filterMap drawn).Nodup →
      ∀ turn ∈ history, ∀ turn' ∈ history, ∀ c c', accepted turn = some c →
        accepted turn' = some c' → c.text = c'.text → turn.id = turn'.id) := by
  subst ran
  constructor
  · intro turn member c new
    rw [issued_text lib config port store schedule turn c member new, rfc]
    refine ⟨?_, Base64.symbol_of_mem_encode Base64.urlSafe _⟩
    rw [Base64.length_encode, Vector.length_toList]
    rfl
  · intro distinct turn member turn' member' c c' accept accept' sameText
    have fresh := (texts_nodup_iff lib config port store schedule rfc _ fun _ part => part).mpr distinct
    obtain ⟨generation, answers⟩ := accepted_answered lib config contract store schedule documented
      empty turn c member accept
    obtain ⟨generation', answers'⟩ := accepted_answered lib config contract store schedule documented
      empty turn' c' member' accept'
    obtain rfl := generation_unique config contract _ fresh c c' _ _ _ _ answers answers' sameText
    exact answers_inj lib config contract store schedule c c' _ _ _ answers answers'

end SingleUse

/-! ### A race for one draw -/

def rfcExternals : Externals :=
  { sampleExternals with encode := fun data => .ofList (Base64.encode Base64.urlSafe data) }

theorem raced_draw_single_use :
    let history := ((verifier rfcExternals sampleConfig documentedPort).run (.new ∅)
      racedChallenge).2
    (history.filterMap fun turn => (issued turn).map (·.text)) = [zeroChallenge] ∧
      ∀ turn ∈ history, ∀ turn' ∈ history, ∀ c c', accepted turn = some c →
        accepted turn' = some c' → c.text = c'.text → turn.id = turn'.id := by
  intro history
  have documented : DocumentedOperations racedChallenge := by
    intro id userId operation made
    simp [racedChallenge] at made
    exact Or.inl made.2.2
  have distinct : (history.filterMap drawn).Nodup := by decide +kernel
  refine ⟨by decide +kernel, ?_⟩
  exact (drawn_challenges_single_use rfcExternals sampleConfig documentedContract ∅ racedChallenge
    (fun data => by simp [rfcExternals]) documented (fun _ => rfl) history rfl).2 distinct

end AuthKit.WebAuthn
