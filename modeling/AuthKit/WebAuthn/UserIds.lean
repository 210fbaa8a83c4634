import AuthKit.Library.Hex
import AuthKit.WebAuthn.ChallengeKeys

/-!
# User ids from UUIDs

`user_id_from_uuid` is the one way in which the module makes user ids itself. Its texts have no
colon, so the parties that share a session store cannot get at each other's challenges.
-/
namespace AuthKit.WebAuthn

open Execution AuthKit.Domain

/-- `Uuid::to_string`: different UUIDs have different texts, and hyphens are the only punctuation. -/
structure UuidCrate (Uuid : Type) where
  toString : Uuid → String
  toString_inj : Function.Injective toString
  notMem_colon : ∀ uuid, ':' ∉ (toString uuid).toList

section Parameter

variable {Uuid : Type} (crate : UuidCrate Uuid)

def userIdFromUuid (uuid : Uuid) : String := crate.toString uuid

namespace ChallengeTuple

theorem not_extends_of_plain (t t' : ChallengeTuple) (plain : ':' ∉ t.userId.toList) :
    ¬ t.Extends t' := by
  rintro ⟨_, middle, _, longer⟩
  apply plain
  rw [longer]
  simp

/-- The tuple of a user who is known by a UUID. -/
def ofUuid (operation rpId : String) (uuid : Uuid) : ChallengeTuple :=
  ⟨operation, rpId, userIdFromUuid crate uuid⟩

theorem not_overlaps_ofUuid (operation operation' rpId rpId' : String) (uuid uuid' : Uuid) :
    ¬ (ofUuid crate operation rpId uuid).Overlaps (ofUuid crate operation' rpId' uuid') := by
  rintro (forward | backward)
  · exact not_extends_of_plain _ _ (crate.notMem_colon uuid) forward
  · exact not_extends_of_plain _ _ (crate.notMem_colon uuid') backward

end ChallengeTuple

section Sharing

variable {Party Store Env Answer : Type} [DecidableEq Party] (lib : Externals)
  (configs : Party → WebAuthnConfig) {port : ChallengeStore Store Env Answer}
  (contract : Contract port)

/-- Several relying parties share a session store that keeps the documented contract, and all their
users are known by UUIDs. Whatever the parties do with the two documented operations, with ids,
origins and ports as they like, a challenge stays bound until a call for the same operation, the same
relying party id and the same UUID. -/
theorem uuid_users_keep_challenges (operation rpId : String) (uuid : Uuid)
    (documented : operation = "create" ∨ operation = "get")
    (served : List (Party × Ceremony Env)) (d : Deployment Party Store)
    (others : ∀ call ∈ served, ∃ operation' uuid',
      call.2.tuple (configs call.1) = .ofUuid crate operation' (configs call.1).rpId uuid' ∧
      (operation' = "create" ∨ operation' = "get") ∧
      ¬ (operation' = operation ∧ (configs call.1).rpId = rpId ∧ uuid' = uuid)) :
    contract.binding ((deployment lib configs port).exec d served).1.sessionStore
        (ChallengeTuple.ofUuid crate operation rpId uuid).key =
      contract.binding d.sessionStore (ChallengeTuple.ofUuid crate operation rpId uuid).key := by
  refine deployment_keeps_binding lib configs contract (.ofUuid crate operation rpId uuid) documented
    served d fun call member => ?_
  obtain ⟨operation', uuid', tuple, documented', other⟩ := others call member
  rw [tuple]
  refine ⟨documented', fun same => other ?_,
    ChallengeTuple.not_overlaps_ofUuid crate operation operation' rpId _ uuid uuid'⟩
  obtain ⟨sameOperation, sameParty, sameUser⟩ := ChallengeTuple.mk.inj same
  exact ⟨sameOperation.symm, sameParty.symm, crate.toString_inj sameUser.symm⟩

end Sharing

end Parameter

/-! ### Two parties on one host -/

namespace Hyphenated

/-- The groups that are written with hyphens between them. -/
def groups (uuid : Vector UInt8 16) : List (List UInt8) :=
  let bytes := uuid.toList
  [bytes.take 4, (bytes.drop 4).take 2, (bytes.drop 6).take 2, (bytes.drop 8).take 2, bytes.drop 10]

def text (uuid : Vector UInt8 16) : String :=
  .ofList (['-'].intercalate ((groups uuid).map Hex.encode))

theorem flatten_groups (uuid : Vector UInt8 16) : (groups uuid).flatten = uuid.toList := by
  have split (n m : Nat) : (uuid.toList.drop n).take m ++ uuid.toList.drop (n + m) =
      uuid.toList.drop n := by
    rw [← List.drop_drop, List.take_append_drop]
  simp only [groups, List.flatten_cons, List.flatten_nil, List.append_nil, split 8 2, split 6 2,
    split 4 2, List.take_append_drop]

private theorem digit_plain : ∀ value < 16, Hex.digit value ≠ '-' ∧ Hex.digit value ≠ ':' := by
  decide

/-- The text is taken apart at its hyphens. -/
theorem splitOn_text (uuid : Vector UInt8 16) :
    (text uuid).toList.splitOn '-' = (groups uuid).map Hex.encode := by
  rw [text, String.toList_ofList]
  refine List.splitOn_intercalate _ ?_ (by simp [groups])
  intro part member hyphen
  obtain ⟨bytes, _, rfl⟩ := List.mem_map.mp member
  obtain ⟨value, small, same⟩ := Hex.digit_of_mem_encode bytes '-' hyphen
  exact (digit_plain value small).1 same.symm

theorem text_inj : Function.Injective text := by
  intro uuid uuid' same
  have parts : (groups uuid).map Hex.encode = (groups uuid').map Hex.encode := by
    rw [← splitOn_text, ← splitOn_text, same]
  have groups : groups uuid = groups uuid' :=
    List.map_injective_iff.mpr (fun bytes bytes' => Hex.encode_inj bytes bytes') parts
  have bytes := congrArg List.flatten groups
  rw [flatten_groups, flatten_groups] at bytes
  exact Vector.toList_inj.mp bytes

theorem notMem_colon (uuid : Vector UInt8 16) : ':' ∉ (text uuid).toList := by
  have plain (bytes : List UInt8) : ':' ∉ Hex.encode bytes := by
    intro colon
    obtain ⟨value, small, same⟩ := Hex.digit_of_mem_encode bytes ':' colon
    exact (digit_plain value small).2 same.symm
  rw [text, String.toList_ofList]
  simp [groups, List.intercalate, plain]

/-- Lower case hexadecimal digits in five groups. -/
def crate : UuidCrate (Vector UInt8 16) where
  toString := text
  toString_inj := text_inj
  notMem_colon := notMem_colon

end Hyphenated

/-- The second party's id is the first one's with a port. -/
def hostParties (ported : Bool) : WebAuthnConfig :=
  .new (if ported then "localhost:8080" else "localhost") []

def sampleUuid (byte : UInt8) : Vector UInt8 16 := Vector.replicate 16 byte

/-- The first party has issued a challenge, and then the second one issues one for another user. -/
theorem host_parties_apart :
    let issuedOne := ((deployment sampleExternals hostParties documentedPort).exec ⟨∅, fun _ => ∅⟩
      [(false, .generate 0 (sampleBytes 0) (userIdFromUuid Hyphenated.crate (sampleUuid 1))
        "get")]).1
    documentedContract.binding
        ((deployment sampleExternals hostParties documentedPort).exec issuedOne
          [(true, .generate 1 (sampleBytes 1) (userIdFromUuid Hyphenated.crate (sampleUuid 2))
            "get")]).1.sessionStore
        (ChallengeTuple.ofUuid Hyphenated.crate "get" "localhost" (sampleUuid 1)).key =
      documentedContract.binding issuedOne.sessionStore
        (ChallengeTuple.ofUuid Hyphenated.crate "get" "localhost" (sampleUuid 1)).key := by
  refine uuid_users_keep_challenges Hyphenated.crate sampleExternals hostParties documentedContract
    "get" "localhost" (sampleUuid 1) (Or.inr rfl) _ _ fun call member => ?_
  cases List.mem_singleton.mp member
  exact ⟨"get", sampleUuid 2, rfl, Or.inr rfl, fun same => absurd same.2.1 (by decide)⟩

end AuthKit.WebAuthn
