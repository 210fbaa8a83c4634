import AuthKit.Oidc.Freshness

/-!
# Keys by `kid`

A snapshot has one key for each `kid`. Where a document repeats a `kid`, on keys of different types
for instance, the last of these keys is the one that is found; the others cannot be looked up.
-/
namespace AuthKit.Oidc

open Execution

namespace JwksDoc

/-- The key carries the `kid`, and no key after it does. -/
def LastOf (doc : JwksDoc) (kid : String) (key : Jwk) : Prop :=
  ∃ before after, doc.keys = before ++ key :: after ∧ key.kid = some kid ∧
    ∀ later ∈ after, later.kid ≠ some kid

/-- No two different keys of the document carry one `kid`. -/
def KidsDistinct (doc : JwksDoc) : Prop :=
  ∀ key ∈ doc.keys, ∀ key' ∈ doc.keys, ∀ kid, key.kid = some kid → key'.kid = some kid → key = key'

/-- One more key: it takes over its `kid`, if it has one. -/
theorem byKid_concat (keys : List Jwk) (key : Jwk) :
    byKid ⟨keys ++ [key]⟩ =
      match key.kid with
      | some kid => (byKid ⟨keys⟩).insert kid key
      | none => byKid ⟨keys⟩ := by
  unfold byKid
  cases named : key.kid <;> simp [List.filterMap_append, named]

/-- The index is searched like the list of keys, from its end. -/
theorem lookup_cachedAt_eq (doc : JwksDoc) (now : Instant) (kid : String) :
    (doc.cachedAt now).lookup kid = doc.keys.reverse.find? fun key => key.kid = some kid := by
  obtain ⟨keys⟩ := doc
  change (byKid ⟨keys⟩).lookup kid = _
  induction keys using List.reverseRecOn with
  | nil => rfl
  | append_singleton keys key ih =>
    rw [byKid_concat, List.reverse_concat, List.find?_cons]
    cases named : key.kid with
    | none => simpa using ih
    | some own =>
      by_cases same : own = kid
      · subst same
        simp
      · simp [same, Ne.symm same, ih]

theorem lookup_eq_some_iff (doc : JwksDoc) (now : Instant) (kid : String) (key : Jwk) :
    (doc.cachedAt now).lookup kid = some key ↔ doc.LastOf kid key := by
  rw [lookup_cachedAt_eq, List.find?_eq_some_iff_append]
  constructor
  · rintro ⟨carries, after, before, split, others⟩
    refine ⟨before.reverse, after.reverse, ?_, of_decide_eq_true carries, ?_⟩
    · rw [← List.reverse_reverse doc.keys, split]
      simp
    · intro later member
      simpa using others later (List.mem_reverse.mp member)
  · rintro ⟨before, after, split, carries, others⟩
    refine ⟨decide_eq_true carries, after.reverse, before.reverse, ?_, ?_⟩
    · rw [split]
      simp
    · intro later member
      simpa using others later (List.mem_reverse.mp member)

theorem lookup_eq_none_iff (doc : JwksDoc) (now : Instant) (kid : String) :
    (doc.cachedAt now).lookup kid = none ↔ ∀ key ∈ doc.keys, key.kid ≠ some kid := by
  rw [lookup_cachedAt_eq, List.find?_eq_none]
  simp

/-- Every identified key is found under its `kid` iff no `kid` is repeated on another key. -/
theorem identified_found_iff (doc : JwksDoc) (now : Instant) :
    (∀ key ∈ doc.keys, ∀ kid, key.kid = some kid → (doc.cachedAt now).lookup kid = some key) ↔
      doc.KidsDistinct := by
  constructor
  · intro found key member key' member' kid carries carries'
    exact Option.some.inj ((found key member kid carries).symm.trans (found key' member' kid carries'))
  · intro distinct key member kid carries
    cases found : (doc.cachedAt now).lookup kid with
    | none => exact absurd carries ((doc.lookup_eq_none_iff now kid).mp found key member)
    | some last =>
      obtain ⟨member', carries'⟩ := doc.lookup_cachedAt now kid last found
      rw [distinct last member' key member kid carries' carries]

end JwksDoc

/-- In the snapshot built from any document, a lookup gives the last key that carries the `kid` and
nothing iff no key carries it; so a key that has a `kid` is found unless a different key repeats
it. -/
theorem snapshot_keeps_last (doc : JwksDoc) (builtAt : Instant) :
    (∀ kid key, (doc.cachedAt builtAt).lookup kid = some key ↔ doc.LastOf kid key) ∧
    (∀ kid, (doc.cachedAt builtAt).lookup kid = none ↔ ∀ key ∈ doc.keys, key.kid ≠ some kid) ∧
    ((∀ key ∈ doc.keys, ∀ kid, key.kid = some kid →
        (doc.cachedAt builtAt).lookup kid = some key) ↔ doc.KidsDistinct) :=
  ⟨doc.lookup_eq_some_iff builtAt, doc.lookup_eq_none_iff builtAt, doc.identified_found_iff builtAt⟩

/-- A symmetric and an elliptic-curve key under one `kid`: the first is not found. -/
theorem repeated_kid_loses_key :
    let symmetric := sampleKey "https://a.example/jwks"
    let curve : Jwk := { symmetric with kty := "EC", alg := some "ES256", k := none
                                        crv := some "P-256", x := some "AQ", y := some "Ag" }
    symmetric ∈ [symmetric, curve] ∧ symmetric.kid = some "1" ∧
      (JwksDoc.cachedAt ⟨[symmetric, curve]⟩ ⟨0⟩).lookup "1" = some curve ∧ curve ≠ symmetric := by
  decide

section Runs

variable (http : Http) (ttl : Duration) (schedule : List JwksAction)

/-- What any call of a run answers with is searched like a document that the server gave out: a
lookup finds its last key of that `kid`. -/
theorem answer_keeps_last (before after : List Turn) (turn : Turn) (cached : CachedJwks)
    (split : (jwksRun http ttl schedule).2 = before ++ turn :: after)
    (returned : turn.outcome = .inr (.ok cached)) :
    ∃ fetch ∈ before, fetch.point = .fetch ∧ ∃ doc,
      http.jwksDoc fetch.args fetch.input.served = .ok doc ∧
        ∀ kid key, cached.lookup kid = some key ↔ doc.LastOf kid key := by
  rcases answer_cases http ttl schedule before after turn cached split returned with
    ⟨_, earlier, _, _, rfl, _, hit⟩ | store
  · obtain ⟨jwksUri, _, fetch, member, rfl, point, doc, answer, rfl, _⟩ :=
      hit_lastPublished http ttl earlier turn.input.now cached hit
    exact ⟨fetch, member, point, doc, answer, doc.lookup_eq_some_iff fetch.input.now⟩
  · obtain ⟨fetch, member, _, uri, point, doc, answer, rfl⟩ :=
      store_fetched http ttl schedule before after turn cached split store
    exact ⟨fetch, member, point, doc, uri ▸ answer, doc.lookup_eq_some_iff fetch.input.now⟩

end Runs

end AuthKit.Oidc
