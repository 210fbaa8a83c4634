import AuthKit.Oidc.KeyIndex
import AuthKit.Oidc.Overwriting

/-!
# When a rotation has reached every caller

An issuer that changes its keys wants to know when the old ones are no longer used. A snapshot is
used for less than the ttl after it was built, and it was built at most one request after the issuer
gave out its document.
-/
namespace AuthKit.Oidc

open Execution

/-- No document is older than `latency` when a snapshot is built of it: the timeout of the client,
say. -/
def Prompt (latency : Nat) (history : List Turn) : Prop :=
  ∀ turn ∈ history, turn.point = .fetch →
    turn.input.now.nanos ≤ turn.input.served.nanos + latency

instance (turn : Turn) : Decidable (turn.point = .fetch) :=
  match turn.point with
  | .fetch => isTrue rfl
  | .check => isFalse (fun same => Point.noConfusion same)
  | .store _ => isFalse (fun same => Point.noConfusion same)

instance (latency : Nat) (history : List Turn) : Decidable (Prompt latency history) :=
  inferInstanceAs (Decidable (∀ _ ∈ _, _ → _))

/-- Every section of the call reads the clock at `start` or later. -/
def BegunAt (start : Nat) (call : Nat) (history : List Turn) : Prop :=
  ∀ turn ∈ history, turn.id = call → start ≤ turn.input.now.nanos

instance (start call : Nat) (history : List Turn) : Decidable (BegunAt start call history) :=
  inferInstanceAs (Decidable (∀ _ ∈ _, _ → _))

/-- A call of the run has got the document, and the issuer gave it out at `since` or later. -/
def ReceivedSince (http : Http) (since : Nat) (history : List Turn) (doc : JwksDoc) : Prop :=
  ∃ fetch ∈ history, fetch.point = .fetch ∧ since ≤ fetch.input.served.nanos ∧
    http.jwksDoc fetch.args fetch.input.served = .ok doc

section Runs

variable (http : Http) (ttl : Duration) (schedule : List JwksAction)

/-- A call that begins one ttl and one request after `since` answers with a document that the
server gave out at `since` or later. -/
theorem answer_served_since (ordered : ClockOrdered (jwksRun http ttl schedule).2) (latency : Nat)
    (prompt : Prompt latency (jwksRun http ttl schedule).2) (since : Nat)
    (before after : List Turn) (turn : Turn) (cached : CachedJwks)
    (split : (jwksRun http ttl schedule).2 = before ++ turn :: after)
    (returned : turn.outcome = .inr (.ok cached))
    (begun : BegunAt (since + ttl.nanos + latency) turn.id (jwksRun http ttl schedule).2) :
    ∃ doc builtAt, ReceivedSince http since (jwksRun http ttl schedule).2 doc ∧
      cached = doc.cachedAt builtAt := by
  have inside : ∀ earlier ∈ before, earlier ∈ (jwksRun http ttl schedule).2 := by
    intro earlier member
    rw [split]
    exact List.mem_append_left _ member
  rcases answer_cases http ttl schedule before after turn cached split returned with
    ⟨check, _⟩ | store
  · obtain ⟨_, ⟨stored, member, stores, _⟩, built, fresh⟩ :=
      hit_fresh http ttl schedule before after turn cached ordered split check returned
    -- the snapshot was stored by another call, which fetched its document before
    obtain ⟨first, later, splitBefore⟩ := List.append_of_mem member
    have splitStored : (jwksRun http ttl schedule).2 = first ++ stored :: (later ++ turn :: after) := by
      rw [split, splitBefore, List.append_assoc, List.cons_append]
    obtain ⟨fetch, fetched, _, uri, point, doc, answer, rfl⟩ :=
      store_fetched http ttl schedule first _ stored cached splitStored stores
    have member := inside fetch (by rw [splitBefore]; simp [fetched])
    have quick := prompt fetch member point
    have now := begun turn (by rw [split]; simp) rfl
    have young : turn.input.now.nanos - fetch.input.now.nanos < ttl.nanos := fresh
    exact ⟨doc, _, ⟨fetch, member, point, by omega, uri ▸ answer⟩, rfl⟩
  · obtain ⟨fetch, fetched, sameId, uri, point, doc, answer, rfl⟩ :=
      store_fetched http ttl schedule before after turn cached split store
    have quick := prompt fetch (inside fetch fetched) point
    have now := begun fetch (inside fetch fetched) sameId
    exact ⟨doc, _, ⟨fetch, inside fetch fetched, point, by omega, uri ▸ answer⟩, rfl⟩

end Runs

/-! ### A replaced key -/

/-- From second 2 on the issuer publishes the second key in place of the first. -/
def replacingHttp : Http := fun jwksUri served =>
  .ok ⟨200, .ok ⟨if served.nanos < 2000000000 then [sampleKey jwksUri] else [rotatedKey]⟩⟩

/-- The second call finds the old key in the cache, long after the issuer has withdrawn it. -/
def replacedCalls : List JwksAction :=
  soloCall 0 "https://a.example/jwks" 0 ++ soloCall 1 "https://a.example/jwks" 599 ++
    soloCall 2 "https://a.example/jwks" 603

end AuthKit.Oidc
