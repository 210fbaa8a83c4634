import AuthKit.Oidc.Jwks

/-!
# Which issuer a snapshot comes from

The cache holds one snapshot and does not say which URI it was fetched from. A run keeps the
issuers apart as long as no check finds a fresh snapshot that another URI's call stored.
-/
namespace AuthKit.Oidc

open Execution

/-- The snapshot a turn stores, and the URI its call was invoked with. -/
def published (turn : Turn) : Option (String × CachedJwks) :=
  match turn.point with
  | .store cached => some (turn.args, cached)
  | _ => none

theorem published_eq_some_iff (turn : Turn) (jwksUri : String) (cached : CachedJwks) :
    published turn = some (jwksUri, cached) ↔ turn.args = jwksUri ∧ turn.point = .store cached := by
  unfold published
  cases turn.point <;> simp

/-- The `Ok` answer of the call that returns in the turn, and the URI it was invoked with. -/
def answered (turn : Turn) : Option (String × CachedJwks) :=
  match turn.outcome with
  | .inr (.ok cached) => some (turn.args, cached)
  | _ => none

theorem answered_eq_some_iff (turn : Turn) (jwksUri : String) (cached : CachedJwks) :
    answered turn = some (jwksUri, cached) ↔
      turn.args = jwksUri ∧ turn.outcome = .inr (.ok cached) := by
  unfold answered
  rcases turn.outcome with next | error | found <;> simp

def lastPublished (history : List Turn) : Option (String × CachedJwks) :=
  (history.filterMap published).getLast?

theorem lastPublished_mem (history : List Turn) (publication : String × CachedJwks)
    (last : lastPublished history = some publication) :
    ∃ turn ∈ history, published turn = some publication :=
  List.mem_filterMap.mp (List.mem_of_getLast? last)

theorem lastPublished_concat (history : List Turn) (turn : Turn) :
    lastPublished (history ++ [turn]) = (published turn).or (lastPublished history) := by
  unfold lastPublished
  cases stored : published turn with
  | none => simp [stored]
  | some publication => simp [stored]

/-- The condition on a call's next section: a check finds no fresh snapshot but one its own
URI's call stored. -/
def ChecksOwn (client : DiscoveryClient) (now : Instant) (history : List Turn) :
    Option (Call String Point (Except DiscoveryError CachedJwks)) → Prop
  | some (.running jwksUri .check) =>
      (client.cacheHit now).isSome → (lastPublished history).map Prod.fst = some jwksUri
  | _ => True

instance (client : DiscoveryClient) (now : Instant) (history : List Turn) :
    (call : Option (Call String Point (Except DiscoveryError CachedJwks))) →
      Decidable (ChecksOwn client now history call)
  | some (.running _ .check) => inferInstanceAs (Decidable (_ → _))
  | some (.running _ .fetch) => inferInstanceAs (Decidable True)
  | some (.running _ (.store _)) => inferInstanceAs (Decidable True)
  | some (.returned _ _) => inferInstanceAs (Decidable True)
  | none => inferInstanceAs (Decidable True)

/-- The call named `id` fetched a document from the URI, and built the snapshot from it. -/
def Fetched (http : Http) (id : Nat) (jwksUri : String) (cached : CachedJwks) (turn : Turn) :
    Prop :=
  turn.id = id ∧ turn.args = jwksUri ∧ turn.point = .fetch ∧
    ∃ doc, http.jwksDoc jwksUri turn.input.served = .ok doc ∧
      cached = doc.cachedAt turn.input.now

/-- The snapshot was built from a document that a turn of the history fetched from the URI. -/
def BuiltFrom (http : Http) (jwksUri : String) (cached : CachedJwks) (history : List Turn) : Prop :=
  ∃ turn ∈ history, turn.args = jwksUri ∧ turn.point = .fetch ∧
    ∃ doc, http.jwksDoc jwksUri turn.input.served = .ok doc ∧
      cached = doc.cachedAt turn.input.now ∧
      ∀ kid key, cached.lookup kid = some key → key ∈ doc.keys

theorem BuiltFrom.later {http : Http} {jwksUri : String} {cached : CachedJwks}
    {history : List Turn} (built : BuiltFrom http jwksUri cached history) (rest : List Turn) :
    BuiltFrom http jwksUri cached (history ++ rest) := by
  obtain ⟨turn, member, facts⟩ := built
  exact ⟨turn, List.mem_append_left _ member, facts⟩

section Runs

variable (http : Http) (ttl : Duration) (schedule : List JwksAction)

/-- A run of concurrent calls on the clones of a new client. -/
def jwksRun : World DiscoveryClient String Point (Except DiscoveryError CachedJwks) × List Turn :=
  (jwksCalls http).run (DiscoveryClient.new.withCacheTtl ttl) schedule

/-- A turn of a run was taken in the world that an initial part of the schedule reaches. -/
theorem jwksRun_reached (before after : List Turn) (turn : Turn)
    (split : (jwksRun http ttl schedule).2 = before ++ turn :: after) :
    ∃ earlier rest client, schedule = earlier ++ .advance turn.id turn.input :: rest ∧
      (jwksRun http ttl earlier).2 = before ∧
      (jwksRun http ttl earlier).1.calls turn.id = some (.running turn.args turn.point) ∧
      (jwksCalls http).advance turn.args turn.point turn.input (jwksRun http ttl earlier).1.shared =
        (client, turn.outcome) := by
  obtain ⟨earlier, rest, scheduled, historyEq, running, outcome⟩ :=
    (jwksCalls http).reached _ schedule before after turn split
  exact ⟨earlier, rest, _, scheduled, historyEq, running, Prod.ext rfl outcome⟩

/-- An `Ok` answer is what the call's check found in the cache, or what the call has stored. -/
theorem answer_cases (before after : List Turn) (turn : Turn) (cached : CachedJwks)
    (split : (jwksRun http ttl schedule).2 = before ++ turn :: after)
    (returned : turn.outcome = .inr (.ok cached)) :
    (turn.point = .check ∧ ∃ earlier rest,
      schedule = earlier ++ .advance turn.id turn.input :: rest ∧
      (jwksRun http ttl earlier).2 = before ∧
      (jwksRun http ttl earlier).1.calls turn.id = some (.running turn.args .check) ∧
      (jwksRun http ttl earlier).1.shared.cacheHit turn.input.now = some cached) ∨
    turn.point = .store cached := by
  obtain ⟨earlier, rest, client, scheduled, historyEq, running, advanced⟩ :=
    jwksRun_reached http ttl schedule before after turn split
  rw [returned] at advanced
  rcases advance_answers http turn.args turn.point turn.input _ client cached advanced with
    ⟨check, hit⟩ | store
  · rw [check] at running
    exact Or.inl ⟨check, earlier, rest, scheduled, historyEq, running, hit⟩
  · exact Or.inr store

/-- The cache holds what was stored last. -/
theorem cache_jwksRun :
    (jwksRun http ttl schedule).1.shared.jwksCache =
      (lastPublished (jwksRun http ttl schedule).2).map Prod.snd := by
  apply (jwksCalls http).invariant
    (fun world history => world.shared.jwksCache = (lastPublished history).map Prod.snd)
  · rfl
  · intro world history id jwksUri now _
    exact now
  · intro world history id jwksUri point readings client outcome now _ advanced
    simp only [lastPublished_concat]
    rcases advance_cases http jwksUri point readings world.shared client outcome advanced with
      ⟨cached, rfl, _, rfl, _⟩ | ⟨rfl, _, rfl, _⟩ | ⟨error, rfl, _, rfl, _⟩ |
      ⟨doc, rfl, _, rfl, _⟩ | ⟨cached, rfl, rfl, _⟩
    · exact now
    · exact now
    · exact now
    · exact now
    · rfl

/-- A call that is about to store has fetched what it will store. -/
theorem running_store_fetched (id : Nat) (jwksUri : String) (cached : CachedJwks)
    (running : (jwksRun http ttl schedule).1.calls id = some (.running jwksUri (.store cached))) :
    ∃ fetch ∈ (jwksRun http ttl schedule).2, Fetched http id jwksUri cached fetch := by
  rcases (jwksCalls http).entered _ schedule id jwksUri _ running with
    started | ⟨prior, member, sameId, sameUri, moved⟩
  · cases started
  · obtain ⟨before, after, split⟩ := List.append_of_mem member
    obtain ⟨_, _, _, _, _, _, advanced⟩ :=
      jwksRun_reached http ttl schedule before after prior split
    rw [moved] at advanced
    -- the section before a store is this call's own fetch
    obtain ⟨doc, fetch, answer, built⟩ :=
      advance_builds http prior.args prior.point prior.input _ _ cached advanced
    exact ⟨prior, member, sameId, sameUri, fetch, doc, sameUri ▸ answer, built⟩

theorem store_fetched (before after : List Turn) (turn : Turn) (cached : CachedJwks)
    (split : (jwksRun http ttl schedule).2 = before ++ turn :: after)
    (point : turn.point = .store cached) :
    ∃ fetch ∈ before, Fetched http turn.id turn.args cached fetch := by
  obtain ⟨earlier, _, _, _, rfl, running, _⟩ :=
    jwksRun_reached http ttl schedule before after turn split
  rw [point] at running
  exact running_store_fetched http ttl earlier turn.id turn.args cached running

/-- A call stores what it built from its own request. -/
theorem published_built (before after : List Turn) (turn : Turn) (jwksUri : String)
    (cached : CachedJwks) (split : (jwksRun http ttl schedule).2 = before ++ turn :: after)
    (stored : published turn = some (jwksUri, cached)) : BuiltFrom http jwksUri cached before := by
  obtain ⟨rfl, point⟩ := (published_eq_some_iff turn jwksUri cached).mp stored
  obtain ⟨prior, member, _, sameUri, fetch, doc, answer, rfl⟩ :=
    store_fetched http ttl schedule before after turn cached split point
  refine ⟨prior, member, sameUri, fetch, doc, answer, rfl, ?_⟩
  intro kid key found
  exact (doc.lookup_cachedAt prior.input.now kid key found).1

/-- The snapshot in the cache was built for the URI whose call stored it last. -/
theorem lastPublished_built (jwksUri : String) (cached : CachedJwks)
    (last : lastPublished (jwksRun http ttl schedule).2 = some (jwksUri, cached)) :
    BuiltFrom http jwksUri cached (jwksRun http ttl schedule).2 := by
  obtain ⟨turn, member, stored⟩ := lastPublished_mem _ _ last
  obtain ⟨before, after, split⟩ := List.append_of_mem member
  have built := published_built http ttl schedule before after turn jwksUri cached split stored
  rw [split]
  exact built.later _

/-- A check that hits answers with what was stored last, whatever URI it was stored for. -/
theorem hit_lastPublished (now : Instant) (cached : CachedJwks)
    (hit : (jwksRun http ttl schedule).1.shared.cacheHit now = some cached) :
    ∃ jwksUri, lastPublished (jwksRun http ttl schedule).2 = some (jwksUri, cached) ∧
      BuiltFrom http jwksUri cached (jwksRun http ttl schedule).2 := by
  obtain ⟨held, _⟩ := (DiscoveryClient.cacheHit_eq_some_iff _ _ _).mp hit
  rw [cache_jwksRun] at held
  obtain ⟨⟨jwksUri, stored⟩, last, rfl⟩ := Option.map_eq_some_iff.mp held
  exact ⟨jwksUri, last, lastPublished_built http ttl schedule jwksUri stored last⟩

/-- The condition on one action, in the world and with the history it is taken in. -/
def ActionChecksOwn
    (now : World DiscoveryClient String Point (Except DiscoveryError CachedJwks) × List Turn) :
    JwksAction → Prop
  | .invoke _ _ => True
  | .advance id readings => ChecksOwn now.1.shared readings.now now.2 (now.1.calls id)

instance (now : World DiscoveryClient String Point (Except DiscoveryError CachedJwks) × List Turn) :
    (action : JwksAction) → Decidable (ActionChecksOwn now action)
  | .invoke _ _ => inferInstanceAs (Decidable True)
  | .advance _ _ => inferInstanceAs (Decidable (ChecksOwn _ _ _ _))

/-- Every action of the run meets the condition. -/
def IssuersApart : Prop :=
  ∀ earlier action rest, schedule = earlier ++ action :: rest →
    ActionChecksOwn (jwksRun http ttl earlier) action

/-- A run is checked one action after the other. -/
theorem issuersApart_of_take
    (each : ∀ n, ∀ _ : n < schedule.length,
      ActionChecksOwn (jwksRun http ttl (schedule.take n)) schedule[n]) :
    IssuersApart http ttl schedule :=
  forall_split_of_take schedule each

/-- In every run whose checks all meet the condition, an `Ok` answer to a call for a URI was
built from a document fetched from that URI, and holds no keys but those of that document. -/
theorem jwks_isolated (apart : IssuersApart http ttl schedule) (before after : List Turn)
    (turn : Turn) (jwksUri : String) (cached : CachedJwks)
    (split : (jwksRun http ttl schedule).2 = before ++ turn :: after)
    (answer : answered turn = some (jwksUri, cached)) : BuiltFrom http jwksUri cached before := by
  obtain ⟨rfl, returned⟩ := (answered_eq_some_iff turn jwksUri cached).mp answer
  rcases answer_cases http ttl schedule before after turn cached split returned with
    ⟨_, earlier, rest, scheduled, rfl, running, hit⟩ | store
  · -- a hit: the condition on this check names the URI the snapshot was stored for
    obtain ⟨storedFor, last, built⟩ :=
      hit_lastPublished http ttl earlier turn.input.now cached hit
    have own := apart earlier _ rest scheduled
    simp only [ActionChecksOwn, running, ChecksOwn] at own
    have same := own (Option.isSome_iff_exists.mpr ⟨cached, hit⟩)
    rw [last, Option.map_some, Option.some.injEq] at same
    exact same ▸ built
  · -- a store: the snapshot comes from the call's own request
    exact published_built http ttl schedule _ after turn turn.args cached split
      ((published_eq_some_iff turn turn.args cached).mpr ⟨rfl, store⟩)

/-- A check that does not meet the condition answers with what was fetched from another URI. -/
theorem foreign_check_answers (id : Nat) (jwksUri : String) (readings : Readings)
    (running : (jwksRun http ttl schedule).1.calls id = some (.running jwksUri .check))
    (foreign : ¬ ActionChecksOwn (jwksRun http ttl schedule) (.advance id readings)) :
    ∃ storedFor cached, storedFor ≠ jwksUri ∧
      BuiltFrom http storedFor cached (jwksRun http ttl schedule).2 ∧
      (jwksRun http ttl (schedule ++ [.advance id readings])).2 =
        (jwksRun http ttl schedule).2 ++ [⟨id, jwksUri, .check, readings, .inr (.ok cached)⟩] := by
  simp only [ActionChecksOwn, running, ChecksOwn, Classical.not_imp] at foreign
  obtain ⟨found, other⟩ := foreign
  obtain ⟨cached, hit⟩ := Option.isSome_iff_exists.mp found
  obtain ⟨storedFor, last, built⟩ := hit_lastPublished http ttl schedule readings.now cached hit
  refine ⟨storedFor, cached, ?_, built, ?_⟩
  · -- had it been stored for this URI, the check would have met the condition
    intro same
    apply other
    rw [last, Option.map_some, same]
  · have answers : ((jwksCalls http).advance jwksUri .check readings
        (jwksRun http ttl schedule).1.shared).2 = .inr (.ok cached) := by
      simp only [jwksCalls, advanceJwks, hit]
    rw [← answers]
    exact (jwksCalls http).run_advance _ schedule id readings jwksUri .check running

end Runs

/-! ### Two issuers -/

def sampleKey (jwksUri : String) : Jwk :=
  { kty := "oct", use := some "sig", kid := some "1", alg := some "HS256", n := none, e := none
    crv := none, x := none, y := none, k := some jwksUri, x5c := [] }

/-- Every URI publishes a key of its own. -/
def sampleHttp : Http := fun jwksUri _ => .ok ⟨200, .ok ⟨[sampleKey jwksUri]⟩⟩

/-- A call that runs alone. -/
def soloCall (id : Nat) (jwksUri : String) (secs : Nat) : List JwksAction :=
  let readings : Readings := ⟨⟨secs * 1000000000⟩, ⟨secs * 1000000000⟩⟩
  [.invoke id jwksUri, .advance id readings, .advance id readings, .advance id readings]

/-- The second issuer is asked after the first one's snapshot has expired. -/
def spacedCalls : List JwksAction :=
  soloCall 0 "https://a.example/jwks" 0 ++ soloCall 1 "https://a.example/jwks" 5 ++
    soloCall 2 "https://b.example/jwks" 700

/-- The second issuer is asked five seconds after the first. -/
def mixedCalls : List JwksAction :=
  soloCall 0 "https://a.example/jwks" 0 ++ soloCall 1 "https://b.example/jwks" 5

theorem spaced_calls_isolated :
    ∃ before cached, ("https://b.example/jwks", cached) ∈
        (jwksRun sampleHttp (.fromSecs 600) spacedCalls).2.filterMap answered ∧
      BuiltFrom sampleHttp "https://b.example/jwks" cached before ∧
      before <+: (jwksRun sampleHttp (.fromSecs 600) spacedCalls).2 := by
  have apart : IssuersApart sampleHttp (.fromSecs 600) spacedCalls := by
    apply issuersApart_of_take
    decide +kernel
  have answers : ("https://b.example/jwks",
      (JwksDoc.mk [sampleKey "https://b.example/jwks"]).cachedAt ⟨700 * 1000000000⟩) ∈
        (jwksRun sampleHttp (.fromSecs 600) spacedCalls).2.filterMap answered := by
    decide +kernel
  obtain ⟨turn, member, answer⟩ := List.mem_filterMap.mp answers
  obtain ⟨before, after, split⟩ := List.append_of_mem member
  exact ⟨before, _, answers, jwks_isolated _ _ _ apart before after turn _ _ split answer,
    ⟨_, split.symm⟩⟩

theorem foreign_snapshot_answered :
    ∃ cached, ("https://b.example/jwks", cached) ∈
        (jwksRun sampleHttp (.fromSecs 600) mixedCalls).2.filterMap answered ∧
      cached.lookup "1" = some (sampleKey "https://a.example/jwks") ∧
      ∀ history, ¬ BuiltFrom sampleHttp "https://b.example/jwks" cached history := by
  refine ⟨(JwksDoc.mk [sampleKey "https://a.example/jwks"]).cachedAt ⟨0⟩, ?_, ?_, ?_⟩
  · decide +kernel
  · decide +kernel
  · rintro history ⟨turn, _, _, _, doc, answer, _, keys⟩
    cases answer
    exact absurd (keys "1" (sampleKey "https://a.example/jwks") (by decide)) (by decide)

end AuthKit.Oidc
