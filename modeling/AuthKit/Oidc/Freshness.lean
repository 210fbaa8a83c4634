import AuthKit.Oidc.Isolation

/-!
# How old an answer can be

A call of `jwks` answers with what it has just fetched, or with a snapshot that an earlier call
stored and that is younger than the ttl when the cache is checked. A fetch that fails ends its
call with the error and does not touch the cache, however stale the snapshot there may be.
-/
namespace AuthKit.Oidc

open Execution

instance : LE Instant := ⟨fun a b => a.nanos ≤ b.nanos⟩

instance (a b : Instant) : Decidable (a ≤ b) := inferInstanceAs (Decidable (a.nanos ≤ b.nanos))

instance : LT Instant := ⟨fun a b => a.nanos < b.nanos⟩

/-- The clock does not run backwards from one section of the history to the next. -/
def ClockOrdered (history : List Turn) : Prop :=
  history.Pairwise fun earlier later => earlier.input.now ≤ later.input.now

instance (history : List Turn) : Decidable (ClockOrdered history) :=
  inferInstanceAs (Decidable (history.Pairwise _))

/-- The call returns the snapshot it fetched itself, which it has just stored. -/
def OwnAnswer (http : Http) (before : List Turn) (turn : Turn) (cached : CachedJwks) : Prop :=
  turn.point = .store cached ∧ ∃ fetch ∈ before, Fetched http turn.id turn.args cached fetch

/-- The call returns the snapshot that an earlier successful call stored, and its age at the
check is below the ttl. -/
def FreshAnswer (ttl : Duration) (before : List Turn) (turn : Turn) (cached : CachedJwks) : Prop :=
  turn.point = .check ∧
    (∃ stored ∈ before, stored.point = .store cached ∧ stored.outcome = .inr (.ok cached)) ∧
    cached.fetchedAt ≤ turn.input.now ∧ cached.fetchedAt.elapsed turn.input.now < ttl

section Runs

variable (http : Http) (ttl : Duration) (schedule : List JwksAction)

/-- No section changes the ttl. -/
theorem cacheTtl_jwksRun : (jwksRun http ttl schedule).1.shared.cacheTtl = ttl := by
  apply (jwksCalls http).invariant (fun world _ => world.shared.cacheTtl = ttl)
  · rfl
  · intro world history id jwksUri now _
    exact now
  · intro world history id jwksUri point readings client outcome now _ advanced
    rcases advance_cases http jwksUri point readings world.shared client outcome advanced with
      ⟨_, _, _, rfl, _⟩ | ⟨_, _, rfl, _⟩ | ⟨_, _, _, rfl, _⟩ | ⟨_, _, _, rfl, _⟩ | ⟨_, _, rfl, _⟩
    · exact now
    · exact now
    · exact now
    · exact now
    · exact now

/-- A store returns what it stores. -/
theorem store_returns (before after : List Turn) (turn : Turn) (cached : CachedJwks)
    (split : (jwksRun http ttl schedule).2 = before ++ turn :: after)
    (point : turn.point = .store cached) : turn.outcome = .inr (.ok cached) := by
  obtain ⟨_, _, _, _, _, _, advanced⟩ :=
    jwksRun_reached http ttl schedule before after turn split
  rw [point] at advanced
  exact (congrArg Prod.snd advanced).symm

/-- The snapshot in the cache was stored by a successful call of the run. -/
theorem cached_stored (cached : CachedJwks)
    (held : (jwksRun http ttl schedule).1.shared.jwksCache = some cached) :
    ∃ before stored after, (jwksRun http ttl schedule).2 = before ++ stored :: after ∧
      stored.point = .store cached ∧ stored.outcome = .inr (.ok cached) := by
  rw [cache_jwksRun] at held
  obtain ⟨⟨jwksUri, snapshot⟩, last, rfl⟩ := Option.map_eq_some_iff.mp held
  obtain ⟨stored, member, publishes⟩ := lastPublished_mem _ _ last
  obtain ⟨before, after, split⟩ := List.append_of_mem member
  have point := ((published_eq_some_iff stored jwksUri snapshot).mp publishes).2
  exact ⟨before, stored, after, split, point,
    store_returns http ttl schedule before after stored snapshot split point⟩

/-- What a check finds fresh was fetched before it. -/
theorem hit_fresh (before after : List Turn) (turn : Turn) (cached : CachedJwks)
    (ordered : ClockOrdered (jwksRun http ttl schedule).2)
    (split : (jwksRun http ttl schedule).2 = before ++ turn :: after)
    (point : turn.point = .check) (returned : turn.outcome = .inr (.ok cached)) :
    FreshAnswer ttl before turn cached := by
  rcases answer_cases http ttl schedule before after turn cached split returned with
    ⟨_, earlier, _, _, rfl, _, hit⟩ | store
  · obtain ⟨held, fresh⟩ := (DiscoveryClient.cacheHit_eq_some_iff _ _ _).mp hit
    rw [cacheTtl_jwksRun, CachedJwks.isFresh, decide_eq_true_eq] at fresh
    obtain ⟨first, stored, later, splitEarlier, stores, answers⟩ :=
      cached_stored http ttl earlier cached held
    -- the snapshot carries the reading of the fetch that its call made before the store
    obtain ⟨fetch, fetchedFirst, _, _, _, doc, _, built⟩ :=
      store_fetched http ttl earlier first later stored cached splitEarlier stores
    have inOrder : fetch.input.now ≤ turn.input.now := by
      rw [split, splitEarlier] at ordered
      exact (List.pairwise_append.mp ordered).2.2 fetch (List.mem_append_left _ fetchedFirst) turn
        List.mem_cons_self
    refine ⟨point, ⟨stored, ?_, stores, answers⟩, ?_, fresh⟩
    · rw [splitEarlier]
      exact List.mem_append_right _ List.mem_cons_self
    · rw [built]
      exact inOrder
  · rw [point] at store
    cases store

/-- A fetch that fails returns its error, ends its call and leaves the client as it is. -/
theorem failed_fetch (before after : List Turn) (turn : Turn) (error : DiscoveryError)
    (split : (jwksRun http ttl schedule).2 = before ++ turn :: after)
    (point : turn.point = .fetch)
    (failed : http.jwksDoc turn.args turn.input.served = .error error) :
    turn.outcome = .inr (.error error) ∧ (∀ later ∈ after, later.id ≠ turn.id) ∧
      ∃ earlier rest, schedule = earlier ++ .advance turn.id turn.input :: rest ∧
        (jwksRun http ttl earlier).2 = before ∧
        (jwksRun http ttl (earlier ++ [.advance turn.id turn.input])).1.shared =
          (jwksRun http ttl earlier).1.shared := by
  obtain ⟨earlier, rest, client, scheduled, historyEq, running, advanced⟩ :=
    jwksRun_reached http ttl schedule before after turn split
  -- an error leaves `jwks` by one of its question marks, before the cache is locked again
  have failing : (jwksCalls http).advance turn.args turn.point turn.input
      (jwksRun http ttl earlier).1.shared =
        ((jwksRun http ttl earlier).1.shared, .inr (.error error)) := by
    simp only [jwksCalls, point, advanceJwks, failed]
  have returns : turn.outcome = .inr (.error error) := by
    rw [failing] at advanced
    exact (congrArg Prod.snd advanced).symm
  refine ⟨returns, ?_, earlier, rest, scheduled, historyEq, ?_⟩
  · intro later member
    -- a call that has returned takes no further turn
    obtain ⟨between, final, rfl⟩ := List.append_of_mem member
    have splitLater : (jwksRun http ttl schedule).2 =
        (before ++ turn :: between) ++ later :: final := by
      rw [List.append_assoc]
      exact split
    exact (jwksCalls http).silent_after_return _ schedule _ final turn later _ splitLater
      (List.mem_append_right _ List.mem_cons_self) returns
  · have stepped := congrArg (fun ran => ran.1.shared)
      ((jwksCalls http).run_concat (DiscoveryClient.new.withCacheTtl ttl) earlier
        (.advance turn.id turn.input))
    simp only [Procedure.step] at stepped
    change ((jwksCalls http).run _ earlier).1.calls turn.id = _ at running
    simp only [running] at stepped
    refine stepped.trans ?_
    exact congrArg Prod.fst failing

/-- A response with an error status is a fetch that fails, even if its body is a document. -/
theorem error_status_ends_call (before after : List Turn) (turn : Turn)
    (response : Response JwksDoc)
    (split : (jwksRun http ttl schedule).2 = before ++ turn :: after) (point : turn.point = .fetch)
    (answer : http turn.args turn.input.served = .ok response)
    (client : 400 ≤ response.status) (server : response.status < 600) :
    turn.outcome = .inr (.error (.http (.status response.status))) ∧
      ∀ later ∈ after, later.id ≠ turn.id := by
  have failed : http.jwksDoc turn.args turn.input.served = _ :=
    Get.json_of_status http turn.args turn.input.served response answer client server
  obtain ⟨returns, ended, _⟩ := failed_fetch http ttl schedule before after turn _ split point failed
  exact ⟨returns, ended⟩

/-- Fresh or refetched: in every run with a clock that does not run backwards, an `Ok` answer is
what the call fetched itself or a snapshot younger than the ttl that an earlier successful call
stored; and a fetch that fails ends its call with the error and leaves the cache alone. -/
theorem jwks_fresh_or_refetched (ordered : ClockOrdered (jwksRun http ttl schedule).2)
    (before after : List Turn) (turn : Turn)
    (split : (jwksRun http ttl schedule).2 = before ++ turn :: after) :
    (∀ cached, turn.outcome = .inr (.ok cached) →
      OwnAnswer http before turn cached ∨ FreshAnswer ttl before turn cached) ∧
    ∀ error, turn.point = .fetch → http.jwksDoc turn.args turn.input.served = .error error →
      turn.outcome = .inr (.error error) ∧ (∀ later ∈ after, later.id ≠ turn.id) ∧
        ∃ earlier rest, schedule = earlier ++ .advance turn.id turn.input :: rest ∧
          (jwksRun http ttl earlier).2 = before ∧
          (jwksRun http ttl (earlier ++ [.advance turn.id turn.input])).1.shared =
            (jwksRun http ttl earlier).1.shared := by
  constructor
  · intro cached returned
    rcases answer_cases http ttl schedule before after turn cached split returned with
      ⟨check, _⟩ | store
    · exact Or.inr (hit_fresh http ttl schedule before after turn cached ordered split check returned)
    · exact Or.inl ⟨store, store_fetched http ttl schedule before after turn cached split store⟩
  · intro error point failed
    exact failed_fetch http ttl schedule before after turn error split point failed

end Runs

/-! ### An outage -/

/-- From ten minutes on the issuer cannot be reached. -/
def outageHttp : Http := fun jwksUri served =>
  if served.nanos < 600000000000 then sampleHttp jwksUri served else .error .transport

/-- A first call, one that finds its snapshot, and one after the snapshot has expired. -/
def outageCalls : List JwksAction :=
  soloCall 0 "https://a.example/jwks" 0 ++ soloCall 1 "https://a.example/jwks" 5 ++
    soloCall 2 "https://a.example/jwks" 700

theorem outage_answered :
    ∃ before turn cached, turn.id = 1 ∧
      turn ∈ (jwksRun outageHttp (.fromSecs 600) outageCalls).2 ∧
      turn.outcome = .inr (.ok cached) ∧
      (OwnAnswer outageHttp before turn cached ∨
        FreshAnswer (.fromSecs 600) before turn cached) := by
  have ordered : ClockOrdered (jwksRun outageHttp (.fromSecs 600) outageCalls).2 := by
    decide +kernel
  -- the second call is answered from the cache, during the outage
  have answers : (1, "https://a.example/jwks",
      (JwksDoc.mk [sampleKey "https://a.example/jwks"]).cachedAt ⟨0⟩) ∈
        (jwksRun outageHttp (.fromSecs 600) outageCalls).2.filterMap
          fun turn => (answered turn).map (Prod.mk turn.id) := by
    decide +kernel
  obtain ⟨turn, member, answer⟩ := List.mem_filterMap.mp answers
  obtain ⟨_, answer, same⟩ := Option.map_eq_some_iff.mp answer
  obtain ⟨sameId, rfl⟩ := Prod.mk.inj same
  obtain ⟨before, after, split⟩ := List.append_of_mem member
  have returned := ((answered_eq_some_iff turn _ _).mp answer).2
  exact ⟨before, turn, _, sameId, member, returned,
    (jwks_fresh_or_refetched outageHttp (.fromSecs 600) outageCalls ordered before after turn
      split).1 _ returned⟩

/-- The third call fails, and the expired snapshot stays where it is. -/
example : ((jwksRun outageHttp (.fromSecs 600) outageCalls).1.shared.jwksCache.map (·.fetchedAt)) =
    some ⟨0⟩ := by
  decide +kernel

end AuthKit.Oidc
