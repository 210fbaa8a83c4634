import AuthKit.Oidc.Freshness

/-!
# Which refresh the cache keeps

The reading that stamps a snapshot is taken outside the lock that stores it, and a store does not
look at what it replaces: the last one wins. So a refresh can be lost to an older one, namely
when the older call is overtaken between its fetch and its store; it is lost in no other way.
-/
namespace AuthKit.Oidc

open Execution

/-- The turn stores for a call that was overtaken: after that call's fetch another call completed
its own, and it has already stored. -/
def Overtaken (before : List Turn) (turn : Turn) : Prop :=
  (∃ cached, turn.point = .store cached) ∧
    ∃ beginning overtaking middle stored rest,
      before = beginning ++ overtaking :: (middle ++ stored :: rest) ∧
      (∃ fetch ∈ beginning, fetch.id = turn.id ∧ fetch.point = .fetch ∧
        fetch.input.now < overtaking.input.now) ∧
      overtaking.id = stored.id ∧ overtaking.point = .fetch ∧ ∃ cached, stored.point = .store cached

/-- After the events of `past`, the history has a store by a call that was overtaken. -/
def OvertakenSince (past history : List Turn) : Prop :=
  ∃ before turn after, history = before ++ turn :: after ∧ past <+: before ∧ Overtaken before turn

theorem OvertakenSince.later {past history : List Turn} (since : OvertakenSince past history)
    (added : List Turn) : OvertakenSince past (history ++ added) := by
  obtain ⟨before, turn, after, rfl, since, overtaken⟩ := since
  exact ⟨before, turn, after ++ added, by simp, since, overtaken⟩

/-- Of two turns the one with the earlier reading comes first. -/
theorem ClockOrdered.mem_before {before after : List Turn} {turn turn' : Turn}
    (ordered : ClockOrdered (before ++ turn :: after)) (member : turn' ∈ before ++ turn :: after)
    (less : turn'.input.now < turn.input.now) : turn' ∈ before := by
  have later := (List.pairwise_cons.mp (List.pairwise_append.mp ordered).2.1).1
  rcases List.mem_append.mp member with first | last
  · exact first
  · rcases List.mem_cons.mp last with rfl | last
    · exact absurd less (Nat.lt_irrefl _)
    · exact absurd less (Nat.not_lt.mpr (later turn' last))

section Runs

variable (http : Http) (ttl : Duration) (schedule : List JwksAction)

/-- One more action leaves the cache alone, or it is a store. -/
theorem jwksRun_concat_cases (action : JwksAction) :
    (∃ added, (jwksRun http ttl (schedule ++ [action])).2 = (jwksRun http ttl schedule).2 ++ added ∧
      (jwksRun http ttl (schedule ++ [action])).1.shared.jwksCache =
        (jwksRun http ttl schedule).1.shared.jwksCache) ∨
    ∃ turn cached, turn.point = .store cached ∧
      (jwksRun http ttl schedule).1.calls turn.id = some (.running turn.args (.store cached)) ∧
      (jwksRun http ttl (schedule ++ [action])).2 = (jwksRun http ttl schedule).2 ++ [turn] ∧
      (jwksRun http ttl (schedule ++ [action])).1.shared.jwksCache = some cached := by
  unfold jwksRun
  rw [(jwksCalls http).run_concat]
  rcases (jwksCalls http).step_cases ((jwksCalls http).run _ schedule).1 action with
    same | ⟨id, jwksUri, _, _, result⟩ |
    ⟨id, jwksUri, point, readings, client, outcome, _, running, advanced, result⟩
  · rw [same]
    exact Or.inl ⟨[], rfl, rfl⟩
  · rw [result]
    exact Or.inl ⟨[], rfl, rfl⟩
  · rw [result]
    rcases advance_cases http jwksUri point readings _ client outcome advanced with
      ⟨_, _, _, rfl, _⟩ | ⟨_, _, rfl, _⟩ | ⟨_, _, _, rfl, _⟩ | ⟨_, _, _, rfl, _⟩ |
      ⟨cached, rfl, rfl, _⟩
    · -- the first four cases do not write
      exact Or.inl ⟨_, rfl, rfl⟩
    · exact Or.inl ⟨_, rfl, rfl⟩
    · exact Or.inl ⟨_, rfl, rfl⟩
    · exact Or.inl ⟨_, rfl, rfl⟩
    · exact Or.inr ⟨_, cached, rfl, running, rfl, rfl⟩

/-- Who is about to replace the snapshot in the cache by an older one has been overtaken. -/
theorem older_store_overtaken (ordered : ClockOrdered (jwksRun http ttl schedule).2) (turn : Turn)
    (held cached : CachedJwks) (point : turn.point = .store cached)
    (running : (jwksRun http ttl schedule).1.calls turn.id =
      some (.running turn.args (.store cached)))
    (holds : (jwksRun http ttl schedule).1.shared.jwksCache = some held)
    (older : cached.fetchedAt < held.fetchedAt) :
    Overtaken (jwksRun http ttl schedule).2 turn := by
  obtain ⟨fetch, fetched, sameId, _, fetches, _, _, built⟩ :=
    running_store_fetched http ttl schedule turn.id turn.args cached running
  obtain ⟨first, stored, rest, split, stores, _⟩ := cached_stored http ttl schedule held holds
  obtain ⟨overtaking, member, sameId', _, fetches', _, _, built'⟩ :=
    store_fetched http ttl schedule first rest stored held split stores
  obtain ⟨beginning, middle, rfl⟩ := List.append_of_mem member
  rw [List.append_assoc, List.cons_append] at split
  -- both snapshots carry the readings of their fetches, so these are in order
  have less : fetch.input.now < overtaking.input.now := by
    rw [built, built'] at older
    exact older
  rw [split] at ordered fetched ⊢
  exact ⟨⟨cached, point⟩, beginning, overtaking, middle, stored, rest, rfl,
    ⟨fetch, ordered.mem_before fetched less, sameId, fetches, less⟩, sameId', fetches', held, stores⟩

theorem history_prefix (rest : List JwksAction) :
    (jwksRun http ttl schedule).2 <+: (jwksRun http ttl (schedule ++ rest)).2 := by
  have grown := (jwksCalls http).machine.exec_append
    (World.idle (DiscoveryClient.new.withCacheTtl ttl)) schedule rest
  exact ⟨_, (congrArg Prod.snd grown).symm⟩

/-- Between two points of a run with a clock that does not run backwards, the snapshot in the
cache is replaced by one fetched no earlier, unless a call that was overtaken stores in between. -/
theorem snapshot_regresses_only_overtaken (between : List JwksAction)
    (ordered : ClockOrdered (jwksRun http ttl (schedule ++ between)).2) (held : CachedJwks)
    (holds : (jwksRun http ttl schedule).1.shared.jwksCache = some held) :
    ∃ held', (jwksRun http ttl (schedule ++ between)).1.shared.jwksCache = some held' ∧
      (held.fetchedAt ≤ held'.fetchedAt ∨
        OvertakenSince (jwksRun http ttl schedule).2
          (jwksRun http ttl (schedule ++ between)).2) := by
  induction between using List.reverseRecOn with
  | nil =>
    rw [List.append_nil]
    exact ⟨held, holds, Or.inl (Nat.le_refl _)⟩
  | append_singleton between action ih =>
    rw [← List.append_assoc] at ordered ⊢
    rcases jwksRun_concat_cases http ttl (schedule ++ between) action with
      ⟨added, grown, same⟩ | ⟨turn, cached, point, running, grown, stored⟩
    · rw [grown] at ordered ⊢
      obtain ⟨held', holds', kept⟩ := ih (List.pairwise_append.mp ordered).1
      refine ⟨held', same.trans holds', ?_⟩
      exact kept.imp_right fun since => since.later added
    · rw [grown] at ordered ⊢
      have orderedBefore := (List.pairwise_append.mp ordered).1
      obtain ⟨held', holds', kept⟩ := ih orderedBefore
      refine ⟨cached, stored, ?_⟩
      by_cases older : cached.fetchedAt < held'.fetchedAt
      · -- this very store takes the cache back
        right
        exact ⟨_, turn, [], rfl, history_prefix http ttl schedule between,
          older_store_overtaken http ttl (schedule ++ between) orderedBefore turn held' cached point
            running holds' older⟩
      · rcases kept with le | since
        · left
          exact Nat.le_trans le (Nat.not_lt.mp older)
        · right
          exact since.later [turn]

end Runs

/-! ### A rotation -/

/-- The issuer publishes a second key from second 2 on. -/
def rotatedKey : Jwk := { sampleKey "https://a.example/jwks" with kid := some "2" }

def rotatingHttp : Http := fun jwksUri served =>
  .ok ⟨200, .ok ⟨if served.nanos < 2000000000 then [sampleKey jwksUri]
    else [sampleKey jwksUri, rotatedKey]⟩⟩

def atSecond (secs : Nat) : Readings := ⟨⟨secs * 1000000000⟩, ⟨secs * 1000000000⟩⟩

/-- Both calls miss; the first fetches before the rotation and the second after it, and the
second has stored when this ends. -/
def overtakingCalls : List JwksAction :=
  [.invoke 0 "https://a.example/jwks", .invoke 1 "https://a.example/jwks", .advance 0 (atSecond 0),
    .advance 1 (atSecond 0), .advance 0 (atSecond 1), .advance 1 (atSecond 2),
    .advance 1 (atSecond 3)]

/-- The store of the first call takes the cache back to second 1, and the new key is lost. -/
theorem overtaken_store_loses_key :
    let before := jwksRun rotatingHttp (.fromSecs 600) overtakingCalls
    let after := jwksRun rotatingHttp (.fromSecs 600) (overtakingCalls ++ [.advance 0 (atSecond 4)])
    ClockOrdered after.2 ∧
      before.1.shared.jwksCache.map (fun held => (held.fetchedAt, held.lookup "2")) =
        some (⟨2000000000⟩, some rotatedKey) ∧
      after.1.shared.jwksCache.map (fun held => (held.fetchedAt, held.lookup "2")) =
        some (⟨1000000000⟩, none) := by
  decide +kernel

/-- When the first call stores before the second one does, nothing is lost. -/
theorem ordered_stores_keep_refresh :
    let schedule : List JwksAction := [.invoke 0 "https://a.example/jwks",
      .invoke 1 "https://a.example/jwks", .advance 0 (atSecond 0), .advance 1 (atSecond 0),
      .advance 0 (atSecond 1), .advance 0 (atSecond 2)]
    let between : List JwksAction := [.advance 1 (atSecond 3), .advance 1 (atSecond 4)]
    ∃ held', (jwksRun rotatingHttp (.fromSecs 600) (schedule ++ between)).1.shared.jwksCache =
        some held' ∧
      (⟨1000000000⟩ ≤ held'.fetchedAt ∨
        OvertakenSince (jwksRun rotatingHttp (.fromSecs 600) schedule).2
          (jwksRun rotatingHttp (.fromSecs 600) (schedule ++ between)).2) := by
  intro schedule between
  have ordered : ClockOrdered
      (jwksRun rotatingHttp (.fromSecs 600) (schedule ++ between)).2 := by
    decide +kernel
  have holds : (jwksRun rotatingHttp (.fromSecs 600) schedule).1.shared.jwksCache =
      some ((JwksDoc.mk [sampleKey "https://a.example/jwks"]).cachedAt ⟨1000000000⟩) := by
    decide +kernel
  exact snapshot_regresses_only_overtaken rotatingHttp (.fromSecs 600) schedule between ordered _
    holds

end AuthKit.Oidc
