import AuthKit.Oidc.Overwriting

/-!
# How often the issuer is asked

A snapshot in the cache spares the requests of one ttl. Nothing makes a call wait for the request of
another one, so calls that miss together all ask; and an older snapshot that replaces a younger one
lets the next call ask early. If calls that miss take turns, neither happens.
-/
namespace AuthKit.Oidc

open Execution

instance (turn : Turn) : Decidable (turn.outcome = .inl .fetch) :=
  match turn.outcome with
  | .inl .fetch => isTrue rfl
  | .inl .check => isFalse nofun
  | .inl (.store _) => isFalse nofun
  | .inr _ => isFalse nofun

/-- When a call misses, all calls that missed before it have returned. -/
def SingleFlight (history : List Turn) : Prop :=
  ∀ before turn after, history = before ++ turn :: after → turn.outcome = .inl .fetch →
    ∀ earlier ∈ before, earlier.outcome = .inl .fetch →
      earlier.id ∈ before.filterMap Section.returnedId

theorem SingleFlight.returned {before after : List Turn} {turn earlier : Turn}
    (alone : SingleFlight (before ++ turn :: after)) (missed : turn.outcome = .inl .fetch)
    (member : earlier ∈ before) (missed' : earlier.outcome = .inl .fetch) :
    ∃ done ∈ before, done.id = earlier.id ∧ ∃ result, done.outcome = .inr result := by
  obtain ⟨done, inside, returned⟩ :=
    List.mem_filterMap.mp (alone before turn after rfl missed earlier member missed')
  exact ⟨done, inside, (done.returnedId_eq_some_iff _).mp returned⟩

/-- The reading of a request that got a document, with which its snapshot is stamped. -/
def requested (turn : Turn) : Option Nat :=
  match turn.outcome with
  | .inl (.store cached) => some cached.fetchedAt.nanos
  | _ => none

/-- The sections of a call come in this order. -/
def Point.rank : Point → Nat
  | .check => 0
  | .fetch => 1
  | .store _ => 2

private theorem ClockOrdered.le_later {before after : List Turn} {turn turn' : Turn}
    (ordered : ClockOrdered (before ++ turn :: after)) (member : turn' ∈ before) :
    turn'.input.now ≤ turn.input.now :=
  (List.pairwise_append.mp ordered).2.2 turn' member turn List.mem_cons_self

section Runs

variable (http : Http) (ttl : Duration) (schedule : List JwksAction)

theorem jwksRun_ranked : (jwksRun http ttl schedule).2.Pairwise fun earlier later =>
    earlier.id = later.id → earlier.point.rank < later.point.rank := by
  refine (jwksCalls http).ranked _ schedule Point.rank ?_
  intro jwksUri point readings client next advanced
  have moved : (jwksCalls http).advance jwksUri point readings client =
      (((jwksCalls http).advance jwksUri point readings client).1, .inl next) :=
    Prod.ext rfl advanced
  rcases advance_cases http jwksUri point readings client _ _ moved with
    ⟨_, _, _, _, answers⟩ | ⟨rfl, _, _, misses⟩ | ⟨_, _, _, _, fails⟩ |
    ⟨_, rfl, _, _, builds⟩ | ⟨_, _, _, answers⟩
  · cases answers
  · cases misses
    decide
  · cases fails
  · cases builds
    simp [Point.rank]
  · cases answers

theorem rank_lt_of_split (before between after : List Turn) (first second : Turn)
    (split : (jwksRun http ttl schedule).2 = before ++ first :: (between ++ second :: after))
    (sameId : first.id = second.id) :
    first.point.rank < second.point.rank := by
  have ranked := jwksRun_ranked http ttl schedule
  rw [split] at ranked
  exact (List.pairwise_cons.mp (List.pairwise_append.mp ranked).2.1).1 second (by simp) sameId

/-- A call comes to each of its points once. -/
theorem rank_determines (before after : List Turn) (turn turn' : Turn)
    (split : (jwksRun http ttl schedule).2 = before ++ turn :: after)
    (member : turn' ∈ before ++ turn :: after) (sameId : turn'.id = turn.id)
    (sameRank : turn'.point.rank = turn.point.rank) : turn' = turn := by
  rcases List.mem_append.mp member with early | late
  · obtain ⟨begun, between, rfl⟩ := List.append_of_mem early
    have less := rank_lt_of_split http ttl schedule begun between after turn' turn
      (by rw [split, List.append_assoc, List.cons_append]) sameId
    exact absurd sameRank (Nat.ne_of_lt less)
  · rcases List.mem_cons.mp late with same | late
    · exact same
    · obtain ⟨between, rest, rfl⟩ := List.append_of_mem late
      have less := rank_lt_of_split http ttl schedule before between rest turn turn' split
        sameId.symm
      exact absurd sameRank.symm (Nat.ne_of_lt less)

/-- Only a check misses. -/
theorem missed_check (before after : List Turn) (turn : Turn)
    (split : (jwksRun http ttl schedule).2 = before ++ turn :: after)
    (missed : turn.outcome = .inl .fetch) :
    turn.point = .check ∧ ∃ earlier, (jwksRun http ttl earlier).2 = before ∧
      (jwksRun http ttl earlier).1.shared.cacheHit turn.input.now = none := by
  obtain ⟨earlier, _, client, _, historyEq, _, advanced⟩ :=
    jwksRun_reached http ttl schedule before after turn split
  rw [missed] at advanced
  rcases advance_cases http turn.args turn.point turn.input _ client _ advanced with
    ⟨_, _, _, _, answers⟩ | ⟨check, miss, _, _⟩ | ⟨_, _, _, _, fails⟩ | ⟨_, _, _, _, builds⟩ |
    ⟨_, _, _, answers⟩
  · cases answers
  · exact ⟨check, earlier, historyEq, miss⟩
  · cases fails
  · cases builds
  · cases answers

/-- A call sends its request after its own check has missed. -/
theorem fetch_missed (before after : List Turn) (turn : Turn)
    (split : (jwksRun http ttl schedule).2 = before ++ turn :: after)
    (point : turn.point = .fetch) :
    ∃ check ∈ before, check.id = turn.id ∧ check.outcome = .inl .fetch := by
  rcases (jwksCalls http).preceded _ schedule before after turn split with
    started | ⟨first, check, between, rfl, sameId, _, missed⟩
  · rw [point] at started
    cases started
  · exact ⟨check, by simp, sameId, point ▸ missed⟩

/-- What got a document is a fetch, and the snapshot carries its reading. -/
theorem built_fetch (before after : List Turn) (turn : Turn) (cached : CachedJwks)
    (split : (jwksRun http ttl schedule).2 = before ++ turn :: after)
    (built : turn.outcome = .inl (.store cached)) :
    turn.point = .fetch ∧ cached.fetchedAt = turn.input.now := by
  obtain ⟨_, _, client, _, _, _, advanced⟩ :=
    jwksRun_reached http ttl schedule before after turn split
  rw [built] at advanced
  obtain ⟨_, fetch, _, rfl⟩ :=
    advance_builds http turn.args turn.point turn.input _ client cached advanced
  exact ⟨fetch, rfl⟩

/-- The cache holds what was stored last, if anything was stored since. -/
theorem lastPublished_since (before middle : List Turn) (stored : Turn) (cached : CachedJwks)
    (stores : stored.point = .store cached) :
    lastPublished (before ++ stored :: middle) = some (stored.args, cached) ∨
      ∃ turn ∈ middle, ∃ held, turn.point = .store held ∧
        lastPublished (before ++ stored :: middle) = some (turn.args, held) := by
  have publishes : published stored = some (stored.args, cached) :=
    (published_eq_some_iff stored _ _).mpr ⟨rfl, stores⟩
  have last : lastPublished (before ++ stored :: middle) =
      (lastPublished middle).or (some (stored.args, cached)) := by
    unfold lastPublished
    rw [List.filterMap_append, List.filterMap_cons_some publishes, List.getLast?_append,
      List.getLast?_cons]
    cases (middle.filterMap published).getLast? <;> rfl
  rw [last]
  cases later : lastPublished middle with
  | none => exact Or.inl rfl
  | some publication =>
    obtain ⟨turn, member, publishes⟩ := lastPublished_mem middle publication later
    obtain ⟨same, point⟩ := (published_eq_some_iff turn publication.1 publication.2).mp publishes
    exact Or.inr ⟨turn, member, publication.2, point, by rw [same]; rfl⟩

/-- Within the ttl of a stored snapshot a check misses only if an overtaken call has stored in
between. -/
theorem miss_within_ttl_overtaken (ordered : ClockOrdered (jwksRun http ttl schedule).2)
    (before middle after : List Turn) (stored check : Turn) (cached : CachedJwks)
    (split : (jwksRun http ttl schedule).2 = before ++ stored :: (middle ++ check :: after))
    (stores : stored.point = .store cached) (missed : check.outcome = .inl .fetch)
    (young : check.input.now.nanos < cached.fetchedAt.nanos + ttl.nanos) :
    ∃ first turn last, middle = first ++ turn :: last ∧
      Overtaken (before ++ stored :: first) turn := by
  have splitCheck : (jwksRun http ttl schedule).2 = (before ++ stored :: middle) ++ check :: after := by
    rw [split, List.append_assoc, List.cons_append]
  obtain ⟨_, earlier, historyEq, miss⟩ :=
    missed_check http ttl schedule _ after check splitCheck missed
  -- whatever the cache holds at the check is stale
  have stale : ∀ uri held, lastPublished (before ++ stored :: middle) = some (uri, held) →
      ttl.nanos ≤ check.input.now.nanos - held.fetchedAt.nanos := by
    intro uri held last
    have holds : (jwksRun http ttl earlier).1.shared.jwksCache = some held := by
      rw [cache_jwksRun, historyEq, last, Option.map_some]
    refine Nat.not_lt.mp fun fresh => ?_
    have hit := (DiscoveryClient.cacheHit_eq_some_iff _ check.input.now held).mpr
      ⟨holds, by rw [cacheTtl_jwksRun]; exact decide_eq_true fresh⟩
    rw [miss] at hit
    cases hit
  obtain ⟨fetch, fetched, sameId, _, fetches, _, _, built⟩ :=
    store_fetched http ttl schedule before _ stored cached split stores
  have stamp : cached.fetchedAt = fetch.input.now := built ▸ rfl
  have inOrder : ClockOrdered ((before ++ stored :: middle) ++ check :: after) :=
    splitCheck ▸ ordered
  have earlierFetch : fetch.input.now.nanos ≤ check.input.now.nanos :=
    inOrder.le_later (List.mem_append_left _ fetched)
  rw [stamp] at young
  rcases lastPublished_since before middle stored cached stores with
    lastStored | ⟨turn, member, held, point, lastStored⟩
  · have old := stale _ _ lastStored
    rw [stamp] at old
    omega
  · have old := stale _ _ lastStored
    obtain ⟨first, last, rfl⟩ := List.append_of_mem member
    have splitTurn : (jwksRun http ttl schedule).2 =
        (before ++ stored :: first) ++ turn :: (last ++ check :: after) := by
      rw [split]
      simp
    obtain ⟨own, ownFetched, ownId, _, ownFetches, _, _, ownBuilt⟩ :=
      store_fetched http ttl schedule _ _ turn held splitTurn point
    have ownStamp : held.fetchedAt = own.input.now := ownBuilt ▸ rfl
    have inside : own ∈ before ++ stored :: (first ++ turn :: last) := by
      rcases List.mem_append.mp ownFetched with early | late
      · exact List.mem_append_left _ early
      · exact List.mem_append_right _ (List.cons_subset_cons _ (List.subset_append_left _ _) late)
    have earlierOwn : own.input.now.nanos ≤ check.input.now.nanos := inOrder.le_later inside
    -- the stale snapshot was fetched before the one that it replaced
    have less : own.input.now < fetch.input.now := by
      rw [ownStamp] at old
      change own.input.now.nanos < fetch.input.now.nanos
      omega
    have whole : own ∈ (jwksRun http ttl schedule).2 := by
      rw [splitCheck]
      exact List.mem_append_left _ inside
    obtain ⟨beginning, rest, rfl⟩ := List.append_of_mem fetched
    rw [split, List.append_assoc, List.cons_append] at ordered whole
    exact ⟨first, turn, last, rfl, ⟨held, point⟩, beginning, fetch, rest, stored, first, by simp,
      ⟨own, ordered.mem_before whole less, ownId, ownFetches, less⟩, sameId, fetches, cached, stores⟩

theorem requested_iff (turn : Turn) (time : Nat) :
    requested turn = some time ↔
      ∃ cached, turn.outcome = .inl (.store cached) ∧ cached.fetchedAt.nanos = time := by
  unfold requested
  rcases turn.outcome with (_ | _ | cached) | result <;> simp

/-- A call that has got a document and is back has stored the snapshot it built of it. -/
theorem back_stored (before between after : List Turn) (fetch done : Turn) (cached : CachedJwks)
    (split : (jwksRun http ttl schedule).2 = before ++ fetch :: (between ++ done :: after))
    (built : fetch.outcome = .inl (.store cached)) (sameId : done.id = fetch.id) :
    ∃ stored, done.point = .store stored ∧ stored.fetchedAt = fetch.input.now := by
  obtain ⟨fetches, _⟩ := built_fetch http ttl schedule before _ fetch cached split built
  have higher := rank_lt_of_split http ttl schedule before between after fetch done split sameId.symm
  rw [fetches] at higher
  cases point : done.point with
  | check =>
    rw [point] at higher
    cases higher
  | fetch =>
    rw [point] at higher
    exact absurd higher (Nat.lt_irrefl _)
  | store stored =>
    have splitDone : (jwksRun http ttl schedule).2 =
        (before ++ fetch :: between) ++ done :: after := by
      rw [split, List.append_assoc, List.cons_append]
    obtain ⟨own, member, ownId, _, ownFetches, _, _, ownBuilt⟩ :=
      store_fetched http ttl schedule _ after done stored splitDone point
    have same : own = fetch := by
      refine rank_determines http ttl schedule before _ fetch own split ?_ (ownId.trans sameId)
        (by rw [ownFetches, fetches])
      rw [← List.cons_append, ← List.append_assoc]
      exact List.mem_append_left _ member
    exact ⟨stored, rfl, by rw [ownBuilt, same]; rfl⟩

section Alone

variable (alone : SingleFlight (jwksRun http ttl schedule).2)

include alone

/-- Between the requests of two calls the first call returns and the second one misses. -/
theorem flight_ended (before middle after : List Turn) (first second : Turn)
    (split : (jwksRun http ttl schedule).2 = before ++ first :: (middle ++ second :: after))
    (fetches : first.point = .fetch) (fetches' : second.point = .fetch) :
    ∃ flown check rest, middle = flown ++ check :: rest ∧ check.outcome = .inl .fetch ∧
      ∃ done ∈ first :: flown, done.id = first.id ∧ ∃ result, done.outcome = .inr result := by
  have splitSecond : (jwksRun http ttl schedule).2 =
      (before ++ first :: middle) ++ second :: after := by
    rw [split, List.append_assoc, List.cons_append]
  have differ : first.id ≠ second.id := by
    intro same
    have less := rank_lt_of_split http ttl schedule before middle after first second split same
    rw [fetches, fetches'] at less
    exact absurd less (Nat.lt_irrefl _)
  -- no section of a call follows its return
  have running : ∀ done ∈ before, done.id = first.id → ∀ result, done.outcome ≠ .inr result := by
    intro done member sameId result returned
    exact (jwksCalls http).silent_after_return _ schedule before _ done first result split member
      returned sameId.symm
  have running' : ∀ done ∈ before ++ first :: middle, done.id = second.id → ∀ result,
      done.outcome ≠ .inr result := by
    intro done member sameId result returned
    exact (jwksCalls http).silent_after_return _ schedule _ after done second result splitSecond
      member returned sameId.symm
  obtain ⟨check, checked, sameId, missed⟩ :=
    fetch_missed http ttl schedule before _ first split fetches
  obtain ⟨check', checked', sameId', missed'⟩ :=
    fetch_missed http ttl schedule _ after second splitSecond fetches'
  rcases List.mem_append.mp checked' with early | late
  · exfalso
    obtain ⟨begun, rest, rfl⟩ := List.append_of_mem checked
    rcases List.mem_append.mp early with earlier | later
    · -- the second call missed first, and was not back when the first one missed
      have splitCheck : (jwksRun http ttl schedule).2 =
          begun ++ check :: (rest ++ first :: (middle ++ second :: after)) := by
        rw [split]
        simp
      rw [splitCheck] at alone
      obtain ⟨done, member, doneId, result, returned⟩ := alone.returned missed earlier missed'
      exact running' done (by simp [member]) (doneId.trans sameId') result returned
    · rcases List.mem_cons.mp later with rfl | later
      · exact differ (sameId.symm.trans sameId')
      · -- the first call missed first, and was not back when the second one missed
        obtain ⟨between, rest', rfl⟩ := List.append_of_mem later
        have splitCheck : (jwksRun http ttl schedule).2 = (begun ++ check :: between) ++
            check' :: (rest' ++ first :: (middle ++ second :: after)) := by
          rw [split]
          simp
        rw [splitCheck] at alone
        obtain ⟨done, member, doneId, result, returned⟩ :=
          alone.returned missed' (by simp) missed
        refine running done ?_ (doneId.trans sameId) result returned
        simp only [List.mem_append, List.mem_cons] at member ⊢
        tauto
  · rcases List.mem_cons.mp late with rfl | inside
    · have check := (missed_check http ttl schedule before _ check' split missed').1
      rw [fetches] at check
      cases check
    · obtain ⟨flown, rest, rfl⟩ := List.append_of_mem inside
      refine ⟨flown, check', rest, rfl, missed', ?_⟩
      have splitCheck : (jwksRun http ttl schedule).2 =
          (before ++ first :: flown) ++ check' :: (rest ++ second :: after) := by
        rw [split]
        simp
      rw [splitCheck] at alone
      obtain ⟨done, member, doneId, result, returned⟩ :=
        alone.returned missed' (List.mem_append_left _ checked) missed
      rcases List.mem_append.mp member with before' | flown'
      · exact absurd returned (running done before' (doneId.trans sameId) result)
      · exact ⟨done, flown', doneId.trans sameId, result, returned⟩

theorem not_overtaken (before after : List Turn) (turn : Turn)
    (split : (jwksRun http ttl schedule).2 = before ++ turn :: after) :
    ¬ Overtaken before turn := by
  rintro ⟨_, beginning, overtaking, middle, stored, rest, rfl, ⟨fetch, member, sameId, fetches, _⟩,
    _, fetches', _⟩
  obtain ⟨first, later, rfl⟩ := List.append_of_mem member
  obtain ⟨flown, check, _, rfl, _, done, returnedFirst, doneId, result, returned⟩ :=
    flight_ended http ttl schedule alone first later _ fetch overtaking
      (by rw [split]; simp; rfl) fetches fetches'
  refine (jwksCalls http).silent_after_return _ schedule _ after done turn result split ?_ returned
    (sameId.symm.trans doneId.symm)
  simp only [List.mem_append, List.mem_cons] at returnedFirst ⊢
  tauto

/-- Requests that get documents are a ttl apart. -/
theorem requests_spaced (ordered : ClockOrdered (jwksRun http ttl schedule).2) :
    ((jwksRun http ttl schedule).2.filterMap requested).Pairwise fun earlier later =>
      earlier + ttl.nanos ≤ later := by
  rw [List.pairwise_filterMap, List.pairwise_iff_forall_sublist]
  intro first second sublist time requestedFirst time' requestedSecond
  obtain ⟨cached, built, rfl⟩ := (requested_iff first time).mp requestedFirst
  obtain ⟨cached', built', rfl⟩ := (requested_iff second time').mp requestedSecond
  obtain ⟨left, right, split, inLeft, inRight⟩ := List.cons_sublist_iff.mp sublist
  obtain ⟨before, middle, rfl⟩ := List.append_of_mem inLeft
  obtain ⟨middle', after, rfl⟩ := List.append_of_mem (List.singleton_sublist.mp inRight)
  have split : (jwksRun http ttl schedule).2 =
      before ++ first :: ((middle ++ middle') ++ second :: after) := by
    rw [split]
    simp
  generalize middle ++ middle' = middle at split
  have splitSecond : (jwksRun http ttl schedule).2 =
      (before ++ first :: middle) ++ second :: after := by
    rw [split, List.append_assoc, List.cons_append]
  obtain ⟨fetches, stamp⟩ := built_fetch http ttl schedule before _ first cached split built
  obtain ⟨fetches', stamp'⟩ :=
    built_fetch http ttl schedule _ after second cached' splitSecond built'
  obtain ⟨flown, check, rest, rfl, missed, done, returnedFirst, doneId, result, returned⟩ :=
    flight_ended http ttl schedule alone before middle after first second split fetches fetches'
  rcases List.mem_cons.mp returnedFirst with rfl | inFlown
  · rw [built] at returned
    cases returned
  · obtain ⟨flight, idle, rfl⟩ := List.append_of_mem inFlown
    obtain ⟨stored, point, storedStamp⟩ := back_stored http ttl schedule before flight _ first done
      cached (by rw [split]; simp; rfl) built doneId
    have splitDone : (jwksRun http ttl schedule).2 = (before ++ first :: flight) ++
        done :: (idle ++ check :: (rest ++ second :: after)) := by
      rw [split]
      simp
    have late : stored.fetchedAt.nanos + ttl.nanos ≤ check.input.now.nanos := by
      refine Nat.not_lt.mp fun young => ?_
      obtain ⟨idle', turn, idle'', rfl, overtaken⟩ := miss_within_ttl_overtaken http ttl schedule
        ordered _ idle _ done check stored splitDone point missed young
      exact not_overtaken http ttl schedule alone _ _ turn (by rw [splitDone]; simp; rfl) overtaken
    have inOrder : check.input.now.nanos ≤ second.input.now.nanos := by
      rw [splitSecond] at ordered
      exact ordered.le_later (by simp)
    rw [stamp, stamp', ← storedStamp]
    exact Nat.le_trans late inOrder

/-- Where calls that miss take turns, and the clock does not run backwards, the issuer gives out no
more than one document each ttl, in any interval and however many calls are made. -/
theorem single_flight_request_rate (ordered : ClockOrdered (jwksRun http ttl schedule).2)
    (low high : Nat) :
    (((jwksRun http ttl schedule).2.filterMap requested).filter
        fun time => low ≤ time ∧ time ≤ high).length * ttl.nanos ≤ high - low + ttl.nanos := by
  refine length_mul_gap_le _ ttl.nanos low high ?_ ?_
  · exact (requests_spaced http ttl schedule alone ordered).filter _
  · intro time member
    simpa using (List.mem_filter.mp member).2

end Alone

end Runs

/-! ### An hour of calls -/

/-- A call each five minutes, with a ttl of ten. -/
def hourlyCalls : List JwksAction :=
  (List.range 12).flatMap fun i => soloCall i "https://a.example/jwks" (300 * i)

theorem hourly_calls_six_requests :
    (((jwksRun sampleHttp (.fromSecs 600) hourlyCalls).2.filterMap requested).filter
        fun time => 0 ≤ time ∧ time ≤ 3600000000000).length = 6 ∧
    6 * 600000000000 ≤ 3600000000000 - 0 + 600000000000 := by
  have alone : SingleFlight (jwksRun sampleHttp (.fromSecs 600) hourlyCalls).2 := by
    apply forall_split_of_take
    decide +kernel
  have ordered : ClockOrdered (jwksRun sampleHttp (.fromSecs 600) hourlyCalls).2 := by
    decide +kernel
  have six : (((jwksRun sampleHttp (.fromSecs 600) hourlyCalls).2.filterMap requested).filter
      fun time => 0 ≤ time ∧ time ≤ 3600000000000).length = 6 := by
    decide +kernel
  have rate := single_flight_request_rate sampleHttp (.fromSecs 600) hourlyCalls alone ordered 0
    3600000000000
  rw [six] at rate
  exact ⟨six, rate⟩

/-- Calls that miss together both ask, here a second apart. -/
example : ((jwksRun rotatingHttp (.fromSecs 600) overtakingCalls).2.filterMap requested) =
    [1000000000, 2000000000] := by
  decide +kernel

end AuthKit.Oidc
