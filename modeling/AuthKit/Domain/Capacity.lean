import AuthKit.Domain.Bindings

/-!
# The capacity law of the in-memory store

`max_entries` bounds the map, and a binding is refused exactly when the live bindings of
other tokens fill the map. Both follow from the size bound in `Tracks` and from the fact
that after an eviction the map holds live bindings only.
-/
namespace AuthKit.Domain

open Execution

namespace InMemorySessionStore

/-- The tokens other than `token` with a binding that is unexpired at `now`. -/
def liveOthers (store : InMemorySessionStore) (now : DateTime) (token : String) : Set String :=
  {other | other ≠ token ∧ ∃ entry, store.Live now other entry}

/-- When the token itself has no live binding, the evicted map counts the others. -/
theorem ncard_liveOthers (store : InMemorySessionStore) (now : DateTime) (token : String)
    (absent : ¬ ∃ entry, store.Live now token entry) :
    (store.liveOthers now token).ncard = (evictExpired now store.inner).size := by
  have same : store.liveOthers now token = {other | other ∈ evictExpired now store.inner} := by
    ext other
    simp only [liveOthers, Set.mem_ofPred_eq, mem_evictExpired]
    constructor
    · rintro ⟨_, live⟩
      exact live
    · intro live
      refine ⟨?_, live⟩
      rintro rfl
      exact absent live
  rw [same, AList.ncard_keys]

/-- `bind_state` on a healthy bounded store refuses iff the token is not live and at least
`max_entries` other tokens are. -/
theorem bindState_refuses_iff (store : InMemorySessionStore) (healthy : store.poisoned = false)
    (bounded : store.maxEntries ≠ 0) (token session : String) (evictNow insertNow : DateTime) :
    (store.bindState token session evictNow insertNow).2 = .err (.atCapacity store.maxEntries) ↔
      (¬ ∃ entry, store.Live evictNow token entry) ∧
        store.maxEntries ≤ (store.liveOthers evictNow token).ncard := by
  -- the guard of the refusal, with the evicted map read as the live bindings
  rcases store.bindState_cases healthy token session evictNow insertNow with
    ⟨⟨_, full, absent⟩, result⟩ | ⟨admitted, result⟩
  · rw [mem_evictExpired] at absent
    rw [result, ncard_liveOthers store evictNow token absent]
    exact iff_of_true rfl ⟨absent, full⟩
  · have accepted : (store.bindState token session evictNow insertNow).2 ≠
        .err (.atCapacity store.maxEntries) := by
      rcases result with ⟨_, result⟩ | ⟨expires, _, result⟩ <;> simp [result]
    refine iff_of_false accepted ?_
    rintro ⟨absent, full⟩
    rw [ncard_liveOthers store evictNow token absent] at full
    rw [← mem_evictExpired] at absent
    exact admitted ⟨bounded, full, absent⟩

/-- A refused `bind_state` only evicts. -/
theorem bindState_refused_inner (store : InMemorySessionStore) (healthy : store.poisoned = false)
    (token session : String) (evictNow insertNow : DateTime) (error : SessionStoreError)
    (refused : (store.bindState token session evictNow insertNow).2 = .err error) :
    (store.bindState token session evictNow insertNow).1.inner =
      evictExpired evictNow store.inner := by
  rcases store.bindState_cases healthy token session evictNow insertNow with
    ⟨_, result⟩ | ⟨_, ⟨_, result⟩ | ⟨expires, _, result⟩⟩
  · rw [result]
  · rw [result] at refused
    cases refused
  · rw [result] at refused
    cases refused

end InMemorySessionStore

/-- The capacity law: in every run of a store with `max_entries = m > 0` the map holds at most
`m` entries; `bind_state` answers `AtCapacity` iff its eviction reading finds no unexpired
binding of the token and unexpired bindings of exactly `m` other tokens; and then every
binding unexpired at that reading is in the map afterwards exactly as before. -/
theorem capacity_law (ttl : Duration) (m : Nat) (positive : 0 < m) (ops : List StoreOp)
    (inRange : ∀ op ∈ ops, op.InRange ttl) (store : InMemorySessionStore)
    (reached : store =
      (InMemorySessionStore.machine.exec (.withCapacity ttl m) ops).1) :
    store.inner.size ≤ m ∧
    ∀ token session evictNow insertNow,
      ((store.bindState token session evictNow insertNow).2 = .err (.atCapacity m) ↔
        (¬ ∃ entry, store.Live evictNow token entry) ∧
          (store.liveOthers evictNow token).ncard = m) ∧
      ((store.bindState token session evictNow insertNow).2 = .err (.atCapacity m) →
        ∀ other entry, evictNow < entry.expiresAt →
          ((store.bindState token session evictNow insertNow).1.inner.lookup other = some entry ↔
            store.inner.lookup other = some entry)) := by
  have tracks := exec_tracks ttl m ops inRange
  rw [← reached] at tracks
  have bound : store.inner.size ≤ m := tracks.size_le (by omega)
  refine ⟨bound, fun token session evictNow insertNow => ⟨?_, ?_⟩⟩
  · have refuses := store.bindState_refuses_iff tracks.healthy
      (by rw [tracks.maxEntries_eq]; omega) token session evictNow insertNow
    rw [tracks.maxEntries_eq] at refuses
    rw [refuses]
    refine and_congr_right fun absent => ?_
    -- the size bound turns "at least m others" into "exactly m others"
    have atMost : (store.liveOthers evictNow token).ncard ≤ m := by
      rw [store.ncard_liveOthers evictNow token absent]
      exact (AList.size_retain_le _ _).trans bound
    omega
  · -- a refusal only evicts, and what is unexpired survives the eviction
    intro refused other entry fresh
    rw [store.bindState_refused_inner tracks.healthy token session evictNow insertNow _ refused,
      InMemorySessionStore.lookup_evictExpired]
    exact and_iff_left fresh

/-- One place, taken by a live binding of `a`: the binding of `b` is refused. -/
theorem capacity_law_full_store :
    let store := (InMemorySessionStore.machine.exec (.withCapacity (.minutes 15) 1)
      [.bind "a" "session" (.ofSeconds 0) (.ofSeconds 0)]).1
    store.inner.size ≤ 1 ∧
    (store.bindState "b" "session" (.ofSeconds 1) (.ofSeconds 1)).2 = .err (.atCapacity 1) ∧
    (store.liveOthers (.ofSeconds 1) "b").ncard = 1 := by
  obtain ⟨bound, law⟩ := capacity_law (.minutes 15) 1 (by decide)
    [.bind "a" "session" (.ofSeconds 0) (.ofSeconds 0)] (by decide) _ rfl
  have refused := (law "b" "session" (.ofSeconds 1) (.ofSeconds 1)).1
  have answer : ((InMemorySessionStore.machine.exec (.withCapacity (.minutes 15) 1)
      [.bind "a" "session" (.ofSeconds 0) (.ofSeconds 0)]).1.bindState "b" "session"
        (.ofSeconds 1) (.ofSeconds 1)).2 = .err (.atCapacity 1) := by decide
  exact ⟨bound, answer, (refused.mp answer).2⟩

end AuthKit.Domain
