import AuthKit.Domain.Capacity
import AuthKit.Domain.Noninterference
import AuthKit.Domain.Poisoning

/-!
# The ceiling as a rate limit

A binding occupies its place until it expires or is revoked. So without revocations no more than
`max_entries` tokens are bound within one ttl, and whoever is refused has that many bindings of
others in front of it that are younger than the ttl.
-/
namespace AuthKit.Domain

open Execution

/-- The call bound the token. -/
def StoreEvent.Admits (token : String) : StoreEvent → Prop
  | .bound stateToken _ _ _ reply => stateToken = token ∧ reply = .ok ()
  | .verified _ _ _ _ => False
  | .revoked _ _ => False

/-- All readings of the operations lie within one ttl. -/
def WithinTtl (ttl : Duration) (ops : List StoreOp) : Prop :=
  ∀ first ∈ ops.flatMap StoreOp.readings, ∀ later ∈ ops.flatMap StoreOp.readings,
    later.nanos < first.nanos + ttl.nanos

instance (ttl : Duration) (ops : List StoreOp) : Decidable (WithinTtl ttl ops) :=
  inferInstanceAs (Decidable (∀ _ ∈ _, ∀ _ ∈ _, _))

theorem nanos_of_checkedAdd (t expires : DateTime) (d : Duration)
    (sum : t.checkedAdd d = some expires) : expires.nanos = t.nanos + d.nanos := by
  unfold DateTime.checkedAdd at sum
  split at sum
  next => cases sum; rfl
  next => cases sum

/-- A binding lasts beyond the readings within one ttl of its own. -/
theorem lt_expires (t expires now : DateTime) (d : Duration)
    (sum : t.checkedAdd d = some expires) (within : now.nanos < t.nanos + d.nanos) :
    now < expires := by
  change now.nanos < expires.nanos
  rw [nanos_of_checkedAdd t expires d sum]
  exact within

namespace InMemorySessionStore

/-- The token is bound, until after all of these readings. -/
def Outlasts (readings : List DateTime) (token : String) (store : InMemorySessionStore) : Prop :=
  ∃ entry, store.inner.lookup token = some entry ∧ ∀ now ∈ readings, now < entry.expiresAt

section Steps

variable {readings : List DateTime} {token : String} {store : InMemorySessionStore}

theorem Outlasts.evicted (outlasts : store.Outlasts readings token) (now : DateTime)
    (member : now ∈ readings) :
    Outlasts readings token { store with inner := evictExpired now store.inner } := by
  obtain ⟨entry, bound, lasts⟩ := outlasts
  exact ⟨entry, (lookup_evictExpired now store.inner token entry).mpr ⟨bound, lasts now member⟩, lasts⟩

/-- A call of the window keeps the tokens that the window has bound, and adds the one it binds. -/
theorem perform_outlasts (store : InMemorySessionStore) (op : StoreOp)
    (reads : ∀ now ∈ op.readings, now ∈ readings)
    (within : ∀ first ∈ readings, ∀ later ∈ readings,
      later.nanos < first.nanos + store.ttl.nanos)
    (unrevoked : ∀ other, op ≠ .revoke other)
    (before : (∃ event ∈ (store.perform op).2, event.Admits token) ∨
      store.Outlasts readings token) :
    (store.perform op).1.Outlasts readings token := by
  cases poisoned : store.poisoned with
  | true =>
    obtain ⟨unchanged, broken⟩ := store.perform_of_poisoned poisoned op
    rw [unchanged]
    refine before.resolve_left ?_
    rintro ⟨event, member, admits⟩
    have lost := broken event member
    cases event with
    | bound _ _ _ _ reply => simp [StoreEvent.Broken, admits.2] at lost
    | verified _ _ _ _ => exact admits
    | revoked _ _ => exact admits
  | false =>
    cases op with
    | revoke other => exact absurd rfl (unrevoked other)
    | verify stateToken session now =>
      have outlasts := before.resolve_left (by simp [perform, StoreEvent.Admits])
      change Outlasts readings token (store.verifyState stateToken session now).1
      rw [store.verifyState_healthy poisoned]
      exact outlasts.evicted now (reads now (by simp [StoreOp.readings]))
    | bind stateToken session evictNow insertNow =>
      have evicting : evictNow ∈ readings := reads evictNow (by simp [StoreOp.readings])
      have inserting : insertNow ∈ readings := reads insertNow (by simp [StoreOp.readings])
      rcases store.bindState_cases poisoned stateToken session evictNow insertNow with
        ⟨_, result⟩ | ⟨_, ⟨_, result⟩ | ⟨expires, sum, result⟩⟩
      · simp only [perform, result] at before ⊢
        exact (before.resolve_left (by simp [StoreEvent.Admits])).evicted evictNow evicting
      · simp only [perform, result] at before ⊢
        exact (before.resolve_left (by simp [StoreEvent.Admits])).evicted evictNow evicting
      · simp only [perform, result] at before ⊢
        by_cases mine : token = stateToken
        · -- the new binding outlasts the window
          subst mine
          refine ⟨⟨session, expires⟩, AList.lookup_insert _, fun now member => ?_⟩
          exact lt_expires insertNow expires now store.ttl sum (within insertNow inserting now member)
        · have outlasts := before.resolve_left (by simp [StoreEvent.Admits, Ne.symm mine])
          obtain ⟨entry, bound, lasts⟩ := outlasts.evicted evictNow evicting
          exact ⟨entry, (AList.lookup_insert_ne mine).trans bound, lasts⟩

theorem perform_maxEntries (store : InMemorySessionStore) (op : StoreOp) :
    (store.perform op).1.maxEntries = store.maxEntries := by
  cases poisoned : store.poisoned with
  | true => simp [(store.perform_of_poisoned poisoned op).1]
  | false =>
    cases op with
    | bind token session evictNow insertNow =>
      rcases store.bindState_cases poisoned token session evictNow insertNow with
        ⟨_, result⟩ | ⟨_, ⟨_, result⟩ | ⟨_, _, result⟩⟩ <;> simp [perform, result]
    | verify token session now => simp [perform, store.verifyState_healthy poisoned]
    | revoke token => simp [perform, store.revokeState_healthy poisoned]

/-- The ceiling holds whatever the clock does. -/
theorem perform_size_le (store : InMemorySessionStore) (op : StoreOp)
    (bounded : store.maxEntries ≠ 0) (before : store.inner.size ≤ store.maxEntries) :
    (store.perform op).1.inner.size ≤ store.maxEntries := by
  have evicted (now : DateTime) : (evictExpired now store.inner).size ≤ store.maxEntries :=
    (AList.size_retain_le _ _).trans before
  cases poisoned : store.poisoned with
  | true => rwa [(store.perform_of_poisoned poisoned op).1]
  | false =>
    cases op with
    | bind token session evictNow insertNow =>
      rcases store.bindState_cases poisoned token session evictNow insertNow with
        ⟨_, result⟩ | ⟨admitted, ⟨_, result⟩ | ⟨_, _, result⟩⟩
      · simpa [perform, result] using evicted evictNow
      · simpa [perform, result] using evicted evictNow
      · simp only [perform, result]
        by_cases present : token ∈ evictExpired evictNow store.inner
        · rw [AList.size_insert_of_mem _ present]
          exact evicted evictNow
        · rw [AList.size_insert_of_notMem _ present]
          have room : ¬ (evictExpired evictNow store.inner).size ≥ store.maxEntries :=
            fun full => admitted ⟨bounded, full, present⟩
          omega
    | verify token session now =>
      simpa [perform, store.verifyState_healthy poisoned] using evicted now
    | revoke token =>
      simp only [perform, store.revokeState_healthy poisoned]
      exact (AList.size_erase_le token store.inner).trans before

end Steps

/-- Configuration and ceiling after any run. -/
theorem exec_size_le (ttl : Duration) (maxEntries : Nat) (bounded : maxEntries ≠ 0)
    (ops : List StoreOp) :
    (machine.exec (.withCapacity ttl maxEntries) ops).1.ttl = ttl ∧
      (machine.exec (.withCapacity ttl maxEntries) ops).1.maxEntries = maxEntries ∧
      (machine.exec (.withCapacity ttl maxEntries) ops).1.inner.size ≤ maxEntries := by
  refine machine.invariant (fun store _ => store.ttl = ttl ∧ store.maxEntries = maxEntries ∧
    store.inner.size ≤ maxEntries) _ ⟨rfl, rfl, Nat.zero_le _⟩ ?_ ops
  rintro store _ op ⟨sameTtl, sameMax, size⟩
  refine ⟨(store.perform_ttl op).trans sameTtl, (store.perform_maxEntries op).trans sameMax, ?_⟩
  exact sameMax ▸ store.perform_size_le op (sameMax ▸ bounded) (sameMax ▸ size)

end InMemorySessionStore

/-- A part of a run without revocations, whose readings all lie within one ttl, binds at most
`max_entries` different tokens, whatever came before it. -/
theorem bindings_rate_limited (ttl : Duration) (maxEntries : Nat) (bounded : maxEntries ≠ 0)
    (earlier window : List StoreOp) (unrevoked : ∀ op ∈ window, ∀ token, op ≠ .revoke token)
    (within : WithinTtl ttl window) :
    {token | ∃ event ∈ (InMemorySessionStore.machine.exec
        (InMemorySessionStore.machine.exec (.withCapacity ttl maxEntries) earlier).1 window).2,
      event.Admits token}.ncard ≤ maxEntries := by
  obtain ⟨sameTtl, sameMax, size⟩ :=
    InMemorySessionStore.exec_size_le ttl maxEntries bounded earlier
  generalize (InMemorySessionStore.machine.exec (.withCapacity ttl maxEntries) earlier).1 = store
    at sameTtl sameMax size ⊢
  -- all tokens of the window are in the map at its end
  have kept := InMemorySessionStore.machine.invariant_of_meets
    (fun _ op => op ∈ window)
    (fun state history => state.ttl = ttl ∧ state.maxEntries = maxEntries ∧
      state.inner.size ≤ maxEntries ∧ ∀ token, (∃ event ∈ history, event.Admits token) →
        state.Outlasts (window.flatMap StoreOp.readings) token)
    store ⟨sameTtl, sameMax, size, by simp⟩ ?_ window
    ((InMemorySessionStore.machine.meets_inputs _ _ _).mpr fun _ member => member)
  · obtain ⟨_, _, size, kept⟩ := kept
    refine (Set.ncard_le_ncard ?_ ?_).trans ((AList.ncard_keys _).trans_le size)
    · intro token admitted
      obtain ⟨entry, bound, _⟩ := kept token admitted
      exact AList.lookup_isSome.mp (by rw [bound]; rfl)
    · exact (InMemorySessionStore.machine.exec store window).1.inner.keys.toFinset.finite_toSet.subset
        fun token member => by simpa using AList.mem_keys.mp member
  · rintro state history op member ⟨sameTtl, sameMax, size, kept⟩
    refine ⟨(state.perform_ttl op).trans sameTtl, (state.perform_maxEntries op).trans sameMax,
      sameMax ▸ state.perform_size_le op (sameMax ▸ bounded) (sameMax ▸ size), ?_⟩
    rintro token ⟨event, inside, admits⟩
    apply state.perform_outlasts op
    · exact fun now reading => List.mem_flatMap.mpr ⟨op, member, reading⟩
    · rw [sameTtl]
      exact within
    · exact unrevoked op member
    · rcases List.mem_append.mp inside with old | new
      · exact Or.inr (kept token ⟨event, old, admits⟩)
      · exact Or.inl ⟨event, new, admits⟩

/-- A store that answers `AtCapacity` has a ceiling, and its lock is not poisoned. -/
theorem InMemorySessionStore.healthy_of_atCapacity (store : InMemorySessionStore)
    (token session : String) (evictNow insertNow : DateTime) (m : Nat)
    (refused : (store.bindState token session evictNow insertNow).2 = .err (.atCapacity m)) :
    store.poisoned = false ∧ store.maxEntries ≠ 0 := by
  cases poisoned : store.poisoned with
  | true => simp [bindState, poisoned] at refused
  | false =>
    rcases store.bindState_cases poisoned token session evictNow insertNow with
      ⟨⟨bounded, _⟩, _⟩ | ⟨_, ⟨_, result⟩ | ⟨_, _, result⟩⟩
    · exact ⟨rfl, bounded⟩
    · rw [result] at refused
      cases refused
    · rw [result] at refused
      cases refused

theorem two_places_in_a_minute :
    {token | ∃ event ∈ (InMemorySessionStore.machine.exec
        (InMemorySessionStore.machine.exec (.withCapacity (.minutes 1) 2)
          [.bind "a" "s" (.ofSeconds 0) (.ofSeconds 0), .revoke "a"]).1
        [.bind "b" "s" (.ofSeconds 1) (.ofSeconds 1), .bind "c" "s" (.ofSeconds 2) (.ofSeconds 2),
          .bind "d" "s" (.ofSeconds 3) (.ofSeconds 3)]).2,
      event.Admits token}.ncard ≤ 2 := by
  apply bindings_rate_limited (.minutes 1) 2 (by decide)
  · simp
  · decide

end AuthKit.Domain
