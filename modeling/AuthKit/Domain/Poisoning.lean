import AuthKit.Domain.Bindings

/-!
# What poisons the session store

`bind_state` adds the configured ttl to the clock while it holds the lock, and the sum can
leave chrono's range. The panic poisons the mutex, after which every operation fails. The
runs in which this does not happen are exactly those whose bindings are refused for capacity
or expire inside the range.
-/
namespace AuthKit.Domain

open Execution

namespace StoreEvent

/-- The call panicked, or it found the lock poisoned. -/
def Broken : StoreEvent → Prop
  | .bound _ _ _ _ reply => reply = .panicked ∨ reply = .err .poisoned
  | .verified _ _ _ reply => reply = .panicked ∨ reply = .err .poisoned
  | .revoked _ reply => reply = .panicked ∨ reply = .err .poisoned

instance : (event : StoreEvent) → Decidable event.Broken
  | .bound _ _ _ _ _ => inferInstanceAs (Decidable (_ ∨ _))
  | .verified _ _ _ _ => inferInstanceAs (Decidable (_ ∨ _))
  | .revoked _ _ => inferInstanceAs (Decidable (_ ∨ _))

/-- The call is a binding whose expiry overflowed. -/
def Panicked : StoreEvent → Prop
  | .bound _ _ _ _ reply => reply = .panicked
  | .verified _ _ _ _ => False
  | .revoked _ _ => False

instance : (event : StoreEvent) → Decidable event.Panicked
  | .bound _ _ _ _ _ => inferInstanceAs (Decidable (_ = _))
  | .verified _ _ _ _ => inferInstanceAs (Decidable False)
  | .revoked _ _ => inferInstanceAs (Decidable False)

end StoreEvent

namespace InMemorySessionStore

/-- `bind_state` returns `AtCapacity` before it computes an expiry. -/
def Full (store : InMemorySessionStore) (stateToken : String) (evictNow : DateTime) : Prop :=
  store.maxEntries ≠ 0 ∧ (evictExpired evictNow store.inner).size ≥ store.maxEntries ∧
    stateToken ∉ evictExpired evictNow store.inner

/-- The call computes no expiry, or one that chrono can represent. -/
def ExpiryFits (store : InMemorySessionStore) : StoreOp → Prop
  | .bind stateToken _ evictNow insertNow =>
      store.Full stateToken evictNow ∨ (insertNow.checkedAdd store.ttl).isSome
  | .verify _ _ _ => True
  | .revoke _ => True

/-- A call on a healthy store goes through, and leaves the store healthy, iff its expiry fits. -/
theorem perform_healthy_iff (store : InMemorySessionStore) (healthy : store.poisoned = false)
    (op : StoreOp) :
    (∀ event ∈ (store.perform op).2, ¬ event.Broken) ↔ store.ExpiryFits op := by
  cases op with
  | bind token session evictNow insertNow =>
    rcases store.bindState_cases healthy token session evictNow insertNow with
      ⟨full, result⟩ | ⟨admitted, ⟨overflow, result⟩ | ⟨expires, sum, result⟩⟩
    · -- a full store refuses before it adds the ttl
      refine iff_of_true ?_ (Or.inl full)
      simp [perform, result, StoreEvent.Broken]
    · -- neither refused nor in range: the addition panics
      refine iff_of_false ?_ ?_
      · simp [perform, result, StoreEvent.Broken]
      · rintro (full | fits)
        · exact admitted full
        · simp [overflow] at fits
    · refine iff_of_true ?_ (Or.inr (by simp [sum]))
      simp [perform, result, StoreEvent.Broken]
  | verify token session now =>
    obtain ⟨answer, result⟩ := store.verifyState_ok healthy token session now
    refine iff_of_true ?_ trivial
    simp [perform, result, StoreEvent.Broken]
  | revoke token =>
    refine iff_of_true ?_ trivial
    simp [perform, store.revokeState_healthy healthy, StoreEvent.Broken]

/-- Only a panic poisons: a call whose expiry fits leaves the lock as it found it. -/
theorem perform_poisoned (store : InMemorySessionStore) (healthy : store.poisoned = false)
    (op : StoreOp) (fits : store.ExpiryFits op) : (store.perform op).1.poisoned = false := by
  cases op with
  | bind token session evictNow insertNow =>
    rcases store.bindState_cases healthy token session evictNow insertNow with
      ⟨_, result⟩ | ⟨admitted, ⟨overflow, _⟩ | ⟨expires, _, result⟩⟩
    · simpa [perform, result] using healthy
    · rcases fits with full | fits
      · exact absurd full admitted
      · simp [overflow] at fits
    · simpa [perform, result] using healthy
  | verify token session now =>
    simpa [perform, store.verifyState_healthy healthy] using healthy
  | revoke token => simpa [perform, store.revokeState_healthy healthy] using healthy

/-- From a healthy store no call of a run breaks iff each of them, in the state it meets,
computes an expiry that fits. -/
theorem exec_healthy_iff (store : InMemorySessionStore) (healthy : store.poisoned = false)
    (ops : List StoreOp) :
    (∀ event ∈ (machine.exec store ops).2, ¬ event.Broken) ↔ machine.Meets ExpiryFits store ops := by
  induction ops generalizing store with
  | nil => simp [Machine.Meets]
  | cons op rest ih =>
    simp only [Machine.exec, Machine.Meets, List.forall_mem_append]
    -- a first call that breaks refutes both sides; otherwise the rest starts healthy again
    change ((∀ event ∈ (store.perform op).2, ¬ event.Broken) ∧ _) ↔ _
    rw [perform_healthy_iff store healthy op]
    refine and_congr_right fun fits => ?_
    exact ih (store.perform op).1 (store.perform_poisoned healthy op fits)

/-- After a panic the store is lost: it stays as it is and every call finds it poisoned. -/
theorem perform_of_poisoned (store : InMemorySessionStore) (poisoned : store.poisoned = true)
    (op : StoreOp) :
    (store.perform op).1 = store ∧ ∀ event ∈ (store.perform op).2, event.Broken := by
  cases op <;>
    simp [perform, bindState, verifyState, revokeState, poisoned, StoreEvent.Broken]

theorem exec_of_poisoned (store : InMemorySessionStore) (poisoned : store.poisoned = true)
    (ops : List StoreOp) :
    (machine.exec store ops).1 = store ∧ ∀ event ∈ (machine.exec store ops).2, event.Broken := by
  apply machine.invariant
    (fun state history => state = store ∧ ∀ event ∈ history, event.Broken) store ⟨rfl, by simp⟩
  rintro state history op ⟨rfl, broken⟩
  obtain ⟨kept, fails⟩ := state.perform_of_poisoned poisoned op
  refine ⟨kept, ?_⟩
  intro event member
  rcases List.mem_append.mp member with member | member
  · exact broken event member
  · exact fails event member

/-! ### When the flag is set -/

/-- Only a `bind_state` that panics poisons a healthy store. -/
theorem bindState_poisoned_iff (store : InMemorySessionStore) (token session : String)
    (evictNow insertNow : DateTime) :
    (store.bindState token session evictNow insertNow).1.poisoned = true ↔
      store.poisoned = true ∨ (store.bindState token session evictNow insertNow).2 = .panicked := by
  cases poisoned : store.poisoned with
  | true => simp [bindState, poisoned]
  | false =>
    rcases store.bindState_cases poisoned token session evictNow insertNow with
      ⟨_, result⟩ | ⟨_, ⟨_, result⟩ | ⟨_, _, result⟩⟩
    · simp [result, poisoned]
    · simp [result]
    · simp [result, poisoned]

theorem verifyState_poisoned (store : InMemorySessionStore) (token session : String)
    (now : DateTime) : (store.verifyState token session now).1.poisoned = store.poisoned := by
  cases poisoned : store.poisoned with
  | true => simp [verifyState, poisoned]
  | false => rw [store.verifyState_healthy poisoned]; exact poisoned

theorem verifyState_returns (store : InMemorySessionStore) (token session : String)
    (now : DateTime) : (store.verifyState token session now).2 ≠ .panicked := by
  cases poisoned : store.poisoned <;> simp [verifyState, poisoned]

/-- A verification is answered, unless the store is poisoned. -/
theorem verifyState_ok_iff (store : InMemorySessionStore) (token session : String)
    (now : DateTime) :
    (∃ answer, (store.verifyState token session now).2 = .ok answer) ↔ store.poisoned = false := by
  cases poisoned : store.poisoned with
  | true => simp [verifyState, poisoned]
  | false => exact iff_of_true (store.verifyState_ok poisoned token session now) rfl

/-- A session is accepted iff it is the live one of the token, and the store is not poisoned. -/
theorem verifyState_accepts_iff (store : InMemorySessionStore) (token session : String)
    (now : DateTime) :
    (store.verifyState token session now).2 = .ok true ↔
      store.poisoned = false ∧ ∃ expires, store.Live now token ⟨session, expires⟩ := by
  cases poisoned : store.poisoned with
  | true => simp [verifyState, poisoned]
  | false =>
    rw [store.verifyState_true_iff poisoned]
    exact (and_iff_right rfl).symm

theorem perform_poisoned_iff (store : InMemorySessionStore) (op : StoreOp) :
    (store.perform op).1.poisoned = true ↔
      store.poisoned = true ∨ ∃ event ∈ (store.perform op).2, event.Panicked := by
  cases op with
  | bind token session evictNow insertNow =>
    simpa [perform, StoreEvent.Panicked] using
      store.bindState_poisoned_iff token session evictNow insertNow
  | verify token session now =>
    simp [perform, StoreEvent.Panicked, store.verifyState_poisoned token session now]
  | revoke token =>
    cases poisoned : store.poisoned <;> simp [perform, StoreEvent.Panicked, revokeState, poisoned]

/-- A store that starts healthy is poisoned iff some binding of its run panicked. -/
theorem exec_poisoned_iff (store : InMemorySessionStore) (healthy : store.poisoned = false)
    (ops : List StoreOp) :
    (machine.exec store ops).1.poisoned = true ↔
      ∃ event ∈ (machine.exec store ops).2, event.Panicked := by
  refine machine.invariant
    (fun state history => state.poisoned = true ↔ ∃ event ∈ history, event.Panicked)
    store (by simp [healthy]) ?_ ops
  intro state history op before
  refine (state.perform_poisoned_iff op).trans ?_
  simp only [before, List.mem_append, or_and_right, exists_or]
  rfl

end InMemorySessionStore

/-! ### Stores that are still usable -/

section Usable

variable {ttl : Duration} {maxEntries : Nat} {store : InMemorySessionStore}
  {history : List StoreEvent}

/-- A call that does not panic keeps the store in step with its history, whatever the clock read. -/
theorem Tracks.perform_returns (tracks : Tracks ttl maxEntries store history) (op : StoreOp)
    (returns : ∀ event ∈ (store.perform op).2, ¬ event.Panicked) :
    Tracks ttl maxEntries (store.perform op).1 (history ++ (store.perform op).2) := by
  by_cases fits : op.InRange ttl
  · exact tracks.perform op fits
  · cases op with
    | bind token session evictNow insertNow =>
      rcases store.bindState_cases tracks.healthy token session evictNow insertNow with
        ⟨_, result⟩ | ⟨_, ⟨_, result⟩ | ⟨expires, sum, _⟩⟩
      · -- the expiry is not computed for a binding that is refused
        simp only [InMemorySessionStore.perform, result]
        apply tracks.evicted _ evictNow rfl
        · simp [StoreEvent.Settles]
        · simp [StoreEvent.Binds]
      · refine absurd rfl (returns (.bound token session evictNow insertNow .panicked) ?_)
        simp [InMemorySessionStore.perform, result]
      · rw [tracks.ttl_eq] at sum
        exact absurd (by simp [StoreOp.InRange, sum]) fits
    | verify token session now => exact absurd trivial fits
    | revoke token => exact absurd trivial fits

/-- A store that is not poisoned at the end of a run has been in step with its history all along. -/
theorem exec_tracks_of_healthy (ops : List StoreOp)
    (healthy : (InMemorySessionStore.machine.exec (.withCapacity ttl maxEntries) ops).1.poisoned =
      false) :
    Tracks ttl maxEntries (InMemorySessionStore.machine.exec (.withCapacity ttl maxEntries) ops).1
      (InMemorySessionStore.machine.exec (.withCapacity ttl maxEntries) ops).2 := by
  refine InMemorySessionStore.machine.invariant
    (fun store history => store.poisoned = false → Tracks ttl maxEntries store history) _
    (fun _ => withCapacity_tracks ttl maxEntries) ?_ ops healthy
  intro store history op before healthy
  -- a call that leaves the lock usable found it so, and did not panic
  have usable := mt (store.perform_poisoned_iff op).mpr (Bool.not_eq_true _ ▸ healthy)
  rw [not_or, Bool.not_eq_true] at usable
  exact (before usable.1).perform_returns op fun event member panicked =>
    usable.2 ⟨event, member, panicked⟩

end Usable

/-- No operation of a run panics or finds the lock poisoned iff every binding of the run is
refused for capacity or expires inside chrono's range. -/
theorem store_unpoisoned_iff (ttl : Duration) (maxEntries : Nat) (ops : List StoreOp) :
    (∀ event ∈ (InMemorySessionStore.machine.exec (.withCapacity ttl maxEntries) ops).2,
        ¬ event.Broken) ↔
      InMemorySessionStore.machine.Meets InMemorySessionStore.ExpiryFits
        (.withCapacity ttl maxEntries) ops := by
  apply InMemorySessionStore.exec_healthy_iff
  rfl

/-- The longest ttl that chrono has: the first binding panics, and the verification of a token
that was never bound finds the lock poisoned. -/
theorem longest_ttl_poisons :
    let ttl : Duration := ⟨maxDelta, by decide⟩
    let ops : List StoreOp := [.bind "a" "session" (.ofSeconds 1700000000) (.ofSeconds 1700000000),
      .verify "b" "session" (.ofSeconds 1700000001)]
    let history := (InMemorySessionStore.machine.exec (.withTtl ttl) ops).2
    history = [.bound "a" "session" (.ofSeconds 1700000000) (.ofSeconds 1700000000) .panicked,
        .verified "b" "session" (.ofSeconds 1700000001) (.err .poisoned)] ∧
      ¬ ∀ event ∈ history, ¬ event.Broken := by
  refine ⟨rfl, ?_⟩
  intro sound
  exact sound _ List.mem_cons_self (Or.inl rfl)

end AuthKit.Domain
