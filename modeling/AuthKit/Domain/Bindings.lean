import AuthKit.Domain.SessionStore
import AuthKit.Library.Machine
import AuthKit.Library.Past

/-!
# The session store as a function of its history

The map of `InMemorySessionStore` is determined by the operations answered so far: a token
is bound to a session exactly when the last operation that settled it was a successful
binding to that session, and no eviction since then read a clock at or past its expiry.
`BoundSince` says so without mentioning the map; `exec_tracks` is the refinement.
-/
namespace AuthKit.Domain

open Execution

/-- One call on the store with the clock readings taken during it. -/
inductive StoreOp where
  | bind (stateToken sessionId : String) (evictNow insertNow : DateTime)
  | verify (stateToken sessionId : String) (now : DateTime)
  | revoke (stateToken : String)

inductive StoreEvent where
  | bound (stateToken sessionId : String) (evictNow insertNow : DateTime)
      (reply : Outcome SessionStoreError Unit)
  | verified (stateToken sessionId : String) (now : DateTime)
      (reply : Outcome SessionStoreError Bool)
  | revoked (stateToken : String) (reply : Outcome SessionStoreError Unit)

/-- The expiry arithmetic of the call stays in chrono's range. -/
def StoreOp.InRange (ttl : Duration) : StoreOp → Prop
  | .bind _ _ _ insertNow => (insertNow.checkedAdd ttl).isSome
  | .verify _ _ _ => True
  | .revoke _ => True

instance (ttl : Duration) : (op : StoreOp) → Decidable (op.InRange ttl)
  | .bind _ _ _ insertNow => inferInstanceAs (Decidable ((insertNow.checkedAdd ttl).isSome = true))
  | .verify _ _ _ => inferInstanceAs (Decidable True)
  | .revoke _ => inferInstanceAs (Decidable True)

namespace InMemorySessionStore

def perform (store : InMemorySessionStore) : StoreOp → InMemorySessionStore × List StoreEvent
  | .bind token session evictNow insertNow =>
      let called := store.bindState token session evictNow insertNow
      (called.1, [.bound token session evictNow insertNow called.2])
  | .verify token session now =>
      let called := store.verifyState token session now
      (called.1, [.verified token session now called.2])
  | .revoke token =>
      let called := store.revokeState token
      (called.1, [.revoked token called.2])

def machine : Machine InMemorySessionStore StoreOp StoreEvent := ⟨perform⟩

end InMemorySessionStore

namespace StoreEvent

/-- A successful `bind_state` or `revoke_state` of the token. -/
def Settles (token : String) : StoreEvent → Prop
  | .bound stateToken _ _ _ reply => stateToken = token ∧ reply = .ok ()
  | .verified _ _ _ _ => False
  | .revoked stateToken reply => stateToken = token ∧ reply = .ok ()

/-- The eviction clock reading of the operations that evict. -/
def evictsAt : StoreEvent → Option DateTime
  | .bound _ _ evictNow _ _ => some evictNow
  | .verified _ _ now _ => some now
  | .revoked _ _ => none

/-- A successful binding of the token to the session that expires at `expires`. -/
def Binds (ttl : Duration) (token session : String) (expires : DateTime) : StoreEvent → Prop
  | .bound stateToken sessionId _ insertNow reply =>
      stateToken = token ∧ sessionId = session ∧ reply = .ok () ∧
        insertNow.checkedAdd ttl = some expires
  | .verified _ _ _ _ => False
  | .revoked _ _ => False

/-- The event leaves a binding of the token that expires at `expires` in place. -/
def Spares (token : String) (expires : DateTime) (event : StoreEvent) : Prop :=
  ¬ event.Settles token ∧ ∀ now, event.evictsAt = some now → now < expires

end StoreEvent

/-- The last operation that settled `token` bound it to `session` until `expires`, and every
eviction since then read the clock before that. -/
def BoundSince (ttl : Duration) (token session : String) (expires : DateTime)
    (history : List StoreEvent) : Prop :=
  Since (StoreEvent.Binds ttl token session expires) (StoreEvent.Spares token expires) history

/-- What holds of a store after the events of `history`, as long as no expiry overflowed. -/
structure Tracks (ttl : Duration) (maxEntries : Nat) (store : InMemorySessionStore)
    (history : List StoreEvent) : Prop where
  ttl_eq : store.ttl = ttl
  maxEntries_eq : store.maxEntries = maxEntries
  healthy : store.poisoned = false
  lookup_iff : ∀ token session expires,
    store.inner.lookup token = some ⟨session, expires⟩ ↔
      BoundSince ttl token session expires history
  size_le : maxEntries ≠ 0 → store.inner.size ≤ maxEntries

section Steps

variable {ttl : Duration} {maxEntries : Nat} {store : InMemorySessionStore}
  {history : List StoreEvent}

/-- After an eviction the map holds the bindings whose expiry lies past the reading. -/
private theorem Tracks.lookup_evicted (tracks : Tracks ttl maxEntries store history)
    (now : DateTime) (token session : String) (expires : DateTime) :
    (InMemorySessionStore.evictExpired now store.inner).lookup token = some ⟨session, expires⟩ ↔
      BoundSince ttl token session expires history ∧ now < expires := by
  rw [InMemorySessionStore.lookup_evictExpired, tracks.lookup_iff]

/-- An event that only evicts keeps the bindings that the eviction keeps. -/
private theorem boundSince_evict (event : StoreEvent) (now : DateTime)
    (evicts : event.evictsAt = some now) (token session : String) (expires : DateTime)
    (unsettled : ¬ event.Settles token) (unbound : ¬ event.Binds ttl token session expires) :
    BoundSince ttl token session expires (history ++ [event]) ↔
      BoundSince ttl token session expires history ∧ now < expires := by
  unfold BoundSince
  rw [Since.concat_iff]
  constructor
  · rintro (bound | ⟨before, _, spared⟩)
    · exact absurd bound unbound
    · exact ⟨before, spared now evicts⟩
  · rintro ⟨before, fresh⟩
    refine Or.inr ⟨before, unsettled, fun reading read => ?_⟩
    rw [evicts, Option.some.injEq] at read
    exact read ▸ fresh

/-- A refused binding and a verification evict, and settle nothing. -/
theorem Tracks.evicted (tracks : Tracks ttl maxEntries store history) (event : StoreEvent)
    (now : DateTime) (evicts : event.evictsAt = some now)
    (unsettled : ∀ token, ¬ event.Settles token)
    (unbound : ∀ token session expires, ¬ event.Binds ttl token session expires) :
    Tracks ttl maxEntries
      { store with inner := InMemorySessionStore.evictExpired now store.inner }
      (history ++ [event]) where
  ttl_eq := tracks.ttl_eq
  maxEntries_eq := tracks.maxEntries_eq
  healthy := tracks.healthy
  lookup_iff token session expires := by
    rw [boundSince_evict event now evicts token session expires (unsettled token)
      (unbound token session expires)]
    exact tracks.lookup_evicted now token session expires
  size_le bounded := (AList.size_retain_le _ _).trans (tracks.size_le bounded)

private theorem Tracks.bound (tracks : Tracks ttl maxEntries store history)
    (token session : String) (evictNow insertNow expires : DateTime)
    (sum : insertNow.checkedAdd ttl = some expires)
    (admitted : ¬ (store.maxEntries ≠ 0 ∧
      (InMemorySessionStore.evictExpired evictNow store.inner).size ≥ store.maxEntries ∧
      token ∉ InMemorySessionStore.evictExpired evictNow store.inner)) :
    Tracks ttl maxEntries
      { store with
        inner := (InMemorySessionStore.evictExpired evictNow store.inner).insert token
          ⟨session, expires⟩ }
      (history ++ [.bound token session evictNow insertNow (.ok ())]) where
  ttl_eq := tracks.ttl_eq
  maxEntries_eq := tracks.maxEntries_eq
  healthy := tracks.healthy
  lookup_iff other session' expires' := by
    by_cases same : other = token
    · -- the new entry replaces whatever the token was bound to before
      subst same
      unfold BoundSince
      simp only [AList.lookup_insert, Since.concat_iff, StoreEvent.Spares, StoreEvent.Settles,
        StoreEvent.Binds, sum, Option.some.injEq, Entry.mk.injEq, true_and, and_self,
        not_true_eq_false, false_and, and_false, or_false]
    · have other_ne : ¬ (token = other) := fun equal => same equal.symm
      rw [boundSince_evict _ evictNow rfl other session' expires'
        (by simp [StoreEvent.Settles, other_ne]) (by simp [StoreEvent.Binds, other_ne])]
      change ((InMemorySessionStore.evictExpired evictNow store.inner).insert token _).lookup
        other = _ ↔ _
      rw [AList.lookup_insert_ne same]
      exact tracks.lookup_evicted evictNow other session' expires'
  size_le bounded := by
    have kept : (InMemorySessionStore.evictExpired evictNow store.inner).size ≤ maxEntries :=
      (AList.size_retain_le _ _).trans (tracks.size_le bounded)
    change ((InMemorySessionStore.evictExpired evictNow store.inner).insert token _).size ≤ _
    by_cases present : token ∈ InMemorySessionStore.evictExpired evictNow store.inner
    · rw [AList.size_insert_of_mem _ present]
      exact kept
    · -- an admitted token that is not in the map found a free place
      rw [tracks.maxEntries_eq] at admitted
      have room : (InMemorySessionStore.evictExpired evictNow store.inner).size < maxEntries := by
        by_contra full
        exact admitted ⟨bounded, not_lt.mp full, present⟩
      rw [AList.size_insert_of_notMem _ present]
      omega

private theorem Tracks.revoked (tracks : Tracks ttl maxEntries store history) (token : String) :
    Tracks ttl maxEntries { store with inner := store.inner.erase token }
      (history ++ [.revoked token (.ok ())]) where
  ttl_eq := tracks.ttl_eq
  maxEntries_eq := tracks.maxEntries_eq
  healthy := tracks.healthy
  lookup_iff other session expires := by
    unfold BoundSince
    rw [Since.concat_iff]
    by_cases same : other = token
    · -- nothing is bound to a token that was just revoked
      subst same
      simp [StoreEvent.Binds, StoreEvent.Spares, StoreEvent.Settles]
    · -- revocation does not evict, so every other binding stays
      have other_ne : ¬ (token = other) := fun equal => same equal.symm
      change (store.inner.erase token).lookup other = _ ↔ _
      rw [AList.lookup_erase_ne same, tracks.lookup_iff]
      simp [StoreEvent.Binds, StoreEvent.Spares, StoreEvent.Settles, StoreEvent.evictsAt, other_ne,
        BoundSince]
  size_le bounded := (AList.size_erase_le _ _).trans (tracks.size_le bounded)

/-- One operation whose expiry does not overflow keeps the store in step with its history. -/
theorem Tracks.perform (tracks : Tracks ttl maxEntries store history) (op : StoreOp)
    (inRange : op.InRange ttl) :
    Tracks ttl maxEntries (store.perform op).1 (history ++ (store.perform op).2) := by
  cases op with
  | bind token session evictNow insertNow =>
    -- refused, panicked on the expiry (which `inRange` excludes), or bound
    rcases store.bindState_cases tracks.healthy token session evictNow insertNow with
      ⟨_, result⟩ | ⟨admitted, ⟨overflow, _⟩ | ⟨expires, sum, result⟩⟩
    · simp only [InMemorySessionStore.perform, result]
      apply tracks.evicted _ evictNow rfl
      · simp [StoreEvent.Settles]
      · simp [StoreEvent.Binds]
    · rw [tracks.ttl_eq] at overflow
      simp [StoreOp.InRange, overflow] at inRange
    · simp only [InMemorySessionStore.perform, result]
      rw [tracks.ttl_eq] at sum
      exact tracks.bound token session evictNow insertNow expires sum admitted
  | verify token session now =>
    simp only [InMemorySessionStore.perform, store.verifyState_healthy tracks.healthy]
    apply tracks.evicted _ now rfl
    · simp [StoreEvent.Settles]
    · simp [StoreEvent.Binds]
  | revoke token =>
    simp only [InMemorySessionStore.perform, store.revokeState_healthy tracks.healthy]
    exact tracks.revoked token

end Steps

theorem withCapacity_tracks (ttl : Duration) (maxEntries : Nat) :
    Tracks ttl maxEntries (InMemorySessionStore.withCapacity ttl maxEntries) [] where
  ttl_eq := rfl
  maxEntries_eq := rfl
  healthy := rfl
  lookup_iff token session expires := by
    simp [InMemorySessionStore.withCapacity, BoundSince]
  size_le _ := by simp [InMemorySessionStore.withCapacity]

/-- Refinement: after every run without expiry overflow, the map of the store is the one its
history determines. -/
theorem exec_tracks (ttl : Duration) (maxEntries : Nat) (ops : List StoreOp)
    (inRange : ∀ op ∈ ops, op.InRange ttl) :
    Tracks ttl maxEntries
      (InMemorySessionStore.machine.exec (.withCapacity ttl maxEntries) ops).1
      (InMemorySessionStore.machine.exec (.withCapacity ttl maxEntries) ops).2 := by
  apply InMemorySessionStore.machine.invariant_of_meets (fun _ op => op.InRange ttl)
    (Tracks ttl maxEntries) _ (withCapacity_tracks ttl maxEntries)
  · intro store history op fits tracks
    exact tracks.perform op fits
  · exact (InMemorySessionStore.machine.meets_inputs _ _ ops).mpr inRange

end AuthKit.Domain
