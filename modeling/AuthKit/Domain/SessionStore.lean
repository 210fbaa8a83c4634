import AuthKit.Domain.Clock
import AuthKit.Library.FiniteMap
import AuthKit.Library.Outcome

/-!
# The session store port and its in-memory adapter

Every operation of `InMemorySessionStore` runs under one mutex, so it is a function from
the store before the call to the store after it. Clock readings are arguments: `bind_state`
reads the clock twice, once when it evicts and once when it stamps the new entry.
-/
namespace AuthKit.Domain

open Execution

inductive SessionStoreError where
  | poisoned
  | atCapacity (maxEntries : Nat)
  deriving DecidableEq, Repr

/-- The `Display` text of the error. -/
def SessionStoreError.message : SessionStoreError → String
  | .poisoned => "session store lock poisoned"
  | .atCapacity maxEntries =>
      "session store at capacity (max_entries=" ++ toString maxEntries ++ ")"

structure Entry where
  sessionId : String
  expiresAt : DateTime
  deriving DecidableEq

/-- The port. `Env` is what the environment supplies during one call (clock readings). -/
structure SessionStore (Store Env : Type) where
  bindState : Env → String → String → Store → Store × Outcome SessionStoreError Unit
  verifyState : Env → String → String → Store → Store × Outcome SessionStoreError Bool
  revokeState : Env → String → Store → Store × Outcome SessionStoreError Unit

def DEFAULT_MAX_ENTRIES : Nat := 65536

/-- `inner` and `poisoned` together are the `Mutex`: a panic under the lock poisons it. -/
structure InMemorySessionStore where
  inner : AList fun _ : String => Entry
  poisoned : Bool
  ttl : Duration
  maxEntries : Nat

/-- `subtle::ConstantTimeEq` on byte slices decides equality of the bytes. -/
def ctEq (a b : ByteArray) : Bool := decide (a.data = b.data)

theorem ctEq_bytes_iff (a b : String) : ctEq a.toUTF8 b.toUTF8 = true ↔ a = b := by
  simp only [ctEq, decide_eq_true_eq, ← ByteArray.ext_iff]
  exact String.toByteArray_inj

namespace InMemorySessionStore

def withCapacity (ttl : Duration) (maxEntries : Nat) : InMemorySessionStore :=
  ⟨∅, false, ttl, maxEntries⟩

def withTtl (ttl : Duration) : InMemorySessionStore := withCapacity ttl DEFAULT_MAX_ENTRIES

/-- `InMemorySessionStore::default` and `new`. -/
def new : InMemorySessionStore := withCapacity (.minutes 15) DEFAULT_MAX_ENTRIES

def len (store : InMemorySessionStore) : Nat :=
  if store.poisoned then 0 else store.inner.size

def isEmpty (store : InMemorySessionStore) : Bool := store.len == 0

def evictExpired (now : DateTime) (map : AList fun _ : String => Entry) :
    AList fun _ : String => Entry :=
  -- an entry that expires at this very instant goes
  map.retain fun _ entry => decide (now < entry.expiresAt)

def bindState (store : InMemorySessionStore) (stateToken sessionId : String)
    (evictNow insertNow : DateTime) : InMemorySessionStore × Outcome SessionStoreError Unit :=
  if store.poisoned then (store, .err .poisoned)
  else
    let map := evictExpired evictNow store.inner
    -- zero means unbounded, and a bound token may be bound again at the ceiling
    if store.maxEntries ≠ 0 ∧ map.size ≥ store.maxEntries ∧ stateToken ∉ map then
      ({ store with inner := map }, .err (.atCapacity store.maxEntries))
    else
      match insertNow.checkedAdd store.ttl with
      -- the sum is computed before `insert` runs, while the guard is held
      | none => ({ store with inner := map, poisoned := true }, .panicked)
      | some expiresAt =>
          ({ store with inner := map.insert stateToken ⟨sessionId, expiresAt⟩ }, .ok ())

def verifyState (store : InMemorySessionStore) (stateToken sessionId : String)
    (now : DateTime) : InMemorySessionStore × Outcome SessionStoreError Bool :=
  if store.poisoned then (store, .err .poisoned)
  else
    let map := evictExpired now store.inner
    ({ store with inner := map },
      .ok (((map.lookup stateToken).map fun entry =>
        ctEq entry.sessionId.toUTF8 sessionId.toUTF8).getD false))

def revokeState (store : InMemorySessionStore) (stateToken : String) :
    InMemorySessionStore × Outcome SessionStoreError Unit :=
  if store.poisoned then (store, .err .poisoned)
  else ({ store with inner := store.inner.erase stateToken }, .ok ())

/-- The two clock readings of one call; `verify_state` uses the first only. -/
structure Readings where
  evictNow : DateTime
  insertNow : DateTime

/-- `impl SessionStore for InMemorySessionStore`. -/
def port : SessionStore InMemorySessionStore Readings where
  bindState env stateToken sessionId store :=
    store.bindState stateToken sessionId env.evictNow env.insertNow
  verifyState env stateToken sessionId store := store.verifyState stateToken sessionId env.evictNow
  revokeState _ stateToken store := store.revokeState stateToken

/-! ### What the operations do to a healthy store -/

/-- `token` is bound to `entry`, which is unexpired at `now`. -/
def Live (store : InMemorySessionStore) (now : DateTime) (token : String) (entry : Entry) : Prop :=
  store.inner.lookup token = some entry ∧ now < entry.expiresAt

theorem lookup_evictExpired (now : DateTime) (map : AList fun _ : String => Entry)
    (token : String) (entry : Entry) :
    (evictExpired now map).lookup token = some entry ↔
      map.lookup token = some entry ∧ now < entry.expiresAt := by
  simp [evictExpired, Option.filter_eq_some_iff]

theorem mem_evictExpired (store : InMemorySessionStore) (now : DateTime) (token : String) :
    token ∈ evictExpired now store.inner ↔ ∃ entry, store.Live now token entry := by
  simp [evictExpired, AList.mem_retain, Live]

/-- Everything `bind_state` can do when the lock is not poisoned: refuse, panic on the
expiry, or bind. -/
theorem bindState_cases (store : InMemorySessionStore) (healthy : store.poisoned = false)
    (token session : String) (evictNow insertNow : DateTime) :
    ((store.maxEntries ≠ 0 ∧ (evictExpired evictNow store.inner).size ≥ store.maxEntries ∧
        token ∉ evictExpired evictNow store.inner) ∧
      store.bindState token session evictNow insertNow =
        ({ store with inner := evictExpired evictNow store.inner },
          .err (.atCapacity store.maxEntries))) ∨
    (¬ (store.maxEntries ≠ 0 ∧ (evictExpired evictNow store.inner).size ≥ store.maxEntries ∧
        token ∉ evictExpired evictNow store.inner) ∧
      ((insertNow.checkedAdd store.ttl = none ∧
        store.bindState token session evictNow insertNow =
          ({ store with inner := evictExpired evictNow store.inner, poisoned := true },
            .panicked)) ∨
      (∃ expires, insertNow.checkedAdd store.ttl = some expires ∧
        store.bindState token session evictNow insertNow =
          ({ store with
            inner := (evictExpired evictNow store.inner).insert token ⟨session, expires⟩ },
            .ok ())))) := by
  -- capacity is looked at before the expiry is computed
  by_cases full : store.maxEntries ≠ 0 ∧
      (evictExpired evictNow store.inner).size ≥ store.maxEntries ∧
      token ∉ evictExpired evictNow store.inner
  · exact Or.inl ⟨full, by simp only [bindState, healthy, Bool.false_eq_true, if_false, if_pos full]⟩
  · refine Or.inr ⟨full, ?_⟩
    cases sum : insertNow.checkedAdd store.ttl with
    | none =>
      exact Or.inl ⟨rfl,
        by simp only [bindState, healthy, Bool.false_eq_true, if_false, if_neg full, sum]⟩
    | some expires =>
      exact Or.inr ⟨expires, rfl,
        by simp only [bindState, healthy, Bool.false_eq_true, if_false, if_neg full, sum]⟩

theorem verifyState_healthy (store : InMemorySessionStore) (healthy : store.poisoned = false)
    (token session : String) (now : DateTime) :
    (store.verifyState token session now).1 =
      { store with inner := evictExpired now store.inner } := by
  simp [verifyState, healthy]

/-- A healthy store accepts exactly the live binding of the token. -/
theorem verifyState_true_iff (store : InMemorySessionStore) (healthy : store.poisoned = false)
    (token session : String) (now : DateTime) :
    (store.verifyState token session now).2 = .ok true ↔
      ∃ expires, store.Live now token ⟨session, expires⟩ := by
  simp only [verifyState, healthy, Bool.false_eq_true, if_false, Outcome.ok.injEq]
  cases found : (evictExpired now store.inner).lookup token with
  | none =>
    simp only [Option.map_none, Option.getD_none, Bool.false_eq_true, false_iff, not_exists]
    intro expires live
    rw [(lookup_evictExpired now store.inner token _).mpr live] at found
    cases found
  | some entry =>
    -- an entry that survived the eviction is live, so only its session is compared
    obtain ⟨bound, fresh⟩ := (lookup_evictExpired now store.inner token entry).mp found
    rw [Option.map_some, Option.getD_some, ctEq_bytes_iff]
    constructor
    · rintro rfl
      exact ⟨entry.expiresAt, bound, fresh⟩
    · rintro ⟨expires, live, _⟩
      rw [bound, Option.some.injEq] at live
      rw [live]

theorem verifyState_ok (store : InMemorySessionStore) (healthy : store.poisoned = false)
    (token session : String) (now : DateTime) :
    ∃ answer, (store.verifyState token session now).2 = .ok answer := by
  simp [verifyState, healthy]

theorem revokeState_healthy (store : InMemorySessionStore) (healthy : store.poisoned = false)
    (token : String) :
    store.revokeState token = ({ store with inner := store.inner.erase token }, .ok ()) := by
  simp [revokeState, healthy]

end InMemorySessionStore

end AuthKit.Domain
