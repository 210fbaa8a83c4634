import AuthKit.Domain.Bindings
import AuthKit.Middleware.PkceStateSession

/-!
# The callback gate over whole runs

The gate is the middleware in front of one `InMemorySessionStore` that the rest of the
server also calls. Every step of the gate is a run of the store alone (`gate_simulates`), so
the history theorem of the store decides what the middleware lets through.
-/
namespace AuthKit.Middleware

open Execution AuthKit.Domain

inductive GateOp where
  | store (op : StoreOp)
  | callback (request : Request) (env : InMemorySessionStore.Readings)

inductive GateEvent where
  | store (event : StoreEvent)
  | callback (request : Request) (handled : Outcome Empty Handled)

/-- The store verification a callback makes, if it gets that far. -/
def GateOp.storeOps : GateOp → List StoreOp
  | .store op => [op]
  | .callback request env =>
      match extractStateToken request, extractSessionId request with
      | some token, some session => [.verify token session env.evictNow]
      | _, _ => []

def GateEvent.storeEvent : GateEvent → Option StoreEvent
  | .store event => some event
  | .callback _ _ => none

/-- The calls that reached the store, those made by callbacks included. -/
def storeHistory (history : List GateEvent) : List StoreEvent :=
  history.filterMap GateEvent.storeEvent

def gateStep (store : InMemorySessionStore) (op : GateOp) :
    InMemorySessionStore × List GateEvent :=
  match op with
  | .store op => ((store.perform op).1, (store.perform op).2.map .store)
  | .callback request env =>
      let handled := enforcePkceStateSession InMemorySessionStore.port env request store
      let verification :=
        match extractStateToken request, extractSessionId request with
        | some token, some session =>
            [.store (.verified token session env.evictNow
              (store.verifyState token session env.evictNow).2)]
        | _, _ => []
      (handled.1, verification ++ [.callback request handled.2])

def gate : Machine InMemorySessionStore GateOp GateEvent := ⟨gateStep⟩

/-- No expiry of the operation overflows. -/
def GateOp.InRange (ttl : Duration) : GateOp → Prop
  | .store op => op.InRange ttl
  | .callback _ _ => True

instance (ttl : Duration) : (op : GateOp) → Decidable (op.InRange ttl)
  | .store op => inferInstanceAs (Decidable (op.InRange ttl))
  | .callback _ _ => inferInstanceAs (Decidable True)

section Middleware

variable {Store Env : Type} (port : SessionStore Store Env) (env : Env) (request : Request)
  (store : Store)

/-- The middleware leaves the store as its verification left it, or untouched. -/
theorem enforce_store :
    (enforcePkceStateSession port env request store).1 =
      match extractStateToken request, extractSessionId request with
      | some token, some session => (port.verifyState env token session store).1
      | _, _ => store := by
  unfold enforcePkceStateSession
  cases extractStateToken request with
  | none => rfl
  | some token =>
    cases extractSessionId request with
    | none => rfl
    | some session =>
      simp only
      split
      all_goals
        next verified => rw [verified]

/-- The handler runs iff both values are present and the store answers `Ok(true)`. -/
theorem enforce_runs_iff :
    (∃ audit, (enforcePkceStateSession port env request store).2 =
        .ok ⟨audit, .runNext request⟩) ↔
      ∃ token session, extractStateToken request = some token ∧
        extractSessionId request = some session ∧
        (port.verifyState env token session store).2 = .ok true := by
  unfold enforcePkceStateSession
  cases extractStateToken request with
  | none => simp [Handled.rejected]
  | some token =>
    cases extractSessionId request with
    | none => simp [Handled.rejected]
    | some session =>
      simp only [Option.some.injEq, exists_and_left, exists_eq_left']
      split
      all_goals
        next verified => simp [verified, Handled.rejected]

/-- When the verification does not panic, a callback is either handed on or answered with
the 401 response. -/
theorem enforce_runs_or_rejects
    (returns : ∀ token session, (port.verifyState env token session store).2 ≠ .panicked) :
    (∃ audit, (enforcePkceStateSession port env request store).2 =
        .ok ⟨audit, .runNext request⟩) ∨
      ∃ audit, (enforcePkceStateSession port env request store).2 =
        .ok ⟨audit, .reply invalidStateResponse⟩ := by
  unfold enforcePkceStateSession
  cases extractStateToken request with
  | none => exact Or.inr ⟨_, rfl⟩
  | some token =>
    cases extractSessionId request with
    | none => exact Or.inr ⟨_, rfl⟩
    | some session =>
      simp only
      -- let pass, refused, or failed in the store; a panic is excluded
      split
      · exact Or.inl ⟨_, rfl⟩
      · exact Or.inr ⟨_, rfl⟩
      · exact Or.inr ⟨_, rfl⟩
      next panicked => exact absurd (congrArg Prod.snd panicked) (returns token session)

end Middleware

/-- Seen from the store, a step of the gate is the store calls it makes. -/
theorem gate_simulates :
    gate.Simulates InMemorySessionStore.machine id GateOp.storeOps GateEvent.storeEvent where
  state store op := by
    cases op with
    | store op => rfl
    | callback request env =>
      -- a callback makes one verification or none
      change (enforcePkceStateSession InMemorySessionStore.port env request store).1 = _
      rw [enforce_store]
      simp only [GateOp.storeOps]
      split
      · rfl
      · rfl
  events store op := by
    cases op with
    | store op => cases op <;> rfl
    | callback request env =>
      simp only [gate, gateStep, GateOp.storeOps]
      split
      · rfl
      · rfl

/-- A run of the gate leaves the store in step with the calls that reached it. -/
theorem gate_tracks (ttl : Duration) (maxEntries : Nat) (ops : List GateOp)
    (inRange : ∀ op ∈ ops, op.InRange ttl) :
    Tracks ttl maxEntries (gate.exec (.withCapacity ttl maxEntries) ops).1
      (storeHistory (gate.exec (.withCapacity ttl maxEntries) ops).2) := by
  have fits : ∀ op ∈ ops.flatMap GateOp.storeOps, op.InRange ttl := by
    intro op member
    obtain ⟨outer, present, inner⟩ := List.mem_flatMap.mp member
    cases outer with
    | store op' =>
      have same : op = op' := List.mem_singleton.mp inner
      exact same ▸ inRange _ present
    | callback request env =>
      simp only [GateOp.storeOps] at inner
      split at inner
      · rw [List.mem_singleton.mp inner]
        trivial
      · cases inner
  -- the store's own history theorem, carried over by the simulation
  have tracks := exec_tracks ttl maxEntries (ops.flatMap GateOp.storeOps) fits
  have run := gate_simulates.exec_eq _ _ (InMemorySessionStore.withCapacity ttl maxEntries) ops
  rw [id, id] at run
  rw [run] at tracks
  exact tracks

/-- The end-to-end gate. After any run of bindings, revocations, verifications and callbacks, a
callback reaches the handler iff it carries a state token and a session id such that the last
operation that settled the token bound it to that session and every eviction since then, the
callback's own included, read the clock before the binding's expiry. Any other callback gets
the 401 response. -/
theorem callback_reaches_handler_iff (ttl : Duration) (maxEntries : Nat) (ops : List GateOp)
    (inRange : ∀ op ∈ ops, op.InRange ttl) (request : Request)
    (env : InMemorySessionStore.Readings) :
    let run := gate.exec (.withCapacity ttl maxEntries) ops
    let handled := (enforcePkceStateSession InMemorySessionStore.port env request run.1).2
    ((∃ audit, handled = .ok ⟨audit, .runNext request⟩) ↔
      ∃ token session expires, extractStateToken request = some token ∧
        extractSessionId request = some session ∧
        BoundSince ttl token session expires (storeHistory run.2) ∧ env.evictNow < expires) ∧
    ((¬ ∃ audit, handled = .ok ⟨audit, .runNext request⟩) →
      ∃ audit, handled = .ok ⟨audit, .reply invalidStateResponse⟩) := by
  intro run handled
  have tracks := gate_tracks ttl maxEntries ops inRange
  constructor
  · rw [enforce_runs_iff]
    -- the store answers `Ok(true)` to exactly the bindings its history leaves live
    have verified (token session : String) :
        (InMemorySessionStore.port.verifyState env token session run.1).2 = .ok true ↔
          ∃ expires, BoundSince ttl token session expires (storeHistory run.2) ∧
            env.evictNow < expires := by
      change (run.1.verifyState token session env.evictNow).2 = .ok true ↔ _
      rw [run.1.verifyState_true_iff tracks.healthy]
      exact exists_congr fun expires =>
        and_congr_left fun _ => tracks.lookup_iff token session expires
    simp only [verified]
    constructor
    · rintro ⟨token, session, state, cookie, expires, bound, fresh⟩
      exact ⟨token, session, expires, state, cookie, bound, fresh⟩
    · rintro ⟨token, session, expires, state, cookie, bound, fresh⟩
      exact ⟨token, session, state, cookie, expires, bound, fresh⟩
  · intro notRun
    refine (enforce_runs_or_rejects InMemorySessionStore.port env request run.1 ?_).resolve_left
      notRun
    intro token session panicked
    -- a store in step with its history is not poisoned, so it answers
    obtain ⟨answer, answered⟩ := run.1.verifyState_ok tracks.healthy token session env.evictNow
    change (run.1.verifyState token session env.evictNow).2 = .panicked at panicked
    rw [answered] at panicked
    cases panicked

/-- A callback with the state and the cookie of a binding made a second before. -/
theorem callback_reaches_handler_bound :
    ∃ audit, (enforcePkceStateSession InMemorySessionStore.port
      ⟨.ofSeconds 1, .ofSeconds 1⟩ ⟨some "state=a", [("cookie", [0x73, 0x69, 0x64, 0x3D, 0x73])]⟩
      (gate.exec (.withCapacity (.minutes 15) 1)
        [.store (.bind "a" "s" (.ofSeconds 0) (.ofSeconds 0))]).1).2 =
      .ok ⟨audit, .runNext ⟨some "state=a", [("cookie", [0x73, 0x69, 0x64, 0x3D, 0x73])]⟩⟩ := by
  refine (callback_reaches_handler_iff (.minutes 15) 1
    [.store (.bind "a" "s" (.ofSeconds 0) (.ofSeconds 0))] (by decide) _ _).1.mpr ?_
  refine ⟨"a", "s", .ofSeconds 900, by decide, by decide, ?_, by decide⟩
  exact ⟨[], _, [], rfl, ⟨rfl, rfl, by decide, by decide⟩, by simp⟩

end AuthKit.Middleware
