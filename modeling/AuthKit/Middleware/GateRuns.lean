import AuthKit.Domain.Reads
import AuthKit.Middleware.Gate

/-!
# What callbacks do to the gate, and what a broken store does to callbacks

A callback changes the store only by an eviction that the next reading would have made anyway. And
where the store has failed, the gate stays shut: it answers every further callback itself.
-/
namespace AuthKit.Middleware

open Execution AuthKit.Domain

/-- Bindings and revocations; a callback only reads. -/
def GateOp.writes : GateOp → Bool
  | .store op => op.writes
  | .callback _ _ => false

/-- The clock readings of a run, in order. -/
def gateReadings (ops : List GateOp) : List DateTime :=
  (ops.flatMap GateOp.storeOps).flatMap StoreOp.readings

section Middleware

variable {Store Env : Type} (port : SessionStore Store Env) (env : Env) (request : Request)

/-- The middleware sees the answers of the store only. -/
theorem enforce_congr (store store' : Store)
    (same : ∀ token session, (port.verifyState env token session store).2 =
      (port.verifyState env token session store').2) :
    (enforcePkceStateSession port env request store).2 =
      (enforcePkceStateSession port env request store').2 := by
  unfold enforcePkceStateSession
  cases extractStateToken request with
  | none => rfl
  | some token =>
    cases extractSessionId request with
    | none => rfl
    | some session =>
      have answer := same token session
      rcases verified : port.verifyState env token session store with ⟨left, reply⟩
      rcases verified' : port.verifyState env token session store' with ⟨left', reply'⟩
      rw [verified, verified'] at answer
      -- one case for each answer of the store
      obtain rfl : reply = reply' := answer
      rcases reply with (_ | _) | _ | _ <;> simp only [verified, verified']

/-- The middleware panics only if the store does. -/
theorem enforce_returns (store : Store)
    (returns : ∀ token session, (port.verifyState env token session store).2 ≠ .panicked) :
    (enforcePkceStateSession port env request store).2 ≠ .panicked := by
  rcases enforce_runs_or_rejects port env request store returns with ⟨_, ok⟩ | ⟨_, ok⟩ <;> simp [ok]

/-- An error of the store is reported with its text, and nothing else is reported like that. -/
theorem enforce_store_error_iff (store : Store) (text : String) :
    (enforcePkceStateSession port env request store).2 =
        .ok (.rejected "store_error" (some text)) ↔
      ∃ token session error, extractStateToken request = some token ∧
        extractSessionId request = some session ∧
        (port.verifyState env token session store).2 = .err error ∧ error.message = text := by
  unfold enforcePkceStateSession
  cases extractStateToken request with
  | none => simp [Handled.rejected, AuditEvent.reject]
  | some token =>
    cases extractSessionId request with
    | none => simp [Handled.rejected, AuditEvent.reject]
    | some session =>
      rcases verified : port.verifyState env token session store with ⟨left, (_ | _) | error | _⟩ <;>
        simp [verified, Handled.rejected, AuditEvent.reject, AuditEvent.allow]

end Middleware

/-- A run of the gate is a run of its store calls. -/
theorem gate_exec_eq (store : InMemorySessionStore) (ops : List GateOp) :
    InMemorySessionStore.machine.exec store (ops.flatMap GateOp.storeOps) =
      ((gate.exec store ops).1, storeHistory (gate.exec store ops).2) :=
  gate_simulates.exec_eq _ _ store ops

section Healthy

variable (ttl : Duration) (maxEntries : Nat) (ops : List GateOp)

/-- The store of the gate is lost iff a binding of the run has panicked. -/
theorem gate_poisoned_iff :
    (gate.exec (.withCapacity ttl maxEntries) ops).1.poisoned = true ↔
      ∃ event ∈ storeHistory (gate.exec (.withCapacity ttl maxEntries) ops).2, event.Panicked := by
  have store := InMemorySessionStore.exec_poisoned_iff (.withCapacity ttl maxEntries) rfl
    (ops.flatMap GateOp.storeOps)
  rw [gate_exec_eq] at store
  exact store

/-- Until then it is in step with the calls that reached it. -/
theorem gate_tracks_of_healthy
    (healthy : (gate.exec (.withCapacity ttl maxEntries) ops).1.poisoned = false) :
    Tracks ttl maxEntries (gate.exec (.withCapacity ttl maxEntries) ops).1
      (storeHistory (gate.exec (.withCapacity ttl maxEntries) ops).2) := by
  have tracks := @exec_tracks_of_healthy ttl maxEntries (ops.flatMap GateOp.storeOps)
  rw [gate_exec_eq] at tracks
  exact tracks healthy

end Healthy

theorem storeOps_filter_writes (ops : List GateOp) :
    (ops.filter GateOp.writes).flatMap GateOp.storeOps =
      (ops.flatMap GateOp.storeOps).filter StoreOp.writes := by
  induction ops with
  | nil => rfl
  | cons op rest ih =>
    rw [List.flatMap_cons, List.filter_append, ← ih]
    cases op with
    | store op =>
      by_cases writes : op.writes = true
      · simp [GateOp.writes, GateOp.storeOps, writes]
      · simp [GateOp.writes, GateOp.storeOps, writes]
    | callback request env =>
      rw [List.filter_cons_of_neg (by simp [GateOp.writes]), GateOp.storeOps]
      split <;> rfl

/-! ### Callbacks leave no trace -/

/-- With a clock that does not go back, callbacks and verifications can be left out of a run of the
gate: any next callback is handled alike, and all bindings and revocations are answered alike. -/
theorem callbacks_leave_no_trace (store : InMemorySessionStore) (ops : List GateOp)
    (request : Request) (env : InMemorySessionStore.Readings)
    (ordered : (gateReadings ops ++ [env.evictNow]).Pairwise (· ≤ ·)) :
    let run := gate.exec store ops
    let quiet := gate.exec store (ops.filter GateOp.writes)
    (enforcePkceStateSession InMemorySessionStore.port env request run.1).2 =
      (enforcePkceStateSession InMemorySessionStore.port env request quiet.1).2 ∧
    (storeHistory run.2).filter StoreEvent.writes = storeHistory quiet.2 := by
  intro run quiet
  have full := gate_exec_eq store ops
  have writes := gate_exec_eq store (ops.filter GateOp.writes)
  rw [storeOps_filter_writes] at writes
  have agree := exec_writes_agree store (ops.flatMap GateOp.storeOps) [env.evictNow] ordered
  have answers := exec_writes_answers store (ops.flatMap GateOp.storeOps) [env.evictNow] ordered
  rw [full, writes] at agree answers
  exact ⟨enforce_congr _ env request _ _ (agree.verify_answer env.evictNow), answers⟩

/-- A forged callback between a binding and its own callback. -/
theorem forged_callback_leaves_no_trace :
    (enforcePkceStateSession InMemorySessionStore.port ⟨.ofSeconds 50, .ofSeconds 50⟩
      ⟨some "state=a", [("cookie", [0x73, 0x69, 0x64, 0x3D, 0x73])]⟩
      (gate.exec (.withTtl (.minutes 1))
        [.store (.bind "a" "s" (.ofSeconds 0) (.ofSeconds 0)),
          .callback ⟨some "state=a", [("cookie", [0x73, 0x69, 0x64, 0x3D, 0x74])]⟩
            ⟨.ofSeconds 5, .ofSeconds 5⟩]).1).2 =
      (enforcePkceStateSession InMemorySessionStore.port ⟨.ofSeconds 50, .ofSeconds 50⟩
        ⟨some "state=a", [("cookie", [0x73, 0x69, 0x64, 0x3D, 0x73])]⟩
        (gate.exec (.withTtl (.minutes 1))
          [.store (.bind "a" "s" (.ofSeconds 0) (.ofSeconds 0))]).1).2 :=
  (callbacks_leave_no_trace (.withTtl (.minutes 1))
    [.store (.bind "a" "s" (.ofSeconds 0) (.ofSeconds 0)),
      .callback ⟨some "state=a", [("cookie", [0x73, 0x69, 0x64, 0x3D, 0x74])]⟩
        ⟨.ofSeconds 5, .ofSeconds 5⟩]
    ⟨some "state=a", [("cookie", [0x73, 0x69, 0x64, 0x3D, 0x73])]⟩ ⟨.ofSeconds 50, .ofSeconds 50⟩
    (by decide)).1

/-! ### The gate fails closed -/

/-- In every run of the gate, with any ttl and any clock: a callback never panics; once a binding
has panicked no callback reaches the handler; and the audit says `store_error` exactly for the
callbacks with both values that come after such a panic. -/
theorem gate_fails_closed (ttl : Duration) (maxEntries : Nat) (ops : List GateOp)
    (request : Request) (env : InMemorySessionStore.Readings) :
    let run := gate.exec (.withCapacity ttl maxEntries) ops
    let handled := (enforcePkceStateSession InMemorySessionStore.port env request run.1).2
    let broken := ∃ event ∈ storeHistory run.2, event.Panicked
    handled ≠ .panicked ∧
    (broken → ∀ audit, handled ≠ .ok ⟨audit, .runNext request⟩) ∧
    ((∃ text, handled = .ok (.rejected "store_error" (some text))) ↔
      (∃ token, extractStateToken request = some token) ∧
        (∃ session, extractSessionId request = some session) ∧ broken) := by
  intro run handled broken
  have poisoned : run.1.poisoned = true ↔ broken := gate_poisoned_iff ttl maxEntries ops
  have answered : ∀ token session,
      (∃ error, (run.1.verifyState token session env.evictNow).2 = .err error) ↔ broken := by
    intro token session
    rw [← poisoned]
    cases flag : run.1.poisoned <;> simp [InMemorySessionStore.verifyState, flag]
  refine ⟨?_, ?_, ?_⟩
  · exact enforce_returns _ env request run.1 fun token session =>
      run.1.verifyState_returns token session env.evictNow
  · intro panicked audit runs
    obtain ⟨token, session, _, _, accepted⟩ :=
      (enforce_runs_iff InMemorySessionStore.port env request run.1).mp ⟨audit, runs⟩
    obtain ⟨error, failed⟩ := (answered token session).mpr panicked
    change (run.1.verifyState token session env.evictNow).2 = _ at accepted
    rw [failed] at accepted
    cases accepted
  · simp only [handled, enforce_store_error_iff]
    constructor
    · rintro ⟨text, token, session, error, state, cookie, failed, _⟩
      exact ⟨⟨token, state⟩, ⟨session, cookie⟩, (answered token session).mp ⟨error, failed⟩⟩
    · rintro ⟨⟨token, state⟩, ⟨session, cookie⟩, panicked⟩
      obtain ⟨error, failed⟩ := (answered token session).mpr panicked
      exact ⟨error.message, token, session, error, state, cookie, failed, rfl⟩

end AuthKit.Middleware
