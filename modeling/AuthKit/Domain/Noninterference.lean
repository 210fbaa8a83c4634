import AuthKit.Domain.Poisoning

/-!
# Bindings of different tokens do not interfere

Every operation on the shared map evicts what has expired, whichever token it is about. Seen
from one token that makes no difference as long as the clock does not run backwards and no
binding is refused: the token behaves as a private cell that only its own operations touch.
`token_sees_cell` is that refinement, and noninterference between two runs follows from it.
-/
namespace AuthKit.Domain

open Execution

namespace StoreOp

def token : StoreOp → String
  | .bind stateToken _ _ _ => stateToken
  | .verify stateToken _ _ => stateToken
  | .revoke stateToken => stateToken

/-- The clock readings of the call in the order in which it takes them. -/
def readings : StoreOp → List DateTime
  | .bind _ _ evictNow insertNow => [evictNow, insertNow]
  | .verify _ _ now => [now]
  | .revoke _ => []

end StoreOp

namespace StoreEvent

def token : StoreEvent → String
  | .bound stateToken _ _ _ _ => stateToken
  | .verified stateToken _ _ _ => stateToken
  | .revoked stateToken _ => stateToken

/-- `bind_state` returned `AtCapacity`. -/
def refused : StoreEvent → Bool
  | .bound _ _ _ _ (.err (.atCapacity _)) => true
  | _ => false

end StoreEvent

/-- Whether a cell holding `slot` vouches for the session: the entry that was last put there is
bound to it and has not expired. -/
def slotAnswer (slot : Option Entry) (sessionId : String) (now : DateTime) : Bool :=
  slot.any fun entry => decide (entry.sessionId = sessionId ∧ now < entry.expiresAt)

/-- The store as one token has it for itself: a single place that nothing is evicted from. -/
def cell (ttl : Duration) : Machine (Option Entry) StoreOp StoreEvent where
  step slot
    | .bind stateToken sessionId evictNow insertNow =>
        ((insertNow.checkedAdd ttl).map (Entry.mk sessionId),
          [.bound stateToken sessionId evictNow insertNow (.ok ())])
    | .verify stateToken sessionId now =>
        (slot, [.verified stateToken sessionId now (.ok (slotAnswer slot sessionId now))])
    | .revoke stateToken => (none, [.revoked stateToken (.ok ())])

theorem slotAnswer_eq_true_iff (slot : Option Entry) (session : String) (now : DateTime) :
    slotAnswer slot session now = true ↔
      ∃ expires, slot = some ⟨session, expires⟩ ∧ now < expires := by
  cases slot with
  | none => simp [slotAnswer]
  | some entry =>
    simp only [slotAnswer, Option.any_some, decide_eq_true_eq, Option.some.injEq]
    constructor
    · rintro ⟨rfl, fresh⟩
      exact ⟨entry.expiresAt, rfl, fresh⟩
    · rintro ⟨expires, rfl, fresh⟩
      exact ⟨rfl, fresh⟩

namespace InMemorySessionStore

/-! ### What one call does to the live binding of a token -/

/-- An eviction takes nothing that is still unexpired at a later reading. -/
theorem live_evictExpired (store : InMemorySessionStore) {read now : DateTime} (later : read ≤ now)
    (token : String) (entry : Entry) :
    Live { store with inner := evictExpired read store.inner } now token entry ↔
      store.Live now token entry := by
  simp only [Live, lookup_evictExpired]
  constructor
  · rintro ⟨⟨bound, _⟩, fresh⟩
    exact ⟨bound, fresh⟩
  · rintro ⟨bound, fresh⟩
    exact ⟨⟨bound, DateTime.lt_of_le_of_lt later fresh⟩, fresh⟩

/-- A call on another token does not change what is live at the readings after it. -/
theorem perform_live_other (store : InMemorySessionStore) (healthy : store.poisoned = false)
    (op : StoreOp) (token : String) (other : op.token ≠ token) {now : DateTime}
    (later : ∀ read ∈ op.readings, read ≤ now) (entry : Entry) :
    (store.perform op).1.Live now token entry ↔ store.Live now token entry := by
  cases op with
  | bind stateToken session evictNow insertNow =>
    have evicted := store.live_evictExpired (later evictNow (by simp [StoreOp.readings])) token entry
    -- the eviction drops nothing that is live; a new binding goes to another key
    rcases store.bindState_cases healthy stateToken session evictNow insertNow with
      ⟨_, result⟩ | ⟨_, ⟨_, result⟩ | ⟨expires, _, result⟩⟩
    · simp only [perform, result]
      exact evicted
    · simp only [perform, result]
      exact evicted
    · simp only [perform, result]
      have apart : token ≠ stateToken := Ne.symm other
      rw [← evicted]
      simp only [Live]
      rw [AList.lookup_insert_ne apart]
  | verify stateToken session read =>
    -- a verification only evicts
    simp only [perform, store.verifyState_healthy healthy]
    exact store.live_evictExpired (later read (by simp [StoreOp.readings])) token entry
  | revoke stateToken =>
    have apart : token ≠ stateToken := Ne.symm other
    simp only [perform, store.revokeState_healthy healthy, Live]
    rw [AList.lookup_erase_ne apart]

/-- No call changes the configuration. -/
theorem perform_ttl (store : InMemorySessionStore) (op : StoreOp) :
    (store.perform op).1.ttl = store.ttl := by
  cases healthy : store.poisoned with
  | true => rw [(store.perform_of_poisoned healthy op).1]
  | false =>
    cases op with
    | bind stateToken session evictNow insertNow =>
      rcases store.bindState_cases healthy stateToken session evictNow insertNow with
        ⟨_, result⟩ | ⟨_, ⟨_, result⟩ | ⟨expires, _, result⟩⟩ <;> simp [perform, result]
    | verify stateToken session read => simp [perform, store.verifyState_healthy healthy]
    | revoke stateToken => simp [perform, store.revokeState_healthy healthy]

end InMemorySessionStore

/-! ### The refinement -/

/-- `slot` is what `store` shows of `token` from now on, when `rest` is still to come: at every
reading that is left, the live binding of the token is the unexpired entry of the slot. -/
structure Shows (ttl : Duration) (token : String) (rest : List StoreOp)
    (store : InMemorySessionStore) (slot : Option Entry) : Prop where
  ttl_eq : store.ttl = ttl
  healthy : store.poisoned = false
  inRange : ∀ op ∈ rest, op.InRange ttl
  ordered : (rest.flatMap StoreOp.readings).Pairwise (· ≤ ·)
  admitted : ∀ event ∈ (InMemorySessionStore.machine.exec store rest).2, event.refused = false
  live_iff : ∀ now ∈ rest.flatMap StoreOp.readings, ∀ entry,
    store.Live now token entry ↔ slot = some entry ∧ now < entry.expiresAt

section Steps

variable {ttl : Duration} {token : String} {op : StoreOp} {rest : List StoreOp}
  {store : InMemorySessionStore} {slot : Option Entry}

/-- What has to be shown again after a call is the live binding only. -/
private theorem Shows.next (shows : Shows ttl token (op :: rest) store slot) (slot' : Option Entry)
    (live_iff : ∀ now ∈ rest.flatMap StoreOp.readings, ∀ entry,
      (store.perform op).1.Live now token entry ↔ slot' = some entry ∧ now < entry.expiresAt) :
    Shows ttl token rest (store.perform op).1 slot' where
  ttl_eq := (store.perform_ttl op).trans shows.ttl_eq
  healthy := by
    apply store.perform_poisoned shows.healthy op
    -- the lock stays healthy because no expiry of the run overflows
    have fits := shows.inRange op List.mem_cons_self
    cases op with
    | bind _ _ _ insertNow => exact Or.inr (shows.ttl_eq ▸ fits)
    | verify _ _ _ => trivial
    | revoke _ => trivial
  inRange later member := shows.inRange later (List.mem_cons_of_mem _ member)
  ordered := by
    have ordered := shows.ordered
    rw [List.flatMap_cons] at ordered
    exact (List.pairwise_append.mp ordered).2.1
  admitted event member := shows.admitted event (List.mem_append_right _ member)
  live_iff := live_iff

/-- The readings still to come are no earlier than those of the next call. -/
private theorem Shows.later (shows : Shows ttl token (op :: rest) store slot) {now : DateTime}
    (member : now ∈ rest.flatMap StoreOp.readings) : ∀ read ∈ op.readings, read ≤ now := by
  have ordered := shows.ordered
  rw [List.flatMap_cons] at ordered
  intro read first
  exact (List.pairwise_append.mp ordered).2.2 read first now member

private theorem Shows.live_next (shows : Shows ttl token (op :: rest) store slot) {now : DateTime}
    (member : now ∈ rest.flatMap StoreOp.readings) (entry : Entry) :
    store.Live now token entry ↔ slot = some entry ∧ now < entry.expiresAt := by
  apply shows.live_iff
  rw [List.flatMap_cons]
  exact List.mem_append_right _ member

/-- Calls on other tokens leave the slot alone. -/
private theorem Shows.skip (shows : Shows ttl token (op :: rest) store slot)
    (other : op.token ≠ token) : Shows ttl token rest (store.perform op).1 slot := by
  apply shows.next
  intro now member entry
  rw [store.perform_live_other shows.healthy op token other (shows.later member)]
  exact shows.live_next member entry

/-- A verification answers what the slot says, and keeps it. -/
private theorem Shows.verified {session : String} {now : DateTime}
    (shows : Shows ttl token (.verify token session now :: rest) store slot) :
    Shows ttl token rest (store.perform (.verify token session now)).1 slot ∧
      (store.perform (.verify token session now)).2 =
        [.verified token session now (.ok (slotAnswer slot session now))] := by
  constructor
  · apply shows.next
    intro reading member entry
    simp only [InMemorySessionStore.perform, store.verifyState_healthy shows.healthy]
    rw [store.live_evictExpired (shows.later member now (by simp [StoreOp.readings]))]
    exact shows.live_next member entry
  · -- what the store accepts is live, and what is live is in the slot
    obtain ⟨answer, replied⟩ := store.verifyState_ok shows.healthy token session now
    have accepts := store.verifyState_true_iff shows.healthy token session now
    have same : answer = slotAnswer slot session now := by
      apply Bool.eq_iff_iff.mpr
      rw [slotAnswer_eq_true_iff]
      rw [replied, Outcome.ok.injEq] at accepts
      rw [accepts]
      exact exists_congr fun expires => shows.live_iff now (by simp [StoreOp.readings]) _
    simp only [InMemorySessionStore.perform, replied, same]

/-- A binding that is not refused fills the slot, whatever was in it. -/
private theorem Shows.bound {session : String} {evictNow insertNow : DateTime}
    (shows : Shows ttl token (.bind token session evictNow insertNow :: rest) store slot) :
    Shows ttl token rest (store.perform (.bind token session evictNow insertNow)).1
        ((insertNow.checkedAdd ttl).map (Entry.mk session)) ∧
      (store.perform (.bind token session evictNow insertNow)).2 =
        [.bound token session evictNow insertNow (.ok ())] := by
  rcases store.bindState_cases shows.healthy token session evictNow insertNow with
    ⟨_, result⟩ | ⟨_, ⟨overflow, _⟩ | ⟨expires, sum, result⟩⟩
  · -- excluded: the run has no refusals
    have admitted := shows.admitted
      (.bound token session evictNow insertNow (.err (.atCapacity store.maxEntries)))
    simp [Machine.exec, InMemorySessionStore.machine, InMemorySessionStore.perform, result,
      StoreEvent.refused] at admitted
  · -- excluded: the expiry is in range
    have fits := shows.inRange _ List.mem_cons_self
    rw [shows.ttl_eq] at overflow
    simp [StoreOp.InRange, overflow] at fits
  · rw [shows.ttl_eq] at sum
    refine ⟨?_, by simp only [InMemorySessionStore.perform, result]⟩
    apply shows.next
    intro now member entry
    simp only [InMemorySessionStore.perform, result, InMemorySessionStore.Live, AList.lookup_insert,
      sum, Option.map_some]

private theorem Shows.revoked (shows : Shows ttl token (.revoke token :: rest) store slot) :
    Shows ttl token rest (store.perform (.revoke token)).1 none ∧
      (store.perform (.revoke token)).2 = [.revoked token (.ok ())] := by
  refine ⟨?_, by simp only [InMemorySessionStore.perform, store.revokeState_healthy shows.healthy]⟩
  apply shows.next
  intro now member entry
  simp [InMemorySessionStore.perform, store.revokeState_healthy shows.healthy,
    InMemorySessionStore.Live]

end Steps

/-- A call reports on the token it was made for. -/
private theorem perform_token (store : InMemorySessionStore) (op : StoreOp) :
    ∀ event ∈ (store.perform op).2, event.token = op.token := by
  cases op <;> simp [InMemorySessionStore.perform, StoreEvent.token, StoreOp.token]

/-- Refinement: the events about a token in a run with ordered readings, in which nothing is
refused, are those of a private cell that performs the operations on that token only. -/
theorem token_sees_cell (ttl : Duration) (maxEntries : Nat) (token : String) (ops : List StoreOp)
    (inRange : ∀ op ∈ ops, op.InRange ttl)
    (ordered : (ops.flatMap StoreOp.readings).Pairwise (· ≤ ·))
    (admitted : ∀ event ∈
      (InMemorySessionStore.machine.exec (.withCapacity ttl maxEntries) ops).2,
        event.refused = false) :
    (InMemorySessionStore.machine.exec (.withCapacity ttl maxEntries) ops).2.filter
        (fun event => event.token = token) =
      ((cell ttl).exec none (ops.filter fun op => op.token = token)).2 := by
  apply InMemorySessionStore.machine.exec_filter_eq (cell ttl) _ _ (Shows ttl token)
  · -- a call on another token: its events are about that token
    intro op rest store slot other shows
    rw [decide_eq_false_iff_not] at other
    refine ⟨shows.skip other, ?_⟩
    rw [List.filter_eq_nil_iff]
    intro event member
    rw [perform_token store op event member]
    simpa using other
  · -- a call on the token: store and cell take the same step
    intro op rest store slot mine shows
    rw [decide_eq_true_eq] at mine
    have observed : (store.perform op).2.filter (fun event => event.token = token) =
        (store.perform op).2 := by
      rw [List.filter_eq_self]
      intro event member
      rw [perform_token store op event member]
      simpa using mine
    change _ ∧ (store.perform op).2.filter _ = _
    rw [observed]
    subst mine
    cases op with
    | bind stateToken session evictNow insertNow => exact shows.bound
    | verify stateToken session now => exact shows.verified
    | revoke stateToken => exact shows.revoked
  · exact ⟨rfl, rfl, inRange, ordered, admitted, by simp [InMemorySessionStore.Live,
      InMemorySessionStore.withCapacity]⟩

/-- Noninterference: two runs that perform the same operations on a token at the same readings,
and whatever else in between, answer every one of these operations alike. -/
theorem same_answers_for_token (ttl : Duration) (maxEntries : Nat) (token : String)
    (ops ops' : List StoreOp)
    (inRange : ∀ op ∈ ops, op.InRange ttl) (inRange' : ∀ op ∈ ops', op.InRange ttl)
    (ordered : (ops.flatMap StoreOp.readings).Pairwise (· ≤ ·))
    (ordered' : (ops'.flatMap StoreOp.readings).Pairwise (· ≤ ·))
    (admitted : ∀ event ∈
      (InMemorySessionStore.machine.exec (.withCapacity ttl maxEntries) ops).2,
        event.refused = false)
    (admitted' : ∀ event ∈
      (InMemorySessionStore.machine.exec (.withCapacity ttl maxEntries) ops').2,
        event.refused = false)
    (same : ops.filter (fun op => op.token = token) = ops'.filter fun op => op.token = token) :
    (InMemorySessionStore.machine.exec (.withCapacity ttl maxEntries) ops).2.filter
        (fun event => event.token = token) =
      (InMemorySessionStore.machine.exec (.withCapacity ttl maxEntries) ops').2.filter
        fun event => event.token = token := by
  rw [token_sees_cell ttl maxEntries token ops inRange ordered admitted,
    token_sees_cell ttl maxEntries token ops' inRange' ordered' admitted', same]

/-- The binding of `t` with and without verifications and bindings of other tokens around it. -/
theorem same_answers_in_a_flood :
    let quiet : List StoreOp := [.bind "t" "session" (.ofSeconds 0) (.ofSeconds 0),
      .verify "t" "session" (.ofSeconds 50), .verify "t" "session" (.ofSeconds 70)]
    let flooded : List StoreOp := [.verify "x" "session" (.ofSeconds 0),
      .bind "t" "session" (.ofSeconds 0) (.ofSeconds 0),
      .bind "y" "forged" (.ofSeconds 10) (.ofSeconds 20), .verify "y" "session" (.ofSeconds 50),
      .verify "t" "session" (.ofSeconds 50), .verify "x" "session" (.ofSeconds 65), .revoke "y",
      .verify "t" "session" (.ofSeconds 70)]
    (InMemorySessionStore.machine.exec (.withTtl (.minutes 1)) quiet).2.filter
        (fun event => event.token = "t") =
      (InMemorySessionStore.machine.exec (.withTtl (.minutes 1)) flooded).2.filter
        fun event => event.token = "t" := by
  apply same_answers_for_token (.minutes 1) DEFAULT_MAX_ENTRIES "t"
  · decide
  · decide
  · decide
  · decide
  · decide
  · decide
  · rfl

end AuthKit.Domain
