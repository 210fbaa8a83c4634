import AuthKit.Domain.Reads
import AuthKit.Middleware.Redeemable
import AuthKit.WebAuthn.Draws
import AuthKit.WebAuthn.SingleUse

/-!
# One session store under the gate and the verifier

The middleware and the verifier each take an `Arc<dyn SessionStore>`, and nothing keeps a server
from giving both the same one. The gate then lets through what its server has bound, and it also
lets through every WebAuthn challenge.
-/
namespace AuthKit.Server

open Execution AuthKit.Domain AuthKit.Middleware AuthKit.WebAuthn

abbrev ServerState := World (WebAuthnVerifier InMemorySessionStore) Task Point Reply

/-- The server's own store calls and the callbacks it receives, or the next action of a call to the
verifier. -/
inductive ServerOp where
  | gate (op : GateOp)
  | webauthn (action : Action Task (Supply InMemorySessionStore.Readings))

inductive ServerEvent where
  | gate (event : GateEvent)
  | webauthn (turn : InMemoryTurn) (called : Option StoreEvent)

namespace ServerEvent

def ownEvent : ServerEvent → Option StoreEvent
  | .gate event => event.storeEvent
  | .webauthn _ _ => none

def calledEvent : ServerEvent → Option StoreEvent
  | .gate _ => none
  | .webauthn _ called => called

def storeEvent : ServerEvent → Option StoreEvent
  | .gate event => event.storeEvent
  | .webauthn _ called => called

/-- The challenge of a verification that returns `Ok`. -/
def accepted : ServerEvent → Option Challenge
  | .gate _ => none
  | .webauthn turn _ => WebAuthn.accepted turn

theorem storeEvent_eq_some_iff (event : ServerEvent) (call : StoreEvent) :
    event.storeEvent = some call ↔ event.ownEvent = some call ∨ event.calledEvent = some call := by
  cases event <;> simp [storeEvent, ownEvent, calledEvent]

theorem filterMap_webauthn (turn : InMemoryTurn) (called : Option StoreEvent) :
    [webauthn turn called].filterMap storeEvent = called.toList := by
  cases called <;> rfl

end ServerEvent

section Steps

variable (lib : Externals) (config : WebAuthnConfig)

/-- The call on the session store that a section makes. -/
def sectionOp (turn : InMemoryTurn) : Option StoreOp :=
  match turn.point with
  | .bindChallenge userId operation =>
      some (.bind (config.challengeKey operation userId) (lib.encode turn.input.bytes.toList)
        turn.input.env.evictNow turn.input.env.insertNow)
  | .consumeCreate r =>
      some (.verify (config.createKey r.userId) r.challenge turn.input.env.evictNow)
  | .consumeGet a => some (.verify (config.getKey a.userId) a.challenge turn.input.env.evictNow)
  | .checkUnique _ => none
  | .insert _ => none
  | .raise _ => none

/-- How the store answers that call. -/
def sectionCall (store : InMemorySessionStore) (turn : InMemoryTurn) : Option StoreEvent :=
  (sectionOp lib config turn).bind fun op => (store.perform op).2.head?

def serverStep (state : ServerState) : ServerOp → ServerState × List ServerEvent
  | .gate op =>
      let stepped := gateStep state.shared.sessionStore op
      (⟨{ state.shared with sessionStore := stepped.1 }, state.calls⟩, stepped.2.map .gate)
  | .webauthn action =>
      let stepped := (inMemoryVerifier lib config).step state action
      (stepped.1, stepped.2.map fun turn =>
        .webauthn turn (sectionCall lib config state.shared.sessionStore turn))

def server : Machine ServerState ServerOp ServerEvent := ⟨serverStep lib config⟩

/-- A server that has just started. -/
def ServerState.started (ttl : Duration) (maxEntries : Nat) : ServerState :=
  .idle (.new (.withCapacity ttl maxEntries))

/-- The token reads like a session key of the verifier. -/
def Reserved (token : String) : Prop := "webauthn:".toList <+: token.toList

/-- The server itself does not bind or revoke reserved tokens. -/
def ServerOp.Apart : ServerOp → Prop
  | .gate (.store op) => op.writes = true → ¬ Reserved op.token
  | .gate (.callback _ _) => True
  | .webauthn _ => True

instance (token : String) : Decidable (Reserved token) :=
  inferInstanceAs (Decidable (_ <+: _))

instance : (op : ServerOp) → Decidable op.Apart
  | .gate (.store op) => inferInstanceAs (Decidable (op.writes = true → ¬ Reserved op.token))
  | .gate (.callback _ _) => inferInstanceAs (Decidable True)
  | .webauthn _ => inferInstanceAs (Decidable True)

/-- The section issues the challenge `text` under `key`, to expire at `expires`. -/
def Issues (ttl : Duration) (key text : String) (expires : DateTime) : ServerEvent → Prop
  | .gate _ => False
  | .webauthn turn _ => ∃ c, issued turn = some c ∧ config.keyOf c = key ∧ c.text = text ∧
      turn.input.env.insertNow.checkedAdd ttl = some expires

instance (ttl : Duration) (key text : String) (expires : DateTime) :
    (event : ServerEvent) → Decidable (Issues config ttl key text expires event)
  | .gate _ => inferInstanceAs (Decidable False)
  | .webauthn turn _ => inferInstanceAs (Decidable (∃ c ∈ issued turn, config.keyOf c = key ∧
      c.text = text ∧ turn.input.env.insertNow.checkedAdd ttl = some expires))

def Reissues (key : String) : ServerEvent → Prop
  | .gate _ => False
  | .webauthn turn _ => Rebinds config key turn

instance (key : String) : (event : ServerEvent) → Decidable (Reissues config key event)
  | .gate _ => inferInstanceAs (Decidable False)
  | .webauthn turn _ => inferInstanceAs (Decidable (∃ c ∈ issued turn, config.keyOf c = key))

/-- `text` is the challenge last issued under `key`, and it expires at `expires`; whether it has
been presented since does not matter. -/
def LastIssued (ttl : Duration) (key text : String) (expires : DateTime)
    (history : List ServerEvent) : Prop :=
  Since (Issues config ttl key text expires) (fun event => ¬ Reissues config key event) history

theorem reserved_keyOf (c : Challenge) : Reserved (config.keyOf c) := by
  refine ⟨(c.operation ++ ":" ++ config.rpId ++ ":" ++ c.userId).toList, ?_⟩
  simp only [WebAuthnConfig.keyOf, WebAuthnConfig.challengeKey, String.toList_append,
    List.append_assoc]

/-! ### What an event tells -/

/-- The server's own calls leave reserved tokens alone, and the only call of the verifier that
settles a token binds a challenge, which is issued iff the store takes it. -/
def ServerEvent.Sound : ServerEvent → Prop
  | .gate event => ∀ call, event.storeEvent = some call →
      ∀ token, call.Settles token → ¬ Reserved token
  | .webauthn turn called =>
      (∃ c reply, c.text = lib.encode turn.input.bytes.toList ∧
        called = some (.bound (config.keyOf c) c.text turn.input.env.evictNow
          turn.input.env.insertNow reply) ∧
        ∀ c', issued turn = some c' ↔ c' = c ∧ reply = .ok ()) ∨
      (issued turn = none ∧ ∀ call, called = some call → ∀ token, ¬ call.Settles token)

theorem settles_of_binds {ttl : Duration} {token session : String} {expires : DateTime}
    {event : StoreEvent} (binds : event.Binds ttl token session expires) : event.Settles token := by
  cases event with
  | bound stateToken sessionId evictNow insertNow reply => exact ⟨binds.1, binds.2.2.1⟩
  | verified stateToken sessionId now reply => cases binds
  | revoked stateToken reply => cases binds

section Events

variable {lib config} {event : ServerEvent}

theorem ServerEvent.Sound.binds_iff (sound : event.Sound lib config) (ttl : Duration)
    (key text : String) (expires : DateTime) :
    (∃ call, event.calledEvent = some call ∧ call.Binds ttl key text expires) ↔
      Issues config ttl key text expires event := by
  cases event with
  | gate event => simp [ServerEvent.calledEvent, Issues]
  | webauthn turn called =>
    rcases sound with ⟨c, reply, _, rfl, issues⟩ | ⟨none, unsettled⟩
    · simp only [ServerEvent.calledEvent, Issues, issues, Option.some.injEq, exists_eq_left',
        StoreEvent.Binds]
      constructor
      · rintro ⟨sameKey, sameText, taken, sum⟩
        exact ⟨c, ⟨rfl, taken⟩, sameKey, sameText, sum⟩
      · rintro ⟨_, ⟨rfl, taken⟩, sameKey, sameText, sum⟩
        exact ⟨sameKey, sameText, taken, sum⟩
    · simp only [ServerEvent.calledEvent, Issues, none, reduceCtorEq, false_and, exists_false,
        iff_false]
      rintro ⟨call, called, binds⟩
      exact unsettled call called key (settles_of_binds binds)

theorem ServerEvent.Sound.settles_iff (sound : event.Sound lib config) (key : String) :
    (∃ call, event.calledEvent = some call ∧ call.Settles key) ↔ Reissues config key event := by
  cases event with
  | gate event => simp [ServerEvent.calledEvent, Reissues]
  | webauthn turn called =>
    rcases sound with ⟨c, reply, _, rfl, issues⟩ | ⟨none, unsettled⟩
    · simp only [ServerEvent.calledEvent, Reissues, Rebinds, issues, Option.some.injEq,
        exists_eq_left', StoreEvent.Settles]
      constructor
      · rintro ⟨sameKey, taken⟩
        exact ⟨c, ⟨rfl, taken⟩, sameKey⟩
      · rintro ⟨_, ⟨rfl, taken⟩, sameKey⟩
        exact ⟨sameKey, taken⟩
    · simp only [ServerEvent.calledEvent, Reissues, Rebinds, none, reduceCtorEq, false_and,
        exists_false, iff_false]
      rintro ⟨call, called, settles⟩
      exact unsettled call called key settles

theorem ServerEvent.Sound.own (sound : event.Sound lib config) (call : StoreEvent)
    (own : event.ownEvent = some call) (token : String) (settles : call.Settles token) :
    ¬ Reserved token := by
  cases event with
  | gate event => exact sound call own token settles
  | webauthn turn called => cases own

theorem ServerEvent.Sound.called (sound : event.Sound lib config) (call : StoreEvent)
    (called : event.calledEvent = some call) (token : String) (settles : call.Settles token) :
    Reserved token := by
  have reissues := (sound.settles_iff token).mp ⟨call, called, settles⟩
  cases event with
  | gate event => cases reissues
  | webauthn turn _ =>
    obtain ⟨c, _, rfl⟩ := reissues
    exact reserved_keyOf config c

end Events

/-! ### Steps -/

section Sections

variable (turn : InMemoryTurn) (v v' : WebAuthnVerifier InMemorySessionStore)
  (advanced : (inMemoryVerifier lib config).advance turn.args turn.point turn.input v =
    (v', turn.outcome))

include advanced

/-- A section does to the session store what its call does, if it makes one. -/
theorem section_store :
    InMemorySessionStore.machine.exec v.sessionStore (sectionOp lib config turn).toList =
      (v'.sessionStore, (sectionCall lib config v.sessionStore turn).toList) := by
  obtain ⟨id, args, point, supply, outcome⟩ := turn
  dsimp only at advanced
  cases point with
  | bindChallenge userId operation =>
    cases advanced
    rfl
  | consumeCreate r =>
    cases advanced
    rfl
  | consumeGet a =>
    cases advanced
    rfl
  | checkUnique r =>
    cases advanced
    rfl
  | insert r =>
    cases advanced
    rfl
  | raise a =>
    cases advanced
    rfl

/-- A challenge is issued iff the store takes it. -/
theorem issued_iff (userId operation : String)
    (point : turn.point = .bindChallenge userId operation) (c : Challenge) :
    issued turn = some c ↔
      c = ⟨operation, userId, lib.encode turn.input.bytes.toList⟩ ∧
        (v.sessionStore.bindState (config.challengeKey operation userId)
          (lib.encode turn.input.bytes.toList) turn.input.env.evictNow
          turn.input.env.insertNow).2 = .ok () := by
  obtain ⟨id, args, _, supply, outcome⟩ := turn
  cases point
  dsimp only at advanced
  cases advanced
  simp only [issued, WebAuthnVerifier.generateChallenge, ChallengeStore.ofPort,
    InMemorySessionStore.port]
  cases (v.sessionStore.bindState (config.challengeKey operation userId)
    (lib.encode supply.bytes.toList) supply.env.evictNow supply.env.insertNow).2 with
  | ok done => simp [Outcome.mapErr, Outcome.map, eq_comm]
  | err error => simp [Outcome.mapErr, Outcome.map]
  | panicked => simp [Outcome.mapErr, Outcome.map]

theorem section_sound :
    ServerEvent.Sound lib config
      (.webauthn turn (sectionCall lib config v.sessionStore turn)) := by
  cases point : turn.point with
  | bindChallenge userId operation =>
    refine Or.inl ⟨⟨operation, userId, lib.encode turn.input.bytes.toList⟩, _, rfl, ?_,
      issued_iff lib config turn v v' advanced userId operation point⟩
    simp [sectionCall, sectionOp, point, InMemorySessionStore.perform, WebAuthnConfig.keyOf]
  -- the other sections settle nothing
  | consumeCreate r =>
    refine Or.inr ⟨by simp [issued, point], ?_⟩
    simp [sectionCall, sectionOp, point, InMemorySessionStore.perform, StoreEvent.Settles]
  | consumeGet a =>
    refine Or.inr ⟨by simp [issued, point], ?_⟩
    simp [sectionCall, sectionOp, point, InMemorySessionStore.perform, StoreEvent.Settles]
  | checkUnique r => exact Or.inr ⟨by simp [issued, point], by simp [sectionCall, sectionOp, point]⟩
  | insert r => exact Or.inr ⟨by simp [issued, point], by simp [sectionCall, sectionOp, point]⟩
  | raise a => exact Or.inr ⟨by simp [issued, point], by simp [sectionCall, sectionOp, point]⟩

end Sections

/-- Whatever the server does to its store is a run of the store. -/
theorem server_drives_store : (server lib config).Drives InMemorySessionStore.machine
    (fun state => state.shared.sessionStore) ServerEvent.storeEvent := by
  intro state op
  cases op with
  | gate op =>
    refine ⟨op.storeOps, ?_⟩
    simp only [server, serverStep, List.filterMap_map]
    exact Prod.ext (gate_simulates.state _ op).symm (gate_simulates.events _ op).symm
  | webauthn action =>
    simp only [server, serverStep]
    rcases (inMemoryVerifier lib config).step_cases state action with same |
      ⟨id, args, _, _, result⟩ |
      ⟨id, args, point, supply, shared, outcome, rfl, _, advanced, result⟩
    · rw [same]
      exact ⟨[], rfl⟩
    · rw [result]
      exact ⟨[], rfl⟩
    · rw [result, List.map_singleton, ServerEvent.filterMap_webauthn]
      exact ⟨_, section_store lib config ⟨id, args, point, supply, outcome⟩ state.shared shared
        advanced⟩

section Runs

variable {lib config} {ttl : Duration} {maxEntries : Nat} {store : InMemorySessionStore}
  {history : List ServerEvent}

theorem settles_of_perform (store : InMemorySessionStore) (op : StoreOp) :
    ∀ call ∈ (store.perform op).2, ∀ token, call.Settles token →
      op.writes = true ∧ op.token = token := by
  intro call member token settles
  cases op with
  | bind stateToken session evictNow insertNow =>
    cases List.mem_singleton.mp member
    exact ⟨rfl, settles.1⟩
  | verify stateToken session now =>
    cases List.mem_singleton.mp member
    cases settles
  | revoke stateToken =>
    cases List.mem_singleton.mp member
    exact ⟨rfl, settles.1⟩

theorem gateStep_settles (store : InMemorySessionStore) (op : GateOp)
    (apart : ServerOp.Apart (.gate op)) :
    ∀ call ∈ storeHistory (gateStep store op).2, ∀ token, call.Settles token →
      ¬ Reserved token := by
  intro call member token settles
  have events : storeHistory (gateStep store op).2 = _ := gate_simulates.events store op
  rw [events] at member
  cases op with
  | store op =>
    simp only [GateOp.storeOps, Machine.exec, List.append_nil] at member
    obtain ⟨writes, rfl⟩ := settles_of_perform _ op call member token settles
    exact apart writes
  | callback request env =>
    -- a callback settles nothing
    simp only [GateOp.storeOps] at member
    split at member
    next token' session _ _ =>
      simp only [Machine.exec, List.append_nil] at member
      have writes := (settles_of_perform _ _ call member token settles).1
      cases writes
    next => cases member

/-- Every event of a step is sound. -/
theorem serverStep_sound (state : ServerState) (op : ServerOp) (apart : op.Apart) :
    ∀ event ∈ (serverStep lib config state op).2, event.Sound lib config := by
  cases op with
  | gate op =>
    intro event member
    obtain ⟨seen, inside, rfl⟩ := List.mem_map.mp member
    intro call called
    exact gateStep_settles _ op apart call (List.mem_filterMap.mpr ⟨seen, inside, called⟩)
  | webauthn action =>
    simp only [serverStep]
    rcases (inMemoryVerifier lib config).step_cases state action with same |
      ⟨id, args, _, _, result⟩ |
      ⟨id, args, point, supply, shared, outcome, rfl, _, advanced, result⟩
    · simp [same]
    · simp [result]
    · rw [result, List.map_singleton]
      intro event member
      cases List.mem_singleton.mp member
      exact section_sound lib config _ state.shared shared advanced

/-- What holds of a server after the events of `history`. -/
structure Serves (lib : Externals) (config : WebAuthnConfig) (ttl : Duration) (maxEntries : Nat)
    (store : InMemorySessionStore) (history : List ServerEvent) : Prop where
  poisoned_iff : store.poisoned = true ↔
    ∃ call ∈ history.filterMap ServerEvent.storeEvent, call.Panicked
  tracks : store.poisoned = false →
    Tracks ttl maxEntries store (history.filterMap ServerEvent.storeEvent)
  sound : ∀ event ∈ history, event.Sound lib config

/-- After every run in which the server leaves reserved tokens alone. -/
theorem exec_serves (ops : List ServerOp) (apart : ∀ op ∈ ops, op.Apart) :
    Serves lib config ttl maxEntries
      ((server lib config).exec (.started ttl maxEntries) ops).1.shared.sessionStore
      ((server lib config).exec (.started ttl maxEntries) ops).2 := by
  obtain ⟨calls, run⟩ := (server_drives_store lib config).exec_eq _ _
    (ServerState.started ttl maxEntries) ops
  have poisoned := InMemorySessionStore.exec_poisoned_iff (.withCapacity ttl maxEntries) rfl calls
  have tracks := @exec_tracks_of_healthy ttl maxEntries calls
  change InMemorySessionStore.machine.exec (.withCapacity ttl maxEntries) calls = _ at run
  rw [run] at poisoned tracks
  refine ⟨poisoned, tracks, ?_⟩
  refine (server lib config).invariant_of_meets (fun _ op => op.Apart)
    (fun _ history => ∀ event ∈ history, event.Sound lib config) _ (by simp) ?_ ops
    (((server lib config).meets_inputs _ _ ops).mpr apart)
  intro state history op own sound event member
  rcases List.mem_append.mp member with earlier | new
  · exact sound event earlier
  · exact serverStep_sound state op own event new

/-! ### What the store holds -/

section Unexpired

variable (token session : String) (expires : DateTime)
  (unexpired : ∀ event ∈ history, ∀ call, event.storeEvent = some call →
    ∀ read, call.evictsAt = some read → read < expires)

include unexpired

/-- What the verifier's calls have bound is what was issued last. -/
theorem Serves.called_bound_iff (serves : Serves lib config ttl maxEntries store history) :
    BoundSince ttl token session expires (history.filterMap ServerEvent.calledEvent) ↔
      LastIssued config ttl token session expires history := by
  rw [BoundSince, Since.filterMap_iff]
  apply Since.congr
  · intro event member
    exact (serves.sound event member).binds_iff ttl token session expires
  · intro event member
    rw [← (serves.sound event member).settles_iff]
    constructor
    · rintro spares ⟨call, called, settles⟩
      exact (spares call called).1 settles
    · intro unsettled call called
      refine ⟨fun settles => unsettled ⟨call, called, settles⟩, ?_⟩
      exact unexpired event member call ((event.storeEvent_eq_some_iff call).mpr (Or.inr called))

/-- A token is bound by the server itself, or as the key of a challenge. -/
theorem Serves.bound_iff (serves : Serves lib config ttl maxEntries store history) :
    BoundSince ttl token session expires (history.filterMap ServerEvent.storeEvent) ↔
      BoundSince ttl token session expires (history.filterMap ServerEvent.ownEvent) ∨
        LastIssued config ttl token session expires history := by
  rw [← serves.called_bound_iff token session expires unexpired]
  have idle : ∀ event ∈ history, ∀ call, event.storeEvent = some call → ¬ call.Settles token →
      ¬ call.Binds ttl token session expires ∧ call.Spares token expires := by
    intro event member call stored unsettled
    exact ⟨fun binds => unsettled (settles_of_binds binds), unsettled,
      unexpired event member call stored⟩
  by_cases reserved : Reserved token
  · -- the server's own calls have nothing to do with the token
    have foreign : ∀ event ∈ history, ∀ call, event.ownEvent = some call →
        ¬ call.Settles token := by
      intro event member call own settles
      exact (serves.sound event member).own call own token settles reserved
    rw [or_iff_right]
    · apply Since.filterMap_more
      intro event member
      cases event with
      | gate event =>
        exact Or.inr ⟨rfl, fun call own => idle _ member call own (foreign _ member call own)⟩
      | webauthn turn called => exact Or.inl rfl
    · intro bound
      obtain ⟨call, inside, binds⟩ := Since.exists_anchor bound
      obtain ⟨event, member, own⟩ := List.mem_filterMap.mp inside
      exact foreign event member call own (settles_of_binds binds)
  · -- the verifier's calls have nothing to do with the token
    have foreign : ∀ event ∈ history, ∀ call, event.calledEvent = some call →
        ¬ call.Settles token := by
      intro event member call called settles
      exact reserved ((serves.sound event member).called call called token settles)
    rw [or_iff_left]
    · apply Since.filterMap_more
      intro event member
      cases event with
      | gate event => exact Or.inl rfl
      | webauthn turn called =>
        exact Or.inr ⟨rfl, fun call made => idle _ member call made (foreign _ member call made)⟩
    · intro bound
      obtain ⟨call, inside, binds⟩ := Since.exists_anchor bound
      obtain ⟨event, member, called⟩ := List.mem_filterMap.mp inside
      exact foreign event member call called (settles_of_binds binds)

end Unexpired

theorem symbol_cookieText : ∀ value < 64, VisibleAscii (Base64.symbol Base64.urlSafe value) ∧
    Base64.symbol Base64.urlSafe value ≠ ';' ∧
    Text.isWhitespace (Base64.symbol Base64.urlSafe value) = false := by
  decide

/-- A challenge can stand in a cookie. -/
theorem Serves.cookieText (serves : Serves lib config ttl maxEntries store history)
    (rfc : ∀ data, (lib.encode data).toList = Base64.encode Base64.urlSafe data)
    (key text : String) (expires : DateTime)
    (last : LastIssued config ttl key text expires history) : CookieText text := by
  obtain ⟨event, member, issues⟩ := Since.exists_anchor last
  have symbols : ∀ c ∈ text.toList, ∃ value < 64, c = Base64.symbol Base64.urlSafe value := by
    have sound := serves.sound event member
    cases event with
    | gate event => cases issues
    | webauthn turn called =>
      obtain ⟨c, new, _, rfl, _⟩ := issues
      rcases sound with ⟨c', reply, drawn, _, issued_iff⟩ | ⟨none, _⟩
      · obtain ⟨rfl, _⟩ := (issued_iff c).mp new
        rw [drawn, rfc]
        exact Base64.symbol_of_mem_encode Base64.urlSafe _
      · rw [none] at new
        cases new
  refine ⟨?_, ?_, Text.trim_of_visible _ ?_⟩
  · intro c member
    obtain ⟨value, small, rfl⟩ := symbols c member
    exact (symbol_cookieText value small).1
  · intro member
    obtain ⟨value, small, same⟩ := symbols _ member
    exact (symbol_cookieText value small).2.1 same.symm
  · intro c member
    obtain ⟨value, small, rfl⟩ := symbols c member
    exact (symbol_cookieText value small).2.2

/-- While no clock reading of the run is past the callback's own. -/
theorem Serves.callback_iff (serves : Serves lib config ttl maxEntries store history)
    (request : Request) (env : InMemorySessionStore.Readings)
    (later : ∀ call ∈ history.filterMap ServerEvent.storeEvent, ∀ read ∈ call.evictsAt,
      read ≤ env.evictNow) :
    (∃ audit, (enforcePkceStateSession InMemorySessionStore.port env request store).2 =
        .ok ⟨audit, .runNext request⟩) ↔
      (¬ ∃ call ∈ history.filterMap ServerEvent.storeEvent, call.Panicked) ∧
        ∃ token session expires, extractStateToken request = some token ∧
          extractSessionId request = some session ∧ env.evictNow < expires ∧
          (BoundSince ttl token session expires (history.filterMap ServerEvent.ownEvent) ∨
            LastIssued config ttl token session expires history) := by
  have verified (token session : String) :
      (InMemorySessionStore.port.verifyState env token session store).2 = .ok true ↔
        (¬ ∃ call ∈ history.filterMap ServerEvent.storeEvent, call.Panicked) ∧
          ∃ expires, env.evictNow < expires ∧
            (BoundSince ttl token session expires (history.filterMap ServerEvent.ownEvent) ∨
              LastIssued config ttl token session expires history) := by
    change (store.verifyState token session env.evictNow).2 = .ok true ↔ _
    rw [InMemorySessionStore.verifyState_accepts_iff, ← serves.poisoned_iff, Bool.not_eq_true]
    refine and_congr_right fun healthy => exists_congr fun expires => ?_
    rw [InMemorySessionStore.Live, and_comm]
    refine and_congr_right fun unexpired => ?_
    rw [(serves.tracks healthy).lookup_iff]
    apply serves.bound_iff
    intro event member call stored read evicts
    have past := later call (List.mem_filterMap.mpr ⟨event, member, stored⟩) read evicts
    exact DateTime.lt_of_le_of_lt past unexpired
  rw [enforce_runs_iff]
  simp only [verified]
  constructor
  · rintro ⟨token, session, state, cookie, returns, expires, unexpired, bound⟩
    exact ⟨returns, token, session, expires, state, cookie, unexpired, bound⟩
  · rintro ⟨returns, token, session, expires, state, cookie, unexpired, bound⟩
    exact ⟨token, session, state, cookie, returns, expires, unexpired, bound⟩

end Runs

end Steps

section Server

variable (lib : Externals) (config : WebAuthnConfig) (ttl : Duration) (maxEntries : Nat)
  (ops : List ServerOp) (apart : ∀ op ∈ ops, op.Apart) (env : InMemorySessionStore.Readings)

include apart

/-- The gate of a server that also has a verifier on its store, in every interleaving of the
server's store calls, the callbacks and the sections of the verifier's calls, with any ttl. If no
reading of the run is past the callback's own, and the server itself leaves tokens that begin with
`webauthn:` alone, a callback reaches the handler iff no binding has panicked, and either the server
has bound its state to its session, or the session id is the challenge last issued under the state,
used or not. -/
theorem shared_store_callback_iff (request : Request) :
    let run := (server lib config).exec (.started ttl maxEntries) ops
    (∀ call ∈ run.2.filterMap ServerEvent.storeEvent, ∀ read ∈ call.evictsAt,
      read ≤ env.evictNow) →
    ((∃ audit, (enforcePkceStateSession InMemorySessionStore.port env request
        run.1.shared.sessionStore).2 = .ok ⟨audit, .runNext request⟩) ↔
      (¬ ∃ call ∈ run.2.filterMap ServerEvent.storeEvent, call.Panicked) ∧
        ∃ token session expires, extractStateToken request = some token ∧
          extractSessionId request = some session ∧ env.evictNow < expires ∧
          (BoundSince ttl token session expires (run.2.filterMap ServerEvent.ownEvent) ∨
            LastIssued config ttl token session expires run.2)) := by
  intro run later
  exact (exec_serves ops apart).callback_iff request env later

/-- Until another challenge is issued for its user and operation or it expires, a challenge opens
the gate to some callback iff no binding has panicked and its key has at most 1024 bytes. -/
theorem challenge_opens_gate_iff
    (rfc : ∀ data, (lib.encode data).toList = Base64.encode Base64.urlSafe data) (c : Challenge)
    (expires : DateTime) (unexpired : env.evictNow < expires) :
    let run := (server lib config).exec (.started ttl maxEntries) ops
    (∀ call ∈ run.2.filterMap ServerEvent.storeEvent, ∀ read ∈ call.evictsAt,
      read ≤ env.evictNow) →
    LastIssued config ttl (config.keyOf c) c.text expires run.2 →
    ((∃ request audit, extractStateToken request = some (config.keyOf c) ∧
      (enforcePkceStateSession InMemorySessionStore.port env request
        run.1.shared.sessionStore).2 = .ok ⟨audit, .runNext request⟩) ↔
      (¬ ∃ call ∈ run.2.filterMap ServerEvent.storeEvent, call.Panicked) ∧
        (config.keyOf c).utf8ByteSize ≤ STATE_MAX_LEN) := by
  intro run later last
  have serves : Serves lib config ttl maxEntries run.1.shared.sessionStore run.2 :=
    exec_serves ops apart
  constructor
  · rintro ⟨request, audit, read, runs⟩
    have handled := (serves.callback_iff request env later).mp ⟨audit, runs⟩
    exact ⟨handled.1, utf8ByteSize_of_extractStateToken request _ read⟩
  · rintro ⟨returns, short⟩
    have read : extractStateToken (callbackOf (config.keyOf c) c.text) = some (config.keyOf c) := by
      rw [extractStateToken_callbackOf, if_pos short]
    obtain ⟨audit, runs⟩ := (serves.callback_iff (callbackOf (config.keyOf c) c.text) env later).mpr
      ⟨returns, _, _, expires, read,
        extractSessionId_callbackOf _ _ (serves.cookieText rfc _ _ _ last), unexpired, Or.inr last⟩
    exact ⟨_, audit, read, runs⟩

end Server

/-! ### A challenge that has been used -/

/-- The server binds a state, and `alice` is issued a challenge and registers with it. -/
def sharedOps : List ServerOp :=
  .gate (.store (.bind "a" "s" sampleReadings.evictNow sampleReadings.insertNow)) ::
    honestRegistration.map .webauthn

def sharedTtl : Duration := InMemorySessionStore.new.ttl

def sharedRun : ServerState × List ServerEvent :=
  (server rfcExternals sampleConfig).exec (.started sharedTtl DEFAULT_MAX_ENTRIES) sharedOps

def usedChallenge : Challenge := ⟨"create", "alice", zeroChallenge⟩

private theorem usedChallenge_lastIssued :
    LastIssued sampleConfig sharedTtl (sampleConfig.keyOf usedChallenge) usedChallenge.text
      (.ofSeconds 900) sharedRun.2 :=
  Since.of_getElem 1 (by decide +kernel) (by decide +kernel) (by decide +kernel)

private theorem sharedRun_returns :
    ¬ ∃ call ∈ sharedRun.2.filterMap ServerEvent.storeEvent, call.Panicked := by
  decide +kernel

theorem used_challenge_handled :
    usedChallenge ∈ sharedRun.2.filterMap ServerEvent.accepted ∧
    ∃ audit, (enforcePkceStateSession InMemorySessionStore.port ⟨.ofSeconds 1, .ofSeconds 1⟩
      (callbackOf (sampleConfig.keyOf usedChallenge) usedChallenge.text)
      sharedRun.1.shared.sessionStore).2 = .ok ⟨audit,
        .runNext (callbackOf (sampleConfig.keyOf usedChallenge) usedChallenge.text)⟩ := by
  refine ⟨by decide +kernel, ?_⟩
  have handled := shared_store_callback_iff rfcExternals sampleConfig sharedTtl DEFAULT_MAX_ENTRIES
    sharedOps (by decide) ⟨.ofSeconds 1, .ofSeconds 1⟩
    (callbackOf (sampleConfig.keyOf usedChallenge) usedChallenge.text) (by decide +kernel)
  unfold sharedRun
  rw [handled]
  refine ⟨sharedRun_returns, sampleConfig.keyOf usedChallenge, usedChallenge.text, .ofSeconds 900,
    ?_, ?_, by decide, Or.inr usedChallenge_lastIssued⟩
  · rw [extractStateToken_callbackOf, if_pos (by decide)]
  · exact extractSessionId_callbackOf _ _ (by decide)

theorem used_challenge_opens_gate :
    ∃ request audit, extractStateToken request = some (sampleConfig.keyOf usedChallenge) ∧
      (enforcePkceStateSession InMemorySessionStore.port ⟨.ofSeconds 1, .ofSeconds 1⟩ request
        sharedRun.1.shared.sessionStore).2 = .ok ⟨audit, .runNext request⟩ := by
  have opens := challenge_opens_gate_iff rfcExternals sampleConfig sharedTtl DEFAULT_MAX_ENTRIES
    sharedOps (by decide) ⟨.ofSeconds 1, .ofSeconds 1⟩
    (fun data => by simp [rfcExternals]) usedChallenge (.ofSeconds 900) (by decide)
    (by decide +kernel) usedChallenge_lastIssued
  unfold sharedRun
  rw [opens]
  exact ⟨sharedRun_returns, by decide⟩

end AuthKit.Server
