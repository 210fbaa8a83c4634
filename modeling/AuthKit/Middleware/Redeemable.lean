import AuthKit.Middleware.Cookies
import AuthKit.Middleware.GateRuns
import AuthKit.Middleware.StateSpelling

/-!
# Which bindings a callback can redeem

The store binds any token to any session id. A callback can carry any token of at most 1024 bytes,
but only those session ids that can stand in a cookie; all other bindings are dead from the start.
-/
namespace AuthKit.Middleware

open Execution AuthKit.Domain

/-- The session id can stand in a cookie. -/
def CookieText (session : String) : Prop :=
  (∀ c ∈ session.toList, VisibleAscii c) ∧ ';' ∉ session.toList ∧
    Text.trim session.toList = session.toList

instance (session : String) : Decidable (CookieText session) := inferInstanceAs (Decidable (_ ∧ _))

/-- A query that carries the token, in the crate's own encoding. -/
def stateQueryOf (token : String) : String :=
  .ofList (stateQuery [] (Totp.urlencoding token).toList [])

def sessionField (session : String) : String × List UInt8 :=
  ("cookie", Text.utf8 ("sid=".toList ++ session.toList))

/-- A callback that carries both. -/
def callbackOf (token session : String) : Request :=
  ⟨some (stateQueryOf token), [sessionField session]⟩

/-! ### Tokens -/

theorem extractStateToken_callbackOf (token session : String) :
    extractStateToken (callbackOf token session) =
      if token.utf8ByteSize ≤ STATE_MAX_LEN then some token else none := by
  have spelled := Totp.urlencoding_spells token
  apply extractStateToken_of_raw _ (stateQueryOf token) (Totp.urlencoding token).toList token rfl
  · rw [stateQueryOf, String.toList_ofList]
    exact queryParam_stateQuery [] _ [] (by simp) (spelled.notMem '&' (by decide) (by decide))
      (Or.inl rfl)
  · exact spelled.percentDecode

theorem utf8ByteSize_of_extractStateToken (request : Request) (token : String)
    (read : extractStateToken request = some token) : token.utf8ByteSize ≤ STATE_MAX_LEN := by
  unfold extractStateToken at read
  split at read
  next => cases read
  next =>
    split at read
    next => cases read
    next decoded _ =>
      split at read
      next => cases read
      next small =>
        cases read
        omega

/-! ### Session ids -/

/-- A cookie of the lowest alias alone is read as its value. -/
theorem extractSessionId_callbackOf (token session : String) (text : CookieText session) :
    extractSessionId (callbackOf token session) = some session := by
  obtain ⟨visible, closed, trimmed⟩ := text
  have visible' : ∀ c ∈ "sid=".toList ++ session.toList, VisibleAscii c := by
    intro c member
    rcases List.mem_append.mp member with name | value
    · exact (by decide : ∀ c ∈ "sid=".toList, VisibleAscii c) c name
    · exact visible c value
  have wellFormed : (CookieSegment.pair "sid".toList session.toList).WellFormed :=
    ⟨by decide, by decide, closed, by decide, trimmed⟩
  have blank : Blank [] := by decide
  have spelled : (CookieSegment.pair "sid".toList session.toList).Spells
      ("sid=".toList ++ session.toList) := by
    simpa using CookieSegment.Spells.pair "sid".toList session.toList [] [] [] [] blank blank blank
      blank
  -- the name is found under its own alias only
  have found (key : List Char) : cookieValue ("sid=".toList ++ session.toList) key =
      if "sid".toList = key then some session.toList else none := by
    have one := cookieValue_spelled key [.pair "sid".toList session.toList]
      ["sid=".toList ++ session.toList] (by simpa using wellFormed) (.cons spelled .nil)
    rw [show [';'].intercalate ["sid=".toList ++ session.toList] = "sid=".toList ++ session.toList by
      simp [List.intercalate], List.findSome?_singleton] at one
    exact one
  have field : (callbackOf token session).cookieField =
      some (Text.utf8 ("sid=".toList ++ session.toList)) := rfl
  rw [extractSessionId_eq, field, Option.bind_some, headerText_utf8 _ visible', Option.bind_some,
    sessionCookie]
  simp only [cookieAliases, List.findSome?_cons, found]
  simp

theorem cookieValue_text (header key value : List Char) (found : cookieValue header key = some value) :
    (∀ c ∈ value, c ∈ header) ∧ ';' ∉ value ∧ Text.trim value = value := by
  obtain ⟨piece, member, read⟩ := List.exists_of_findSome?_eq_some found
  obtain ⟨plain, sub⟩ := Text.mem_splitOn ';' header piece member
  unfold cookiePair at read
  split at read
  next => cases read
  next name raw split =>
    split at read
    next =>
      cases read
      obtain ⟨pair, _⟩ := (Text.splitOnce_eq_some_iff _ _ _ _).mp split
      -- what is left of the value was in the piece
      have inside : ∀ c ∈ Text.trim raw, c ∈ piece := by
        intro c member
        apply Text.mem_of_mem_trim
        rw [pair]
        simp [Text.mem_of_mem_trim member]
      exact ⟨fun c member => sub c (inside c member), fun semicolon => plain (inside _ semicolon),
        Text.trim_trim raw⟩
    next => cases read

theorem visibleAscii_of_headerText (bytes : List UInt8) (text : List Char)
    (read : headerText bytes = some text) : ∀ c ∈ text, VisibleAscii c := by
  unfold headerText at read
  split at read
  next passes =>
    cases read
    intro c member
    obtain ⟨b, inside, rfl⟩ := List.mem_map.mp member
    have byte := List.all_eq_true.mp passes b inside
    have code : (Char.ofUInt8 b).toNat = b.toNat := UInt8.toNat_toUInt32 b
    rw [VisibleAscii, code]
    simp only [Bool.or_eq_true, Bool.and_eq_true, decide_eq_true_eq, beq_iff_eq] at byte
    rcases byte with ⟨low, high⟩ | tab
    · exact Or.inl ⟨UInt8.le_iff_toNat_le.mp low, UInt8.lt_iff_toNat_lt.mp high⟩
    · exact Or.inr (congrArg UInt8.toNat tab)
  next => cases read

theorem cookieText_of_extractSessionId (request : Request) (session : String)
    (read : extractSessionId request = some session) : CookieText session := by
  rw [extractSessionId_eq] at read
  obtain ⟨value, found, rfl⟩ := Option.map_eq_some_iff.mp read
  obtain ⟨header, text, cookie⟩ := Option.bind_eq_some_iff.mp found
  obtain ⟨bytes, _, decoded⟩ := Option.bind_eq_some_iff.mp text
  obtain ⟨key, _, named⟩ := List.exists_of_findSome?_eq_some cookie
  obtain ⟨inside, plain, trimmed⟩ := cookieValue_text header key value named
  rw [CookieText, String.toList_ofList]
  exact ⟨fun c member => visibleAscii_of_headerText bytes header decoded c (inside c member), plain,
    trimmed⟩

/-! ### Bindings -/

/-- While a binding is live, there is a callback that redeems it iff no binding of the run has
panicked, its token has at most 1024 bytes, and its session id can stand in a cookie: visible ASCII
without semicolons and without blanks around it. -/
theorem binding_redeemable_iff (ttl : Duration) (maxEntries : Nat) (ops : List GateOp)
    (env : InMemorySessionStore.Readings) (token session : String) (expires : DateTime)
    (bound : BoundSince ttl token session expires
      (storeHistory (gate.exec (.withCapacity ttl maxEntries) ops).2))
    (unexpired : env.evictNow < expires) :
    (∃ request audit, extractStateToken request = some token ∧
      (enforcePkceStateSession InMemorySessionStore.port env request
        (gate.exec (.withCapacity ttl maxEntries) ops).1).2 = .ok ⟨audit, .runNext request⟩) ↔
      (¬ ∃ event ∈ storeHistory (gate.exec (.withCapacity ttl maxEntries) ops).2,
          event.Panicked) ∧
        token.utf8ByteSize ≤ STATE_MAX_LEN ∧ CookieText session := by
  -- the store answers `Ok(true)` to this session and to no other, unless it is lost
  have answers (other : String) : (InMemorySessionStore.port.verifyState env token other
      (gate.exec (.withCapacity ttl maxEntries) ops).1).2 = .ok true ↔
        (¬ ∃ event ∈ storeHistory (gate.exec (.withCapacity ttl maxEntries) ops).2,
          event.Panicked) ∧ other = session := by
    change (InMemorySessionStore.verifyState _ token other env.evictNow).2 = .ok true ↔ _
    rw [InMemorySessionStore.verifyState_accepts_iff, ← gate_poisoned_iff, Bool.not_eq_true]
    refine and_congr_right fun healthy => ?_
    have tracks := gate_tracks_of_healthy ttl maxEntries ops healthy
    have live := (tracks.lookup_iff token session expires).mpr bound
    simp only [InMemorySessionStore.Live, live, Option.some.injEq, Entry.mk.injEq]
    constructor
    · rintro ⟨_, ⟨same, _⟩, _⟩
      exact same.symm
    · rintro rfl
      exact ⟨expires, ⟨rfl, rfl⟩, unexpired⟩
  constructor
  · rintro ⟨request, audit, read, runs⟩
    obtain ⟨token', other, read', cookie, accepted⟩ :=
      (enforce_runs_iff InMemorySessionStore.port env request _).mp ⟨audit, runs⟩
    cases read.symm.trans read'
    obtain ⟨returns, rfl⟩ := (answers other).mp accepted
    exact ⟨returns, utf8ByteSize_of_extractStateToken request token read,
      cookieText_of_extractSessionId request other cookie⟩
  · rintro ⟨returns, short, text⟩
    have read : extractStateToken (callbackOf token session) = some token := by
      rw [extractStateToken_callbackOf, if_pos short]
    obtain ⟨audit, runs⟩ := (enforce_runs_iff InMemorySessionStore.port env
      (callbackOf token session) (gate.exec (.withCapacity ttl maxEntries) ops).1).mpr
        ⟨token, session, read, extractSessionId_callbackOf token session text,
          (answers session).mpr ⟨returns, rfl⟩⟩
    exact ⟨callbackOf token session, audit, read, runs⟩

/-- A session id with a space behind it is bound, and no callback can redeem it. -/
theorem spaced_session_unredeemable :
    ¬ ∃ request audit, extractStateToken request = some "a" ∧
      (enforcePkceStateSession InMemorySessionStore.port ⟨.ofSeconds 1, .ofSeconds 1⟩ request
        (gate.exec (.withCapacity (.minutes 15) 1)
          [.store (.bind "a" "s " (.ofSeconds 0) (.ofSeconds 0))]).1).2 =
        .ok ⟨audit, .runNext request⟩ := by
  rw [binding_redeemable_iff (.minutes 15) 1
    [.store (.bind "a" "s " (.ofSeconds 0) (.ofSeconds 0))] ⟨.ofSeconds 1, .ofSeconds 1⟩ "a" "s "
    (.ofSeconds 900) ⟨[], _, [], rfl, ⟨rfl, rfl, by decide, by decide⟩, by simp⟩ (by decide)]
  rintro ⟨_, _, text⟩
  exact absurd text (by decide)

end AuthKit.Middleware
