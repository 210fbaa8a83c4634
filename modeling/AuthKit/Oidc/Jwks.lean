import AuthKit.Library.FiniteMap
import AuthKit.Library.Procedure

/-!
# JWKS discovery

The client's one cached key set and `jwks`, first as one function and then cut at its atomic
sections: the check under the cache lock, the request with the building of the snapshot, and
the store under the cache lock. The lock is never poisoned, since nothing under it panics.
-/
namespace AuthKit.Oidc

open Execution

/-- `std::time::Instant`, in nanoseconds from an arbitrary origin. -/
structure Instant where
  nanos : Nat
  deriving DecidableEq

/-- `std::time::Duration`, which has no sign. -/
structure Duration where
  nanos : Nat
  deriving DecidableEq

def Duration.fromSecs (secs : Nat) : Duration := ⟨secs * 1000000000⟩

instance : LT Duration := ⟨fun a b => a.nanos < b.nanos⟩

instance (a b : Duration) : Decidable (a < b) := inferInstanceAs (Decidable (a.nanos < b.nanos))

/-- `Instant::elapsed` at the clock reading `now`. It saturates at zero. -/
def Instant.elapsed (earlier now : Instant) : Duration := ⟨now.nanos - earlier.nanos⟩

structure Jwk where
  kty : String
  use : Option String
  kid : Option String
  alg : Option String
  n : Option String
  e : Option String
  crv : Option String
  x : Option String
  y : Option String
  k : Option String
  x5c : List String
  deriving DecidableEq

structure JwksDoc where
  keys : List Jwk

structure CachedJwks where
  fetchedAt : Instant
  byKid : AList fun _ : String => Jwk

namespace CachedJwks

-- the instance of `AList` is a transported one and does not evaluate
instance : DecidableEq CachedJwks := fun a b =>
  decidable_of_iff (a.fetchedAt = b.fetchedAt ∧ a.byKid.entries = b.byKid.entries) (by
    rw [← AList.ext_iff]
    cases a
    cases b
    simp)

def lookup (cached : CachedJwks) (kid : String) : Option Jwk := cached.byKid.lookup kid

def isFresh (cached : CachedJwks) (ttl : Duration) (now : Instant) : Bool :=
  decide (cached.fetchedAt.elapsed now < ttl)

end CachedJwks

/-- The keys that have a `kid`, collected into a map: a repeated `kid` overwrites. -/
def JwksDoc.byKid (doc : JwksDoc) : AList fun _ : String => Jwk :=
  (doc.keys.filterMap fun key => key.kid.map fun kid => (kid, key)).foldl
    (fun index entry => index.insert entry.1 entry.2) ∅

def JwksDoc.cachedAt (doc : JwksDoc) (now : Instant) : CachedJwks := ⟨now, doc.byKid⟩

private theorem lookup_foldl_insert (entries : List (String × Jwk))
    (index : AList fun _ : String => Jwk) (kid : String) (key : Jwk)
    (found : (entries.foldl (fun index entry => index.insert entry.1 entry.2) index).lookup kid =
      some key) : (kid, key) ∈ entries ∨ index.lookup kid = some key := by
  induction entries generalizing index with
  | nil => exact Or.inr found
  | cons entry rest ih =>
    rcases ih _ found with member | inserted
    -- a later entry overwrote this one, or this one is the last of its `kid`
    · exact Or.inl (List.mem_cons_of_mem _ member)
    · by_cases same : kid = entry.1
      · subst same
        rw [AList.lookup_insert, Option.some.injEq] at inserted
        exact Or.inl (by simp [← inserted])
      · rw [AList.lookup_insert_ne same] at inserted
        exact Or.inr inserted

/-- A snapshot has no keys but those of its document, each under its own `kid`. -/
theorem JwksDoc.lookup_cachedAt (doc : JwksDoc) (now : Instant) (kid : String) (key : Jwk)
    (found : (doc.cachedAt now).lookup kid = some key) : key ∈ doc.keys ∧ key.kid = some kid := by
  rcases lookup_foldl_insert _ _ kid key found with member | empty
  · obtain ⟨key', member', identified⟩ := List.mem_filterMap.mp member
    obtain ⟨kid', own, same⟩ := Option.map_eq_some_iff.mp identified
    cases same
    exact ⟨member', own⟩
  · cases empty

/-! ### The request -/

/-- What `reqwest::Error` tells apart among the failures of a request. -/
inductive ReqwestError where
  | transport
  | status (code : Nat)
  | decode
  deriving DecidableEq

/-- A response, with what reading its body as a document yields. -/
structure Response (Doc : Type) where
  status : Nat
  json : Except ReqwestError Doc

/-- `Response::error_for_status`: client and server errors. -/
def Response.errorForStatus {Doc : Type} (response : Response Doc) :
    Except ReqwestError (Response Doc) :=
  if 400 ≤ response.status ∧ response.status < 600 then .error (.status response.status)
  else .ok response

/-- Parse errors are kept as their texts. -/
inductive DiscoveryError where
  | notEnabled
  | invalidIssuerUrl (text : String)
  | invalidDiscoveryUrl (error : String)
  | http (error : ReqwestError)
  | json (error : String)
  | issuerMismatch (doc req : String)
  deriving DecidableEq

/-- The servers' answers to a `GET` of a URL at a time. -/
abbrev Get (Url Doc : Type) := Url → Instant → Except ReqwestError (Response Doc)

/-- Send, `error_for_status`, `json`, with a question mark behind each of them. -/
def Get.json {Url Doc : Type} (get : Get Url Doc) (url : Url) (served : Instant) :
    Except DiscoveryError Doc :=
  (do (← (← get url served).errorForStatus).json).mapError .http

/-- A response with an error status is a failed request, whatever its body says. -/
theorem Get.json_of_status {Url Doc : Type} (get : Get Url Doc) (url : Url) (served : Instant)
    (response : Response Doc) (answer : get url served = .ok response)
    (client : 400 ≤ response.status) (server : response.status < 600) :
    get.json url served = .error (.http (.status response.status)) := by
  have failed : response.errorForStatus = .error (.status response.status) :=
    if_pos ⟨client, server⟩
  simp only [Get.json, answer, bind, Except.bind, failed, Except.mapError]

abbrev Http := Get String JwksDoc

def Http.jwksDoc (http : Http) (jwksUri : String) (served : Instant) :
    Except DiscoveryError JwksDoc := Get.json http jwksUri served

/-! ### The client -/

/-- What all clones of a client share. -/
structure DiscoveryClient where
  jwksCache : Option CachedJwks
  cacheTtl : Duration

namespace DiscoveryClient

def new : DiscoveryClient := ⟨none, .fromSecs 600⟩

/-- `with_cache_ttl` on a client that is not shared. -/
def withCacheTtl (client : DiscoveryClient) (ttl : Duration) : DiscoveryClient :=
  { client with cacheTtl := ttl }

/-- The fast path. -/
def cacheHit (client : DiscoveryClient) (now : Instant) : Option CachedJwks :=
  match client.jwksCache with
  | some cached => if cached.isFresh client.cacheTtl now then some cached else none
  | none => none

theorem cacheHit_eq_some_iff (client : DiscoveryClient) (now : Instant) (cached : CachedJwks) :
    client.cacheHit now = some cached ↔
      client.jwksCache = some cached ∧ cached.isFresh client.cacheTtl now = true := by
  unfold cacheHit
  cases client.jwksCache with
  | none => simp
  | some held =>
    by_cases fresh : held.isFresh client.cacheTtl now = true
    · simp only [fresh, if_true, Option.some.injEq]
      constructor
      · intro same
        exact ⟨same, same ▸ fresh⟩
      · exact And.left
    · simp only [fresh, Bool.false_eq_true, if_false]
      constructor
      · intro impossible
        cases impossible
      · intro ⟨same, fresh'⟩
        cases same
        exact absurd fresh' fresh

/-- `jwks`, called alone. The cache is checked at `checkedAt`, the server answers at `served`
and the snapshot is built at `builtAt`. -/
def jwks (client : DiscoveryClient) (http : Http) (checkedAt served builtAt : Instant)
    (jwksUri : String) : DiscoveryClient × Except DiscoveryError CachedJwks :=
  match client.cacheHit checkedAt with
  | some cached => (client, .ok cached)
  | none =>
      -- a failed request leaves the cache alone, stale or not
      match http.jwksDoc jwksUri served with
      | .error error => (client, .error error)
      | .ok doc =>
          let cached := doc.cachedAt builtAt
          ({ client with jwksCache := some cached }, .ok cached)

end DiscoveryClient

/-! ### Concurrent calls -/

/-- The section a call of `jwks` executes next. -/
inductive Point where
  | check
  | fetch
  | store (cached : CachedJwks)

/-- What the environment supplies to one section: the clock, and when the server answered. -/
structure Readings where
  now : Instant
  served : Instant

abbrev Turn := Section String Readings Point (Except DiscoveryError CachedJwks)

abbrev JwksAction := Action String Readings

section Sections

variable (http : Http)

def advanceJwks (jwksUri : String) (readings : Readings) (client : DiscoveryClient) :
    Point → DiscoveryClient × (Point ⊕ Except DiscoveryError CachedJwks)
  | .check =>
      (client,
        match client.cacheHit readings.now with
        | some cached => .inr (.ok cached)
        | none => .inl .fetch)
  | .fetch =>
      (client,
        match http.jwksDoc jwksUri readings.served with
        | .ok doc => .inl (.store (doc.cachedAt readings.now))
        | .error error => .inr (.error error))
  | .store cached => ({ client with jwksCache := some cached }, .inr (.ok cached))

def jwksCalls : Procedure DiscoveryClient String Readings Point
    (Except DiscoveryError CachedJwks) where
  start _ := .inl .check
  advance jwksUri point readings client := advanceJwks http jwksUri readings client point

/-- `jwks` is its three sections in a row. -/
theorem jwks_solo (client : DiscoveryClient) (jwksUri : String) (s₁ s₂ s₃ : Readings) :
    let called := client.jwks http s₁.now s₂.served s₂.now jwksUri
    (jwksCalls http).solo jwksUri client ((jwksCalls http).start jwksUri) [s₁, s₂, s₃] =
      (called.1, .inr called.2) := by
  simp only [jwksCalls, DiscoveryClient.jwks, Procedure.solo, advanceJwks]
  cases client.cacheHit s₁.now with
  | some cached => rfl
  | none =>
    simp only [Procedure.solo]
    cases http.jwksDoc jwksUri s₂.served <;> rfl

/-- Everything a section can do: answer from the cache or miss, fail or build a snapshot, or
store one. -/
theorem advance_cases (jwksUri : String) (point : Point) (readings : Readings)
    (client client' : DiscoveryClient) (outcome : Point ⊕ Except DiscoveryError CachedJwks)
    (advanced : (jwksCalls http).advance jwksUri point readings client = (client', outcome)) :
    (∃ cached, point = .check ∧ client.cacheHit readings.now = some cached ∧ client' = client ∧
      outcome = .inr (.ok cached)) ∨
    (point = .check ∧ client.cacheHit readings.now = none ∧ client' = client ∧
      outcome = .inl .fetch) ∨
    (∃ error, point = .fetch ∧ http.jwksDoc jwksUri readings.served = .error error ∧
      client' = client ∧ outcome = .inr (.error error)) ∨
    (∃ doc, point = .fetch ∧ http.jwksDoc jwksUri readings.served = .ok doc ∧ client' = client ∧
      outcome = .inl (.store (doc.cachedAt readings.now))) ∨
    (∃ cached, point = .store cached ∧ client' = { client with jwksCache := some cached } ∧
      outcome = .inr (.ok cached)) := by
  -- the point says which section it is; only the fetch asks the server
  cases point with
  | check =>
    simp only [jwksCalls, advanceJwks, Prod.mk.injEq] at advanced
    obtain ⟨rfl, rfl⟩ := advanced
    cases hit : client.cacheHit readings.now with
    | some cached => exact Or.inl ⟨cached, rfl, rfl, rfl, rfl⟩
    | none => exact Or.inr (Or.inl ⟨rfl, rfl, rfl, rfl⟩)
  | fetch =>
    simp only [jwksCalls, advanceJwks, Prod.mk.injEq] at advanced
    obtain ⟨rfl, rfl⟩ := advanced
    cases answer : http.jwksDoc jwksUri readings.served with
    | error error => exact Or.inr (Or.inr (Or.inl ⟨error, rfl, rfl, rfl, rfl⟩))
    | ok doc => exact Or.inr (Or.inr (Or.inr (Or.inl ⟨doc, rfl, rfl, rfl, rfl⟩)))
  | store cached =>
    cases advanced
    exact Or.inr (Or.inr (Or.inr (Or.inr ⟨cached, rfl, rfl, rfl⟩)))

/-- A section returns a snapshot only when it finds it fresh in the cache or stores it there. -/
theorem advance_answers (jwksUri : String) (point : Point) (readings : Readings)
    (client client' : DiscoveryClient) (cached : CachedJwks)
    (advanced : (jwksCalls http).advance jwksUri point readings client =
      (client', .inr (.ok cached))) :
    (point = .check ∧ client.cacheHit readings.now = some cached) ∨ point = .store cached := by
  rcases advance_cases http jwksUri point readings client client' _ advanced with
    ⟨held, check, hit, _, answers⟩ | ⟨_, _, _, misses⟩ | ⟨_, _, _, _, fails⟩ |
    ⟨_, _, _, _, builds⟩ | ⟨stored, store, _, answers⟩
  · cases answers
    exact Or.inl ⟨check, hit⟩
  · cases misses
  · cases fails
  · cases builds
  · cases answers
    exact Or.inr store

/-- Only a successful fetch leads to a store. -/
theorem advance_builds (jwksUri : String) (point : Point) (readings : Readings)
    (client client' : DiscoveryClient) (cached : CachedJwks)
    (advanced : (jwksCalls http).advance jwksUri point readings client =
      (client', .inl (.store cached))) :
    ∃ doc, point = .fetch ∧ http.jwksDoc jwksUri readings.served = .ok doc ∧
      cached = doc.cachedAt readings.now := by
  rcases advance_cases http jwksUri point readings client client' _ advanced with
    ⟨_, _, _, _, answers⟩ | ⟨_, _, _, misses⟩ | ⟨_, _, _, _, fails⟩ |
    ⟨doc, fetch, answer, _, builds⟩ | ⟨_, _, _, answers⟩
  · cases answers
  · cases misses
  · cases fails
  · cases builds
    exact ⟨doc, fetch, answer, rfl⟩
  · cases answers

end Sections

end AuthKit.Oidc
