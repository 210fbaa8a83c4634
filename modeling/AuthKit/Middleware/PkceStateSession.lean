import AuthKit.Domain.SessionStore
import AuthKit.Library.Text

/-!
# The PKCE state-to-session middleware

`enforce_pkce_state_session` reads the `state` query parameter and the session cookie of a
callback request and asks the session store whether they are bound to each other.
-/
namespace AuthKit.Middleware

open Execution AuthKit.Domain

/-- What the middleware reads of a request: the raw query and the header fields in the order
in which they arrived, with lower-case names and uninterpreted values. -/
structure Request where
  query : Option String
  headers : List (String × List UInt8)
  deriving DecidableEq

structure InvalidStateBody where
  error : String
  description : String
  deriving DecidableEq

structure Response where
  status : Nat
  body : InvalidStateBody
  deriving DecidableEq

def INVALID_STATE_DESCRIPTION : String := "CSRF check failed — state not bound to session"

def STATE_MAX_LEN : Nat := 1024

def invalidStateResponse : Response :=
  ⟨401, "invalid_state", INVALID_STATE_DESCRIPTION⟩

def queryPair (key pair : List Char) : Option (List Char) :=
  match Text.splitOnce '=' pair with
  | none => none
  | some (name, value) => if name = key then some value else none

def queryParam (query key : List Char) : Option (List Char) :=
  (query.splitOn '&').findSome? (queryPair key)

def cookiePair (key pair : List Char) : Option (List Char) :=
  match Text.splitOnce '=' (Text.trim pair) with
  | none => none
  | some (name, value) => if Text.trim name = key then some (Text.trim value) else none

def cookieValue (cookieHeader key : List Char) : Option (List Char) :=
  (cookieHeader.splitOn ';').findSome? (cookiePair key)

/-- `HeaderMap::get` with `header::COOKIE`: the first field of that name. -/
def Request.cookieField (request : Request) : Option (List UInt8) :=
  (request.headers.find? fun field => field.1 == "cookie").map Prod.snd

/-- `HeaderValue::to_str`: only visible ASCII and tabs are text. -/
def headerText (value : List UInt8) : Option (List Char) :=
  if value.all fun b => (32 ≤ b && b < 127) || b == 9 then some (value.map Char.ofUInt8) else none

def extractSessionId (request : Request) : Option String :=
  match request.cookieField.bind headerText with
  | none => none
  | some cookie =>
      -- the aliases in their order of priority
      (cookieValue cookie "session_id".toList
        <|> cookieValue cookie "authkit_session".toList
        <|> cookieValue cookie "authvault_session".toList
        <|> cookieValue cookie "sid".toList).map String.ofList

def extractStateToken (request : Request) : Option String :=
  match request.query.bind fun query => queryParam query.toList "state".toList with
  | none => none
  | some raw =>
      match Text.decodeUtf8 (Text.percentDecode (Text.utf8 raw)) with
      | none => none
      | some decoded => if decoded.utf8ByteSize > STATE_MAX_LEN then none else some decoded

/-- The structured event logged under the target `authkit::audit`. -/
structure AuditEvent where
  outcome : String
  reason : Option String
  error : Option String
  message : String
  deriving DecidableEq

def AuditEvent.reject (reason : String) (error : Option String) : AuditEvent :=
  ⟨"reject", some reason, error, "oauth callback rejected"⟩

def AuditEvent.allow : AuditEvent := ⟨"allow", none, none, "oauth callback accepted"⟩

/-- How the middleware answers: it runs the inner handler on the request, or it replies
itself and the handler never sees the request. -/
inductive Answer where
  | runNext (request : Request)
  | reply (response : Response)
  deriving DecidableEq

structure Handled where
  audit : AuditEvent
  answer : Answer
  deriving DecidableEq

def Handled.rejected (reason : String) (error : Option String) : Handled :=
  ⟨.reject reason error, .reply invalidStateResponse⟩

variable {Store Env : Type}

def enforcePkceStateSession (port : SessionStore Store Env) (env : Env) (request : Request)
    (store : Store) : Store × Outcome Empty Handled :=
  match extractStateToken request with
  -- without a state or a session cookie the store is not asked
  | none => (store, .ok (.rejected "missing_or_oversized_state" none))
  | some stateToken =>
    match extractSessionId request with
    | none => (store, .ok (.rejected "missing_session_cookie" none))
    | some sessionId =>
      match port.verifyState env stateToken sessionId store with
      | (store, .ok true) => (store, .ok ⟨.allow, .runNext request⟩)
      | (store, .ok false) => (store, .ok (.rejected "state_session_mismatch" none))
      | (store, .err err) => (store, .ok (.rejected "store_error" (some err.message)))
      | (store, .panicked) => (store, .panicked)

end AuthKit.Middleware
