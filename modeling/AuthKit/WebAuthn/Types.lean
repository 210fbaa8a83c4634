import AuthKit.Domain.SessionStore

/-!
# WebAuthn data

The records and errors of `webauthn.rs`. Errors of third-party parsers carry the text they
display.
-/
namespace AuthKit.WebAuthn

open AuthKit.Domain

inductive WebAuthnError where
  | challengeNotFound
  | rpIdHashMismatch (expected got : String)
  | userPresenceNotSet
  | userVerificationNotSet
  | credentialAlreadyExists
  | credentialNotFound
  | sessionStore (error : SessionStoreError)
  | base64 (error : String)
  | clientDataJson (error : String)
  deriving DecidableEq, Repr

structure AuthenticatorDataFlags where
  up : Bool
  uv : Bool
  be : Bool
  bs : Bool
  «at» : Bool
  ed : Bool
  deriving DecidableEq, Repr

structure AuthenticatorData where
  rpIdHash : Vector UInt8 32
  flags : AuthenticatorDataFlags
  signCount : UInt32
  deriving DecidableEq

/-- The client data fields that the verifier reads. -/
structure CollectedClientData where
  ty : String
  challenge : String
  origin : String
  deriving DecidableEq, Repr

structure WebAuthnCredential where
  credentialId : List UInt8
  publicKey : List UInt8
  signCount : UInt32
  label : Option String
  createdAt : String
  deriving DecidableEq, Repr

structure WebAuthnConfig where
  rpId : String
  allowedOrigins : List String
  challengeTtlSecs : UInt64
  deriving DecidableEq, Repr

def WebAuthnConfig.new (rpId : String) (allowedOrigins : List String) : WebAuthnConfig where
  rpId := rpId
  allowedOrigins := allowedOrigins
  challengeTtlSecs := 60

end AuthKit.WebAuthn
