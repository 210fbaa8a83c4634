import AuthKit.Library.Machine
import AuthKit.Library.Past
import AuthKit.Library.Outcome
import AuthKit.Library.Procedure
import AuthKit.Library.FiniteMap
import AuthKit.Domain.Clock
import AuthKit.Domain.SessionStore
import AuthKit.Domain.Bindings
import AuthKit.Domain.Capacity
import AuthKit.Domain.Poisoning
import AuthKit.Domain.Noninterference
import AuthKit.Library.Text
import AuthKit.Middleware.PkceStateSession
import AuthKit.Middleware.Gate
import AuthKit.Library.FormUrlencoded
import AuthKit.Library.PercentEncoding
import AuthKit.Middleware.FormState
import AuthKit.Middleware.Cookies
import AuthKit.Library.Decimal
import AuthKit.Totp.Hotp
import AuthKit.Totp.Secret
import AuthKit.Totp.Drift
import AuthKit.Totp.Rfc4226
import AuthKit.Totp.Acceptance
import AuthKit.Totp.Enrollment
import AuthKit.Middleware.StateSpelling
import AuthKit.WebAuthn.Types
import AuthKit.WebAuthn.Registry
import AuthKit.WebAuthn.Verifier
import AuthKit.WebAuthn.Interleaving
import AuthKit.WebAuthn.Ceremonies
import AuthKit.WebAuthn.Uniqueness
import AuthKit.WebAuthn.Counters
import AuthKit.WebAuthn.Challenges
import AuthKit.WebAuthn.SingleUse
import AuthKit.WebAuthn.Contract
import AuthKit.WebAuthn.Admission
import AuthKit.Oidc.Jwks
import AuthKit.Oidc.Isolation
import AuthKit.Oidc.Freshness
import AuthKit.Oidc.Overwriting
import AuthKit.WebAuthn.AuthenticatorData
import AuthKit.WebAuthn.ChallengeKeys
import AuthKit.Oidc.KeyIndex
import AuthKit.WebAuthn.SignCount
import AuthKit.Library.Base32
import AuthKit.Totp.SecretBase32
import AuthKit.Totp.EnrollmentUri
import AuthKit.Domain.Reads
import AuthKit.Library.Base64
import AuthKit.Library.Highest
import AuthKit.WebAuthn.Decisions
import AuthKit.WebAuthn.Draws
import AuthKit.Domain.Throughput
import AuthKit.Middleware.GateRuns
import AuthKit.Middleware.Redeemable
import AuthKit.Oidc.Rotation
import AuthKit.Library.Hex
import AuthKit.Oidc.Discovery
import AuthKit.Oidc.Requests
import AuthKit.Totp.Authenticators
import AuthKit.Totp.Countdown
import AuthKit.Totp.SecretBase64
import AuthKit.WebAuthn.Separation
import AuthKit.WebAuthn.UserIds
import AuthKit.Server.SharedStore
