import AuthKit.Totp.Acceptance
import AuthKit.Totp.EnrollmentUri

/-!
# From the enrollment to the login

The user scans an enrollment URI, and types the code of an authenticator that has read the URI and
follows the RFC. The number of digits in the URI is its caller's; the verifier has its own.
-/
namespace AuthKit.Totp

open AuthKit.Middleware

/-- What an authenticator keeps of an enrollment. -/
structure Authenticator where
  secret : TotpSecret
  period : Nat
  digits : Nat

namespace Authenticator

def scan (table : Char → List Char) (crate : Base32Crate) (uri : String) :
    Option Authenticator := do
  let (_, query) ← Text.splitOnce '?' uri.toList
  let secret ← queryParam query "secret".toList
  let period ← queryParam query "period".toList
  let digits ← queryParam query "digits".toList
  return {
    secret := ← (TotpSecret.fromBase32 table crate (.ofList secret)).toOption
    period := ← Decimal.decimal? period
    digits := ← Decimal.decimal? digits }

/-- It shows the code that the RFC assigns to the time step. -/
def Shows (hmac : Hmac) (authenticator : Authenticator) (unixSecs : Nat) (code : String) : Prop :=
  IsHotp hmac authenticator.secret.bytes.toList (unixSecs / authenticator.period)
    authenticator.digits .sha1 code

end Authenticator

section Enrolled

variable (table : Char → List Char) (crate : Base32Crate) (secret : TotpSecret)
  (account issuer : String) (period : UInt64) (digits : UInt32)

/-- An enrollment URI has no question mark but the one before its query. -/
theorem splitOnce_enrollmentUri :
    Text.splitOnce '?' (enrollmentUri crate secret account issuer period digits).toList =
      some ("otpauth://totp/".toList ++
          ((urlencoding issuer).toList ++ ':' :: (urlencoding account).toList),
        queryText (enrollmentParams crate secret issuer period digits)) := by
  rw [Text.splitOnce_eq_some_iff, enrollmentUri_toList]
  refine ⟨(List.append_assoc ..).symm, ?_⟩
  have issuerText := notMem_urlencoding issuer '?' (by decide) (by decide)
  have accountText := notMem_urlencoding account '?' (by decide) (by decide)
  simp [issuerText, accountText]

theorem scan_enrollmentUri :
    Authenticator.scan table crate (enrollmentUri crate secret account issuer period digits) =
      some ⟨secret, period.toNat, digits.toNat⟩ := by
  have param (key : String) := queryParam_queryText
    (enrollmentParams crate secret issuer period digits) key
    (enrollmentParams_delimited crate secret issuer period digits) (by simp [enrollmentParams])
  have secretParam : (enrollmentParams crate secret issuer period digits).lookup "secret" =
      some (secret.toBase32 crate) := rfl
  have periodParam : (enrollmentParams crate secret issuer period digits).lookup "period" =
      some (Nat.repr period.toNat) := rfl
  have digitsParam : (enrollmentParams crate secret issuer period digits).lookup "digits" =
      some (Nat.repr digits.toNat) := rfl
  rw [Authenticator.scan, splitOnce_enrollmentUri]
  simp only [bind, Option.bind_some, pure, param, secretParam, periodParam, digitsParam,
    Option.map_some, String.ofList_toList, fromBase32_toBase32, Except.toOption,
    Decimal.decimal?_repr]

variable (profile : Profile) (hmac : Hmac)

/-- An authenticator can be set up with every enrollment URI. Up to nine digits it has a code to show
at every time; and what it shows is accepted, at every clock at most `window` periods away, iff the
URI asked for six digits. -/
theorem scanned_code_accepted_iff (t t' : UInt64) (window : UInt32) (positive : period ≠ 0)
    (ahead : t.toNat ≤ t'.toNat + window.toNat * period.toNat)
    (behind : t'.toNat ≤ t.toNat + window.toNat * period.toNat) :
    ∃ authenticator,
      Authenticator.scan table crate (enrollmentUri crate secret account issuer period digits) =
        some authenticator ∧
      (1 ≤ digits.toNat → digits.toNat ≤ 9 → ∃ code, authenticator.Shows hmac t.toNat code) ∧
      ∀ code, authenticator.Shows hmac t.toNat code →
        (secret.verifyWithWindow profile hmac code t' period window = some true ↔ digits = 6) := by
  have counter : (t / period).toNat = t.toNat / period.toNat := UInt64.toNat_div t period
  refine ⟨_, scan_enrollmentUri table crate secret account issuer period digits, ?_, ?_⟩
  · intro positive' few
    obtain ⟨code, _, isHotp⟩ :=
      hotp_isHotp profile hmac secret.bytes.toList (t / period) digits .sha1 positive' few
    rw [counter] at isHotp
    exact ⟨code, isHotp⟩
  · intro code (shows' : IsHotp hmac secret.bytes.toList (t.toNat / period.toNat) digits.toNat
      .sha1 code)
    constructor
    · intro accepted
      have six := accepted_length profile hmac secret code t' period window positive accepted
      rw [← UInt32.toNat_inj, ← shows'.length, six]
      rfl
    · rintro rfl
      have early := counter_le_of_drift t t' period window positive ahead
      have late := counter_le_of_drift t' t period window positive behind
      rw [UInt64.toNat_div, UInt64.toNat_div] at early late
      have size : t.toNat / period.toNat < 2 ^ 64 := counter ▸ (t / period).toNat_lt
      rw [verifyWithWindow_isHotp profile hmac secret code t' period window positive]
      exact ⟨t.toNat / period.toNat, size, by omega, shows'⟩

end Enrolled

/-- An authenticator that is one period behind. -/
theorem scanned_default_accepted :
    ∃ authenticator,
      Authenticator.scan latinTable rfcCrate
        (enrollmentUri rfcCrate rfcSecret "alice@example.com" "Example Co" 30 6) =
          some authenticator ∧
      ∃ code, authenticator.Shows rfcHmac 59 code ∧
        rfcSecret.verifyWithWindow .debug rfcHmac code 89 30 1 = some true := by
  obtain ⟨authenticator, scanned, able, accepted⟩ :=
    scanned_code_accepted_iff latinTable rfcCrate rfcSecret "alice@example.com" "Example Co" 30 6
      .debug rfcHmac 59 89 1 (by decide) (by decide) (by decide)
  obtain ⟨code, shown⟩ := able (by decide) (by decide)
  exact ⟨authenticator, scanned, code, shown, (accepted code shown).mpr rfl⟩

end AuthKit.Totp
