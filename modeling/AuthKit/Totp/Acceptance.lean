import AuthKit.Library.Decimal
import AuthKit.Totp.Rfc4226

/-!
# What the verifier accepts

The acceptance set of `verify_with_window`: the six-digit codes of the counters around the
current one, as far as these are 64-bit numbers. A step past either end of the range is skipped;
it does not come back in at the other end.
-/
namespace AuthKit.Totp

/-- A code is determined by its value. -/
theorem IsCode.unique {digits value : Nat} {code code' : String} (isCode : IsCode digits value code)
    (isCode' : IsCode digits value code') : code = code' := by
  apply String.toList_inj.mp
  exact Decimal.ofDigitChars_inj _ _ isCode.decimal isCode'.decimal
    (isCode.length.trans isCode'.length.symm) (isCode.value.trans isCode'.value.symm)

/-- Up to nine digits, `hotp` returns the code of the RFC and nothing else. -/
theorem hotp_eq_some_iff (profile : Profile) (hmac : Hmac) (secretBytes : List UInt8)
    (counter : UInt64) (digits : UInt32) (algorithm : TotpAlgorithm) (code : String)
    (positive : 1 ≤ digits.toNat) (small : digits.toNat ≤ 9) :
    hotp profile hmac secretBytes counter digits algorithm = some code ↔
      IsHotp hmac secretBytes counter.toNat digits.toNat algorithm code := by
  obtain ⟨generated, returned, isHotp⟩ :=
    hotp_isHotp profile hmac secretBytes counter digits algorithm positive small
  rw [returned, Option.some.injEq]
  constructor
  · rintro rfl
    exact isHotp
  · exact isHotp.unique

/-! ### The acceptance set -/

/-- Counters near the current one, as 64-bit words and as natural numbers. -/
private theorem near_counter_iff (now window : Nat) (holds : UInt64 → Prop) :
    (∃ c : UInt64, (c.toNat : Int) - now ≤ window ∧ (now : Int) - c.toNat ≤ window ∧ holds c) ↔
      ∃ c : Nat, c < 2 ^ 64 ∧ ((c : Int) - now).natAbs ≤ window ∧ holds (.ofNat c) := by
  constructor
  · rintro ⟨c, above, below, held⟩
    exact ⟨c.toNat, c.toNat_lt, by omega, by rw [UInt64.ofNat_toNat]; exact held⟩
  · rintro ⟨c, size, near, held⟩
    have value : (UInt64.ofNat c).toNat = c := UInt64.toNat_ofNat_of_lt' size
    exact ⟨.ofNat c, by omega, by omega, held⟩

section Acceptance

variable (profile : Profile) (hmac : Hmac) (secret : TotpSecret) (candidate : String)
  (unixSecs period : UInt64) (window : UInt32)

/-- For a positive period, `verify_with_window` returns, and it returns `true` exactly for the
six-digit code of a 64-bit counter at most `window` steps from the current one. -/
theorem accepted_iff_code_in_window (positive : period ≠ 0) :
    ∃ accepted,
      secret.verifyWithWindow profile hmac candidate unixSecs period window = some accepted ∧
      (accepted = true ↔
        ∃ c : Nat, c < 2 ^ 64 ∧
          ((c : Int) - (unixSecs.toNat / period.toNat : Nat)).natAbs ≤ window.toNat ∧
          hotp profile hmac secret.bytes.toList (.ofNat c) 6 .sha1 = some candidate) := by
  obtain ⟨accepted, returns⟩ :=
    verifyWithWindow_total profile hmac secret candidate unixSecs period window positive
  refine ⟨accepted, returns, ?_⟩
  have accepts :=
    verifyWithWindow_eq_true_iff profile hmac secret candidate unixSecs period window positive
  rw [returns, Option.some.injEq, UInt64.toNat_div, near_counter_iff] at accepts
  exact accepts

/-- In the terms of the RFC: the candidate is the six-digit code of one of these counters. -/
theorem verifyWithWindow_isHotp (positive : period ≠ 0) :
    secret.verifyWithWindow profile hmac candidate unixSecs period window = some true ↔
      ∃ c : Nat, c < 2 ^ 64 ∧
        ((c : Int) - (unixSecs.toNat / period.toNat : Nat)).natAbs ≤ window.toNat ∧
        IsHotp hmac secret.bytes.toList c 6 .sha1 candidate := by
  rw [verifyWithWindow_eq_true_iff profile hmac secret candidate unixSecs period window positive,
    UInt64.toNat_div, near_counter_iff]
  refine exists_congr fun c => and_congr_right fun size => and_congr_right fun _ => ?_
  rw [hotp_eq_some_iff profile hmac _ _ DEFAULT_DIGITS .sha1 candidate (by decide) (by decide),
    UInt64.toNat_ofNat_of_lt' size]
  rfl

end Acceptance

/-- At second 0 the window of one step holds the counters 0 and 1 only. -/
theorem first_window_accepts :
    ∃ accepted, rfcSecret.verifyWithWindow .debug rfcHmac "287082" 0 30 1 = some accepted ∧
      accepted = true := by
  obtain ⟨accepted, returns, accepts⟩ :=
    accepted_iff_code_in_window .debug rfcHmac rfcSecret "287082" 0 30 1 (by decide)
  exact ⟨accepted, returns, accepts.mpr ⟨1, by decide, by decide, by decide⟩⟩

end AuthKit.Totp
