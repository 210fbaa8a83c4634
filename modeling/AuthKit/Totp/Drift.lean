import AuthKit.Totp.Secret

/-!
# Agreement of generator and verifier

The caller of `at` chooses a digit count; the verifier always compares codes of
`DEFAULT_DIGITS` digits. Clock drift inside the window is absorbed, a different digit count
is not.
-/
namespace AuthKit.Totp

/-- A clock at most `window` periods ahead is at most `window` counters ahead. -/
theorem counter_le_of_drift (t t' period : UInt64) (window : UInt32) (positive : period ≠ 0)
    (drift : t.toNat ≤ t'.toNat + window.toNat * period.toNat) :
    (t / period).toNat ≤ (t' / period).toNat + window.toNat := by
  have size : 0 < period.toNat := by
    by_contra zero
    exact positive (UInt64.toNat_inj.mp (by rw [UInt64.toNat_zero]; omega))
  rw [UInt64.toNat_div, UInt64.toNat_div, ← Nat.add_mul_div_right _ _ size]
  exact Nat.div_le_div_right drift

section Agreement

variable (profile : Profile) (hmac : Hmac) (secret : TotpSecret)

/-- Whatever the verifier accepts has the default length. -/
theorem accepted_length (candidate : String) (unixSecs period : UInt64) (window : UInt32)
    (positive : period ≠ 0)
    (accepted : secret.verifyWithWindow profile hmac candidate unixSecs period window = some true) :
    candidate.toList.length = 6 := by
  obtain ⟨c, _, _, code⟩ := (verifyWithWindow_eq_true_iff profile hmac secret candidate unixSecs
    period window positive).mp accepted
  exact hotp_length profile hmac _ c DEFAULT_DIGITS .sha1 candidate code

theorem codeAt_length (unixSecs period : UInt64) (digits : UInt32) (code : String)
    (positive : period ≠ 0)
    (returned : secret.codeAt profile hmac unixSecs period digits = some code) :
    code.toList.length = max 1 digits.toNat := by
  rw [TotpSecret.codeAt, if_neg positive] at returned
  exact hotp_length profile hmac _ _ digits .sha1 code returned

/-- A six-digit code is accepted at every clock inside the window. -/
theorem default_code_accepted (t t' period : UInt64) (window : UInt32) (positive : period ≠ 0)
    (ahead : t.toNat ≤ t'.toNat + window.toNat * period.toNat)
    (behind : t'.toNat ≤ t.toNat + window.toNat * period.toNat) :
    ∃ code, secret.codeAt profile hmac t period DEFAULT_DIGITS = some code ∧
      secret.verifyWithWindow profile hmac code t' period window = some true := by
  obtain ⟨code, generated⟩ := hotp_total profile hmac secret.bytes.toList (t / period)
    DEFAULT_DIGITS .sha1 (by decide)
  have early := counter_le_of_drift t t' period window positive ahead
  have late := counter_le_of_drift t' t period window positive behind
  refine ⟨code, by rw [TotpSecret.codeAt, if_neg positive, generated], ?_⟩
  rw [verifyWithWindow_eq_true_iff profile hmac secret code t' period window positive]
  -- the counter the code was generated for is one of those the loop visits
  exact ⟨t / period, by omega, by omega, generated⟩

/-- A code of another length is never accepted. -/
theorem digits_of_accepted (t t' period : UInt64) (window digits : UInt32)
    (positive : period ≠ 0) (code : String)
    (generated : secret.codeAt profile hmac t period digits = some code)
    (accepted : secret.verifyWithWindow profile hmac code t' period window = some true) :
    digits = DEFAULT_DIGITS := by
  have asked := codeAt_length profile hmac secret t period digits code positive generated
  have six := accepted_length profile hmac secret code t' period window positive accepted
  have default : DEFAULT_DIGITS.toNat = 6 := rfl
  rw [← UInt32.toNat_inj]
  omega

/-- Generator and verifier agree inside the window exactly for six digits: then the code of `at`
exists and `verify_with_window` accepts it at every clock at most `window` periods away, and
`verify` accepts it at its own time; for any other digit count neither ever happens. -/
theorem drift_absorbed_iff (t t' period : UInt64) (window digits : UInt32)
    (positive : period ≠ 0)
    (ahead : t.toNat ≤ t'.toNat + window.toNat * period.toNat)
    (behind : t'.toNat ≤ t.toNat + window.toNat * period.toNat) :
    ((∃ code, secret.codeAt profile hmac t period digits = some code ∧
        secret.verifyWithWindow profile hmac code t' period window = some true) ↔ digits = 6) ∧
    ((∃ code, secret.codeAt profile hmac t period digits = some code ∧
        secret.verify profile hmac code t period = some true) ↔ digits = 6) := by
  -- `verify` is the case of equal clocks and the default window
  refine ⟨⟨?_, ?_⟩, ⟨?_, ?_⟩⟩
  · rintro ⟨code, generated, accepted⟩
    exact digits_of_accepted profile hmac secret t t' period window digits positive code generated
      accepted
  · rintro rfl
    exact default_code_accepted profile hmac secret t t' period window positive ahead behind
  · rintro ⟨code, generated, accepted⟩
    exact digits_of_accepted profile hmac secret t t period DEFAULT_WINDOW digits positive code
      generated accepted
  · rintro rfl
    exact default_code_accepted profile hmac secret t t period DEFAULT_WINDOW positive (by omega)
      (by omega)

end Agreement

/-! ### The secret of the RFC's test vectors -/

/-- The ASCII text `12345678901234567890`. -/
def rfcSecret : TotpSecret :=
  ⟨#v[49, 50, 51, 52, 53, 54, 55, 56, 57, 48, 49, 50, 51, 52, 53, 54, 55, 56, 57, 48]⟩

/-- HMAC-SHA1 of the first four counters under `rfcSecret`; zero elsewhere. -/
def rfcMac (algorithm : TotpAlgorithm) (key message : List UInt8) : List UInt8 :=
  if algorithm = .sha1 ∧ key = rfcSecret.bytes.toList then
    if message = toBeBytes 0 then
      [204, 147, 207, 24, 80, 141, 148, 147, 76, 100, 182, 93, 139, 167, 102, 127, 183, 205, 228, 176]
    else if message = toBeBytes 1 then
      [117, 164, 138, 25, 212, 203, 225, 0, 100, 78, 138, 193, 57, 126, 234, 116, 122, 45, 51, 171]
    else if message = toBeBytes 2 then
      [11, 172, 183, 250, 8, 47, 239, 48, 120, 34, 17, 147, 139, 193, 197, 231, 4, 22, 255, 68]
    else if message = toBeBytes 3 then
      [102, 194, 130, 39, 208, 58, 45, 85, 41, 38, 47, 240, 22, 161, 230, 239, 118, 85, 126, 206]
    else List.replicate 20 0
  else List.replicate algorithm.outputLen 0

theorem rfcMac_length (algorithm : TotpAlgorithm) (key message : List UInt8) :
    (rfcMac algorithm key message).length = algorithm.outputLen := by
  unfold rfcMac
  split
  next sha1 =>
    rw [sha1.1]
    repeat' split
    all_goals rfl
  · exact List.length_replicate

def rfcHmac : Hmac := ⟨rfcMac, rfcMac_length⟩

/-- One period of drift at the default digit count. -/
theorem drift_absorbed_default :
    (∃ code, rfcSecret.codeAt .release rfcHmac 59 30 6 = some code ∧
      rfcSecret.verifyWithWindow .release rfcHmac code 89 30 1 = some true) ∧
    (∃ code, rfcSecret.codeAt .release rfcHmac 59 30 6 = some code ∧
      rfcSecret.verify .release rfcHmac code 59 30 = some true) := by
  obtain ⟨drifted, current⟩ := drift_absorbed_iff .release rfcHmac rfcSecret 59 89 30 1 6 (by decide)
    (by decide) (by decide)
  exact ⟨drifted.mpr rfl, current.mpr rfl⟩

/-- The eight-digit code of the repository's own tests is refused at the very second it was
generated for. -/
theorem eight_digits_refused :
    rfcSecret.codeAt .debug rfcHmac 59 30 8 = some "94287082" ∧
    rfcSecret.verify .debug rfcHmac "94287082" 59 30 = some false := by
  decide

end AuthKit.Totp
