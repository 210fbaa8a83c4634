import AuthKit.Library.Text
import AuthKit.Totp.Hotp

/-!
# TOTP generation and verification

`codeAt` is `TotpSecret::at`. Verification walks the accepted counters from the oldest to
the newest and stops at the first match, always with `DEFAULT_DIGITS` digits.
-/
namespace AuthKit.Totp

def DEFAULT_DIGITS : UInt32 := 6
def DEFAULT_WINDOW : UInt32 := 1

/-- 160 bits. -/
structure TotpSecret where
  bytes : Vector UInt8 20

/-- `u64::checked_add_signed`. -/
def checkedAddSigned (counter : UInt64) (delta : Int) : Option UInt64 :=
  if 0 ≤ (counter.toNat : Int) + delta ∧ (counter.toNat : Int) + delta < 2 ^ 64 then
    some (.ofNat ((counter.toNat : Int) + delta).toNat)
  else none

/-- The range `-(window as i64)..=window as i64`. -/
def windowDeltas (window : UInt32) : List Int :=
  (List.range (2 * window.toNat + 1)).map fun i : Nat => (i : Int) - window.toNat

namespace TotpSecret

variable (profile : Profile) (hmac : Hmac) (secret : TotpSecret)

def codeAt (unixSecs period : UInt64) (digits : UInt32) : Option String :=
  -- division by zero panics
  if period = 0 then none
  else hotp profile hmac secret.bytes.toList (unixSecs / period) digits .sha1

def verifyLoop (candidate : String) (counterNow : UInt64) : List Int → Option Bool
  | [] => some false
  | delta :: rest =>
      match checkedAddSigned counterNow delta with
      -- a counter outside 64 bits is skipped
      | none => verifyLoop candidate counterNow rest
      | some c =>
          match hotp profile hmac secret.bytes.toList c DEFAULT_DIGITS .sha1 with
          | none => none
          | some expected =>
              if constantTimeEq (Text.utf8 expected.toList) (Text.utf8 candidate.toList) then
                some true
              else verifyLoop candidate counterNow rest

def verifyWithWindow (candidate : String) (unixSecs period : UInt64) (window : UInt32) :
    Option Bool :=
  if period = 0 then none
  else secret.verifyLoop profile hmac candidate (unixSecs / period) (windowDeltas window)

def verify (candidate : String) (unixSecs period : UInt64) : Option Bool :=
  secret.verifyWithWindow profile hmac candidate unixSecs period DEFAULT_WINDOW

end TotpSecret

theorem checkedAddSigned_eq_some_iff (counter : UInt64) (delta : Int) (sum : UInt64) :
    checkedAddSigned counter delta = some sum ↔
      (sum.toNat : Int) = (counter.toNat : Int) + delta := by
  have size : sum.toNat < 2 ^ 64 := sum.toNat_lt
  unfold checkedAddSigned
  constructor
  · intro added
    split at added
    next inRange =>
      rw [← Option.some.inj added, UInt64.toNat_ofNat']
      omega
    · cases added
  · intro same
    rw [if_pos (by omega), Option.some.injEq, ← UInt64.toNat_inj, UInt64.toNat_ofNat']
    omega

theorem mem_windowDeltas (window : UInt32) (delta : Int) :
    delta ∈ windowDeltas window ↔ -(window.toNat : Int) ≤ delta ∧ delta ≤ window.toNat := by
  simp only [windowDeltas, List.mem_map, List.mem_range]
  constructor
  · rintro ⟨i, bound, rfl⟩
    omega
  · rintro ⟨low, high⟩
    exact ⟨(delta + window.toNat).toNat, by omega, by omega⟩

section Loop

variable (profile : Profile) (hmac : Hmac) (secret : TotpSecret) (candidate : String)
  (counterNow : UInt64)

/-- The loop answers `true` iff the candidate is the default-length code of some counter that
one of the deltas reaches. -/
theorem verifyLoop_eq_true_iff (deltas : List Int) :
    secret.verifyLoop profile hmac candidate counterNow deltas = some true ↔
      ∃ delta ∈ deltas, ∃ c, checkedAddSigned counterNow delta = some c ∧
        hotp profile hmac secret.bytes.toList c DEFAULT_DIGITS .sha1 = some candidate := by
  induction deltas with
  | nil => simp [TotpSecret.verifyLoop]
  | cons delta rest ih =>
    simp only [TotpSecret.verifyLoop, List.mem_cons, exists_eq_or_imp]
    cases sum : checkedAddSigned counterNow delta with
    | none => simp [ih]
    | some c =>
      -- six digits never panic, so the iteration compares
      obtain ⟨expected, code⟩ :=
        hotp_total profile hmac secret.bytes.toList c DEFAULT_DIGITS .sha1 (by decide)
      simp only [code, Option.some.injEq, exists_eq_left', constantTimeEq_iff, Text.utf8_inj]
      by_cases hit : expected = candidate
      · simp [hit]
      · simp [hit, ih]

/-- The loop never panics. -/
theorem verifyLoop_total (deltas : List Int) :
    ∃ accepted, secret.verifyLoop profile hmac candidate counterNow deltas = some accepted := by
  induction deltas with
  | nil => exact ⟨false, rfl⟩
  | cons delta rest ih =>
    simp only [TotpSecret.verifyLoop]
    cases checkedAddSigned counterNow delta with
    | none => exact ih
    | some c =>
      obtain ⟨expected, code⟩ :=
        hotp_total profile hmac secret.bytes.toList c DEFAULT_DIGITS .sha1 (by decide)
      simp only [code]
      split
      · exact ⟨true, rfl⟩
      · exact ih

end Loop

/-- For a positive period, `verify_with_window` accepts exactly the default-length codes of the
64-bit counters at most `window` steps from the current one. -/
theorem verifyWithWindow_eq_true_iff (profile : Profile) (hmac : Hmac) (secret : TotpSecret)
    (candidate : String) (unixSecs period : UInt64) (window : UInt32) (positive : period ≠ 0) :
    secret.verifyWithWindow profile hmac candidate unixSecs period window = some true ↔
      ∃ c : UInt64, (c.toNat : Int) - (unixSecs / period).toNat ≤ window.toNat ∧
        ((unixSecs / period).toNat : Int) - c.toNat ≤ window.toNat ∧
        hotp profile hmac secret.bytes.toList c DEFAULT_DIGITS .sha1 = some candidate := by
  rw [TotpSecret.verifyWithWindow, if_neg positive, verifyLoop_eq_true_iff]
  simp only [mem_windowDeltas, checkedAddSigned_eq_some_iff]
  constructor
  · rintro ⟨delta, bounds, c, sum, code⟩
    exact ⟨c, by omega, by omega, code⟩
  · rintro ⟨c, below, above, code⟩
    exact ⟨(c.toNat : Int) - (unixSecs / period).toNat, by omega, c, by omega, code⟩

/-- For a positive period, `verify_with_window` never panics. -/
theorem verifyWithWindow_total (profile : Profile) (hmac : Hmac) (secret : TotpSecret)
    (candidate : String) (unixSecs period : UInt64) (window : UInt32) (positive : period ≠ 0) :
    ∃ accepted,
      secret.verifyWithWindow profile hmac candidate unixSecs period window = some accepted := by
  rw [TotpSecret.verifyWithWindow, if_neg positive]
  exact verifyLoop_total profile hmac secret candidate (unixSecs / period) (windowDeltas window)

end AuthKit.Totp
