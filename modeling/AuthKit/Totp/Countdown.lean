import AuthKit.Totp.Acceptance

/-!
# The countdown

`seconds_remaining` is what a user interface shows next to a code. The generator moves on when it
has run down, and the verifier takes the old code for as many periods longer as its window has.
-/
namespace AuthKit.Totp

/-- `TotpSecret::seconds_remaining`. -/
def TotpSecret.secondsRemaining (unixSecs period : UInt64) : Option UInt64 :=
  -- the remainder by zero panics
  if period = 0 then none else some (period - unixSecs % period)

private theorem toNat_pos_of_ne_zero (period : UInt64) (positive : period ≠ 0) : 0 < period.toNat := by
  by_contra zero
  exact positive (UInt64.toNat_inj.mp (by rw [UInt64.toNat_zero]; omega))

theorem secondsRemaining_total (unixSecs period : UInt64) (positive : period ≠ 0) :
    ∃ remaining, TotpSecret.secondsRemaining unixSecs period = some remaining ∧
      remaining.toNat + unixSecs.toNat % period.toNat = period.toNat := by
  refine ⟨period - unixSecs % period, if_neg positive, ?_⟩
  have below : unixSecs.toNat % period.toNat < period.toNat :=
    Nat.mod_lt _ (toNat_pos_of_ne_zero period positive)
  have le : unixSecs % period ≤ period := by
    rw [UInt64.le_iff_toNat_le, UInt64.toNat_mod]
    exact Nat.le_of_lt below
  rw [UInt64.toNat_sub_of_le _ _ le, UInt64.toNat_mod]
  omega

section Steps

variable (t u period remaining : UInt64) (positive : period ≠ 0)
  (left : remaining.toNat + t.toNat % period.toNat = period.toNat)

include positive left

/-- A clock is at most so many steps ahead until the countdown and so many periods are over. -/
theorem step_le_iff_before (steps : Nat) :
    (u / period).toNat ≤ (t / period).toNat + steps ↔
      u.toNat < t.toNat + remaining.toNat + steps * period.toNat := by
  have ends : (t.toNat / period.toNat + steps + 1) * period.toNat =
      t.toNat + remaining.toNat + steps * period.toNat := by
    have split := Nat.div_add_mod t.toNat period.toNat
    rw [Nat.add_mul, Nat.add_mul, Nat.one_mul, Nat.mul_comm (t.toNat / period.toNat)]
    omega
  rw [UInt64.toNat_div, UInt64.toNat_div, ← ends,
    ← Nat.div_lt_iff_lt_mul (toNat_pos_of_ne_zero period positive), Nat.lt_succ_iff]

theorem same_step (later : t ≤ u) (before : u.toNat < t.toNat + remaining.toNat) :
    u / period = t / period := by
  have le := (step_le_iff_before t u period remaining positive left 0).mpr (by omega)
  have ge : (t / period).toNat ≤ (u / period).toNat := by
    rw [UInt64.toNat_div, UInt64.toNat_div]
    exact Nat.div_le_div_right later
  exact UInt64.toNat_inj.mp (by omega)

theorem next_step (ended : u.toNat = t.toNat + remaining.toNat) : u / period = t / period + 1 := by
  have size := toNat_pos_of_ne_zero period positive
  have beyond := step_le_iff_before t u period remaining positive left 0
  have le := (step_le_iff_before t u period remaining positive left 1).mpr (by omega)
  have next : (u / period).toNat = (t / period).toNat + 1 := by omega
  have fits : (u / period).toNat < 2 ^ 64 := (u / period).toNat_lt
  apply UInt64.toNat_inj.mp
  rw [UInt64.toNat_add, UInt64.toNat_one, ← next, Nat.mod_eq_of_lt fits]

end Steps

section Lifetime

variable (profile : Profile) (hmac : Hmac) (secret : TotpSecret)

/-- The verifier accepts a code for the periods of its window after its countdown; later, only
another counter's code can be the same. -/
theorem code_accepted_until (t u period remaining : UInt64) (positive : period ≠ 0)
    (left : remaining.toNat + t.toNat % period.toNat = period.toNat) (later : t ≤ u)
    (window : UInt32) (code : String)
    (generated : secret.codeAt profile hmac t period DEFAULT_DIGITS = some code) :
    secret.verifyWithWindow profile hmac code u period window = some true ↔
      u.toNat < t.toNat + remaining.toNat + window.toNat * period.toNat ∨
      ∃ c : UInt64, t / period < c ∧ (c.toNat : Int) - (u / period).toNat ≤ window.toNat ∧
        ((u / period).toNat : Int) - c.toNat ≤ window.toNat ∧
        hotp profile hmac secret.bytes.toList c DEFAULT_DIGITS .sha1 = some code := by
  rw [TotpSecret.codeAt, if_neg positive] at generated
  have ge : (t / period).toNat ≤ (u / period).toNat := by
    rw [UInt64.toNat_div, UInt64.toNat_div]
    exact Nat.div_le_div_right later
  rw [verifyWithWindow_eq_true_iff profile hmac secret code u period window positive,
    ← step_le_iff_before t u period remaining positive left window.toNat]
  constructor
  · rintro ⟨c, above, below, coded⟩
    by_cases new : t / period < c
    · exact Or.inr ⟨c, new, above, below, coded⟩
    · -- the counter of the code is between this one and the current one
      left
      have le : c.toNat ≤ (t / period).toNat := Nat.not_lt.mp new
      omega
  · rintro (near | ⟨c, _, above, below, coded⟩)
    · exact ⟨t / period, by omega, by omega, generated⟩
    · exact ⟨c, above, below, coded⟩

end Lifetime

end AuthKit.Totp
