import Mathlib.Algebra.Ring.Nat

/-!
# Decimal digit strings

The value of a string of decimal digits, read with `Nat.ofDigitChars`: together with its length it
determines the string. The digits that `Nat.repr` writes are read back.
-/
namespace Decimal

private theorem ofDigitChars_cons_eq (c : Char) (rest : List Char) :
    Nat.ofDigitChars 10 (c :: rest) 0 =
      10 ^ rest.length * (c.toNat - 48) + Nat.ofDigitChars 10 rest 0 := by
  rw [Nat.ofDigitChars_cons, Nat.ofDigitChars_eq_ofDigitChars_zero, Nat.mul_zero, Nat.zero_add]
  rfl

private theorem digit_bounds {c : Char} (digit : c.isDigit = true) :
    48 ≤ c.toNat ∧ c.toNat ≤ 57 := Char.isDigit_iff_toNat.mp digit

/-- The value of a digit string is below the power of ten of its length. -/
theorem ofDigitChars_lt (digits : List Char) (decimal : ∀ c ∈ digits, c.isDigit = true) :
    Nat.ofDigitChars 10 digits 0 < 10 ^ digits.length := by
  induction digits with
  | nil => simp
  | cons c rest ih =>
    have below := ih fun digit member => decimal digit (List.mem_cons_of_mem _ member)
    have bounds := digit_bounds (decimal c List.mem_cons_self)
    have leading : 10 ^ rest.length * (c.toNat - 48) ≤ 10 ^ rest.length * 9 :=
      Nat.mul_le_mul_left _ (by omega)
    rw [ofDigitChars_cons_eq, List.length_cons, Nat.pow_succ]
    omega

/-- Digit strings of one length and one value are equal. -/
theorem ofDigitChars_inj (xs ys : List Char) (decimal : ∀ c ∈ xs, c.isDigit = true)
    (decimal' : ∀ c ∈ ys, c.isDigit = true) (length : xs.length = ys.length)
    (same : Nat.ofDigitChars 10 xs 0 = Nat.ofDigitChars 10 ys 0) : xs = ys := by
  induction xs generalizing ys with
  | nil => exact (List.length_eq_zero_iff.mp length.symm).symm
  | cons x xs ih =>
    cases ys with
    | nil => simp at length
    | cons y ys =>
      rw [List.forall_mem_cons] at decimal decimal'
      rw [List.length_cons, List.length_cons, Nat.add_right_cancel_iff] at length
      have below := ofDigitChars_lt xs decimal.2
      have below' := ofDigitChars_lt ys decimal'.2
      rw [ofDigitChars_cons_eq, ofDigitChars_cons_eq, ← length] at same
      rw [← length] at below'
      have positive : 0 < 10 ^ xs.length := Nat.pow_pos (by decide)
      -- the leading digit is the quotient, the rest is the remainder
      have leading : x.toNat - 48 = y.toNat - 48 := by
        have quotient := congrArg (· / 10 ^ xs.length) same
        simpa only [Nat.mul_add_div positive, Nat.div_eq_of_lt below,
          Nat.div_eq_of_lt below', Nat.add_zero] using quotient
      have rest : Nat.ofDigitChars 10 xs 0 = Nat.ofDigitChars 10 ys 0 := by
        rw [leading] at same
        exact Nat.add_left_cancel same
      have bounds := digit_bounds decimal.1
      have bounds' := digit_bounds decimal'.1
      have head : x = y := Char.toNat_inj.mp (by omega)
      rw [head, ih ys decimal.2 decimal'.2 length rest]

/-- The value of a text of decimal digits, of at least one. -/
def decimal? (text : List Char) : Option Nat :=
  if !text.isEmpty && text.all Char.isDigit then some (Nat.ofDigitChars 10 text 0) else none

theorem decimal?_repr (n : Nat) : decimal? (Nat.repr n).toList = some n := by
  have digits : (Nat.toDigits 10 n).all Char.isDigit = true := by
    rw [List.all_eq_true]
    exact fun c member => Nat.isDigit_of_mem_toDigits (by decide) (by decide) member
  have nonempty : (Nat.toDigits 10 n).isEmpty = false := by
    simp [Nat.toDigits_ne_nil]
  rw [Nat.toList_repr, decimal?, nonempty, digits, if_pos (by decide),
    Nat.ofDigitChars_toDigits (by decide) (by decide)]

end Decimal
