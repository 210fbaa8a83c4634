import AuthKit.Library.Text

/-!
# Spellings of a byte string

A byte string can be percent-encoded in many ways: every byte may be escaped, with hexadecimal
digits of either case, and the unreserved characters may also stand for themselves.
`Spells bytes text` says that `text` is one of these ways, and percent-decoding undoes them all.
-/
namespace PercentEncoding

/-- The value of a hexadecimal digit of either case, by its code point. -/
def hexValue? (code : Nat) : Option Nat :=
  if 48 ≤ code ∧ code ≤ 57 then some (code - 48)
  else if 65 ≤ code ∧ code ≤ 70 then some (code - 55)
  else if 97 ≤ code ∧ code ≤ 102 then some (code - 87)
  else none

/-- The code points of the ASCII letters and digits and of `-`, `.`, `_` and `~`. -/
def Unreserved (code : Nat) : Prop :=
  (65 ≤ code ∧ code ≤ 90) ∨ (97 ≤ code ∧ code ≤ 122) ∨ (48 ≤ code ∧ code ≤ 57) ∨
    code = 45 ∨ code = 46 ∨ code = 95 ∨ code = 126

instance (code : Nat) : Decidable (Unreserved code) := inferInstanceAs (Decidable (_ ∨ _))

inductive Spells : List UInt8 → List Char → Prop
  | nil : Spells [] []
  | escaped {bytes : List UInt8} {text : List Char} (high low : Char) (h l : Nat) :
      hexValue? high.toNat = some h → hexValue? low.toNat = some l → Spells bytes text →
      Spells (.ofNat (16 * h + l) :: bytes) ('%' :: high :: low :: text)
  | literal {bytes : List UInt8} {text : List Char} (c : Char) :
      Unreserved c.toNat → Spells bytes text → Spells (.ofNat c.toNat :: bytes) (c :: text)

/-- The digits are unreserved characters. -/
theorem hexValue?_some {code value : Nat} (digit : hexValue? code = some value) :
    Unreserved code ∧ value < 16 := by
  unfold hexValue? at digit
  unfold Unreserved
  split at digit
  · cases digit
    omega
  · split at digit
    · cases digit
      omega
    · split at digit
      · cases digit
        omega
      · cases digit

/-- The decoder knows the same digits. -/
theorem hexDigit?_ofNat : ∀ code < 128,
    Text.hexDigit? (.ofNat code) = (hexValue? code).map UInt8.ofNat := by
  decide

theorem Unreserved.ascii {code : Nat} (unreserved : Unreserved code) : code < 128 ∧ code ≠ 37 := by
  unfold Unreserved at unreserved
  omega

namespace Spells

variable {bytes : List UInt8} {text : List Char}

theorem append {bytes' : List UInt8} {text' : List Char} (spelled : Spells bytes text)
    (spelled' : Spells bytes' text') : Spells (bytes ++ bytes') (text ++ text') := by
  induction spelled with
  | nil => exact spelled'
  | escaped high low h l highDigit lowDigit _ ih => exact .escaped high low h l highDigit lowDigit ih
  | literal c unreserved _ ih => exact .literal c unreserved ih

/-- A spelling is made of unreserved characters and percent signs. -/
theorem mem (spelled : Spells bytes text) {c : Char} (member : c ∈ text) :
    Unreserved c.toNat ∨ c = '%' := by
  induction spelled with
  | nil => cases member
  | escaped high low h l highDigit lowDigit _ ih =>
    simp only [List.mem_cons] at member
    rcases member with rfl | rfl | rfl | later
    · exact Or.inr rfl
    · exact Or.inl (hexValue?_some highDigit).1
    · exact Or.inl (hexValue?_some lowDigit).1
    · exact ih later
  | literal d unreserved _ ih =>
    rcases List.mem_cons.mp member with rfl | later
    · exact Or.inl unreserved
    · exact ih later

/-- So a reserved character occurs in no spelling. -/
theorem notMem (spelled : Spells bytes text) (c : Char) (reserved : ¬ Unreserved c.toNat)
    (other : c ≠ '%') : c ∉ text := by
  intro member
  rcases spelled.mem member with unreserved | percent
  · exact reserved unreserved
  · exact other percent

/-- Decoding undoes every spelling. -/
theorem percentDecode (spelled : Spells bytes text) :
    Text.percentDecode (Text.utf8 text) = bytes := by
  have ascii : ∀ c ∈ text, c.toNat < 128 := by
    intro c member
    rcases spelled.mem member with unreserved | rfl
    · exact unreserved.ascii.1
    · decide
  -- a spelling is ASCII, so its bytes are its characters
  rw [Text.utf8_ascii text ascii]
  clear ascii
  induction spelled with
  | nil => rfl
  | escaped high low h l highDigit lowDigit _ ih =>
    have highDecoded := hexDigit?_ofNat high.toNat (hexValue?_some highDigit).1.ascii.1
    have lowDecoded := hexDigit?_ofNat low.toNat (hexValue?_some lowDigit).1.ascii.1
    rw [highDigit] at highDecoded
    rw [lowDigit] at lowDecoded
    have byte : UInt8.ofNat h * 16 + UInt8.ofNat l = .ofNat (16 * h + l) := by
      rw [UInt8.ofNat_add, UInt8.ofNat_mul, UInt8.mul_comm]
      rfl
    change Text.percentDecode (0x25 :: .ofNat high.toNat :: .ofNat low.toNat :: _) = _
    simp only [Text.percentDecode, highDecoded, lowDecoded, Option.map_some, byte, ih]
  | literal c unreserved _ ih =>
    have plain : UInt8.ofNat c.toNat ≠ 0x25 := by
      obtain ⟨small, other⟩ := unreserved.ascii
      intro same
      have code := congrArg UInt8.toNat same
      rw [UInt8.toNat_ofNat', Nat.mod_eq_of_lt (by omega)] at code
      exact other code
    rw [List.map_cons, Text.percentDecode.eq_2 _ _ (fun _ _ _ same => absurd same plain), ih]

end Spells

end PercentEncoding
