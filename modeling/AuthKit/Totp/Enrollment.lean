import AuthKit.Library.PercentEncoding

/-!
# Percent-encoding of enrollment fields

`urlencoding`, which the `otpauth://` URI uses for issuer and account. It escapes every byte
that is not unreserved, with upper-case digits, and so is one of the spellings of its argument.
-/
namespace AuthKit.Totp

/-- `{:X}` of a value below 16. -/
def upperHex (value : Nat) : Char := if value < 10 then .ofNat (48 + value) else .ofNat (55 + value)

def urlencodingByte (b : UInt8) : List Char :=
  if (0x41 ≤ b ∧ b ≤ 0x5A) ∨ (0x61 ≤ b ∧ b ≤ 0x7A) ∨ (0x30 ≤ b ∧ b ≤ 0x39) ∨ b = 0x2D ∨ b = 0x5F ∨
      b = 0x2E ∨ b = 0x7E then
    [.ofUInt8 b]
  else ['%', upperHex (b.toNat / 16), upperHex (b.toNat % 16)]

def urlencoding (s : String) : String :=
  .ofList ((Text.utf8 s.toList).flatMap urlencodingByte)

theorem hexValue?_upperHex : ∀ value < 16,
    PercentEncoding.hexValue? (upperHex value).toNat = some value := by
  decide

/-- One byte is written as itself when it is unreserved, and escaped otherwise. -/
theorem urlencodingByte_spells (b : UInt8) : PercentEncoding.Spells [b] (urlencodingByte b) := by
  have size : b.toNat < 256 := b.toNat_lt
  unfold urlencodingByte
  split
  next plain =>
    have code : (Char.ofUInt8 b).toNat = b.toNat := UInt8.toNat_toUInt32 b
    have unreserved : PercentEncoding.Unreserved (Char.ofUInt8 b).toNat := by
      simp only [UInt8.le_iff_toNat_le, ← UInt8.toNat_inj, UInt8.reduceToNat] at plain
      rw [code, PercentEncoding.Unreserved]
      omega
    have spelled := PercentEncoding.Spells.literal (Char.ofUInt8 b) unreserved .nil
    rw [code, UInt8.ofNat_toNat] at spelled
    exact spelled
  next =>
    have spelled := PercentEncoding.Spells.escaped _ _ (b.toNat / 16) (b.toNat % 16)
      (hexValue?_upperHex _ (by omega)) (hexValue?_upperHex _ (by omega)) .nil
    rw [Nat.div_add_mod, UInt8.ofNat_toNat] at spelled
    exact spelled

/-- `urlencoding` is a spelling of the bytes of its argument. -/
theorem urlencoding_spells (s : String) :
    PercentEncoding.Spells (Text.utf8 s.toList) (urlencoding s).toList := by
  rw [urlencoding, String.toList_ofList]
  induction Text.utf8 s.toList with
  | nil => exact .nil
  | cons b rest ih => exact (urlencodingByte_spells b).append ih

end AuthKit.Totp
