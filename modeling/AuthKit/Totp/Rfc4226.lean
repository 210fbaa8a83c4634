import AuthKit.Totp.Drift

/-!
# Agreement with RFC 4226

The code of a digest in the terms of the RFC: the last 31 bits of the four bytes that the digest
points at, modulo a power of ten, in decimal. `hotp` computes it for up to nine digits. From ten
digits on the power does not fit into 32 bits, and neither build computes the code: one panics,
the other one reduces by what is left of the power.
-/
namespace AuthKit.Totp

/-- The value of a byte string, most significant byte first. -/
def bigEndian (bytes : List UInt8) : Nat :=
  bytes.foldl (fun value byte => 256 * value + byte.toNat) 0

/-- The counter as the eight bytes that are authenticated. -/
def movingFactor (counter : Nat) : List UInt8 :=
  (List.range 8).map fun i => .ofNat (counter / 256 ^ (7 - i))

/-- The low-order four bits of the last byte. -/
def truncationOffset (digest : List UInt8) : Nat :=
  digest.getLast?.elim 0 UInt8.toNat % 16

/-- The last 31 bits of the four bytes at the offset. -/
def truncated (digest : List UInt8) : Nat :=
  bigEndian ((digest.drop (truncationOffset digest)).take 4) % 2 ^ 31

/-- `digits` decimal digits that spell the value, padded with zeros on the left. -/
structure IsCode (digits value : Nat) (code : String) : Prop where
  length : code.toList.length = digits
  decimal : ∀ c ∈ code.toList, c.isDigit = true
  value : Nat.ofDigitChars 10 code.toList 0 = value

/-- The code that the RFC assigns to the counter. -/
def IsHotp (hmac : Hmac) (secretBytes : List UInt8) (counter digits : Nat)
    (algorithm : TotpAlgorithm) (code : String) : Prop :=
  IsCode digits
    (truncated (hmac.mac algorithm secretBytes (movingFactor counter)) % 10 ^ digits) code

/-! ### The stages of `hotp` -/

theorem toBeBytes_eq (counter : UInt64) : toBeBytes counter = movingFactor counter.toNat := by
  have byte : ∀ value : UInt64, value.toUInt8 = UInt8.ofNat value.toNat := by
    intro value
    apply UInt8.toNat_inj.mp
    simp
  simp only [toBeBytes, movingFactor, List.map_cons, List.map_nil, byte, List.range_succ,
    List.range_zero, List.nil_append, List.cons_append, UInt64.toNat_shiftRight,
    Nat.shiftRight_eq_div_pow, Nat.sub_self, Nat.pow_zero, Nat.div_one]
  rfl

/-- The four bytes read one by one. -/
private theorem take_four (digest : List UInt8) (offset : Nat) (b0 b1 b2 b3 : UInt8)
    (first : digest[offset]? = some b0) (second : digest[offset + 1]? = some b1)
    (third : digest[offset + 2]? = some b2) (fourth : digest[offset + 3]? = some b3) :
    (digest.drop offset).take 4 = [b0, b1, b2, b3] := by
  obtain ⟨bound, rfl⟩ := List.getElem?_eq_some_iff.mp first
  obtain ⟨bound1, rfl⟩ := List.getElem?_eq_some_iff.mp second
  obtain ⟨bound2, rfl⟩ := List.getElem?_eq_some_iff.mp third
  obtain ⟨bound3, rfl⟩ := List.getElem?_eq_some_iff.mp fourth
  rw [List.drop_eq_getElem_cons bound, List.drop_eq_getElem_cons bound1,
    List.drop_eq_getElem_cons bound2, List.drop_eq_getElem_cons bound3]
  rfl

theorem fromBeBytes_toNat (b0 b1 b2 b3 : UInt8) :
    (fromBeBytes (b0 &&& 0x7f) b1 b2 b3).toNat = bigEndian [b0, b1, b2, b3] % 2 ^ 31 := by
  have masked : (b0 &&& 0x7f).toNat = b0.toNat % 128 := by
    rw [UInt8.toNat_and]
    exact Nat.and_two_pow_sub_one_eq_mod b0.toNat 7
  have size1 := b1.toNat_lt
  have size2 := b2.toNat_lt
  have size3 := b3.toNat_lt
  simp only [fromBeBytes, bigEndian, List.foldl_cons, List.foldl_nil, UInt32.toNat_ofNat', masked]
  omega

theorem dynamicTruncation_toNat (digest : List UInt8) (binCode : UInt32)
    (returned : dynamicTruncation digest digest.length = some binCode) :
    binCode.toNat = truncated digest := by
  unfold dynamicTruncation at returned
  simp only [Option.bind_eq_bind, Option.bind_eq_some_iff, Option.some.injEq] at returned
  obtain ⟨last, lastEq, b0, first, b1, second, b2, third, b3, fourth, rfl⟩ := returned
  have offset : truncationOffset digest = (last &&& 0x0f).toNat := by
    rw [truncationOffset, List.getLast?_eq_getElem?, lastEq, UInt8.toNat_and]
    exact (Nat.and_two_pow_sub_one_eq_mod last.toNat 4).symm
  rw [truncated, offset, take_four digest _ b0 b1 b2 b3 first second third fourth]
  exact fromBeBytes_toNat b0 b1 b2 b3

/-- What `format!` prints is the code of the number, when the number fits the width. -/
theorem formatCode_isCode (code width : UInt32) (narrow : width.toNat ≤ 65535)
    (fits : (Nat.toDigits 10 code.toNat).length ≤ width.toNat) :
    ∃ text, formatCode code width = some text ∧ IsCode width.toNat code.toNat text := by
  have rejected : ¬ width > 65535 := by
    intro wide
    have overflow : 65535 < width.toNat := wide
    omega
  refine ⟨_, if_neg rejected, ?_, ?_, ?_⟩
  · simp only [String.toList_ofList, List.leftpad, List.length_append, List.length_replicate]
    omega
  · intro c member
    simp only [String.toList_ofList, List.leftpad, List.mem_append] at member
    rcases member with padding | digit
    · rw [List.eq_of_mem_replicate padding]
      rfl
    · exact Nat.isDigit_of_mem_toDigits (by omega) (by omega) digit
  · -- the padding adds nothing to the value
    simp only [String.toList_ofList, List.leftpad]
    rw [Nat.ofDigitChars_append, Nat.ofDigitChars_replicate_zero, Nat.mul_zero,
      Nat.ofDigitChars_ten_toDigits]

/-! ### Up to nine digits, and beyond -/

/-- With at most nine digits `hotp` returns the code of the RFC, in both builds. -/
theorem hotp_isHotp (profile : Profile) (hmac : Hmac) (secretBytes : List UInt8)
    (counter : UInt64) (digits : UInt32) (algorithm : TotpAlgorithm)
    (positive : 1 ≤ digits.toNat) (small : digits.toNat ≤ 9) :
    ∃ code, hotp profile hmac secretBytes counter digits algorithm = some code ∧
      IsHotp hmac secretBytes counter.toNat digits.toNat algorithm code := by
  obtain ⟨binCode, truncates⟩ :=
    truncation_total hmac algorithm secretBytes (toBeBytes counter)
  have exponent : min digits.toNat 10 = digits.toNat := by omega
  obtain ⟨fits, power⟩ := pow10_small profile digits.toNat small
  -- neither the power of ten nor the truncation leaves 32 bits
  have value : (binCode % .ofNat (10 ^ digits.toNat)).toNat =
      truncated (hmac.mac algorithm secretBytes (movingFactor counter.toNat)) %
        10 ^ digits.toNat := by
    have dynamic := dynamicTruncation_toNat _ binCode
      ((hmac.length_mac algorithm secretBytes (toBeBytes counter)).symm ▸ truncates)
    rw [UInt32.toNat_mod, UInt32.toNat_ofNat', Nat.mod_eq_of_lt fits, dynamic, toBeBytes_eq]
  -- a remainder has at most as many digits as the power
  have short : (Nat.toDigits 10 (binCode % .ofNat (10 ^ digits.toNat)).toNat).length ≤
      digits.toNat := by
    have bound := remainder_digits profile digits binCode (.ofNat (10 ^ digits.toNat))
      (exponent.symm ▸ power)
    omega
  obtain ⟨code, formatted, isCode⟩ := formatCode_isCode _ digits (by omega) short
  refine ⟨code, ?_, ?_⟩
  · unfold hotp
    rw [if_neg (by simp [hmac.length_mac]), truncates, exponent, power]
    exact formatted
  · rw [IsHotp, ← value]
    exact isCode

/-- From ten digits on, the power of ten overflows. -/
theorem hotp_debug_overflow (hmac : Hmac) (secretBytes : List UInt8) (counter : UInt64)
    (digits : UInt32) (algorithm : TotpAlgorithm) (large : 10 ≤ digits.toNat) :
    hotp .debug hmac secretBytes counter digits algorithm = none := by
  obtain ⟨binCode, truncates⟩ :=
    truncation_total hmac algorithm secretBytes (toBeBytes counter)
  have exponent : min digits.toNat 10 = 10 := by omega
  have overflow : pow10 .debug 10 = none := by decide
  unfold hotp
  rw [if_neg (by simp [hmac.length_mac]), truncates, exponent, overflow]
  rfl

/-- `hotp` is RFC 4226, without an overflow in any build, exactly for up to nine digits. -/
theorem hotp_rfc4226_iff (hmac : Hmac) (secretBytes : List UInt8) (counter : UInt64)
    (digits : UInt32) (algorithm : TotpAlgorithm) (positive : 1 ≤ digits.toNat) :
    (∀ profile, ∃ code, hotp profile hmac secretBytes counter digits algorithm = some code ∧
      IsHotp hmac secretBytes counter.toNat digits.toNat algorithm code) ↔ digits.toNat ≤ 9 := by
  constructor
  · intro everywhere
    by_contra large
    obtain ⟨code, returned, _⟩ := everywhere .debug
    rw [hotp_debug_overflow hmac secretBytes counter digits algorithm (by omega)] at returned
    cases returned
  · intro small profile
    exact hotp_isHotp profile hmac secretBytes counter digits algorithm positive small

/-- Eight digits, as in the test vectors of RFC 6238. -/
theorem hotp_rfc4226_eight_digits :
    ∃ code, hotp .debug rfcHmac rfcSecret.bytes.toList 1 8 .sha1 = some code ∧
      IsHotp rfcHmac rfcSecret.bytes.toList 1 8 .sha1 code :=
  (hotp_rfc4226_iff rfcHmac rfcSecret.bytes.toList 1 8 .sha1 (by decide)).mpr (by decide) .debug

/-- Ten digits: the debug build panics, the release build prints another number. -/
theorem ten_digits_overflow :
    hotp .debug rfcHmac rfcSecret.bytes.toList 3 10 .sha1 = none ∧
    hotp .release rfcHmac rfcSecret.bytes.toList 3 10 .sha1 = some "0316904021" ∧
    IsHotp rfcHmac rfcSecret.bytes.toList 3 10 .sha1 "1726969429" ∧
    ¬ IsHotp rfcHmac rfcSecret.bytes.toList 3 10 .sha1 "0316904021" := by
  refine ⟨by decide, by decide, ⟨by decide, by decide, by decide⟩, ?_⟩
  intro wrong
  exact absurd wrong.value (by decide)

end AuthKit.Totp
