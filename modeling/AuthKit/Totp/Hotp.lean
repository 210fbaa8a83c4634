import Mathlib.Tactic.Positivity

/-!
# HOTP

`hotp` is RFC 4226 over an arbitrary HMAC. A result `none` stands for a panic: an index out of
range, an arithmetic overflow in a build that checks for it, or a format width that the
standard library rejects.
-/
namespace AuthKit.Totp

/-- Overflow checks are on in debug builds; release builds wrap. -/
inductive Profile where
  | debug
  | release
  deriving DecidableEq

inductive TotpAlgorithm where
  | sha1
  | sha256
  | sha512
  deriving DecidableEq, Repr

def TotpAlgorithm.outputLen : TotpAlgorithm → Nat
  | .sha1 => 20
  | .sha256 => 32
  | .sha512 => 64

/-- An HMAC for each algorithm, with digests of the algorithm's length. -/
structure Hmac where
  mac : TotpAlgorithm → List UInt8 → List UInt8 → List UInt8
  length_mac : ∀ algorithm key message, (mac algorithm key message).length = algorithm.outputLen

/-- `u64::to_be_bytes`. -/
def toBeBytes (counter : UInt64) : List UInt8 :=
  [counter >>> 56, counter >>> 48, counter >>> 40, counter >>> 32, counter >>> 24,
    counter >>> 16, counter >>> 8, counter].map UInt64.toUInt8

/-- `u32::from_be_bytes`. -/
def fromBeBytes (a b c d : UInt8) : UInt32 :=
  .ofNat (a.toNat * 16777216 + b.toNat * 65536 + c.toNat * 256 + d.toNat)

/-- `10u32.pow(exponent)`. -/
def pow10 (profile : Profile) (exponent : Nat) : Option UInt32 :=
  if 10 ^ exponent < 2 ^ 32 then some (.ofNat (10 ^ exponent))
  else
    match profile with
    | .debug => none
    -- the product wraps
    | .release => some (.ofNat (10 ^ exponent))

/-- `format!("{:0>width$}", code)`; the runtime rejects widths beyond 16 bits. -/
def formatCode (code width : UInt32) : Option String :=
  if width > 65535 then none
  else some (.ofList (List.leftpad width.toNat '0' (Nat.toDigits 10 code.toNat)))

/-- RFC 4226 §5.3. -/
def dynamicTruncation (digest : List UInt8) (digestLen : Nat) : Option UInt32 := do
  let last ← digest[digestLen - 1]?
  -- the low nibble of the last byte
  let offset := (last &&& 0x0f).toNat
  let b0 ← digest[offset]?
  let b1 ← digest[offset + 1]?
  let b2 ← digest[offset + 2]?
  let b3 ← digest[offset + 3]?
  some (fromBeBytes (b0 &&& 0x7f) b1 b2 b3)

def hotp (profile : Profile) (hmac : Hmac) (secretBytes : List UInt8) (counter : UInt64)
    (digits : UInt32) (algorithm : TotpAlgorithm) : Option String := do
  let digest := hmac.mac algorithm secretBytes (toBeBytes counter)
  let digestLen := algorithm.outputLen
  -- the debug_assert on the digest length
  if profile = .debug ∧ digest.length ≠ digestLen then none
  let binCode ← dynamicTruncation digest digestLen
  let modulus ← pow10 profile (min digits.toNat 10)
  formatCode (binCode % modulus) digits

def constantTimeEq (a b : List UInt8) : Bool :=
  if a.length ≠ b.length then false
  -- every pair is visited, whatever the bytes are
  else ((a.zip b).foldl (fun acc pair => acc ||| (pair.1 ^^^ pair.2)) 0) == 0

/-! ### Truncation -/

theorem dynamicTruncation_of_length (digest : List UInt8) (long : 20 ≤ digest.length) :
    ∃ binCode, dynamicTruncation digest digest.length = some binCode := by
  have lastIndex : digest.length - 1 < digest.length := by omega
  -- the offset is a nibble, so the last byte read has index 18 at most
  have nibble : (digest[digest.length - 1] &&& 0x0f).toNat ≤ 15 := by
    rw [UInt8.toNat_and]
    exact Nat.and_le_right
  unfold dynamicTruncation
  rw [List.getElem?_eq_getElem lastIndex]
  simp only [Option.bind_eq_bind, Option.bind_some]
  rw [List.getElem?_eq_getElem (by omega), List.getElem?_eq_getElem (by omega),
    List.getElem?_eq_getElem (by omega), List.getElem?_eq_getElem (by omega)]
  simp only [Option.bind_some]
  exact ⟨_, rfl⟩

theorem truncation_total (hmac : Hmac) (algorithm : TotpAlgorithm) (key message : List UInt8) :
    ∃ binCode, dynamicTruncation (hmac.mac algorithm key message) algorithm.outputLen =
      some binCode := by
  have length := hmac.length_mac algorithm key message
  have long : 20 ≤ (hmac.mac algorithm key message).length := by
    rw [length]
    cases algorithm <;> decide
  rw [← length]
  exact dynamicTruncation_of_length _ long

/-! ### The shape of a code -/

theorem pow10_small (profile : Profile) (exponent : Nat) (small : exponent ≤ 9) :
    10 ^ exponent < 2 ^ 32 ∧ pow10 profile exponent = some (.ofNat (10 ^ exponent)) := by
  have bound : 10 ^ exponent ≤ 10 ^ 9 := Nat.pow_le_pow_right (by omega) small
  have fits : 10 ^ exponent < 2 ^ 32 := by omega
  unfold pow10
  exact ⟨fits, if_pos fits⟩

theorem formatCode_length (code width : UInt32) (text : String)
    (short : (Nat.toDigits 10 code.toNat).length ≤ max 1 width.toNat)
    (formatted : formatCode code width = some text) :
    text.toList.length = max 1 width.toNat := by
  have positive : 0 < (Nat.toDigits 10 code.toNat).length := Nat.length_toDigits_pos
  unfold formatCode at formatted
  split at formatted
  · cases formatted
  · cases formatted
    simp only [String.toList_ofList, List.leftpad, List.length_append, List.length_replicate]
    omega

/-- A remainder modulo `pow10` never has more decimal digits than the requested width. -/
theorem remainder_digits (profile : Profile) (digits binCode modulus : UInt32)
    (power : pow10 profile (min digits.toNat 10) = some modulus) :
    (Nat.toDigits 10 (binCode % modulus).toNat).length ≤ max 1 digits.toNat := by
  by_cases small : digits.toNat ≤ 9
  · -- the power fits, and a remainder is below it
    have exponent : min digits.toNat 10 = digits.toNat := by omega
    obtain ⟨fits, modulusEq⟩ := pow10_small profile digits.toNat small
    rw [exponent, modulusEq, Option.some.injEq] at power
    have value : modulus.toNat = 10 ^ digits.toNat := by
      rw [← power, UInt32.toNat_ofNat']
      exact Nat.mod_eq_of_lt fits
    have below : (binCode % modulus).toNat < 10 ^ digits.toNat := by
      rw [UInt32.toNat_mod, value]
      exact Nat.mod_lt _ (by positivity)
    have wide : 10 ^ digits.toNat ≤ 10 ^ max 1 digits.toNat :=
      Nat.pow_le_pow_right (by omega) (by omega)
    exact (Nat.length_toDigits_le_iff (by omega) (by omega)).mpr (lt_of_lt_of_le below wide)
  · -- a 32-bit number has at most ten digits, whatever the modulus wrapped to
    have bounded : (binCode % modulus).toNat < 10 ^ max 1 digits.toNat := by
      have width : 10 ^ 10 ≤ 10 ^ max 1 digits.toNat :=
        Nat.pow_le_pow_right (by omega) (by omega)
      have size : (binCode % modulus).toNat < 2 ^ 32 := (binCode % modulus).toNat_lt
      omega
    exact (Nat.length_toDigits_le_iff (by omega) (by omega)).mpr bounded

/-- Every code `hotp` returns has as many characters as digits were asked for (and one for the
degenerate request of zero digits). -/
theorem hotp_length (profile : Profile) (hmac : Hmac) (secretBytes : List UInt8)
    (counter : UInt64) (digits : UInt32) (algorithm : TotpAlgorithm) (code : String)
    (returned : hotp profile hmac secretBytes counter digits algorithm = some code) :
    code.toList.length = max 1 digits.toNat := by
  unfold hotp at returned
  simp only [Option.bind_eq_bind] at returned
  split at returned
  · cases returned
  · obtain ⟨binCode, _, returned⟩ := Option.bind_eq_some_iff.mp returned
    obtain ⟨modulus, power, formatted⟩ := Option.bind_eq_some_iff.mp returned
    exact formatCode_length _ digits code (remainder_digits profile digits binCode modulus power)
      formatted

/-- Up to nine digits nothing overflows in either build. -/
theorem hotp_total (profile : Profile) (hmac : Hmac) (secretBytes : List UInt8)
    (counter : UInt64) (digits : UInt32) (algorithm : TotpAlgorithm) (small : digits.toNat ≤ 9) :
    ∃ code, hotp profile hmac secretBytes counter digits algorithm = some code := by
  have power := (pow10_small profile (min digits.toNat 10) (by omega)).2
  have narrow : ¬ digits > 65535 := by
    intro wide
    have overflow : 65535 < digits.toNat := wide
    omega
  obtain ⟨binCode, truncated⟩ := truncation_total hmac algorithm secretBytes (toBeBytes counter)
  unfold hotp
  rw [if_neg (by simp [hmac.length_mac]), truncated, power]
  simp only [Option.bind_eq_bind, Option.bind_some, formatCode, if_neg narrow]
  exact ⟨_, rfl⟩

/-! ### Constant-time comparison -/

theorem foldl_or_eq_zero_iff (pairs : List (UInt8 × UInt8)) (acc : UInt8) :
    pairs.foldl (fun acc pair => acc ||| (pair.1 ^^^ pair.2)) acc = 0 ↔
      acc = 0 ∧ ∀ pair ∈ pairs, pair.1 = pair.2 := by
  induction pairs generalizing acc with
  | nil => simp
  | cons pair rest ih =>
    simp only [List.foldl_cons, ih, UInt8.or_eq_zero_iff, UInt8.xor_eq_zero_iff, List.mem_cons,
      forall_eq_or_imp, and_assoc]

theorem zip_agree_iff (a b : List UInt8) (sameLength : a.length = b.length) :
    (∀ pair ∈ a.zip b, pair.1 = pair.2) ↔ a = b := by
  induction a generalizing b with
  | nil => cases b <;> simp_all
  | cons x xs ih =>
    cases b with
    | nil => simp at sameLength
    | cons y ys =>
      simp only [List.length_cons, Nat.add_right_cancel_iff] at sameLength
      simp only [List.zip_cons_cons, List.mem_cons, forall_eq_or_imp, ih ys sameLength,
        List.cons.injEq]

theorem constantTimeEq_iff (a b : List UInt8) : constantTimeEq a b = true ↔ a = b := by
  unfold constantTimeEq
  split
  next lengths => simp only [Bool.false_eq_true, false_iff]; rintro rfl; exact lengths rfl
  next lengths =>
    rw [beq_iff_eq, foldl_or_eq_zero_iff, zip_agree_iff a b (not_not.mp lengths)]
    exact and_iff_right rfl

end AuthKit.Totp
