import Mathlib.Data.Nat.Digits.Lemmas

/-!
# Base32

Byte strings in the alphabet of RFC 4648: the bits of the data, filled up with zeros to a multiple
of five, are written with one symbol for every five. The decoder is strict: it wants the number of
symbols that some data has, and zeros for filling.
-/

/-! ### Numerals of a fixed width -/

namespace Numeral

/-- The digits of a number, the least significant first, cut off or filled up to the width. -/
def digits (base : Nat) : Nat → Nat → List Nat
  | 0, _ => []
  | width + 1, n => n % base :: digits base width (n / base)

@[simp] theorem length_digits (base width n : Nat) : (digits base width n).length = width := by
  induction width generalizing n with
  | zero => rfl
  | succ width ih => rw [digits, List.length_cons, ih]

theorem digits_lt {base : Nat} (positive : 0 < base) (width n : Nat) :
    ∀ digit ∈ digits base width n, digit < base := by
  induction width generalizing n with
  | zero => simp [digits]
  | succ width ih =>
    rw [digits, List.forall_mem_cons]
    exact ⟨Nat.mod_lt _ positive, ih _⟩

/-- A number that fits the width is the value of its digits. -/
theorem ofDigits_digits {base : Nat} (width n : Nat) (fits : n < base ^ width) :
    Nat.ofDigits base (digits base width n) = n := by
  induction width generalizing n with
  | zero =>
    rw [Nat.pow_zero, Nat.lt_one_iff] at fits
    simp [digits, fits]
  | succ width ih =>
    have quotient : n / base < base ^ width := by
      apply Nat.div_lt_of_lt_mul
      rwa [Nat.mul_comm, ← Nat.pow_succ]
    rw [digits, Nat.ofDigits_cons, ih _ quotient]
    exact Nat.mod_add_div n base

/-- Digits are the digits of their value. -/
theorem digits_ofDigits {base : Nat} (ds : List Nat) (small : ∀ digit ∈ ds, digit < base) :
    digits base ds.length (Nat.ofDigits base ds) = ds := by
  induction ds with
  | nil => rfl
  | cons d rest ih =>
    rw [List.forall_mem_cons] at small
    have positive : 0 < base := Nat.lt_of_le_of_lt (Nat.zero_le d) small.1
    rw [List.length_cons, digits, Nat.ofDigits_cons, Nat.add_mul_mod_self_left,
      Nat.mod_eq_of_lt small.1, Nat.add_mul_div_left _ _ positive, Nat.div_eq_of_lt small.1,
      Nat.zero_add, ih small.2]

end Numeral

/-! ### Symbols -/

namespace Base32

/-- `A` to `Z`, then `2` to `7`. -/
def symbol (value : Nat) : Char := if value < 26 then .ofNat (65 + value) else .ofNat (24 + value)

def symbolValue? (c : Char) : Option Nat :=
  if 65 ≤ c.toNat ∧ c.toNat ≤ 90 then some (c.toNat - 65)
  else if 50 ≤ c.toNat ∧ c.toNat ≤ 55 then some (c.toNat - 24)
  else none

def isSymbol (c : Char) : Bool := (symbolValue? c).isSome

theorem isSymbol_iff (c : Char) :
    isSymbol c = true ↔ (65 ≤ c.toNat ∧ c.toNat ≤ 90) ∨ (50 ≤ c.toNat ∧ c.toNat ≤ 55) := by
  unfold isSymbol symbolValue?
  split
  next upper => simp [upper]
  next other =>
    split
    next digit => simp [digit]
    next none => simp [other, none]

private theorem symbolValue?_symbol : ∀ value < 32, symbolValue? (symbol value) = some value := by
  decide

private theorem ofNat_upper : ∀ code < 91, 65 ≤ code → Char.ofNat code = symbol (code - 65) := by
  decide

private theorem ofNat_digit : ∀ code < 56, 50 ≤ code → Char.ofNat code = symbol (code - 24) := by
  decide

theorem symbolValue?_eq_some_iff (c : Char) (value : Nat) :
    symbolValue? c = some value ↔ value < 32 ∧ c = symbol value := by
  constructor
  · intro found
    unfold symbolValue? at found
    split at found
    next upper =>
      cases found
      refine ⟨by omega, ?_⟩
      -- a letter is the symbol of its place in the alphabet
      rw [← ofNat_upper c.toNat (by omega) upper.1, Char.ofNat_toNat]
    next =>
      split at found
      next digit =>
        cases found
        refine ⟨by omega, ?_⟩
        rw [← ofNat_digit c.toNat (by omega) digit.1, Char.ofNat_toNat]
      next => cases found
  · rintro ⟨small, rfl⟩
    exact symbolValue?_symbol value small

theorem isSymbol_symbol (value : Nat) (small : value < 32) : isSymbol (symbol value) = true := by
  rw [isSymbol, symbolValue?_symbol value small, Option.isSome_some]

/-- A text of symbols is made of the values of its characters. -/
theorem exists_values (text : List Char) (symbols : ∀ c ∈ text, isSymbol c = true) :
    ∃ values : List Nat, (∀ value ∈ values, value < 32) ∧ text = values.map symbol := by
  induction text with
  | nil => exact ⟨[], by simp, rfl⟩
  | cons c rest ih =>
    rw [List.forall_mem_cons] at symbols
    obtain ⟨values, small, rfl⟩ := ih symbols.2
    obtain ⟨value, found⟩ := Option.isSome_iff_exists.mp symbols.1
    obtain ⟨smallValue, rfl⟩ := (symbolValue?_eq_some_iff c value).mp found
    exact ⟨value :: values, List.forall_mem_cons.mpr ⟨smallValue, small⟩, rfl⟩

theorem mapM_symbolValue?_eq_some_iff (text : List Char) (values : List Nat) :
    text.mapM symbolValue? = some values ↔
      (∀ value ∈ values, value < 32) ∧ text = values.map symbol := by
  induction text generalizing values with
  | nil => cases values <;> simp
  | cons c rest ih =>
    simp only [List.mapM_cons, bind, Option.bind_eq_some_iff, pure, Option.some.injEq,
      symbolValue?_eq_some_iff, ih]
    constructor
    · rintro ⟨value, ⟨small, rfl⟩, tail, ⟨smallTail, rfl⟩, rfl⟩
      exact ⟨List.forall_mem_cons.mpr ⟨small, smallTail⟩, rfl⟩
    · rintro ⟨small, whole⟩
      cases values with
      | nil => cases whole
      | cons value tail =>
        rw [List.map_cons, List.cons.injEq] at whole
        rw [List.forall_mem_cons] at small
        exact ⟨value, ⟨small.1, whole.1⟩, tail, ⟨small.2, whole.2⟩, rfl⟩

/-! ### Encoding and decoding -/

/-- The symbols that data of so many bytes takes. -/
def symbolCount (size : Nat) : Nat := (8 * size + 4) / 5

/-- The zero bits that fill the last symbol. -/
def filling (size : Nat) : Nat := 5 * symbolCount size - 8 * size

def dataValue (data : List UInt8) : Nat := Nat.ofDigits 256 (data.reverse.map UInt8.toNat)

def encode (data : List UInt8) : List Char :=
  (Numeral.digits 32 (symbolCount data.length)
    (dataValue data * 2 ^ filling data.length)).reverse.map symbol

/-- The bytes of so many symbols, when all their bits are taken up by whole bytes and by a filling
of less than a symbol that is zero. -/
def decode (text : List Char) : Option (List UInt8) :=
  match text.mapM symbolValue? with
  | none => none
  | some values =>
      let size := 5 * values.length / 8
      let filled := Nat.ofDigits 32 values.reverse
      if symbolCount size = values.length ∧ filled % 2 ^ filling size = 0 then
        some ((Numeral.digits 256 size (filled / 2 ^ filling size)).reverse.map UInt8.ofNat)
      else none

/-- What stands after the symbols, up to a multiple of eight characters. -/
def padding (size : Nat) : List Char := List.replicate ((8 - symbolCount size % 8) % 8) '='

theorem length_encode (data : List UInt8) : (encode data).length = symbolCount data.length := by
  rw [encode, List.length_map, List.length_reverse, Numeral.length_digits]

private theorem toNat_lt (data : List UInt8) :
    ∀ digit ∈ data.reverse.map UInt8.toNat, digit < 256 := by
  rw [List.forall_mem_map]
  exact fun byte _ => byte.toNat_lt

theorem dataValue_lt (data : List UInt8) : dataValue data < 256 ^ data.length := by
  have below := Nat.ofDigits_lt_base_pow_length (by decide) (toNat_lt data)
  rwa [List.length_map, List.length_reverse] at below

/-- The bytes of data, as digits of its value. -/
theorem digits_dataValue (data : List UInt8) :
    (Numeral.digits 256 data.length (dataValue data)).reverse.map UInt8.ofNat = data := by
  have length : data.length = (data.reverse.map UInt8.toNat).length := by simp
  rw [dataValue, length, Numeral.digits_ofDigits _ (toNat_lt data), ← List.map_reverse,
    List.reverse_reverse, List.map_map]
  simp [Function.comp_def]

/-- The value of bytes that are given as numbers. -/
theorem dataValue_ofNat (bytes : List Nat) (small : ∀ byte ∈ bytes, byte < 256) :
    dataValue (bytes.reverse.map UInt8.ofNat) = Nat.ofDigits 256 bytes := by
  have same : bytes.map (UInt8.toNat ∘ UInt8.ofNat) = bytes.map id := by
    apply List.map_congr_left
    intro byte member
    exact UInt8.toNat_ofNat'.trans (Nat.mod_eq_of_lt (small byte member))
  rw [dataValue, ← List.map_reverse, List.reverse_reverse, List.map_map, same,
    List.map_id]

theorem bits_symbolCount (size : Nat) : 8 * size + filling size = 5 * symbolCount size := by
  unfold filling symbolCount
  omega

theorem size_symbolCount (size : Nat) : 5 * symbolCount size / 8 = size := by
  unfold symbolCount
  omega

theorem pow_symbolCount (size : Nat) : 32 ^ symbolCount size = 256 ^ size * 2 ^ filling size := by
  calc 32 ^ symbolCount size
      _ = 2 ^ (5 * symbolCount size) := (Nat.pow_mul 2 5 _).symm
      _ = 2 ^ (8 * size) * 2 ^ filling size := by rw [← bits_symbolCount, Nat.pow_add]
      _ = 256 ^ size * 2 ^ filling size := by rw [Nat.pow_mul 2 8]

theorem filled_lt (data : List UInt8) :
    dataValue data * 2 ^ filling data.length < 32 ^ symbolCount data.length := by
  rw [pow_symbolCount]
  exact Nat.mul_lt_mul_of_pos_right (dataValue_lt data) (Nat.two_pow_pos _)

/-- What is decoded is encoded as the same text. -/
theorem encode_of_decode (text : List Char) (data : List UInt8)
    (decoded : decode text = some data) : text = encode data := by
  unfold decode at decoded
  split at decoded
  next => cases decoded
  next values found =>
    obtain ⟨small, rfl⟩ := (mapM_symbolValue?_eq_some_iff text values).mp found
    dsimp only at decoded
    split at decoded
    next canonical =>
      obtain ⟨count, zeros⟩ := canonical
      have size : data.length = 5 * values.length / 8 := by
        rw [← Option.some.inj decoded]
        simp
      have smallReversed : ∀ value ∈ values.reverse, value < 32 := by simpa using small
      -- the value of the symbols fits, so that of the bytes is the same without the filling
      have fits := Nat.ofDigits_lt_base_pow_length (by decide) smallReversed
      rw [List.length_reverse, ← count, pow_symbolCount] at fits
      have value : dataValue data = Nat.ofDigits 32 values.reverse / 2 ^ filling data.length := by
        rw [← Option.some.inj decoded, dataValue_ofNat _ (Numeral.digits_lt (by decide) _ _),
          Numeral.ofDigits_digits _ _ (Nat.div_lt_of_lt_mul (by rwa [Nat.mul_comm]))]
        simp
      rw [encode, value, size, count, Nat.div_mul_cancel (Nat.dvd_of_mod_eq_zero zeros),
        ← List.length_reverse, Numeral.digits_ofDigits _ smallReversed, List.reverse_reverse]
    next => cases decoded

theorem decode_encode (data : List UInt8) : decode (encode data) = some data := by
  have digits := (mapM_symbolValue?_eq_some_iff (encode data) _).mpr
    ⟨by simpa using Numeral.digits_lt (by decide) (symbolCount data.length) _, rfl⟩
  have restored : Nat.ofDigits 32 (Numeral.digits 32 (symbolCount data.length)
      (dataValue data * 2 ^ filling data.length)) = dataValue data * 2 ^ filling data.length :=
    Numeral.ofDigits_digits _ _ (filled_lt data)
  unfold decode
  rw [digits]
  simp only [List.length_reverse, Numeral.length_digits, size_symbolCount, List.reverse_reverse,
    restored, Nat.mul_mod_left, and_self, if_true, Nat.mul_div_cancel _ (Nat.two_pow_pos _),
    digits_dataValue]

/-- The decoder accepts exactly the encodings. -/
theorem decode_eq_some_iff (text : List Char) (data : List UInt8) :
    decode text = some data ↔ text = encode data := by
  constructor
  · exact encode_of_decode text data
  · rintro rfl
    exact decode_encode data

example : encode [0x66, 0x6F, 0x6F, 0x62, 0x61, 0x72] = "MZXW6YTBOI".toList := by decide

theorem isSymbol_of_mem_encode (data : List UInt8) (c : Char) (member : c ∈ encode data) :
    isSymbol c = true := by
  obtain ⟨value, digit, rfl⟩ := List.mem_map.mp member
  exact isSymbol_symbol value (Numeral.digits_lt (by decide) _ _ value (List.mem_reverse.mp digit))

/-- Where the bits need no filling, every text of that many symbols is an encoding. -/
theorem exists_encode_iff (text : List Char) (size : Nat) (whole : filling size = 0) :
    (∃ data, data.length = size ∧ text = encode data) ↔
      text.length = symbolCount size ∧ ∀ c ∈ text, isSymbol c = true := by
  constructor
  · rintro ⟨data, rfl, rfl⟩
    exact ⟨length_encode data, isSymbol_of_mem_encode data⟩
  · rintro ⟨length, symbols⟩
    obtain ⟨values, small, rfl⟩ := exists_values text symbols
    rw [List.length_map] at length
    have decoded : ∃ data, decode (values.map symbol) = some data ∧ data.length = size := by
      unfold decode
      rw [(mapM_symbolValue?_eq_some_iff _ values).mpr ⟨small, rfl⟩]
      simp [length, size_symbolCount, whole, Nat.mod_one]
    obtain ⟨data, decodes, sameSize⟩ := decoded
    exact ⟨data, sameSize, encode_of_decode _ data decodes⟩

end Base32
