import AuthKit.Library.Base32

/-!
# Base64 without padding

The bits of the data, filled up with zeros to a multiple of six, are written with one symbol for
every six. The two alphabets of RFC 4648 differ in their last two symbols.
-/
namespace Base64

/-- `A` to `Z`, `a` to `z`, `0` to `9`, then the two symbols that are given. -/
def symbol (last : Char × Char) (value : Nat) : Char :=
  if value < 26 then .ofNat (65 + value)
  else if value < 52 then .ofNat (71 + value)
  else if value < 62 then .ofNat (value - 4)
  else if value = 62 then last.1
  else last.2

def standard : Char × Char := ('+', '/')

def urlSafe : Char × Char := ('-', '_')

def symbolValue (c : Char) : Nat :=
  if 65 ≤ c.toNat ∧ c.toNat ≤ 90 then c.toNat - 65
  else if 97 ≤ c.toNat ∧ c.toNat ≤ 122 then c.toNat - 71
  else if 48 ≤ c.toNat ∧ c.toNat ≤ 57 then c.toNat + 4
  else if c = '+' ∨ c = '-' then 62
  else 63

theorem symbolValue_symbol (last : Char × Char) (known : last = standard ∨ last = urlSafe) :
    ∀ value < 64, symbolValue (symbol last value) = value := by
  rcases known with rfl | rfl <;> decide

/-! ### Encoding -/

/-- The symbols that data of so many bytes takes. -/
def symbolCount (size : Nat) : Nat := (8 * size + 5) / 6

/-- The zero bits that fill the last symbol. -/
def filling (size : Nat) : Nat := 6 * symbolCount size - 8 * size

def encode (last : Char × Char) (data : List UInt8) : List Char :=
  (Numeral.digits 64 (symbolCount data.length)
    (Base32.dataValue data * 2 ^ filling data.length)).reverse.map (symbol last)

theorem length_encode (last : Char × Char) (data : List UInt8) :
    (encode last data).length = symbolCount data.length := by
  rw [encode, List.length_map, List.length_reverse, Numeral.length_digits]

theorem symbolCount_inj (size size' : Nat) (same : symbolCount size = symbolCount size') :
    size = size' := by
  unfold symbolCount at same
  omega

theorem pow_symbolCount (size : Nat) : 64 ^ symbolCount size = 256 ^ size * 2 ^ filling size := by
  have bits : 8 * size + filling size = 6 * symbolCount size := by
    unfold filling symbolCount
    omega
  rw [show (64 : Nat) = 2 ^ 6 from rfl, show (256 : Nat) = 2 ^ 8 from rfl, ← Nat.pow_mul,
    ← Nat.pow_mul, ← Nat.pow_add, bits]

theorem filled_lt (data : List UInt8) :
    Base32.dataValue data * 2 ^ filling data.length < 64 ^ symbolCount data.length := by
  rw [pow_symbolCount]
  exact Nat.mul_lt_mul_of_pos_right (Base32.dataValue_lt data) (Nat.two_pow_pos _)

/-- Every character of an encoding is a symbol. -/
theorem symbol_of_mem_encode (last : Char × Char) (data : List UInt8) (c : Char)
    (member : c ∈ encode last data) : ∃ value < 64, c = symbol last value := by
  obtain ⟨value, digit, rfl⟩ := List.mem_map.mp member
  exact ⟨value, Numeral.digits_lt (by decide) _ _ _ (List.mem_reverse.mp digit), rfl⟩

/-- The values of the symbols are the digits that were written. -/
theorem values_encode (last : Char × Char) (known : last = standard ∨ last = urlSafe)
    (data : List UInt8) :
    (encode last data).map symbolValue =
      (Numeral.digits 64 (symbolCount data.length)
        (Base32.dataValue data * 2 ^ filling data.length)).reverse := by
  rw [encode, List.map_map]
  refine (List.map_congr_left fun value digit => ?_).trans (List.map_id _)
  exact symbolValue_symbol last known value
    (Numeral.digits_lt (by decide) _ _ _ (List.mem_reverse.mp digit))

/-- Different data is written differently. -/
theorem encode_inj (last : Char × Char) (known : last = standard ∨ last = urlSafe)
    (data data' : List UInt8) (same : encode last data = encode last data') : data = data' := by
  have size : data.length = data'.length := by
    apply symbolCount_inj
    rw [← length_encode last data, same, length_encode]
  have digits := congrArg (List.map symbolValue) same
  rw [values_encode last known, values_encode last known, List.reverse_inj, ← size] at digits
  have below := filled_lt data'
  rw [← size] at below
  -- both numbers fit the numeral, and the filling is the same
  have filled := congrArg (Nat.ofDigits 64) digits
  rw [Numeral.ofDigits_digits _ _ (filled_lt data), Numeral.ofDigits_digits _ _ below] at filled
  have value := Nat.eq_of_mul_eq_mul_right (Nat.two_pow_pos _) filled
  rw [← Base32.digits_dataValue data, ← Base32.digits_dataValue data', value, size]

example : encode standard [0x66, 0x6F, 0x6F, 0x62] = "Zm9vYg".toList := by decide

end Base64
