import Mathlib.Data.List.Basic

/-!
# Hexadecimal

Byte strings with two lower-case digits for each byte.
-/
namespace Hex

/-- `0` to `9`, then `a` to `f`. -/
def digit (value : Nat) : Char := if value < 10 then .ofNat (48 + value) else .ofNat (87 + value)

def byte (b : UInt8) : List Char := [digit (b.toNat / 16), digit (b.toNat % 16)]

def encode (bytes : List UInt8) : List Char := bytes.flatMap byte

theorem digit_inj : ∀ value < 16, ∀ value' < 16, digit value = digit value' → value = value' := by
  decide

theorem byte_inj (b b' : UInt8) (same : byte b = byte b') : b = b' := by
  have size : b.toNat < 256 := b.toNat_lt
  have size' : b'.toNat < 256 := b'.toNat_lt
  obtain ⟨high, low, _⟩ : digit (b.toNat / 16) = digit (b'.toNat / 16) ∧
      digit (b.toNat % 16) = digit (b'.toNat % 16) ∧ True := by simpa [byte] using same
  have highEq := digit_inj _ (by omega) _ (by omega) high
  have lowEq := digit_inj _ (by omega) _ (by omega) low
  exact UInt8.toNat_inj.mp (by omega)

/-- Different bytes are written differently: every byte takes two digits. -/
theorem encode_inj (bytes bytes' : List UInt8) (same : encode bytes = encode bytes') :
    bytes = bytes' := by
  induction bytes generalizing bytes' with
  | nil =>
    cases bytes' with
    | nil => rfl
    | cons b' rest' => simp [encode, byte] at same
  | cons b rest ih =>
    cases bytes' with
    | nil => simp [encode, byte] at same
    | cons b' rest' =>
      have parts : byte b ++ encode rest = byte b' ++ encode rest' := same
      obtain ⟨first, others⟩ := List.append_inj parts rfl
      rw [byte_inj b b' first, ih rest' others]

theorem digit_of_mem_encode (bytes : List UInt8) (c : Char) (member : c ∈ encode bytes) :
    ∃ value < 16, c = digit value := by
  obtain ⟨b, _, inByte⟩ := List.mem_flatMap.mp member
  have size : b.toNat < 256 := b.toNat_lt
  rcases List.mem_cons.mp inByte with rfl | low
  · exact ⟨_, by omega, rfl⟩
  · exact ⟨_, by omega, List.mem_singleton.mp low⟩

example : encode [0x55, 0x0E, 0x84, 0x00] = "550e8400".toList := by decide

end Hex
