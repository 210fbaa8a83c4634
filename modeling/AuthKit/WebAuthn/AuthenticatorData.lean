import AuthKit.Totp.Hotp
import AuthKit.WebAuthn.Types

/-!
# Authenticator data

The fixed header of authenticator data: the hash of the relying party, a byte of flags of which
two bits are reserved, and the signature counter. Parsing it undoes encoding it, and loses of a
blob no more than the reserved bits and what follows the header.
-/
namespace AuthKit.WebAuthn

open AuthKit.Totp (fromBeBytes)

namespace AuthenticatorDataFlags

def fromByte (b : UInt8) : AuthenticatorDataFlags where
  up := b &&& 0x01 != 0
  uv := b &&& 0x04 != 0
  be := b &&& 0x08 != 0
  bs := b &&& 0x10 != 0
  «at» := b &&& 0x40 != 0
  ed := b &&& 0x80 != 0

def toByte (flags : AuthenticatorDataFlags) : UInt8 :=
  let b : UInt8 := 0
  let b := if flags.up then b ||| 0x01 else b
  let b := if flags.uv then b ||| 0x04 else b
  let b := if flags.be then b ||| 0x08 else b
  let b := if flags.bs then b ||| 0x10 else b
  let b := if flags.at then b ||| 0x40 else b
  if flags.ed then b ||| 0x80 else b

theorem fromByte_toByte (flags : AuthenticatorDataFlags) : fromByte flags.toByte = flags := by
  rcases flags with ⟨_ | _, _ | _, _ | _, _ | _, _ | _, _ | _⟩ <;> rfl

/-- A byte of flags comes back without its reserved bits. -/
theorem toByte_fromByte (b : UInt8) : (fromByte b).toByte = b &&& ~~~0x22 := by
  have all : ∀ n < 256, (fromByte (.ofNat n)).toByte = .ofNat n &&& ~~~0x22 := by
    decide +kernel
  have same := all b.toNat b.toNat_lt
  rwa [UInt8.ofNat_toNat] at same

end AuthenticatorDataFlags

/-- `u32::to_be_bytes`. -/
def toBeBytes (value : UInt32) : List UInt8 :=
  [value >>> 24, value >>> 16, value >>> 8, value].map UInt32.toUInt8

/-- The bytes as quotients. -/
private theorem map_toNat_toBeBytes (value : UInt32) :
    (toBeBytes value).map UInt8.toNat = [value.toNat / 16777216, value.toNat / 65536 % 256,
      value.toNat / 256 % 256, value.toNat % 256] := by
  have size := value.toNat_lt
  simp [toBeBytes, Nat.shiftRight_eq_div_pow]
  omega

theorem toBeBytes_fromBeBytes (a b c d : UInt8) :
    toBeBytes (fromBeBytes a b c d) = [a, b, c, d] := by
  have size1 := a.toNat_lt
  have size2 := b.toNat_lt
  have size3 := c.toNat_lt
  have size4 := d.toNat_lt
  apply List.map_injective_iff.mpr fun _ _ => UInt8.toNat_inj.mp
  rw [map_toNat_toBeBytes, fromBeBytes, UInt32.toNat_ofNat', Nat.mod_eq_of_lt (by omega)]
  simp only [List.map_cons, List.map_nil, List.cons.injEq, and_true]
  omega

theorem fromBeBytes_toBeBytes (value : UInt32) :
    ∃ a b c d, toBeBytes value = [a, b, c, d] ∧ fromBeBytes a b c d = value := by
  have size := value.toNat_lt
  have bytes := map_toNat_toBeBytes value
  refine ⟨_, _, _, _, rfl, ?_⟩
  simp only [toBeBytes, List.map_cons, List.map_nil, List.cons.injEq, and_true] at bytes
  apply UInt32.toNat_inj.mp
  rw [fromBeBytes, UInt32.toNat_ofNat', Nat.mod_eq_of_lt (by omega)]
  omega

namespace AuthenticatorData

/-- The error for short input is not one of its own. -/
def parse (bytes : List UInt8) : Except WebAuthnError AuthenticatorData :=
  if short : bytes.length < 37 then .error .userPresenceNotSet
  else
    .ok
      { rpIdHash := ⟨(bytes.take 32).toArray, by simp; omega⟩
        flags := .fromByte bytes[32]
        signCount := fromBeBytes bytes[33] bytes[34] bytes[35] bytes[36] }

/-- The header that spells the data: hash, flags, counter. -/
def header (data : AuthenticatorData) : List UInt8 :=
  data.rpIdHash.toList ++ data.flags.toByte :: toBeBytes data.signCount

/-- Whatever has room for a header has the parts of one in front. -/
theorem exists_parts (bytes : List UInt8) (long : 37 ≤ bytes.length) :
    ∃ hash flags a b c d tail, hash.length = 32 ∧
      bytes = hash ++ flags :: a :: b :: c :: d :: tail := by
  refine ⟨bytes.take 32, bytes[32], bytes[33], bytes[34], bytes[35], bytes[36], bytes.drop 37, ?_, ?_⟩
  · rw [List.length_take]
    omega
  · rw [← List.drop_eq_getElem_cons, ← List.drop_eq_getElem_cons, ← List.drop_eq_getElem_cons,
      ← List.drop_eq_getElem_cons, ← List.drop_eq_getElem_cons, List.take_append_drop]

/-- The parts of a header go into the fields, and what follows them is ignored. -/
theorem parse_parts (hash : List UInt8) (size : hash.length = 32) (flags a b c d : UInt8)
    (tail : List UInt8) :
    parse (hash ++ flags :: a :: b :: c :: d :: tail) =
      .ok ⟨⟨hash.toArray, by simpa using size⟩, .fromByte flags, fromBeBytes a b c d⟩ := by
  have long : ¬ (hash ++ flags :: a :: b :: c :: d :: tail).length < 37 := by
    simp only [List.length_append, List.length_cons]
    omega
  rw [parse, dif_neg long]
  simp [size]

/-- The first 37 bytes without the reserved bits `0x02` and `0x20` of the flags. -/
def cleared (bytes : List UInt8) : List UInt8 :=
  (bytes.take 37).modify 32 (· &&& ~~~0x22)

theorem cleared_parts (hash : List UInt8) (size : hash.length = 32) (flags a b c d : UInt8)
    (tail : List UInt8) :
    cleared (hash ++ flags :: a :: b :: c :: d :: tail) =
      hash ++ [flags &&& ~~~0x22, a, b, c, d] := by
  have front : (hash ++ flags :: a :: b :: c :: d :: tail).take 37 = hash ++ [flags, a, b, c, d] := by
    simp [List.take_append, size]
  rw [cleared, front, List.modify_eq_take_drop, ← size, List.take_left, List.drop_left]
  rfl

/-- Parsing inverts encoding: it succeeds exactly where there is room for a header, what it
returns spells the header of the blob up to the reserved bits, whatever follows the header is
ignored, and an encoded header is read back as it was. -/
theorem parse_inverts_header :
    (∀ bytes, (∃ data, parse bytes = .ok data) ↔ 37 ≤ bytes.length) ∧
    (∀ bytes data, parse bytes = .ok data → data.header = cleared bytes) ∧
    (∀ bytes tail, 37 ≤ bytes.length → parse (bytes ++ tail) = parse bytes) ∧
    (∀ data tail, parse (data.header ++ tail) = .ok data) := by
  have short : ∀ bytes data, parse bytes = .ok data → 37 ≤ bytes.length := by
    intro bytes data parsed
    by_contra few
    rw [parse, dif_pos (by omega)] at parsed
    cases parsed
  refine ⟨?_, ?_, ?_, ?_⟩
  · intro bytes
    constructor
    · rintro ⟨data, parsed⟩
      exact short bytes data parsed
    · intro long
      obtain ⟨hash, flags, a, b, c, d, tail, size, rfl⟩ := exists_parts bytes long
      exact ⟨_, parse_parts hash size flags a b c d tail⟩
  · -- a blob that parsed is its parts, which `header` writes out again
    intro bytes data parsed
    obtain ⟨hash, flags, a, b, c, d, tail, size, rfl⟩ := exists_parts bytes (short bytes data parsed)
    rw [parse_parts hash size, Except.ok.injEq] at parsed
    rw [← parsed, cleared_parts hash size, header]
    simp [toBeBytes_fromBeBytes, AuthenticatorDataFlags.toByte_fromByte]
  · -- both sides read the same parts; only the ignored rest differs
    intro bytes tail long
    obtain ⟨hash, flags, a, b, c, d, rest, size, rfl⟩ := exists_parts bytes long
    rw [List.append_assoc]
    exact (parse_parts hash size flags a b c d (rest ++ tail)).trans
      (parse_parts hash size flags a b c d rest).symm
  · intro data tail
    obtain ⟨a, b, c, d, spelled, value⟩ := fromBeBytes_toBeBytes data.signCount
    have parsed := parse_parts data.rpIdHash.toList (by simp) data.flags.toByte a b c d tail
    rw [header, spelled, List.append_assoc]
    refine parsed.trans ?_
    rw [value, AuthenticatorDataFlags.fromByte_toByte]
    rfl

/-- With all bits set, the reserved ones are lost, and so are the last three bytes. -/
theorem full_header_cleared :
    ∃ data, parse (List.replicate 40 0xFF) = .ok data ∧
      data.header = List.replicate 32 0xFF ++ 0xDD :: List.replicate 4 0xFF := by
  obtain ⟨data, parsed⟩ := (parse_inverts_header.1 (List.replicate 40 0xFF)).mpr (by decide)
  exact ⟨data, parsed, (parse_inverts_header.2.1 _ data parsed).trans (by decide)⟩

end AuthenticatorData

end AuthKit.WebAuthn
