import AuthKit.Library.Base64
import AuthKit.Totp.SecretBase32

/-!
# Secrets in base64

`to_base64` writes a secret for JSON APIs, and nothing reads that text back. If it is handed to
`from_base32` by mistake it must not be taken for another secret.
-/
namespace AuthKit.Totp

/-- `STANDARD_NO_PAD.encode`. -/
structure Base64Crate where
  encode : List UInt8 → String
  encode_standard : ∀ data, (encode data).toList = Base64.encode Base64.standard data

def TotpSecret.toBase64 (crate : Base64Crate) (secret : TotpSecret) : String :=
  crate.encode secret.bytes.toList

theorem symbol_plain : ∀ value < 64, (Base64.symbol Base64.standard value).toNat < 128 ∧
    Text.isWhitespace (Base64.symbol Base64.standard value) = false := by
  decide

/-- A text of visible ASCII characters keeps its length. -/
theorem length_normalize (table : Char → List Char) (s : String)
    (plain : ∀ c ∈ s.toList, c.toNat < 128 ∧ Text.isWhitespace c = false) :
    (normalize table s).toList.length = s.toList.length := by
  have trimmed : Text.trim s.toList = s.toList :=
    Text.trim_of_visible s.toList fun c member => (plain c member).2
  have visible : Text.withoutSpaces s.toList = s.toList := by
    rw [Text.withoutSpaces, List.filter_eq_self]
    intro c member
    refine decide_eq_true fun space => ?_
    have blank := (plain c member).2
    rw [space] at blank
    revert blank
    decide
  rw [normalize_ascii table s (by rw [trimmed]; exact fun c member => (plain c member).1), trimmed,
    visible, List.length_map]

/-- Nothing is decoded to more bits than there are symbols for. -/
def Base32Crate.Bounded (crate : Base32Crate) : Prop :=
  ∀ padding text data, crate.decode padding text = some data →
    8 * data.length ≤ 5 * text.toList.length

/-- So no secret is decoded from so few symbols. -/
theorem Base32Crate.Bounded.length_ne {crate : Base32Crate} (bounded : crate.Bounded)
    (text : String) (short : text.toList.length < 32) (data : List UInt8)
    (decoded : (crate.decode false text).or (crate.decode true text) = some data) :
    data.length ≠ 20 := by
  have bits : 8 * data.length ≤ 5 * text.toList.length := by
    rcases Option.or_eq_some_iff.mp decoded with unpadded | ⟨_, padded⟩
    · exact bounded false text data unpadded
    · exact bounded true text data padded
  omega

/-- A text of less than 160 bits is refused. -/
theorem fromBase32_of_short (table : Char → List Char) (crate : Base32Crate)
    (bounded : crate.Bounded) (s : String) (nonempty : (normalize table s).toList ≠ [])
    (short : (normalize table s).toList.length < 32) :
    TotpSecret.fromBase32 table crate s = .error (.invalidSecret "invalid base32 encoding") ∨
      TotpSecret.fromBase32 table crate s = .error (.invalidSecret "secret must be 160 bits") := by
  have filled : (normalize table s).isEmpty = false := by
    rw [Bool.eq_false_iff]
    intro empty
    rw [String.isEmpty_iff.mp empty] at nonempty
    exact nonempty rfl
  unfold TotpSecret.fromBase32
  simp only [filled, Bool.false_eq_true, if_false]
  split
  next => exact Or.inl rfl
  next data decoded =>
    rw [dif_neg (bounded.length_ne _ short data decoded)]
    exact Or.inr rfl

section Base64

variable (table : Char → List Char) (crate : Base32Crate) (crate64 : Base64Crate)
  (secret : TotpSecret)

theorem toBase64_toList : (secret.toBase64 crate64).toList =
    Base64.encode Base64.standard secret.bytes.toList := crate64.encode_standard _

theorem length_toBase64 : (secret.toBase64 crate64).toList.length = 27 := by
  rw [toBase64_toList, Base64.length_encode, Vector.length_toList]
  rfl

theorem symbol_of_mem_toBase64 : ∀ c ∈ (secret.toBase64 crate64).toList, ∃ value < 64,
    c = Base64.symbol Base64.standard value := by
  rw [toBase64_toList]
  exact Base64.symbol_of_mem_encode _ _

/-- The base64 text of a secret has 27 symbols and belongs to no other secret, and `from_base32`
reads no secret from it: it has too few symbols, whatever they are decoded to. -/
theorem base64_text_refused (bounded : crate.Bounded) :
    (secret.toBase64 crate64).toList.length = 27 ∧
    (∀ c ∈ (secret.toBase64 crate64).toList, ∃ value < 64,
      c = Base64.symbol Base64.standard value) ∧
    (∀ secret' : TotpSecret, secret'.toBase64 crate64 = secret.toBase64 crate64 →
      secret' = secret) ∧
    (TotpSecret.fromBase32 table crate (secret.toBase64 crate64) =
        .error (.invalidSecret "invalid base32 encoding") ∨
      TotpSecret.fromBase32 table crate (secret.toBase64 crate64) =
        .error (.invalidSecret "secret must be 160 bits")) := by
  have length := length_toBase64 crate64 secret
  have symbols := symbol_of_mem_toBase64 crate64 secret
  refine ⟨length, symbols, ?_, ?_⟩
  · intro secret' same
    have encoded := congrArg String.toList same
    rw [toBase64_toList, toBase64_toList] at encoded
    have bytes := Base64.encode_inj Base64.standard (Or.inl rfl) _ _ encoded
    exact congrArg TotpSecret.mk (Vector.toList_inj.mp bytes)
  · -- reading leaves the number of symbols as it is
    have normalized : (normalize table (secret.toBase64 crate64)).toList.length = 27 := by
      rw [length_normalize table _ fun c member => ?_, length]
      obtain ⟨value, small, rfl⟩ := symbols c member
      exact symbol_plain value small
    apply fromBase32_of_short table crate bounded
    · intro empty
      rw [empty] at normalized
      cases normalized
    · omega

end Base64

/-! ### A base64 text with digits that base32 lacks -/

def rfcCrate64 : Base64Crate where
  encode data := .ofList (Base64.encode Base64.standard data)
  encode_standard _ := String.toList_ofList

theorem StrictBase32Crate.bounded (strict : StrictBase32Crate) : strict.toBase32Crate.Bounded := by
  intro padding text data decoded
  have symbols : Base32.symbolCount data.length ≤ text.toList.length := by
    cases padding with
    | false =>
      rw [strict.decode_unpadded, Base32.decode_eq_some_iff] at decoded
      rw [decoded, Base32.length_encode]
    | true =>
      rw [strict.decode_padded text data decoded, List.length_append, Base32.length_encode]
      omega
  unfold Base32.symbolCount at symbols
  omega

theorem ascii_secret_refused :
    rfcSecret.toBase64 rfcCrate64 = "MTIzNDU2Nzg5MDEyMzQ1Njc4OTA" ∧
      ∀ secret, TotpSecret.fromBase32 latinTable rfcCrate (rfcSecret.toBase64 rfcCrate64) ≠
        .ok secret := by
  refine ⟨by decide, fun secret read => ?_⟩
  rcases (base64_text_refused latinTable rfcCrate rfcCrate64 rfcSecret rfcStrict.bounded).2.2.2 with
    refused | refused
  · rw [refused] at read
    cases read
  · rw [refused] at read
    cases read

end AuthKit.Totp
