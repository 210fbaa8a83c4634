import AuthKit.Library.Base32
import AuthKit.Totp.Drift

/-!
# Secrets in base32

`to_base32` and `from_base32`. Reading a secret should tolerate lower case, spaces and outer
whitespace, and nothing else. It does tolerate something else: the text is upper-cased as Unicode
text, and there are characters outside ASCII that turn into symbols of the alphabet.
-/
namespace AuthKit.Totp

inductive TotpError where
  | invalidSecret (reason : String)
  | invalidCode
  deriving DecidableEq

/-- `base32::encode` and `base32::decode` with the alphabet `Rfc4648 { padding }`. The encoder follows
the RFC, and what it writes is decoded as it was. -/
structure Base32Crate where
  encode : (padding : Bool) → List UInt8 → String
  decode : (padding : Bool) → String → Option (List UInt8)
  encode_unpadded : ∀ data, (encode false data).toList = Base32.encode data
  decode_encode : ∀ data, decode false (encode false data) = some data

/-- A decoder that refuses whatever the RFC does not write. -/
structure StrictBase32Crate extends Base32Crate where
  decode_unpadded : ∀ text, decode false text = Base32.decode text.toList
  decode_padded : ∀ text data, decode true text = some data →
    text.toList = Base32.encode data ++ Base32.padding data.length

/-- `s.trim().to_uppercase().replace(' ', "")`. -/
def normalize (table : Char → List Char) (s : String) : String :=
  .ofList (Text.withoutSpaces (Text.toUppercase table (Text.trim s.toList)))

namespace TotpSecret

variable (table : Char → List Char) (crate : Base32Crate)

def toBase32 (secret : TotpSecret) : String := crate.encode false secret.bytes.toList

def fromBase32 (s : String) : Except TotpError TotpSecret :=
  let normalized := normalize table s
  if normalized.isEmpty then .error (.invalidSecret "empty base32 secret")
  else
    match (crate.decode false normalized).or (crate.decode true normalized) with
    | none => .error (.invalidSecret "invalid base32 encoding")
    | some bytes =>
        if length : bytes.length = 20 then .ok ⟨⟨bytes.toArray, length⟩⟩
        else .error (.invalidSecret "secret must be 160 bits")

theorem toBase32_toList (secret : TotpSecret) :
    (secret.toBase32 crate).toList = Base32.encode secret.bytes.toList :=
  crate.encode_unpadded _

/-- A secret is read from its own symbols. -/
theorem fromBase32_of_normalize (s : String) (secret : TotpSecret)
    (spelled : normalize table s = secret.toBase32 crate) :
    fromBase32 table crate s = .ok secret := by
  have length : secret.bytes.toList.length = 20 := by simp
  have decoded : crate.decode false (secret.toBase32 crate) = some secret.bytes.toList :=
    crate.decode_encode _
  have nonempty : (secret.toBase32 crate).isEmpty = false := by
    have count := congrArg List.length (secret.toBase32_toList crate)
    rw [Base32.length_encode, length] at count
    rw [Bool.eq_false_iff]
    intro empty
    rw [String.isEmpty_iff.mp empty] at count
    cases count
  unfold fromBase32
  simp only [spelled, nonempty, decoded, Option.some_or, length, Bool.false_eq_true, if_false,
    dite_true]
  rfl

/-- Text without padding and text with padding spell 160 bits in the same way: a strict decoder
reads a secret from nothing but its own symbols. -/
theorem fromBase32_ok_iff (strict : StrictBase32Crate) (s : String) (secret : TotpSecret) :
    fromBase32 table strict.toBase32Crate s = .ok secret ↔
      normalize table s = secret.toBase32 strict.toBase32Crate := by
  refine ⟨?_, fromBase32_of_normalize table _ s secret⟩
  rw [← String.toList_inj, toBase32_toList]
  intro read
  unfold fromBase32 at read
  dsimp only at read
  split at read
  next => cases read
  next =>
    split at read
    next => cases read
    next bytes decoded =>
      split at read
      next size =>
        cases read
        rcases Option.or_eq_some_iff.mp decoded with unpadded | ⟨_, padded⟩
        · rw [strict.decode_unpadded, Base32.decode_eq_some_iff] at unpadded
          exact unpadded
        · -- 160 bits take no padding
          have spelled := strict.decode_padded _ _ padded
          rw [size] at spelled
          exact spelled.trans (List.append_nil _)
      next => cases read

end TotpSecret

/-! ### Tolerated spellings -/

/-- The text is respelled: the ASCII case of letters may differ, and there may be spaces anywhere. -/
inductive Respells : List Char → List Char → Prop where
  | nil : Respells [] []
  | char (c d : Char) {text spelled : List Char} (sameLetter : d.toUpper = c.toUpper)
      (rest : Respells text spelled) : Respells (c :: text) (d :: spelled)
  | space {text spelled : List Char} (rest : Respells text spelled) : Respells text (' ' :: spelled)

/-- What is left of a spelling without its spaces, in upper case. -/
theorem respells_iff (text spelled : List Char) (plain : ' ' ∉ text) :
    Respells text spelled ↔
      (Text.withoutSpaces spelled).map Char.toUpper = text.map Char.toUpper := by
  constructor
  · intro respelled
    induction respelled with
    | nil => rfl
    | char c d sameLetter rest ih =>
      rw [List.mem_cons, not_or] at plain
      -- a space can only be the respelling of a space, and the text has none
      have visible : d ≠ ' ' := by
        rintro rfl
        exact plain.1 ((Text.toUpper_eq_space_iff c).mp sameLetter.symm).symm
      rw [Text.withoutSpaces_cons _ _ visible, List.map_cons, List.map_cons, sameLetter,
        ih plain.2]
    | space rest ih =>
      rw [Text.withoutSpaces_space]
      exact ih plain
  · intro same
    -- the text shrinks only where the spelling has no space, so the induction is on the spelling
    induction spelled generalizing text with
    | nil =>
      rw [List.map_eq_nil_iff.mp same.symm]
      exact .nil
    | cons d spelled ih =>
      by_cases space : d = ' '
      · subst space
        exact .space (ih text plain same)
      · rw [Text.withoutSpaces_cons _ _ space] at same
        cases text with
        | nil => cases same
        | cons c text =>
          rw [List.map_cons, List.map_cons, List.cons.injEq] at same
          rw [List.mem_cons, not_or] at plain
          exact .char c d same.1 (ih text plain.2 same.2)

section Spellings

variable (table : Char → List Char) (crate : Base32Crate)

/-- Whatever turns into a symbol in upper case is a letter or a digit of ASCII. -/
theorem codes_of_isSymbol_toUpper (c : Char) (symbol : Base32.isSymbol c.toUpper = true) :
    (65 ≤ c.toNat ∧ c.toNat ≤ 90) ∨ (97 ≤ c.toNat ∧ c.toNat ≤ 122) ∨
      (50 ≤ c.toNat ∧ c.toNat ≤ 55) := by
  rw [Base32.isSymbol_iff, Text.toNat_toUpper] at symbol
  split at symbol <;> omega

theorem toUpper_of_isSymbol (c : Char) (symbol : Base32.isSymbol c = true) : c.toUpper = c := by
  rw [Base32.isSymbol_iff] at symbol
  rw [← Char.toNat_inj, Text.toNat_toUpper, if_neg (by omega)]

theorem map_toUpper_encode (data : List UInt8) :
    (Base32.encode data).map Char.toUpper = Base32.encode data := by
  have same : (Base32.encode data).map Char.toUpper = (Base32.encode data).map id :=
    List.map_congr_left fun c member =>
      toUpper_of_isSymbol c (Base32.isSymbol_of_mem_encode data c member)
  rw [same, List.map_id]

/-- Without characters outside ASCII, Unicode has no say in how the text is read. -/
theorem normalize_ascii (s : String) (ascii : ∀ c ∈ Text.trim s.toList, c.toNat < 128) :
    (normalize table s).toList = (Text.withoutSpaces (Text.trim s.toList)).map Char.toUpper := by
  rw [normalize, String.toList_ofList, Text.toUppercase_ascii table _ ascii,
    Text.withoutSpaces_map_toUpper]

/-- A respelled base32 text with whitespace around it is normalized to the base32 text. -/
theorem normalize_respelled (secret : TotpSecret) (before spelled after : List Char)
    (respelled : Respells (secret.toBase32 crate).toList spelled)
    (blank : ∀ c ∈ before, Text.isWhitespace c = true)
    (blank' : ∀ c ∈ after, Text.isWhitespace c = true) :
    normalize table (.ofList (before ++ spelled ++ after)) = secret.toBase32 crate := by
  have plain : ' ' ∉ Base32.encode secret.bytes.toList := fun member =>
    absurd (Base32.isSymbol_of_mem_encode _ _ member) (by decide)
  rw [secret.toBase32_toList] at respelled
  have upper := (respells_iff _ _ plain).mp respelled
  rw [map_toUpper_encode] at upper
  -- every character but the spaces is a symbol in one of the two cases
  have letters (c : Char) (member : c ∈ spelled) (visible : c ≠ ' ') :
      Base32.isSymbol c.toUpper = true := by
    apply Base32.isSymbol_of_mem_encode secret.bytes.toList
    rw [← upper]
    exact List.mem_map_of_mem ((Text.mem_withoutSpaces c spelled).mpr ⟨member, visible⟩)
  have ascii (c : Char) (member : c ∈ spelled) : c.toNat < 128 := by
    by_cases space : c = ' '
    · rw [space]
      decide
    · have codes := codes_of_isSymbol_toUpper c (letters c member space)
      omega
  have blanks (c : Char) (member : c ∈ spelled) (white : Text.isWhitespace c = true) :
      decide (c ≠ ' ') = false := by
    rw [decide_eq_false_iff_not, not_not]
    by_contra visible
    have codes := codes_of_isSymbol_toUpper c (letters c member visible)
    rw [Text.isWhitespace, decide_eq_true_eq] at white
    omega
  have trimmed : Text.trim (String.ofList (before ++ spelled ++ after)).toList = Text.trim spelled := by
    rw [String.toList_ofList, Text.trim_append_whitespace before spelled after blank blank']
  rw [← String.toList_inj, normalize_ascii, trimmed,
    secret.toBase32_toList, ← upper, Text.withoutSpaces, Text.filter_trim _ _ blanks]
  · rfl
  · rw [trimmed]
    exact fun c member => ascii c (Text.mem_of_mem_trim member)

theorem Respells.refl (text : List Char) : Respells text text := by
  induction text with
  | nil => exact .nil
  | cons c rest ih => exact .char c c rfl ih

theorem fromBase32_toBase32 (secret : TotpSecret) :
    TotpSecret.fromBase32 table crate (secret.toBase32 crate) = .ok secret := by
  have itself := normalize_respelled table crate secret [] _ [] (.refl _) (by simp) (by simp)
  rw [List.nil_append, List.append_nil, String.ofList_toList] at itself
  exact TotpSecret.fromBase32_of_normalize table crate _ secret itself

/-- A secret is read from every spelling of its base32 text in any ASCII case, with spaces anywhere
and with whitespace around it. -/
theorem respelled_secret_read (secret : TotpSecret) (before spelled after : List Char)
    (respelled : Respells (secret.toBase32 crate).toList spelled)
    (blank : ∀ c ∈ before, Text.isWhitespace c = true)
    (blank' : ∀ c ∈ after, Text.isWhitespace c = true) :
    TotpSecret.fromBase32 table crate (.ofList (before ++ spelled ++ after)) = .ok secret :=
  TotpSecret.fromBase32_of_normalize table crate _ secret
    (normalize_respelled table crate secret before spelled after respelled blank blank')

/-- The text spells the secret: without outer whitespace, spaces and final padding it is the base32
text of the secret in any ASCII case. -/
def SpelledAs (s : String) (secret : TotpSecret) : Prop :=
  ((Text.withoutSpaces (Text.trim s.toList)).map Char.toUpper).rdropWhile
      (fun c => decide (c = '=')) = (secret.toBase32 crate).toList ∧
    ∀ c ∈ Text.trim s.toList, c = ' ' ∨ c = '=' ∨ Base32.isSymbol c.toUpper = true

/-- The symbols of 160 bits. -/
def SecretSymbols (text : List Char) : Prop :=
  text.length = 32 ∧ ∀ c ∈ text, Base32.isSymbol c = true

end Spellings

section Strict

variable (table : Char → List Char) (crate : StrictBase32Crate)

/-- Texts of 160 bits are the texts that are read. -/
theorem exists_fromBase32_iff (s : String) :
    (∃ secret, TotpSecret.fromBase32 table crate.toBase32Crate s = .ok secret) ↔
      SecretSymbols (Text.withoutSpaces (Text.toUppercase table (Text.trim s.toList))) := by
  have normalized : (normalize table s).toList =
      Text.withoutSpaces (Text.toUppercase table (Text.trim s.toList)) := String.toList_ofList
  rw [SecretSymbols, ← normalized]
  simp only [TotpSecret.fromBase32_ok_iff, ← String.toList_inj, TotpSecret.toBase32_toList]
  refine Iff.trans ?_ (Base32.exists_encode_iff (normalize table s).toList 20 (by decide))
  constructor
  · rintro ⟨secret, spelled⟩
    exact ⟨secret.bytes.toList, by simp, spelled⟩
  · rintro ⟨data, size, spelled⟩
    exact ⟨⟨⟨data.toArray, size⟩⟩, spelled⟩

/-- Text in ASCII that is read spells the secret. -/
theorem spelledAs_of_ascii (s : String) (ascii : ∀ c ∈ Text.trim s.toList, c.toNat < 128)
    (secret : TotpSecret) (read : TotpSecret.fromBase32 table crate.toBase32Crate s = .ok secret) :
    SpelledAs crate.toBase32Crate s secret := by
  rw [TotpSecret.fromBase32_ok_iff, ← String.toList_inj, normalize_ascii table s ascii] at read
  have symbols (c : Char) (member : c ∈ (secret.toBase32 crate.toBase32Crate).toList) :
      Base32.isSymbol c = true := by
    rw [secret.toBase32_toList] at member
    exact Base32.isSymbol_of_mem_encode _ c member
  constructor
  · -- no symbol is padding
    rw [read, List.rdropWhile_eq_self_iff]
    intro nonempty last
    have symbol := symbols _ (List.getLast_mem nonempty)
    rw [of_decide_eq_true last] at symbol
    cases symbol
  · intro c member
    by_cases space : c = ' '
    · exact Or.inl space
    · right
      right
      apply symbols
      rw [← read]
      exact List.mem_map_of_mem ((Text.mem_withoutSpaces c _).mpr ⟨member, space⟩)

/-- Whatever is read from a text is spelled by it iff the text, leaving whitespace around it aside,
has no character outside ASCII, or the symbols that it turns into are not those of a secret. -/
theorem read_text_spells_iff (s : String) :
    (∀ secret, TotpSecret.fromBase32 table crate.toBase32Crate s = .ok secret →
        SpelledAs crate.toBase32Crate s secret) ↔
      (∀ c ∈ Text.trim s.toList, c.toNat < 128) ∨
        ¬ SecretSymbols (Text.withoutSpaces (Text.toUppercase table (Text.trim s.toList))) := by
  constructor
  · intro spells
    by_contra wrong
    rw [not_or, not_not] at wrong
    obtain ⟨foreign, symbols⟩ := wrong
    -- a secret is read, and what it allows in the text are ASCII characters only
    obtain ⟨secret, read⟩ := (exists_fromBase32_iff table crate s).mpr symbols
    apply foreign
    intro c member
    rcases (spells secret read).2 c member with rfl | rfl | symbol
    · decide
    · decide
    · have codes := codes_of_isSymbol_toUpper c symbol
      omega
  · rintro (ascii | none) secret read
    · exact spelledAs_of_ascii table crate s ascii secret read
    · exact absurd ((exists_fromBase32_iff table crate s).mp ⟨secret, read⟩) none

end Strict

/-! ### A strict decoder and some Latin letters -/

/-- The RFC itself. -/
def rfcStrict : StrictBase32Crate where
  encode padding data :=
    .ofList (Base32.encode data ++ if padding then Base32.padding data.length else [])
  decode padding text :=
    if padding then
      (Base32.decode (text.toList.rdropWhile fun c => decide (c = '='))).filter fun data =>
        decide (text.toList = Base32.encode data ++ Base32.padding data.length)
    else Base32.decode text.toList
  encode_unpadded data := by simp
  decode_encode data := by simp [Base32.decode_encode]
  decode_unpadded text := rfl
  decode_padded text data decoded := by
    rw [if_pos rfl, Option.filter_eq_some_iff] at decoded
    exact of_decide_eq_true decoded.2

def rfcCrate : Base32Crate := rfcStrict.toBase32Crate

/-- Letters outside ASCII whose upper case consists of ASCII letters; other characters are left
alone here. -/
def latinTable : Char → List Char
  | 'ß' => ['S', 'S']
  | 'ı' => ['I']
  | 'ſ' => ['S']
  | 'ﬀ' => ['F', 'F']
  | 'ﬁ' => ['F', 'I']
  | 'ﬂ' => ['F', 'L']
  | 'ﬃ' => ['F', 'F', 'I']
  | 'ﬄ' => ['F', 'F', 'L']
  | 'ﬅ' => ['S', 'T']
  | 'ﬆ' => ['S', 'T']
  | c => [c]

/-- In groups of four, in lower case, with a tab before and a line feed behind. -/
theorem grouped_secret_read :
    TotpSecret.fromBase32 latinTable rfcCrate
      (.ofList (['\t'] ++ "gezd GNBV gy3t qojq gezd gnbv gy3t qojq ".toList ++ ['\n'])) =
        .ok rfcSecret := by
  apply respelled_secret_read latinTable rfcCrate rfcSecret
  · rw [respells_iff _ _ (by decide)]
    decide
  · decide
  · decide

/-- A sharp s followed by thirty letters `A` is read as the secret of `SS` and thirty `A`. -/
theorem sharp_s_read_as_secret :
    let s := "ßAAAAAAAAAAAAAAAAAAAAAAAAAAAAAA"
    let secret : TotpSecret := ⟨#v[0x94, 0x80, 0, 0, 0, 0, 0, 0, 0, 0, 0, 0, 0, 0, 0, 0, 0, 0, 0, 0]⟩
    TotpSecret.fromBase32 latinTable rfcCrate s = .ok secret ∧ ¬ SpelledAs rfcCrate s secret := by
  intro s secret
  refine ⟨TotpSecret.fromBase32_of_normalize latinTable rfcCrate s secret (by decide), ?_⟩
  rintro ⟨same, _⟩
  exact absurd same (by decide)

end AuthKit.Totp
