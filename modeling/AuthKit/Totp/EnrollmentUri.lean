import AuthKit.Library.Decimal
import AuthKit.Middleware.PkceStateSession
import AuthKit.Totp.Enrollment
import AuthKit.Totp.SecretBase32

/-!
# The enrollment URI

`enrollment_uri` joins its fields with `:`, `?`, `&` and `=`. None of these can occur inside a
field, so the text can be taken apart again, and every field is read back as it was.
-/
namespace AuthKit.Totp

open AuthKit.Middleware

def enrollmentUri (crate : Base32Crate) (secret : TotpSecret) (account issuer : String)
    (period : UInt64) (digits : UInt32) : String :=
  "otpauth://totp/" ++ urlencoding issuer ++ ":" ++ urlencoding account ++
    "?secret=" ++ secret.toBase32 crate ++ "&issuer=" ++ urlencoding issuer ++
    "&period=" ++ Nat.repr period.toNat ++ "&digits=" ++ Nat.repr digits.toNat ++ "&algorithm=SHA1"

/-! ### Queries -/

/-- A query with these parameters. -/
def queryText (params : List (String × String)) : List Char :=
  ['&'].intercalate (params.map fun param => param.1.toList ++ '=' :: param.2.toList)

/-- No delimiter where it would be taken for one. -/
def Delimited (param : String × String) : Prop :=
  '&' ∉ param.1.toList ∧ '=' ∉ param.1.toList ∧ '&' ∉ param.2.toList

theorem queryPair_param (param : String × String) (delimited : Delimited param) (key : String) :
    queryPair key.toList (param.1.toList ++ '=' :: param.2.toList) =
      if param.1 = key then some param.2.toList else none := by
  have split := (Text.splitOnce_eq_some_iff '=' (param.1.toList ++ '=' :: param.2.toList) _ _).mpr
    ⟨rfl, delimited.2.1⟩
  simp only [queryPair, split, String.toList_inj]

/-- The value of the first parameter of that name is found. -/
theorem queryParam_queryText (params : List (String × String)) (key : String)
    (delimited : ∀ param ∈ params, Delimited param) (nonempty : params ≠ []) :
    queryParam (queryText params) key.toList = (params.lookup key).map String.toList := by
  have closed : ∀ pair ∈ params.map fun param => param.1.toList ++ '=' :: param.2.toList,
      '&' ∉ pair := by
    rw [List.forall_mem_map]
    intro param member
    simp [(delimited param member).1, (delimited param member).2.2]
  rw [queryParam, queryText, List.splitOn_intercalate _ closed (by simpa using nonempty)]
  -- pair by pair, `find_map` and `lookup` look at the same names
  clear closed nonempty
  induction params with
  | nil => rfl
  | cons param rest ih =>
    rw [List.forall_mem_cons] at delimited
    rw [List.map_cons, List.findSome?_cons, queryPair_param param delimited.1 key, ih delimited.2,
      List.lookup_cons]
    by_cases same : param.1 = key
    · simp [same]
    · have other : (key == param.1) = false := beq_eq_false_iff_ne.mpr (Ne.symm same)
      simp [same, other]

/-! ### Reading -/

/-- `percent_decode_str` of a field that has to be UTF-8. -/
def percentDecoded (text : List Char) : Option String :=
  Text.decodeUtf8 (Text.percentDecode (Text.utf8 text))

/-- What an enrollment URI says. -/
structure EnrollmentFields where
  labelIssuer : String
  account : String
  secret : TotpSecret
  issuer : String
  period : Nat
  digits : Nat

/-- The URI taken apart. -/
def readEnrollmentUri (table : Char → List Char) (crate : Base32Crate) (uri : String) :
    Option EnrollmentFields := do
  let rest ← uri.toList.dropPrefix? "otpauth://totp/".toList
  let (label, query) ← Text.splitOnce '?' rest
  let (labelIssuer, account) ← Text.splitOnce ':' label
  let secret ← queryParam query "secret".toList
  let issuer ← queryParam query "issuer".toList
  let period ← queryParam query "period".toList
  let digits ← queryParam query "digits".toList
  return {
    labelIssuer := ← percentDecoded labelIssuer
    account := ← percentDecoded account
    secret := ← (TotpSecret.fromBase32 table crate (.ofList secret)).toOption
    issuer := ← percentDecoded issuer
    period := ← Decimal.decimal? period
    digits := ← Decimal.decimal? digits }

/-! ### Fields -/

theorem percentDecoded_urlencoding (s : String) :
    percentDecoded (urlencoding s).toList = some s := by
  rw [percentDecoded, Text.decodeUtf8_eq_some_iff]
  exact (urlencoding_spells s).percentDecode

theorem notMem_urlencoding (s : String) (delimiter : Char)
    (reserved : ¬ PercentEncoding.Unreserved delimiter.toNat) (other : delimiter ≠ '%') :
    delimiter ∉ (urlencoding s).toList :=
  (urlencoding_spells s).notMem delimiter reserved other

theorem notMem_toBase32 (crate : Base32Crate) (secret : TotpSecret) :
    '&' ∉ (secret.toBase32 crate).toList := by
  rw [secret.toBase32_toList]
  intro member
  exact absurd (Base32.isSymbol_of_mem_encode _ _ member) (by decide)

theorem notMem_repr (n : Nat) : '&' ∉ (Nat.repr n).toList := by
  rw [Nat.toList_repr]
  intro member
  have digit := Nat.isDigit_of_mem_toDigits (by decide) (by decide) member
  cases digit

section RoundTrip

variable (table : Char → List Char) (crate : Base32Crate) (secret : TotpSecret)
  (account issuer : String) (period : UInt64) (digits : UInt32)

/-- The parameters of the URI. -/
def enrollmentParams : List (String × String) :=
  [("secret", secret.toBase32 crate), ("issuer", urlencoding issuer),
    ("period", Nat.repr period.toNat), ("digits", Nat.repr digits.toNat), ("algorithm", "SHA1")]

theorem enrollmentParams_delimited :
    ∀ param ∈ enrollmentParams crate secret issuer period digits, Delimited param := by
  simp only [enrollmentParams, List.forall_mem_cons, Delimited]
  refine ⟨⟨by decide, by decide, notMem_toBase32 crate secret⟩,
    ⟨by decide, by decide, notMem_urlencoding issuer '&' (by decide) (by decide)⟩,
    ⟨by decide, by decide, notMem_repr _⟩, ⟨by decide, by decide, notMem_repr _⟩,
    ⟨by decide, by decide, by decide⟩, ?_⟩
  simp

theorem enrollmentUri_toList :
    (enrollmentUri crate secret account issuer period digits).toList =
      "otpauth://totp/".toList ++
        (((urlencoding issuer).toList ++ ':' :: (urlencoding account).toList) ++
          '?' :: queryText (enrollmentParams crate secret issuer period digits)) := by
  have intercalated (a b c d e : List Char) :
      ['&'].intercalate [a, b, c, d, e] =
        a ++ '&' :: (b ++ '&' :: (c ++ '&' :: (d ++ '&' :: e))) := by
    simp [List.intercalate]
  unfold enrollmentUri enrollmentParams queryText
  simp only [List.map_cons, List.map_nil, intercalated, String.toList_append]
  -- only the texts between the fields are compared
  generalize (urlencoding issuer).toList = issuerText
  generalize (urlencoding account).toList = accountText
  generalize (secret.toBase32 crate).toList = secretText
  generalize (Nat.repr period.toNat).toList = periodText
  generalize (Nat.repr digits.toNat).toList = digitsText
  simp only [String.reduceToList, List.append_assoc, List.cons_append, List.nil_append]

/-- Reading an enrollment URI gives back everything that it was built from. -/
theorem enrollment_uri_round_trip :
    readEnrollmentUri table crate (enrollmentUri crate secret account issuer period digits) =
      some ⟨issuer, account, secret, issuer, period.toNat, digits.toNat⟩ := by
  have start (rest : List Char) :
      ("otpauth://totp/".toList ++ rest).dropPrefix? "otpauth://totp/".toList = some rest :=
    List.dropPrefix?_append_of_beq rest (beq_self_eq_true _)
  have labelAndQuery (query : List Char) :
      Text.splitOnce '?' (((urlencoding issuer).toList ++ ':' :: (urlencoding account).toList) ++
        '?' :: query) =
      some ((urlencoding issuer).toList ++ ':' :: (urlencoding account).toList, query) := by
    rw [Text.splitOnce_eq_some_iff]
    simp [notMem_urlencoding _ '?' (by decide) (by decide)]
  have issuerAndAccount :
      Text.splitOnce ':' ((urlencoding issuer).toList ++ ':' :: (urlencoding account).toList) =
        some ((urlencoding issuer).toList, (urlencoding account).toList) := by
    rw [Text.splitOnce_eq_some_iff]
    exact ⟨rfl, notMem_urlencoding issuer ':' (by decide) (by decide)⟩
  -- every parameter is looked up in the list that was written
  have param (key : String) := queryParam_queryText
    (enrollmentParams crate secret issuer period digits) key
    (enrollmentParams_delimited crate secret issuer period digits) (by simp [enrollmentParams])
  have secretParam : (enrollmentParams crate secret issuer period digits).lookup "secret" =
      some (secret.toBase32 crate) := rfl
  have issuerParam : (enrollmentParams crate secret issuer period digits).lookup "issuer" =
      some (urlencoding issuer) := rfl
  have periodParam : (enrollmentParams crate secret issuer period digits).lookup "period" =
      some (Nat.repr period.toNat) := rfl
  have digitsParam : (enrollmentParams crate secret issuer period digits).lookup "digits" =
      some (Nat.repr digits.toNat) := rfl
  rw [readEnrollmentUri, enrollmentUri_toList]
  simp only [bind, Option.bind_some, pure, start, labelAndQuery, issuerAndAccount, param,
    secretParam, issuerParam, periodParam, digitsParam, Option.map_some, String.ofList_toList,
    percentDecoded_urlencoding, fromBase32_toBase32, Except.toOption, Decimal.decimal?_repr]

end RoundTrip

end AuthKit.Totp
