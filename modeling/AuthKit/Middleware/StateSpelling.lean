import AuthKit.Middleware.FormState
import AuthKit.Totp.Enrollment

/-!
# Percent-encoded state tokens

A state token comes back from the authorization server in some percent-encoding, among other
parameters. Whatever the encoding and whatever surrounds it, the first parameter that is written
`state=` is read as the token, and the limit of 1024 bytes applies to the token.
-/
namespace AuthKit.Middleware

open Execution AuthKit.Domain

/-- A parameter before the token: any text between ampersands that is not `state=...`. -/
def Unrelated (segment : List Char) : Prop :=
  '&' ∉ segment ∧ ¬ "state=".toList <+: segment

instance (segment : List Char) : Decidable (Unrelated segment) :=
  inferInstanceAs (Decidable (_ ∧ _))

/-- The text of a query that has the raw value `raw` after other parameters. -/
def stateQuery (preceding : List (List Char)) (raw following : List Char) : List Char :=
  ['&'].intercalate (preceding ++ ["state=".toList ++ raw]) ++ following

private theorem stateQuery_cons (segment : List Char) (preceding : List (List Char))
    (raw following : List Char) :
    stateQuery (segment :: preceding) raw following =
      segment ++ '&' :: stateQuery preceding raw following := by
  cases preceding <;> simp [stateQuery, List.intercalate, List.intersperse]

/-- The parameters in front are passed over, and the raw value ends where the query goes on. -/
theorem queryParam_stateQuery (preceding : List (List Char)) (raw following : List Char)
    (unrelated : ∀ segment ∈ preceding, Unrelated segment) (closed : '&' ∉ raw)
    (delimited : following = [] ∨ ∃ rest, following = '&' :: rest) :
    queryParam (stateQuery preceding raw following) "state".toList = some raw := by
  have found : queryPair "state".toList ("state=".toList ++ raw) = some raw :=
    (queryPair_state_iff _ raw).mpr rfl
  induction preceding with
  | nil =>
    have whole : '&' ∉ "state=".toList ++ raw := by simp [closed]
    have start : stateQuery [] raw following = ("state=".toList ++ raw) ++ following := by
      simp [stateQuery, List.intercalate]
    rw [start, queryParam]
    rcases delimited with rfl | ⟨rest, rfl⟩
    · rw [List.append_nil, List.splitOn_eq_singleton whole, List.findSome?_cons, found]
    · rw [List.splitOn_append_cons_self_of_not_mem whole, List.findSome?_cons, found]
  | cons segment preceding ih =>
    rw [List.forall_mem_cons] at unrelated
    have passed : queryPair "state".toList segment = none := by
      by_contra taken
      obtain ⟨value, taken⟩ := Option.ne_none_iff_exists'.mp taken
      rw [(queryPair_state_iff segment value).mp taken] at unrelated
      exact unrelated.1.2 (List.prefix_append _ value)
    rw [stateQuery_cons, queryParam, List.splitOn_append_cons_self_of_not_mem unrelated.1.1,
      List.findSome?_cons, passed]
    exact ih unrelated.2

/-- A raw value that decodes to the bytes of a text is read as that text, within the limit. -/
theorem extractStateToken_of_raw (request : Request) (query : String) (raw : List Char) (s : String)
    (carried : request.query = some query)
    (param : queryParam query.toList "state".toList = some raw)
    (decodes : Text.percentDecode (Text.utf8 raw) = Text.utf8 s.toList) :
    extractStateToken request = if s.utf8ByteSize ≤ STATE_MAX_LEN then some s else none := by
  have decoded : Text.decodeUtf8 (Text.percentDecode (Text.utf8 raw)) = some s := by
    rw [Text.decodeUtf8_eq_some_iff]
    exact decodes
  rw [extractStateToken, carried, Option.bind_some, param]
  simp only [decoded]
  by_cases long : s.utf8ByteSize > STATE_MAX_LEN
  · rw [if_pos long, if_neg (by omega)]
  · rw [if_neg long, if_pos (by omega)]

/-- Round trip: whatever spelling of `s` stands in the query, after parameters that are not
`state=...` and before whatever follows, the middleware reads `s` if it has at most 1024 bytes and
nothing otherwise; and the crate's own `urlencoding` is one of the spellings. -/
theorem spelled_state_read (s : String) :
    PercentEncoding.Spells (Text.utf8 s.toList) (Totp.urlencoding s).toList ∧
    ∀ (raw : List Char) (preceding : List (List Char)) (following : List Char) (request : Request),
      PercentEncoding.Spells (Text.utf8 s.toList) raw →
      (∀ segment ∈ preceding, Unrelated segment) →
      (following = [] ∨ ∃ rest, following = '&' :: rest) →
      request.query = some (String.ofList (stateQuery preceding raw following)) →
      extractStateToken request = if s.utf8ByteSize ≤ STATE_MAX_LEN then some s else none := by
  refine ⟨Totp.urlencoding_spells s, ?_⟩
  intro raw preceding following request spelled unrelated delimited carried
  -- an ampersand would have to be escaped
  have closed : '&' ∉ raw := spelled.notMem '&' (by decide) (by decide)
  apply extractStateToken_of_raw request _ raw s carried
  · rw [String.toList_ofList]
    exact queryParam_stateQuery preceding raw following unrelated closed delimited
  · exact spelled.percentDecode

/-- `a/ü` in a mixed spelling, behind a segment without `=`, an empty one and a longer name. -/
theorem mixed_spelling_read :
    extractStateToken ⟨some "code&&mystate=x&state=a%2f%C3%bC&state=y", []⟩ = some "a/ü" := by
  have bytes : Text.utf8 "a/ü".toList =
      [.ofNat 'a'.toNat, .ofNat (16 * 2 + 15), .ofNat (16 * 12 + 3), .ofNat (16 * 11 + 12)] := by
    decide
  have text : "a%2f%C3%bC".toList = ['a', '%', '2', 'f', '%', 'C', '3', '%', 'b', 'C'] := by decide
  have spelled : PercentEncoding.Spells (Text.utf8 "a/ü".toList) "a%2f%C3%bC".toList := by
    rw [bytes, text]
    exact .literal 'a' (by decide) (.escaped '2' 'f' 2 15 rfl rfl
      (.escaped 'C' '3' 12 3 rfl rfl (.escaped 'b' 'C' 11 12 rfl rfl .nil)))
  have read := (spelled_state_read "a/ü").2 _ ["code".toList, [], "mystate=x".toList]
    "&state=y".toList ⟨some "code&&mystate=x&state=a%2f%C3%bC&state=y", []⟩ spelled (by decide)
    (Or.inr ⟨_, rfl⟩) (by decide)
  rw [read]
  decide

end AuthKit.Middleware
