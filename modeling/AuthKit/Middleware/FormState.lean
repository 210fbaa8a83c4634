import AuthKit.Library.FormUrlencoded
import AuthKit.Middleware.Gate

/-!
# The state parameter against a form decoder

The callback query is form data, so the authorization server's spelling of a state token is
whatever an `application/x-www-form-urlencoded` decoder reads back as the token. The
middleware compares raw parameter names and percent-decodes values without replacing `+`;
`extractStateToken_reads_form_iff` is the exact condition under which it reads what the form
decoder reads.
-/
namespace AuthKit.Middleware

open Execution AuthKit.Domain

def stateName : List UInt8 := Text.utf8 "state".toList

/-- The text that a form decoder assigns to the first parameter called `state`. -/
def formState (query : String) : Option String :=
  (FormUrlencoded.value query.toList stateName).bind Text.decodeUtf8

/-- The first pair that a form decoder calls `state` is written `state=raw` without a `+` in
`raw`; or it is not written with that prefix (an escape in its name, or no `=`) and the first
pair that is happens to percent-decode to the same bytes. -/
def PlainState (query : String) : Prop :=
  ∃ pair, FormUrlencoded.firstPair query.toList stateName = some pair ∧
    ((∃ raw, pair = "state=".toList ++ raw ∧ '+' ∉ raw) ∨
      (¬ "state=".toList <+: pair ∧ ∃ raw,
        queryParam query.toList "state".toList = some raw ∧
          Text.percentDecode (Text.utf8 raw) =
            FormUrlencoded.decode (FormUrlencoded.splitPair pair).2))

/-- The closure of `query_param` accepts exactly the pairs that begin with `state=`. -/
theorem queryPair_state_iff (pair raw : List Char) :
    queryPair "state".toList pair = some raw ↔ pair = "state=".toList ++ raw := by
  have spelled : "state=".toList ++ raw = "state".toList ++ '=' :: raw := rfl
  have found := Text.splitOnce_eq_some_iff '=' pair "state".toList raw
  rw [spelled]
  unfold queryPair
  constructor
  · intro accepted
    split at accepted
    · cases accepted
    next name value split =>
      split at accepted
      next named =>
        rw [named, Option.some.inj accepted] at split
        exact (found.mp split).1
      · cases accepted
  · intro literal
    -- the first `=` of such a pair is the one after the name
    rw [found.mpr ⟨literal, by decide⟩]
    exact if_pos rfl

/-- A pair the middleware takes for `state` is one the form decoder calls `state`. -/
theorem splitPair_literal (raw : List Char) :
    FormUrlencoded.splitPair ("state=".toList ++ raw) = ("state".toList, raw) := by
  have found : Text.splitOnce '=' ("state=".toList ++ raw) = some ("state".toList, raw) :=
    (Text.splitOnce_eq_some_iff _ _ _ _).mpr ⟨rfl, by decide⟩
  rw [FormUrlencoded.splitPair, found, Option.getD_some]

/-- When the first `state` pair of the form is a literal one, `query_param` finds it. -/
theorem queryParam_of_literal (query raw : List Char)
    (first : FormUrlencoded.firstPair query stateName = some ("state=".toList ++ raw)) :
    queryParam query "state".toList = some raw := by
  obtain ⟨_, earlier, later, pieces, skipped⟩ := List.find?_eq_some_iff_append.mp first
  have passed : earlier.findSome? (queryPair "state".toList) = none := by
    rw [List.findSome?_eq_none_iff]
    intro pair member
    by_contra accepted
    -- an earlier literal pair would have been the form decoder's choice
    obtain ⟨value, taken⟩ := Option.ne_none_iff_exists'.mp accepted
    have notState := skipped pair member
    rw [(queryPair_state_iff pair value).mp taken, splitPair_literal] at notState
    change (!decide (FormUrlencoded.decode "state".toList = stateName)) = true at notState
    exact absurd notState (by decide)
  rw [queryParam, pieces, List.findSome?_append, passed, Option.none_or, List.findSome?_cons,
    (queryPair_state_iff _ raw).mpr rfl]

/-- Within the length limit, the middleware reads `token` iff the raw value of the literal
parameter percent-decodes to its bytes. -/
theorem extractStateToken_eq_some_iff (query : String) (headers : List (String × List UInt8))
    (token : String) (short : token.utf8ByteSize ≤ STATE_MAX_LEN) :
    extractStateToken ⟨some query, headers⟩ = some token ↔
      ∃ raw, queryParam query.toList "state".toList = some raw ∧
        Text.percentDecode (Text.utf8 raw) = Text.utf8 token.toList := by
  unfold extractStateToken
  rw [Option.bind_some]
  cases queryParam query.toList "state".toList with
  | none => simp
  | some raw =>
    simp only [Option.some.injEq, exists_eq_left', ← Text.decodeUtf8_eq_some_iff]
    cases decoded : Text.decodeUtf8 (Text.percentDecode (Text.utf8 raw)) with
    | none => simp
    | some text =>
      simp only [Option.some.injEq]
      constructor
      · intro returned
        split at returned
        · cases returned
        · exact Option.some.inj returned
      · rintro rfl
        rw [if_neg (by omega)]

/-- Whenever the form decoder assigns `state` a valid text of at most 1024 bytes, the middleware
reads that text iff the parameter is plainly spelled. -/
theorem extractStateToken_reads_form_iff (query : String) (headers : List (String × List UInt8))
    (token : String) (assigned : formState query = some token)
    (short : token.utf8ByteSize ≤ STATE_MAX_LEN) :
    extractStateToken ⟨some query, headers⟩ = some token ↔ PlainState query := by
  obtain ⟨bytes, valued, decoded⟩ := Option.bind_eq_some_iff.mp assigned
  obtain ⟨pair, first, rfl⟩ := Option.map_eq_some_iff.mp valued
  rw [Text.decodeUtf8_eq_some_iff] at decoded
  rw [extractStateToken_eq_some_iff query headers token short, ← decoded, PlainState]
  simp only [first, Option.some.injEq, exists_eq_left']
  by_cases literal : "state=".toList <+: pair
  · -- both readers see the same raw value
    obtain ⟨raw, rfl⟩ := literal
    rw [splitPair_literal, queryParam_of_literal query.toList raw first]
    simp only [Option.some.injEq, exists_eq_left', FormUrlencoded.percentDecode_eq_decode_iff,
      List.prefix_append, not_true_eq_false, false_and, or_false]
    constructor
    · intro plain
      exact ⟨raw, rfl, plain⟩
    · rintro ⟨raw', same, plain⟩
      exact (List.append_cancel_left same) ▸ plain
  · -- the middleware looks past the form decoder's pair, or finds nothing
    constructor
    · intro found
      exact Or.inr ⟨literal, found⟩
    · rintro (⟨raw, rfl, _⟩ | ⟨_, found⟩)
      · exact absurd (List.prefix_append _ raw) literal
      · exact found

theorem extractStateToken_reads_escaped_space :
    extractStateToken ⟨some "state=a%20b", []⟩ = some "a b" := by
  refine (extractStateToken_reads_form_iff "state=a%20b" [] "a b" (by decide) (by decide)).mpr ?_
  exact ⟨"state=a%20b".toList, by decide, Or.inl ⟨"a%20b".toList, by decide, by decide⟩⟩

/-- The state token `a b`, bound to the session and sent back form-encoded as `a+b`, is read as
another token and the callback is rejected. -/
theorem extractStateToken_misreads_plus :
    formState "state=a+b" = some "a b" ∧ "a b".utf8ByteSize ≤ STATE_MAX_LEN ∧
    extractStateToken ⟨some "state=a+b", []⟩ = some "a+b" ∧
    (enforcePkceStateSession InMemorySessionStore.port ⟨.ofSeconds 1, .ofSeconds 1⟩
      ⟨some "state=a+b", [("cookie", [0x73, 0x69, 0x64, 0x3D, 0x73])]⟩
      (gate.exec (.withCapacity (.minutes 15) 1)
        [.store (.bind "a b" "s" (.ofSeconds 0) (.ofSeconds 0))]).1).2 =
      .ok (.rejected "state_session_mismatch" none) := by
  decide

end AuthKit.Middleware
