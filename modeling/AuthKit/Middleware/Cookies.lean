import AuthKit.Middleware.PkceStateSession

/-!
# The session cookie

What `extract_session_id` reads. Of one `Cookie` field it reads exactly the cookie of the highest
alias, however the field is spaced and whatever else is in it. Of several fields it reads the
first one only, so a request whose cookies arrive in several fields may be read differently from
one that carries them joined.
-/
namespace AuthKit.Middleware

open Execution AuthKit.Domain

/-- The names of the session cookie in the order of their priority. -/
def cookieAliases : List (List Char) :=
  ["session_id".toList, "authkit_session".toList, "authvault_session".toList, "sid".toList]

/-- The cookie of the highest alias in one header text. -/
def sessionCookie (cookieHeader : List Char) : Option (List Char) :=
  cookieAliases.findSome? (cookieValue cookieHeader)

theorem extractSessionId_eq (request : Request) :
    extractSessionId request =
      ((request.cookieField.bind headerText).bind sessionCookie).map String.ofList := by
  unfold extractSessionId
  cases request.cookieField.bind headerText with
  | none => rfl
  | some cookie =>
    simp only [Option.bind_some, sessionCookie, cookieAliases, List.findSome?_cons,
      List.findSome?_nil]
    -- the chain of `or_else`, one alias after the other
    cases cookieValue cookie "session_id".toList with
    | some value => rfl
    | none =>
      cases cookieValue cookie "authkit_session".toList with
      | some value => rfl
      | none =>
        cases cookieValue cookie "authvault_session".toList with
        | some value => rfl
        | none => cases cookieValue cookie "sid".toList <;> rfl

/-! ### Header text -/

/-- The characters of a header value that `to_str` takes for text. -/
def VisibleAscii (c : Char) : Prop := (32 ≤ c.toNat ∧ c.toNat < 127) ∨ c.toNat = 9

instance (c : Char) : Decidable (VisibleAscii c) := inferInstanceAs (Decidable (_ ∨ _))

theorem headerText_utf8 (text : List Char) (visible : ∀ c ∈ text, VisibleAscii c) :
    headerText (Text.utf8 text) = some text := by
  have ascii : ∀ c ∈ text, c.toNat < 128 := by
    intro c member
    rcases visible c member with printable | tab <;> omega
  have byte : ∀ c ∈ text, (UInt8.ofNat c.toNat).toNat = c.toNat := by
    intro c member
    have small := ascii c member
    rw [UInt8.toNat_ofNat']
    exact Nat.mod_eq_of_lt (by omega)
  have passes : (text.map fun c => UInt8.ofNat c.toNat).all
      (fun b => (32 ≤ b && b < 127) || b == 9) = true := by
    rw [List.all_map, List.all_eq_true]
    intro c member
    simp only [Function.comp_apply, Bool.or_eq_true, Bool.and_eq_true, decide_eq_true_eq,
      beq_iff_eq, UInt8.le_iff_toNat_le, UInt8.lt_iff_toNat_lt, ← UInt8.toNat_inj, byte c member]
    exact visible c member
  -- the bytes are read back one character each
  have back : (text.map fun c => UInt8.ofNat c.toNat).map Char.ofUInt8 = text := by
    rw [List.map_map]
    refine (List.map_congr_left fun c member => ?_).trans (List.map_id _)
    apply Char.toNat_inj.mp
    change (UInt8.ofNat c.toNat).toUInt32.toNat = c.toNat
    rw [UInt8.toNat_toUInt32, byte c member]
  rw [Text.utf8_ascii text ascii, headerText, if_pos passes, back]

/-! ### One field -/

/-- What stands between the semicolons of a `Cookie` field. -/
inductive CookieSegment where
  | pair (name value : List Char)
  | junk (text : List Char)

/-- Spaces and tabs. -/
def Blank (text : List Char) : Prop := ∀ c ∈ text, c = ' ' ∨ c = '\t'

instance (text : List Char) : Decidable (Blank text) := List.decidableBAll _ text

namespace CookieSegment

/-- Names have no separators, values no semicolon, and neither has whitespace around it. -/
def WellFormed : CookieSegment → Prop
  | .pair name value =>
      ';' ∉ name ∧ '=' ∉ name ∧ ';' ∉ value ∧ Text.trim name = name ∧ Text.trim value = value
  | .junk text => ';' ∉ text ∧ '=' ∉ text

instance : (segment : CookieSegment) → Decidable segment.WellFormed
  | .pair _ _ => inferInstanceAs (Decidable (_ ∧ _ ∧ _ ∧ _ ∧ _))
  | .junk _ => inferInstanceAs (Decidable (_ ∧ _))

/-- The segment may be written so: with blanks around it and around the first `=` of a pair. -/
inductive Spells : CookieSegment → List Char → Prop
  | pair (name value before behind ahead after : List Char) :
      Blank before → Blank behind → Blank ahead → Blank after →
      Spells (.pair name value)
        ((before ++ name ++ behind) ++ '=' :: (ahead ++ value ++ after))
  | junk (text before after : List Char) :
      Blank before → Blank after → Spells (.junk text) (before ++ text ++ after)

/-- The value that the segment gives to a name. -/
def valueOf (key : List Char) : CookieSegment → Option (List Char)
  | .pair name value => if name = key then some value else none
  | .junk _ => none

end CookieSegment

theorem Blank.whitespace {text : List Char} (blank : Blank text) :
    ∀ c ∈ text, Text.isWhitespace c = true := by
  intro c member
  rcases blank c member with rfl | rfl <;> rfl

theorem Blank.notMem {text : List Char} (blank : Blank text) (c : Char) (space : c ≠ ' ')
    (tab : c ≠ '\t') : c ∉ text := by
  intro member
  rcases blank c member with same | same
  · exact space same
  · exact tab same

/-- The closure of `cookie_value` reads a spelled segment as what it spells. -/
theorem cookiePair_spelled (key text : List Char) (segment : CookieSegment)
    (wellFormed : segment.WellFormed) (spelled : segment.Spells text) :
    cookiePair key text = segment.valueOf key := by
  cases spelled with
  | pair name value before behind ahead after blank₁ blank₂ blank₃ blank₄ =>
    obtain ⟨_, noEq, _, nameTrimmed, valueTrimmed⟩ := wellFormed
    have noEqLeft : '=' ∉ (before ++ name ++ behind).dropWhile Text.isWhitespace := by
      intro member
      have inside := (List.dropWhile_sublist _).subset member
      simp only [List.mem_append] at inside
      rcases inside with (first | second) | third
      · exact blank₁.notMem '=' (by decide) (by decide) first
      · exact noEq second
      · exact blank₂.notMem '=' (by decide) (by decide) third
    -- the first `=` of the trimmed segment is the one between name and value
    have split : Text.splitOnce '='
        (Text.trim ((before ++ name ++ behind) ++ '=' :: (ahead ++ value ++ after))) =
          some ((before ++ name ++ behind).dropWhile Text.isWhitespace,
            (ahead ++ value ++ after).rdropWhile Text.isWhitespace) := by
      rw [Text.trim_around '=' rfl, Text.splitOnce_eq_some_iff]
      exact ⟨rfl, noEqLeft⟩
    have left : Text.trim ((before ++ name ++ behind).dropWhile Text.isWhitespace) = name := by
      rw [Text.trim_dropWhile,
        Text.trim_append_whitespace _ _ _ blank₁.whitespace blank₂.whitespace, nameTrimmed]
    have right : Text.trim ((ahead ++ value ++ after).rdropWhile Text.isWhitespace) = value := by
      rw [Text.trim_rdropWhile,
        Text.trim_append_whitespace _ _ _ blank₃.whitespace blank₄.whitespace, valueTrimmed]
    simp only [cookiePair, split, left, right, CookieSegment.valueOf]
  | junk text before after blank blank' =>
    have noEq : '=' ∉ Text.trim (before ++ text ++ after) := by
      rw [Text.trim_append_whitespace _ _ _ blank.whitespace blank'.whitespace]
      exact fun member => wellFormed.2 (Text.mem_of_mem_trim member)
    have unsplit := (Text.splitOnce_eq_none_iff '=' _).mpr noEq
    simp only [cookiePair, unsplit, CookieSegment.valueOf]

theorem CookieSegment.Spells.notMem {segment : CookieSegment} {text : List Char}
    (spelled : segment.Spells text) (wellFormed : segment.WellFormed) : ';' ∉ text := by
  cases spelled with
  | pair name value before behind ahead after blank₁ blank₂ blank₃ blank₄ =>
    have apart : ∀ {blanks : List Char}, Blank blanks → ';' ∉ blanks :=
      fun blank => blank.notMem ';' (by decide) (by decide)
    simp [apart blank₁, apart blank₂, apart blank₃, apart blank₄, wellFormed.1, wellFormed.2.2.1]
  | junk text before after blank blank' =>
    have apart : ∀ {blanks : List Char}, Blank blanks → ';' ∉ blanks :=
      fun blank => blank.notMem ';' (by decide) (by decide)
    simp [apart blank, apart blank', wellFormed.1]

/-- Segment by segment, the spellings are read as what they spell and have no semicolon. -/
private theorem pieces_spelled (key : List Char) (segments : List CookieSegment)
    (texts : List (List Char)) (wellFormed : ∀ segment ∈ segments, segment.WellFormed)
    (spelled : List.Forall₂ CookieSegment.Spells segments texts) :
    (∀ text ∈ texts, ';' ∉ text) ∧
      texts.findSome? (cookiePair key) = segments.findSome? (CookieSegment.valueOf key) := by
  induction spelled with
  | nil => simp
  | cons spells rest ih =>
    rw [List.forall_mem_cons] at wellFormed
    obtain ⟨closed, same⟩ := ih wellFormed.2
    rw [List.forall_mem_cons]
    refine ⟨⟨spells.notMem wellFormed.1, closed⟩, ?_⟩
    rw [List.findSome?_cons, List.findSome?_cons, cookiePair_spelled key _ _ wellFormed.1 spells,
      same]

/-- In a field of spelled segments a name has the value of the first pair so named. -/
theorem cookieValue_spelled (key : List Char) (segments : List CookieSegment)
    (texts : List (List Char)) (wellFormed : ∀ segment ∈ segments, segment.WellFormed)
    (spelled : List.Forall₂ CookieSegment.Spells segments texts) :
    cookieValue ([';'].intercalate texts) key =
      segments.findSome? (CookieSegment.valueOf key) := by
  obtain ⟨closed, same⟩ := pieces_spelled key segments texts wellFormed spelled
  rw [← same]
  by_cases empty : texts = []
  · -- the empty field is one empty segment
    rw [empty]
    rfl
  · rw [cookieValue, List.splitOn_intercalate ';' closed empty]

/-- Exactness: whatever the spacing and whatever else the first `Cookie` field holds, the session
id is the value of the first pair called `session_id`, else of the first called
`authkit_session`, else `authvault_session`, else `sid`, and otherwise there is none. -/
theorem session_cookie_exact (segments : List CookieSegment) (texts : List (List Char))
    (wellFormed : ∀ segment ∈ segments, segment.WellFormed)
    (spelled : List.Forall₂ CookieSegment.Spells segments texts)
    (visible : ∀ c ∈ [';'].intercalate texts, VisibleAscii c) (request : Request)
    (field : request.cookieField = some (Text.utf8 ([';'].intercalate texts))) :
    extractSessionId request =
      (cookieAliases.findSome? fun key => segments.findSome? (CookieSegment.valueOf key)).map
        String.ofList := by
  rw [extractSessionId_eq, field, Option.bind_some, headerText_utf8 _ visible, Option.bind_some,
    sessionCookie]
  congr 2
  funext key
  exact cookieValue_spelled key segments texts wellFormed spelled

/-- Odd spacing, a value with `=`, a name that only extends an alias, junk, and a lower alias in
front. -/
theorem session_cookie_among_others :
    extractSessionId ⟨none, [("cookie", Text.utf8
      "sid=low; my_session_id=other ;secure;\tsession_id =\tabc=def ".toList)]⟩ =
        some "abc=def" := by
  have spelled : List.Forall₂ CookieSegment.Spells
      [.pair "sid".toList "low".toList, .pair "my_session_id".toList "other".toList,
        .junk "secure".toList, .pair "session_id".toList "abc=def".toList]
      [([] ++ "sid".toList ++ []) ++ '=' :: ([] ++ "low".toList ++ []),
        ([' '] ++ "my_session_id".toList ++ []) ++ '=' :: ([] ++ "other".toList ++ [' ']),
        [] ++ "secure".toList ++ [],
        (['\t'] ++ "session_id".toList ++ [' ']) ++ '=' :: (['\t'] ++ "abc=def".toList ++ [' '])] := by
    refine .cons (.pair _ _ _ _ _ _ ?_ ?_ ?_ ?_) (.cons (.pair _ _ _ _ _ _ ?_ ?_ ?_ ?_)
      (.cons (.junk _ _ _ ?_ ?_) (.cons (.pair _ _ _ _ _ _ ?_ ?_ ?_ ?_) .nil)))
    all_goals decide
  rw [session_cookie_exact _ _ (by decide) spelled (by decide) _ (by decide)]
  decide

/-! ### Several fields -/

/-- The values of all `Cookie` fields in the order in which they arrived. -/
def Request.cookieFields (request : Request) : List (List UInt8) :=
  (request.headers.filter fun field => field.1 == "cookie").map Prod.snd

/-- The highest alias that one of the fields has a cookie of. -/
def winner (fields : List (List Char)) : Option (List Char) :=
  cookieAliases.find? fun key => fields.any fun field => (cookieValue field key).isSome

/-- The cookie that wins among all fields is in the first of them, or it happens to have the value
of the cookie that wins in the first field. -/
def FirstFieldDecides (first : List Char) (rest : List (List Char)) : Prop :=
  ∀ key, winner (first :: rest) = some key →
    (cookieValue first key).isSome ∨
      ∃ own, winner [first] = some own ∧
        cookieValue first own = rest.findSome? fun field => cookieValue field key

/-- `HeaderMap::get` sees the first field only. -/
theorem cookieField_eq_head (request : Request) :
    request.cookieField = request.cookieFields.head? := by
  rw [Request.cookieField, Request.cookieFields, List.head?_map, List.head?_filter]

/-- A blank in front of a segment does not change how it is read. -/
private theorem cookieValue_space (key field : List Char) :
    cookieValue (' ' :: field) key = cookieValue field key := by
  obtain ⟨first, rest, pieces⟩ := List.exists_cons_of_ne_nil (List.splitOn_ne_nil ';' field)
  have spaced : cookiePair key (' ' :: first) = cookiePair key first := by
    have trimmed := Text.trim_append_whitespace [' '] first [] (by decide) (by simp)
    rw [List.append_nil, List.singleton_append] at trimmed
    rw [cookiePair, cookiePair, trimmed]
  rw [cookieValue, cookieValue, List.splitOn_cons_eq_if_modifyHead, if_neg (by decide), pieces,
    List.modifyHead_cons, List.findSome?_cons, List.findSome?_cons, spaced]

private theorem joined_cons (field second : List Char) (rest : List (List Char)) :
    [';', ' '].intercalate (field :: second :: rest) =
      field ++ ';' :: ' ' :: [';', ' '].intercalate (second :: rest) := by
  simp [List.intercalate, List.intersperse]

private theorem findSome?_cons_or {α β : Type} (f : α → Option β) (item : α) (rest : List α) :
    (item :: rest).findSome? f = (f item).or (rest.findSome? f) := by
  rw [List.findSome?_cons]
  cases f item <;> rfl

/-- Looking for an item is looking for the first one that has something, and taking what it has. -/
private theorem findSome?_eq_bind_find? {α β : Type} (f : α → Option β) (items : List α) :
    items.findSome? f = (items.find? fun item => (f item).isSome).bind f := by
  induction items with
  | nil => rfl
  | cons item rest ih =>
    rw [findSome?_cons_or, List.find?_cons]
    cases found : f item with
    | none => exact ih
    | some value => exact found.symm

/-- The joined field has a cookie where the first of the fields that has it has it. -/
theorem cookieValue_joined (key : List Char) (fields : List (List Char)) :
    cookieValue ([';', ' '].intercalate fields) key =
      fields.findSome? fun field => cookieValue field key := by
  induction fields with
  | nil => rfl
  | cons field rest ih =>
    cases rest with
    | nil => simp [List.intercalate]
    | cons second rest =>
      have split : cookieValue (field ++ ';' :: ' ' :: [';', ' '].intercalate (second :: rest)) key =
          (cookieValue field key).or
            (cookieValue (' ' :: [';', ' '].intercalate (second :: rest)) key) := by
        rw [cookieValue, List.splitOn_append_cons_self, List.findSome?_append]
        rfl
      rw [joined_cons, split, cookieValue_space, ih]
      exact (findSome?_cons_or (fun field => cookieValue field key) field (second :: rest)).symm

/-- The joined fields are read as the cookie of the winner. -/
theorem sessionCookie_joined (fields : List (List Char)) :
    sessionCookie ([';', ' '].intercalate fields) =
      (winner fields).bind fun key => fields.findSome? fun field => cookieValue field key := by
  rw [sessionCookie, findSome?_eq_bind_find?]
  simp only [cookieValue_joined, winner, List.isSome_findSome?]

theorem sessionCookie_eq (field : List Char) :
    sessionCookie field = (winner [field]).bind (cookieValue field) := by
  rw [sessionCookie, findSome?_eq_bind_find?]
  simp [winner]

/-- A winner that the first field has wins there as well. -/
theorem winner_first (first : List Char) (rest : List (List Char)) (key : List Char)
    (wins : winner (first :: rest) = some key) (occurs : (cookieValue first key).isSome) :
    winner [first] = some key := by
  obtain ⟨_, higher, lower, aliases, absent⟩ := List.find?_eq_some_iff_append.mp wins
  apply List.find?_eq_some_iff_append.mpr
  refine ⟨by simpa using occurs, higher, lower, aliases, ?_⟩
  intro other member
  have nowhere := absent other member
  simp only [List.any_cons, List.any_nil, Bool.not_eq_true', Bool.or_eq_false_iff] at nowhere ⊢
  exact ⟨nowhere.1, trivial⟩

/-- Without a winner among all fields there is none in the first. -/
theorem winner_none (first : List Char) (rest : List (List Char))
    (none_wins : winner (first :: rest) = none) : winner [first] = none := by
  rw [winner, List.find?_eq_none] at none_wins ⊢
  intro key member occurs
  apply none_wins key member
  simp only [List.any_cons, List.any_nil, Bool.or_false] at occurs ⊢
  rw [occurs, Bool.true_or]

theorem visible_joined (fields : List (List Char))
    (visible : ∀ field ∈ fields, ∀ c ∈ field, VisibleAscii c) :
    ∀ c ∈ [';', ' '].intercalate fields, VisibleAscii c := by
  induction fields with
  | nil => simp [List.intercalate]
  | cons field rest ih =>
    rw [List.forall_mem_cons] at visible
    cases rest with
    | nil => simpa [List.intercalate] using visible.1
    | cons second rest =>
      intro c member
      rw [joined_cons, List.mem_append, List.mem_cons, List.mem_cons] at member
      rcases member with here | rfl | rfl | later
      · exact visible.1 c here
      · decide
      · decide
      · exact ih visible.2 c later

/-- A request with several `Cookie` fields is read like the one with these fields joined iff the
first field decides. -/
theorem split_cookies_agree_iff (first : List Char) (rest : List (List Char))
    (visible : ∀ field ∈ first :: rest, ∀ c ∈ field, VisibleAscii c) (split joined : Request)
    (fields : split.cookieFields = (first :: rest).map Text.utf8)
    (field : joined.cookieFields = [Text.utf8 ([';', ' '].intercalate (first :: rest))]) :
    extractSessionId split = extractSessionId joined ↔ FirstFieldDecides first rest := by
  have splitRead : extractSessionId split =
      ((winner [first]).bind (cookieValue first)).map String.ofList := by
    rw [extractSessionId_eq, cookieField_eq_head, fields, List.map_cons, List.head?_cons,
      Option.bind_some, headerText_utf8 first (visible first List.mem_cons_self), Option.bind_some,
      sessionCookie_eq]
  have joinedRead : extractSessionId joined =
      ((winner (first :: rest)).bind fun key =>
        (first :: rest).findSome? fun field => cookieValue field key).map String.ofList := by
    rw [extractSessionId_eq, cookieField_eq_head, field, List.head?_cons, Option.bind_some,
      headerText_utf8 _ (visible_joined _ visible), Option.bind_some, sessionCookie_joined]
  have faithful : Function.Injective String.ofList := fun _ _ same => String.ofList_injective same
  rw [splitRead, joinedRead, (Option.map_injective faithful).eq_iff]
  unfold FirstFieldDecides
  cases wins : winner (first :: rest) with
  | none => simp [winner_none first rest wins]
  | some key =>
    simp only [Option.bind_some, Option.some.injEq, forall_eq', findSome?_cons_or]
    cases found : cookieValue first key with
    | some value =>
      -- the first field has the winner, and reads it
      rw [winner_first first rest key wins (by simp [found]), Option.bind_some, found]
      simp
    | none =>
      -- the winner is in a later field, and the first one reads its own winner, if it has one
      have elsewhere : (rest.findSome? fun field => cookieValue field key).isSome := by
        have occurs := List.find?_some wins
        simpa [found] using occurs
      cases winner [first] with
      | none =>
        obtain ⟨value, later⟩ := Option.isSome_iff_exists.mp elsewhere
        simp [later]
      | some own => simp

/-- Both fields have the alias that wins. -/
theorem repeated_cookie_agrees :
    extractSessionId ⟨none, [("cookie", Text.utf8 "sid=a; session_id=b".toList),
        ("host", []), ("cookie", Text.utf8 "session_id=c".toList)]⟩ =
      extractSessionId ⟨none, [("cookie", Text.utf8 "sid=a; session_id=b; session_id=c".toList)]⟩ := by
  refine (split_cookies_agree_iff "sid=a; session_id=b".toList ["session_id=c".toList]
    (by decide) _ _ (by decide) (by decide)).mpr ?_
  intro key wins
  have first : winner ["sid=a; session_id=b".toList, "session_id=c".toList] =
      some "session_id".toList := by decide
  cases first.symm.trans wins
  exact Or.inl (by decide)

/-- The session cookie comes in the second field and is not found. -/
theorem second_field_unread :
    extractSessionId ⟨none, [("cookie", Text.utf8 "theme=dark".toList),
        ("cookie", Text.utf8 "session_id=abc".toList)]⟩ = none ∧
      extractSessionId ⟨none, [("cookie", Text.utf8
        ([';', ' '].intercalate ["theme=dark".toList, "session_id=abc".toList]))]⟩ = some "abc" := by
  decide

end AuthKit.Middleware
