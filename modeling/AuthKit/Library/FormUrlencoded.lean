import AuthKit.Library.Text

/-!
# The `application/x-www-form-urlencoded` decoder

The standard reader of form data: split on `&`, split each pair at its first `=` (a pair
without one has an empty value), replace `+` by a space, percent-decode names and values.
-/
namespace FormUrlencoded

open Text

def plusToSpace (b : UInt8) : UInt8 := if b = 0x2B then 0x20 else b

/-- The bytes a name or a value stands for. -/
def decode (component : List Char) : List UInt8 :=
  percentDecode ((utf8 component).map plusToSpace)

/-- Raw name and raw value of one pair. -/
def splitPair (pair : List Char) : List Char × List Char :=
  (splitOnce '=' pair).getD (pair, [])

/-- The first pair whose decoded name is `name`. -/
def firstPair (form : List Char) (name : List UInt8) : Option (List Char) :=
  (form.splitOn '&').find? fun pair => decide (decode (splitPair pair).1 = name)

/-- The decoded value of the first parameter called `name`. -/
def value (form : List Char) (name : List UInt8) : Option (List UInt8) :=
  (firstPair form name).map fun pair => decode (splitPair pair).2

theorem hexDigit?_plusToSpace (b : UInt8) : hexDigit? (plusToSpace b) = hexDigit? b := by
  unfold plusToSpace
  split
  next plus => rw [plus]; rfl
  next => rfl

theorem plusToSpace_eq_self_iff (b : UInt8) : plusToSpace b = b ↔ 0x2B ≠ b := by
  unfold plusToSpace
  split
  next plus => simp [plus]
  next other => simp [eq_comm, other]

theorem plusToSpace_percent : plusToSpace 0x25 = 0x25 := rfl

/-- Replacing `+` by a space changes the decoded bytes exactly when there is a `+` to replace. -/
theorem percentDecode_plusToSpace (bytes : List UInt8) :
    percentDecode (bytes.map plusToSpace) = percentDecode bytes ↔ 0x2B ∉ bytes := by
  induction bytes using percentDecode.induct with
  | case1 high low rest h l lowDigit highDigit ih =>
    -- an escape survives the replacement, since `+` is no hexadecimal digit
    have highHex : 0x2B ≠ high := by rintro rfl; cases highDigit
    have lowHex : 0x2B ≠ low := by rintro rfl; cases lowDigit
    simp only [List.map_cons, plusToSpace_percent, percentDecode, hexDigit?_plusToSpace, highDigit,
      lowDigit, List.cons.injEq, true_and, ih, List.mem_cons, not_or]
    exact ⟨fun absent => ⟨by decide, highHex, lowHex, absent⟩, fun all => all.2.2.2⟩
  | case2 high low rest notHex ih =>
    -- a stray `%` stays one, whatever the replacement does to the next two bytes
    have mapped : percentDecode ((0x25 :: high :: low :: rest).map plusToSpace) =
        0x25 :: percentDecode ((high :: low :: rest).map plusToSpace) := by
      simp only [List.map_cons, plusToSpace_percent, percentDecode, hexDigit?_plusToSpace]
    have unmapped : percentDecode (0x25 :: high :: low :: rest) =
        0x25 :: percentDecode (high :: low :: rest) := by
      simp only [percentDecode]
    rw [mapped, unmapped, List.cons.injEq, ih, List.mem_cons]
    simp
  | case3 b rest plain ih =>
    rw [percentDecode.eq_2 b rest plain, List.map_cons, percentDecode.eq_2, List.cons.injEq, ih,
      List.mem_cons, not_or, plusToSpace_eq_self_iff]
    intro high low tail isPercent split
    -- the replacement neither makes nor breaks an escape
    have source : b = 0x25 := by
      unfold plusToSpace at isPercent
      split at isPercent
      · cases isPercent
      · exact isPercent
    obtain ⟨_, tail', rfl, _, next⟩ := List.map_eq_cons_iff.mp split
    obtain ⟨_, tail'', rfl, _, _⟩ := List.map_eq_cons_iff.mp next
    exact plain _ _ _ source rfl
  | case4 => simp

/-- Plain percent-decoding reads a component as the form decoder does iff it has no `+`. -/
theorem percentDecode_eq_decode_iff (component : List Char) :
    percentDecode (utf8 component) = decode component ↔ '+' ∉ component := by
  unfold decode
  rw [eq_comm, percentDecode_plusToSpace]
  change ¬ UInt8.ofNat 0x2B ∈ utf8 component ↔ _
  rw [mem_utf8 component 0x2B (by decide)]
  refine not_congr ⟨?_, fun member => ⟨'+', member, rfl⟩⟩
  rintro ⟨c, member, code⟩
  have plus : c = '+' := Char.toNat_inj.mp code
  exact plus ▸ member

end FormUrlencoded
