import Mathlib.Data.List.DropRight

/-!
# Strings, their UTF-8 bytes and percent-encoding

Operations on string slices (`str` is the list of its characters here) with the meaning
they have in the Rust standard library, and percent-decoding of byte strings.
-/
namespace Text

/-- `str::split_once`: the parts before and after the first separator. -/
def splitOnce (separator : Char) : List Char → Option (List Char × List Char)
  | [] => none
  | c :: rest =>
      if c = separator then some ([], rest)
      else (splitOnce separator rest).map fun parts => (c :: parts.1, parts.2)

/-- `char::is_whitespace`: the Unicode property `White_Space`. -/
def isWhitespace (c : Char) : Bool :=
  decide ((0x09 ≤ c.toNat ∧ c.toNat ≤ 0x0D) ∨ c.toNat = 0x20 ∨ c.toNat = 0x85 ∨ c.toNat = 0xA0 ∨
    c.toNat = 0x1680 ∨ (0x2000 ≤ c.toNat ∧ c.toNat ≤ 0x200A) ∨ c.toNat = 0x2028 ∨
    c.toNat = 0x2029 ∨ c.toNat = 0x202F ∨ c.toNat = 0x205F ∨ c.toNat = 0x3000)

/-- Over the characters of the text only: the instance for `∀ c : Char` tries all of them. -/
instance decidableForallMem (text : List Char) (p : Char → Prop) [DecidablePred p] :
    Decidable (∀ c ∈ text, p c) := List.decidableBAll p text

/-- `str::trim`. -/
def trim (s : List Char) : List Char := (s.dropWhile isWhitespace).rdropWhile isWhitespace

/-- The separator splits off exactly the part before its first occurrence. -/
theorem splitOnce_eq_some_iff (separator : Char) (s left right : List Char) :
    splitOnce separator s = some (left, right) ↔
      s = left ++ separator :: right ∧ separator ∉ left := by
  induction s generalizing left with
  | nil => simp [splitOnce]
  | cons c rest ih =>
    unfold splitOnce
    split
    next equal =>
      subst equal
      -- the separator comes first, so the left part is empty
      cases left with
      | nil => simp [eq_comm]
      | cons d left => simp; tauto
    next other =>
      cases left with
      | nil => simp [other]
      | cons d left =>
        have tail := ih left
        simp only [Option.map_eq_some_iff, Prod.exists, Prod.mk.injEq, List.cons.injEq,
          List.cons_append, List.mem_cons, not_or]
        constructor
        · rintro ⟨l, r, found, ⟨rfl, rfl⟩, rfl⟩
          obtain ⟨whole, absent⟩ := tail.mp found
          exact ⟨⟨rfl, whole⟩, fun equal => other equal.symm, absent⟩
        · rintro ⟨⟨rfl, whole⟩, _, absent⟩
          exact ⟨left, right, tail.mpr ⟨whole, absent⟩, ⟨rfl, rfl⟩, rfl⟩

theorem splitOnce_eq_none_iff (separator : Char) (s : List Char) :
    splitOnce separator s = none ↔ separator ∉ s := by
  induction s with
  | nil => simp [splitOnce]
  | cons c rest ih =>
    unfold splitOnce
    split
    next equal => simp [equal]
    next other =>
      rw [Option.map_eq_none_iff, ih, List.mem_cons, not_or]
      exact (and_iff_right fun equal => other equal.symm).symm

/-- Where texts may contain the separator, two joined pairs read the same iff they are the same
pair, or one's left part goes on after a separator into the other's right part. -/
theorem append_separator_eq_iff (separator : Char) (left right left' right' : List Char) :
    left ++ separator :: right = left' ++ separator :: right' ↔
      (left = left' ∧ right = right') ∨
      (∃ middle, left' = left ++ separator :: middle ∧ right = middle ++ separator :: right') ∨
      (∃ middle, left = left' ++ separator :: middle ∧ right' = middle ++ separator :: right) := by
  constructor
  · intro same
    -- one left part is a prefix of the other; the rest begins with the separator
    rcases List.append_eq_append_iff.mp same with ⟨rest, rfl, tail⟩ | ⟨rest, rfl, tail⟩
    · cases rest with
      | nil =>
        rw [List.nil_append, List.cons.injEq] at tail
        exact Or.inl ⟨(List.append_nil left).symm, tail.2⟩
      | cons c middle =>
        rw [List.cons_append, List.cons.injEq] at tail
        obtain ⟨rfl, tail⟩ := tail
        exact Or.inr (Or.inl ⟨middle, rfl, tail⟩)
    · cases rest with
      | nil =>
        rw [List.nil_append, List.cons.injEq] at tail
        exact Or.inl ⟨List.append_nil left', tail.2.symm⟩
      | cons c middle =>
        rw [List.cons_append, List.cons.injEq] at tail
        obtain ⟨rfl, tail⟩ := tail
        exact Or.inr (Or.inr ⟨middle, rfl, tail⟩)
  · rintro (⟨rfl, rfl⟩ | ⟨middle, rfl, rfl⟩ | ⟨middle, rfl, rfl⟩)
    · rfl
    · rw [List.append_assoc, List.cons_append]
    · rw [List.append_assoc, List.cons_append]

/-- Joined pairs whose left parts have no separator read the same only if they are the same. -/
theorem append_separator_inj (separator : Char) (left right left' right' : List Char)
    (plain : separator ∉ left) (plain' : separator ∉ left') :
    left ++ separator :: right = left' ++ separator :: right' ↔ left = left' ∧ right = right' := by
  rw [append_separator_eq_iff]
  constructor
  · rintro (same | ⟨middle, rfl, _⟩ | ⟨middle, rfl, _⟩)
    · exact same
    · simp at plain'
    · simp at plain
  · exact Or.inl

/-- The pieces between separators hold no separator, and nothing that was not there. -/
theorem mem_splitOn (separator : Char) (s piece : List Char) (member : piece ∈ s.splitOn separator) :
    separator ∉ piece ∧ ∀ c ∈ piece, c ∈ s := by
  induction s generalizing piece with
  | nil =>
    rw [List.splitOn_nil, List.mem_singleton] at member
    simp [member]
  | cons c rest ih =>
    obtain ⟨first, later, pieces⟩ := List.exists_cons_of_ne_nil (List.splitOn_ne_nil separator rest)
    rw [List.splitOn_cons_eq_if_modifyHead, pieces] at member
    rw [pieces] at ih
    by_cases same : c = separator
    · rw [if_pos (beq_iff_eq.mpr same), List.mem_cons] at member
      rcases member with rfl | member
      · simp
      · exact ⟨(ih piece member).1, fun d inside => List.mem_cons_of_mem _ ((ih piece member).2 d inside)⟩
    · rw [if_neg (by simpa using same), List.modifyHead_cons, List.mem_cons] at member
      rcases member with rfl | member
      · -- the character goes to the front of the first piece
        obtain ⟨plain, sub⟩ := ih first List.mem_cons_self
        refine ⟨by simp [plain, Ne.symm same], ?_⟩
        rw [List.forall_mem_cons]
        exact ⟨List.mem_cons_self, fun d inside => List.mem_cons_of_mem _ (sub d inside)⟩
      · obtain ⟨plain, sub⟩ := ih piece (List.mem_cons_of_mem _ member)
        exact ⟨plain, fun d inside => List.mem_cons_of_mem _ (sub d inside)⟩

/-! ### Trimming -/

/-- Whitespace on either side makes no difference to what is left. -/
theorem trim_append_whitespace (before s after : List Char)
    (blank : ∀ c ∈ before, isWhitespace c = true) (blank' : ∀ c ∈ after, isWhitespace c = true) :
    trim (before ++ s ++ after) = trim s := by
  have all : after.dropWhile isWhitespace = [] := List.dropWhile_eq_nil_iff.mpr blank'
  have reversed : ∀ c ∈ after.reverse, isWhitespace c = true := by simpa using blank'
  unfold trim
  rw [List.append_assoc, List.dropWhile_append_of_pos blank, List.dropWhile_append, all]
  split
  next empty =>
    rw [List.isEmpty_iff.mp empty]
  next rest =>
    rw [List.rdropWhile, List.reverse_append, List.dropWhile_append_of_pos reversed, List.rdropWhile]

theorem trim_dropWhile (s : List Char) : trim (s.dropWhile isWhitespace) = trim s := by
  have whole := trim_append_whitespace (s.takeWhile isWhitespace) (s.dropWhile isWhitespace) []
    (fun c member => List.mem_takeWhile_imp member) (by simp)
  rw [List.append_nil, List.takeWhile_append_dropWhile] at whole
  exact whole.symm

theorem trim_rdropWhile (s : List Char) : trim (s.rdropWhile isWhitespace) = trim s := by
  have whole := trim_append_whitespace [] (s.rdropWhile isWhitespace) (s.rtakeWhile isWhitespace)
    (by simp) (fun c member => List.mem_rtakeWhile_imp member)
  rw [List.nil_append, List.rdropWhile_append_rtakeWhile] at whole
  exact whole.symm

theorem trim_trim (s : List Char) : trim (trim s) = trim s := by
  conv_lhs => arg 1; rw [trim]
  rw [trim_rdropWhile, trim_dropWhile]

theorem mem_of_mem_trim {c : Char} {s : List Char} (member : c ∈ trim s) : c ∈ s :=
  (List.dropWhile_sublist _).subset ((List.rdropWhile_prefix _ _).subset member)

theorem trim_of_visible (s : List Char) (visible : ∀ c ∈ s, isWhitespace c = false) :
    trim s = s := by
  have first : s.dropWhile isWhitespace = s := by
    rw [List.dropWhile_eq_self_iff]
    intro nonempty
    simp [visible _ (List.getElem_mem nonempty)]
  rw [trim, first, List.rdropWhile_eq_self_iff]
  intro nonempty
  simp [visible _ (List.getLast_mem nonempty)]

/-- Trimming around a separator that is no whitespace trims the outer sides of the parts. -/
theorem trim_around (separator : Char) (visible : isWhitespace separator = false)
    (left right : List Char) :
    trim (left ++ separator :: right) =
      left.dropWhile isWhitespace ++ separator :: right.rdropWhile isWhitespace := by
  have kept : (separator :: right).dropWhile isWhitespace = separator :: right := by
    simp [visible]
  have front : (left ++ separator :: right).dropWhile isWhitespace =
      left.dropWhile isWhitespace ++ separator :: right := by
    rw [List.dropWhile_append, kept]
    split
    next empty => rw [List.isEmpty_iff.mp empty, List.nil_append]
    next rest => rfl
  have back : (right.reverse ++ separator :: (left.dropWhile isWhitespace).reverse).dropWhile
        isWhitespace =
      right.reverse.dropWhile isWhitespace ++
        separator :: (left.dropWhile isWhitespace).reverse := by
    rw [List.dropWhile_append, List.dropWhile_cons_of_neg (by simp [visible])]
    split
    next empty => rw [List.isEmpty_iff.mp empty, List.nil_append]
    next rest => rfl
  rw [trim, front, List.rdropWhile, List.reverse_append, List.reverse_cons, List.append_assoc,
    List.singleton_append, back]
  simp [List.rdropWhile]

/-- Trimming makes no difference to what is kept where all whitespace is dropped anyway. -/
theorem filter_trim (keep : Char → Bool) (s : List Char)
    (drops : ∀ c ∈ s, isWhitespace c = true → keep c = false) :
    (trim s).filter keep = s.filter keep := by
  have front : (s.dropWhile isWhitespace).filter keep = s.filter keep := by
    have dropped : (s.takeWhile isWhitespace).filter keep = [] := by
      rw [List.filter_eq_nil_iff]
      intro c member
      simp [drops c ((List.takeWhile_prefix _).subset member) (List.mem_takeWhile_imp member)]
    conv_rhs => rw [← List.takeWhile_append_dropWhile (p := isWhitespace) (l := s)]
    rw [List.filter_append, dropped, List.nil_append]
  have back (t : List Char) (within : ∀ c ∈ t, c ∈ s) :
      (t.rdropWhile isWhitespace).filter keep = t.filter keep := by
    have dropped : (t.rtakeWhile isWhitespace).filter keep = [] := by
      rw [List.filter_eq_nil_iff]
      intro c member
      simp [drops c (within c ((List.rtakeWhile_suffix _ t).subset member))
        (List.mem_rtakeWhile_imp member)]
    conv_rhs => rw [← List.rdropWhile_append_rtakeWhile (p := isWhitespace) (l := t)]
    rw [List.filter_append, dropped, List.append_nil]
  rw [trim, back _ fun c member => (List.dropWhile_sublist _).subset member, front]

/-! ### Upper case -/

/-- `char::to_uppercase`. The table says what Unicode maps the characters outside ASCII to; that
may be several characters, and some of them may be ASCII. -/
def charToUppercase (table : Char → List Char) (c : Char) : List Char :=
  if c.toNat < 128 then [c.toUpper] else table c

/-- `str::to_uppercase`. -/
def toUppercase (table : Char → List Char) (s : List Char) : List Char :=
  s.flatMap (charToUppercase table)

theorem toUppercase_ascii (table : Char → List Char) (s : List Char)
    (ascii : ∀ c ∈ s, c.toNat < 128) : toUppercase table s = s.map Char.toUpper := by
  induction s with
  | nil => rfl
  | cons c rest ih =>
    rw [List.forall_mem_cons] at ascii
    rw [toUppercase, List.flatMap_cons, charToUppercase, if_pos ascii.1, List.map_cons, ← ih ascii.2]
    rfl

/-- ASCII upper-casing. -/
theorem toNat_toUpper (c : Char) :
    c.toUpper.toNat = if 97 ≤ c.toNat ∧ c.toNat ≤ 122 then c.toNat - 32 else c.toNat := by
  have code : c.toNat = c.val.toNat := rfl
  unfold Char.toUpper
  by_cases lower : 'a'.val ≤ c.val ∧ c.val ≤ 'z'.val
  · have bounds : 97 ≤ c.toNat ∧ c.toNat ≤ 122 := lower
    have distance : ('A'.val - 'a'.val).toNat = 2 ^ 32 - 32 := by decide
    rw [dif_pos lower, if_pos bounds]
    change (c.val + ('A'.val - 'a'.val)).toNat = _
    rw [UInt32.toNat_add]
    omega
  · rw [dif_neg lower, if_neg]
    exact lower

theorem toUpper_eq_space_iff (c : Char) : c.toUpper = ' ' ↔ c = ' ' := by
  have code : (' ' : Char).toNat = 32 := rfl
  rw [← Char.toNat_inj, ← Char.toNat_inj, toNat_toUpper, code]
  split
  · omega
  · exact Iff.rfl

/-! ### Spaces -/

/-- `str::replace(' ', "")`. -/
def withoutSpaces (s : List Char) : List Char := s.filter fun c => decide (c ≠ ' ')

theorem withoutSpaces_space (s : List Char) : withoutSpaces (' ' :: s) = withoutSpaces s := rfl

theorem withoutSpaces_cons (c : Char) (s : List Char) (visible : c ≠ ' ') :
    withoutSpaces (c :: s) = c :: withoutSpaces s :=
  List.filter_cons_of_pos (decide_eq_true visible)

theorem mem_withoutSpaces (c : Char) (s : List Char) : c ∈ withoutSpaces s ↔ c ∈ s ∧ c ≠ ' ' := by
  simp [withoutSpaces]

/-- Spaces may be removed before or after upper-casing. -/
theorem withoutSpaces_map_toUpper (s : List Char) :
    withoutSpaces (s.map Char.toUpper) = (withoutSpaces s).map Char.toUpper := by
  induction s with
  | nil => rfl
  | cons c rest ih =>
    by_cases space : c = ' '
    · subst space
      exact ih
    · have visible : c.toUpper ≠ ' ' := fun upper => space ((toUpper_eq_space_iff c).mp upper)
      rw [List.map_cons, withoutSpaces_cons _ _ visible, withoutSpaces_cons _ _ space, ih,
        List.map_cons]

/-! ### UTF-8 -/

/-- The bytes of a string. -/
def utf8 (s : List Char) : List UInt8 := s.flatMap String.utf8EncodeChar

/-- `str::from_utf8`. -/
def decodeUtf8 (bytes : List UInt8) : Option String := String.fromUTF8? ⟨bytes.toArray⟩

theorem toByteArray_data (bytes : List UInt8) : bytes.toByteArray = ⟨bytes.toArray⟩ := by
  apply ByteArray.ext
  simp

theorem toByteArray_eq_utf8 (s : String) : s.toByteArray = ⟨(utf8 s.toList).toArray⟩ := by
  rw [← toByteArray_data, ← String.utf8Encode_toList]
  rfl

/-- Decoding inverts encoding, and nothing else decodes. -/
theorem decodeUtf8_eq_some_iff (bytes : List UInt8) (s : String) :
    decodeUtf8 bytes = some s ↔ bytes = utf8 s.toList := by
  have bytesEq : s.toByteArray = ⟨bytes.toArray⟩ ↔ bytes = utf8 s.toList := by
    rw [toByteArray_eq_utf8, ByteArray.mk.injEq, Array.mk.injEq, eq_comm]
  unfold decodeUtf8 String.fromUTF8?
  split
  next valid =>
    rw [Option.some.injEq, ← bytesEq, ← String.toByteArray_inj]
    exact eq_comm
  next invalid =>
    refine iff_of_false (by simp) fun equal => invalid ?_
    rw [← bytesEq.mpr equal]
    exact s.isValidUTF8

/-- Strings with the same bytes are the same. -/
theorem utf8_inj (s t : String) : utf8 s.toList = utf8 t.toList ↔ s = t := by
  constructor
  · intro same
    have left := (decodeUtf8_eq_some_iff _ s).mpr rfl
    have right := (decodeUtf8_eq_some_iff _ t).mpr same
    exact Option.some.inj (left.symm.trans right)
  · rintro rfl
    rfl

/-- An ASCII byte occurs in the encoding of its own character only. -/
theorem mem_utf8EncodeChar (c : Char) (a : Nat) (ascii : a < 128) :
    UInt8.ofNat a ∈ String.utf8EncodeChar c ↔ c.toNat = a := by
  have same : c.toNat = c.val.toNat := rfl
  unfold String.utf8EncodeChar
  simp only
  split
  · simp only [List.mem_singleton, ← UInt8.toNat_inj, UInt8.toNat_ofNat', Nat.reducePow]
    omega
  · refine iff_of_false (fun member => ?_) (by omega)
    -- the bytes of a longer encoding are all at least 0x80
    split at member
    · simp only [List.mem_cons, List.not_mem_nil, or_false, ← UInt8.toNat_inj,
        UInt8.toNat_ofNat', Nat.reducePow] at member
      omega
    · split at member
      all_goals
        simp only [List.mem_cons, List.not_mem_nil, or_false, ← UInt8.toNat_inj,
          UInt8.toNat_ofNat', Nat.reducePow] at member
        omega

theorem mem_utf8 (s : List Char) (a : Nat) (ascii : a < 128) :
    UInt8.ofNat a ∈ utf8 s ↔ ∃ c ∈ s, c.toNat = a := by
  simp only [utf8, List.mem_flatMap, mem_utf8EncodeChar _ a ascii]

/-- An ASCII character is one byte. -/
theorem utf8_ascii (s : List Char) (ascii : ∀ c ∈ s, c.toNat < 128) :
    utf8 s = s.map fun c => .ofNat c.toNat := by
  induction s with
  | nil => rfl
  | cons c rest ih =>
    have first : c.val.toNat ≤ 127 := Nat.le_of_lt_succ (ascii c List.mem_cons_self)
    have encoded : String.utf8EncodeChar c = [.ofNat c.toNat] := by
      unfold String.utf8EncodeChar
      simp only [first, if_true]
      rfl
    rw [utf8, List.flatMap_cons, encoded, List.map_cons, ← ih fun d member =>
      ascii d (List.mem_cons_of_mem _ member)]
    rfl

/-! ### Percent-decoding -/

def hexDigit? (b : UInt8) : Option UInt8 :=
  if 0x30 ≤ b ∧ b ≤ 0x39 then some (b - 0x30)
  else if 0x41 ≤ b ∧ b ≤ 0x46 then some (b - 0x41 + 10)
  else if 0x61 ≤ b ∧ b ≤ 0x66 then some (b - 0x61 + 10)
  else none

/-- Every `%` followed by two hexadecimal digits becomes the byte they spell; everything
else stays as it is. -/
def percentDecode : List UInt8 → List UInt8
  | 0x25 :: high :: low :: rest =>
      match hexDigit? high, hexDigit? low with
      | some h, some l => (h * 16 + l) :: percentDecode rest
      -- a stray `%` stands for itself
      | _, _ => 0x25 :: percentDecode (high :: low :: rest)
  | b :: rest => b :: percentDecode rest
  | [] => []

end Text
