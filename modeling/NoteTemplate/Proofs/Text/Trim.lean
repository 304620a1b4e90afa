import Mathlib.Data.List.DropRight
import NoteTemplate.Text.Blank

/-!
# Trimmed texts

A text is trimmed when trimming leaves it alone, which only depends on its first and
on its last character.  Whatever blanks are put around a trimmed text, trimming takes
them off again (`trim_padded`).
-/

namespace NoteTemplate.Text

variable {text before after left right : Text}

/-! ### Dropping characters at the ends -/

section

variable {drop : Char → Bool}

theorem dropWhile_eq_self_iff :
    text.dropWhile drop = text ↔ ∀ c ∈ text.head?, drop c = false := by
  cases text with
  | nil => simp
  | cons c rest =>
    have hshorter := List.length_dropWhile_le drop rest
    cases hc : drop c with
    | false => simp [hc]
    | true =>
      simp only [List.dropWhile_cons, hc, if_true, List.head?_cons, Option.mem_def,
        Option.some.injEq, forall_eq', Bool.true_eq_false, iff_false]
      intro heq
      rw [heq, List.length_cons] at hshorter
      omega

theorem dropWhileRight_eq_self_iff :
    dropWhileRight drop text = text ↔ ∀ c ∈ text.getLast?, drop c = false := by
  rw [dropWhileRight, List.reverse_eq_iff, dropWhile_eq_self_iff, List.head?_reverse]

theorem dropWhileRight_prefix_self (drop : Char → Bool) (text : Text) :
    dropWhileRight drop text <+: text :=
  List.rdropWhile_prefix drop text

theorem trimWhile_infix (drop : Char → Bool) (text : Text) : trimWhile drop text <:+: text :=
  (dropWhileRight_prefix_self drop _).isInfix.trans (List.dropWhile_suffix drop).isInfix

theorem trimWhile_eq_self_iff :
    trimWhile drop text = text ↔
      (∀ c ∈ text.head?, drop c = false) ∧ ∀ c ∈ text.getLast?, drop c = false := by
  rw [← dropWhile_eq_self_iff, ← dropWhileRight_eq_self_iff]
  constructor
  · intro h
    have hleft : text.dropWhile drop = text := by
      apply (List.dropWhile_suffix drop).eq_of_length_le
      calc text.length = (trimWhile drop text).length := by rw [h]
        _ ≤ (text.dropWhile drop).length := (dropWhileRight_prefix_self drop _).length_le
    refine ⟨hleft, ?_⟩
    rw [trimWhile, hleft] at h
    exact h
  · rintro ⟨hleft, hright⟩
    rw [trimWhile, hleft, hright]

theorem trimWhile_trimWhile (drop : Char → Bool) (text : Text) :
    trimWhile drop (trimWhile drop text) = trimWhile drop text := by
  rw [trimWhile_eq_self_iff]
  refine ⟨?_, dropWhileRight_eq_self_iff.1 (List.rdropWhile_idempotent drop _)⟩
  intro c hc
  apply dropWhile_eq_self_iff.1 (List.dropWhile_idempotent drop text)
  obtain ⟨tail, htail⟩ := dropWhileRight_prefix_self drop (text.dropWhile drop)
  rw [Option.mem_def, trimWhile] at hc
  rw [Option.mem_def, ← htail, List.head?_append, hc]
  rfl

end

/-! ### Blanks -/

/-- The text has no blanks at its ends. -/
def IsTrimmed (text : Text) : Prop := trim text = text

instance (text : Text) : Decidable (IsTrimmed text) := by
  unfold IsTrimmed; infer_instance

theorem trimLeft_append_of_isBlankText (h : isBlankText before) :
    trimLeft (before ++ text) = trimLeft text :=
  List.dropWhile_append_of_pos (List.all_eq_true.1 h)

theorem trimRight_append_of_isBlankText (h : isBlankText after) :
    trimRight (text ++ after) = trimRight text := by
  simp only [trimRight, dropWhileRight, List.reverse_append]
  rw [List.dropWhile_append_of_pos]
  intro c hc
  exact List.all_eq_true.1 h c (List.mem_reverse.1 hc)

theorem trimLeft_eq_self_iff : trimLeft text = text ↔ ∀ c ∈ text.head?, isBlank c = false :=
  dropWhile_eq_self_iff

theorem trimRight_eq_self_iff :
    trimRight text = text ↔ ∀ c ∈ text.getLast?, isBlank c = false :=
  dropWhileRight_eq_self_iff

theorem trimRight_prefix_self (text : Text) : trimRight text <+: text :=
  List.rdropWhile_prefix isBlank text

theorem trimLeft_suffix : trimLeft text <:+ text := List.dropWhile_suffix isBlank

theorem isTrimmed_iff :
    IsTrimmed text ↔
      (∀ c ∈ text.head?, isBlank c = false) ∧ ∀ c ∈ text.getLast?, isBlank c = false :=
  trimWhile_eq_self_iff

/-- What is trimmed in front is blank. -/
theorem exists_append_trimLeft (text : Text) :
    ∃ blanks, isBlankText blanks = true ∧ text = blanks ++ trimLeft text := by
  refine ⟨text.takeWhile isBlank, ?_, List.takeWhile_append_dropWhile.symm⟩
  exact List.all_eq_true.2 fun c hc => List.mem_takeWhile_imp hc

/-- What is trimmed behind is blank. -/
theorem exists_trimRight_append (text : Text) :
    ∃ blanks, isBlankText blanks = true ∧ text = trimRight text ++ blanks := by
  refine ⟨text.rtakeWhile isBlank, ?_, List.rdropWhile_append_rtakeWhile.symm⟩
  exact List.all_eq_true.2 fun c hc => List.mem_rtakeWhile_imp hc

/-- Trimming takes off the blanks around a trimmed text. -/
theorem trim_padded (h : IsTrimmed text) (hbefore : isBlankText before)
    (hafter : isBlankText after) : trim (before ++ text ++ after) = text := by
  rw [isTrimmed_iff] at h
  rw [trim, List.append_assoc, trimLeft_append_of_isBlankText hbefore]
  cases text with
  | nil =>
    have hempty : trimLeft after = [] := by
      simpa [trimLeft] using List.all_eq_true.1 hafter
    rw [List.nil_append, hempty]
    rfl
  | cons c rest =>
    have hkept : trimLeft (c :: rest ++ after) = c :: rest ++ after := by
      rw [trimLeft_eq_self_iff]
      simpa using h.1
    rw [hkept, trimRight_append_of_isBlankText hafter, trimRight_eq_self_iff]
    exact h.2

theorem isTrimmed_trim : IsTrimmed (trim text) := trimWhile_trimWhile isBlank text

/-- What stands between two trimmed texts does not matter. -/
theorem IsTrimmed.append (hleft : IsTrimmed left) (hright : IsTrimmed right) (hl : left ≠ [])
    (hr : right ≠ []) (middle : Text) : IsTrimmed (left ++ middle ++ right) := by
  rw [isTrimmed_iff] at *
  rw [List.append_assoc, List.head?_append_of_ne_nil _ hl, ← List.append_assoc,
    List.getLast?_append_of_ne_nil _ hr]
  exact ⟨hleft.1, hright.2⟩

theorem isTrimmed_nil : IsTrimmed [] := rfl

/-- A trimmed text that is not empty ends in a character that is not blank. -/
theorem IsTrimmed.isBlank_getLast (h : IsTrimmed text) (hne : text ≠ []) :
    isBlank (text.getLast hne) = false :=
  (isTrimmed_iff.1 h).2 _ (List.getLast?_eq_some_getLast hne)

/-- Nothing is cut from a text that does not end in a blank. -/
theorem trimRight_append (h : ∀ c ∈ left.getLast?, isBlank c = false) :
    trimRight (left ++ right) = left ++ trimRight right := by
  induction right using List.reverseRecOn with
  | nil =>
    have hright : trimRight [] = [] := rfl
    rw [hright, List.append_nil, trimRight_eq_self_iff]
    exact h
  | append_singleton right c ih =>
    rw [← List.append_assoc]
    by_cases hc : isBlank c = true
    · have hblank : isBlankText [c] = true := by simpa [isBlankText] using hc
      rw [trimRight_append_of_isBlankText hblank, trimRight_append_of_isBlankText hblank, ih]
    · have hlast (before : Text) : trimRight (before ++ [c]) = before ++ [c] := by
        rw [trimRight_eq_self_iff]
        simpa using hc
      rw [hlast, hlast, List.append_assoc]

theorem trimRight_append_cons {c : Char} (hc : isBlank c = false) (before rest : Text) :
    trimRight (before ++ c :: rest) = before ++ c :: trimRight rest := by
  have hleft : ∀ d ∈ (before ++ [c]).getLast?, isBlank d = false := by simpa using hc
  rw [← List.singleton_append, ← List.append_assoc, trimRight_append hleft, List.append_assoc]
  rfl

/-- On the two sides of a character that is not blank blanks are trimmed apart. -/
theorem trim_append_cons {c : Char} (hc : isBlank c = false) (before rest : Text) :
    trim (before ++ c :: rest) = trimLeft before ++ c :: trimRight rest := by
  have hkept : trimLeft (before ++ c :: rest) = trimLeft before ++ c :: rest := by
    rw [trimLeft, trimLeft, List.dropWhile_append]
    split
    · next hempty =>
      rw [List.isEmpty_iff.1 hempty, List.dropWhile_cons, hc]
      rfl
    · rfl
  rw [trim, hkept, trimRight_append_cons hc]

theorem trim_trimLeft (text : Text) : trim (trimLeft text) = trim text := by
  rw [trim, trimLeft, trimLeft, List.dropWhile_idempotent]
  rfl

theorem trim_eq_nil_iff : trim text = [] ↔ isBlankText text = true := by
  constructor
  · intro h
    by_contra hblank
    obtain ⟨c, hmem, hc⟩ : ∃ c ∈ text, isBlank c = false := by
      simpa [isBlankText] using hblank
    obtain ⟨before, rest, rfl⟩ := List.append_of_mem hmem
    rw [trim_append_cons hc] at h
    simp at h
  · intro h
    have hempty : trimLeft text = [] := List.dropWhile_eq_nil_iff.2 (List.all_eq_true.1 h)
    rw [trim, hempty]
    rfl

theorem trim_append (hleft : IsTrimmed left) (hne : left ≠ []) (hbefore : isBlankText before)
    (right : Text) :
    trim (before ++ (left ++ right)) = left ++ trimRight right := by
  rw [isTrimmed_iff] at hleft
  have hkept : trimLeft (left ++ right) = left ++ right := by
    rw [trimLeft_eq_self_iff, List.head?_append_of_ne_nil _ hne]
    exact hleft.1
  rw [trim, trimLeft_append_of_isBlankText hbefore, hkept, trimRight_append hleft.2]

/-- At the start of a trimmed text there is nothing to trim in front. -/
theorem trim_prefix_of_isTrimmed (h : IsTrimmed (left ++ right)) : trim left <+: left := by
  have hkept : trimLeft left = left := by
    rw [trimLeft_eq_self_iff]
    intro c hc
    apply (isTrimmed_iff.1 h).1
    rw [Option.mem_def, List.head?_append, Option.mem_def.1 hc]
    rfl
  rw [trim, hkept]
  exact trimRight_prefix_self left

/-- At the end of a trimmed text there is nothing to trim behind. -/
theorem trim_suffix_of_isTrimmed (h : IsTrimmed (left ++ right)) : trim right <:+ right := by
  have hkept : trimRight (trimLeft right) = trimLeft right := by
    rw [trimRight_eq_self_iff]
    intro c hc
    apply (isTrimmed_iff.1 h).2
    have hsuffix : trimLeft right <:+ right := trimLeft_suffix
    obtain ⟨front, hfront⟩ := hsuffix
    rw [Option.mem_def, ← hfront, List.getLast?_append, List.getLast?_append,
      Option.mem_def.1 hc]
    rfl
  rw [trim, hkept]
  exact trimLeft_suffix

theorem trim_sublist (text : Text) : (trim text).Sublist text :=
  (trimRight_prefix_self _).sublist.trans trimLeft_suffix.sublist

end NoteTemplate.Text
