import Mathlib.Data.List.Infix
import Mathlib.Data.List.TakeWhile
import NoteTemplate.Prompt.Tag
import NoteTemplate.Variable.Tag

/-!
# The shapes of tags

A tag is recognised exactly when it stands at the start of the text as it can be written.
So what is recognised only depends on the characters that the tag has, and both sorts of
tags are fenced by braces.
-/

namespace NoteTemplate

variable {text rest name inside format : Text} {length : Nat}

theorem isWordChar_closingBrace : isWordChar '\x7d' = false := by decide +kernel

theorem isWordChar_colon : isWordChar ':' = false := by decide +kernel

/-- What is recognised is still recognised without the characters behind it. -/
def IsLocal {α : Type} (recognise : Recogniser α) : Prop :=
  ∀ text rest length value, recognise (text ++ rest) = some (length, value) →
    length ≤ text.length → recognise text = some (length, value)

/-- A part at the start of a text that fits into the first half is at its start. -/
theorem exists_append_of_length_le {source before after behind : Text}
    (h : before ++ after = source ++ behind) (hlength : source.length ≤ before.length) :
    ∃ rest, before = source ++ rest := by
  have hstart : source <+: before ++ after := by
    rw [h]
    exact List.prefix_append _ _
  obtain ⟨rest, hrest⟩ := List.prefix_of_prefix_length_le hstart (List.prefix_append _ _) hlength
  exact ⟨rest, hrest.symm⟩

namespace VariableTag

/-- The characters between the name and the closing braces. -/
def formatSource : Option Text → Text
  | some format => ':' :: format
  | none => []

/-- A variable tag as it is written. -/
def source (name : Text) (format : Option Text) : Text :=
  '\x7b' :: '\x7b' :: name ++ formatSource format ++ closing

/-- The name and the format can be written in a tag. -/
structure IsWritten (name : Text) (format : Option Text) : Prop where
  name_ne_nil : name ≠ []
  name_word : ∀ c ∈ name, isWordChar c = true
  format_ne_nil : ∀ text, format = some text → text ≠ []
  format_closed : ∀ text, format = some text → '\x7d' ∉ text

theorem length_source (name : Text) (format : Option Text) :
    (source name format).length = name.length + (formatSource format).length + 4 := by
  simp [source, closing]
  omega

theorem takeWhile_append_cons {p : Char → Bool} {front : Text} {c : Char}
    (hfront : ∀ d ∈ front, p d = true) (hc : p c = false) :
    (front ++ c :: rest).takeWhile p = front := by
  rw [List.takeWhile_append_of_pos hfront, List.takeWhile_cons, hc]
  simp

theorem format?_append (rest : Text) (hne : format ≠ []) (hclosed : '\x7d' ∉ format) :
    format? (':' :: format ++ (closing ++ rest)) = some format := by
  have htake : (format ++ (closing ++ rest)).takeWhile (· ≠ '\x7d') = format := by
    apply takeWhile_append_cons
    · intro c hc
      simp only [ne_eq, decide_eq_true_eq]
      rintro rfl
      exact hclosed hc
    · simp
  rw [List.cons_append, format?]
  simp only [htake, List.drop_left]
  have hend : closing.isPrefixOf (closing ++ rest) = true :=
    List.isPrefixOf_iff_prefix.2 (List.prefix_append _ _)
  simp [hne, hend]

theorem eq_of_format? (h : format? text = some format) :
    format ≠ [] ∧ '\x7d' ∉ format ∧ ∃ rest, text = ':' :: format ++ (closing ++ rest) := by
  rw [format?.eq_def] at h
  split at h
  · next behind =>
    dsimp only at h
    split at h
    · next hformat =>
      obtain rfl := Option.some.inj h
      rw [Bool.and_eq_true, List.isPrefixOf_iff_prefix] at hformat
      obtain ⟨rest, hrest⟩ := hformat.2
      refine ⟨by simpa using hformat.1, ?_, rest, ?_⟩
      · intro hmem
        simpa using List.mem_takeWhile_imp hmem
      · rw [hrest, List.cons_append]
        exact congrArg _ (List.prefix_append_drop (List.takeWhile_prefix _))
    · simp at h
  · simp at h

/-- A variable tag is recognised where it stands as it can be written. -/
theorem recognise_iff {tag : VariableTag} :
    recognise text = some (length, tag) ↔
      ∃ name rest, text = source name tag.format ++ rest ∧ IsWritten name tag.format ∧
        tag.name = Text.lower name ∧ length = (source name tag.format).length := by
  constructor
  · intro h
    rw [recognise.eq_def] at h
    split at h
    · next behind =>
      dsimp only at h
      have hbehind := List.prefix_append_drop (List.takeWhile_prefix isWordChar (l := behind))
      have hword : ∀ c ∈ behind.takeWhile isWordChar, isWordChar c = true :=
        fun c hc => List.mem_takeWhile_imp hc
      split at h
      · simp at h
      · next hname =>
        have hne : behind.takeWhile isWordChar ≠ [] := by simpa using hname
        split at h
        · next hclosing =>
          obtain ⟨rest, hrest⟩ := List.isPrefixOf_iff_prefix.1 hclosing
          obtain ⟨rfl, rfl⟩ := by simpa using h
          refine ⟨behind.takeWhile isWordChar, rest, ?_, ⟨hne, hword, by simp, by simp⟩, rfl, ?_⟩
          · rw [← hrest] at hbehind
            simpa [source, formatSource] using hbehind
          · simp [length_source, formatSource]
        · obtain ⟨format, hformat, hpair⟩ := Option.map_eq_some_iff.1 h
          obtain ⟨rfl, rfl⟩ := by simpa using hpair
          obtain ⟨hformatNe, hclosed, rest, hrest⟩ := eq_of_format? hformat
          refine ⟨behind.takeWhile isWordChar, rest, ?_, ⟨hne, hword, ?_, ?_⟩, rfl, ?_⟩
          · rw [hrest] at hbehind
            simpa [source, formatSource] using hbehind
          · rintro _ ⟨rfl⟩
            exact hformatNe
          · rintro _ ⟨rfl⟩
            exact hclosed
          · simp [length_source, formatSource]
            omega
    · simp at h
  · rintro ⟨name, rest, rfl, hwritten, hname, rfl⟩
    obtain ⟨tagName, format⟩ := tag
    obtain rfl : tagName = Text.lower name := hname
    have htake (c : Char) (behind : Text) (hc : isWordChar c = false) :
        (name ++ c :: behind).takeWhile isWordChar = name :=
      takeWhile_append_cons hwritten.name_word hc
    have hempty : name.isEmpty = false := by simpa using hwritten.name_ne_nil
    rw [length_source]
    cases format with
    | none =>
      have hname := htake '\x7d' ('\x7d' :: rest) isWordChar_closingBrace
      simp [source, formatSource, closing, recognise, hname, hempty]
    | some format =>
      have hname := htake ':' (format ++ (closing ++ rest)) isWordChar_colon
      have hformat := format?_append rest (hwritten.format_ne_nil format rfl)
        (hwritten.format_closed format rfl)
      rw [List.cons_append] at hformat
      have hclosing : ¬closing <+: ':' :: (format ++ (closing ++ rest)) := by
        rintro ⟨_, hstart⟩
        simp [closing] at hstart
      simp [source, formatSource, recognise, hname, hempty, hformat, hclosing]
      omega

theorem isLocal_recognise : IsLocal recognise := by
  intro text rest length tag h hlength
  obtain ⟨name, behind, heq, hwritten, hname, rfl⟩ := recognise_iff.1 h
  obtain ⟨more, hmore⟩ := exists_append_of_length_le heq hlength
  exact recognise_iff.2 ⟨name, more, hmore, hwritten, hname, rfl⟩

end VariableTag

namespace PromptTag

/-- A prompt tag as it is written. -/
def source (inside : Text) : Text := '\x7b' :: '%' :: inside ++ ['%', '\x7d']

/-- A prompt tag is recognised where it stands as it can be written. -/
theorem recognise_iff {tag : PromptTag} :
    recognise text = some (length, tag) ↔
      ∃ inside rest, text = source inside ++ rest ∧ inside ≠ [] ∧ '%' ∉ inside ∧
        tag = ofInside inside ∧ length = (source inside).length := by
  constructor
  · intro h
    rw [recognise.eq_def] at h
    split at h
    · next behind =>
      dsimp only at h
      have hbehind := List.prefix_append_drop (List.takeWhile_prefix (· ≠ '%') (l := behind))
      split at h
      · next hinside =>
        rw [Bool.and_eq_true, List.isPrefixOf_iff_prefix] at hinside
        obtain ⟨rest, hrest⟩ := hinside.2
        obtain ⟨rfl, rfl⟩ := by simpa using h
        refine ⟨_, rest, ?_, by simpa using hinside.1, ?_, rfl, by simp [source]⟩
        · rw [← hrest] at hbehind
          simpa [source] using hbehind
        · intro hmem
          simpa using List.mem_takeWhile_imp hmem
      · simp at h
    · simp at h
  · rintro ⟨inside, rest, rfl, hne, hpercent, rfl, rfl⟩
    have htake : (inside ++ '%' :: '\x7d' :: rest).takeWhile (· ≠ '%') = inside := by
      apply VariableTag.takeWhile_append_cons
      · intro c hc
        simp only [ne_eq, decide_eq_true_eq]
        rintro rfl
        exact hpercent hc
      · simp
    simp only [source, List.cons_append, List.append_assoc, List.nil_append, recognise, htake]
    simp [hne]

theorem isLocal_recognise : IsLocal recognise := by
  intro text rest length tag h hlength
  obtain ⟨inside, behind, heq, hne, hpercent, htag, rfl⟩ := recognise_iff.1 h
  obtain ⟨more, hmore⟩ := exists_append_of_length_le heq hlength
  exact recognise_iff.2 ⟨inside, more, hmore, hne, hpercent, htag, rfl⟩

end PromptTag

end NoteTemplate
