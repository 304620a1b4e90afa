import Mathlib.Logic.ExistsUnique
import NoteTemplate.Proofs.Text.Split

/-!
# Lines and their places

A text is its lines with line feeds between them.  A line owns the places of its characters
and the place directly behind them, which is that of its line feed or the end of the text.
The lines stand one behind the other without gaps, so every place of the text belongs to
exactly one line (`existsUnique_ownsPlace_iff`).
-/

namespace NoteTemplate

/-- The lines of a text, without their line feeds. -/
def Text.lines (text : Text) : List Text := Text.splitOn '\n' text

/-- The place where the line with the given number starts: behind the lines in front of it, with
their line feeds. -/
def lineStart (lines : List Text) (number : Nat) : Nat :=
  ((lines.take number).flatMap fun line => line ++ ['\n']).length

/-- The position is that of a character of the line, or the one directly behind the line. -/
def OwnsPlace (lines : List Text) (number : Nat) (pos : Int) : Prop :=
  ∃ line, lines[number]? = some line ∧ (lineStart lines number : Int) ≤ pos ∧
    pos ≤ lineStart lines number + line.length

variable {lines : List Text} {line : Text} {first last number other : Nat} {pos : Int}

/-! ### Starts of lines -/

@[simp]
theorem lineStart_zero (lines : List Text) : lineStart lines 0 = 0 := by
  simp [lineStart]

theorem lineStart_succ (h : lines[number]? = some line) :
    lineStart lines (number + 1) = lineStart lines number + line.length + 1 := by
  rw [lineStart, List.take_add_one, h, List.flatMap_append, List.length_append]
  simp [lineStart, Nat.add_assoc]

theorem lineStart_le (lines : List Text) (hle : first ≤ last) :
    lineStart lines first ≤ lineStart lines last := by
  rw [lineStart, lineStart, ← List.take_append_drop first (lines.take last), List.take_take,
    Nat.min_eq_left hle, List.flatMap_append, List.length_append]
  exact Nat.le_add_right _ _

/-- Behind the end of the text no further line starts. -/
theorem lineStart_of_length_le (h : lines.length ≤ number) :
    lineStart lines number = lineStart lines lines.length := by
  rw [lineStart, lineStart, List.take_of_length_le h, List.take_length]

/-- Behind the last line there is no line feed. -/
theorem lineStart_length_lines (text : Text) :
    lineStart text.lines text.lines.length = text.length + 1 := by
  rw [lineStart, List.take_length, Text.lines]
  induction text with
  | nil => rfl
  | cons c text ih =>
    rw [Text.splitOn]
    split
    · simp only [List.flatMap_cons, List.length_append, List.length_cons, List.length_nil, ih]
      omega
    · obtain ⟨part, parts, hparts⟩ := List.exists_cons_of_ne_nil (Text.splitOn_ne_nil '\n' text)
      rw [hparts] at ih ⊢
      simp only [List.flatMap_cons, List.length_append, List.length_cons] at ih ⊢
      omega

/-! ### The line of a place -/

theorem ownsPlace_iff :
    OwnsPlace lines number pos ↔ number < lines.length ∧ (lineStart lines number : Int) ≤ pos ∧
      pos < lineStart lines (number + 1) := by
  constructor
  · rintro ⟨line, hline, hstart, hstop⟩
    have hnext := lineStart_succ hline
    obtain ⟨hnumber, -⟩ := List.getElem?_eq_some_iff.1 hline
    exact ⟨hnumber, hstart, by omega⟩
  · rintro ⟨hnumber, hstart, hstop⟩
    have hline := List.getElem?_eq_getElem hnumber
    have hnext := lineStart_succ hline
    exact ⟨_, hline, hstart, by omega⟩

/-- A line starts at or before a place only if it does not stand behind the line of the place. -/
theorem OwnsPlace.le_of_lineStart_le (h : OwnsPlace lines number pos)
    (hpos : (lineStart lines other : Int) ≤ pos) : other ≤ number := by
  obtain ⟨-, -, hstop⟩ := ownsPlace_iff.1 h
  apply Nat.le_of_not_lt
  intro hlate
  have hstart : lineStart lines (number + 1) ≤ _ := lineStart_le lines hlate
  omega

/-- No place belongs to two lines. -/
theorem OwnsPlace.eq (h : OwnsPlace lines number pos) (hother : OwnsPlace lines other pos) :
    number = other := by
  obtain ⟨-, hstart, -⟩ := ownsPlace_iff.1 h
  obtain ⟨-, hotherStart, -⟩ := ownsPlace_iff.1 hother
  exact Nat.le_antisymm (hother.le_of_lineStart_le hstart) (h.le_of_lineStart_le hotherStart)

/-- Between the starts of two lines every place belongs to one of the lines in between. -/
theorem exists_ownsPlace (hlast : last ≤ lines.length)
    (hstart : (lineStart lines first : Int) ≤ pos) (hstop : pos < lineStart lines last) :
    ∃ number, first ≤ number ∧ number < last ∧ OwnsPlace lines number pos := by
  induction last with
  | zero =>
    rw [lineStart_zero] at hstop
    omega
  | succ last ih =>
    by_cases hbefore : pos < lineStart lines last
    · obtain ⟨number, hfirst, hnumber, howns⟩ := ih (by omega) hbefore
      exact ⟨number, hfirst, by omega, howns⟩
    · have howns : OwnsPlace lines last pos :=
        ownsPlace_iff.2 ⟨by omega, Int.not_lt.1 hbefore, hstop⟩
      exact ⟨last, howns.le_of_lineStart_le hstart, Nat.lt_succ_self last, howns⟩

/-- From the start of one line to the end of another stand the places of the lines in between,
those two included. -/
theorem exists_ownsPlace_iff (hlast : last < lines.length) :
    (∃ number, first ≤ number ∧ number ≤ last ∧ OwnsPlace lines number pos) ↔
      (lineStart lines first : Int) ≤ pos ∧ pos < lineStart lines (last + 1) := by
  constructor
  · rintro ⟨number, hfirst, hnumber, howns⟩
    obtain ⟨-, hstart, hstop⟩ := ownsPlace_iff.1 howns
    have hbefore := lineStart_le lines hfirst
    have hbehind := lineStart_le lines (Nat.add_le_add_right hnumber 1)
    omega
  · rintro ⟨hstart, hstop⟩
    obtain ⟨number, hfirst, hnumber, howns⟩ := exists_ownsPlace (by omega) hstart hstop
    exact ⟨number, hfirst, Nat.le_of_lt_succ hnumber, howns⟩

/-- The end of a text belongs to its last line. -/
theorem ownsPlace_length (text : Text) :
    OwnsPlace text.lines (text.lines.length - 1) text.length := by
  have hlength : 0 < text.lines.length :=
    List.length_pos_iff.2 (Text.splitOn_ne_nil '\n' text)
  have hnumber : text.lines.length - 1 < text.lines.length := Nat.sub_one_lt_of_lt hlength
  have hnext := lineStart_succ (List.getElem?_eq_getElem hnumber)
  have hend := lineStart_length_lines text
  rw [Nat.sub_add_cancel hlength] at hnext
  rw [ownsPlace_iff, Nat.sub_add_cancel hlength]
  omega

/-- Each place of a text belongs to one line, and no other position does. -/
theorem existsUnique_ownsPlace_iff (text : Text) (pos : Int) :
    (∃! number, OwnsPlace text.lines number pos) ↔ 0 ≤ pos ∧ pos ≤ text.length := by
  have hend := lineStart_length_lines text
  constructor
  · rintro ⟨number, howns, -⟩
    obtain ⟨hnumber, hstart, hstop⟩ := ownsPlace_iff.1 howns
    have hlast : lineStart text.lines (number + 1) ≤ _ := lineStart_le text.lines hnumber
    omega
  · rintro ⟨hstart, hstop⟩
    have hfirst : (lineStart text.lines 0 : Int) ≤ pos := by
      rw [lineStart_zero]
      exact hstart
    obtain ⟨number, -, -, howns⟩ :=
      exists_ownsPlace (Nat.le_refl text.lines.length) hfirst (by omega)
    exact ⟨number, howns, fun other hother => hother.eq howns⟩

end NoteTemplate
