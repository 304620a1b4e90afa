import NoteTemplate.Text.Basic

/-!
# Occurrences

Prompts and variables are found by one rule: look from left to right, take what
starts at the current position if something does, and go on behind it.  The scan
is a recursion on the text that counts the characters still to be skipped.  Its
occurrences stand in text order and do not overlap (`pairwise_occurrences`).
-/

namespace NoteTemplate

/-- A stretch from `start` up to, and not including, `stop`. -/
structure Span (Pos : Type) where
  start : Pos
  stop : Pos
deriving DecidableEq, Repr

/-- The stretch with both ends moved by `offset`. -/
def Span.shift {Pos : Type} [Add Pos] (span : Span Pos) (offset : Pos) : Span Pos :=
  ⟨span.start + offset, span.stop + offset⟩

/-- The stretch with both ends sent to other positions. -/
def Span.map {Pos Pos' : Type} (f : Pos → Pos') (span : Span Pos) : Span Pos' :=
  ⟨f span.start, f span.stop⟩

/-- The characters of the text that the stretch covers. -/
def Span.of (span : Span Nat) (text : Text) : Text := Text.slice text span.start span.stop

/-- A recogniser looks at the beginning of a text.  When something starts there it
tells how many characters it takes and what it is. -/
abbrev Recogniser (α : Type) := Text → Option (Nat × α)

/-- Something that was found, with its place in the text. -/
structure Occurrence (α : Type) where
  span : Span Nat
  value : α
deriving DecidableEq, Repr

/-- The occurrences in the rest of a text that starts at position `pos`, after its
first `skip` characters. -/
def occurrencesFrom {α : Type} (recognise : Recogniser α) :
    (pos skip : Nat) → Text → List (Occurrence α)
  | _, _, [] => []
  | pos, skip + 1, _ :: rest => occurrencesFrom recognise (pos + 1) skip rest
  | pos, 0, c :: rest =>
    match recognise (c :: rest) with
    | some (length, value) =>
      ⟨⟨pos, pos + length⟩, value⟩ :: occurrencesFrom recognise (pos + 1) (length - 1) rest
    | none => occurrencesFrom recognise (pos + 1) 0 rest

/-- All occurrences in a text, from left to right, none overlapping another. -/
def occurrences {α : Type} (recognise : Recogniser α) (text : Text) : List (Occurrence α) :=
  occurrencesFrom recognise 0 0 text

/-- Nothing is found before the place where the scan starts. -/
theorem le_start_of_mem_occurrencesFrom {α : Type} {recognise : Recogniser α}
    {pos skip : Nat} {text : Text} {found : Occurrence α}
    (h : found ∈ occurrencesFrom recognise pos skip text) : pos + skip ≤ found.span.start := by
  induction text generalizing pos skip with
  | nil => simp [occurrencesFrom] at h
  | cons c rest ih =>
    cases skip with
    | succ skip => have := ih h; omega
    | zero =>
      simp only [occurrencesFrom] at h
      split at h
      · rcases List.mem_cons.1 h with rfl | h
        · simp
        · have := ih h; omega
      · have := ih h; omega

/-- When what is recognised is never empty, an occurrence ends before the next one
starts. -/
theorem pairwise_occurrencesFrom {α : Type} {recognise : Recogniser α}
    (nonempty : ∀ text length value, recognise text = some (length, value) → 0 < length)
    (pos skip : Nat) (text : Text) :
    (occurrencesFrom recognise pos skip text).Pairwise
      fun left right => left.span.stop ≤ right.span.start := by
  induction text generalizing pos skip with
  | nil => simp [occurrencesFrom]
  | cons c rest ih =>
    cases skip with
    | succ skip => exact ih _ _
    | zero =>
      simp only [occurrencesFrom]
      split
      · next length value hfound =>
        refine List.pairwise_cons.2 ⟨?_, ih _ _⟩
        intro found hmem
        have hstart := le_start_of_mem_occurrencesFrom hmem
        have hpos := nonempty _ _ _ hfound
        simp only
        omega
      · exact ih _ _

theorem pairwise_occurrences {α : Type} {recognise : Recogniser α}
    (nonempty : ∀ text length value, recognise text = some (length, value) → 0 < length)
    (text : Text) :
    (occurrences recognise text).Pairwise
      fun left right => left.span.stop ≤ right.span.start :=
  pairwise_occurrencesFrom nonempty 0 0 text

end NoteTemplate
