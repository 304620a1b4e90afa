/-!
# Text

A text is its list of characters, so that a position is a number of characters
and every scanner is a recursion on the list.  This file has the cutting and
joining operations that the rest of the library shares; the fact to keep in mind
is that splitting at a character and joining with it undo each other.
-/

namespace NoteTemplate

/-- A sequence of Unicode characters; positions count characters. -/
abbrev Text := List Char

namespace Text

/-- The characters from position `start` up to, and not including, `stop`. -/
def slice (text : Text) (start stop : Nat) : Text :=
  (text.drop start).take (stop - start)

/-- Cut the text at every occurrence of `separator`.  The result has one part
more than there are separators, so it is never empty. -/
def splitOn (separator : Char) : Text → List Text
  | [] => [[]]
  | c :: rest =>
    if c = separator then [] :: splitOn separator rest
    else
      match splitOn separator rest with
      | [] => [[c]]
      | part :: parts => (c :: part) :: parts

/-- The parts in order, with `separator` between neighbours. -/
def join (separator : Text) : List Text → Text
  | [] => []
  | [part] => part
  | part :: next :: parts => part ++ separator ++ join separator (next :: parts)

/-- The text before the first occurrence of `separator` and the text after it. -/
def cutAt? (separator : Char) : Text → Option (Text × Text)
  | [] => none
  | c :: rest =>
    if c = separator then some ([], rest)
    else (cutAt? separator rest).map fun cut => (c :: cut.1, cut.2)

/-- The text before the last occurrence of `separator` and the text after it. -/
def cutAtLast? (separator : Char) : Text → Option (Text × Text)
  | [] => none
  | c :: rest =>
    match cutAtLast? separator rest with
    | some cut => some (c :: cut.1, cut.2)
    | none => if c = separator then some ([], rest) else none

/-- Does `part` occur in the text, at any position? -/
def occursIn (part : Text) : Text → Bool
  | [] => part.isEmpty
  | c :: rest => part.isPrefixOf (c :: rest) || occursIn part rest

/-- Drop every character at the end that satisfies `drop`. -/
def dropWhileRight (drop : Char → Bool) (text : Text) : Text :=
  (text.reverse.dropWhile drop).reverse

/-- Drop every character at both ends that satisfies `drop`. -/
def trimWhile (drop : Char → Bool) (text : Text) : Text :=
  dropWhileRight drop (text.dropWhile drop)

/-- The order of texts by code point; a proper beginning comes first. -/
def le : Text → Text → Bool
  | [], _ => true
  | _ :: _, [] => false
  | a :: s, b :: t => if a = b then le s t else a.toNat < b.toNat

@[simp]
theorem join_nil (separator : Text) : join separator [] = [] := rfl

@[simp]
theorem join_singleton (separator part : Text) : join separator [part] = part := rfl

theorem splitOn_ne_nil (separator : Char) (text : Text) : splitOn separator text ≠ [] := by
  cases text with
  | nil => simp [splitOn]
  | cons c rest =>
    simp only [splitOn]
    split
    · simp
    · split <;> simp

/-- Joining the parts with the separator they were cut at gives the text back. -/
theorem join_splitOn (separator : Char) (text : Text) :
    join [separator] (splitOn separator text) = text := by
  induction text with
  | nil => rfl
  | cons c rest ih =>
    simp only [splitOn]
    have hne := splitOn_ne_nil separator rest
    split
    · next h =>
      cases hparts : splitOn separator rest with
      | nil => exact absurd hparts hne
      | cons part parts => simp [join, ← hparts, ih, h]
    · cases hparts : splitOn separator rest with
      | nil => exact absurd hparts hne
      | cons part parts =>
        cases parts with
        | nil => simp_all [join]
        | cons next more => simp_all [join]

/-- What is cut off at a separator, with the separator put back, is the text. -/
theorem eq_of_cutAt? {separator : Char} {text before after : Text}
    (h : cutAt? separator text = some (before, after)) :
    text = before ++ separator :: after := by
  induction text generalizing before with
  | nil => simp [cutAt?] at h
  | cons c rest ih =>
    simp only [cutAt?] at h
    split at h
    · next hc =>
      obtain ⟨rfl, rfl⟩ := by simpa using h
      simp [hc]
    · obtain ⟨cut, hcut, hpair⟩ := Option.map_eq_some_iff.1 h
      obtain ⟨rfl, rfl⟩ := by simpa using hpair
      simp [ih hcut]

end Text

end NoteTemplate
