import NoteTemplate.Text.Lowercase
import NoteTemplate.Text.Occurrence
import NoteTemplate.Text.Word

/-!
# Variable tags

A variable is written `{{name}}`, or `{{name:format}}` with a format that has no
closing brace.  The case of the name does not matter.
-/

namespace NoteTemplate

/-- The name of a variable in lower case, and its format. -/
structure VariableTag where
  name : Text
  format : Option Text
deriving DecidableEq, Repr

namespace VariableTag

/-- The two braces that end a tag. -/
def closing : Text := ['\x7d', '\x7d']

/-- The format behind the name: a colon and at least one character that is no
closing brace. -/
def format? : Text → Option Text
  | ':' :: rest =>
    let format := rest.takeWhile (· ≠ '\x7d')
    if !format.isEmpty && closing.isPrefixOf (rest.drop format.length) then some format else none
  | _ => none

/-- The tag at the start of a text, with its length. -/
def recognise : Recogniser VariableTag
  | '\x7b' :: '\x7b' :: rest =>
    let name := rest.takeWhile isWordChar
    let behind := rest.drop name.length
    if name.isEmpty then none
    else if closing.isPrefixOf behind then some (name.length + 4, ⟨Text.lower name, none⟩)
    else
      (format? behind).map fun format =>
        (name.length + format.length + 5, ⟨Text.lower name, some format⟩)
  | _ => none

/-- What is recognised is never empty. -/
theorem recognise_pos (text : Text) (length : Nat) (tag : VariableTag)
    (h : recognise text = some (length, tag)) : 0 < length := by
  unfold recognise at h
  split at h
  · dsimp only at h
    split at h
    · simp at h
    · split at h
      · simp only [Option.some.injEq, Prod.mk.injEq] at h; omega
      · obtain ⟨format, _, hpair⟩ := Option.map_eq_some_iff.1 h
        simp only [Prod.mk.injEq] at hpair
        omega
  · simp at h

end VariableTag

/-- The variable tags of a text, in order. -/
def variableTags (text : Text) : List (Occurrence VariableTag) :=
  occurrences VariableTag.recognise text

/-- A tag ends before the next one starts. -/
theorem pairwise_variableTags (text : Text) :
    (variableTags text).Pairwise fun left right => left.span.stop ≤ right.span.start :=
  pairwise_occurrences VariableTag.recognise_pos text

end NoteTemplate
