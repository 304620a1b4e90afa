import NoteTemplate.Text.Occurrence

/-!
# The counter tag

A title pattern is numbered when it has the tag `{{counter}}`, in any case and
without a format.
-/

namespace NoteTemplate

/-- The tag in small letters. -/
def counterTag : Text := "\x7b\x7bcounter\x7d\x7d".toList

/-- The counter tag at the start of a text. -/
def recogniseCounter : Recogniser Unit := fun text =>
  if (text.take counterTag.length).map Char.toLower = counterTag then
    some (counterTag.length, ())
  else none

/-- The counter tags of a pattern, in order. -/
def counterTags (pattern : Text) : List (Occurrence Unit) := occurrences recogniseCounter pattern

/-- Is the pattern numbered? -/
def hasCounter (pattern : Text) : Bool := !(counterTags pattern).isEmpty

/-- The text before the first counter tag and the text behind it. -/
def cutAtCounter? (pattern : Text) : Option (Text × Text) :=
  (counterTags pattern).head?.map fun found =>
    (pattern.take found.span.start, pattern.drop found.span.stop)

end NoteTemplate
