import NoteTemplate.Failure
import NoteTemplate.Format.Rendering

/-!
# Formats from a settings file

A format that was read from a settings file may be no text.  An empty list or
object is a format without pieces; anything else fails when it is used.
-/

namespace NoteTemplate

/-- The pieces of a stored format. -/
def StoredText.formatPieces : StoredText → Except Failure (List FormatPiece)
  | .text format => .ok (NoteTemplate.formatPieces format)
  | .foreign value _ =>
    match value with
    | .arr [] | .obj [] => .ok []
    | .arr _ | .obj _ => .error .missingPart
    | _ => .error .wrongKind

variable [LocalZone]

/-- An instant written in a stored format. -/
def Instant.formatStored (instant : Instant) (format : StoredText) : Except Failure Text := do
  let pieces ← format.formatPieces
  match pieces.mapM instant.showPiece with
  | .ok shown => return shown.flatten
  | .error error => .error (.calendar error)

/-- Does a stored format show a part of a time of day? -/
def StoredText.hasTimeTokens (format : StoredText) : Except Failure Bool := do
  return (← format.formatPieces).any FormatPiece.isTimeToken

/-- A format that is a text is written as usual. -/
theorem Instant.formatStored_text (instant : Instant) (format : Text) :
    instant.formatStored (.text format) = (instant.format format).mapError Failure.calendar := by
  simp only [formatStored, StoredText.formatPieces, bind, Except.bind, Instant.format]
  cases (NoteTemplate.formatPieces format).mapM instant.showPiece <;> rfl

end NoteTemplate
