import NoteTemplate.Text.Basic

/-!
# Messages to the console

What a command has to say is handed to the console as messages.  How the console draws them is
not said here: it may break lines, colour them and show the codes of emoji.

Most messages are written in the markup of the console, where tags in brackets set styles, such
as `[dim]` and `[/dim]`.  A text that a message quotes is escaped, so that it is shown as it is.
A message is refused when a tag closes a style that is not open.  One escaped text between words
never leads to that, but two of them may: a bracket that the first one leaves open can be closed
in the second.
-/

namespace NoteTemplate

/-- Is the character a bracket of a tag? -/
def isTagBracket (c : Char) : Bool := c = '[' || c = ']'

/-- The text has no brackets, and no backslash at its end that would change what comes behind. -/
def Text.IsWords (text : Text) : Prop :=
  text.any isTagBracket = false ∧ text.getLast? ≠ some '\\'

instance (text : Text) : Decidable text.IsWords := by unfold Text.IsWords; infer_instance

/-- A text in a style. -/
def styled (style : String) (inside : Text) : Text :=
  '[' :: style.toList ++ ']' :: inside ++ '[' :: '/' :: style.toList ++ [']']

/-- The markup of the console. -/
class Styling where
  /-- The text as it is written in markup to be shown as it is. -/
  escape : Text → Text
  /-- Why a message in markup is refused, if it is. -/
  refusal? : Text → Option Text
  escape_of_isWords {text : Text} : text.IsWords → escape text = text
  /-- Words and one text are shown. -/
  refusal?_escape {front behind : Text} (text : Text) : front.IsWords → behind.IsWords →
    refusal? (front ++ escape text ++ behind) = none
  /-- Words and one text are shown in a style. -/
  refusal?_styled {style : String} {front behind : Text} (text : Text) :
    style ∈ ["bold", "dim", "red", "green"] → front.IsWords → behind.IsWords →
      refusal? (styled style (front ++ escape text ++ behind)) = none

/-- On which side the cells of a column stand. -/
inductive Alignment where
  | left | right
deriving DecidableEq, Repr

/-- A column of a table. -/
structure TableColumn where
  header : Text
  alignment : Alignment
deriving DecidableEq, Repr

/-- A cell of a table: a message in markup, or a title pattern in the colours of its tags. -/
inductive TableCell where
  | marked (markup : Text)
  | painted (pattern : Text)
deriving DecidableEq, Repr

/-- What is handed to the console. -/
inductive Message where
  /-- A line in markup. -/
  | line (markup : Text)
  /-- A question in markup; the answer is typed behind it. -/
  | question (markup : Text)
  /-- A line without markup. -/
  | unmarked (text : Text)
  /-- A title pattern in the colours of its tags. -/
  | painted (pattern : Text)
  /-- A table; every row has one cell per column. -/
  | table (columns : List TableColumn) (rows : List (List TableCell))
deriving DecidableEq, Repr

/-- Why the console refuses a cell, if it does. -/
def TableCell.refusal? [Styling] : TableCell → Option Text
  | .marked markup => Styling.refusal? markup
  | .painted _ => none

/-- Why the console refuses a message, if it does. -/
def Message.refusal? [Styling] : Message → Option Text
  | .line markup | .question markup => Styling.refusal? markup
  | .unmarked _ | .painted _ => none
  | .table _ rows => rows.flatten.findSome? TableCell.refusal?

end NoteTemplate
