import NoteTemplate.Terminal.Columns
import NoteTemplate.Terminal.Message
import NoteTemplate.Text.Blank

/-!
# Cells of a table

A cell is a text that is set in a column of some width.  Its tabs are drawn as spaces,
so a line can turn out wider than it was measured.  Such a line is broken in front of a
word, and a word that is too wide by itself is cut and ends in an ellipsis.
-/

namespace NoteTemplate

namespace Cell

/-- The characters that end a line where the width of a cell is measured.  A cell is
drawn with a new line behind the line feed alone. -/
def endsMeasuredLine (c : Char) : Bool :=
  c = '\n' || c = '\x1c' || c = '\x1d' || c = '\x1e' || c = '\u0085' || c = '\u2028'
    || c = '\u2029'

/-- The number of columns of the terminal that a cell asks for. -/
def width (cell : Text) : Nat :=
  let lines := Text.splitOn '\n' (cell.map fun c => if endsMeasuredLine c then '\n' else c)
  (lines.map Text.columns).foldl max 0

/-- A text cut behind every blank that a word follows. -/
def cutBehindBlanks : Text → List Text
  | [] => []
  | c :: rest =>
    match cutBehindBlanks rest with
    | [] => [[c]]
    | part :: parts =>
      if isBlank c && part.head?.any (!isBlank ·) then [c] :: part :: parts
      else (c :: part) :: parts

/-- The words of a line, each with the blanks behind it, and the first one also with the
blanks in front of it. -/
def words (line : Text) : List Text :=
  match cutBehindBlanks line with
  | first :: second :: rest =>
    if Text.isBlankText first then (first ++ second) :: rest else first :: second :: rest
  | parts => parts

/-- The words put on lines one after the other, where `line` is the line that is begun.
A word starts a new line if it does not fit without the blanks behind it. -/
def fill (width : Nat) (line : Text) : List Text → List Text
  | [] => [line]
  | word :: words =>
    if line.isEmpty || Text.columns line + Text.columns (Text.trimRight word) ≤ width then
      fill width (line ++ word) words
    else line :: fill width word words

/-- The line without blanks at its end, as far as it has more characters than the column
is wide. -/
def trimExcess (width : Nat) (line : Text) : Text :=
  let blanks := (line.reverse.takeWhile isBlank).length
  line.take (line.length - min blanks (line.length - width))

/-- A beginning of the text that takes `width` columns, looked for by halving between two
lengths.  If only a wide character would cross the end, a space stands for it. -/
def cutBetween (width : Nat) (text : Text) (low high : Nat) : Text :=
  let middle := (low + high) / 2
  let start := text.take (middle + 1)
  if Text.columns start = width + 1 && (start.getLast?.map charColumns) = some 2 then
    start.dropLast ++ [' ']
  else if Text.columns start = width then start
  else if width < Text.columns start then
    if middle < high then cutBetween width text low middle else start
  else
    if low < middle then cutBetween width text middle high else start
termination_by high - low

/-- The beginning of a text that is wider than `width` columns. -/
def cut (width : Nat) (text : Text) : Text :=
  if width = 0 then [] else cutBetween width text 0 text.length

/-- The line, or what fits of it with an ellipsis behind it. -/
def crop (width : Nat) (line : Text) : Text :=
  if Text.columns line ≤ width then line else cut (width - 1) line ++ ['…']

/-- The line filled up with spaces to the width of its column. -/
def aligned (alignment : Alignment) (width : Nat) (line : Text) : Text :=
  match alignment with
  | .left =>
    let line := crop width line
    line ++ List.replicate (width - Text.columns line) ' '
  | .right =>
    let line := crop width (Text.trimRight line)
    List.replicate (width - Text.columns line) ' ' ++ line

/-- The lines of a cell as they are drawn in a column. -/
def lines (alignment : Alignment) (width : Nat) (cell : Text) : List Text :=
  (Text.splitOn '\n' cell).flatMap fun line =>
    (fill width [] (words (Text.expandTabs line))).map fun part =>
      aligned alignment width (trimExcess width part)

end Cell

end NoteTemplate
