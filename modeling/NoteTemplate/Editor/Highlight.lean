import NoteTemplate.Prompt.Content
import NoteTemplate.Prompt.Tag
import NoteTemplate.Terminal.Control
import NoteTemplate.Variable.Tag

/-!
# Highlighting a template

An editor colours prompts part by part and variables as a whole.  Fenced code blocks
are left alone, and so are variables inside a prompt.  The highlights of a text are
given in the order of their starts.
-/

namespace NoteTemplate

/-- What a highlighted stretch is. -/
inductive HighlightKind where
  | bracket | mark | name | colon | type | format | formatToken | formatLiteral | option | comma
  | variable
deriving DecidableEq, Repr

namespace HighlightKind

/-- The name of a kind. -/
def label : HighlightKind → Text
  | .bracket => "bracket".toList
  | .mark => "optional-marker".toList
  | .name => "name".toList
  | .colon => "colon".toList
  | .type => "type".toList
  | .format => "format".toList
  | .formatToken => "format-token".toList
  | .formatLiteral => "format-literal".toList
  | .option => "option".toList
  | .comma => "comma".toList
  | .variable => "variable".toList

/-- The colour of a kind in a terminal. -/
def style : HighlightKind → Text
  | .bracket => "bold magenta".toList
  | .mark => "magenta".toList
  | .name => "bold cyan".toList
  | .colon => "dim".toList
  | .type => "green".toList
  | .format => "yellow".toList
  | .formatToken => "bold yellow".toList
  | .formatLiteral => "yellow".toList
  | .option => "blue".toList
  | .comma => "dim".toList
  | .variable => "bold green".toList

end HighlightKind

/-- A highlighted stretch. -/
structure Highlight where
  span : Span Nat
  kind : HighlightKind
deriving DecidableEq, Repr

namespace Highlight

/-- The highlight of one character. -/
def char (kind : HighlightKind) (pos : Nat) : Highlight := ⟨⟨pos, pos + 1⟩, kind⟩

/-- The highlight of a part, unless the part is empty. -/
def segment (kind : HighlightKind) (part : Segment) : List Highlight :=
  if part.text.isEmpty then [] else [⟨part.span, kind⟩]

/-- The highlight further to the right. -/
def shift (offset : Nat) (highlight : Highlight) : Highlight :=
  { highlight with span := highlight.span.shift offset }

/-- The highlight of a part of a format. -/
def formatPart (part : FormatPart Nat) : Highlight :=
  ⟨part.span, if part.piece.isToken then .formatToken else .formatLiteral⟩

/-- Highlights are put in order by their starts, then by their ends. -/
def before (left right : Highlight) : Bool :=
  left.span.start < right.span.start
    || (left.span.start == right.span.start && left.span.stop ≤ right.span.stop)

end Highlight

/-- The highlights of the detail of a prompt. -/
def Detail.highlights (valueType : Option ValueType) (detail : Segment) :
    Detail → List Highlight
  | .custom opening format closing =>
    ⟨opening.span, .format⟩
      :: (formatParts format.text).map (fun part =>
        (Highlight.formatPart part).shift format.start)
      ++ [.char .format closing]
  | .items split =>
    let kind := if valueType.any ValueType.hasOptions then .option else .format
    split.items.flatMap (Highlight.segment kind) ++ split.commas.map (.char .comma)
  | .whole => Highlight.segment .format detail

/-- The highlights of the content of a tag, in places of the content. -/
def PromptContent.highlights (content : PromptContent) : List Highlight :=
  Highlight.segment .name content.name
    ++ content.colons.map (.char .colon)
    ++ content.type?.toList.flatMap (Highlight.segment .type)
    ++ (match content.detail?, content.reading? with
      | some detail, some reading => reading.highlights content.valueType? detail
      | _, _ => [])

/-- The highlights of a tag. -/
def TagOccurrence.highlights (found : TagOccurrence) : List Highlight :=
  ⟨⟨found.span.start, found.span.start + 2⟩, .bracket⟩
    :: found.openMark?.toList.map (⟨·, .mark⟩)
    ++ found.closeMark?.toList.map (⟨·, .mark⟩)
    ++ ⟨⟨found.span.stop - 2, found.span.stop⟩, .bracket⟩
    :: (PromptContent.ofText found.value.content).highlights.map
      (Highlight.shift found.contentStart)

/-- The variables that do not start inside one of the prompts.  Both lists are in
order, so a prompt that ends before a variable is never looked at again. -/
def outsidePrompts (prompts : List (Span Nat)) :
    List (Occurrence VariableTag) → List (Occurrence VariableTag)
  | [] => []
  | found :: rest =>
    let ahead := prompts.dropWhile fun prompt => prompt.stop ≤ found.span.start
    let later := outsidePrompts ahead rest
    if ahead.head?.any fun prompt => prompt.start ≤ found.span.start then later
    else found :: later

/-- The variables of a text that are highlighted. -/
def highlightedVariables (text : Text) : List (Occurrence VariableTag) :=
  let blocks := codeBlocks text
  let prompts := (promptTagsOutsideCode text).map Occurrence.span
  (outsidePrompts prompts (variableTags text)).filter fun found =>
    !insideCodeBlock blocks found.span.start

/-- The highlights of a text, in order. -/
def highlights (text : Text) : List Highlight :=
  let promptSpots := (promptTagsOutsideCode text).flatMap TagOccurrence.highlights
  let variableSpots := (highlightedVariables text).map fun found => ⟨found.span, .variable⟩
  (promptSpots ++ variableSpots).mergeSort Highlight.before

/-- The highlights that a terminal shows.  The text is drawn without its control
characters, and stretches behind its end are cut off. -/
def drawnHighlights (text : Text) : List Highlight :=
  let length := (stripControls text).length
  (highlights text).filterMap fun highlight =>
    if length ≤ highlight.span.start then none
    else some { highlight with span := ⟨highlight.span.start, min length highlight.span.stop⟩ }

end NoteTemplate
