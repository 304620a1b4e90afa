import NoteTemplate.Prompt.Substitution
import NoteTemplate.Variable.Rendering

/-!
# The pieces of a title

A title pattern is cut into pieces before any value is known: texts, in which the
variables are already filled, and holes for prompts.  A value only ever goes into a
hole, so it is never read as a template.

Of two tags that overlap, the one that starts first counts.  Prompt tags take part
only when there are prompts at all.
-/

namespace NoteTemplate

/-- A tag of either sort. -/
inductive TitleTag where
  | variable (tag : VariableTag)
  | prompt (tag : PromptTag)
deriving DecidableEq, Repr

/-- A thing found in a text, seen as another thing in the same place. -/
def Occurrence.map {α β : Type} (f : α → β) (found : Occurrence α) : Occurrence β :=
  ⟨found.span, f found.value⟩

/-- The occurrences that do not overlap an earlier one that was taken; those before
position `pos` are dropped. -/
def disjointFrom {α : Type} (pos : Nat) : List (Occurrence α) → List (Occurrence α)
  | [] => []
  | found :: rest =>
    if found.span.start < pos then disjointFrom pos rest
    else found :: disjointFrom found.span.stop rest

/-- All tags of a pattern, by their start. -/
def titleTags (pattern : Text) (withPrompts : Bool) : List (Occurrence TitleTag) :=
  let variableSpots := (variableTags pattern).map (Occurrence.map TitleTag.variable)
  let promptSpots :=
    if withPrompts then (promptTags pattern).map (Occurrence.map TitleTag.prompt) else []
  variableSpots.merge promptSpots fun left right => left.span.start ≤ right.span.start

/-- The tags of a pattern that count, none overlapping another. -/
def chosenTitleTags (pattern : Text) (withPrompts : Bool) : List (Occurrence TitleTag) :=
  disjointFrom 0 (titleTags pattern withPrompts)

/-- A text, or a place for the value of a prompt. -/
inductive TitlePiece where
  | literal (content : Text)
  | hole (asked : Prompt)
deriving DecidableEq, Repr

namespace TitlePiece

/-- The text of a piece when the prompts have the given values. -/
def fill (mode : FillMode) (values : PromptValues) : TitlePiece → Text
  | .literal content => content
  | .hole asked => asked.fill mode values

end TitlePiece

variable [LocalZone]

/-- The piece that a tag becomes; `source` is the tag as it is written. -/
def TitleTag.piece (context : RenderContext) (prompts : List Prompt) (source : Text) :
    TitleTag → Except Failure TitlePiece
  | .variable tag => do return .literal ((← context.renderTag tag).getD source)
  | .prompt tag =>
    .ok (match TagOccurrence.promptIn? prompts ⟨⟨0, 0⟩, tag⟩ with
      | some asked => .hole asked
      | none => .literal source)

/-- The pieces of a text whose first character is at position `pos`. -/
def titlePiecesFrom (context : RenderContext) (prompts : List Prompt) (pos : Nat) :
    List (Occurrence TitleTag) → Text → Except Failure (List TitlePiece)
  | [], text => .ok [.literal text]
  | found :: rest, text => do
    let before := text.take (found.span.start - pos)
    let source := Text.slice text (found.span.start - pos) (found.span.stop - pos)
    let piece ← found.value.piece context prompts source
    let later ← titlePiecesFrom context prompts found.span.stop rest
      (text.drop (found.span.stop - pos))
    return .literal before :: piece :: later

/-- The pieces of a title pattern. -/
def titlePieces (context : RenderContext) (prompts : List Prompt) (pattern : Text) :
    Except Failure (List TitlePiece) :=
  titlePiecesFrom context prompts 0 (chosenTitleTags pattern !prompts.isEmpty) pattern

/-- The title with the given values. -/
def renderTitle (mode : FillMode) (context : RenderContext) (prompts : List Prompt)
    (values : PromptValues) (pattern : Text) : Except Failure Text := do
  let pieces ← titlePieces context prompts pattern
  return pieces.flatMap (TitlePiece.fill mode values)

end NoteTemplate
