import NoteTemplate.Prompt.Content

/-!
# The places of the parts of a prompt

An editor shows the parts of a prompt tag in different colours.  For this every part
of the content is given by its place, first in the content and then, moved by the
place of the content, in the text.
-/

namespace NoteTemplate

/-- The places of `format(` and of its closing parenthesis. -/
structure FormatWrapper (Pos : Type) where
  opening : Span Pos
  closing : Span Pos
deriving DecidableEq, Repr

/-- The places of the parts of a prompt. -/
structure PromptParts (Pos : Type) where
  name : Span Pos
  colons : List Pos
  type : Option (Span Pos)
  detail : Option (Span Pos)
  wrapper : Option (FormatWrapper Pos)
  formatParts : List (FormatPart Pos)
  options : List (Span Pos)
  commas : List Pos
deriving DecidableEq, Repr

namespace PromptParts

variable {Pos Pos' : Type}

/-- The parts in other places. -/
def map (f : Pos → Pos') (parts : PromptParts Pos) : PromptParts Pos' where
  name := parts.name.map f
  colons := parts.colons.map f
  type := parts.type.map (Span.map f)
  detail := parts.detail.map (Span.map f)
  wrapper := parts.wrapper.map fun wrapper => ⟨wrapper.opening.map f, wrapper.closing.map f⟩
  formatParts := parts.formatParts.map (FormatPart.map f)
  options := parts.options.map (Span.map f)
  commas := parts.commas.map f

/-- The parts of a content, with their places in it. -/
def ofContent (content : Text) : PromptParts Nat :=
  let split := PromptContent.ofText content
  let places : PromptParts Nat :=
    { name := split.name.span
      colons := split.colons
      type := split.type?.map Segment.span
      detail := split.detail?.map Segment.span
      wrapper := none
      formatParts := []
      options := []
      commas := [] }
  match split.reading? with
  | some (.custom opening format closing) =>
    { places with
      wrapper := some ⟨opening.span, ⟨closing, closing + 1⟩⟩
      formatParts :=
        (NoteTemplate.formatParts format.text).map (FormatPart.map (· + format.start)) }
  | some (.items items) =>
    { places with
      options :=
        if split.valueType?.any ValueType.hasOptions then items.items.map Segment.span else []
      commas := items.commas }
  | some .whole | none => places

end PromptParts

end NoteTemplate
