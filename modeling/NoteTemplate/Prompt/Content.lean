import NoteTemplate.Prompt.Basic
import NoteTemplate.Text.Occurrence

/-!
# The content of a prompt tag

The content is a name, then a type behind a colon, then a detail behind a second
colon; later colons belong to the detail.  For a date or time, a detail of the form
`format(...)` holds a format of its own, in which nothing is split.  Otherwise the
detail of a list and of a date with time is split at commas.

Every part keeps its place in the content and has no blanks at its ends, the inside
of `format(...)` apart.
-/

namespace NoteTemplate

/-- A part of a text with the place where it starts. -/
structure Segment where
  start : Nat
  text : Text
deriving DecidableEq, Repr

namespace Segment

/-- The place behind the part. -/
def stop (segment : Segment) : Nat := segment.start + segment.text.length

/-- The stretch that the part covers. -/
def span (segment : Segment) : Span Nat := ⟨segment.start, segment.stop⟩

/-- The part without the blanks at its ends. -/
def trimmed (start : Nat) (raw : Text) : Segment :=
  ⟨start + (raw.takeWhile isBlank).length, Text.trim raw⟩

end Segment

/-- The parts between commas that are not blank, and the places of the commas. -/
structure CommaSplit where
  items : List Segment
  commas : List Nat
deriving DecidableEq, Repr

/-- Split a part at its commas, given as the raw texts between them. -/
def CommaSplit.ofParts (start : Nat) : List Text → CommaSplit
  | [] => ⟨[], []⟩
  | [part] => ⟨[Segment.trimmed start part].filter fun item => !item.text.isEmpty, []⟩
  | part :: parts =>
    let comma := start + part.length
    let later := ofParts (comma + 1) parts
    ⟨([Segment.trimmed start part].filter fun item => !item.text.isEmpty) ++ later.items,
      comma :: later.commas⟩

/-- Split a part at its commas. -/
def Segment.splitAtCommas (segment : Segment) : CommaSplit :=
  CommaSplit.ofParts segment.start (Text.splitOn ',' segment.text)

/-- How the part behind the second colon is read. -/
inductive Detail where
  /-- A format of its own, from the inside of `format(...)`. -/
  | custom (opening format : Segment) (closing : Nat)
  /-- Parts between commas. -/
  | items (split : CommaSplit)
  /-- Nothing is split. -/
  | whole
deriving DecidableEq, Repr

/-- The word that opens a format of its own. -/
def formatOpening : Text := "format(".toList

/-- The text has the form `format(...)` with something between the parentheses. -/
def isCustomFormat (text : Text) : Bool :=
  formatOpening.isPrefixOf text && text.getLast? = some ')'
    && formatOpening.length + 1 < text.length

/-- Read a detail in the light of the type. -/
def Detail.ofSegment (valueType : Option ValueType) (segment : Segment) : Detail :=
  match valueType with
  | none => .whole
  | some valueType =>
    if (valueType.hasDate || valueType.hasTime) && isCustomFormat segment.text then
      let inner := segment.start + formatOpening.length
      .custom ⟨segment.start, formatOpening⟩
        ⟨inner, (segment.text.drop formatOpening.length).dropLast⟩ (segment.stop - 1)
    else if valueType.hasOptions || valueType = .datetime then .items segment.splitAtCommas
    else .whole

/-- The parts of the content of a tag. -/
inductive PromptContent where
  | named (name : Segment)
  | typed (name : Segment) (colon : Nat) (type : Segment)
  | detailed (name : Segment) (colon : Nat) (type : Segment) (secondColon : Nat)
      (detail : Segment)
deriving DecidableEq, Repr

namespace PromptContent

/-- Split the content of a tag. -/
def ofText (content : Text) : PromptContent :=
  let whole := Segment.trimmed 0 content
  if whole.text.isEmpty then .named ⟨0, []⟩
  else
    match Text.cutAt? ':' whole.text with
    | none => .named whole
    | some (name, rest) =>
      let colon := whole.start + name.length
      let name := Segment.trimmed whole.start name
      match Text.cutAt? ':' rest with
      | none => .typed name colon (Segment.trimmed (colon + 1) rest)
      | some (type, detail) =>
        let secondColon := colon + 1 + type.length
        .detailed name colon (Segment.trimmed (colon + 1) type) secondColon
          (Segment.trimmed (secondColon + 1) detail)

def name : PromptContent → Segment
  | .named name | .typed name _ _ | .detailed name _ _ _ _ => name

/-- The places of the colons that separate parts. -/
def colons : PromptContent → List Nat
  | .named _ => []
  | .typed _ colon _ => [colon]
  | .detailed _ colon _ secondColon _ => [colon, secondColon]

def type? : PromptContent → Option Segment
  | .named _ => none
  | .typed _ _ type | .detailed _ _ type _ _ => some type

def detail? : PromptContent → Option Segment
  | .named _ | .typed _ _ _ => none
  | .detailed _ _ _ _ detail => some detail

/-- The type of the value, if the content has a type that is known. -/
def valueType? (content : PromptContent) : Option ValueType :=
  content.type?.bind fun type => ValueType.resolve? type.text

/-- How the detail is read, if there is one. -/
def reading? (content : PromptContent) : Option Detail :=
  content.detail?.map fun detail => Detail.ofSegment content.valueType? detail

end PromptContent

/-- The name in the content of a tag. -/
def promptName (content : Text) : Text := (PromptContent.ofText content).name.text

end NoteTemplate
