import NoteTemplate.Terminal.Columns
import NoteTemplate.Terminal.Control
import NoteTemplate.Terminal.Message
import NoteTemplate.Text.Blank
import NoteTemplate.Text.Lowercase
import NoteTemplate.Text.Replacement

/-!
# Markup on a plain terminal

A plain terminal has no styles: of a message in markup it shows the text.  A bracket with a
backslash in front is text, and backslashes in front of a tag are doubled to stand for
themselves.  The code of an emoji between two colons is shown as that emoji, if the terminal
knows it.  A message that closes a style that nobody opened is refused.
-/

namespace NoteTemplate

/-- A tag of markup with the backslashes in front of it. -/
structure MarkupTag where
  backslashes : Nat
  inside : Text
deriving DecidableEq, Repr

namespace Markup

/-- May the inside of a tag start with the character? -/
def startsTag (c : Char) : Bool :=
  ('a' ≤ c && c ≤ 'z') || c = '#' || c = '/' || c = '@'

/-- A tag at the start of a text, with its backslashes and its length. -/
def recogniseTag : Recogniser MarkupTag := fun text =>
  let backslashes := (text.takeWhile (· = '\\')).length
  match text.drop backslashes with
  | '[' :: c :: rest =>
    let inside := (c :: rest).takeWhile fun d => d ≠ '[' && d ≠ ']'
    if startsTag c && ((c :: rest).drop inside.length).head? = some ']' then
      some (backslashes + inside.length + 2, ⟨backslashes, inside⟩)
    else none
  | _ => none

/-- The escaped form of a tag: it is text, and so are its backslashes. -/
def escapedTag (tag : MarkupTag) : Text :=
  List.replicate (2 * tag.backslashes + 1) '\\' ++ '[' :: tag.inside ++ [']']

/-- The text as it has to be written to be shown as it is. -/
def escape (text : Text) : Text :=
  let tags := occurrences recogniseTag text
  let escaped := Text.replaceSpans (tags.map fun found => (found.span, escapedTag found.value)) text
  let trailing := (escaped.reverse.takeWhile (· = '\\')).length
  if trailing = 1 then escaped ++ ['\\'] else escaped

/-- The two ways of drawing an emoji, with the characters that select them. -/
def emojiVariants : List (Text × Char) :=
  [("-text".toList, '\ufe0e'), ("-emoji".toList, '\ufe0f')]

/-- A code between two colons at the start of a text. -/
def recogniseCode : Recogniser Text
  | ':' :: rest =>
    let code := rest.takeWhile fun c => c ≠ ':' && !isBlank c
    if (rest.drop code.length).head? = some ':' then some (code.length + 2, code) else none
  | _ => none

/-- The text with `\[` replaced by a bracket. -/
def unescapeBrackets : Text → Text
  | [] => []
  | '\\' :: '[' :: rest => '[' :: unescapeBrackets rest
  | c :: rest => c :: unescapeBrackets rest

section

variable (emojis : List (Text × Text))

/-- What the code between two colons shows, if it is the code of an emoji. -/
def emojiOfCode? (code : Text) : Option Text :=
  let name := Text.lower code
  match emojiVariants.find? fun variant => variant.1.isSuffixOf code with
  | some variant =>
    (emojis.lookup (Text.lower (code.take (code.length - variant.1.length)))).map
      (· ++ [variant.2])
  | none => emojis.lookup name

/-- The text with the codes of emoji replaced. -/
def replaceEmojis (text : Text) : Text :=
  let replacements := (occurrences recogniseCode text).filterMap fun found =>
    (emojiOfCode? emojis found.value).map fun emoji => (found.span, emoji)
  Text.replaceSpans replacements text

/-- What a part of a message without tags shows. -/
def renderPlain (text : Text) : Text := replaceEmojis emojis (unescapeBrackets text)

/-- What a tag shows: half of its backslashes, and the tag itself if one backslash is
left over. -/
def renderTag (tag : MarkupTag) : Text :=
  List.replicate (tag.backslashes / 2) '\\'
    ++ (if tag.backslashes % 2 = 1 then renderPlain emojis ('[' :: tag.inside ++ [']']) else [])

/-- What the rest of a message shows, from position `pos` on. -/
def renderFrom (pos : Nat) : List (Occurrence MarkupTag) → Text → Text
  | [], text => renderPlain emojis text
  | found :: rest, text =>
    renderPlain emojis (text.take (found.span.start - pos)) ++ renderTag emojis found.value
      ++ renderFrom found.span.stop rest (text.drop (found.span.stop - pos))

/-- What a message shows, without styles and without control characters. -/
def render (message : Text) : Text :=
  stripControls (renderFrom emojis 0 (occurrences recogniseTag message) message)

end

/-- The name of a style, as opening and closing tags are compared by it. -/
def styleName (name : Text) : Text := Text.lower (Text.trim name)

/-- The styles that are open behind a tag, given those in front of it; the last one
opened stands first.  A closing tag ends the last style of its name, or the last one if
it has no name, so there is no result if no such style is open.  A tag that is text
changes nothing. -/
def openBehind? (opened : List Text) (tag : MarkupTag) : Option (List Text) :=
  if tag.backslashes % 2 = 1 then some opened
  else
    match ((Text.cutAt? '=' tag.inside).map Prod.fst).getD tag.inside with
    | '/' :: closing =>
      let name := styleName closing
      if name.isEmpty then opened.tail?
      else if opened.contains name then some (opened.erase name)
      else none
    | opening => some (styleName opening :: opened)

/-- The first tag that closes a style that is not open. -/
def unopened? (opened : List Text) : List MarkupTag → Option MarkupTag
  | [] => none
  | tag :: tags =>
    match openBehind? opened tag with
    | some opened => unopened? opened tags
    | none => some tag

/-- The first tag of a message that closes a style that is not open. -/
def unopenedTag? (message : Text) : Option MarkupTag :=
  unopened? [] ((occurrences recogniseTag message).map Occurrence.value)

end Markup

end NoteTemplate
