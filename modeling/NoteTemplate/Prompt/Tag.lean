import NoteTemplate.Markdown.Fence
import NoteTemplate.Text.Blank

/-!
# Prompt tags

In a text a prompt is a tag: `{% Name %}`, or `{%? Name ?%}` when it may be left
empty.  A tag ends at the first percent sign behind its opening, which has to be
followed by a closing brace.  The content is what remains of the inside after an
opening mark `?`, and without a closing mark `?` and blanks at the end; it is as
short as possible but never empty.
-/

namespace NoteTemplate

/-- The inside of a tag. -/
structure PromptTag where
  hasOpenMark : Bool
  content : Text
  hasCloseMark : Bool
deriving DecidableEq, Repr

namespace PromptTag

/-- A prompt is optional when both marks are there. -/
def isOptional (tag : PromptTag) : Bool := tag.hasOpenMark && tag.hasCloseMark

/-- Can this be the end of the inside: an optional mark and then blanks? -/
def isEnding : Text → Bool
  | '?' :: blanks => Text.isBlankText blanks
  | blanks => Text.isBlankText blanks

/-- The shortest content that leaves an ending, and that ending. -/
def cutContent : Text → Text × Text
  | [] => ([], [])
  | c :: rest =>
    if isEnding rest then ([c], rest)
    else
      let cut := cutContent rest
      (c :: cut.1, cut.2)

/-- The tag with the given inside, which is not empty. -/
def ofInside (inside : Text) : PromptTag :=
  let marked : Bool := inside.head? = some '?' && 2 ≤ inside.length
  let cut := cutContent (if marked then inside.drop 1 else inside)
  ⟨marked, cut.1, cut.2.head? = some '?'⟩

/-- The tag at the start of a text, with its length. -/
def recognise : Recogniser PromptTag
  | '\x7b' :: '%' :: rest =>
    let inside := rest.takeWhile (· ≠ '%')
    if !inside.isEmpty && ['%', '\x7d'].isPrefixOf (rest.drop inside.length) then
      some (inside.length + 4, ofInside inside)
    else none
  | _ => none

end PromptTag

/-- A tag in its place. -/
abbrev TagOccurrence := Occurrence PromptTag

namespace TagOccurrence

/-- The place of the opening mark. -/
def openMark? (found : TagOccurrence) : Option (Span Nat) :=
  if found.value.hasOpenMark then some ⟨found.span.start + 2, found.span.start + 3⟩ else none

/-- The place where the content starts. -/
def contentStart (found : TagOccurrence) : Nat :=
  found.span.start + (if found.value.hasOpenMark then 3 else 2)

/-- The place of the closing mark, directly behind the content. -/
def closeMark? (found : TagOccurrence) : Option (Span Nat) :=
  if found.value.hasCloseMark then
    let start := found.contentStart + found.value.content.length
    some ⟨start, start + 1⟩
  else none

end TagOccurrence

/-- The tags of a text, in order. -/
def promptTags (text : Text) : List TagOccurrence := occurrences PromptTag.recognise text

/-- The tags of a text that do not start in a fenced code block. -/
def promptTagsOutsideCode (text : Text) : List TagOccurrence :=
  let blocks := codeBlocks text
  (promptTags text).filter fun found => !insideCodeBlock blocks found.span.start

/-- What is recognised is never empty. -/
theorem PromptTag.recognise_pos (text : Text) (length : Nat) (tag : PromptTag)
    (h : recognise text = some (length, tag)) : 0 < length := by
  unfold recognise at h
  split at h
  · dsimp only at h
    split at h
    · simp only [Option.some.injEq, Prod.mk.injEq] at h; omega
    · simp at h
  · simp at h

/-- A tag ends before the next one starts. -/
theorem pairwise_promptTags (text : Text) :
    (promptTags text).Pairwise fun left right => left.span.stop ≤ right.span.start :=
  pairwise_occurrences PromptTag.recognise_pos text

end NoteTemplate
