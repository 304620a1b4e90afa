import NoteTemplate.Text.Occurrence

/-!
# Fenced code blocks

What stands in a fenced code block of a note is an example and not a template.  A
fence is a line that starts with at least three grave accents or at least three
tildes.  A block runs from its opening fence to the next fence of the same
character that is at least as long, or to the end of the text.  The blocks are
computed once per text, in order, and a position is looked up by bisection.
-/

namespace NoteTemplate

/-- A row of equal characters that starts a line. -/
structure Fence where
  mark : Char
  length : Nat
deriving DecidableEq, Repr

/-- The characters that fences are made of. -/
def isFenceMark (c : Char) : Bool := c = '\x60' || c = '~'

namespace Fence

/-- The fence at the start of a line. -/
def ofLine? : Text → Option Fence
  | [] => none
  | c :: rest =>
    let length := (c :: rest).takeWhile (· = c) |>.length
    if isFenceMark c ∧ 3 ≤ length then some ⟨c, length⟩ else none

/-- Does the later fence close a block that the earlier one opened? -/
def closes (later earlier : Fence) : Bool :=
  later.mark = earlier.mark && earlier.length ≤ later.length

end Fence

/-- A code block as a stretch of text.  A position equal to `stop` is inside, which
is the end of the closing line. -/
abbrev CodeBlock := Span Nat

/-- The code blocks of the lines that start at position `pos`; `opened` is the start
and the fence of a block that is open there. -/
def codeBlocksFrom (pos : Nat) (opened : Option (Nat × Fence)) : List Text → List CodeBlock
  | [] =>
    match opened with
    | some (start, _) => [⟨start, pos - 1⟩]
    | none => []
  | line :: lines =>
    let next := pos + line.length + 1
    match opened, Fence.ofLine? line with
    | none, none => codeBlocksFrom next none lines
    | none, some fence => codeBlocksFrom next (some (pos, fence)) lines
    | some block, none => codeBlocksFrom next (some block) lines
    | some (start, opening), some fence =>
      if fence.closes opening then ⟨start, pos + line.length⟩ :: codeBlocksFrom next none lines
      else codeBlocksFrom next (some (start, opening)) lines

/-- The fenced code blocks of a text, in order. -/
def codeBlocks (text : Text) : List CodeBlock := codeBlocksFrom 0 none (Text.splitOn '\n' text)

/-- How many blocks start at or before a position, when it is between `low` and
`high`; each step halves the stretch that is left. -/
def bisectStarts (blocks : Array CodeBlock) (pos : Int) : (fuel low high : Nat) → Nat
  | 0, low, _ => low
  | fuel + 1, low, high =>
    if low < high then
      let middle := (low + high) / 2
      match blocks[middle]? with
      | some block =>
        if pos < block.start then bisectStarts blocks pos fuel low middle
        else bisectStarts blocks pos fuel (middle + 1) high
      | none => low
    else low

/-- Is the position inside one of the blocks?  The blocks are in order, so only the
last one that starts at or before the position can hold it. -/
def insideCodeBlock (blocks : List CodeBlock) (pos : Int) : Bool :=
  let blocks := blocks.toArray
  match bisectStarts blocks pos (blocks.size + 1) 0 blocks.size with
  | 0 => false
  | count + 1 =>
    match blocks[count]? with
    | some block => block.start ≤ pos && pos ≤ block.stop
    | none => false

end NoteTemplate
