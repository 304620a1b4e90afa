import NoteTemplate.Counter.Tag
import NoteTemplate.NamePattern.Format
import NoteTemplate.NamePattern.Matching
import NoteTemplate.Title.Pieces

/-!
# Reading the counter back

The counter of a title is read back from file names with a pattern made from the
title pattern.  How much of the name the pattern fixes depends on what stands beside
the counter: text without tags is matched exactly, and a side with tags is left open.
Only when both sides have tags, every part is described by itself.
-/

namespace NoteTemplate

/-- Which sides of the counter are fixed. -/
inductive CounterStrategy where
  | bothSides
  | before
  | after
  | everyPart
deriving DecidableEq, Repr

/-- The name of a strategy. -/
def CounterStrategy.name : CounterStrategy → Text
  | .bothSides => "static-both-sides".toList
  | .before => "static-prefix".toList
  | .after => "static-suffix".toList
  | .everyPart => "full-precision".toList

/-- A pattern for the names of a numbered title. -/
structure CounterPattern where
  pattern : NamePattern
  strategy : CounterStrategy
deriving DecidableEq, Repr

/-- Has the text a tag of either sort? -/
def hasTags (text : Text) : Bool := !(variableTags text).isEmpty || !(promptTags text).isEmpty

/-- What a tag can show in a title; the first plain counter tag is the counter.  The
second part of the result tells whether the counter was met. -/
def TitleTag.pattern (settings : DateTimeSettings) (met : Bool) :
    TitleTag → Except Failure (NamePattern × Bool)
  | .variable tag =>
    if tag.name = Variable.counter.name ∧ tag.format = none ∧ met = false then
      .ok ([.counter], true)
    else do return (← variablePattern settings tag.name tag.format, met)
  | .prompt _ => .ok ([.gap], met)

/-- The pattern of a title from position `pos` on, part by part. -/
def partsPatternFrom (settings : DateTimeSettings) (met : Bool) (pos : Nat) :
    List (Occurrence TitleTag) → Text → Except Failure NamePattern
  | [], text => .ok (literalPattern text)
  | found :: rest, text => do
    let (shown, met) ← found.value.pattern settings met
    let later ← partsPatternFrom settings met found.span.stop rest
      (text.drop (found.span.stop - pos))
    return literalPattern (text.take (found.span.start - pos)) ++ shown ++ later

/-- The pattern of a title, part by part. -/
def partsPattern (settings : DateTimeSettings) (pattern : Text) : Except Failure NamePattern :=
  partsPatternFrom settings false 0 (chosenTitleTags pattern true) pattern

/-- The pattern for the file names of a title pattern, if it is numbered. -/
def counterPattern? (settings : DateTimeSettings) (pattern : Text) :
    Except Failure (Option CounterPattern) :=
  match cutAtCounter? pattern with
  | none => .ok none
  | some (before, after) =>
    match hasTags before, hasTags after with
    | false, false =>
      .ok (some ⟨literalPattern before ++ .counter :: literalPattern after, .bothSides⟩)
    | false, true => .ok (some ⟨literalPattern before ++ [.counter, .anything], .before⟩)
    | true, false => .ok (some ⟨.gap :: .counter :: literalPattern after, .after⟩)
    | true, true => do return some ⟨← partsPattern settings pattern, .everyPart⟩

end NoteTemplate
