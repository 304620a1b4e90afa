import NoteTemplate.Text.Occurrence

/-!
# Replacing stretches of a text

Stretches that stand in order and do not overlap are replaced one after the other;
what lies before, between and behind them is kept.
-/

namespace NoteTemplate.Text

/-- Replace stretches of a text whose first character is at position `pos`. -/
def replaceSpansFrom (pos : Nat) : List (Span Nat × Text) → Text → Text
  | [], text => text
  | (span, replacement) :: more, text =>
    text.take (span.start - pos) ++ replacement
      ++ replaceSpansFrom span.stop more (text.drop (span.stop - pos))

/-- Replace stretches of a text, given in order. -/
def replaceSpans (replacements : List (Span Nat × Text)) (text : Text) : Text :=
  replaceSpansFrom 0 replacements text

end NoteTemplate.Text
