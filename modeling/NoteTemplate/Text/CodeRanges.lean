import NoteTemplate.Text.Basic

/-!
# Sets of characters given by ranges

A property of the Unicode standard is a list of closed ranges of code points.
Membership asks whether some range holds the character, so it does not depend on
the order of the list.
-/

namespace NoteTemplate

/-- Closed ranges of code points. -/
abbrev CodeRanges := List (Nat × Nat)

/-- Does some range hold the character? -/
def CodeRanges.holds (ranges : CodeRanges) (c : Char) : Bool :=
  ranges.any fun range => Nat.ble range.1 c.toNat && Nat.ble c.toNat range.2

end NoteTemplate
