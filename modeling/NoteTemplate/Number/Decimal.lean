import NoteTemplate.Text.Digit

/-!
# Decimal numerals

Numbers are written in decimal without leading zeros, padded with zeros to a
fixed width where a format asks for it, and as English ordinals.  A numeral that
is read may use the digits of any script.
-/

namespace NoteTemplate

/-- The decimal numeral of a natural number. -/
def decimal (n : Nat) : Text := Nat.toDigits 10 n

/-- The decimal numeral of an integer, with a minus sign when it is negative. -/
def signedDecimal (n : Int) : Text :=
  if n < 0 then '-' :: decimal n.natAbs else decimal n.natAbs

/-- The decimal numeral with zeros in front up to `width` digits; a longer numeral
is left as it is. -/
def paddedDecimal (width n : Nat) : Text :=
  List.replicate (width - (decimal n).length) '0' ++ decimal n

/-- The numeral in base sixteen, in small letters, padded with zeros to `width`. -/
def paddedHex (width n : Nat) : Text :=
  let digits := Nat.toDigits 16 n
  List.replicate (width - digits.length) '0' ++ digits

/-- The greatest number of digits of a numeral that is read. -/
def maxNumeralDigits : Nat := 4300

/-- The suffix of the English ordinal: eleven to thirteen take `th` like most
numbers, otherwise the last digit decides. -/
def ordinalSuffix (n : Nat) : Text :=
  if 11 ≤ n % 100 ∧ n % 100 ≤ 13 then ['t', 'h']
  else
    match n % 10 with
    | 1 => ['s', 't']
    | 2 => ['n', 'd']
    | 3 => ['r', 'd']
    | _ => ['t', 'h']

/-- The English ordinal of a natural number, such as `21st`. -/
def ordinal (n : Nat) : Text := decimal n ++ ordinalSuffix n

/-- The English ordinal of an integer.  The suffix of a negative number is that of
its remainders modulo one hundred and ten, which are not negative. -/
def signedOrdinal (n : Int) : Text :=
  signedDecimal n ++ ordinalSuffix (n % 100).toNat

theorem decimal_ne_nil (n : Nat) : decimal n ≠ [] := Nat.toDigits_ne_nil

theorem signedDecimal_natCast (n : Nat) : signedDecimal (n : Int) = decimal n := by
  rw [signedDecimal, if_neg (by omega), Int.natAbs_natCast]

theorem isDigit_of_mem_decimal {n : Nat} {c : Char} (h : c ∈ decimal n) :
    c.isDigit = true :=
  Nat.isDigit_of_mem_toDigits (by decide) (by decide) h

/-- Padding never shortens a numeral, and it fills up to the width. -/
theorem length_paddedDecimal (width n : Nat) :
    (paddedDecimal width n).length = max width (decimal n).length := by
  simp [paddedDecimal]
  omega

end NoteTemplate
