import NoteTemplate.Number.Decimal

/-!
# Binary floating-point numbers of 64 bits

A finite number of this format is an integer multiple of 2^-1074, so it is kept
as its sign and that multiple.  Every operation that the library needs is the
exact result rounded once, to the nearest number of the format and to the even
one when two are equally near; the exact results are quotients of natural numbers,
so rounding is arithmetic on natural numbers.

A number is written with the fewest digits that read back as the same number.
-/

namespace NoteTemplate

/-- The integer nearest to `num / den`, the even one when two are equally near. -/
def roundHalfEven (num den : Nat) : Nat :=
  let quotient := num / den
  let remainder := num % den
  if den < 2 * remainder ∨ (den = 2 * remainder ∧ quotient % 2 = 1) then quotient + 1
  else quotient

/-- A number of the format.  A finite one is `units` times 2^-1074, with a sign that
zero has too. -/
inductive Binary64 where
  | finite (negative : Bool) (units : Nat)
  | infinite (negative : Bool)
  | notANumber
deriving DecidableEq, Repr

namespace Binary64

/-- How many units make one. -/
def one : Nat := Nat.pow 2 1074

/-- The exponent `p` for which `num / den` units, cut at 2^p units, keep 53 binary
digits, or zero when there are fewer. -/
def lastPlace (num den : Nat) : Nat :=
  let guess := num.log2 - (den.log2 + 52)
  if 0 < guess ∧ num < den * Nat.pow 2 (guess + 52) then guess - 1 else guess

/-- The number of units nearest to `num / den` units among those with at most 53
binary digits. -/
def roundUnits (num den : Nat) : Nat :=
  let place := Nat.pow 2 (lastPlace num den)
  roundHalfEven num (den * place) * place

/-- The number nearest to `num / den` units; what rounds to 2^1024 or more is
infinite. -/
def nearest (negative : Bool) (num den : Nat) : Binary64 :=
  let units := roundUnits num den
  if units < Nat.pow 2 1024 * one then .finite negative units else .infinite negative

/-- The number nearest to a decimal `digits * 10 ^ exponent`.  Exponents that are
far out of range are settled without computing the power. -/
def ofDecimal (negative : Bool) (digits : Nat) (exponent : Int) : Binary64 :=
  let magnitude := exponent + (decimal digits).length
  if digits = 0 ∨ magnitude < -400 then .finite negative 0
  else if 400 < magnitude then .infinite negative
  else if 0 ≤ exponent then nearest negative (digits * Nat.pow 10 exponent.toNat * one) 1
  else nearest negative (digits * one) (Nat.pow 10 (-exponent).toNat)

/-- Is the number different from zero?  A value that is not a number is. -/
def isNonzero : Binary64 → Bool
  | .finite _ units => units != 0
  | _ => true

/-- The integer part of a finite number, rounded toward zero. -/
def truncate? : Binary64 → Option Int
  | .finite negative units =>
    let whole : Int := ((units / one : Nat) : Int)
    some (if negative then -whole else whole)
  | _ => none

/-- The position of the first decimal digit of `units`: the least `p` at which
`units` is below 10 ^ `p` ones, searched upward from `p` within `fuel` steps. -/
def decimalPosition (units : Nat) : (fuel : Nat) → Int → Int
  | 0, p => p
  | fuel + 1, p =>
    let below :=
      if 0 ≤ p then units < Nat.pow 10 p.toNat * one else units * Nat.pow 10 (-p).toNat < one
    if below then p else decimalPosition units fuel (p + 1)

/-- Among the two decimals with `count` digits next to `units`, one that reads back as
`units`, if any: the nearer one, or the even one when both are equally near, and else the
other one. -/
def roundTrip? (units : Nat) (position : Int) (count : Nat) : Option Nat :=
  let exponent := position - count
  let num := if 0 ≤ exponent then units else units * Nat.pow 10 (-exponent).toNat
  let den := if 0 ≤ exponent then Nat.pow 10 exponent.toNat * one else one
  let low := num / den
  let nearest := roundHalfEven num den
  let other := if nearest = low then low + 1 else low
  [nearest, other].find? fun digits => ofDecimal false digits exponent == .finite false units

/-- The fewest decimal digits that read back as `units`, tried from `count` up. -/
def shortestFrom (units : Nat) (position : Int) : (fuel count : Nat) → Nat × Int
  | 0, count => (0, position - count)
  | fuel + 1, count =>
    match roundTrip? units position count with
    | some digits => (digits, position - count)
    | none => shortestFrom units position fuel (count + 1)

/-- Seventeen digits always suffice. -/
def shortest (units : Nat) : Nat × Int :=
  shortestFrom units (decimalPosition units 640 (-323)) 17 1

/-- The digits without the zeros at the end, and the exponent that makes up for
them. -/
def dropZeros (digits : Text) (exponent : Int) : Text × Int :=
  let kept := Text.dropWhileRight (· = '0') digits
  (kept, exponent + (digits.length - kept.length : Nat))

/-- A finite magnitude in text.  From 10^-4 up to below 10^16 it is positional with
at least one digit behind the point; otherwise it has one digit before the point
and an exponent with its sign and at least two digits. -/
def magnitudeText (units : Nat) : Text :=
  if units = 0 then "0.0".toList
  else
    let found := shortest units
    let trimmed := dropZeros (decimal found.1) found.2
    let digits := trimmed.1
    let point : Int := digits.length + trimmed.2
    if -4 < point ∧ point ≤ 16 then
      if point ≤ 0 then "0.".toList ++ List.replicate (-point).toNat '0' ++ digits
      else if digits.length ≤ point.toNat then
        digits ++ List.replicate (point.toNat - digits.length) '0' ++ ".0".toList
      else digits.take point.toNat ++ '.' :: digits.drop point.toNat
    else
      let fraction := digits.drop 1
      let exponent := point - 1
      digits.take 1 ++ (if fraction.isEmpty then [] else '.' :: fraction)
        ++ 'e' :: (if exponent < 0 then '-' else '+') :: paddedDecimal 2 exponent.natAbs

/-- The text of a number, with the given words for what is not finite. -/
def textWith (infinity notNumber : Text) : Binary64 → Text
  | .finite negative units => (if negative then ['-'] else []) ++ magnitudeText units
  | .infinite negative => (if negative then ['-'] else []) ++ infinity
  | .notANumber => notNumber

end Binary64

/-- The nearest integer is at most half of one away: doubled, the error is at most
the denominator. -/
theorem roundHalfEven_error {num den : Nat} (hden : 0 < den) :
    2 * (roundHalfEven num den * den) ≤ 2 * num + den ∧
      2 * num ≤ 2 * (roundHalfEven num den * den) + den := by
  have hsplit := Nat.div_add_mod num den
  have hlt := Nat.mod_lt num hden
  rw [Nat.mul_comm] at hsplit
  unfold roundHalfEven
  dsimp only
  split
  · rw [Nat.add_mul]; omega
  · omega

end NoteTemplate
