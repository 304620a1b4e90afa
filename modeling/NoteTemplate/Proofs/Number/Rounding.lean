import Mathlib.Algebra.Group.Nat.Defs
import NoteTemplate.Number.Binary64

/-!
# The error of a rounding

A number is rounded to 53 binary digits, so the error is at most one part in 2^53 of the
number.  Below 2^52 units there are digits to spare, and the error is at most half a unit.
-/

namespace NoteTemplate.Binary64

theorem lastPlace_eq_zero_or (num den : Nat) :
    lastPlace num den = 0 ∨ den * (2 ^ lastPlace num den * 2 ^ 52) ≤ num := by
  by_cases hplace : lastPlace num den = 0
  · exact Or.inl hplace
  · right
    rw [← Nat.pow_add]
    simp only [lastPlace] at hplace ⊢
    generalize hguess : num.log2 - (den.log2 + 52) = guess at hplace ⊢
    split at hplace
    · next hcut =>
      rw [if_pos hcut]
      have hnum : num ≠ 0 := by
        rintro rfl
        simp at hguess
        omega
      have hexponent : den.log2 + 1 + (guess - 1 + 52) = num.log2 := by omega
      calc den * 2 ^ (guess - 1 + 52)
          ≤ 2 ^ (den.log2 + 1) * 2 ^ (guess - 1 + 52) :=
            Nat.mul_le_mul_right _ (Nat.le_of_lt Nat.lt_log2_self)
        _ = 2 ^ num.log2 := by rw [← Nat.pow_add, hexponent]
        _ ≤ num := Nat.log2_self_le hnum
    · next hcut =>
      rw [if_neg hcut]
      rw [not_and] at hcut
      exact Nat.not_lt.1 (hcut (Nat.pos_of_ne_zero hplace))

/-- The error of a rounding, in parts of 2^53. -/
theorem roundUnits_error (num den : Nat) (hden : 0 < den) :
    2 ^ 53 * (roundUnits num den * den) ≤ 2 ^ 53 * num + num + 2 ^ 52 * den ∧
      2 ^ 53 * num ≤ 2 ^ 53 * (roundUnits num den * den) + num + 2 ^ 52 * den := by
  have hplace : 0 < 2 ^ lastPlace num den := Nat.two_pow_pos _
  have herror : _ ∧ 2 * num ≤ _ := roundHalfEven_error (Nat.mul_pos hden hplace)
  have hunits : roundHalfEven num (den * 2 ^ lastPlace num den) * (den * 2 ^ lastPlace num den) =
      roundUnits num den * den := by
    rw [roundUnits, Nat.mul_comm den, ← Nat.mul_assoc, Nat.mul_comm den]
    rfl
  have hsmall : 2 ^ 52 * (den * 2 ^ lastPlace num den) ≤ num + 2 ^ 52 * den := by
    cases lastPlace_eq_zero_or num den with
    | inl hzero =>
      rw [hzero, Nat.pow_zero, Nat.mul_one]
      exact Nat.le_add_left _ _
    | inr hlarge =>
      rw [Nat.mul_comm, Nat.mul_assoc]
      exact Nat.le_trans hlarge (Nat.le_add_right _ _)
  rw [hunits] at herror
  omega

theorem two_pow_le_one : 2 ^ 60 ≤ one := by
  unfold one
  generalize hexponent : 1074 = exponent
  exact Nat.pow_le_pow_right Nat.two_pos (by omega)

/-- Rounding once more moves a number by less than a part in 2^50. -/
theorem roundUnits_one_bounds (units : Nat) :
    2 ^ 50 * roundUnits units 1 ≤ 2 ^ 50 * units + units + 2 ^ 50 ∧
      2 ^ 50 * units ≤ 2 ^ 50 * roundUnits units 1 + units + 2 ^ 50 := by
  have herror := roundUnits_error units 1 Nat.one_pos
  rw [Nat.mul_one] at herror
  omega

end NoteTemplate.Binary64
