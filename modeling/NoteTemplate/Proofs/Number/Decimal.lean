import Mathlib.Data.List.Induction
import Mathlib.Tactic.Ring
import NoteTemplate.Number.Decimal

/-!
# Numerals and their values

The numeral of a number denotes the number.  More digits on either side of a numeral only
make the number that is denoted larger.
-/

namespace NoteTemplate

theorem digitValue?_of_isDigit {c : Char} (h : c.isDigit = true) :
    digitValue? c = some (c.toNat - 48) := by
  have hbounds : 48 ≤ c.toNat ∧ c.toNat ≤ 57 := by
    simpa [Char.isDigit, UInt32.le_iff_toNat_le] using h
  have hcons : digitRanges = (0x30, 0x39) :: digitRanges.tail := rfl
  have hmod : (c.toNat - 48) % 10 = c.toNat - 48 := Nat.mod_eq_of_lt (by omega)
  rw [digitValue?, hcons, List.find?_cons_of_pos]
  · simp [hmod]
  · simp [hbounds]

theorem isDigit_of_isDigit {c : Char} (h : c.isDigit = true) : isDigit c = true := by
  rw [isDigit_iff_isSome, digitValue?_of_isDigit h]
  rfl

theorem isDigit_of_mem_digits {n : Nat} {c : Char} (h : c ∈ decimal n) : isDigit c = true :=
  isDigit_of_isDigit (isDigit_of_mem_decimal h)

theorem digitsValue_append (left right : Text) :
    digitsValue (left ++ right) = digitsValue left * 10 ^ right.length + digitsValue right := by
  induction right using List.reverseRecOn with
  | nil => simp
  | append_singleton right c ih =>
    rw [← List.append_assoc, digitsValue_append_singleton, digitsValue_append_singleton, ih,
      List.length_append, List.length_singleton, Nat.pow_succ]
    ring

theorem digitsValue_eq_ofDigitChars {digits : Text} (h : ∀ c ∈ digits, c.isDigit = true) :
    digitsValue digits = Nat.ofDigitChars 10 digits 0 := by
  induction digits using List.reverseRecOn with
  | nil => rfl
  | append_singleton digits c ih =>
    have hc : digitValue c = c.toNat - 48 := by
      rw [digitValue, digitValue?_of_isDigit (h c (by simp))]
      rfl
    rw [digitsValue_append_singleton, Nat.ofDigitChars_append,
      ih fun d hd => h d (by simp [hd]), hc]
    simp [Nat.ofDigitChars]

/-- The numeral of a number denotes the number. -/
theorem digitsValue_decimal (n : Nat) : digitsValue (decimal n) = n := by
  rw [digitsValue_eq_ofDigitChars fun c hc => isDigit_of_mem_decimal hc]
  exact Nat.ofDigitChars_ten_toDigits

theorem length_decimal_le {n bound : Nat} (hpos : 0 < bound) (h : n < 10 ^ bound) :
    (decimal n).length ≤ bound :=
  (Nat.length_toDigits_le_iff (by decide) hpos).2 h

/-! ### Numerals of a fixed width -/

theorem isDigit_of_mem_paddedDecimal {width n : Nat} {c : Char} (h : c ∈ paddedDecimal width n) :
    c.isDigit = true := by
  rw [paddedDecimal, List.mem_append] at h
  cases h with
  | inl hzero =>
    rw [List.eq_of_mem_replicate hzero]
    rfl
  | inr hmem => exact isDigit_of_mem_decimal hmem

theorem length_paddedDecimal_of_lt {width n : Nat} (hpos : 0 < width) (h : n < 10 ^ width) :
    (paddedDecimal width n).length = width := by
  rw [length_paddedDecimal]
  exact Nat.max_eq_left (length_decimal_le hpos h)

theorem digitsValue_replicate_zero (count : Nat) : digitsValue (List.replicate count '0') = 0 := by
  induction count with
  | zero => rfl
  | succ count ih =>
    rw [List.replicate_succ', digitsValue_append_singleton, ih]
    rfl

/-- Zeros in front do not change what a numeral denotes. -/
theorem digitsValue_paddedDecimal (width n : Nat) : digitsValue (paddedDecimal width n) = n := by
  rw [paddedDecimal, digitsValue_append, digitsValue_replicate_zero, digitsValue_decimal]
  omega

/-! ### Digits around a numeral -/

theorem le_digitsValue_append_left (left right : Text) :
    digitsValue left ≤ digitsValue (left ++ right) := by
  rw [digitsValue_append]
  calc digitsValue left ≤ digitsValue left * 10 ^ right.length :=
        Nat.le_mul_of_pos_right _ (Nat.pow_pos (by decide))
    _ ≤ _ := Nat.le_add_right _ _

theorem le_digitsValue_append_right (left right : Text) :
    digitsValue right ≤ digitsValue (left ++ right) := by
  rw [digitsValue_append]
  exact Nat.le_add_left _ _

end NoteTemplate
