import NoteTemplate.Proofs.Number.Decimal
import NoteTemplate.Proofs.Text.Ascii

/-!
# Digits of other scripts

A row of digits of any script denotes the number that it denotes in ASCII digits.  Rows of
ASCII digits of one length denote different numbers, so a numeral of a fixed width is known by
its number, up to the scripts of its digits (`map_asciiDigit_eq_paddedDecimal_iff`).
-/

namespace NoteTemplate

variable {c d : Char} {n width : Nat} {digits left right : Text}

/-- The ASCII digit with the value of a digit; every other character stays. -/
def asciiDigit (c : Char) : Char := if isDigit c then Nat.digitChar (digitValue c) else c

theorem isDigit_digitChar (h : n < 10) : (Nat.digitChar n).isDigit = true := by
  have hall : ∀ n < 10, (Nat.digitChar n).isDigit = true := by decide
  exact hall n h

theorem digitValue_digitChar (h : n < 10) : digitValue (Nat.digitChar n) = n := by
  have hall : ∀ n < 10, digitValue (Nat.digitChar n) = n := by decide
  exact hall n h

theorem digitChar_digitValue (h : c.isDigit = true) : Nat.digitChar (digitValue c) = c := by
  have hascii : ∀ n < 128, (Char.ofNat n).isDigit = true →
      Nat.digitChar (digitValue (Char.ofNat n)) = Char.ofNat n := by
    decide +kernel
  have hcode : c.toNat < 128 := toNat_lt_of_isAlphanum (by simp [Char.isAlphanum, h])
  exact forall_ascii (p := fun c => c.isDigit = true → Nat.digitChar (digitValue c) = c) hascii
    hcode h

theorem isDigit_asciiDigit (h : isDigit c = true) : (asciiDigit c).isDigit = true := by
  rw [asciiDigit, if_pos h]
  exact isDigit_digitChar (digitValue_lt_ten c)

theorem asciiDigit_of_not_isDigit (h : isDigit c = false) : asciiDigit c = c := by
  rw [asciiDigit, h, if_neg Bool.false_ne_true]

theorem asciiDigit_of_isDigit (h : c.isDigit = true) : asciiDigit c = c := by
  rw [asciiDigit, if_pos (isDigit_of_isDigit h)]
  exact digitChar_digitValue h

theorem digitValue_asciiDigit (c : Char) : digitValue (asciiDigit c) = digitValue c := by
  rw [asciiDigit]
  split
  · exact digitValue_digitChar (digitValue_lt_ten c)
  · rfl

/-- Only a digit becomes a digit. -/
theorem isDigit_of_isDigit_asciiDigit (h : (asciiDigit c).isDigit = true) : isDigit c = true := by
  cases hdigit : isDigit c with
  | true => rfl
  | false =>
    rw [asciiDigit_of_not_isDigit hdigit] at h
    rw [isDigit_of_isDigit h] at hdigit
    cases hdigit

/-- A character that is no digit stands only for itself. -/
theorem asciiDigit_eq_iff (h : isDigit d = false) : asciiDigit c = d ↔ c = d := by
  cases hdigit : isDigit c with
  | true =>
    have hascii := isDigit_of_isDigit (isDigit_asciiDigit hdigit)
    constructor
    · rintro rfl
      rw [hascii] at h
      cases h
    · rintro rfl
      rw [hdigit] at h
      cases h
  | false => rw [asciiDigit_of_not_isDigit hdigit]

/-- Exactly the digits of other scripts are changed. -/
theorem asciiDigit_eq_self_iff : asciiDigit c = c ↔ (isDigit c = true → c.isDigit = true) := by
  constructor
  · intro heq hdigit
    rw [← heq]
    exact isDigit_asciiDigit hdigit
  · intro h
    cases hdigit : isDigit c with
    | true => exact asciiDigit_of_isDigit (h hdigit)
    | false => exact asciiDigit_of_not_isDigit hdigit

/-! ### Rows of digits -/

theorem digitsValue_map_asciiDigit (digits : Text) :
    digitsValue (digits.map asciiDigit) = digitsValue digits := by
  induction digits using List.reverseRecOn with
  | nil => rfl
  | append_singleton digits c ih =>
    rw [List.map_append, List.map_singleton, digitsValue_append_singleton,
      digitsValue_append_singleton, ih, digitValue_asciiDigit]

/-- Rows of ASCII digits of one length that denote the same number are equal. -/
theorem eq_of_digitsValue_eq (hlength : left.length = right.length)
    (hleft : ∀ c ∈ left, c.isDigit = true) (hright : ∀ c ∈ right, c.isDigit = true)
    (hvalue : digitsValue left = digitsValue right) : left = right := by
  induction left using List.reverseRecOn generalizing right with
  | nil => exact (List.length_eq_zero_iff.1 hlength.symm).symm
  | append_singleton left c ih =>
    cases right using List.reverseRecOn with
    | nil => simp at hlength
    | append_singleton right d =>
      rw [digitsValue_append_singleton, digitsValue_append_singleton] at hvalue
      have hc := digitValue_lt_ten c
      have hd := digitValue_lt_ten d
      have hlast : digitValue c = digitValue d := by omega
      have hfront : left = right :=
        ih (by simpa using hlength) (fun c hc => hleft c (List.mem_append_left _ hc))
          (fun c hc => hright c (List.mem_append_left _ hc)) (by omega)
      rw [hfront, ← digitChar_digitValue (hleft c (by simp)), hlast,
        digitChar_digitValue (hright d (by simp))]

/-- What is written for a numeral of a fixed width: as many digits of any script that denote the
same number. -/
theorem map_asciiDigit_eq_paddedDecimal_iff (hpos : 0 < width) (h : n < 10 ^ width) :
    digits.map asciiDigit = paddedDecimal width n ↔
      digits.length = width ∧ (∀ c ∈ digits, isDigit c = true) ∧ digitsValue digits = n := by
  have hlength := length_paddedDecimal_of_lt hpos h
  constructor
  · intro heq
    refine ⟨?_, fun c hc => ?_, ?_⟩
    · rw [← hlength, ← heq, List.length_map]
    · apply isDigit_of_isDigit_asciiDigit
      have hmem : asciiDigit c ∈ paddedDecimal width n := heq ▸ List.mem_map_of_mem hc
      exact isDigit_of_mem_paddedDecimal hmem
    · rw [← digitsValue_map_asciiDigit, heq, digitsValue_paddedDecimal]
  · rintro ⟨rfl, hdigits, rfl⟩
    apply eq_of_digitsValue_eq
    · rw [List.length_map, hlength]
    · exact List.forall_mem_map.2 fun c hc => isDigit_asciiDigit (hdigits c hc)
    · exact fun c hc => isDigit_of_mem_paddedDecimal hc
    · rw [digitsValue_map_asciiDigit, digitsValue_paddedDecimal]

end NoteTemplate
