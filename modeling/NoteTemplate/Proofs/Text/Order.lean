import Mathlib.Data.Char
import Mathlib.Data.List.Lex
import NoteTemplate.Text.Basic

/-!
# The order of texts

Texts are sorted by code points, which is the order of lists of characters.  Texts that are all
different stand in strict order once they are sorted.
-/

namespace NoteTemplate.Text

theorem le_iff (left right : Text) : le left right = true ↔ left ≤ right := by
  induction left generalizing right with
  | nil =>
    rw [le, ← not_lt]
    exact iff_of_true rfl (List.not_lt_nil right)
  | cons c left ih =>
    cases right with
    | nil => simp [le]
    | cons d right =>
      rw [le, ← not_lt, List.cons_lt_cons_iff]
      by_cases heq : c = d
      · rw [if_pos heq, ih, ← not_lt]
        simp [heq]
      · rw [if_neg heq, decide_eq_true_eq]
        simp only [Ne.symm heq, false_and, or_false, not_lt, le_iff_lt_or_eq, heq]
        exact Iff.rfl

/-- Sorting puts different texts into strict order. -/
theorem pairwise_lt_mergeSort {texts : List Text} (h : texts.Nodup) :
    (texts.mergeSort le).Pairwise (· < ·) := by
  have htrans (first second third : Text) (hle : le first second = true)
      (hle' : le second third = true) : le first third = true := by
    rw [le_iff] at hle hle' ⊢
    exact le_trans hle hle'
  have htotal (left right : Text) : (le left right || le right left) = true := by
    rw [Bool.or_eq_true, le_iff, le_iff]
    exact le_total left right
  have hsorted := List.pairwise_mergeSort htrans htotal texts
  have hdistinct := (List.mergeSort_perm texts le).nodup_iff.2 h
  refine hsorted.imp₂ (fun left right hle hne => ?_) hdistinct
  rw [le_iff] at hle
  exact lt_of_le_of_ne hle hne

end NoteTemplate.Text
