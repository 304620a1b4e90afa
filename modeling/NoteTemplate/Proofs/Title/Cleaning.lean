import NoteTemplate.Proofs.Number.Decimal
import NoteTemplate.Proofs.Text.Ascii
import NoteTemplate.Proofs.Text.Trim
import NoteTemplate.Title.Filename

/-!
# Cleaned characters

Numerals come through cleaning as they are, and no line feed does.
-/

namespace NoteTemplate

theorem cleanChar?_of_isAlphanum {c : Char} (h : c.isAlphanum = true) : cleanChar? c = some c := by
  have hall : ∀ n < 128, (Char.ofNat n).isAlphanum = true →
      cleanChar? (Char.ofNat n) = some (Char.ofNat n) := by
    decide +kernel
  exact forall_ascii (p := fun c => c.isAlphanum = true → cleanChar? c = some c) hall
    (toNat_lt_of_isAlphanum h) h

theorem cleanCharacters_eq_self {text : Text} (h : ∀ c ∈ text, cleanChar? c = some c) :
    cleanCharacters text = text := by
  induction text with
  | nil => rfl
  | cons c text ih =>
    have hrest := ih fun d hd => h d (List.mem_cons_of_mem _ hd)
    rw [cleanCharacters] at hrest
    rw [cleanCharacters, List.filterMap_cons_some (h c List.mem_cons_self), hrest]

theorem cleanCharacters_decimal (n : Nat) : cleanCharacters (decimal n) = decimal n := by
  apply cleanCharacters_eq_self
  intro c hc
  apply cleanChar?_of_isAlphanum
  rw [Char.isAlphanum, isDigit_of_mem_decimal hc, Bool.or_true]

/-- Cleaning leaves no control characters and none that a file name may not have. -/
theorem isAllowed_of_mem_cleanCharacters {text : Text} {c : Char} (h : c ∈ cleanCharacters text) :
    isForbiddenInFilename c = false ∧ isControl c = false := by
  obtain ⟨d, -, hd⟩ := List.mem_filterMap.1 h
  rw [cleanChar?] at hd
  split at hd
  · obtain rfl := Option.some.inj hd
    decide
  · split at hd
    · obtain rfl := Option.some.inj hd
      decide
    · split at hd
      · simp at hd
      · next hkept =>
        obtain rfl := Option.some.inj hd
        rwa [Bool.or_eq_true, not_or, Bool.not_eq_true, Bool.not_eq_true] at hkept

theorem newline_notMem_cleanCharacters (text : Text) : '\n' ∉ cleanCharacters text := by
  intro h
  have hcontrol := (isAllowed_of_mem_cleanCharacters h).2
  revert hcontrol
  decide

/-! ### The whole name -/

theorem mem_of_mem_collapseBlanksFrom {inRun : Bool} {text : Text} {c : Char}
    (h : c ∈ collapseBlanksFrom inRun text) : c = ' ' ∨ c ∈ text := by
  induction text generalizing inRun with
  | nil => simp [collapseBlanksFrom] at h
  | cons first rest ih =>
    have hrest {inRun : Bool} (h : c ∈ collapseBlanksFrom inRun rest) :
        c = ' ' ∨ c ∈ first :: rest :=
      (ih h).imp_right (List.mem_cons_of_mem _)
    rw [collapseBlanksFrom] at h
    split at h
    · split at h
      · exact hrest h
      · exact (List.mem_cons.1 h).elim Or.inl hrest
    · cases List.mem_cons.1 h with
      | inl heq => exact Or.inr (heq ▸ List.mem_cons_self)
      | inr h => exact hrest h

theorem isAllowed_of_mem_cleanFilename {title : Text} {c : Char} (h : c ∈ cleanFilename title) :
    isForbiddenInFilename c = false := by
  have hmem := (Text.trimWhile_infix _ _).subset h
  cases mem_of_mem_collapseBlanksFrom hmem with
  | inl hspace =>
    rw [hspace]
    decide
  | inr hclean => exact (isAllowed_of_mem_cleanCharacters hclean).1

end NoteTemplate
