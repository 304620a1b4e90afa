import NoteTemplate.Text.Lowercase
import NoteTemplate.Text.Word

/-!
# Texts of ASCII

On the characters of ASCII the full lower case is the simple one, and the letters are word
characters.  A small letter of ASCII is the lower case of characters of ASCII only, the letters
i and k apart.
-/

namespace NoteTemplate

/-- What holds for the first 128 code points holds for every character of ASCII. -/
theorem forall_ascii {p : Char → Prop} (h : ∀ n < 128, p (Char.ofNat n)) {c : Char}
    (hc : c.toNat < 128) : p c := by
  have hchar := h c.toNat hc
  rwa [Char.ofNat_toNat] at hchar

theorem lowerChar_of_ascii {c : Char} (hc : c.toNat < 128) : lowerChar c = [c.toLower] :=
  forall_ascii (p := fun c => lowerChar c = [c.toLower]) (by decide +kernel) hc

theorem isWordChar_of_isAlpha {c : Char} (hc : c.toNat < 128) (halpha : c.isAlpha = true) :
    isWordChar c = true :=
  forall_ascii (p := fun c => c.isAlpha = true → isWordChar c = true) (by decide +kernel) hc halpha

theorem toNat_lt_of_toLower {c : Char} (h : c.toLower.toNat < 128) : c.toNat < 128 := by
  by_cases hupper : c.val ≥ 'A'.val ∧ c.val ≤ 'Z'.val
  · have hnat : c.toNat ≤ 90 := UInt32.le_iff_toNat_le.1 hupper.2
    exact Nat.lt_of_le_of_lt hnat (by decide)
  · have hsame : c.toLower = c := dif_neg hupper
    rwa [hsame] at h

theorem toNat_lt_of_isAlphanum {c : Char} (h : c.isAlphanum = true) : c.toNat < 128 := by
  have hbound {last : Char} (hle : c.val ≤ last.val) (hlast : last.toNat < 128) :
      c.toNat < 128 :=
    Nat.lt_of_le_of_lt (UInt32.le_iff_toNat_le.1 hle) hlast
  cases Bool.or_eq_true_iff.1 h with
  | inl halpha =>
    cases Bool.or_eq_true_iff.1 halpha with
    | inl hupper => exact hbound (of_decide_eq_true hupper).2 (by decide)
    | inr hlower =>
      exact hbound (of_decide_eq_true (Bool.and_eq_true_iff.1 hlower).2) (by decide)
  | inr hdigit => exact hbound (of_decide_eq_true (Bool.and_eq_true_iff.1 hdigit).2) (by decide)

/-- The small letters of ASCII that are no lower case of any other character. -/
def isOnlyLower (c : Char) : Bool := 97 ≤ c.toNat && c.toNat ≤ 122 && c ≠ 'i' && c ≠ 'k'

theorem eq_of_ofNat_eq {n : Nat} {d : Char} (h : Char.ofNat n = d) (hd : 0 < d.toNat) :
    n = d.toNat := by
  by_cases hvalid : n.isValidChar
  · rw [← h, Char.ofNat, dif_pos hvalid]
    rfl
  · rw [Char.ofNat, dif_neg hvalid] at h
    rw [← h] at hd
    exact absurd hd (by decide)

/-- A run outside ASCII does not come to a small letter of ASCII, but for the letter k. -/
theorem caseRuns_apart : ∀ run ∈ caseRuns, run.last < 128 ∨ run.last + run.shift < 97 ∨
    122 < run.first + run.shift ∨ run.first = run.last ∧ run.first + run.shift = 107 := by
  decide +kernel

theorem toNat_lt_of_mem_lowerChar {c d : Char} (hd : isOnlyLower d = true) (h : d ∈ lowerChar c) :
    c.toNat < 128 := by
  have hk : d.toNat ≠ 107 := by
    intro hcode
    have hchar : d = 'k' := Char.toNat_inj.1 hcode
    rw [hchar] at hd
    revert hd
    decide
  have hrange : 97 ≤ d.toNat ∧ d.toNat ≤ 122 := by
    simp only [isOnlyLower, Bool.and_eq_true, decide_eq_true_eq] at hd
    exact hd.1.1
  rw [lowerChar] at h
  split at h
  · have hnone : (['i', '\u0307'].any isOnlyLower) = false := by decide
    rw [List.any_eq_false] at hnone
    exact absurd hd (hnone d h)
  · split at h
    · next run hrun =>
      have hcode := eq_of_ofNat_eq (List.mem_singleton.1 h).symm (by omega)
      have hholds := List.find?_some hrun
      simp only [CaseRun.holds, Bool.and_eq_true, Nat.ble_eq] at hholds
      have hapart := caseRuns_apart run (List.mem_of_find?_eq_some hrun)
      omega
    · rw [List.mem_singleton.1 h] at hrange
      omega

theorem lowerChar_ne_nil (c : Char) : lowerChar c ≠ [] := by
  rw [lowerChar]
  split
  · simp
  · split <;> simp

namespace Text

/-- A text with such a lower case is one of ASCII. -/
theorem isAscii_of_lowerAfter {text before : Text}
    (h : ∀ d ∈ lowerAfter before text, isOnlyLower d = true) : ∀ c ∈ text, c.toNat < 128 := by
  induction text generalizing before with
  | nil => simp
  | cons c text ih =>
    rw [lowerAfter, List.forall_mem_append] at h
    refine List.forall_mem_cons.2 ⟨?_, ih h.2⟩
    obtain ⟨hfirst, -⟩ := h
    split at hfirst
    · have hsigma : isOnlyLower 'ς' = false ∧ isOnlyLower 'σ' = false := by decide
      have hlower := hfirst _ (List.mem_singleton_self _)
      split at hlower
      · rw [hsigma.1] at hlower
        cases hlower
      · rw [hsigma.2] at hlower
        cases hlower
    · obtain ⟨d, more, hmore⟩ := List.exists_cons_of_ne_nil (lowerChar_ne_nil c)
      have hmem : d ∈ lowerChar c := by simp [hmore]
      exact toNat_lt_of_mem_lowerChar (hfirst d hmem) hmem

theorem lowerAfter_of_ascii {text : Text} (h : ∀ c ∈ text, c.toNat < 128) (before : Text) :
    lowerAfter before text = text.map Char.toLower := by
  induction text generalizing before with
  | nil => rfl
  | cons c text ih =>
    have hc := h c (by simp)
    have hsigma : c ≠ 'Σ' := by
      rintro rfl
      revert hc
      decide
    rw [lowerAfter, if_neg hsigma, lowerChar_of_ascii hc, ih fun d hd => h d (by simp [hd])]
    rfl

/-- A character of ASCII that is its own lower case stays in the text. -/
theorem mem_lowerAfter {text : Text} {c : Char} (hc : c.toNat < 128) (hlower : c.toLower = c)
    (h : c ∈ text) (before : Text) : c ∈ lowerAfter before text := by
  induction text generalizing before with
  | nil => cases h
  | cons d text ih =>
    rw [lowerAfter]
    rcases List.mem_cons.1 h with rfl | h
    · have hsigma : c ≠ 'Σ' := by
        rintro rfl
        revert hc
        decide
      rw [if_neg hsigma, lowerChar_of_ascii hc, hlower]
      exact List.mem_append_left _ (List.mem_singleton_self c)
    · exact List.mem_append_right _ (ih h _)

theorem lower_of_ascii {text : Text} (h : ∀ c ∈ text, c.toNat < 128) :
    lower text = text.map Char.toLower :=
  lowerAfter_of_ascii h []

end Text

end NoteTemplate
