import NoteTemplate.NamePattern.Format
import NoteTemplate.Proofs.NamePattern.Language
import NoteTemplate.Proofs.Title.Cleaning

/-!
# Patterns and the texts they cover

A pattern covers a text when it takes the text as it appears in a file name, and it describes
a text when it also takes the text as it is.  Cleaning works character by character, so what is
covered or described in parts is covered or described as a whole.
-/

namespace NoteTemplate.NamePattern

variable {set : CharSet} {least : Nat} {most : Option Nat} {greedy : Bool} {n bound : Nat}
  {shown : Text}

/-- The pattern takes the text as it appears in a file name. -/
def Covers (pattern : NamePattern) (shown : Text) : Prop := pattern.Takes (cleanCharacters shown)

/-- The pattern takes the text as it is and as it appears in a file name. -/
structure Describes (pattern : NamePattern) (shown : Text) : Prop where
  takes : pattern.Takes shown
  covers : pattern.Covers shown

theorem Covers.append {left right : NamePattern} {before after : Text}
    (hleft : left.Covers before) (hright : right.Covers after) :
    (left ++ right).Covers (before ++ after) := by
  rw [Covers, cleanCharacters_append]
  exact Takes.append hleft hright

theorem Describes.append {left right : NamePattern} {before after : Text}
    (hleft : left.Describes before) (hright : right.Describes after) :
    (left ++ right).Describes (before ++ after) :=
  ⟨hleft.takes.append hright.takes, hleft.covers.append hright.covers⟩

theorem covers_flatMap {α : Type} (items : List α) {pieces : α → NamePattern} {shown : α → Text}
    (h : ∀ item ∈ items, Covers (pieces item) (shown item)) :
    Covers (items.flatMap pieces) (items.flatMap shown) := by
  have hclean : cleanCharacters (items.flatMap shown) =
      items.flatMap fun item => cleanCharacters (shown item) := by
    rw [cleanCharacters, List.filterMap_flatMap]
    rfl
  rw [Covers, hclean]
  exact takes_flatMap h

/-! ### Texts of a title -/

theorem covers_literalPattern (text : Text) : (literalPattern text).Covers text :=
  takes_ofText _

/-- A gap covers every text: cleaning leaves no line feeds. -/
theorem covers_gap (text : Text) : Covers [.gap] text := by
  apply takes_singleton
  refine ⟨Nat.zero_le _, by simp, ?_⟩
  intro c hc
  rw [CharSet.holds, decide_eq_true_eq]
  rintro rfl
  exact newline_notMem_cleanCharacters text hc

theorem describes_one {c d : Char} (hc : set.holds c = true) (hclean : cleanChar? c = some d)
    (hd : set.holds d = true) : Describes [.one set] [c] where
  takes := takes_singleton ⟨by simp, by simp, by simpa using hc⟩
  covers := by
    rw [Covers, cleanCharacters, List.filterMap_cons_some hclean]
    exact takes_singleton ⟨by simp, by simp, by simpa using hd⟩

theorem describes_formatCharPattern {c : Char} (h : cleanChar? c ≠ none) :
    (formatCharPattern c).Describes [c] := by
  rw [formatCharPattern]
  split
  · next hcolon =>
    subst hcolon
    exact describes_one (d := '⦂') (by decide) (by decide) (by decide)
  · next hcolon =>
    split
    · next hbar =>
      subst hbar
      exact describes_one (d := '∣') (by decide) (by decide) (by decide)
    · next hbar =>
      rw [cleanChar?, if_neg hcolon, if_neg hbar] at h
      split
      · next hdeleted =>
        rw [if_pos hdeleted] at h
        exact absurd rfl h
      · next hkept =>
        have hclean : cleanChar? c = some c := by
          rw [cleanChar?, if_neg hcolon, if_neg hbar, if_neg hkept]
        have hc : (CharSet.only c).holds c = true := by simp [CharSet.holds]
        exact describes_one hc hclean hc

theorem formatCharPattern_of_deleted {c : Char} (h : cleanChar? c = none) :
    formatCharPattern c = [] := by
  rw [cleanChar?] at h
  rw [formatCharPattern]
  split at h
  · simp at h
  · split at h
    · simp at h
    · split at h
      · next hcolon hbar hdeleted => rw [if_neg hcolon, if_neg hbar, if_pos hdeleted]
      · simp at h

theorem covers_formatCharPattern (c : Char) : (formatCharPattern c).Covers [c] := by
  by_cases hdeleted : cleanChar? c = none
  · rw [formatCharPattern_of_deleted hdeleted, Covers, cleanCharacters,
      List.filterMap_cons_none hdeleted]
    exact .nil
  · exact (describes_formatCharPattern hdeleted).covers

/-- The literal text of a format is covered character by character. -/
theorem covers_formatLiteral (kept : Text) : Covers (kept.flatMap formatCharPattern) kept := by
  have hcovers := covers_flatMap kept fun c _ => covers_formatCharPattern c
  rwa [List.flatMap_singleton'] at hcovers

/-- When cleaning deletes none of its characters, it is taken as it is. -/
theorem takes_formatLiteral {kept : Text} (h : ∀ c ∈ kept, cleanChar? c ≠ none) :
    Takes (kept.flatMap formatCharPattern) kept := by
  have htakes := takes_flatMap fun c hc => (describes_formatCharPattern (h c hc)).takes
  rwa [List.flatMap_singleton'] at htakes

/-! ### Letters and numerals -/

theorem describes_of_fills (hfills : set.Fills least most shown)
    (halphanum : ∀ c ∈ shown, c.isAlphanum = true) :
    Describes [.chars set least most greedy] shown where
  takes := takes_singleton hfills
  covers := by
    rw [Covers, cleanCharacters_eq_self fun c hc => cleanChar?_of_isAlphanum (halphanum c hc)]
    exact takes_singleton hfills

theorem describes_letters (halpha : ∀ c ∈ shown, c.isAlpha = true) (hleast : least ≤ shown.length)
    (hmost : ∀ bound, most = some bound → shown.length ≤ bound) :
    Describes [.chars .letter least most greedy] shown := by
  have hfills : CharSet.letter.Fills least most shown := ⟨hleast, hmost, halpha⟩
  apply describes_of_fills hfills
  intro c hc
  rw [Char.isAlphanum, halpha c hc, Bool.true_or]

theorem isAlphanum_of_mem_decimal {c : Char} (h : c ∈ decimal n) : c.isAlphanum = true := by
  rw [Char.isAlphanum, isDigit_of_mem_decimal h, Bool.or_true]

theorem describes_decimal (hleast : least ≤ (decimal n).length)
    (hmost : ∀ bound, most = some bound → (decimal n).length ≤ bound) :
    Describes [.chars .digit least most greedy] (decimal n) :=
  describes_of_fills ⟨hleast, hmost, fun _ hc => isDigit_of_mem_digits hc⟩
    fun _ hc => isAlphanum_of_mem_decimal hc

theorem describes_atLeastOne_decimal (n : Nat) : Describes [.atLeastOne .digit] (decimal n) :=
  describes_decimal (List.length_pos_iff.2 (decimal_ne_nil n)) (by simp)

theorem describes_decimal_of_lt (hpos : 0 < bound) (h : n < 10 ^ bound) :
    Describes [.chars .digit 1 (some bound) greedy] (decimal n) := by
  apply describes_decimal (List.length_pos_iff.2 (decimal_ne_nil n))
  rintro _ ⟨⟩
  exact length_decimal_le hpos h

theorem describes_digits {width : Nat} (hdigits : ∀ c ∈ shown, c.isDigit = true)
    (hlength : shown.length = width) : Describes [.exactly width .digit] shown := by
  apply describes_of_fills
  · refine ⟨Nat.le_of_eq hlength.symm, ?_, fun c hc => isDigit_of_isDigit (hdigits c hc)⟩
    rintro _ ⟨⟩
    exact Nat.le_of_eq hlength
  · intro c hc
    rw [Char.isAlphanum, hdigits c hc, Bool.or_true]

theorem describes_paddedDecimal {width : Nat} (hpos : 0 < width) (h : n < 10 ^ width) :
    Describes [.exactly width .digit] (paddedDecimal width n) :=
  describes_digits (fun _ hc => isDigit_of_mem_paddedDecimal hc) (length_paddedDecimal_of_lt hpos h)

theorem describes_ordinalSuffix (n : Nat) : Describes [.ordinalSuffix] (ordinalSuffix n) := by
  have hmem : ordinalSuffix n ∈ ordinalSuffixes := by
    rw [ordinalSuffix]
    split
    · decide
    · split <;> decide
  have hclean : ∀ suffix ∈ ordinalSuffixes, cleanCharacters suffix = suffix := by decide
  refine ⟨takes_singleton hmem, ?_⟩
  rw [Covers, hclean _ hmem]
  exact takes_singleton hmem

theorem describes_ordinal (hpos : 0 < bound) (h : n < 10 ^ bound) :
    Describes [.chars .digit 1 (some bound) greedy, .ordinalSuffix] (ordinal n) :=
  (describes_decimal_of_lt hpos h).append (describes_ordinalSuffix n)

theorem ordinalSuffix_mod (n : Nat) : ordinalSuffix (n % 100) = ordinalSuffix n := by
  have hlast : n % 100 % 10 = n % 10 := Nat.mod_mod_of_dvd n (by decide)
  rw [ordinalSuffix, ordinalSuffix, Nat.mod_mod, hlast]

theorem signedOrdinal_natCast (n : Nat) : signedOrdinal (n : Int) = ordinal n := by
  have hmod : ((n : Int) % 100).toNat = n % 100 := by omega
  rw [signedOrdinal, signedDecimal_natCast, hmod, ordinalSuffix_mod, ordinal]

end NoteTemplate.NamePattern
