import NoteTemplate.NamePattern.Matching

/-!
# The names that a pattern takes

A pattern takes a text when the text can be cut into parts, one for each piece.  The
matcher looks for such a cut, so it accepts the texts that the pattern takes, and these
with a line feed behind them (`accepts_iff`).  Every way of a piece to match leaves a rest
of another length, which tells in what order the ways are tried.
-/

namespace NoteTemplate

variable {set : CharSet} {least : Nat} {most : Option Nat} {text rest taken : Text}

/-- The text has as many characters of the set as are wanted. -/
structure CharSet.Fills (set : CharSet) (least : Nat) (most : Option Nat) (text : Text) :
    Prop where
  least_le : least ≤ text.length
  le_most : ∀ bound, most = some bound → text.length ≤ bound
  holds : ∀ c ∈ text, set.holds c = true

/-- The texts that a piece takes. -/
def PatternPiece.Takes : PatternPiece → Text → Prop
  | .chars set least most _, text => set.Fills least most text
  | .ordinalSuffix, text => text ∈ ordinalSuffixes
  | .counter, text => CharSet.digit.Fills 1 none text

/-- The texts that a row of pieces takes. -/
inductive NamePattern.Takes : NamePattern → Text → Prop
  | nil : Takes [] []
  | cons {piece : PatternPiece} {pieces : NamePattern} {text rest : Text}
      (hpiece : piece.Takes text) (hpieces : Takes pieces rest) :
      Takes (piece :: pieces) (text ++ rest)

/-! ### One piece -/

theorem CharSet.fills_nil_iff : set.Fills least most [] ↔ least = 0 := by
  constructor
  · intro h
    exact Nat.le_zero.1 h.least_le
  · intro h
    exact ⟨Nat.le_of_eq h, by simp, by simp⟩

theorem CharSet.fills_cons_iff {c : Char} :
    set.Fills least most (c :: taken) ↔
      (set.holds c = true ∧ most ≠ some 0) ∧ set.Fills (least - 1) (most.map (· - 1)) taken := by
  constructor
  · intro h
    have hmost : most ≠ some 0 := by
      rintro rfl
      exact Nat.not_succ_le_zero _ (h.le_most 0 rfl)
    refine ⟨⟨h.holds c List.mem_cons_self, hmost⟩, Nat.sub_le_of_le_add h.least_le, ?_, ?_⟩
    · intro bound hbound
      obtain ⟨full, rfl, rfl⟩ := Option.map_eq_some_iff.1 hbound
      exact Nat.le_sub_one_of_lt (h.le_most full rfl)
    · intro d hd
      exact h.holds d (List.mem_cons_of_mem _ hd)
  · rintro ⟨⟨hc, hmost⟩, h⟩
    refine ⟨Nat.le_add_of_sub_le h.least_le, ?_, List.forall_mem_cons.2 ⟨hc, h.holds⟩⟩
    rintro bound rfl
    have hpos : 0 < bound := Nat.pos_of_ne_zero (by simpa using hmost)
    exact Nat.add_le_of_le_sub hpos (h.le_most (bound - 1) rfl)

theorem mem_restsAfter_iff :
    rest ∈ restsAfter set least most text ↔
      ∃ taken, text = taken ++ rest ∧ set.Fills least most taken := by
  induction text generalizing least most with
  | nil =>
    have hrest : rest ∈ restsAfter set least most [] ↔ least = 0 ∧ rest = [] := by
      rw [restsAfter]
      split <;> simp [*]
    rw [hrest]
    constructor
    · rintro ⟨hleast, rfl⟩
      exact ⟨[], rfl, CharSet.fills_nil_iff.2 hleast⟩
    · rintro ⟨taken, heq, hfills⟩
      obtain ⟨rfl, rfl⟩ := List.append_eq_nil_iff.1 heq.symm
      exact ⟨CharSet.fills_nil_iff.1 hfills, rfl⟩
  | cons c text ih =>
    -- either nothing is taken, or the first character and then more
    have hrest : rest ∈ restsAfter set least most (c :: text) ↔
        least = 0 ∧ rest = c :: text ∨
          ∃ taken, text = taken ++ rest ∧ set.Fills least most (c :: taken) := by
      rw [restsAfter]
      simp only [CharSet.fills_cons_iff]
      by_cases hc : set.holds c = true ∧ most ≠ some 0
      · simp only [hc]
        split <;> simp [*]
      · simp only [hc]
        split <;> simp [*]
    rw [hrest]
    constructor
    · rintro (⟨hleast, rfl⟩ | ⟨taken, rfl, hfills⟩)
      · exact ⟨[], rfl, CharSet.fills_nil_iff.2 hleast⟩
      · exact ⟨c :: taken, rfl, hfills⟩
    · rintro ⟨taken, heq, hfills⟩
      cases taken with
      | nil => exact Or.inl ⟨CharSet.fills_nil_iff.1 hfills, heq.symm⟩
      | cons d taken =>
        obtain ⟨rfl, htext⟩ := List.cons.inj heq
        exact Or.inr ⟨taken, htext, hfills⟩

/-- Fewest characters first: the rests get shorter. -/
theorem pairwise_restsAfter (set : CharSet) (least : Nat) (most : Option Nat) (text : Text) :
    (restsAfter set least most text).Pairwise fun left right => right.length < left.length := by
  induction text generalizing least most with
  | nil =>
    rw [restsAfter]
    split <;> simp
  | cons c text ih =>
    have hlater : (if set.holds c && most ≠ some 0 then
        restsAfter set (least - 1) (most.map (· - 1)) text else []).Pairwise
          fun left right => right.length < left.length := by
      split
      · exact ih _ _
      · exact List.Pairwise.nil
    rw [restsAfter]
    split
    · refine List.pairwise_cons.2 ⟨?_, hlater⟩
      intro rest hrest
      split at hrest
      · obtain ⟨taken, rfl, -⟩ := mem_restsAfter_iff.1 hrest
        simp only [List.length_cons, List.length_append]
        omega
      · simp at hrest
    · exact hlater

namespace PatternPiece

variable {piece : PatternPiece}

/-- A piece leaves what stands behind a text that it takes. -/
theorem mem_rests_iff :
    rest ∈ piece.rests text ↔ ∃ taken, text = taken ++ rest ∧ piece.Takes taken := by
  cases piece with
  | chars set least most greedy =>
    rw [rests]
    split
    · rw [List.mem_reverse]
      exact mem_restsAfter_iff
    · exact mem_restsAfter_iff
  | counter =>
    rw [rests, List.mem_reverse]
    exact mem_restsAfter_iff
  | ordinalSuffix =>
    rw [rests, List.mem_filterMap]
    constructor
    · rintro ⟨suffix, hmem, h⟩
      split at h
      · next hstart =>
        obtain ⟨behind, rfl⟩ := List.isPrefixOf_iff_prefix.1 hstart
        obtain rfl : behind = rest := by simpa using h
        exact ⟨suffix, rfl, hmem⟩
      · simp at h
    · rintro ⟨taken, rfl, hmem⟩
      refine ⟨taken, hmem, ?_⟩
      have hstart : taken.isPrefixOf (taken ++ rest) = true :=
        List.isPrefixOf_iff_prefix.2 (List.prefix_append _ _)
      rw [if_pos hstart, List.drop_left]

end PatternPiece

namespace NamePattern

variable {pattern left right : NamePattern}

theorem takes_nil_iff : Takes [] text ↔ text = [] := by
  constructor
  · rintro ⟨⟩
    rfl
  · rintro rfl
    exact .nil

theorem takes_cons_iff {piece : PatternPiece} {pieces : NamePattern} :
    Takes (piece :: pieces) text ↔
      ∃ taken rest, text = taken ++ rest ∧ piece.Takes taken ∧ Takes pieces rest := by
  constructor
  · rintro (_ | ⟨hpiece, hpieces⟩)
    exact ⟨_, _, rfl, hpiece, hpieces⟩
  · rintro ⟨taken, rest, rfl, hpiece, hpieces⟩
    exact .cons hpiece hpieces

theorem Takes.append {before after : Text} (hleft : Takes left before)
    (hright : Takes right after) :
    Takes (left ++ right) (before ++ after) := by
  induction hleft with
  | nil => exact hright
  | cons hpiece _ ih =>
    rw [List.append_assoc]
    exact .cons hpiece ih

theorem takes_singleton {piece : PatternPiece} (h : piece.Takes text) : Takes [piece] text := by
  have hcons := Takes.cons h .nil
  rwa [List.append_nil] at hcons

theorem takes_flatMap {α : Type} {items : List α} {pieces : α → NamePattern} {shown : α → Text}
    (h : ∀ item ∈ items, Takes (pieces item) (shown item)) :
    Takes (items.flatMap pieces) (items.flatMap shown) := by
  induction items with
  | nil => exact .nil
  | cons item items ih =>
    rw [List.flatMap_cons, List.flatMap_cons]
    exact (h item (by simp)).append (ih fun later hlater => h later (by simp [hlater]))

theorem takes_ofText (text : Text) : Takes (ofText text) text := by
  induction text with
  | nil => exact .nil
  | cons c text ih =>
    have hone : PatternPiece.Takes (.one (.only c)) [c] := by
      refine ⟨by simp, by simp, ?_⟩
      simp [CharSet.holds]
    exact .cons hone ih

/-! ### Matching -/

theorem match?_nil (name : Text) :
    match? [] name = if name = [] ∨ name = ['\n'] then some none else none := rfl

theorem match?_isSome_iff :
    (match? pattern text).isSome = true ↔
      ∃ taken, Takes pattern taken ∧ (text = taken ∨ text = taken ++ ['\n']) := by
  induction pattern generalizing text with
  | nil =>
    rw [match?_nil]
    constructor
    · intro h
      split at h
      · next hend => exact ⟨[], .nil, hend⟩
      · simp at h
    · rintro ⟨taken, htakes, hend⟩
      obtain rfl := takes_nil_iff.1 htakes
      rw [List.nil_append] at hend
      rw [if_pos hend]
      rfl
  | cons piece pieces ih =>
    rw [match?, List.findSome?_isSome_iff]
    simp only [Option.isSome_map, PatternPiece.mem_rests_iff]
    constructor
    · rintro ⟨rest, ⟨first, rfl, hpiece⟩, hrest⟩
      obtain ⟨more, hmore, hend⟩ := ih.1 hrest
      refine ⟨first ++ more, .cons hpiece hmore, ?_⟩
      rcases hend with rfl | rfl
      · exact Or.inl rfl
      · exact Or.inr (by simp)
    · rintro ⟨taken, htakes, hend⟩
      obtain ⟨first, more, rfl, hpiece, hpieces⟩ := takes_cons_iff.1 htakes
      rcases hend with rfl | rfl
      · exact ⟨more, ⟨first, rfl, hpiece⟩, ih.2 ⟨more, hpieces, Or.inl rfl⟩⟩
      · refine ⟨more ++ ['\n'], ⟨first, by simp, hpiece⟩, ih.2 ⟨more, hpieces, Or.inr rfl⟩⟩

/-- A pattern accepts what it takes, also with a line feed behind it. -/
theorem accepts_iff {name : Text} :
    pattern.accepts name = true ↔
      ∃ taken, Takes pattern taken ∧ (name = taken ∨ name = taken ++ ['\n']) :=
  match?_isSome_iff

end NamePattern

end NoteTemplate
