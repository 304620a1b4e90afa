import Mathlib.Data.List.Pairwise
import NoteTemplate.Proofs.Editor.TagHighlights
import NoteTemplate.Proofs.Title.Choice

/-!
# Which highlights overlap

The highlights of a text are in order, and those of two tags or of two variables share no
place.  A variable that starts in a tag is not shown.  The other way round nothing is left
out: a tag that starts in the format of a variable is highlighted as well, and then the
variable covers the opening of the tag (`highlights_disjoint_iff`).
-/

namespace NoteTemplate

variable {text : Text} {prompts : List (Span Nat)} {tags : List (Occurrence VariableTag)}
  {shown : Occurrence VariableTag} {found : TagOccurrence} {left right spot : Highlight}

/-! ### Variables outside the tags -/

/-- The prompts that are skipped end in front of the place, and the next one does not. -/
theorem exists_eq_append_dropWhile (prompts : List (Span Nat)) (pos : Nat) :
    ∃ passed, prompts = passed ++ prompts.dropWhile (fun prompt => prompt.stop ≤ pos) ∧
      ∀ prompt ∈ passed, prompt.stop ≤ pos := by
  refine ⟨_, (List.takeWhile_append_dropWhile ..).symm, fun prompt hprompt => ?_⟩
  simpa using List.mem_takeWhile_imp hprompt

/-- Only the first of the prompts that are not behind the place can cover it. -/
theorem any_head?_dropWhile_iff (pos : Nat)
    (hordered : prompts.Pairwise fun left right => left.stop ≤ right.start) :
    ((prompts.dropWhile fun prompt => prompt.stop ≤ pos).head?.any
      fun prompt => prompt.start ≤ pos) = true ↔ ∃ prompt ∈ prompts, prompt.covers pos = true := by
  obtain ⟨passed, hprompts, hpassed⟩ := exists_eq_append_dropWhile prompts pos
  have hnot {prompt : Span Nat} (h : prompt ∈ passed) : ¬prompt.covers pos = true := by
    have hstop := hpassed prompt h
    rw [Span.covers_iff]
    omega
  cases hahead : prompts.dropWhile fun prompt => prompt.stop ≤ pos with
  | nil =>
    rw [hahead, List.append_nil] at hprompts
    subst hprompts
    simpa using fun prompt hprompt => hnot hprompt
  | cons next more =>
    have hnext : pos < next.stop := by
      have hhead := List.head?_dropWhile_not (fun prompt => decide (prompt.stop ≤ pos)) prompts
      rw [hahead] at hhead
      simpa using hhead
    rw [hahead] at hprompts
    rw [hprompts] at hordered
    obtain ⟨-, hlater, -⟩ := List.pairwise_append.1 hordered
    constructor
    · intro hstart
      refine ⟨next, by simp [hprompts], Span.covers_iff.2 ⟨?_, hnext⟩⟩
      simpa using hstart
    · rintro ⟨prompt, hprompt, hcovers⟩
      rw [hprompts] at hprompt
      have hstart := (Span.covers_iff.1 hcovers).1
      rcases List.mem_append.1 hprompt with hprompt | hprompt
      · exact absurd hcovers (hnot hprompt)
      · rcases List.mem_cons.1 hprompt with rfl | hprompt
        · simpa using hstart
        · have hbehind := (List.pairwise_cons.1 hlater).1 prompt hprompt
          omega

/-- What is left of the variables are those that start in none of the prompts. -/
theorem mem_outsidePrompts_iff
    (hprompts : prompts.Pairwise fun left right => left.stop ≤ right.start)
    (htags : tags.Pairwise fun left right => left.span.start ≤ right.span.start) :
    shown ∈ outsidePrompts prompts tags ↔
      shown ∈ tags ∧ ∀ prompt ∈ prompts, ¬prompt.covers shown.span.start = true := by
  induction tags generalizing prompts with
  | nil => simp [outsidePrompts]
  | cons first rest ih =>
    obtain ⟨hfirst, hrest⟩ := List.pairwise_cons.1 htags
    obtain ⟨passed, hsplit, hpassed⟩ := exists_eq_append_dropWhile prompts first.span.start
    have hhead := any_head?_dropWhile_iff first.span.start hprompts
    have hahead : (prompts.dropWhile fun prompt => prompt.stop ≤ first.span.start).Pairwise
        fun left right => left.stop ≤ right.start :=
      hprompts.sublist (List.dropWhile_sublist _)
    have hlater := ih hahead hrest
    -- A prompt that ends in front of this variable covers no later one.
    have hsame : shown ∈ rest →
        ((∀ prompt ∈ prompts.dropWhile fun prompt => prompt.stop ≤ first.span.start,
          ¬prompt.covers shown.span.start = true) ↔
            ∀ prompt ∈ prompts, ¬prompt.covers shown.span.start = true) := by
      intro hmem
      have hstart := hfirst shown hmem
      refine ⟨fun h prompt hprompt => ?_, fun h prompt hprompt =>
        h prompt ((List.dropWhile_sublist _).mem hprompt)⟩
      rw [hsplit] at hprompt
      rcases List.mem_append.1 hprompt with hprompt | hprompt
      · have hstop := hpassed prompt hprompt
        rw [Span.covers_iff]
        omega
      · exact h prompt hprompt
    rw [outsidePrompts]
    split
    · next hcovered =>
      obtain ⟨prompt, hprompt, hcovers⟩ := hhead.1 hcovered
      rw [hlater, List.mem_cons]
      constructor
      · rintro ⟨hmem, h⟩
        exact ⟨Or.inr hmem, (hsame hmem).1 h⟩
      · rintro ⟨rfl | hmem, h⟩
        · exact absurd hcovers (h prompt hprompt)
        · exact ⟨hmem, (hsame hmem).2 h⟩
    · next hfree =>
      have hnone : ∀ prompt ∈ prompts, ¬prompt.covers first.span.start = true :=
        fun prompt hprompt hcovers => hfree (hhead.2 ⟨prompt, hprompt, hcovers⟩)
      rw [List.mem_cons, List.mem_cons, hlater]
      constructor
      · rintro (rfl | ⟨hmem, h⟩)
        · exact ⟨Or.inl rfl, hnone⟩
        · exact ⟨Or.inr hmem, (hsame hmem).1 h⟩
      · rintro ⟨rfl | hmem, h⟩
        · exact Or.inl rfl
        · exact Or.inr ⟨hmem, (hsame hmem).2 h⟩

/-- What is left of the variables keeps its order. -/
theorem outsidePrompts_sublist (prompts : List (Span Nat)) (tags : List (Occurrence VariableTag)) :
    (outsidePrompts prompts tags).Sublist tags := by
  induction tags generalizing prompts with
  | nil => exact List.Sublist.refl _
  | cons first rest ih =>
    rw [outsidePrompts]
    split
    · exact (ih _).cons _
    · exact (ih _).cons_cons _

theorem start_lt_stop_of_mem_variableTags (h : shown ∈ variableTags text) :
    shown.span.start < shown.span.stop := by
  have hlength := (isFenced_of_mem_variableTags h).length
  omega

/-- A variable is highlighted unless it starts in a code block or in a highlighted tag. -/
theorem mem_highlightedVariables_iff :
    shown ∈ highlightedVariables text ↔ shown ∈ variableTags text ∧
      (∀ block ∈ codeBlocks text, ¬block.Holds shown.span.start) ∧
      ∀ found ∈ promptTagsOutsideCode text, ¬found.span.covers shown.span.start = true := by
  have htags : (variableTags text).Pairwise fun left right =>
      left.span.start ≤ right.span.start :=
    pairwise_start_occurrences (pairwise_variableTags text)
  have hprompts : ((promptTagsOutsideCode text).map Occurrence.span).Pairwise
      fun left right => left.stop ≤ right.start :=
    List.pairwise_map.2 (pairwise_promptTagsOutsideCode text)
  have hblocks : (!insideCodeBlock (codeBlocks text) shown.span.start) = true ↔
      ∀ block ∈ codeBlocks text, ¬block.Holds shown.span.start := by
    rw [Bool.not_eq_true', ← Bool.not_eq_true, insideCodeBlock_iff]
    exact not_exists.trans (forall_congr' fun block => not_and)
  rw [highlightedVariables, List.mem_filter, mem_outsidePrompts_iff hprompts htags,
    List.forall_mem_map, hblocks, and_assoc, and_congr_right_iff]
  exact fun _ => and_comm

theorem pairwise_highlightedVariables (text : Text) :
    (highlightedVariables text).Pairwise fun left right =>
      left.span.stop ≤ right.span.start :=
  ((pairwise_variableTags text).sublist (outsidePrompts_sublist _ _)).filter _

/-! ### Tags that start in a variable -/

/-- Both the variable and the tag are highlighted, and the tag starts inside the variable. -/
structure StartsIn (text : Text) (found : TagOccurrence) (shown : Occurrence VariableTag) :
    Prop where
  isTag : found ∈ promptTags text
  isVariable : shown ∈ variableTags text
  tag_outside : ∀ block ∈ codeBlocks text, ¬block.Holds found.span.start
  variable_outside : ∀ block ∈ codeBlocks text, ¬block.Holds shown.span.start
  /-- No tag hides the variable, unless the tag is itself in a code block. -/
  unhidden : ∀ other ∈ promptTags text,
    (∀ block ∈ codeBlocks text, ¬block.Holds other.span.start) →
      ¬other.span.covers shown.span.start = true
  start_lt : shown.span.start < found.span.start
  lt_stop : found.span.start < shown.span.stop

theorem startsIn_iff :
    StartsIn text found shown ↔ found ∈ promptTagsOutsideCode text ∧
      shown ∈ highlightedVariables text ∧ shown.span.start < found.span.start ∧
      found.span.start < shown.span.stop := by
  rw [mem_highlightedVariables_iff, mem_promptTagsOutsideCode_iff]
  constructor
  · intro h
    exact ⟨⟨h.isTag, h.tag_outside⟩, ⟨h.isVariable, h.variable_outside, fun other hother =>
      h.unhidden other (mem_promptTagsOutsideCode_iff.1 hother).1
        (mem_promptTagsOutsideCode_iff.1 hother).2⟩, h.start_lt, h.lt_stop⟩
  · rintro ⟨⟨htag, houtside⟩, ⟨hvariable, hfree, hhidden⟩, hstart, hstop⟩
    exact ⟨htag, hvariable, houtside, hfree, fun other hother hother' =>
      hhidden other (mem_promptTagsOutsideCode_iff.2 ⟨hother, hother'⟩), hstart, hstop⟩

/-- The left highlight is that of a variable, and the right one belongs to a tag that starts in
the variable. -/
def Highlight.Clashes (text : Text) (left right : Highlight) : Prop :=
  ∃ shown found, StartsIn text found shown ∧ left = ⟨shown.span, .variable⟩ ∧
    right ∈ found.highlights

/-- Highlights of a text share no place, or one is a variable in which the tag of the other one
starts. -/
def Highlight.ApartOrClash (text : Text) (left right : Highlight) : Prop :=
  left.Apart right ∨ left.Clashes text right ∨ right.Clashes text left

instance : Std.Symm Highlight.Apart where
  symm _ _ := Or.symm

theorem Highlight.ApartOrClash.symm (h : left.ApartOrClash text right) :
    right.ApartOrClash text left := by
  rcases h with h | h | h
  · exact Or.inl (Std.Symm.symm _ _ h)
  · exact Or.inr (Or.inr h)
  · exact Or.inr (Or.inl h)

theorem inside_of_mem_promptTagsOutsideCode (hfound : found ∈ promptTagsOutsideCode text)
    (hspot : spot ∈ found.highlights) : found.span.start ≤ spot.span.start ∧
      spot.span.start < spot.span.stop ∧ spot.span.stop ≤ found.span.stop :=
  (standsIn_of_mem_promptTags (mem_promptTagsOutsideCode_iff.1 hfound).1).paints.inside spot hspot

theorem pairwise_apart_tagHighlights (text : Text) :
    ((promptTagsOutsideCode text).flatMap TagOccurrence.highlights).Pairwise
      Highlight.Apart := by
  refine List.pairwise_flatMap.2 ⟨fun found hfound => ?_, ?_⟩
  · exact (standsIn_of_mem_promptTags (mem_promptTagsOutsideCode_iff.1 hfound).1).paints.apart
  · apply (pairwise_promptTagsOutsideCode text).imp_of_mem
    intro first second hfirst hsecond hle left hleft right hright
    have hleftInside := inside_of_mem_promptTagsOutsideCode hfirst hleft
    have hrightInside := inside_of_mem_promptTagsOutsideCode hsecond hright
    exact Or.inl (by omega)

/-- A highlighted variable starts in no tag, so it stands in front of a tag, behind it, or the
tag starts in the variable. -/
theorem apartOrClash_variable (hfound : found ∈ promptTagsOutsideCode text)
    (hshown : shown ∈ highlightedVariables text) (hspot : spot ∈ found.highlights) :
    spot.ApartOrClash text ⟨shown.span, .variable⟩ := by
  have hinside := inside_of_mem_promptTagsOutsideCode hfound hspot
  have hfree := (mem_highlightedVariables_iff.1 hshown).2.2 found hfound
  rw [Span.covers_iff, not_and_or] at hfree
  by_cases hstop : found.span.start < shown.span.stop
  · rcases hfree with hstart | hbehind
    · exact Or.inr (Or.inr ⟨shown, found,
        startsIn_iff.2 ⟨hfound, hshown, by omega, hstop⟩, rfl, hspot⟩)
    · exact Or.inl (Or.inl (by simp only; omega))
  · exact Or.inl (Or.inr (by simp only; omega))

theorem pairwise_apartOrClash (text : Text) :
    (highlights text).Pairwise (Highlight.ApartOrClash text) := by
  apply (List.mergeSort_perm _ _).symm.pairwise ?_ Highlight.ApartOrClash.symm
  refine List.pairwise_append.2 ⟨?_, ?_, fun left hleft right hright => ?_⟩
  · exact (pairwise_apart_tagHighlights text).imp Or.inl
  · exact List.pairwise_map.2 ((pairwise_highlightedVariables text).imp
      fun hle => Or.inl (Or.inl hle))
  · obtain ⟨found, hfound, hspot⟩ := List.mem_flatMap.1 hleft
    obtain ⟨shown, hshown, rfl⟩ := List.mem_map.1 hright
    exact apartOrClash_variable hfound hshown hspot

/-! ### The highlights of a text -/

theorem mem_highlights_iff :
    spot ∈ highlights text ↔
      (∃ found ∈ promptTagsOutsideCode text, spot ∈ found.highlights) ∨
      ∃ shown ∈ highlightedVariables text, spot = ⟨shown.span, .variable⟩ := by
  rw [highlights, List.mem_mergeSort, List.mem_append, List.mem_flatMap, List.mem_map]
  simp only [eq_comm]

theorem start_lt_stop_of_mem_highlights (h : spot ∈ highlights text) :
    spot.span.start < spot.span.stop := by
  rcases mem_highlights_iff.1 h with ⟨found, hfound, hspot⟩ | ⟨shown, hshown, rfl⟩
  · exact (inside_of_mem_promptTagsOutsideCode hfound hspot).2.1
  · exact start_lt_stop_of_mem_variableTags (mem_highlightedVariables_iff.1 hshown).1

/-- A highlight ends in front of every later one, but for a variable and the highlights of a tag
that starts in it. -/
theorem pairwise_stop_le_or_clashes (text : Text) :
    (highlights text).Pairwise fun left right =>
      left.span.stop ≤ right.span.start ∨ left.Clashes text right := by
  apply ((pairwise_apartOrClash text).and (pairwise_before_highlights text)).imp_of_mem
  rintro left right hleft hright ⟨hpair, hsorted⟩
  have hbefore := Highlight.before_iff.1 hsorted
  have hlength := start_lt_stop_of_mem_highlights hright
  rcases hpair with (hle | hle) | hclash | ⟨shown, found, hstarts, rfl, hspot⟩
  · exact Or.inl hle
  · exact Or.inl (by omega)
  · exact Or.inr hclash
  · -- The highlights of the tag stand behind the start of the variable.
    obtain ⟨hfound, -, hstart, -⟩ := startsIn_iff.1 hstarts
    have hinside := inside_of_mem_promptTagsOutsideCode hfound hspot
    simp only at hbefore
    omega

/-- A tag that starts in a variable shares the place of its opening with it. -/
theorem StartsIn.not_pairwise_apart (h : StartsIn text found shown) :
    ¬(highlights text).Pairwise Highlight.Apart := by
  intro hapart
  obtain ⟨hfound, hshown, hstart, hstop⟩ := startsIn_iff.1 h
  have hopening : (⟨⟨found.span.start, found.span.start + 2⟩, .bracket⟩ : Highlight) ∈
      highlights text := by
    refine mem_highlights_iff.2 (Or.inl ⟨found, hfound, ?_⟩)
    simp [TagOccurrence.highlights]
  have hcover : (⟨shown.span, .variable⟩ : Highlight) ∈ highlights text :=
    mem_highlights_iff.2 (Or.inr ⟨shown, hshown, rfl⟩)
  have hne : (⟨shown.span, .variable⟩ : Highlight) ≠
      ⟨⟨found.span.start, found.span.start + 2⟩, .bracket⟩ := by
    simp
  have hpair := hapart.forall hcover hopening hne
  simp only [Highlight.Apart] at hpair
  omega

/-- The highlights of a text are in order of their starts.  They are disjoint but for a variable
and the tags that start in its format, and disjoint altogether just when there is no such
variable. -/
theorem highlights_disjoint_iff (text : Text) :
    ((highlights text).Pairwise fun left right => left.span.start ≤ right.span.start) ∧
    ((highlights text).Pairwise fun left right => left.span.stop ≤ right.span.start ∨
      ∃ shown found, StartsIn text found shown ∧ left = ⟨shown.span, .variable⟩ ∧
        right ∈ found.highlights) ∧
    (((highlights text).Pairwise fun left right => left.span.stop ≤ right.span.start) ↔
      ¬∃ shown found, StartsIn text found shown) := by
  refine ⟨?_, pairwise_stop_le_or_clashes text, fun hdisjoint => ?_, fun hnone => ?_⟩
  · apply (pairwise_before_highlights text).imp
    intro left right hbefore
    have hbefore := Highlight.before_iff.1 hbefore
    omega
  · rintro ⟨shown, found, hstarts⟩
    exact hstarts.not_pairwise_apart (hdisjoint.imp Or.inl)
  · apply (pairwise_stop_le_or_clashes text).imp
    rintro left right (hle | ⟨shown, found, hstarts, -⟩)
    · exact hle
    · exact absurd ⟨shown, found, hstarts⟩ hnone

/-- A tag in the format of a variable is highlighted, and so is the whole variable. -/
theorem highlights_overlap_in_format :
    let text := "\x7b\x7bdate:\x7b% X %\x7d\x7d\x7d".toList
    ⟨⟨0, 15⟩, .variable⟩ ∈ highlights text ∧ ⟨⟨7, 9⟩, .bracket⟩ ∈ highlights text ∧
    ¬(highlights text).Pairwise fun left right => left.span.stop ≤ right.span.start := by
  intro text
  have hvariable : ⟨⟨0, 15⟩, ⟨"date".toList, some "\x7b% X %".toList⟩⟩ ∈
      highlightedVariables text := by decide +kernel
  have htag : ⟨⟨7, 14⟩, ⟨false, " X".toList, false⟩⟩ ∈ promptTagsOutsideCode text := by
    decide +kernel
  refine ⟨mem_highlights_iff.2 (Or.inr ⟨_, hvariable, rfl⟩),
    mem_highlights_iff.2 (Or.inl ⟨_, htag, by decide⟩), fun hdisjoint => ?_⟩
  have hstarts := startsIn_iff.2 ⟨htag, hvariable, by decide, by decide⟩
  exact hstarts.not_pairwise_apart (hdisjoint.imp Or.inl)

end NoteTemplate
