import NoteTemplate.Proofs.Text.Leftmost
import NoteTemplate.Proofs.Title.Chosen

/-!
# Which tags count

The tags that count are described without the walk that finds them: none overlaps another
one, and a tag that does not count starts inside one that does.  There is just one such
choice (`IsChoice.eq`), and it is the one that is shown (`isChoice_chosenTitleTags`).
-/

namespace NoteTemplate

variable {α : Type} {pattern : Text} {withPrompts : Bool} {tag other : Occurrence TitleTag}
  {chosen left right : List (Occurrence TitleTag)}

/-- The tags of a pattern that count. -/
structure IsChoice (pattern : Text) (withPrompts : Bool) (chosen : List (Occurrence TitleTag)) :
    Prop where
  isTag : ∀ tag ∈ chosen, tag ∈ titleTags pattern withPrompts
  disjoint : chosen.Pairwise fun left right => left.span.stop ≤ right.span.start
  /-- What does not count overlaps something that counts and starts earlier. -/
  skipped : ∀ tag ∈ titleTags pattern withPrompts, tag ∈ chosen ∨
    ∃ earlier ∈ chosen, earlier.span.start < tag.span.start ∧ tag.span.start < earlier.span.stop

/-! ### The walk takes what it can -/

theorem ArePlaced.pairwise {tags : List (Occurrence α)} {pos : Nat} (h : ArePlaced pos tags) :
    tags.Pairwise fun left right => left.span.stop ≤ right.span.start := by
  induction tags generalizing pos with
  | nil => exact List.Pairwise.nil
  | cons first tags ih =>
    obtain ⟨-, -, htags⟩ := h
    exact List.pairwise_cons.2 ⟨fun found hfound => htags.le_start hfound, ih htags⟩

theorem mem_disjointFrom_or {tags : List (Occurrence α)} {found : Occurrence α}
    (hsorted : tags.Pairwise fun left right => left.span.start ≤ right.span.start)
    (hmem : found ∈ tags) (pos : Nat) :
    found ∈ disjointFrom pos tags ∨ found.span.start < pos ∨
      ∃ earlier ∈ disjointFrom pos tags, earlier.span.start ≤ found.span.start ∧
        found.span.start < earlier.span.stop := by
  induction tags generalizing pos with
  | nil => simp at hmem
  | cons first tags ih =>
    obtain ⟨hfirst, hsorted⟩ := List.pairwise_cons.1 hsorted
    rw [disjointFrom]
    split
    · next hpos =>
      rcases List.mem_cons.1 hmem with rfl | hmem
      · exact Or.inr (Or.inl hpos)
      · exact ih hsorted hmem pos
    · rcases List.mem_cons.1 hmem with rfl | hmem
      · exact Or.inl List.mem_cons_self
      · have hstart := hfirst found hmem
        rcases ih hsorted hmem first.span.stop with h | h | ⟨earlier, hearlier, h⟩
        · exact Or.inl (List.mem_cons_of_mem _ h)
        · exact Or.inr (Or.inr ⟨first, List.mem_cons_self, hstart, h⟩)
        · exact Or.inr (Or.inr ⟨earlier, List.mem_cons_of_mem _ hearlier, h⟩)

/-! ### Tags that start at one place are equal -/

theorem eq_of_start_eq_occurrences {recognise : Recogniser α} {text : Text}
    {found other : Occurrence α} (hfound : found ∈ occurrences recognise text)
    (hother : other ∈ occurrences recognise text) (h : found.span.start = other.span.start) :
    found = other := by
  obtain ⟨-, horder, hvalue⟩ := recognise_of_mem_occurrences hfound
  obtain ⟨-, hotherOrder, hotherValue⟩ := recognise_of_mem_occurrences hother
  obtain ⟨⟨start, stop⟩, value⟩ := found
  obtain ⟨⟨start', stop'⟩, value'⟩ := other
  obtain rfl : start = start' := h
  rw [hvalue] at hotherValue
  obtain ⟨hlength, rfl⟩ := by simpa using hotherValue
  dsimp only at horder hotherOrder
  obtain rfl : stop = stop' := by omega
  rfl

/-- A variable tag and a prompt tag differ in their second characters. -/
theorem eq_of_start_eq_titleTags (htag : tag ∈ titleTags pattern withPrompts)
    (hother : other ∈ titleTags pattern withPrompts) (h : tag.span.start = other.span.start) :
    tag = other := by
  have hdiffer {found : Occurrence VariableTag} {asked : TagOccurrence}
      (hfound : found ∈ variableTags pattern) (hasked : asked ∈ promptTags pattern) :
      found.span.start ≠ asked.span.start := by
    intro hstart
    have hvariable := (isFenced_of_mem_variableTags hfound).second
    have hprompt := (isFenced_of_mem_promptTags hasked).second
    rw [hstart, hprompt] at hvariable
    simp at hvariable
  rcases mem_titleTags_iff.1 htag with ⟨found, hfound, rfl⟩ | ⟨-, found, hfound, rfl⟩ <;>
    rcases mem_titleTags_iff.1 hother with ⟨asked, hasked, rfl⟩ | ⟨-, asked, hasked, rfl⟩
  · rw [eq_of_start_eq_occurrences hfound hasked h]
  · exact absurd h (hdiffer hfound hasked)
  · exact absurd h.symm (hdiffer hasked hfound)
  · rw [eq_of_start_eq_occurrences hfound hasked h]

theorem isChoice_chosenTitleTags (pattern : Text) (withPrompts : Bool) :
    IsChoice pattern withPrompts (chosenTitleTags pattern withPrompts) where
  isTag _ htag := mem_titleTags_of_mem_chosen htag
  disjoint := (arePlaced_chosenTitleTags pattern withPrompts).pairwise
  skipped tag htag := by
    have hwalk := mem_disjointFrom_or (pairwise_titleTags pattern withPrompts) htag 0
    rcases hwalk with h | h | ⟨earlier, hearlier, hstart, hstop⟩
    · exact Or.inl h
    · omega
    · rcases Nat.eq_or_lt_of_le hstart with heq | hlt
      · have hearlierTag := mem_titleTags_of_mem_chosen hearlier
        rw [← eq_of_start_eq_titleTags hearlierTag htag heq]
        exact Or.inl hearlier
      · exact Or.inr ⟨earlier, hearlier, hlt, hstop⟩

/-! ### There is one choice -/

namespace IsChoice

/-- A choice lists what a scan of the tags would list. -/
theorem isScan (h : IsChoice pattern withPrompts chosen) :
    IsScan (· ∈ titleTags pattern withPrompts) chosen where
  ordered := h.disjoint
  mem_iff tag := by
    constructor
    · intro htag
      refine ⟨h.isTag tag htag, fun earlier hearlier hlt => ?_⟩
      have hlength := start_lt_stop_of_mem_titleTags (h.isTag tag htag)
      rcases eq_or_apart_of_ordered h.disjoint hearlier htag with rfl | hle | hle
      · exact absurd hlt (Nat.lt_irrefl _)
      · exact hle
      · omega
    · intro ⟨htag, hfree⟩
      rcases h.skipped tag htag with hmem | ⟨earlier, hearlier, hlt, hreach⟩
      · exact hmem
      · exact absurd (hfree earlier hearlier hlt) (Nat.not_le.2 hreach)

theorem eq (hleft : IsChoice pattern withPrompts left)
    (hright : IsChoice pattern withPrompts right) : left = right :=
  hleft.isScan.eq hright.isScan fun _ htag => start_lt_stop_of_mem_titleTags htag

end IsChoice

end NoteTemplate
