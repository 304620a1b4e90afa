import NoteTemplate.Proofs.Prompt.TagReading
import NoteTemplate.Proofs.Text.Leftmost
import NoteTemplate.Proofs.Text.Slice
import NoteTemplate.Proofs.Title.TagShape

/-!
# The grammar of prompt tags

Which tags a text has, and what they hold, is said here without the scanner.  A tag runs
from its opening to the first percent sign, which has to stand directly in front of a
closing brace.  Its inside is parted into an optional opening mark, the shortest content
that leaves an ending, and that ending.  The scanner finds exactly these tags
(`promptTags_eq_iff`).
-/

namespace NoteTemplate

variable {text content leftover : Text}

namespace PromptTag

variable {tag other : PromptTag} {inside : Text}

/-- What may stand behind the content: a closing mark or none, and then blanks. -/
inductive IsLeftover : Text → Prop where
  | unmarked {blanks : Text} (h : Text.isBlankText blanks = true) : IsLeftover blanks
  | marked {blanks : Text} (h : Text.isBlankText blanks = true) : IsLeftover ('?' :: blanks)

/-- What a tag leaves of its inside for the content and the ending. -/
def body (tag : PromptTag) (inside : Text) : Text :=
  if tag.hasOpenMark then inside.tail else inside

/-- How the inside of a tag is read. -/
structure IsReadingOf (tag : PromptTag) (inside : Text) : Prop where
  /-- A question mark in front is an opening mark, unless it is all there is. -/
  openMark_iff : tag.hasOpenMark = true ↔ inside.head? = some '?' ∧ 2 ≤ inside.length
  content_ne_nil : tag.content ≠ []
  exists_leftover : ∃ leftover, tag.body inside = tag.content ++ leftover ∧ IsLeftover leftover ∧
    (tag.hasCloseMark = true ↔ leftover.head? = some '?')
  shortest : ∀ content leftover, content ≠ [] → tag.body inside = content ++ leftover →
    IsLeftover leftover → tag.content.length ≤ content.length

/-! ### The content -/

theorem isEnding_iff_isLeftover : isEnding text = true ↔ IsLeftover text := by
  rw [isEnding_iff]
  constructor
  · rintro (h | ⟨blanks, rfl, h⟩)
    · exact .unmarked h
    · exact .marked h
  · rintro (h | h)
    · exact Or.inl h
    · exact Or.inr ⟨_, rfl, h⟩

theorem content_cutContent_ne_nil (hne : text ≠ []) : (cutContent text).1 ≠ [] := by
  cases text with
  | nil => exact absurd rfl hne
  | cons c rest =>
    rw [cutContent]
    split <;> simp

theorem isLeftover_cutContent (text : Text) : IsLeftover (cutContent text).2 := by
  induction text with
  | nil => exact .unmarked rfl
  | cons c rest ih =>
    rw [cutContent]
    split
    · next h => exact isEnding_iff_isLeftover.1 h
    · exact ih

/-- No shorter content leaves an ending. -/
theorem cutContent_shortest (hne : content ≠ []) (htext : text = content ++ leftover)
    (hleftover : IsLeftover leftover) : (cutContent text).1.length ≤ content.length := by
  induction text generalizing content with
  | nil => simp [cutContent]
  | cons c rest ih =>
    obtain ⟨first, more, rfl⟩ := List.exists_cons_of_ne_nil hne
    rw [List.cons_append, List.cons.injEq] at htext
    rw [cutContent]
    split
    · exact Nat.succ_le_succ (Nat.zero_le _)
    · next hnot =>
      apply Nat.succ_le_succ
      apply ih _ htext.2
      rintro rfl
      apply hnot
      rw [htext.2]
      exact isEnding_iff_isLeftover.2 hleftover

/-! ### The inside -/

theorem hasOpenMark_ofInside :
    (ofInside inside).hasOpenMark = true ↔ inside.head? = some '?' ∧ 2 ≤ inside.length := by
  simp [ofInside]

theorem content_ofInside (inside : Text) :
    (ofInside inside).content = (cutContent ((ofInside inside).body inside)).1 := by
  simp [ofInside, body]

theorem hasCloseMark_ofInside (inside : Text) :
    (ofInside inside).hasCloseMark = true ↔
      (cutContent ((ofInside inside).body inside)).2.head? = some '?' := by
  simp [ofInside, body]

/-- An opening mark leaves something behind it. -/
theorem body_ofInside_ne_nil (hne : inside ≠ []) : (ofInside inside).body inside ≠ [] := by
  rw [body]
  split
  · next hmark =>
    obtain ⟨-, hlength⟩ := hasOpenMark_ofInside.1 hmark
    apply List.ne_nil_of_length_pos
    rw [List.length_tail]
    omega
  · exact hne

theorem isReadingOf_ofInside (hne : inside ≠ []) : (ofInside inside).IsReadingOf inside where
  openMark_iff := hasOpenMark_ofInside
  content_ne_nil := by
    rw [content_ofInside]
    exact content_cutContent_ne_nil (body_ofInside_ne_nil hne)
  exists_leftover := by
    refine ⟨_, ?_, isLeftover_cutContent _, hasCloseMark_ofInside inside⟩
    rw [content_ofInside, cutContent_eq]
  shortest content leftover hcontent hbody hleftover := by
    rw [content_ofInside]
    exact cutContent_shortest hcontent hbody hleftover

/-- An inside is read in one way. -/
theorem IsReadingOf.eq (htag : tag.IsReadingOf inside) (hother : other.IsReadingOf inside) :
    tag = other := by
  have hopen : tag.hasOpenMark = other.hasOpenMark :=
    Bool.eq_iff_iff.2 (htag.openMark_iff.trans hother.openMark_iff.symm)
  have hbody : tag.body inside = other.body inside := by rw [body, body, hopen]
  obtain ⟨leftover, hcut, hleftover, hclose⟩ := htag.exists_leftover
  obtain ⟨otherLeftover, hotherCut, hotherLeftover, hotherClose⟩ := hother.exists_leftover
  have hlength : tag.content.length = other.content.length := by
    apply Nat.le_antisymm
    · exact htag.shortest _ _ hother.content_ne_nil (hbody.trans hotherCut) hotherLeftover
    · exact hother.shortest _ _ htag.content_ne_nil (hbody.symm.trans hcut) hleftover
  have hparts : tag.content ++ leftover = other.content ++ otherLeftover :=
    hcut.symm.trans (hbody.trans hotherCut)
  obtain ⟨hcontent, rfl⟩ := List.append_inj hparts hlength
  have hmark : tag.hasCloseMark = other.hasCloseMark :=
    Bool.eq_iff_iff.2 (hclose.trans hotherClose.symm)
  cases tag
  cases other
  simp_all

theorem isReadingOf_iff (hne : inside ≠ []) :
    tag.IsReadingOf inside ↔ tag = ofInside inside := by
  constructor
  · intro h
    exact h.eq (isReadingOf_ofInside hne)
  · rintro rfl
    exact isReadingOf_ofInside hne

end PromptTag

/-! ### Tags in their places -/

namespace TagOccurrence

variable {found : TagOccurrence}

/-- What stands between the delimiters of a tag. -/
def inside (text : Text) (found : TagOccurrence) : Text :=
  Text.slice text (found.span.start + 2) (found.span.stop - 2)

/-- The text has the tag in its place. -/
structure StandsIn (text : Text) (found : TagOccurrence) : Prop where
  /-- Between the delimiters is at least one character. -/
  start_add_le_stop : found.span.start + 5 ≤ found.span.stop
  opened : Text.slice text found.span.start (found.span.start + 2) = ['\x7b', '%']
  /-- The first percent sign behind the opening is that of the closing. -/
  percent_notMem : '%' ∉ found.inside text
  closed : Text.slice text (found.span.stop - 2) found.span.stop = ['%', '\x7d']
  reading : found.value.IsReadingOf (found.inside text)

/-- Where the marks and the content of a tag stand: the content follows the opening mark or
the opening, and the closing mark follows the content. -/
structure HasPlaces (text : Text) (found : TagOccurrence) : Prop where
  openMark_isSome : found.openMark?.isSome = found.value.hasOpenMark
  openMark : ∀ mark, found.openMark? = some mark → mark.of text = ['?'] ∧
    mark = ⟨found.span.start + 2, found.span.start + 3⟩ ∧
    found.contentStart = found.span.start + 3
  contentStart : found.openMark? = none → found.contentStart = found.span.start + 2
  content : Text.slice text found.contentStart
    (found.contentStart + found.value.content.length) = found.value.content
  closeMark_isSome : found.closeMark?.isSome = found.value.hasCloseMark
  closeMark : ∀ mark, found.closeMark? = some mark → mark.of text = ['?'] ∧
    mark.start = found.contentStart + found.value.content.length ∧ mark.stop = mark.start + 1
  isOptional_iff : found.value.isOptional = true ↔
    found.openMark?.isSome = true ∧ found.closeMark?.isSome = true

/-- A tag is recognised where it is written, and nowhere else. -/
theorem isRecognised_iff :
    Occurrence.IsRecognised PromptTag.recognise text found ↔
      ∃ inside, inside ≠ [] ∧ '%' ∉ inside ∧
        PromptTag.source inside <+: text.drop found.span.start ∧
        found.span.stop = found.span.start + (inside.length + 4) ∧
        found.value = PromptTag.ofInside inside := by
  have hlength (inside : Text) : (PromptTag.source inside).length = inside.length + 4 := by
    simp [PromptTag.source]
  constructor
  · rintro ⟨-, horder, hfound⟩
    obtain ⟨inside, rest, hdrop, hne, hpercent, hvalue, hstop⟩ := PromptTag.recognise_iff.1 hfound
    refine ⟨inside, hne, hpercent, ⟨rest, hdrop.symm⟩, ?_, hvalue⟩
    rw [← hlength, ← hstop, Nat.add_sub_cancel' horder]
  · rintro ⟨inside, hne, hpercent, hsource, hstop, hvalue⟩
    have hinText := Text.length_le_of_prefix_drop hsource (by simp [PromptTag.source])
    rw [hlength] at hinText
    obtain ⟨rest, hrest⟩ := hsource
    refine ⟨by omega, by omega, PromptTag.recognise_iff.2 ?_⟩
    refine ⟨inside, rest, hrest.symm, hne, hpercent, hvalue, ?_⟩
    rw [hlength, hstop, Nat.add_sub_cancel_left]

theorem source_prefix_iff {inside : Text} {start : Nat} :
    PromptTag.source inside <+: text.drop start ↔
      ['\x7b', '%'] <+: text.drop start ∧ inside <+: text.drop (start + 2) ∧
        ['%', '\x7d'] <+: text.drop (start + 2 + inside.length) := by
  have hsource : PromptTag.source inside = ['\x7b', '%'] ++ (inside ++ ['%', '\x7d']) := by
    simp [PromptTag.source]
  rw [hsource, Text.append_prefix_drop_iff, Text.append_prefix_drop_iff]
  rfl

/-- The inside fills the tag up to the delimiters. -/
theorem StandsIn.length_inside (h : found.StandsIn text) :
    found.span.start + 2 + (found.inside text).length = found.span.stop - 2 := by
  have horder := h.start_add_le_stop
  have hclosed := congrArg List.length h.closed
  simp only [Text.slice, List.length_take, List.length_drop, List.length_cons,
    List.length_nil] at hclosed
  rw [inside, Text.length_slice (by omega)]
  omega

theorem standsIn_iff :
    found.StandsIn text ↔ Occurrence.IsRecognised PromptTag.recognise text found := by
  rw [isRecognised_iff]
  constructor
  · intro h
    have horder := h.start_add_le_stop
    have hstop := h.length_inside
    refine ⟨found.inside text, ?_, h.percent_notMem, ?_, by omega, ?_⟩
    · apply List.ne_nil_of_length_pos
      omega
    · rw [source_prefix_iff, hstop, ← h.opened, ← h.closed]
      exact ⟨Text.slice_prefix_drop _ _ _, Text.slice_prefix_drop _ _ _,
        Text.slice_prefix_drop _ _ _⟩
    · apply (PromptTag.isReadingOf_iff _).1 h.reading
      apply List.ne_nil_of_length_pos
      omega
  · rintro ⟨inside, hne, hpercent, hsource, hstop, hvalue⟩
    obtain ⟨hopened, hinside, hclosed⟩ := source_prefix_iff.1 hsource
    have hpos := List.length_pos_iff.2 hne
    have hlast : found.span.stop - 2 = found.span.start + 2 + inside.length := by omega
    have heq : found.inside text = inside := by
      rw [TagOccurrence.inside, hlast]
      exact Text.slice_eq_of_prefix_drop hinside
    refine ⟨by omega, Text.slice_eq_of_prefix_drop hopened, heq ▸ hpercent, ?_, ?_⟩
    · have hclosing := Text.slice_eq_of_prefix_drop hclosed
      have hlength : found.span.start + 2 + inside.length + ['%', '\x7d'].length =
          found.span.stop := by
        rw [hstop]
        simp only [List.length_cons, List.length_nil]
        omega
      rwa [hlength, ← hlast] at hclosing
    · rw [heq, hvalue]
      exact PromptTag.isReadingOf_ofInside hne

/-! ### The marks and the content in their places -/

theorem openMark?_isSome : found.openMark?.isSome = found.value.hasOpenMark := by
  cases hmark : found.value.hasOpenMark <;> simp [openMark?, hmark]

theorem closeMark?_isSome : found.closeMark?.isSome = found.value.hasCloseMark := by
  cases hmark : found.value.hasCloseMark <;> simp [closeMark?, hmark]

theorem inside_isAt (text : Text) (found : TagOccurrence) :
    found.inside text <+: text.drop (found.span.start + 2) :=
  Text.slice_prefix_drop _ _ _

/-- An opening mark is the first character of the inside. -/
theorem inside_of_openMark (h : found.value.IsReadingOf (found.inside text))
    (hmark : found.value.hasOpenMark = true) :
    found.inside text = '?' :: found.value.body (found.inside text) := by
  obtain ⟨hhead, -⟩ := h.openMark_iff.1 hmark
  obtain ⟨rest, hrest⟩ := List.head?_eq_some_iff.1 hhead
  rw [PromptTag.body, if_pos hmark, hrest, List.tail_cons]

theorem body_isAt (h : found.value.IsReadingOf (found.inside text)) :
    found.value.body (found.inside text) <+: text.drop found.contentStart := by
  have hinside := inside_isAt text found
  by_cases hmark : found.value.hasOpenMark = true
  · rw [inside_of_openMark h hmark, ← List.singleton_append,
      Text.append_prefix_drop_iff] at hinside
    rw [TagOccurrence.contentStart, if_pos hmark]
    exact hinside.2
  · rw [TagOccurrence.contentStart, if_neg hmark, PromptTag.body, if_neg hmark]
    exact hinside

namespace StandsIn

theorem of_openMark (h : found.StandsIn text) {mark : Span Nat}
    (hmark : found.openMark? = some mark) : mark.of text = ['?'] ∧
      mark = ⟨found.span.start + 2, found.span.start + 3⟩ ∧
      found.contentStart = found.span.start + 3 := by
  have hopen : found.value.hasOpenMark = true := by
    rw [← openMark?_isSome, hmark, Option.isSome_some]
  rw [openMark?, if_pos hopen, Option.some.injEq] at hmark
  subst hmark
  have hinside := inside_isAt text found
  rw [inside_of_openMark h.reading hopen, ← List.singleton_append,
    Text.append_prefix_drop_iff] at hinside
  refine ⟨Text.slice_eq_of_prefix_drop hinside.1, rfl, ?_⟩
  rw [TagOccurrence.contentStart, if_pos hopen]

theorem content_isAt (h : found.StandsIn text) :
    found.value.content <+: text.drop found.contentStart := by
  obtain ⟨leftover, hcut, -, -⟩ := h.reading.exists_leftover
  have hbody := body_isAt h.reading
  rw [hcut, Text.append_prefix_drop_iff] at hbody
  exact hbody.1

theorem of_closeMark (h : found.StandsIn text) {mark : Span Nat}
    (hmark : found.closeMark? = some mark) : mark.of text = ['?'] ∧
      mark.start = found.contentStart + found.value.content.length ∧
      mark.stop = mark.start + 1 := by
  have hclosed : found.value.hasCloseMark = true := by
    rw [← closeMark?_isSome, hmark, Option.isSome_some]
  rw [closeMark?, if_pos hclosed, Option.some.injEq] at hmark
  subst hmark
  obtain ⟨leftover, hcut, -, hclose⟩ := h.reading.exists_leftover
  obtain ⟨rest, rfl⟩ := List.head?_eq_some_iff.1 (hclose.1 hclosed)
  have hbody := body_isAt h.reading
  rw [hcut, Text.append_prefix_drop_iff, ← List.singleton_append,
    Text.append_prefix_drop_iff] at hbody
  exact ⟨Text.slice_eq_of_prefix_drop hbody.2.1, rfl, rfl⟩

theorem hasPlaces (h : found.StandsIn text) : found.HasPlaces text where
  openMark_isSome := openMark?_isSome
  openMark _ hmark := h.of_openMark hmark
  contentStart hnone := by
    have hopen : found.openMark?.isSome = found.value.hasOpenMark := openMark?_isSome
    rw [hnone, Option.isSome_none] at hopen
    rw [TagOccurrence.contentStart, ← hopen, if_neg Bool.false_ne_true]
  content := Text.slice_eq_of_prefix_drop h.content_isAt
  closeMark_isSome := closeMark?_isSome
  closeMark _ hmark := h.of_closeMark hmark
  isOptional_iff := by
    rw [PromptTag.isOptional, Bool.and_eq_true, openMark?_isSome, closeMark?_isSome]

end StandsIn

end TagOccurrence

theorem isScan_promptTags (text : Text) :
    IsScan (TagOccurrence.StandsIn text) (promptTags text) := by
  have hstands : TagOccurrence.StandsIn text =
      Occurrence.IsRecognised PromptTag.recognise text :=
    funext fun _ => propext TagOccurrence.standsIn_iff
  rw [hstands]
  exact isScan_occurrences PromptTag.recognise_pos text

theorem standsIn_of_mem_promptTags {found : TagOccurrence} (h : found ∈ promptTags text) :
    found.StandsIn text :=
  (((isScan_promptTags text).mem_iff found).1 h).1

/-- The scanner lists the tags of a text from left to right: all of them, but for those that
start inside an earlier one that is listed.  Their marks and contents stand where it says. -/
theorem promptTags_eq_iff (text : Text) (listed : List TagOccurrence) :
    (promptTags text = listed ↔ IsScan (TagOccurrence.StandsIn text) listed) ∧
      ∀ found ∈ promptTags text, found.HasPlaces text := by
  refine ⟨⟨?_, fun hlisted => ?_⟩, fun found hfound => ?_⟩
  · rintro rfl
    exact isScan_promptTags text
  · apply (isScan_promptTags text).eq hlisted
    intro found hfound
    have horder := hfound.start_add_le_stop
    omega
  · exact (standsIn_of_mem_promptTags hfound).hasPlaces

end NoteTemplate
