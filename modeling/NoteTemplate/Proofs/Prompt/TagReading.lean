import NoteTemplate.Prompt.Writing
import NoteTemplate.Proofs.Text.Scan
import NoteTemplate.Proofs.Text.Trim

/-!
# Reading a written tag

A tag that was written around a content is found as the only tag of its text.  The
blanks that the writer puts around the content keep the optional marks apart from it:
only a required tag whose content ends in a question mark loses that mark.
-/

namespace NoteTemplate

namespace PromptTag

variable {front blanks content inside : Text}

theorem not_isBlank_questionMark : isBlank '?' = false := by decide

theorem isEnding_iff {text : Text} :
    isEnding text = true ↔
      Text.isBlankText text = true ∨
        ∃ rest, text = '?' :: rest ∧ Text.isBlankText rest = true := by
  unfold isEnding
  split
  · next rest => simp [Text.isBlankText, not_isBlank_questionMark]
  · next hne =>
    constructor
    · exact Or.inl
    · rintro (h | ⟨rest, rfl, -⟩)
      · exact h
      · exact absurd rfl (hne rest)

/-- The content and the ending are all there is. -/
theorem cutContent_eq (text : Text) : (cutContent text).1 ++ (cutContent text).2 = text := by
  induction text with
  | nil => rfl
  | cons c rest ih =>
    rw [cutContent]
    split
    · rfl
    · exact congrArg (c :: ·) ih

/-- The content is the shortest text in front of an ending. -/
theorem cutContent_append {ending : Text} (hne : front ≠ []) (hending : isEnding ending = true)
    (hshort : ∀ c rest, (c :: rest) <:+ front.tail → isEnding (c :: rest ++ ending) = false) :
    cutContent (front ++ ending) = (front, ending) := by
  induction front with
  | nil => exact absurd rfl hne
  | cons c rest ih =>
    cases rest with
    | nil => simp [cutContent, hending]
    | cons d more =>
      have hnot := hshort d more List.suffix_rfl
      simp only [List.cons_append] at hnot ih ⊢
      rw [cutContent, hnot, ih (by simp)]
      · simp
      · intro e tail htail
        exact hshort e tail (htail.trans (List.suffix_cons d more))

/-- A question mark in front of blanks is a closing mark. -/
theorem cutContent_of_mark (front : Text) (hne : front ≠ [])
    (hblanks : Text.isBlankText blanks = true) :
    cutContent (front ++ '?' :: blanks) = (front, '?' :: blanks) := by
  apply cutContent_append hne (isEnding_iff.2 (Or.inr ⟨blanks, rfl, hblanks⟩))
  intro c rest _
  rw [Bool.eq_false_iff, ne_eq, isEnding_iff]
  rintro (h | ⟨tail, htail, h⟩)
  · simp [Text.isBlankText, not_isBlank_questionMark] at h
  · obtain ⟨-, rfl⟩ := by simpa using htail
    simp [Text.isBlankText, not_isBlank_questionMark] at h

/-- Without a question mark in front of them, blanks at the end are no content. -/
theorem cutContent_of_blanks (hblanks : Text.isBlankText blanks = true) (hne : front ≠ [])
    (hlast : isBlank (front.getLast hne) = false) (hmark : front.getLast hne ≠ '?') :
    cutContent (front ++ blanks) = (front, blanks) := by
  apply cutContent_append hne (isEnding_iff.2 (Or.inl hblanks))
  intro c rest hsuffix
  have hmem : front.getLast hne ∈ c :: rest := by
    have hsuffix' : (c :: rest) <:+ front := hsuffix.trans (List.tail_suffix front)
    rw [← hsuffix'.getLast (by simp)]
    exact List.getLast_mem _
  rw [Bool.eq_false_iff, ne_eq, isEnding_iff]
  rintro (h | ⟨tail, htail, h⟩)
  · have hblank := List.all_eq_true.1 h _ (List.mem_append_left _ hmem)
    rw [hlast] at hblank
    exact absurd hblank (by simp)
  · simp only [List.cons_append, List.cons.injEq] at htail
    obtain ⟨rfl, rfl⟩ := htail
    rcases List.mem_cons.1 hmem with heq | hmem
    · exact hmark heq
    · have hblank := List.all_eq_true.1 h _ (List.mem_append_left _ hmem)
      rw [hlast] at hblank
      exact absurd hblank (by simp)

theorem recognise_of_inside (hpercent : '%' ∉ inside) (hne : inside ≠ []) :
    recognise ('\x7b' :: '%' :: inside ++ ['%', '\x7d']) =
      some (inside.length + 4, ofInside inside) := by
  have htake : (inside ++ ['%', '\x7d']).takeWhile (· ≠ '%') = inside := by
    rw [List.takeWhile_append_of_pos]
    · simp
    · intro c hc
      have hc' : c ≠ '%' := by rintro rfl; exact hpercent hc
      simpa using hc'
  simp only [List.cons_append, recognise, htake]
  simp [hne]

end PromptTag

/-- Between two delimiters stands one tag. -/
theorem promptTags_of_inside {inside : Text} (hpercent : '%' ∉ inside) (hne : inside ≠ []) :
    promptTags ('\x7b' :: '%' :: inside ++ ['%', '\x7d']) =
      [⟨⟨0, inside.length + 4⟩, PromptTag.ofInside inside⟩] := by
  have hlength : ('\x7b' :: '%' :: inside ++ ['%', '\x7d']).length = inside.length + 4 := by
    simp
  have h := PromptTag.recognise_of_inside hpercent hne
  rw [← hlength] at h ⊢
  exact occurrences_of_whole (by simp) h

/-! ### Written tags -/

namespace PromptTag

/-- The closing mark of an optional tag is the one that was written. -/
theorem ofInside_optional (content : Text) :
    ofInside ('?' :: ' ' :: content ++ [' ', '?']) = ⟨true, ' ' :: content ++ [' '], true⟩ := by
  have hblanks : Text.isBlankText [] = true := rfl
  have hcut := cutContent_of_mark (' ' :: content ++ [' ']) (by simp) hblanks
  simp only [List.cons_append, List.append_assoc, List.nil_append] at hcut
  simp [ofInside, hcut]

theorem ofInside_required {content : Text} (hne : content ≠ [])
    (hblank : isBlank (content.getLast hne) = false) (hmark : content.getLast hne ≠ '?') :
    ofInside (' ' :: content ++ [' ']) = ⟨false, ' ' :: content, false⟩ := by
  have hblanks : Text.isBlankText [' '] = true := by decide
  have hlast : (' ' :: content).getLast (by simp) = content.getLast hne := List.getLast_cons hne
  have hcut := cutContent_of_blanks hblanks (by simp) (hlast ▸ hblank) (hlast ▸ hmark)
  simp only [List.cons_append] at hcut
  simp [ofInside, hcut]

/-- The last question mark of a required content is read as a closing mark. -/
theorem ofInside_required_of_mark (body : Text) :
    ofInside (' ' :: (body ++ ['?']) ++ [' ']) = ⟨false, ' ' :: body, true⟩ := by
  have hblanks : Text.isBlankText [' '] = true := by decide
  have hcut := cutContent_of_mark (' ' :: body) (by simp) hblanks
  simp only [List.cons_append] at hcut
  simp [ofInside, hcut]

end PromptTag

theorem promptTags_writeTag_optional (hpercent : '%' ∉ content) :
    promptTags (writeTag content true) =
      [⟨⟨0, content.length + 8⟩, ⟨true, ' ' :: content ++ [' '], true⟩⟩] := by
  have hinside : '%' ∉ '?' :: ' ' :: content ++ [' ', '?'] := by simp [hpercent]
  have htags := promptTags_of_inside hinside (by simp)
  rw [PromptTag.ofInside_optional] at htags
  simpa [writeTag] using htags

theorem promptTags_writeTag_required (hpercent : '%' ∉ content) (hne : content ≠ [])
    (hblank : isBlank (content.getLast hne) = false) (hmark : content.getLast hne ≠ '?') :
    promptTags (writeTag content false) =
      [⟨⟨0, content.length + 6⟩, ⟨false, ' ' :: content, false⟩⟩] := by
  have hinside : '%' ∉ ' ' :: content ++ [' '] := by simp [hpercent]
  have htags := promptTags_of_inside hinside (by simp)
  rw [PromptTag.ofInside_required hne hblank hmark] at htags
  simpa [writeTag] using htags

theorem promptTags_writeTag_of_mark {body : Text} (hpercent : '%' ∉ body) :
    promptTags (writeTag (body ++ ['?']) false) =
      [⟨⟨0, body.length + 7⟩, ⟨false, ' ' :: body, true⟩⟩] := by
  have hinside : '%' ∉ ' ' :: (body ++ ['?']) ++ [' '] := by simp [hpercent]
  have htags := promptTags_of_inside hinside (by simp)
  rw [PromptTag.ofInside_required_of_mark] at htags
  simpa [writeTag] using htags

end NoteTemplate
