import NoteTemplate.Proofs.Editor.Painting
import NoteTemplate.Proofs.Markdown.Lookup
import NoteTemplate.Proofs.Prompt.Grammar

/-!
# The highlights of a tag

The highlights of a tag are those of its delimiters, its marks and its content, so they paint
the tag.  Tags do not overlap, so these are also the highlights that meet the tag among all
highlights of a text, the variables apart.
-/

namespace NoteTemplate

variable {text : Text} {found other : TagOccurrence}

/-! ### Painting a tag -/

namespace TagOccurrence

/-- Between the opening and the content stands the opening mark, if anything. -/
theorem paints_openMark (text : Text) (found : TagOccurrence) :
    Paints text (found.span.start + 2) found.contentStart
      (found.openMark?.toList.map (⟨·, .mark⟩)) := by
  rw [openMark?, contentStart]
  split
  · exact paints_singleton text .mark (Nat.lt_succ_self _)
  · exact (isBlankIn_self text _).paints_nil (Nat.le_refl _)

/-- The content and what it leaves fill the tag up to its closing. -/
theorem StandsIn.length_body (h : found.StandsIn text) :
    found.contentStart + (found.value.body (found.inside text)).length =
      found.span.stop - 2 := by
  have hlength := h.length_inside
  by_cases hmark : found.value.hasOpenMark = true
  · rw [inside_of_openMark h.reading hmark, List.length_cons] at hlength
    rw [contentStart, if_pos hmark]
    omega
  · rw [contentStart, if_neg hmark, PromptTag.body, if_neg hmark]
    exact hlength

/-- Between the content and the closing stands the closing mark, if anything, and blanks. -/
theorem StandsIn.paints_closeMark (h : found.StandsIn text) :
    Paints text (found.contentStart + found.value.content.length) (found.span.stop - 2)
      (found.closeMark?.toList.map (⟨·, .mark⟩)) := by
  obtain ⟨leftover, hcut, hleftover, hclose⟩ := h.reading.exists_leftover
  have hat := body_isAt h.reading
  have hstop := h.length_body
  rw [hcut, List.length_append, ← Nat.add_assoc] at hstop
  rw [hcut, Text.append_prefix_drop_iff] at hat
  rw [← hstop, closeMark?]
  cases hleftover with
  | unmarked hblank =>
    have hnone : ¬found.value.hasCloseMark = true := by
      intro hmark
      have hmem := List.mem_of_mem_head? (hclose.1 hmark)
      have hquestion := List.all_eq_true.1 hblank '?' hmem
      rw [PromptTag.not_isBlank_questionMark] at hquestion
      cases hquestion
    rw [if_neg hnone]
    exact (isBlankIn_of_prefix_drop hat.2 hblank).paints_nil (Nat.le_add_right _ _)
  | @marked blanks hblank =>
    rw [if_pos (hclose.2 rfl), List.length_cons, Nat.add_comm blanks.length, ← Nat.add_assoc]
    obtain ⟨-, hmarked⟩ := hat
    rw [← List.singleton_append, Text.append_prefix_drop_iff, List.length_singleton] at hmarked
    have hbehind := (isBlankIn_of_prefix_drop hmarked.2 hblank).paints_nil (Nat.le_add_right _ _)
    exact (paints_singleton text .mark (Nat.lt_succ_self _)).append hbehind

/-- The highlights of a tag paint it from its opening to its closing. -/
theorem StandsIn.paints (h : found.StandsIn text) :
    Paints text found.span.start found.span.stop found.highlights := by
  have hlength := h.start_add_le_stop
  have hcontent := (PromptContent.splits_ofText found.value.content).paints.map_shift
    h.content_isAt (Nat.le_refl _)
  rw [Nat.zero_add, Nat.add_comm] at hcontent
  have hopening : Paints text found.span.start (found.span.start + 2) _ :=
    paints_singleton text .bracket (by omega)
  have hclosing : Paints text (found.span.stop - 2) found.span.stop _ :=
    paints_singleton text .bracket (by omega)
  have hpaints := hopening.append ((paints_openMark text found).append
    (hcontent.append (h.paints_closeMark.append hclosing)))
  apply hpaints.perm
  -- The highlights of the content are listed behind those of the marks and the delimiters.
  rw [highlights, List.append_assoc, List.cons_append, List.cons_append, List.nil_append]
  apply List.Perm.cons
  apply List.Perm.append_left
  apply List.perm_append_comm.trans
  rw [List.append_assoc, List.singleton_append]

end TagOccurrence

/-! ### Highlights of tags are not those of variables -/

variable {spot : Highlight}

theorem kind_of_mem_segment {kind : HighlightKind} {segment : Segment}
    (h : spot ∈ Highlight.segment kind segment) : spot.kind = kind := by
  rw [Highlight.segment] at h
  split at h
  · exact absurd h List.not_mem_nil
  · rw [List.mem_singleton.1 h]

theorem kind_formatPart_ne_variable (part : FormatPart Nat) :
    (Highlight.formatPart part).kind ≠ .variable := by
  rw [Highlight.formatPart]
  cases part.piece.isToken <;> simp

theorem Detail.kind_ne_variable {valueType : Option ValueType} {detail : Segment}
    {reading : Detail} (h : spot ∈ reading.highlights valueType detail) :
    spot.kind ≠ .variable := by
  cases reading with
  | whole =>
    rw [kind_of_mem_segment h]
    decide
  | items split =>
    rcases List.mem_append.1 h with h | h
    · obtain ⟨item, -, hitem⟩ := List.mem_flatMap.1 h
      rw [kind_of_mem_segment hitem]
      split <;> decide
    · obtain ⟨comma, -, rfl⟩ := List.mem_map.1 h
      exact HighlightKind.noConfusion
  | custom opening format closing =>
    rcases List.mem_append.1 h with h | h
    · rcases List.mem_cons.1 h with rfl | h
      · exact HighlightKind.noConfusion
      · obtain ⟨part, -, rfl⟩ := List.mem_map.1 h
        exact kind_formatPart_ne_variable part
    · rw [List.mem_singleton.1 h]
      exact HighlightKind.noConfusion

theorem PromptContent.kind_ne_variable {content : PromptContent} (h : spot ∈ content.highlights) :
    spot.kind ≠ .variable := by
  rcases List.mem_append.1 h with h | h
  · rcases List.mem_append.1 h with h | h
    · rcases List.mem_append.1 h with h | h
      · rw [kind_of_mem_segment h]
        decide
      · obtain ⟨colon, -, rfl⟩ := List.mem_map.1 h
        exact HighlightKind.noConfusion
    · obtain ⟨type, -, htype⟩ := List.mem_flatMap.1 h
      rw [kind_of_mem_segment htype]
      decide
  · split at h
    · exact Detail.kind_ne_variable h
    · exact absurd h List.not_mem_nil

theorem TagOccurrence.kind_ne_variable (h : spot ∈ found.highlights) : spot.kind ≠ .variable := by
  rcases List.mem_append.1 h with h | h
  · rcases List.mem_append.1 h with h | h
    · rcases List.mem_cons.1 h with rfl | h
      · exact HighlightKind.noConfusion
      · obtain ⟨mark, -, rfl⟩ := List.mem_map.1 h
        exact HighlightKind.noConfusion
    · obtain ⟨mark, -, rfl⟩ := List.mem_map.1 h
      exact HighlightKind.noConfusion
  · rcases List.mem_cons.1 h with rfl | h
    · exact HighlightKind.noConfusion
    · obtain ⟨inner, hinner, rfl⟩ := List.mem_map.1 h
      have hkind : inner.kind ≠ .variable := PromptContent.kind_ne_variable hinner
      exact hkind

/-! ### The highlights that meet a tag -/

/-- The stretches have a place in common. -/
def Span.meets (left right : Span Nat) : Bool :=
  decide (left.start < right.stop) && decide (right.start < left.stop)

theorem Span.meets_iff {left right : Span Nat} :
    left.meets right = true ↔ left.start < right.stop ∧ right.start < left.stop := by
  rw [meets, Bool.and_eq_true, decide_eq_true_eq, decide_eq_true_eq]

/-- Is this a highlight of a prompt that meets the tag? -/
def Highlight.isAt (found : TagOccurrence) (spot : Highlight) : Bool :=
  decide (spot.kind ≠ .variable) && spot.span.meets found.span

theorem Highlight.isAt_iff :
    spot.isAt found = true ↔ spot.kind ≠ .variable ∧ spot.span.meets found.span = true := by
  rw [isAt, Bool.and_eq_true, decide_eq_true_eq]

/-- The highlights of a tag meet it. -/
theorem filter_isAt_self (h : found.StandsIn text) :
    found.highlights.filter (Highlight.isAt found) = found.highlights := by
  apply List.filter_eq_self.2
  intro spot hspot
  have hinside := h.paints.inside spot hspot
  apply Highlight.isAt_iff.2
  exact ⟨TagOccurrence.kind_ne_variable hspot, Span.meets_iff.2 (by omega)⟩

/-- The highlights of another tag do not. -/
theorem filter_isAt_other (h : other.StandsIn text)
    (hapart : other.span.stop ≤ found.span.start ∨ found.span.stop ≤ other.span.start) :
    other.highlights.filter (Highlight.isAt found) = [] := by
  apply List.filter_eq_nil_iff.2
  intro spot hspot hat
  have hinside := h.paints.inside spot hspot
  have hmeets := Span.meets_iff.1 (Highlight.isAt_iff.1 hat).2
  omega

theorem filter_isAt_promptTagsOutsideCode (hfound : found ∈ promptTagsOutsideCode text) :
    ((promptTagsOutsideCode text).flatMap TagOccurrence.highlights).filter
      (Highlight.isAt found) = found.highlights := by
  have hordered := pairwise_promptTagsOutsideCode text
  have hstands : ∀ other ∈ promptTagsOutsideCode text, other.StandsIn text :=
    fun other hother => standsIn_of_mem_promptTags (mem_promptTagsOutsideCode_iff.1 hother).1
  obtain ⟨front, behind, hsplit⟩ := List.append_of_mem hfound
  rw [hsplit] at hordered hstands
  obtain ⟨-, hlast, hfirst⟩ := List.pairwise_append.1 hordered
  have hfront :
      front.flatMap (fun other => other.highlights.filter (Highlight.isAt found)) = [] := by
    apply List.flatMap_eq_nil_iff.2
    intro other hother
    exact filter_isAt_other (hstands other (List.mem_append_left _ hother))
      (Or.inl (hfirst other hother found List.mem_cons_self))
  have hbehind :
      behind.flatMap (fun other => other.highlights.filter (Highlight.isAt found)) = [] := by
    apply List.flatMap_eq_nil_iff.2
    intro other hother
    exact filter_isAt_other (hstands other (by simp [hother]))
      (Or.inr ((List.pairwise_cons.1 hlast).1 other hother))
  have hown := filter_isAt_self (hstands found (by simp))
  rw [List.filter_flatMap, hsplit, List.flatMap_append, List.flatMap_cons, hfront, hbehind, hown,
    List.nil_append, List.append_nil]

/-- Among all highlights of a text, those of a tag are the ones that meet it, variables apart. -/
theorem perm_filter_isAt (hfound : found ∈ promptTagsOutsideCode text) :
    ((highlights text).filter (Highlight.isAt found)).Perm found.highlights := by
  have hvariables : ((highlightedVariables text).map fun found =>
      (⟨found.span, .variable⟩ : Highlight)).filter (Highlight.isAt found) = [] := by
    apply List.filter_eq_nil_iff.2
    intro spot hspot hat
    obtain ⟨shown, -, rfl⟩ := List.mem_map.1 hspot
    exact (Highlight.isAt_iff.1 hat).1 rfl
  have hperm := (List.mergeSort_perm ((promptTagsOutsideCode text).flatMap
    TagOccurrence.highlights ++ (highlightedVariables text).map fun found =>
      ⟨found.span, .variable⟩) Highlight.before).filter (Highlight.isAt found)
  rwa [List.filter_append, filter_isAt_promptTagsOutsideCode hfound, hvariables,
    List.append_nil] at hperm

/-! ### The order of the highlights -/

theorem Highlight.before_iff {left right : Highlight} :
    left.before right = true ↔ left.span.start < right.span.start ∨
      (left.span.start = right.span.start ∧ left.span.stop ≤ right.span.stop) := by
  simp [before]

theorem pairwise_before_highlights (text : Text) :
    (highlights text).Pairwise fun left right => left.before right = true := by
  apply List.pairwise_mergeSort
  · intro first second third hfirst hsecond
    rw [Highlight.before_iff] at hfirst hsecond ⊢
    omega
  · intro left right
    rw [Bool.or_eq_true, Highlight.before_iff, Highlight.before_iff]
    omega

/-- Highlights that are in order and share no place stand one behind the other. -/
theorem Paints.pairwise_stop_le {start stop : Nat} {spots : List Highlight}
    (h : Paints text start stop spots)
    (hsorted : spots.Pairwise fun left right => left.before right = true) :
    spots.Pairwise fun left right => left.span.stop ≤ right.span.start := by
  apply (h.apart.and hsorted).imp_of_mem
  intro left right hleft hright hpair
  have hbefore := Highlight.before_iff.1 hpair.2
  have hlength := (h.inside right hright).2.1
  rcases hpair.1 with hle | hle
  · exact hle
  · omega

/-- The highlights of a tag outside the code blocks lie inside the tag, one behind the other and
none empty, and every character of the tag that is not blank lies in exactly one of them. -/
theorem highlights_paint_tag (hfound : found ∈ promptTags text)
    (houtside : ∀ block ∈ codeBlocks text, ¬block.Holds found.span.start) :
    let own := (highlights text).filter (Highlight.isAt found)
    own.Perm found.highlights ∧
    (∀ spot ∈ own, found.span.start ≤ spot.span.start ∧ spot.span.start < spot.span.stop ∧
      spot.span.stop ≤ found.span.stop) ∧
    (own.Pairwise fun left right => left.span.stop ≤ right.span.start) ∧
    ∀ pos c, found.span.start ≤ pos → pos < found.span.stop → text[pos]? = some c →
      isBlank c = false → own.countP (fun spot => spot.span.covers pos) = 1 := by
  intro own
  have hperm : own.Perm found.highlights :=
    perm_filter_isAt (mem_promptTagsOutsideCode_iff.2 ⟨hfound, houtside⟩)
  have hpaints := (standsIn_of_mem_promptTags hfound).paints.perm hperm.symm
  have hsorted := (pairwise_before_highlights text).filter (Highlight.isAt found)
  exact ⟨hperm, hpaints.inside, hpaints.pairwise_stop_le hsorted,
    fun pos c hstart hstop hchar hc => hpaints.countP_covers hstart hstop hchar hc⟩

/-- A tag in a code block, and an optional list behind the block. -/
def pollText : Text :=
  "\x60\x60\x60\n\x7b% A %\x7d\n\x60\x60\x60\n\x7b%? Pick : list : a, , b c ?%\x7d".toList

/-- The tag of the list in `pollText`. -/
def pollTag : TagOccurrence where
  span := ⟨16, 46⟩
  value := ⟨true, " Pick : list : a, , b c ".toList, true⟩

theorem highlights_paint_pollTag :
    pollTag ∈ promptTags pollText ∧
    (∀ block ∈ codeBlocks pollText, ¬block.Holds pollTag.span.start) ∧
    pollTag.highlights.length = 12 ∧
    let own := (highlights pollText).filter (Highlight.isAt pollTag)
    own.Perm pollTag.highlights ∧
    (∀ spot ∈ own, 16 ≤ spot.span.start ∧ spot.span.start < spot.span.stop ∧
      spot.span.stop ≤ 46) ∧
    (own.Pairwise fun left right => left.span.stop ≤ right.span.start) ∧
    ∀ pos c, 16 ≤ pos → pos < 46 → pollText[pos]? = some c →
      isBlank c = false → own.countP (fun spot => spot.span.covers pos) = 1 := by
  have hmem : pollTag ∈ promptTagsOutsideCode pollText := by decide +kernel
  obtain ⟨hfound, houtside⟩ := mem_promptTagsOutsideCode_iff.1 hmem
  exact ⟨hfound, houtside, by decide +kernel, highlights_paint_tag hfound houtside⟩

end NoteTemplate
