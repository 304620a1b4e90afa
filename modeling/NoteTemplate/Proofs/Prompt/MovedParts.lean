import NoteTemplate.Proofs.Prompt.PartPlaces

/-!
# The parts of a prompt in a text

The content of a tag is read as a text of its own, and the places of its parts are then moved
by the place of the content.  What holds of the places in the content holds of the moved
places in the text.
-/

namespace NoteTemplate

variable {text content : Text} {start stop offset : Nat} {span : Span Nat} {prompt : Prompt}

namespace PromptParts

variable {parts : PromptParts Nat}

theorem span_mem_spans {part : FormatPart Nat} (h : part ∈ parts.formatParts) :
    part.span ∈ parts.spans :=
  List.mem_append_right _ (List.mem_map_of_mem h)

theorem inside_of_mem_spans (hlaid : parts.IsLaidOut text start stop)
    (hfilled : parts.IsFilled text) (hspan : span ∈ parts.spans) :
    start ≤ span.start ∧ span.start ≤ span.stop ∧ span.stop ≤ stop := by
  have houter (part : Span Nat) (h : part ∈ parts.outer) :
      start ≤ part.start ∧ part.start ≤ part.stop ∧ part.stop ≤ stop :=
    ⟨(hlaid.shows part h).start_le, (hlaid.shows part h).ordered, (hlaid.shows part h).stop_le⟩
  have hinner (part : Span Nat) (h : part ∈ parts.inner) :
      start ≤ part.start ∧ part.start ≤ part.stop ∧ part.stop ≤ stop := by
    obtain ⟨detail, hdetail, hshows⟩ := hfilled.shows part h
    obtain ⟨hstart, -, hstop⟩ := houter detail (by
      rw [outer, Option.mem_def.1 hdetail]
      simp)
    exact ⟨Nat.le_trans hstart hshows.start_le, hshows.ordered,
      Nat.le_trans hshows.stop_le hstop⟩
  rcases List.mem_append.1 hspan with hspan | hspan
  · rcases List.mem_append.1 hspan with hspan | hspan
    · exact houter span hspan
    · exact hinner span hspan
  · cases hwrapper : parts.wrapper with
    | none =>
      rw [hfilled.formatParts_eq_nil hwrapper] at hspan
      exact absurd hspan List.not_mem_nil
    | some wrapper =>
      obtain ⟨hstart, hlt, hstop⟩ :=
        (hfilled.encloses wrapper hwrapper).adjoined.inside span hspan
      have hopening := hinner wrapper.opening (by simp [inner, hwrapper])
      have hclosing := hinner wrapper.closing (by simp [inner, hwrapper])
      omega

end PromptParts

/-- What a stretch of a part covers, it covers in the whole text as well. -/
theorem Span.of_map_add (hcontent : content <+: text.drop offset)
    (hstop : span.stop ≤ content.length) :
    (span.map (· + offset)).of text = span.of content := by
  have hlength : (span.of content).length = span.stop - span.start := Text.length_slice hstop
  have hat : span.of content <+: text.drop (offset + span.start) :=
    Text.prefix_drop_trans hcontent (Text.slice_prefix_drop _ _ _)
  calc
    (span.map (· + offset)).of text
    _ = Text.slice text (offset + span.start)
          (offset + span.start + (span.of content).length) := by
      rw [Span.of, Span.map, Text.slice, Text.slice, hlength, Nat.add_sub_add_right,
        Nat.add_sub_cancel_left, Nat.add_comm span.start]
    _ = span.of content := Text.slice_eq_of_prefix_drop hat

theorem Span.Shows.map_add (h : span.Shows content start stop)
    (hcontent : content <+: text.drop offset) (hstop : span.stop ≤ content.length) :
    (span.map (· + offset)).Shows text (start + offset) (stop + offset) where
  start_le := Nat.add_le_add_right h.start_le offset
  ordered := Nat.add_le_add_right h.ordered offset
  stop_le := Nat.add_le_add_right h.stop_le offset
  isTrimmed := by
    rw [Span.of_map_add hcontent hstop]
    exact h.isTrimmed

theorem getElem?_add_of_prefix_drop {pos : Nat} {c : Char}
    (hcontent : content <+: text.drop offset) (h : content[pos]? = some c) :
    text[pos + offset]? = some c := by
  obtain ⟨hpos, -⟩ := List.getElem?_eq_some_iff.1 h
  rw [Nat.add_comm, Text.getElem?_of_prefix_drop hcontent hpos, h]

/-- Stretches that are moved together stay in order. -/
theorem pairwise_map_add {spans : List (Span Nat)}
    (h : spans.Pairwise fun left right => left.stop ≤ right.start) (offset : Nat) :
    (spans.map (Span.map (· + offset))).Pairwise fun left right => left.stop ≤ right.start :=
  List.pairwise_map.2 (h.imp fun hle => Nat.add_le_add_right hle offset)

/-! ### Moving the parts -/

theorem map_span_map_add (formatParts : List (FormatPart Nat)) (offset : Nat) :
    (formatParts.map (FormatPart.map (· + offset))).map FormatPart.span =
      (formatParts.map FormatPart.span).map (Span.map (· + offset)) := by
  rw [List.map_map, List.map_map]
  rfl

theorem FormatWrapper.Encloses.map_add {wrapper : FormatWrapper Nat}
    {formatParts : List (FormatPart Nat)} (h : wrapper.Encloses content formatParts)
    (hcontent : content <+: text.drop offset) (hopening : wrapper.opening.stop ≤ content.length)
    (hclosing : wrapper.closing.stop ≤ content.length)
    (hparts : ∀ part ∈ formatParts, part.span.stop ≤ content.length) :
    FormatWrapper.Encloses text (formatParts.map (FormatPart.map (· + offset)))
      ⟨wrapper.opening.map (· + offset), wrapper.closing.map (· + offset)⟩ where
  opening_of := by rw [Span.of_map_add hcontent hopening, h.opening_of]
  closing_of := by rw [Span.of_map_add hcontent hclosing, h.closing_of]
  adjoined := by
    rw [map_span_map_add]
    exact h.adjoined.map_add offset
  piece_of := by
    rw [List.forall_mem_map]
    intro part hpart
    rw [FormatPart.map, Span.of_map_add hcontent (hparts part hpart), h.piece_of part hpart]
  ordered := by
    have hordered := pairwise_map_add h.ordered offset
    rwa [List.map_append, List.map_cons, ← map_span_map_add] at hordered

namespace PromptParts

variable {parts : PromptParts Nat}

theorem outer_map (parts : PromptParts Nat) (offset : Nat) :
    (parts.map (· + offset)).outer = parts.outer.map (Span.map (· + offset)) := by
  simp [outer, map, Option.toList_map]

theorem inner_map (parts : PromptParts Nat) (offset : Nat) :
    (parts.map (· + offset)).inner = parts.inner.map (Span.map (· + offset)) := by
  cases hwrapper : parts.wrapper <;> simp [inner, map, hwrapper]

theorem row_map (parts : PromptParts Nat) (offset : Nat) :
    (parts.map (· + offset)).row = parts.row.map (Span.map (· + offset)) := by
  have hchar (colon : Nat) :
      (⟨colon + offset, colon + offset + 1⟩ : Span Nat) =
        Span.map (· + offset) ⟨colon, colon + 1⟩ := by
    rw [Span.map, Nat.add_right_comm]
  simp only [row, map, Option.toList_map, ← List.map_append, List.zip_map, List.flatMap_map,
    List.map_cons, List.map_flatMap, Prod.map, hchar, List.map_nil]

variable (hcontent : content <+: text.drop offset)
include hcontent

theorem IsLaidOut.map_add (h : parts.IsLaidOut content start stop)
    (hstop : stop ≤ content.length) :
    (parts.map (· + offset)).IsLaidOut text (start + offset) (stop + offset) where
  shows := by
    rw [outer_map, List.forall_mem_map]
    intro span hspan
    have hshows := h.shows span hspan
    exact hshows.map_add hcontent (Nat.le_trans hshows.stop_le hstop)
  colon_at := by
    change ∀ colon ∈ parts.colons.map (· + offset), _
    rw [List.forall_mem_map]
    intro colon hcolon
    exact getElem?_add_of_prefix_drop hcontent (h.colon_at colon hcolon)
  length_colons := by
    simpa [map, Option.toList_map] using h.length_colons
  ordered := by
    rw [row_map]
    exact pairwise_map_add h.ordered offset

variable (hbound : ∀ span ∈ parts.spans, span.stop ≤ content.length)
include hbound

theorem IsFilled.map_add (h : parts.IsFilled content) :
    (parts.map (· + offset)).IsFilled text where
  shows := by
    rw [inner_map, List.forall_mem_map]
    intro span hspan
    obtain ⟨detail, hdetail, hshows⟩ := h.shows span hspan
    have hstop : span.stop ≤ content.length := by
      apply hbound
      simp [spans, hspan]
    exact ⟨detail.map (· + offset), Option.mem_map_of_mem _ hdetail,
      hshows.map_add hcontent hstop⟩
  encloses := by
    intro moved hmoved
    obtain ⟨wrapper, hwrapper, rfl⟩ := Option.map_eq_some_iff.1 (Option.mem_def.1 hmoved)
    apply (h.encloses wrapper (Option.mem_def.2 hwrapper)).map_add hcontent
    · apply hbound
      simp [spans, inner, hwrapper]
    · apply hbound
      simp [spans, inner, hwrapper]
    · intro part hpart
      exact hbound _ (span_mem_spans hpart)
  formatParts_eq_nil := by
    intro hnone
    simp [map, h.formatParts_eq_nil (Option.map_eq_none_iff.1 hnone)]
  comma_at := by
    change ∀ comma ∈ parts.commas.map (· + offset), _
    rw [List.forall_mem_map]
    intro comma hcomma
    obtain ⟨hat, detail, hdetail, hstart, hstop⟩ := h.comma_at comma hcomma
    exact ⟨getElem?_add_of_prefix_drop hcontent hat, detail.map (· + offset),
      Option.mem_map_of_mem _ hdetail, Nat.add_le_add_right hstart offset,
      Nat.add_lt_add_right hstop offset⟩
  options_ordered := pairwise_map_add h.options_ordered offset
  commas_ordered := List.pairwise_map.2 (h.commas_ordered.imp fun hlt =>
    Nat.add_lt_add_right hlt offset)
  options_apart_commas := by
    change ∀ option ∈ parts.options.map _, ∀ comma ∈ parts.commas.map _, _
    simp only [List.forall_mem_map]
    intro option hoption comma hcomma
    exact (h.options_apart_commas option hoption comma hcomma).imp
      (fun hle => Nat.add_le_add_right hle offset) (fun hlt => Nat.add_lt_add_right hlt offset)

theorem Describes.map_add (h : parts.Describes content prompt) :
    (parts.map (· + offset)).Describes text prompt where
  name_of := by
    change (parts.name.map (· + offset)).of text = _
    rw [Span.of_map_add hcontent (hbound _ (by simp [spans, outer])), h.name_of]
  valueType := by
    intro moved hmoved valueType hresolve
    obtain ⟨type, htype, rfl⟩ := Option.map_eq_some_iff.1 (Option.mem_def.1 hmoved)
    rw [Span.of_map_add hcontent (hbound _ (by simp [spans, outer, htype]))] at hresolve
    exact h.valueType type (Option.mem_def.2 htype) valueType hresolve
  options := by
    intro hoptions
    rw [h.options hoptions]
    change _ = some ((parts.options.map (Span.map (· + offset))).map _)
    rw [List.map_map]
    congr 1
    apply List.map_congr_left
    intro option hoption
    rw [Function.comp_apply, Span.of_map_add hcontent (hbound _ (by simp [spans, inner, hoption]))]
  format := by
    intro hwrapper
    have hsome : parts.wrapper.isSome = true := by simpa [map] using hwrapper
    have hof : ∀ part ∈ parts.formatParts,
        (FormatPart.map (· + offset) part).span.of text = part.span.of content := by
      intro part hpart
      exact Span.of_map_add hcontent (hbound _ (span_mem_spans hpart))
    have hformat := h.format hsome
    change prompt.KeepsFormat
      ((parts.formatParts.map (FormatPart.map (· + offset))).flatMap fun part => part.span.of text)
    rwa [List.flatMap_map, List.flatMap_def, List.map_congr_left hof, ← List.flatMap_def]

end PromptParts

/-! ### The parts of a tag -/

/-- Everywhere in a text the places of the parts of a tag agree with the prompt that the tag
stands for. -/
theorem promptParts_agree {found : TagOccurrence} (hfound : found ∈ promptTags text)
    (isOptional : Bool) :
    let parts := (PromptParts.ofContent found.value.content).map (· + found.contentStart)
    let stop := found.contentStart + found.value.content.length
    (∀ span ∈ parts.spans,
      found.contentStart ≤ span.start ∧ span.start ≤ span.stop ∧ span.stop ≤ stop) ∧
    parts.IsLaidOut text found.contentStart stop ∧
    parts.IsFilled text ∧
    parts.Describes text (Prompt.ofContent found.value.content isOptional) := by
  intro parts stop
  have hcontent := (standsIn_of_mem_promptTags hfound).content_isAt
  have hlaid := PromptParts.isLaidOut_ofContent found.value.content
  have hfilled := PromptParts.isFilled_ofContent found.value.content
  have hbound : ∀ span ∈ (PromptParts.ofContent found.value.content).spans,
      span.stop ≤ found.value.content.length := fun span hspan =>
    (PromptParts.inside_of_mem_spans hlaid hfilled hspan).2.2
  have hmovedLaid : parts.IsLaidOut text found.contentStart stop := by
    have hmoved := hlaid.map_add hcontent (Nat.le_refl _)
    rwa [Nat.zero_add, Nat.add_comm] at hmoved
  have hmovedFilled := hfilled.map_add hcontent hbound
  exact ⟨fun span hspan => PromptParts.inside_of_mem_spans hmovedLaid hmovedFilled hspan,
    hmovedLaid, hmovedFilled,
    (PromptParts.describes_ofContent _ isOptional).map_add hcontent hbound⟩

/-- An optional date with time, in a format of its own. -/
def meetingText : Text := "On \x7b%? When : datetime : format(D. MMM, HH:mm) ?%\x7d".toList

/-- The tag in `meetingText`. -/
def meetingTag : TagOccurrence where
  span := ⟨3, 50⟩
  value := ⟨true, " When : datetime : format(D. MMM, HH:mm) ".toList, true⟩

/-- The places of the parts of `meetingTag`. -/
def meetingParts : PromptParts Nat :=
  (PromptParts.ofContent meetingTag.value.content).map (· + meetingTag.contentStart)

theorem promptParts_agree_meetingTag :
    meetingTag ∈ promptTags meetingText ∧
    meetingParts.wrapper = some ⟨⟨25, 32⟩, ⟨45, 46⟩⟩ ∧
    (∀ span ∈ meetingParts.spans, 6 ≤ span.start ∧ span.start ≤ span.stop ∧ span.stop ≤ 47) ∧
    meetingParts.IsLaidOut meetingText 6 47 ∧
    meetingParts.IsFilled meetingText ∧
    meetingParts.Describes meetingText (Prompt.ofContent meetingTag.value.content true) := by
  have hfound : meetingTag ∈ promptTags meetingText := by decide +kernel
  exact ⟨hfound, by decide +kernel, promptParts_agree hfound true⟩

end NoteTemplate
