import NoteTemplate.Prompt.Parts
import NoteTemplate.Proofs.Format.Placing
import NoteTemplate.Proofs.Prompt.Grammar
import NoteTemplate.Proofs.Prompt.Places

/-!
# The places of the parts of a prompt

The places of the parts and the prompt are taken from the same content by two functions.
Here the two are compared: each place holds what the prompt was read from, and the places
follow one another as the parts do in the text.  This file has a content that stands alone.
-/

namespace NoteTemplate

variable {text content : Text} {start stop offset : Nat} {span : Span Nat}

/-- The stretch lies between two places of the text and has no blanks at its ends. -/
structure Span.Shows (text : Text) (start stop : Nat) (span : Span Nat) : Prop where
  start_le : start ≤ span.start
  ordered : span.start ≤ span.stop
  stop_le : span.stop ≤ stop
  isTrimmed : Text.IsTrimmed (span.of text)

/-- The parts of a format lie between its parentheses, without a gap. -/
structure FormatWrapper.Encloses (text : Text) (formatParts : List (FormatPart Nat))
    (wrapper : FormatWrapper Nat) : Prop where
  opening_of : wrapper.opening.of text = formatOpening
  closing_of : wrapper.closing.of text = [')']
  adjoined : AreAdjoined wrapper.opening.stop (formatParts.map FormatPart.span)
    wrapper.closing.start
  piece_of : ∀ part ∈ formatParts, part.span.of text = part.piece.text
  ordered : (wrapper.opening :: formatParts.map FormatPart.span ++ [wrapper.closing]).Pairwise
    fun left right => left.stop ≤ right.start

/-- The prompt has a date or a time, and keeps the format for each of them that it has. -/
structure Prompt.KeepsFormat (format : Text) (prompt : Prompt) : Prop where
  hasHalf : (prompt.valueType.hasDate || prompt.valueType.hasTime) = true
  date : prompt.valueType.hasDate = true → prompt.dateConfig = some (.custom format)
  time : prompt.valueType.hasTime = true → prompt.timeConfig = some (.custom format)

namespace PromptParts

/-- The parts that colons separate. -/
def outer (parts : PromptParts Nat) : List (Span Nat) :=
  parts.name :: (parts.type.toList ++ parts.detail.toList)

/-- The name, and each colon with the part behind it, as they stand in the source. -/
def row (parts : PromptParts Nat) : List (Span Nat) :=
  parts.name :: (parts.colons.zip (parts.type.toList ++ parts.detail.toList)).flatMap
    fun (colon, part) => [⟨colon, colon + 1⟩, part]

/-- The parts that stand inside the detail, the parts of a format apart. -/
def inner (parts : PromptParts Nat) : List (Span Nat) :=
  parts.wrapper.toList.flatMap (fun wrapper => [wrapper.opening, wrapper.closing]) ++ parts.options

/-- All stretches that the parts cover. -/
def spans (parts : PromptParts Nat) : List (Span Nat) :=
  parts.outer ++ parts.inner ++ parts.formatParts.map FormatPart.span

/-- The name, the type and the detail lie between two places of the text, with colons
between them. -/
structure IsLaidOut (text : Text) (start stop : Nat) (parts : PromptParts Nat) : Prop where
  shows : ∀ span ∈ parts.outer, span.Shows text start stop
  colon_at : ∀ colon ∈ parts.colons, text[colon]? = some ':'
  length_colons : parts.colons.length = (parts.type.toList ++ parts.detail.toList).length
  ordered : parts.row.Pairwise fun left right => left.stop ≤ right.start

/-- The parts of the detail lie inside it: a format in its parentheses, or options and commas. -/
structure IsFilled (text : Text) (parts : PromptParts Nat) : Prop where
  shows : ∀ span ∈ parts.inner, ∃ detail ∈ parts.detail, span.Shows text detail.start detail.stop
  encloses : ∀ wrapper ∈ parts.wrapper, wrapper.Encloses text parts.formatParts
  formatParts_eq_nil : parts.wrapper = none → parts.formatParts = []
  comma_at : ∀ comma ∈ parts.commas, text[comma]? = some ',' ∧
    ∃ detail ∈ parts.detail, detail.start ≤ comma ∧ comma < detail.stop
  options_ordered : parts.options.Pairwise fun left right => left.stop ≤ right.start
  commas_ordered : parts.commas.Pairwise (· < ·)
  options_apart_commas : ∀ option ∈ parts.options, ∀ comma ∈ parts.commas,
    option.stop ≤ comma ∨ comma < option.start

/-- The text at the places of the parts is what the prompt has. -/
structure Describes (text : Text) (prompt : Prompt) (parts : PromptParts Nat) : Prop where
  name_of : parts.name.of text = prompt.name
  valueType : ∀ type ∈ parts.type, ∀ valueType,
    ValueType.resolve? (type.of text) = some valueType → prompt.valueType = valueType
  options : prompt.valueType.hasOptions = true →
    prompt.options = some (parts.options.map fun option => .text (option.of text))
  format : parts.wrapper.isSome = true →
    prompt.KeepsFormat (parts.formatParts.flatMap fun part => part.span.of text)

/-! ### The parts of a content that stands alone -/

@[simp]
theorem name_ofContent (content : Text) :
    (ofContent content).name = (PromptContent.ofText content).name.span := by
  unfold ofContent
  dsimp only
  split <;> rfl

@[simp]
theorem colons_ofContent (content : Text) :
    (ofContent content).colons = (PromptContent.ofText content).colons := by
  unfold ofContent
  dsimp only
  split <;> rfl

@[simp]
theorem type_ofContent (content : Text) :
    (ofContent content).type = (PromptContent.ofText content).type?.map Segment.span := by
  unfold ofContent
  dsimp only
  split <;> rfl

@[simp]
theorem detail_ofContent (content : Text) :
    (ofContent content).detail = (PromptContent.ofText content).detail?.map Segment.span := by
  unfold ofContent
  dsimp only
  split <;> rfl

end PromptParts

theorem Segment.Stands.shows {segment : Segment} (h : segment.Stands text start stop) :
    segment.span.Shows text start stop where
  start_le := h.start_le
  ordered := segment.start_le_stop
  stop_le := h.stop_le
  isTrimmed := by
    rw [Segment.span_of h.isAt]
    exact h.isTrimmed

namespace PromptParts

variable {parts : PromptParts Nat} {split : PromptContent}

theorem isLaidOut_of_splits (h : split.Splits text) (hname : parts.name = split.name.span)
    (hcolons : parts.colons = split.colons) (htype : parts.type = split.type?.map Segment.span)
    (hdetail : parts.detail = split.detail?.map Segment.span) :
    parts.IsLaidOut text 0 text.length := by
  cases h with
  | @named name nameStands =>
    change parts.name = name.span at hname
    change parts.colons = [] at hcolons
    change parts.type = none at htype
    change parts.detail = none at hdetail
    constructor
    · simpa [outer, hname, htype, hdetail] using nameStands.shows
    · simp [hcolons]
    · simp [hcolons, htype, hdetail]
    · simp [row, hcolons, hname]
  | @typed name type colon nameStands colonAt typeStands =>
    change parts.name = name.span at hname
    change parts.colons = [colon] at hcolons
    change parts.type = some type.span at htype
    change parts.detail = none at hdetail
    have hcolon : colon ≤ text.length := Nat.le_of_succ_le typeStands.start_le_stop
    have nameShows := (nameStands.toStands.widen (Nat.le_refl 0) hcolon).shows
    have typeShows := (typeStands.toStands.widen (Nat.zero_le _) (Nat.le_refl _)).shows
    have hfirst : name.stop ≤ colon := nameStands.stop_le
    have hsecond : colon + 1 ≤ type.start := typeStands.start_le
    constructor
    · simpa [outer, hname, htype, hdetail] using ⟨nameShows, typeShows⟩
    · simpa [hcolons] using colonAt
    · simp [hcolons, htype, hdetail]
    · simp [row, hname, hcolons, htype, hdetail, Segment.span]
      omega
  | @detailed name type detail colon secondColon nameStands colonAt typeStands secondAt
      detailStands =>
    change parts.name = name.span at hname
    change parts.colons = [colon, secondColon] at hcolons
    change parts.type = some type.span at htype
    change parts.detail = some detail.span at hdetail
    have hsecondColon : secondColon ≤ text.length :=
      Nat.le_of_succ_le detailStands.start_le_stop
    have hcolon : colon ≤ secondColon := Nat.le_of_succ_le typeStands.start_le_stop
    have nameShows := (nameStands.toStands.widen (Nat.le_refl 0)
      (Nat.le_trans hcolon hsecondColon)).shows
    have typeShows := (typeStands.toStands.widen (Nat.zero_le _) hsecondColon).shows
    have detailShows := (detailStands.toStands.widen (Nat.zero_le _) (Nat.le_refl _)).shows
    have hfirst : name.stop ≤ colon := nameStands.stop_le
    have hsecond : colon + 1 ≤ type.start := typeStands.start_le
    have htypeOrder := type.start_le_stop
    have hthird : type.stop ≤ secondColon := typeStands.stop_le
    have hfourth : secondColon + 1 ≤ detail.start := detailStands.start_le
    constructor
    · simpa [outer, hname, htype, hdetail] using ⟨nameShows, typeShows, detailShows⟩
    · simpa [hcolons] using ⟨colonAt, secondAt⟩
    · simp [hcolons, htype, hdetail]
    · simp [row, hname, hcolons, htype, hdetail, Segment.span]
      omega

theorem isLaidOut_ofContent (content : Text) :
    (ofContent content).IsLaidOut content 0 content.length :=
  isLaidOut_of_splits (PromptContent.splits_ofText content) (name_ofContent content)
    (colons_ofContent content) (type_ofContent content) (detail_ofContent content)

/-! ### What stands inside the detail -/

/-- A detail that is not cut has nothing inside it. -/
theorem isFilled_of_whole (hwrapper : parts.wrapper = none) (hformat : parts.formatParts = [])
    (hoptions : parts.options = []) (hcommas : parts.commas = []) : parts.IsFilled text := by
  constructor <;> simp [inner, hwrapper, hformat, hoptions, hcommas]

theorem isFilled_of_commaSplit {commaSplit : CommaSplit} {detail : Segment}
    (h : commaSplit.Splits text detail.start detail.stop)
    (hdetail : parts.detail = some detail.span) (hwrapper : parts.wrapper = none)
    (hformat : parts.formatParts = [])
    (hoptions : parts.options = commaSplit.items.map Segment.span ∨ parts.options = [])
    (hcommas : parts.commas = commaSplit.commas) : parts.IsFilled text := by
  have hitems {option : Span Nat} (hoption : option ∈ parts.options) :
      ∃ item ∈ commaSplit.items, item.span = option := by
    rcases hoptions with heq | heq
    · exact List.mem_map.1 (heq ▸ hoption)
    · rw [heq] at hoption
      exact absurd hoption List.not_mem_nil
  constructor
  · intro span hspan
    rw [inner, hwrapper] at hspan
    obtain ⟨item, hitem, rfl⟩ := hitems hspan
    exact ⟨detail.span, hdetail, (h.stands item hitem).1.shows⟩
  · simp [hwrapper]
  · intro _
    exact hformat
  · intro comma hcomma
    obtain ⟨hstart, hstop, hat⟩ := h.commas_stand comma (hcommas ▸ hcomma)
    exact ⟨hat, detail.span, hdetail, hstart, hstop⟩
  · rcases hoptions with heq | heq
    · rw [heq, List.pairwise_map]
      exact h.pairwise_items
    · rw [heq]
      exact List.Pairwise.nil
  · rw [hcommas]
    exact h.pairwise_commas
  · intro option hoption comma hcomma
    obtain ⟨item, hitem, rfl⟩ := hitems hoption
    exact h.items_apart_commas item hitem comma (hcommas ▸ hcomma)

/-- Between its parentheses a format leaves no gap. -/
theorem encloses_placePieces {format : Text}
    (h : formatOpening ++ (format ++ [')']) <+: text.drop start) :
    FormatWrapper.Encloses text
      (placePieces (start + formatOpening.length) (formatPieces format))
      ⟨⟨start, start + formatOpening.length⟩,
        ⟨start + formatOpening.length + format.length,
          start + formatOpening.length + format.length + 1⟩⟩ := by
  rw [Text.append_prefix_drop_iff, Text.append_prefix_drop_iff] at h
  have hadjoined := areAdjoined_placePieces (start + formatOpening.length)
    (text_ne_nil_of_mem_formatPieces format)
  rw [flatMap_formatPieces] at hadjoined
  have hformat := flatMap_formatPieces format
  constructor
  · exact Text.slice_eq_of_prefix_drop h.1
  · exact Text.slice_eq_of_prefix_drop h.2.2
  · exact hadjoined
  · exact span_of_placePieces (hformat.symm ▸ h.2.1)
  · rw [List.cons_append, List.pairwise_cons, List.pairwise_append]
    refine ⟨fun span hspan => ?_, hadjoined.pairwise, List.pairwise_singleton _ _,
      fun left hleft right hright => ?_⟩
    · rcases List.mem_append.1 hspan with hpart | hclosing
      · exact (hadjoined.inside span hpart).1
      · rw [List.mem_singleton.1 hclosing]
        exact hadjoined.start_le_stop
    · rw [List.mem_singleton.1 hright]
      exact (hadjoined.inside left hleft).2.2

theorem isFilled_of_custom {detail : Segment} {format : Text}
    (hat : detail.text <+: text.drop detail.start)
    (htext : detail.text = formatOpening ++ (format ++ [')']))
    (hdetail : parts.detail = some detail.span)
    (hwrapper : parts.wrapper = some ⟨⟨detail.start, detail.start + formatOpening.length⟩,
      ⟨detail.start + formatOpening.length + format.length,
        detail.start + formatOpening.length + format.length + 1⟩⟩)
    (hformat : parts.formatParts =
      placePieces (detail.start + formatOpening.length) (formatPieces format))
    (hoptions : parts.options = []) (hcommas : parts.commas = []) : parts.IsFilled text := by
  have hencloses := encloses_placePieces (htext ▸ hat)
  have hstop : detail.span.stop = detail.start + formatOpening.length + format.length + 1 := by
    simp only [Segment.span, Segment.stop, htext, List.length_append, List.length_singleton]
    omega
  constructor
  · intro span hspan
    refine ⟨detail.span, hdetail, ?_⟩
    simp only [inner, hwrapper, hoptions, Option.toList_some, List.flatMap_cons,
      List.flatMap_nil, List.append_nil, List.mem_cons, List.not_mem_nil, or_false] at hspan
    have hstart : detail.span.start = detail.start := rfl
    rcases hspan with rfl | rfl
    · refine ⟨Nat.le_refl _, Nat.le_add_right _ _, ?_, ?_⟩
      · rw [hstop]
        dsimp only
        omega
      · rw [hencloses.opening_of]
        decide
    · refine ⟨?_, Nat.le_add_right _ _, Nat.le_of_eq hstop.symm, ?_⟩
      · rw [hstart]
        dsimp only
        omega
      · rw [hencloses.closing_of]
        decide
  · intro wrapper hmem
    rw [hwrapper, Option.mem_some] at hmem
    rw [← hmem, hformat]
    exact hencloses
  · simp [hwrapper]
  · simp [hcommas]
  · simp [hoptions]
  · simp [hcommas]
  · simp [hoptions]

end PromptParts

/-! ### Reading the detail of a content -/

/-- A format of its own is only read for a date or a time. -/
theorem Detail.exists_half_of_custom {valueType : Option ValueType}
    {segment opening format : Segment} {closing : Nat}
    (h : Detail.ofSegment valueType segment = .custom opening format closing) :
    ∃ half, valueType = some half ∧ (half.hasDate || half.hasTime) = true := by
  unfold ofSegment at h
  split at h
  · cases h
  · next half =>
    split at h
    · next hcustom => exact ⟨half, rfl, (Bool.and_eq_true_iff.1 hcustom).1⟩
    · split at h <;> cases h

namespace PromptContent

variable {split : PromptContent} {reading : Detail}

theorem Splits.name_isAt (h : split.Splits text) :
    split.name.text <+: text.drop split.name.start := by
  cases h with
  | named hname => exact hname.isAt
  | typed hname => exact hname.isAt
  | detailed hname => exact hname.isAt

theorem Splits.type_isAt (h : split.Splits text) :
    ∀ type ∈ split.type?, type.text <+: text.drop type.start := by
  intro type hmem
  cases h with
  | named hname => cases hmem
  | typed hname hcolon htype =>
    cases hmem
    exact htype.isAt
  | detailed hname hcolon htype =>
    cases hmem
    exact htype.isAt

theorem Splits.detail_splits (h : split.Splits text) (hreading : split.reading? = some reading) :
    ∃ detail, split.detail? = some detail ∧ detail.text <+: text.drop detail.start ∧
      reading.Splits text detail := by
  cases h with
  | named hname => cases hreading
  | typed hname hcolon htype => cases hreading
  | @detailed name type detail colon secondColon hname hcolon htype hsecond hdetail =>
    refine ⟨detail, rfl, hdetail.isAt, ?_⟩
    rw [reading?, detail?, Option.map_some, Option.some.injEq] at hreading
    rw [← hreading]
    exact Detail.splits_ofSegment _ hdetail.isAt

end PromptContent

namespace PromptParts

theorem isFilled_ofContent (content : Text) : (ofContent content).IsFilled content := by
  have hdetail := detail_ofContent content
  cases hreading : (PromptContent.ofText content).reading? with
  | none => apply isFilled_of_whole <;> simp [ofContent, hreading]
  | some reading =>
    obtain ⟨detail, hsome, hat, hsplits⟩ :=
      (PromptContent.splits_ofText content).detail_splits hreading
    rw [hsome, Option.map_some] at hdetail
    cases hsplits with
    | whole => apply isFilled_of_whole <;> simp [ofContent, hreading]
    | items h =>
      apply isFilled_of_commaSplit h hdetail
      · simp [ofContent, hreading]
      · simp [ofContent, hreading]
      · by_cases hany : (PromptContent.ofText content).valueType?.any ValueType.hasOptions
        · simp [ofContent, hreading, hany]
        · simp [ofContent, hreading, hany]
      · simp [ofContent, hreading]
    | custom htext =>
      apply isFilled_of_custom hat htext hdetail
      · simp [ofContent, hreading, Segment.span, Segment.stop]
      · simp [ofContent, hreading, map_add_formatParts]
      · simp [ofContent, hreading]
      · simp [ofContent, hreading]

/-! ### The parts and the prompt -/

theorem options_ofContent (content : Text) {valueType : ValueType}
    (hvalue : (PromptContent.ofText content).valueType? = some valueType)
    (hoptions : valueType.hasOptions = true) :
    (ofContent content).options.map (fun option => option.of content) =
      (PromptContent.ofText content).optionTexts := by
  cases hreading : (PromptContent.ofText content).reading? with
  | none => simp [ofContent, PromptContent.optionTexts, hreading]
  | some reading =>
    obtain ⟨detail, -, -, hsplits⟩ :=
      (PromptContent.splits_ofText content).detail_splits hreading
    cases hsplits with
    | whole => simp [ofContent, PromptContent.optionTexts, hreading]
    | custom htext => simp [ofContent, PromptContent.optionTexts, hreading]
    | items h =>
      have hof : ∀ item ∈ _, (Segment.span item).of content = item.text :=
        fun item hitem => Segment.span_of (h.stands item hitem).1.isAt
      simpa [ofContent, PromptContent.optionTexts, hreading, hvalue, hoptions] using hof

theorem format_ofContent (content : Text) (h : (ofContent content).wrapper.isSome = true) :
    ∃ half, (PromptContent.ofText content).valueType? = some half ∧
      (half.hasDate || half.hasTime) = true ∧
      (PromptContent.ofText content).customFormat? =
        some ((ofContent content).formatParts.flatMap fun part => part.span.of content) := by
  cases hreading : (PromptContent.ofText content).reading? with
  | none => simp [ofContent, hreading] at h
  | some reading =>
    obtain ⟨detail, hsome, hat, hsplits⟩ :=
      (PromptContent.splits_ofText content).detail_splits hreading
    cases hsplits with
    | whole => simp [ofContent, hreading] at h
    | items _ => simp [ofContent, hreading] at h
    | custom htext =>
      have hcustom := hreading
      rw [PromptContent.reading?, hsome, Option.map_some, Option.some.injEq] at hcustom
      obtain ⟨half, hhalf, hkind⟩ := Detail.exists_half_of_custom hcustom
      refine ⟨half, hhalf, hkind, ?_⟩
      rw [htext, Text.append_prefix_drop_iff, Text.append_prefix_drop_iff] at hat
      have hformat := flatMap_span_of_formatPieces hat.2.1
      simp [ofContent, PromptContent.customFormat?, hreading, map_add_formatParts, hformat]

theorem describes_ofContent (content : Text) (isOptional : Bool) :
    (ofContent content).Describes content (Prompt.ofContent content isOptional) := by
  have hsplits := PromptContent.splits_ofText content
  constructor
  · rw [name_ofContent, Segment.span_of hsplits.name_isAt]
    rfl
  · intro type hmem valueType hresolve
    rw [type_ofContent] at hmem
    obtain ⟨segment, hsegment, rfl⟩ := Option.map_eq_some_iff.1 (Option.mem_def.1 hmem)
    rw [Segment.span_of (hsplits.type_isAt segment (Option.mem_def.2 hsegment))] at hresolve
    have hvalue : (PromptContent.ofText content).valueType? = some valueType := by
      rw [PromptContent.valueType?, hsegment, Option.bind_some, hresolve]
    simp [Prompt.ofContent, hvalue]
  · intro hoptions
    cases hvalue : (PromptContent.ofText content).valueType? with
    | none => simp [Prompt.ofContent, hvalue, ValueType.hasOptions] at hoptions
    | some valueType =>
      have hkind : valueType.hasOptions = true := by simpa [Prompt.ofContent, hvalue] using hoptions
      have htexts := options_ofContent content hvalue hkind
      simp [Prompt.ofContent, hvalue, hkind, ← htexts]
  · intro hwrapper
    obtain ⟨half, hvalue, hkind, hformat⟩ := format_ofContent content hwrapper
    constructor
    · simpa [Prompt.ofContent, hvalue] using hkind
    · intro hdate
      have hdate : half.hasDate = true := by simpa [Prompt.ofContent, hvalue] using hdate
      simp [Prompt.ofContent, hvalue, hdate, PromptContent.halfConfigs, hformat]
    · intro htime
      have htime : half.hasTime = true := by simpa [Prompt.ofContent, hvalue] using htime
      simp [Prompt.ofContent, hvalue, htime, PromptContent.halfConfigs, hformat]

end PromptParts

end NoteTemplate
