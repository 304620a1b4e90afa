import NoteTemplate.Prompt.Extraction
import NoteTemplate.Proofs.Editor.Closing
import NoteTemplate.Proofs.Editor.Typed
import NoteTemplate.Proofs.Prompt.LastTag
import NoteTemplate.Proofs.Prompt.PresetReading

/-!
# What a completed prompt is

A completion takes the place of the query.  One that closes its prompt advertises a prompt with
a name, and a preset that is the format of that prompt.  Whether it keeps the promise does not
depend on the completion, and is seen in the typed text (`completes_iff_isCompletable`): the
opening must not belong to an earlier tag, the name must stand in front of the first colon, and
no comma may stand in front of the preset of a time of day.  A name without a colon is the query
itself, so what closes the prompt takes its place.
-/

namespace NoteTemplate

open Typing

/-! ### What is advertised -/

/-- The configuration of one half, if the prompt has that half. -/
def Prompt.halfConfig? (half : Half) (prompt : Prompt) : Option FormatConfig :=
  match half with
  | .date => prompt.dateConfig
  | .time => prompt.timeConfig

namespace Suggestion

/-- The text with the completion in place of the query. -/
def completed (suggestion : Suggestion) (text : Text) (context : TypingContext) : Text :=
  text.take context.start ++ suggestion.insertText

/-- The prompt has a name, and where the completion shows a preset it is of the type that was
typed and has the format of that preset. -/
structure Describes (suggestion : Suggestion) (context : TypingContext) (prompt : Prompt) :
    Prop where
  name_ne_nil : prompt.name ≠ []
  preset : ∀ half, suggestion.kind.half? = some half →
    context.valueType = some prompt.valueType.name ∧
    ∃ format, (suggestion.label, format) ∈ half.presets ∧
      prompt.halfConfig? half = some (.plain format)

/-- The completed text ends in a prompt that is what the completion advertises. -/
def Completes (suggestion : Suggestion) (text : Text) (context : TypingContext) : Prop :=
  ∃ found ∈ promptTags (suggestion.completed text context),
    found.span.stop = (suggestion.completed text context).length ∧
      suggestion.Describes context found.prompt

end Suggestion

/-- What is typed behind the last opening, `opened`, can become a prompt. -/
structure CanComplete (text : Text) (context : TypingContext) (front opened : Text) : Prop where
  text_eq : text = front ++ '\x7b' :: '%' :: opened
  no_percent : '%' ∉ opened
  /-- The opening belongs to no tag of the text. -/
  opening_free : ∀ found ∈ promptTags text, found.span.stop ≤ front.length
  /-- The completion brings the name, or it stands in front of the first colon. -/
  named : context.kind = .opening ∨
    ∃ name rest, Text.cutAt? ':' opened = some (name, rest) ∧ Text.trim (withoutMark name) ≠ []
  /-- Nothing was picked in front of the preset of a time of day. -/
  single : context.valueType = some ValueType.time.name → context.afterComma = false

/-- What is typed at the end of the text can become a prompt. -/
def IsCompletable (text : Text) (context : TypingContext) : Prop :=
  ∃ front opened, CanComplete text context front opened

variable {text front kept typed before : Text} {context : TypingContext}
  {suggestion : Suggestion} {offered : List Suggestion} {instant : Instant}

/-! ### From the typed text to the completed one -/

namespace Typing.IsTypedBehind

theorem isCompletable_iff (h : IsTypedBehind text context front kept) :
    IsCompletable text context ↔ IsFreeAt text front.length ∧
      (context.kind = .opening ∨ ∃ name rest,
        Text.cutAt? ':' (kept ++ context.query) = some (name, rest) ∧
          Text.trim (withoutMark name) ≠ []) ∧
      (context.valueType = some ValueType.time.name → context.afterComma = false) := by
  have hpercent := h.keeps.percent_notMem
  have hfree := isFreeAt_iff_of_opened front hpercent
  rw [← h.text_eq] at hfree
  constructor
  · rintro ⟨other, opened, hopened⟩
    obtain ⟨rfl, rfl⟩ := append_opening_inj (h.text_eq.symm.trans hopened.text_eq) hpercent
      hopened.no_percent
    exact ⟨hfree.2 hopened.opening_free, hopened.named, hopened.single⟩
  · rintro ⟨hopening, hnamed, hsingle⟩
    exact ⟨front, kept ++ context.query, h.text_eq, hpercent, hfree.1 hopening, hnamed, hsingle⟩

theorem completed_eq (h : IsTypedBehind text context front kept)
    (hinsert : suggestion.insertText = typed ++ tagClosing) :
    suggestion.completed text context = front ++ PromptTag.source (kept ++ typed) := by
  have htext : text = front ++ '\x7b' :: '%' :: kept ++ context.query := by
    rw [h.text_eq]
    simp
  rw [Suggestion.completed, h.start_eq, htext, List.take_left, hinsert]
  simp [PromptTag.source, tagClosing]

theorem completes_iff_source (h : IsTypedBehind text context front kept)
    (hinsert : suggestion.insertText = typed ++ tagClosing) (hinside : IsInside (kept ++ typed)) :
    suggestion.Completes text context ↔
      IsFreeAt (front ++ PromptTag.source (kept ++ typed)) front.length ∧
        suggestion.Describes context (Prompt.ofContent (PromptTag.ofInside (kept ++ typed)).content
          (PromptTag.ofInside (kept ++ typed)).isOptional) := by
  rw [Suggestion.Completes, h.completed_eq hinsert,
    exists_last_promptTag_iff (p := fun found => suggestion.Describes context found.prompt)
      hinside rfl]
  rfl

/-- What stays behind the opening decides whether the opening is free. -/
theorem isFreeAt_source_iff (h : IsTypedBehind text context front kept) (hne : kept ≠ [])
    (typed : Text) :
    IsFreeAt (front ++ PromptTag.source (kept ++ typed)) front.length ↔
      IsFreeAt text front.length := by
  obtain ⟨c, more, rfl⟩ := List.exists_cons_of_ne_nil hne
  rw [h.text_eq, PromptTag.source]
  exact ⟨fun hfree => isFreeAt_of_opening hfree _, fun hfree => isFreeAt_of_opening hfree _⟩

end Typing.IsTypedBehind

/-! ### What a completion describes -/

namespace Suggestion

theorem describes_iff_of_half?_eq_none {prompt : Prompt} (h : suggestion.kind.half? = none) :
    suggestion.Describes context prompt ↔ prompt.name ≠ [] := by
  constructor
  · exact Describes.name_ne_nil
  · intro hname
    refine ⟨hname, fun half hhalf => ?_⟩
    rw [h] at hhalf
    cases hhalf

/-- The labels of the presets of a half are different, so a label stands for one format. -/
theorem describes_iff_of_closesWith {prompt : Prompt} {half : Half} {preset : Text × Text}
    (hcloses : suggestion.ClosesWith context half preset)
    (htype : context.valueType = some prompt.valueType.name) :
    suggestion.Describes context prompt ↔
      prompt.name ≠ [] ∧ prompt.halfConfig? half = some (.plain preset.2) := by
  constructor
  · intro h
    obtain ⟨-, format, hformat, hconfig⟩ := h.preset half hcloses.half?_eq
    rw [hcloses.label_eq] at hformat
    have hsame := Half.presetFormat?_of_mem hformat
    rw [Half.presetFormat?_of_mem hcloses.mem] at hsame
    obtain rfl : preset.2 = format := Option.some.inj hsame
    exact ⟨h.name_ne_nil, hconfig⟩
  · rintro ⟨hname, hconfig⟩
    refine ⟨hname, fun other hother => ?_⟩
    rw [hcloses.half?_eq] at hother
    obtain rfl := Option.some.inj hother
    exact ⟨htype, preset.2, hcloses.label_eq ▸ hcloses.mem, hconfig⟩

end Suggestion

/-! ### Behind an opening -/

section

variable {mark blanks rest : Text} {c : Char}

theorem head?_append_ne (hblanks : Text.isBlankText blanks = true) (hc : isBlank c = false)
    (hrest : rest.head? ≠ some c) : (blanks ++ rest).head? ≠ some c := by
  cases blanks with
  | nil => exact hrest
  | cons d blanks =>
    intro hhead
    obtain rfl := Option.some.inj hhead
    rw [List.all_eq_true.1 hblanks d List.mem_cons_self] at hc
    cases hc

theorem Typing.IsMark.head?_append_ne (hmark : IsMark mark) (hrest : rest.head? ≠ some '\x7d') :
    (mark ++ rest).head? ≠ some '\x7d' := by
  rcases hmark with rfl | rfl
  · exact hrest
  · simp

theorem Typing.IsMark.withoutMark_append (hmark : IsMark mark) (hrest : rest.head? ≠ some '?') :
    withoutMark (mark ++ rest) = rest := by
  rcases hmark with rfl | rfl
  · exact if_neg hrest
  · rfl

/-- A mark or a blank behind an opening keeps earlier tags away from it. -/
theorem Typing.IsMark.isFreeAt (hmark : IsMark mark) (hblanks : Text.isBlankText blanks = true)
    (hrest : rest.head? ≠ some '\x7d') :
    IsFreeAt (front ++ '\x7b' :: '%' :: (mark ++ blanks ++ rest)) front.length := by
  apply isFreeAt_of_ne_brace
  rw [List.append_assoc]
  apply hmark.head?_append_ne
  exact NoteTemplate.head?_append_ne hblanks (by decide) hrest

/-- In front of what closes a prompt in place of a name there is nothing but blanks. -/
theorem promptName_of_mark (hmark : IsMark mark) (hne : blanks ≠ [])
    (hblanks : Text.isBlankText blanks = true)
    (htyped : typed = [' '] ∨ ∃ rest, typed = ':' :: rest) :
    promptName (PromptTag.ofInside (mark ++ blanks ++ typed)).content = [] := by
  have hlength : 2 ≤ (mark ++ blanks ++ typed).length := by
    have hblank := List.length_pos_iff.2 hne
    have hlast : 0 < typed.length := by
      rcases htyped with rfl | ⟨rest, rfl⟩ <;> simp
    simp only [List.length_append]
    omega
  have hbody : withoutMark (mark ++ blanks ++ typed) = blanks ++ typed := by
    rw [List.append_assoc, hmark.withoutMark_append]
    apply head?_append_ne hblanks (by decide)
    rcases htyped with rfl | ⟨rest, rfl⟩ <;> simp
  rcases htyped with rfl | ⟨rest, rfl⟩
  · apply PromptTag.promptName_eq_nil_of_blank hlength
    rw [hbody]
    simpa [Text.isBlankText] using ⟨List.all_eq_true.1 hblanks, by decide⟩
  · have hcolon : ':' ∉ blanks := notMem_of_isBlankText hblanks (by decide)
    rw [PromptTag.promptName_of_colon hlength hbody hcolon, Text.trim_eq_nil_iff]
    exact hblanks

end

namespace Typing.IsTypedBehind

variable {mark blanks rest : Text}

theorem isInside (h : IsTypedBehind text context front kept) (hpercent : '%' ∉ typed)
    (hne : kept ++ typed ≠ []) : IsInside (kept ++ typed) := by
  have hkept := h.keeps.percent_notMem
  rw [List.mem_append, not_or] at hkept
  refine ⟨hne, ?_⟩
  rw [List.mem_append, not_or]
  exact ⟨hkept.1, hpercent⟩

/-- Directly behind an opening every completion is what it advertises. -/
theorem completes_of_opening (h : IsTypedBehind text context front (mark ++ blanks))
    (hkind : context.kind = .opening) (hquery : context.query = [])
    (htype : context.valueType = none) (hmark : IsMark mark)
    (hblanks : Text.isBlankText blanks = true) (hmem : suggestion ∈ Suggestion.forOpening) :
    suggestion.Completes text context ∧ IsCompletable text context := by
  obtain ⟨hhalf, typed, hpercent, hinsert⟩ := Suggestion.insertText_of_mem_forOpening hmem
  have hinside : IsInside (mark ++ blanks ++ ' ' :: 'N' :: typed) :=
    h.isInside (by simpa using hpercent) (by simp)
  have hbody : withoutMark (mark ++ blanks ++ ' ' :: 'N' :: typed) =
      (blanks ++ [' ']) ++ 'N' :: typed := by
    rw [List.append_assoc, hmark.withoutMark_append]
    · simp
    · exact head?_append_ne hblanks (by decide) (by simp)
  constructor
  · rw [h.completes_iff_source hinsert hinside, Suggestion.describes_iff_of_half?_eq_none hhalf]
    constructor
    · rw [PromptTag.source, List.cons_append, List.cons_append, List.append_assoc]
      exact hmark.isFreeAt hblanks (by simp)
    · apply PromptTag.promptName_ne_nil_of_mem _ hbody _ (by decide) (by decide) (by decide)
      · simp only [List.length_append, List.length_cons]
        omega
      · rw [List.mem_append, not_or]
        exact ⟨notMem_of_isBlankText hblanks (by decide), by decide⟩
  · rw [h.isCompletable_iff, h.text_eq, hquery]
    exact ⟨hmark.isFreeAt hblanks (by simp), Or.inl hkind, by simp [htype]⟩

/-- A name without a colon is replaced by what closes the prompt. -/
theorem not_completes_of_name (h : IsTypedBehind text context front (mark ++ blanks))
    (hkind : context.kind = .name) (hmark : IsMark mark) (hne : blanks ≠ [])
    (hblanks : Text.isBlankText blanks = true) (hcolon : ':' ∉ context.query) {query : Text}
    (hmem : suggestion ∈ Suggestion.forName query) (hcloses : suggestion.Closes) :
    ¬suggestion.Completes text context ∧ ¬IsCompletable text context := by
  obtain ⟨hhalf, typed, hpercent, hinsert, htyped⟩ :=
    Suggestion.insertText_of_mem_forName hmem hcloses
  constructor
  · rw [h.completes_iff_source hinsert (h.isInside hpercent (by simp [hne])),
      Suggestion.describes_iff_of_half?_eq_none hhalf]
    rintro ⟨-, hname⟩
    exact hname (promptName_of_mark hmark hne hblanks htyped)
  · rw [h.isCompletable_iff]
    rintro ⟨-, hopening | ⟨name, rest, hcut, -⟩, -⟩
    · rw [hkind] at hopening
      cases hopening
    · have hnone : ':' ∉ mark ++ blanks ++ context.query := by
        have hmarkColon : ':' ∉ mark := by rcases hmark with rfl | rfl <;> simp
        simp only [List.mem_append, not_or]
        exact ⟨⟨hmarkColon, notMem_of_isBlankText hblanks (by decide)⟩, hcolon⟩
      rw [Text.cutAt?_eq_none_iff.2 hnone] at hcut
      cases hcut

/-! ### Behind a colon -/

theorem completes_iff_of_colon (h : IsTypedBehind text context front (before ++ ':' :: rest))
    (hinsert : suggestion.insertText = typed ++ tagClosing) (hpercent : '%' ∉ typed) :
    suggestion.Completes text context ↔ IsFreeAt text front.length ∧
      suggestion.Describes context
        (Prompt.ofContent (PromptTag.ofInside (before ++ ':' :: (rest ++ typed))).content
          (PromptTag.ofInside (before ++ ':' :: (rest ++ typed))).isOptional) := by
  rw [h.completes_iff_source hinsert (h.isInside hpercent (by simp)),
    h.isFreeAt_source_iff (by simp), List.append_assoc, List.cons_append]

section

variable (hbefore : IsNamePart before)

include hbefore

theorem isCompletable_iff_of_colon (h : IsTypedBehind text context front (before ++ ':' :: rest))
    (hkind : context.kind ≠ .opening) :
    IsCompletable text context ↔ IsFreeAt text front.length ∧
      Text.trim (withoutMark before) ≠ [] ∧
      (context.valueType = some ValueType.time.name → context.afterComma = false) := by
  rw [h.isCompletable_iff, List.append_assoc, List.cons_append,
    Text.cutAt?_append _ hbefore.no_colon]
  simp [hkind]

theorem withoutMark_eq_of_colon (rest : Text) :
    withoutMark (before ++ ':' :: rest) = withoutMark before ++ ':' :: rest ∧
      2 ≤ (before ++ ':' :: rest).length ∧ ':' ∉ withoutMark before := by
  refine ⟨withoutMark_append hbefore.ne_nil _, ?_, ?_⟩
  · have hpos := List.length_pos_iff.2 hbefore.ne_nil
    rw [List.length_append, List.length_cons]
    omega
  · exact fun hcolon => hbefore.no_colon ((withoutMark_sublist before).mem hcolon)

theorem completes_iff_of_valueType
    (h : IsTypedBehind text context front (before ++ ':' :: rest))
    (hkind : context.kind = .valueType) (htype : context.valueType = none) {query : Text}
    (hmem : suggestion ∈ Suggestion.forValueType query) (hcloses : suggestion.Closes) :
    suggestion.Completes text context ↔ IsCompletable text context := by
  obtain ⟨hhalf, typed, hpercent, hinsert⟩ :=
    Suggestion.insertText_of_mem_forValueType hmem hcloses
  obtain ⟨hmark, hlength, hcolon⟩ := withoutMark_eq_of_colon hbefore (rest ++ typed)
  rw [h.completes_iff_of_colon hinsert hpercent,
    isCompletable_iff_of_colon hbefore h (by simp [hkind]),
    Suggestion.describes_iff_of_half?_eq_none hhalf, Prompt.name_ofContent,
    PromptTag.promptName_of_colon hlength hmark hcolon]
  simp [htype]

end

end Typing.IsTypedBehind

/-! ### Behind a second colon -/

theorem Typing.IsPlain.isTrimmed {word : Text} (h : IsPlain word) : Text.IsTrimmed word := by
  have hsolid {c : Char} (hc : c ∈ word) : isBlank c = false := by
    have hplain := h c hc
    simp only [isPlainChar, Bool.and_eq_true, Bool.not_eq_true'] at hplain
    exact hplain.1.1.1.1.1
  rw [Text.isTrimmed_iff]
  exact ⟨fun c hc => hsolid (List.mem_of_mem_head? hc),
    fun c hc => hsolid (List.mem_of_mem_getLast? hc)⟩

section

variable {half : Half} {preset : Text × Text} {picked word blanks : Text}

theorem Typing.IsPicked.isTrimmed_append {afterComma : Bool} (h : IsPicked picked afterComma)
    (hpreset : preset ∈ half.presets) : Text.IsTrimmed (picked ++ preset.1) := by
  have hword := Half.isPlainWord_of_mem hpreset
  cases h with
  | nothing => exact hword.trimmed
  | first hne hplain => exact hplain.isTrimmed.append hword.trimmed hne hword.ne_nil [',']

/-- The prompt that a preset at the end of a tag gives. -/
theorem ofContent_of_preset {afterComma : Bool} (hbefore : IsNamePart before)
    (hword : IsPlain word) (hblanks : Text.isBlankText blanks = true)
    (hpicked : IsPicked picked afterComma) (hpreset : preset ∈ half.presets) (isOptional : Bool) :
    Prompt.ofContent (PromptTag.ofInside (before ++ ':' ::
        (word ++ ':' :: (blanks ++ picked) ++ (preset.1 ++ [' '])))).content isOptional =
      .ofParts (Text.trim (withoutMark before)) (ValueType.resolve? word) (picked ++ preset.1)
        isOptional := by
  have hplain := Half.isPlainWord_of_mem hpreset
  have hinside : word ++ ':' :: (blanks ++ picked) ++ (preset.1 ++ [' ']) =
      word ++ ':' :: (blanks ++ (picked ++ preset.1) ++ [' ']) := by
    simp
  rw [hinside]
  obtain ⟨hmark, hlength, hcolon⟩ := Typing.IsTypedBehind.withoutMark_eq_of_colon hbefore
    (word ++ ':' :: (blanks ++ (picked ++ preset.1) ++ [' ']))
  apply PromptTag.ofContent_of_detail hlength hmark hcolon (hword.notMem (by decide)) hblanks rfl
    (hpicked.isTrimmed_append hpreset) (List.append_ne_nil_of_right_ne_nil _ hplain.ne_nil)
  rw [List.getLast?_append_of_ne_nil _ hplain.ne_nil]
  exact hplain.not_marked

/-- The preset is the format of the prompt, but for a time of day behind a comma. -/
theorem describes_ofParts_iff {name : Text} {isOptional : Bool}
    (hcloses : suggestion.ClosesWith context half preset) (hword : IsPlain word)
    (htype : context.valueType = some (Text.lower word))
    (hpicked : IsPicked picked context.afterComma) :
    suggestion.Describes context
        (.ofParts name (ValueType.resolve? word) (picked ++ preset.1) isOptional) ↔
      name ≠ [] ∧ (context.valueType = some ValueType.time.name → context.afterComma = false) := by
  have hresolve {valueType : ValueType} (h : context.valueType = some valueType.name) :
      ValueType.resolve? word = some valueType := by
    apply ValueType.resolve?_of_lower hword.isTrimmed
    rw [htype] at h
    exact Option.some.inj h
  have hmem := hcloses.mem
  generalize hcomma : context.afterComma = afterComma at hpicked
  cases hcloses.asks with
  | date hdate hnone =>
    rw [hresolve hdate, Suggestion.describes_iff_of_closesWith hcloses hdate]
    rw [hcomma] at hnone
    cases hpicked with
    | nothing =>
      have hconfig := FormatConfig.ofDetail_preset hmem
      simp [Prompt.ofParts, Prompt.halfConfig?, Prompt.dateConfigOfDetail?, hconfig]
    | first hne hplain => cases hnone
  | time htime =>
    rw [hresolve htime, Suggestion.describes_iff_of_closesWith hcloses htime]
    cases hpicked with
    | nothing =>
      have hconfig := FormatConfig.ofDetail_preset hmem
      simp [Prompt.ofParts, Prompt.halfConfig?, Prompt.timeConfigOfDetail?, hconfig]
    | @first front hne hplain =>
      have hconfig := FormatConfig.ofDetail_behindComma_ne hmem front hmem
      simp [Prompt.ofParts, Prompt.halfConfig?, Prompt.timeConfigOfDetail?, hconfig, htime]
  | datetime hdatetime hpick =>
    rw [hresolve hdatetime, Suggestion.describes_iff_of_closesWith hcloses hdatetime]
    rw [hcomma] at hpick
    cases hpicked with
    | nothing => cases hpick
    | first hne hplain =>
      have hconfig := HalfConfigs.time_ofDetail_behindComma hmem (hplain.notMem (by decide))
      have hother : ValueType.datetime.name ≠ ValueType.time.name := by decide
      simp [Prompt.ofParts, Prompt.halfConfig?, Prompt.timeConfigOfDetail?, hconfig, hdatetime,
        hother]

theorem Typing.IsTypedBehind.completes_iff_of_format [LocalZone]
    (h : IsTypedBehind text context front
      (before ++ ':' :: (word ++ ':' :: (blanks ++ picked))))
    (hkind : context.kind = .format) (hbefore : IsNamePart before) (hword : IsPlain word)
    (htype : context.valueType = some (Text.lower word))
    (hblanks : Text.isBlankText blanks = true) (hpicked : IsPicked picked context.afterComma)
    (hoffered : Suggestion.forFormat context instant = .ok offered) (hmem : suggestion ∈ offered)
    (hcloses : suggestion.Closes) :
    suggestion.Completes text context ↔ IsCompletable text context := by
  obtain ⟨half, preset, hpreset⟩ :=
    Suggestion.exists_closesWith_of_mem_forFormat hoffered hmem hcloses
  have hpercent : '%' ∉ preset.1 ++ [' '] := by
    simpa using (Half.isPlainWord_of_mem hpreset.mem).no_percent
  rw [h.completes_iff_of_colon hpreset.insertText_eq hpercent,
    isCompletable_iff_of_colon hbefore h (by simp [hkind]),
    ofContent_of_preset hbefore hword hblanks hpicked hpreset.mem,
    describes_ofParts_iff hpreset hword htype hpicked]

end

/-! ### Every kind -/

/-- A completion that closes a prompt is what it advertises exactly where the typed text is
completable. -/
theorem Suggestion.completes_iff_isCompletable [LocalZone]
    (htyping : typingContext? text = some context) (hoffered : suggestionsFor context instant = .ok offered) (hmem : suggestion ∈ offered)
    (hcloses : suggestion.Closes) :
    suggestion.Completes text context ↔ IsCompletable text context := by
  rw [suggestionsFor] at hoffered
  rcases exists_isTypedBehind htyping with hkind | hkind | ⟨front, kept, h⟩
  · rw [hkind] at hoffered
    exact absurd hcloses (not_closes_of_mem_forVariable hoffered hmem)
  · rw [hkind] at hoffered
    exact absurd hcloses (not_closes_of_mem_forFormatToken hoffered hmem)
  have hkeeps := h.keeps
  cases hkeeps with
  | opening hmark hblanks =>
    obtain rfl := Except.ok.inj hoffered
    obtain ⟨hcompletes, hcompletable⟩ :=
      h.completes_of_opening rfl rfl rfl hmark hblanks hmem
    exact iff_of_true hcompletes hcompletable
  | name hmark hne hblanks hcolon hpercent =>
    obtain rfl := Except.ok.inj hoffered
    obtain ⟨hcompletes, hcompletable⟩ :=
      h.not_completes_of_name rfl hmark hne hblanks hcolon hmem hcloses
    exact iff_of_false hcompletes hcompletable
  | valueType hbefore hblanks hquery =>
    obtain rfl := Except.ok.inj hoffered
    exact h.completes_iff_of_valueType hbefore rfl rfl hmem hcloses
  | format hbefore hword hblanks hpicked hquery =>
    exact h.completes_iff_of_format rfl hbefore hword rfl hblanks hpicked hoffered hmem hcloses

section

attribute [local instance] LocalZone.utc

/-- A title in which the time of a meeting is being typed. -/
def meetingTitle : Text := "\x7b% Day %\x7d at \x7b%? Start:DateTime: ISO,24".toList

/-- What is typed at its end. -/
def meetingContext : TypingContext where
  kind := .format
  query := "24".toList
  start := 37
  name := some "Start".toList
  valueType := some "datetime".toList
  formatContent := none
  afterComma := true

/-- The hours of a day, as they are offered at midnight. -/
def hourSuggestion : Suggestion where
  label := "24-hour".toList
  description := "Time format: HH:mm".toList
  insertText := "24-hour %\x7d".toList
  kind := .timeFormat
  example? := some "00:00".toList
  category := none

/-- Behind the comma of a date with time the hours of a day close the prompt. -/
theorem Suggestion.completes_meetingTitle :
    typingContext? meetingTitle = some meetingContext ∧
    (∃ offered, suggestionsFor meetingContext ⟨⟨2024, 3, 5, by decide⟩, .midnight, none, false⟩ =
      .ok offered ∧ hourSuggestion ∈ offered) ∧
    hourSuggestion.Closes ∧ hourSuggestion.Completes meetingTitle meetingContext := by
  have htyping : typingContext? meetingTitle = some meetingContext := by decide +kernel
  have hcloses : hourSuggestion.Closes := by decide
  have hoffered : suggestionsFor meetingContext ⟨⟨2024, 3, 5, by decide⟩, .midnight, none, false⟩ =
      .ok [hourSuggestion, ⟨"24-compact".toList, "Time format: HHmm".toList,
        "24-compact %\x7d".toList, .timeFormat, some "0000".toList, none⟩] := rfl
  refine ⟨htyping, ⟨_, hoffered, List.mem_cons_self⟩, hcloses, ?_⟩
  apply (completes_iff_isCompletable htyping hoffered List.mem_cons_self hcloses).2
  exact ⟨"\x7b% Day %\x7d at ".toList, "? Start:DateTime: ISO,24".toList, rfl, by decide,
    by decide +kernel, Or.inr ⟨_, _, rfl, by decide⟩, by decide⟩

/-- What closes a prompt behind a name that is being typed takes the place of the name. -/
theorem Suggestion.not_completes_typedName :
    ∃ context offered suggestion, typingContext? "\x7b% num".toList = some context ∧
      suggestionsFor context ⟨⟨2024, 3, 5, by decide⟩, .midnight, none, false⟩ = .ok offered ∧
      suggestion ∈ offered ∧ suggestion.Closes ∧
      ¬suggestion.Completes "\x7b% num".toList context := by
  refine ⟨⟨.name, "num".toList, 3, none, none, none, false⟩, forName "num".toList,
    simple .grammar ":number %\x7d" "Numeric input" ":number %\x7d", by decide +kernel, rfl,
    by decide, by decide, ?_⟩
  rintro ⟨found, hfound, -, hdescribes⟩
  have hnames : ∀ found ∈ promptTags "\x7b% :number %\x7d".toList, found.prompt.name = [] := by
    decide +kernel
  exact hdescribes.name_ne_nil (hnames found hfound)

end

end NoteTemplate
