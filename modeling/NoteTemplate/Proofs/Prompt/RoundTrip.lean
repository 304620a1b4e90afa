import NoteTemplate.Proofs.Prompt.LostMark
import NoteTemplate.Proofs.Prompt.TagReading

/-!
# Writing a prompt and reading it back

A prompt that is well formed is read back from the tag that is written for it, exactly when
the tag is optional or no mark stands bare at its end (`extractPrompts_tag_iff`).
-/

namespace NoteTemplate

namespace Prompt

variable {prompt : Prompt}

/-- A text with one tag that has a name gives one prompt. -/
theorem map_question_extractPrompts {text : Text} {found : TagOccurrence}
    (htags : promptTags text = [found]) (hname : found.prompt.name ≠ []) (next : Nat) :
    (extractPrompts next text).1.map question = [found.prompt.question] := by
  simp [extractPrompts, htags, promptsOfTags, promptsOfTagsFrom, hname, numberPrompts, question]

theorem name_of_question_eq {left right : Prompt} (h : left.question = right.question) :
    left.name = right.name := by
  have hname := congrArg Prompt.name h
  exact hname

theorem IsTaggable.trim_padded_content (h : prompt.IsTaggable) {after : Text}
    (hafter : Text.isBlankText after = true) :
    Text.trim (' ' :: prompt.content ++ after) = prompt.content := by
  have hblank : Text.isBlankText [' '] = true := by decide
  exact Text.trim_padded h.isDetail_content.trimmed hblank hafter

/-- What is read from a tag that loses no mark. -/
theorem IsTaggable.extractPrompts_tag (h : prompt.IsTaggable)
    (hclosed : prompt.isOptional = true ∨ prompt.detailText.getLast? ≠ some '?') (next : Nat) :
    (extractPrompts next prompt.tag).1.map question =
      [(ofParts prompt.name (some prompt.valueType) prompt.detailText
        prompt.isOptional).question] := by
  have hpercent := h.isDetail_content.no_percent
  have hread {found : TagOccurrence} (htags : promptTags prompt.tag = [found])
      (hprompt : found.prompt.question = (ofParts prompt.name (some prompt.valueType)
        prompt.detailText prompt.isOptional).question) :
      (extractPrompts next prompt.tag).1.map question =
        [(ofParts prompt.name (some prompt.valueType) prompt.detailText
          prompt.isOptional).question] := by
    have hname : found.prompt.name ≠ [] := by
      rw [name_of_question_eq hprompt]
      exact h.name.ne_nil
    rw [map_question_extractPrompts htags hname, hprompt]
  cases hoptional : prompt.isOptional with
  | true =>
    have htag : prompt.tag = writeTag prompt.content true := by rw [tag, hoptional]
    have htags := promptTags_writeTag_optional hpercent
    rw [← htag] at htags
    rw [← hoptional]
    apply hread htags
    have hblank : Text.isBlankText [' '] = true := by decide
    have hquestion := h.question_ofContent (h.trim_padded_content hblank)
    rw [hoptional] at hquestion ⊢
    exact hquestion
  | false =>
    have htag : prompt.tag = writeTag prompt.content false := by rw [tag, hoptional]
    have hmark := hclosed.resolve_left (by simp [hoptional])
    rw [ne_eq, ← h.getLast?_content, List.getLast?_eq_some_getLast h.content_ne_nil,
      Option.some.injEq] at hmark
    have hblank := h.isDetail_content.trimmed.isBlank_getLast h.content_ne_nil
    have htags := promptTags_writeTag_required hpercent h.content_ne_nil hblank hmark
    rw [← htag] at htags
    rw [← hoptional]
    apply hread htags
    have hempty : Text.isBlankText [] = true := rfl
    have hquestion := h.question_ofContent (h.trim_padded_content hempty)
    rw [hoptional, List.append_nil] at hquestion
    rw [hoptional]
    exact hquestion

/-- A prompt is read back when no mark is lost. -/
theorem IsLegible.extractPrompts_tag (h : prompt.IsLegible)
    (hclosed : prompt.isOptional = true ∨ ¬prompt.EndsInMark) (next : Nat) :
    (extractPrompts next prompt.tag).1.map question = [prompt.question] := by
  rw [← h.getLast?_detailText_iff] at hclosed
  rw [h.isTaggable.extractPrompts_tag hclosed next, h.question_ofParts]

/-- The mark at the end of a required tag is lost, and with it a part of the prompt. -/
theorem IsLegible.extractPrompts_tag_ne (h : prompt.IsLegible)
    (hrequired : prompt.isOptional = false) (hmark : prompt.EndsInMark) (next : Nat) :
    (extractPrompts next prompt.tag).1.map question ≠ [prompt.question] := by
  have hname := h.isPlainName
  have hword := isPlainWord_word prompt.valueType
  have htrim : Text.trim prompt.name = prompt.name := h.name_trimmed
  obtain ⟨rest, hrest, hne⟩ := h.exists_read hmark
  have htype : prompt.valueType ≠ .text := by
    intro htype
    simp [detailText_text htype] at hrest
  have hcontent : prompt.content =
      prompt.name ++ ':' :: (prompt.valueType.word ++ ':' :: rest) ++ ['?'] := by
    rw [content_detailed htype (by simp [hrest]), hrest]
    simp
  have hpercent : '%' ∉ prompt.name ++ ':' :: (prompt.valueType.word ++ ':' :: rest) := by
    have hcontentPercent := h.isTaggable.isDetail_content.no_percent
    rw [hcontent] at hcontentPercent
    exact fun hmem => hcontentPercent (List.mem_append_left _ hmem)
  have htag : prompt.tag = writeTag prompt.content false := by rw [tag, hrequired]
  have htags := promptTags_writeTag_of_mark hpercent
  rw [← hcontent, ← htag] at htags
  have htext : Text.trim (' ' :: (prompt.name ++ ':' :: (prompt.valueType.word ++ ':' :: rest))) =
      prompt.name ++ ':' :: (prompt.valueType.word ++ ':' :: Text.trimRight rest) := by
    have hcolon : Text.IsTrimmed [':'] := by decide
    have hleft := h.name_trimmed.append hcolon hname.ne_nil (by simp)
      (':' :: prompt.valueType.word)
    have hblank : Text.isBlankText [' '] = true := by decide
    have hcut := Text.trim_append hleft (by simp) hblank rest
    simpa using hcut
  have hprompt := ofContent_detailed htext hname.no_colon (colon_notMem_word _) false
  rw [htrim, resolve?_word] at hprompt
  have hread (span : Span Nat) : TagOccurrence.prompt ⟨span, ⟨false,
      ' ' :: (prompt.name ++ ':' :: (prompt.valueType.word ++ ':' :: rest)), true⟩⟩ =
        ofParts prompt.name (some prompt.valueType) (Text.trim (Text.trimRight rest)) false := hprompt
  rw [map_question_extractPrompts htags (by rw [hread]; exact hname.ne_nil), hread]
  intro heq
  exact hne (List.cons.inj heq).1

/-- A legible prompt is read back from its tag exactly when no mark is lost. -/
theorem IsLegible.extractPrompts_eq_iff (h : prompt.IsLegible) (next : Nat) :
    (extractPrompts next prompt.tag).1.map question = [prompt.question] ↔
      prompt.isOptional = true ∨ ¬prompt.EndsInMark := by
  constructor
  · intro hread
    by_contra hclosed
    rw [not_or, not_not, Bool.not_eq_true] at hclosed
    exact h.extractPrompts_tag_ne hclosed.1 hclosed.2 next hread
  · intro hclosed
    exact h.extractPrompts_tag hclosed next

theorem IsWellFormed.extractPrompts_tag (h : prompt.IsWellFormed)
    (hclosed : prompt.isOptional = true ∨ ¬prompt.EndsInMark) (next : Nat) :
    (extractPrompts next prompt.tag).1.map question = [prompt.question] :=
  h.isLegible.extractPrompts_tag hclosed next

theorem IsWellFormed.extractPrompts_tag_ne (h : prompt.IsWellFormed)
    (hrequired : prompt.isOptional = false) (hmark : prompt.EndsInMark) (next : Nat) :
    (extractPrompts next prompt.tag).1.map question ≠ [prompt.question] :=
  h.isLegible.extractPrompts_tag_ne hrequired hmark next

/-- A well-formed prompt is read back from its tag exactly when no mark is lost. -/
theorem extractPrompts_tag_iff (h : prompt.IsWellFormed) (next : Nat) :
    (extractPrompts next prompt.tag).1.map question = [prompt.question] ↔
      prompt.isOptional = true ∨ ¬prompt.EndsInMark := by
  constructor
  · intro hread
    by_contra hclosed
    rw [not_or, not_not, Bool.not_eq_true] at hclosed
    exact h.extractPrompts_tag_ne hclosed.1 hclosed.2 next hread
  · intro hclosed
    exact h.extractPrompts_tag hclosed next

/-- A required date with time whose halves are written bare, with a colon, parentheses and
a question mark in them. -/
def appointment : Prompt where
  name := "When? (start)".toList
  valueType := .datetime
  isOptional := false
  dateConfig := some (.custom "[day: ?] D".toList)
  timeConfig := some (.custom "format(h, mm".toList)
  options := none
  id := "prompt-7".toList
  isInlineConfigured := true

theorem isWellFormed_appointment : appointment.IsWellFormed where
  name_accepted := by decide
  name_trimmed := by decide
  dateConfig_isSome := rfl
  timeConfig_isSome := rfl
  options_isSome := rfl
  date := by
    rintro config ⟨rfl⟩
    exact .custom _ (by decide) (by decide)
  time := by
    rintro config ⟨rfl⟩
    exact .custom _ (by decide) (by decide)
  readable := by
    intro _ _
    have hdate {format : Text} (h : appointment.halfConfigs.date = .custom format) :
        format = "[day: ?] D".toList := (FormatConfig.custom_injective h).symm
    have htime {format : Text} (h : appointment.halfConfigs.time = .custom format) :
        format = "format(h, mm".toList := (FormatConfig.custom_injective h).symm
    constructor
    · rintro format (h | h)
      · rw [hdate h]
        decide
      · rw [htime h]
        decide
    · rintro format (h | h)
      · rw [hdate h]
        rintro (_ | _) <;> decide
      · rw [htime h]
        rintro (_ | _) <;> decide
    · intro format h
      rw [hdate h]
      decide
    · decide
  options := by
    rintro options ⟨⟩

theorem extractPrompts_tag_appointment :
    appointment.IsWellFormed ∧
      (extractPrompts 0 appointment.tag).1.map question = [appointment.question] := by
  refine ⟨isWellFormed_appointment, ?_⟩
  rw [extractPrompts_tag_iff isWellFormed_appointment 0]
  right
  intro hends
  cases hends with
  | option options option hoptions _ =>
    have hnone : appointment.options = none := rfl
    rw [hnone] at hoptions
    cases hoptions
  | timeHalf format _ _ htime hmark =>
    have hformat : format = "format(h, mm".toList := (FormatConfig.custom_injective htime).symm
    rw [hformat] at hmark
    revert hmark
    decide

end Prompt

end NoteTemplate
