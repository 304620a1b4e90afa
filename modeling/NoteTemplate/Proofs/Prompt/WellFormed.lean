import NoteTemplate.Proofs.Prompt.PairReading
import NoteTemplate.Prompt.Name

/-!
# Well-formed prompts

A prompt is well formed when its name is accepted, when it has the configurations that its
type needs, and when these can be written into a tag.  Then it is legible: what the content
that is written for it means (`question_ofContent`) is the prompt (`question_ofParts`).
-/

namespace NoteTemplate

namespace Prompt

/-- The configurations of both halves, where a half that is missing is the default. -/
def halfConfigs (prompt : Prompt) : HalfConfigs := ⟨prompt.config .date, prompt.config .time⟩

/-- The prompt has the configurations that its type needs and no others, and they can be
written into a tag. -/
structure IsWellFormed (prompt : Prompt) : Prop where
  name_accepted : NameProblem.ofName? prompt.name = none
  name_trimmed : Text.IsTrimmed prompt.name
  dateConfig_isSome : prompt.dateConfig.isSome = prompt.valueType.hasDate
  timeConfig_isSome : prompt.timeConfig.isSome = prompt.valueType.hasTime
  options_isSome : prompt.options.isSome = prompt.valueType.hasOptions
  date : ∀ config, prompt.dateConfig = some config → config.IsWritable .date
  time : ∀ config, prompt.timeConfig = some config → config.IsWritable .time
  readable : prompt.valueType = .datetime → prompt.halfConfigs.AreApart →
    prompt.halfConfigs.AreReadable
  options : ∀ options, prompt.options = some options →
    ∃ texts, options = texts.map StoredText.text ∧ AreListable texts

/-- The prompt has the configurations that its type needs and no others, and they are read
back from the detail that is written for them.  A word may be the name of a preset of the
other half. -/
structure IsLegible (prompt : Prompt) : Prop where
  name_accepted : NameProblem.ofName? prompt.name = none
  name_trimmed : Text.IsTrimmed prompt.name
  dateConfig_isSome : prompt.dateConfig.isSome = prompt.valueType.hasDate
  timeConfig_isSome : prompt.timeConfig.isSome = prompt.valueType.hasTime
  options_isSome : prompt.options.isSome = prompt.valueType.hasOptions
  date : ∀ config, prompt.dateConfig = some config → config.IsWritable .date
  time : ∀ config, prompt.timeConfig = some config → config.IsWritable .time
  paired : prompt.valueType = .datetime → prompt.halfConfigs.AreApart →
    prompt.halfConfigs.ArePaired
  options : ∀ options, prompt.options = some options →
    ∃ texts, options = texts.map StoredText.text ∧ AreListable texts

/-- What is written behind the second colon, empty when there is none. -/
def detailText (prompt : Prompt) : Text := prompt.detail?.getD []

/-! ### The detail -/

theorem dateConfig_eq_config {prompt : Prompt} (h : prompt.dateConfig.isSome = true) :
    prompt.dateConfig = some (prompt.config .date) := by
  obtain ⟨config, hconfig⟩ := Option.isSome_iff_exists.1 h
  simp [Prompt.config, hconfig]

theorem timeConfig_eq_config {prompt : Prompt} (h : prompt.timeConfig.isSome = true) :
    prompt.timeConfig = some (prompt.config .time) := by
  obtain ⟨config, hconfig⟩ := Option.isSome_iff_exists.1 h
  simp [Prompt.config, hconfig]

theorem IsWellFormed.isLegible {prompt : Prompt} (h : prompt.IsWellFormed) : prompt.IsLegible where
  name_accepted := h.name_accepted
  name_trimmed := h.name_trimmed
  dateConfig_isSome := h.dateConfig_isSome
  timeConfig_isSome := h.timeConfig_isSome
  options_isSome := h.options_isSome
  date := h.date
  time := h.time
  paired htype hapart := by
    have hdate := h.dateConfig_isSome
    have htime := h.timeConfig_isSome
    rw [htype] at hdate htime
    have hwritable : prompt.halfConfigs.AreWritable :=
      ⟨h.date _ (dateConfig_eq_config hdate), h.time _ (timeConfig_eq_config htime),
        h.readable htype⟩
    exact hwritable.areLegible.paired hapart
  options := h.options

namespace IsLegible

variable {prompt : Prompt}

theorem dateConfig_eq (h : prompt.IsLegible) (hdate : prompt.valueType.hasDate = true) :
    prompt.dateConfig = some (prompt.config .date) :=
  dateConfig_eq_config (h.dateConfig_isSome.trans hdate)

theorem timeConfig_eq (h : prompt.IsLegible) (htime : prompt.valueType.hasTime = true) :
    prompt.timeConfig = some (prompt.config .time) :=
  timeConfig_eq_config (h.timeConfig_isSome.trans htime)

theorem options_eq (h : prompt.IsLegible) (hoptions : prompt.valueType.hasOptions = true) :
    ∃ texts, prompt.options = some (texts.map StoredText.text) ∧ AreListable texts := by
  obtain ⟨options, heq⟩ := Option.isSome_iff_exists.1 (h.options_isSome.trans hoptions)
  obtain ⟨texts, rfl, htexts⟩ := h.options options heq
  exact ⟨texts, heq, htexts⟩

theorem areLegible (h : prompt.IsLegible) (htype : prompt.valueType = .datetime) :
    prompt.halfConfigs.AreLegible where
  date := h.date _ (h.dateConfig_eq (by rw [htype]; rfl))
  time := h.time _ (h.timeConfig_eq (by rw [htype]; rfl))
  paired := h.paired htype

end IsLegible

theorem detailText_date {prompt : Prompt} (htype : prompt.valueType = .date) :
    prompt.detailText = ((prompt.config .date).detail? .date).getD [] := by
  rw [detailText, detail?, htype]

theorem detailText_time {prompt : Prompt} (htype : prompt.valueType = .time) :
    prompt.detailText = ((prompt.config .time).detail? .time).getD [] := by
  rw [detailText, detail?, htype]

theorem detailText_datetime {prompt : Prompt} (htype : prompt.valueType = .datetime) :
    prompt.detailText = prompt.halfConfigs.detail := by
  rw [detailText, detail?, htype]
  rfl

theorem detailText_options {prompt : Prompt} {texts : List Text}
    (hoptions : prompt.valueType.hasOptions = true)
    (htexts : prompt.options = some (texts.map StoredText.text)) :
    prompt.detailText = Text.join [','] texts := by
  have hplain : (texts.map StoredText.text).map StoredText.plainText = texts := by
    rw [List.map_map]
    exact List.map_id' texts
  have hlist : prompt.optionList = texts.map StoredText.text := by simp [optionList, htexts]
  have hdetail : prompt.detail? =
      if prompt.optionList.isEmpty then none
      else some (Text.join [','] (prompt.optionList.map StoredText.plainText)) := by
    rw [detail?]
    split <;> simp_all [ValueType.hasOptions]
  rw [detailText, hdetail, hlist, hplain]
  cases texts <;> simp

namespace IsLegible

variable {prompt : Prompt}

theorem isDetail_detailText (h : prompt.IsLegible) : IsDetail prompt.detailText := by
  have hnone : IsDetail [] := ⟨Text.isTrimmed_nil, by simp⟩
  have hoptions (hoptions : prompt.valueType.hasOptions = true) : IsDetail prompt.detailText := by
    obtain ⟨texts, heq, htexts⟩ := h.options_eq hoptions
    rw [detailText_options hoptions heq]
    exact isDetail_join htexts
  cases htype : prompt.valueType with
  | text => rwa [detailText, detail?, htype]
  | numeric => rwa [detailText, detail?, htype]
  | date =>
    rw [detailText_date htype]
    exact (h.date _ (h.dateConfig_eq (by rw [htype]; rfl))).isDetail_detail?
  | time =>
    rw [detailText_time htype]
    exact (h.time _ (h.timeConfig_eq (by rw [htype]; rfl))).isDetail_detail?
  | datetime =>
    rw [detailText_datetime htype]
    exact (h.areLegible htype).isDetail_detail
  | list => exact hoptions (by rw [htype]; rfl)
  | multilist => exact hoptions (by rw [htype]; rfl)

/-- The date format is read back from the detail. -/
theorem dateConfigOfDetail?_detailText (h : prompt.IsLegible) :
    dateConfigOfDetail? prompt.detailText prompt.valueType = prompt.dateConfig := by
  have hnone (hdate : prompt.valueType.hasDate = false) : none = prompt.dateConfig := by
    have hsome := h.dateConfig_isSome
    rw [hdate] at hsome
    exact (Option.not_isSome_iff_eq_none.1 (by simp [hsome])).symm
  cases htype : prompt.valueType with
  | date =>
    have hconfig := h.dateConfig_eq (by rw [htype]; rfl)
    rw [detailText_date htype, dateConfigOfDetail?, (h.date _ hconfig).ofDetail_detail?, hconfig]
  | datetime =>
    rw [detailText_datetime htype, dateConfigOfDetail?, (h.areLegible htype).ofDetail_detail,
      h.dateConfig_eq (by rw [htype]; rfl)]
    rfl
  | text => exact hnone (by rw [htype]; rfl)
  | numeric => exact hnone (by rw [htype]; rfl)
  | time => exact hnone (by rw [htype]; rfl)
  | list => exact hnone (by rw [htype]; rfl)
  | multilist => exact hnone (by rw [htype]; rfl)

/-- The time format is read back from the detail. -/
theorem timeConfigOfDetail?_detailText (h : prompt.IsLegible) :
    timeConfigOfDetail? prompt.detailText prompt.valueType = prompt.timeConfig := by
  have hnone (htime : prompt.valueType.hasTime = false) : none = prompt.timeConfig := by
    have hsome := h.timeConfig_isSome
    rw [htime] at hsome
    exact (Option.not_isSome_iff_eq_none.1 (by simp [hsome])).symm
  cases htype : prompt.valueType with
  | time =>
    have hconfig := h.timeConfig_eq (by rw [htype]; rfl)
    rw [detailText_time htype, timeConfigOfDetail?, (h.time _ hconfig).ofDetail_detail?, hconfig]
  | datetime =>
    rw [detailText_datetime htype, timeConfigOfDetail?, (h.areLegible htype).ofDetail_detail,
      h.timeConfig_eq (by rw [htype]; rfl)]
    rfl
  | text => exact hnone (by rw [htype]; rfl)
  | numeric => exact hnone (by rw [htype]; rfl)
  | date => exact hnone (by rw [htype]; rfl)
  | list => exact hnone (by rw [htype]; rfl)
  | multilist => exact hnone (by rw [htype]; rfl)

/-- The options are read back from the detail. -/
theorem optionsOfDetail_detailText (h : prompt.IsLegible) :
    (if prompt.valueType.hasOptions then
      some ((optionsOfDetail prompt.detailText).map StoredText.text) else none) =
        prompt.options := by
  by_cases hoptions : prompt.valueType.hasOptions = true
  · obtain ⟨texts, heq, htexts⟩ := h.options_eq hoptions
    rw [if_pos hoptions, detailText_options hoptions heq, optionsOfDetail_join htexts, heq]
  · have hsome := h.options_isSome
    rw [Bool.eq_false_iff.2 hoptions] at hsome
    rw [if_neg hoptions]
    exact (Option.not_isSome_iff_eq_none.1 (by simp [hsome])).symm

/-- A prompt is given by its name, its type and its detail. -/
theorem question_ofParts (h : prompt.IsLegible) :
    (ofParts prompt.name (some prompt.valueType) prompt.detailText prompt.isOptional).question =
      prompt.question := by
  simp only [question, ofParts, Option.getD_some, h.dateConfigOfDetail?_detailText,
    h.timeConfigOfDetail?_detailText, h.optionsOfDetail_detailText]

end IsLegible

/-! ### The content -/

/-- A name that is accepted has nothing in it that is read in another way. -/
structure IsPlainName (name : Text) : Prop where
  ne_nil : name ≠ []
  no_percent : '%' ∉ name
  no_colon : ':' ∉ name
  not_marked : name.getLast? ≠ some '?'

theorem isPlainName_of_accepted {name : Text} (haccepted : NameProblem.ofName? name = none)
    (htrimmed : Text.IsTrimmed name) : IsPlainName name := by
  have htrim : Text.trim name = name := htrimmed
  simp only [NameProblem.ofName?, htrim] at haccepted
  split at haccepted
  · simp at haccepted
  · next hempty =>
    split at haccepted
    · simp at haccepted
    · next hcharacter =>
      split at haccepted
      · simp at haccepted
      · next hcolon =>
        split at haccepted
        · simp at haccepted
        · next hmark =>
          refine ⟨by simpa using hempty, ?_, by simpa using hcolon, ?_⟩
          · intro hmem
            apply hcharacter
            rw [List.any_eq_true]
            exact ⟨'%', hmem, by decide⟩
          · intro hlast
            apply hmark
            simp [hlast]

/-- The name and the detail of a prompt can be written into a tag. -/
structure IsTaggable (prompt : Prompt) : Prop where
  name : IsPlainName prompt.name
  name_trimmed : Text.IsTrimmed prompt.name
  detail : IsDetail prompt.detailText

theorem IsLegible.isPlainName {prompt : Prompt} (h : prompt.IsLegible) :
    IsPlainName prompt.name := isPlainName_of_accepted h.name_accepted h.name_trimmed

theorem IsLegible.isTaggable {prompt : Prompt} (h : prompt.IsLegible) : prompt.IsTaggable :=
  ⟨h.isPlainName, h.name_trimmed, h.isDetail_detailText⟩

theorem isPlainWord_word (valueType : ValueType) : Half.IsPlainWord valueType.word := by
  cases valueType <;> decide

theorem colon_notMem_word (valueType : ValueType) : ':' ∉ valueType.word := by
  cases valueType <;> decide

theorem resolve?_word (valueType : ValueType) :
    ValueType.resolve? valueType.word = some valueType := by
  cases valueType <;> decide

theorem content_text {prompt : Prompt} (htype : prompt.valueType = .text) :
    prompt.content = prompt.name := by
  simp [content, htype]

theorem detailText_text {prompt : Prompt} (htype : prompt.valueType = .text) :
    prompt.detailText = [] := by
  simp [detailText, detail?, htype]

theorem content_typed {prompt : Prompt} (htype : prompt.valueType ≠ .text)
    (hdetail : prompt.detailText = []) :
    prompt.content = prompt.name ++ ':' :: prompt.valueType.word := by
  rw [detailText] at hdetail
  cases hvalue : prompt.valueType <;> simp_all [content]

theorem content_detailed {prompt : Prompt} (htype : prompt.valueType ≠ .text)
    (hdetail : prompt.detailText ≠ []) :
    prompt.content = prompt.name ++ ':' :: (prompt.valueType.word ++ ':' :: prompt.detailText) := by
  rw [detailText] at hdetail ⊢
  cases hvalue : prompt.valueType <;> simp_all [content]

/-- What ends the content of a tag, apart from its detail, is no question mark. -/
theorem IsTaggable.getLast?_content {prompt : Prompt} (h : prompt.IsTaggable) :
    prompt.content.getLast? = some '?' ↔ prompt.detailText.getLast? = some '?' := by
  have hword := isPlainWord_word prompt.valueType
  by_cases htype : prompt.valueType = .text
  · rw [content_text htype, detailText_text htype]
    simp [h.name.not_marked]
  · by_cases hdetail : prompt.detailText = []
    · rw [content_typed htype hdetail, hdetail, List.getLast?_append_of_ne_nil _ (by simp),
        List.getLast?_cons_of_ne_nil hword.ne_nil]
      simp [hword.not_marked]
    · rw [content_detailed htype hdetail, List.getLast?_append_of_ne_nil _ (by simp),
        ← List.cons_append, List.getLast?_append_of_ne_nil _ (by simp),
        List.getLast?_cons_of_ne_nil hdetail]

theorem IsTaggable.isDetail_content {prompt : Prompt} (h : prompt.IsTaggable) :
    IsDetail prompt.content := by
  have hname := h.name
  have hword := isPlainWord_word prompt.valueType
  have hdetail := h.detail
  by_cases htype : prompt.valueType = .text
  · rw [content_text htype]
    exact ⟨h.name_trimmed, hname.no_percent⟩
  · by_cases hempty : prompt.detailText = []
    · rw [content_typed htype hempty]
      constructor
      · have htrimmed := h.name_trimmed.append hword.trimmed hname.ne_nil hword.ne_nil [':']
        rwa [List.append_assoc] at htrimmed
      · simp [hname.no_percent, hword.no_percent]
    · rw [content_detailed htype hempty]
      constructor
      · have htrimmed := h.name_trimmed.append hdetail.trimmed hname.ne_nil hempty
          (':' :: prompt.valueType.word ++ [':'])
        simpa using htrimmed
      · simp [hname.no_percent, hword.no_percent, hdetail.no_percent]

theorem IsTaggable.content_ne_nil {prompt : Prompt} (h : prompt.IsTaggable) :
    prompt.content ≠ [] := by
  have hname := h.name.ne_nil
  by_cases htype : prompt.valueType = .text
  · rwa [content_text htype]
  · by_cases hempty : prompt.detailText = []
    · simp [content_typed htype hempty]
    · simp [content_detailed htype hempty]

/-- A content is read back whatever blanks surround it. -/
theorem IsTaggable.question_ofContent {prompt : Prompt} (h : prompt.IsTaggable) {text : Text}
    (htext : Text.trim text = prompt.content) :
    (ofContent text prompt.isOptional).question =
      (ofParts prompt.name (some prompt.valueType) prompt.detailText
        prompt.isOptional).question := by
  have hname := h.name
  have htrim : Text.trim prompt.name = prompt.name := h.name_trimmed
  have hdetailTrim : Text.trim prompt.detailText = prompt.detailText := h.detail.trimmed
  have hcolon := colon_notMem_word prompt.valueType
  by_cases htype : prompt.valueType = .text
  · rw [content_text htype] at htext
    rw [ofContent_named htext hname.ne_nil hname.no_colon, detailText_text htype, htype]
    rfl
  · by_cases hempty : prompt.detailText = []
    · rw [content_typed htype hempty] at htext
      rw [ofContent_typed htext hname.no_colon hcolon, htrim, hempty, resolve?_word]
    · rw [content_detailed htype hempty] at htext
      rw [ofContent_detailed htext hname.no_colon hcolon, htrim, hdetailTrim, resolve?_word]

end Prompt

end NoteTemplate
