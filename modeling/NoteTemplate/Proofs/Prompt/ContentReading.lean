import NoteTemplate.Proofs.Text.Split
import NoteTemplate.Proofs.Text.Trim
import NoteTemplate.Prompt.Reading

/-!
# What a content means

The content of a tag is split into parts with places, but the prompt that it describes
only depends on the texts of the parts.  Here that prompt is given by the name, the type
and the detail alone, wherever they stand and whatever blanks surround them
(`ofContent_detailed` and its companions).
-/

namespace NoteTemplate

/-- What stands between the parentheses of `format(...)`. -/
def insideFormat (detail : Text) : Text := (detail.drop formatOpening.length).dropLast

/-- The configuration that a detail gives when the value has one half only. -/
def FormatConfig.ofDetail (half : Half) (detail : Text) : FormatConfig :=
  if isCustomFormat detail then .custom (insideFormat detail) else .ofWord half true detail

/-- The configurations that a detail gives for a date with time. -/
def HalfConfigs.ofDetail (detail : Text) : HalfConfigs :=
  if isCustomFormat detail then ⟨.custom (insideFormat detail), .custom (insideFormat detail)⟩
  else if detail.isEmpty then .default
  else .ofWord detail

/-- The options that a detail lists. -/
def optionsOfDetail (detail : Text) : List Text :=
  ((Text.splitOn ',' detail).map Text.trim).filter fun option => !option.isEmpty

namespace Prompt

/-- The date format that a detail gives to a prompt of a type. -/
def dateConfigOfDetail? (detail : Text) : ValueType → Option FormatConfig
  | .date => some (.ofDetail .date detail)
  | .datetime => some (HalfConfigs.ofDetail detail).date
  | _ => none

/-- The time format that a detail gives to a prompt of a type. -/
def timeConfigOfDetail? (detail : Text) : ValueType → Option FormatConfig
  | .time => some (.ofDetail .time detail)
  | .datetime => some (HalfConfigs.ofDetail detail).time
  | _ => none

/-- The prompt with a name, the type that was recognised, and a detail, which is empty
when there is none. -/
def ofParts (name : Text) (type? : Option ValueType) (detail : Text) (isOptional : Bool) :
    Prompt where
  name := name
  valueType := type?.getD .text
  isOptional := isOptional
  dateConfig := dateConfigOfDetail? detail (type?.getD .text)
  timeConfig := timeConfigOfDetail? detail (type?.getD .text)
  options :=
    if (type?.getD .text).hasOptions then some ((optionsOfDetail detail).map StoredText.text)
    else none
  id := []
  isInlineConfigured := type?.isSome

end Prompt

theorem ValueType.resolve?_trim (word : Text) : resolve? (Text.trim word) = resolve? word := by
  have h : Text.trim (Text.trim word) = Text.trim word := Text.isTrimmed_trim
  simp only [resolve?, h]

theorem CommaSplit.ofParts_cons_cons (start : Nat) (part next : Text) (more : List Text) :
    ofParts start (part :: next :: more) =
      ⟨([Segment.trimmed start part].filter fun item => !item.text.isEmpty) ++
          (ofParts (start + part.length + 1) (next :: more)).items,
        (start + part.length) :: (ofParts (start + part.length + 1) (next :: more)).commas⟩ :=
  rfl

theorem CommaSplit.map_text_ofParts (start : Nat) (parts : List Text) :
    (ofParts start parts).items.map Segment.text =
      (parts.map Text.trim).filter fun item => !item.isEmpty := by
  have hfirst (start : Nat) (part : Text) :
      ([Segment.trimmed start part].filter fun item => !item.text.isEmpty).map Segment.text =
        [Text.trim part].filter fun item => !item.isEmpty := by
    cases h : (Text.trim part).isEmpty <;> simp [Segment.trimmed, h]
  induction parts generalizing start with
  | nil => rfl
  | cons part parts ih =>
    cases parts with
    | nil => exact hfirst start part
    | cons next more =>
      rw [ofParts_cons_cons, List.map_append, hfirst, ih, ← List.filter_append]
      rfl

namespace PromptContent

variable {name type detail : Segment} {colon secondColon : Nat} {valueType : ValueType}

theorem customFormat?_detailed (h : ValueType.resolve? type.text = some valueType)
    (hhalf : (valueType.hasDate || valueType.hasTime) = true) :
    (detailed name colon type secondColon detail).customFormat? =
      if isCustomFormat detail.text then some (insideFormat detail.text) else none := by
  have hreading : (detailed name colon type secondColon detail).reading? =
      some (Detail.ofSegment (some valueType) detail) := by
    simp [reading?, detail?, valueType?, type?, h]
  simp only [customFormat?, hreading, Detail.ofSegment, hhalf, Bool.true_and, insideFormat]
  by_cases hform : isCustomFormat detail.text
  · simp [hform]
  · simp only [hform, Bool.false_eq_true, if_false]
    by_cases hitems : (valueType.hasOptions || decide (valueType = .datetime)) = true
    · rw [if_pos hitems]
    · rw [if_neg hitems]

theorem halfConfigs_detailed (h : ValueType.resolve? type.text = some .datetime) :
    (detailed name colon type secondColon detail).halfConfigs .datetime =
      HalfConfigs.ofDetail detail.text := by
  simp only [halfConfigs, word?, customFormat?_detailed h rfl, HalfConfigs.ofDetail, detail?]
  by_cases hform : isCustomFormat detail.text
  · simp [hform]
  · by_cases hempty : detail.text.isEmpty <;> simp [hform, hempty, Option.filter]

theorem date_halfConfigs_detailed (h : ValueType.resolve? type.text = some .date) :
    ((detailed name colon type secondColon detail).halfConfigs .date).date =
      FormatConfig.ofDetail .date detail.text := by
  simp only [halfConfigs, word?, customFormat?_detailed h rfl, FormatConfig.ofDetail, detail?]
  by_cases hform : isCustomFormat detail.text
  · simp [hform]
  · by_cases hempty : detail.text.isEmpty <;>
      simp [hform, hempty, Option.filter, FormatConfig.ofWord, HalfConfigs.default]

theorem time_halfConfigs_detailed (h : ValueType.resolve? type.text = some .time) :
    ((detailed name colon type secondColon detail).halfConfigs .time).time =
      FormatConfig.ofDetail .time detail.text := by
  simp only [halfConfigs, word?, customFormat?_detailed h rfl, FormatConfig.ofDetail, detail?]
  by_cases hform : isCustomFormat detail.text
  · simp [hform]
  · by_cases hempty : detail.text.isEmpty <;>
      simp [hform, hempty, Option.filter, FormatConfig.ofWord, HalfConfigs.default]

theorem optionTexts_detailed (h : ValueType.resolve? type.text = some valueType)
    (hoptions : valueType.hasOptions = true) :
    (detailed name colon type secondColon detail).optionTexts = optionsOfDetail detail.text := by
  have hhalf : (valueType.hasDate || valueType.hasTime) = false := by
    cases valueType <;> simp_all [ValueType.hasOptions, ValueType.hasDate, ValueType.hasTime]
  simp only [optionTexts, reading?, detail?, valueType?, type?, Option.map_some,
    Option.bind_some, h, Detail.ofSegment, hhalf, hoptions, Bool.false_and, Bool.true_or,
    Bool.false_eq_true, if_false, if_true, Segment.splitAtCommas]
  exact CommaSplit.map_text_ofParts _ _

/-- Without a second colon everything is as with an empty detail. -/
theorem halfConfigs_typed (valueType : ValueType) :
    (typed name colon type).halfConfigs valueType = .default := by
  simp [halfConfigs, customFormat?, reading?, word?, detail?]

/-! ### Cutting at the colons -/

variable {text nameText typeText detailText : Text}

theorem ofText_named (h : Text.trim text = nameText) (hne : nameText ≠ [])
    (hname : ':' ∉ nameText) : ofText text = .named (Segment.trimmed 0 text) := by
  have hcut : Text.cutAt? ':' (Segment.trimmed 0 text).text = none := by
    change Text.cutAt? ':' (Text.trim text) = none
    rw [h, Text.cutAt?_eq_none_iff]
    exact hname
  have hempty : (Segment.trimmed 0 text).text.isEmpty = false := by
    simpa [Segment.trimmed, h] using hne
  simp only [ofText, hempty, hcut, Bool.false_eq_true, if_false]

theorem ofText_typed (h : Text.trim text = nameText ++ ':' :: typeText)
    (hname : ':' ∉ nameText) (htype : ':' ∉ typeText) :
    ∃ start colon behind, ofText text =
      .typed (Segment.trimmed start nameText) colon (Segment.trimmed behind typeText) := by
  have hcut : Text.cutAt? ':' (Segment.trimmed 0 text).text = some (nameText, typeText) := by
    change Text.cutAt? ':' (Text.trim text) = _
    rw [h, Text.cutAt?_append _ hname]
  have hempty : (Segment.trimmed 0 text).text.isEmpty = false := by
    simp [Segment.trimmed, h]
  have hlast := Text.cutAt?_eq_none_iff.2 htype
  simp only [ofText, hempty, hcut, hlast, Bool.false_eq_true, if_false]
  exact ⟨_, _, _, rfl⟩

theorem ofText_detailed (h : Text.trim text = nameText ++ ':' :: (typeText ++ ':' :: detailText))
    (hname : ':' ∉ nameText) (htype : ':' ∉ typeText) :
    ∃ start colon behind secondColon last, ofText text =
      .detailed (Segment.trimmed start nameText) colon (Segment.trimmed behind typeText)
        secondColon (Segment.trimmed last detailText) := by
  have hcut : Text.cutAt? ':' (Segment.trimmed 0 text).text =
      some (nameText, typeText ++ ':' :: detailText) := by
    change Text.cutAt? ':' (Text.trim text) = _
    rw [h, Text.cutAt?_append _ hname]
  have hempty : (Segment.trimmed 0 text).text.isEmpty = false := by
    simp [Segment.trimmed, h]
  have hsecond : Text.cutAt? ':' (typeText ++ ':' :: detailText) = some (typeText, detailText) :=
    Text.cutAt?_append _ htype
  simp only [ofText, hempty, hcut, hsecond, Bool.false_eq_true, if_false]
  exact ⟨_, _, _, _, _, rfl⟩

end PromptContent

namespace Prompt

variable {text name type detail : Text}

/-- A prompt is given by its parts when the parts that its type needs are. -/
theorem ofContent_eq_ofParts (detail : Text) {content : PromptContent}
    (h : PromptContent.ofText text = content)
    (hdatetime : content.valueType? = some .datetime →
      content.halfConfigs .datetime = HalfConfigs.ofDetail detail)
    (hdate : content.valueType? = some .date →
      (content.halfConfigs .date).date = FormatConfig.ofDetail .date detail)
    (htime : content.valueType? = some .time →
      (content.halfConfigs .time).time = FormatConfig.ofDetail .time detail)
    (hoptions : ∀ valueType, content.valueType? = some valueType →
      valueType.hasOptions = true → content.optionTexts = optionsOfDetail detail)
    (isOptional : Bool) :
    ofContent text isOptional =
      ofParts content.name.text content.valueType? detail isOptional := by
  simp only [ofContent, ofParts, h]
  cases htype : content.valueType? with
  | none =>
    simp [ValueType.hasDate, ValueType.hasTime, ValueType.hasOptions, dateConfigOfDetail?,
      timeConfigOfDetail?]
  | some valueType =>
    have hoptions := hoptions valueType htype
    cases valueType <;>
      simp_all [ValueType.hasDate, ValueType.hasTime, ValueType.hasOptions,
        dateConfigOfDetail?, timeConfigOfDetail?]

theorem ofContent_named (h : Text.trim text = name) (hne : name ≠ []) (hname : ':' ∉ name)
    (isOptional : Bool) : ofContent text isOptional = ofParts name none [] isOptional := by
  have hcontent := PromptContent.ofText_named h hne hname
  have htype : (PromptContent.named (Segment.trimmed 0 text)).valueType? = none := rfl
  rw [ofContent_eq_ofParts [] hcontent] <;> simp [htype]
  simp [PromptContent.name, Segment.trimmed, h]

theorem ofContent_typed (h : Text.trim text = name ++ ':' :: type) (hname : ':' ∉ name)
    (htype : ':' ∉ type) (isOptional : Bool) :
    ofContent text isOptional =
      ofParts (Text.trim name) (ValueType.resolve? type) [] isOptional := by
  obtain ⟨start, colon, behind, hcontent⟩ := PromptContent.ofText_typed h hname htype
  rw [← ValueType.resolve?_trim type]
  apply ofContent_eq_ofParts [] hcontent
  · intro _
    exact PromptContent.halfConfigs_typed _
  · intro _
    rw [PromptContent.halfConfigs_typed]
    rfl
  · intro _
    rw [PromptContent.halfConfigs_typed]
    rfl
  · intro _ _ _
    rfl

theorem ofContent_detailed (h : Text.trim text = name ++ ':' :: (type ++ ':' :: detail))
    (hname : ':' ∉ name) (htype : ':' ∉ type) (isOptional : Bool) :
    ofContent text isOptional =
      ofParts (Text.trim name) (ValueType.resolve? type) (Text.trim detail) isOptional := by
  obtain ⟨start, colon, behind, secondColon, last, hcontent⟩ :=
    PromptContent.ofText_detailed h hname htype
  rw [← ValueType.resolve?_trim type]
  apply ofContent_eq_ofParts (Text.trim detail) hcontent
  · exact PromptContent.halfConfigs_detailed
  · exact PromptContent.date_halfConfigs_detailed
  · exact PromptContent.time_halfConfigs_detailed
  · exact fun _ => PromptContent.optionTexts_detailed

end Prompt

end NoteTemplate
