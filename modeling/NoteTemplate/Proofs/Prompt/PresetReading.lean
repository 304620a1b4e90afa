import NoteTemplate.Proofs.Prompt.Extracted
import NoteTemplate.Proofs.Prompt.NameReading
import NoteTemplate.Proofs.Text.Ascii

/-!
# A preset at the end of a tag

The name of a preset that stands alone behind the second colon selects the format of that
preset.  Behind a comma it does so for a date with time only: for a time of day the whole detail
is one format of its own (`FormatConfig.ofDetail_behindComma_ne`).
-/

namespace NoteTemplate

variable {inside name type detail blanks after first word : Text} {half : Half}
  {preset : Text × Text} {valueType : ValueType}

/-- The prompt of a tag with a detail, which has blanks around it and no mark at its end. -/
theorem PromptTag.ofContent_of_detail (hlength : 2 ≤ inside.length)
    (hinside : withoutMark inside = name ++ ':' :: (type ++ ':' :: (blanks ++ detail ++ after)))
    (hname : ':' ∉ name) (htype : ':' ∉ type) (hblanks : Text.isBlankText blanks = true)
    (hafter : Text.isBlankText after = true) (htrimmed : Text.IsTrimmed detail)
    (hne : detail ≠ []) (hmark : detail.getLast? ≠ some '?') (isOptional : Bool) :
    Prompt.ofContent (ofInside inside).content isOptional =
      .ofParts (Text.trim name) (ValueType.resolve? type) detail isOptional := by
  have hfront : name ++ ':' :: (type ++ ':' :: (blanks ++ detail)) ≠ [] := by simp
  have hlast : (name ++ ':' :: (type ++ ':' :: (blanks ++ detail))).getLast hfront =
      detail.getLast hne := by
    simp [List.getLast_cons, hne]
  have hcontent :
      (ofInside inside).content = name ++ ':' :: (type ++ ':' :: (blanks ++ detail)) := by
    have hcut := cutContent_of_blanks hafter hfront (hlast ▸ htrimmed.isBlank_getLast hne)
      (fun heq => hmark (by rw [List.getLast?_eq_some_getLast hne, ← hlast, heq]))
    rw [content_ofInside, body_ofInside_eq hlength, hinside]
    simpa using congrArg Prod.fst hcut
  have hright : Text.trimRight (blanks ++ detail) = blanks ++ detail := by
    rw [Text.trimRight_eq_self_iff, List.getLast?_append_of_ne_nil _ hne]
    exact (Text.isTrimmed_iff.1 htrimmed).2
  have htrim : Text.trim (name ++ ':' :: (type ++ ':' :: (blanks ++ detail))) =
      Text.trimLeft name ++ ':' :: (type ++ ':' :: (blanks ++ detail)) := by
    rw [Text.trim_append_cons (by decide), Text.trimRight_append_cons (by decide), hright]
  have hdetail : Text.trim (blanks ++ detail) = detail := by
    have hpadded := Text.trim_padded htrimmed hblanks (rfl : Text.isBlankText [] = true)
    rwa [List.append_nil] at hpadded
  have hnotLeft : ':' ∉ Text.trimLeft name := fun h => hname (Text.trimLeft_suffix.sublist.mem h)
  rw [hcontent, Prompt.ofContent_detailed htrim hnotLeft htype, Text.trim_trimLeft, hdetail]

/-- The type is read from its word in any case. -/
theorem ValueType.resolve?_of_lower (htrimmed : Text.IsTrimmed word)
    (h : Text.lower word = valueType.name) : resolve? word = some valueType := by
  have htrim : Text.trim word = word := htrimmed
  rw [resolve?, htrim, h]
  cases valueType <;> decide

/-! ### Alone -/

theorem FormatConfig.ofDetail_preset (h : preset ∈ half.presets) :
    ofDetail half preset.1 = .plain preset.2 := by
  have hall : ∀ preset ∈ half.presets, ofDetail half preset.1 = .plain preset.2 := by
    cases half <;> decide
  exact hall preset h

/-! ### Behind a comma -/

theorem isCustomFormat_append_preset (h : preset ∈ half.presets) (first : Text) :
    isCustomFormat (first ++ preset.1) = false := by
  have hword := Half.isPlainWord_of_mem h
  apply isCustomFormat_eq_false
  rintro ⟨-, hlast⟩
  rw [List.getLast?_append_of_ne_nil _ hword.ne_nil] at hlast
  exact hword.not_closed hlast

theorem isCustomFormat_behindComma (h : preset ∈ half.presets) (first : Text) :
    isCustomFormat (first ++ ',' :: preset.1) = false := by
  have hshift := isCustomFormat_append_preset h (first ++ [','])
  rwa [List.append_assoc, List.singleton_append] at hshift

theorem HalfConfigs.time_ofDetail_behindComma (h : preset ∈ Half.time.presets)
    (hfirst : ',' ∉ first) :
    (ofDetail (first ++ ',' :: preset.1)).time = .plain preset.2 := by
  have hall : ∀ preset ∈ Half.time.presets,
      FormatConfig.ofWord .time false (Text.trim preset.1) = .plain preset.2 := by
    decide
  rw [ofDetail, isCustomFormat_behindComma h, ofWord, Text.cutAt?_append _ hfirst]
  simp [hall preset h]

/-- No name of a preset has a comma, and no format of a time has one. -/
theorem FormatConfig.ofWord_time_of_comma (h : ',' ∈ word) :
    ofWord .time true word = .custom word := by
  have hlower : ',' ∈ Text.lower word := Text.mem_lowerAfter (by decide) (by decide) h []
  have hnames : ∀ preset ∈ Half.time.presets, ',' ∉ Text.lower preset.1 := by decide
  have hformats : ∀ preset ∈ Half.time.presets, ',' ∉ preset.2 := by decide
  have hnoName : Half.time.presetFormat? word = none :=
    Half.presetFormat?_eq_none fun preset hpreset heq => hnames preset hpreset (heq ▸ hlower)
  have hnoFormat : Half.time.isPresetFormat word = false := by
    rw [Half.isPresetFormat, List.any_eq_false]
    intro preset hpreset heq
    exact hformats preset hpreset (of_decide_eq_true heq ▸ h)
  have hempty : word.isEmpty = false := List.isEmpty_eq_false_iff.2 (List.ne_nil_of_mem h)
  simp [ofWord, hempty, hnoName, hnoFormat]

theorem FormatConfig.ofDetail_behindComma_ne (h : preset ∈ Half.time.presets) (first : Text)
    {other : Text × Text} (hother : other ∈ Half.time.presets) :
    ofDetail .time (first ++ ',' :: preset.1) ≠ .plain other.2 := by
  rw [ofDetail, isCustomFormat_behindComma h, if_neg Bool.false_ne_true,
    ofWord_time_of_comma (by simp)]
  exact custom_ne_preset hother

end NoteTemplate
