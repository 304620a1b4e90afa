import Mathlib.Tactic.MkIffOfInductiveProp
import NoteTemplate.Proofs.Prompt.ContentReading
import NoteTemplate.Prompt.Writing

/-!
# Reading a written detail

What a prompt writes behind its second colon gives its configuration back.  A half that
stands alone is protected by the parentheses of `format(...)`.  The two halves of a date
with time are written bare when they differ, and then nothing protects them: they have to
be trimmed, must not look like the name of a preset, and the comma between them has to be
the first one.
-/

namespace NoteTemplate

/-- The configuration is a preset of the half, or a format of its own that fits between
the delimiters of a tag. -/
inductive FormatConfig.IsWritable (half : Half) : FormatConfig → Prop
  | preset (preset : Text × Text) (h : preset ∈ half.presets) : IsWritable half (.plain preset.2)
  | custom (format : Text) (hne : format ≠ []) (hpercent : '%' ∉ format) :
      IsWritable half (.custom format)

namespace HalfConfigs

/-- The halves are neither two presets nor one format of its own for both, so they are
written bare, one after the other. -/
def AreApart (configs : HalfConfigs) : Prop :=
  (configs.date.isCustom = true ∨ configs.time.isCustom = true) ∧ configs.date ≠ configs.time

instance (configs : HalfConfigs) : Decidable configs.AreApart := by
  unfold AreApart; infer_instance

/-- The halves as they are written when they are apart. -/
def pairText (configs : HalfConfigs) : Text :=
  configs.date.word .date ++ ',' :: configs.time.word .time

/-- One of the halves has this format of its own. -/
def HasCustom (configs : HalfConfigs) (format : Text) : Prop :=
  configs.date = .custom format ∨ configs.time = .custom format

/-- Bare halves that can be told apart. -/
structure AreReadable (configs : HalfConfigs) : Prop where
  trimmed : ∀ format, configs.HasCustom format → Text.IsTrimmed format
  not_preset_name : ∀ format, configs.HasCustom format →
    ∀ half : Half, ∀ preset ∈ half.presets, Text.lower preset.1 ≠ Text.lower format
  no_comma : ∀ format, configs.date = .custom format → ',' ∉ format
  not_wrapped : ¬(formatOpening <+: configs.pairText ∧ configs.pairText.getLast? = some ')')

end HalfConfigs

namespace Half

variable {half : Half} {preset : Text × Text}

theorem presetFormat?_of_mem (h : preset ∈ half.presets) :
    half.presetFormat? preset.1 = some preset.2 := by
  have hall : ∀ preset ∈ half.presets, half.presetFormat? preset.1 = some preset.2 := by
    cases half <;> decide
  exact hall preset h

theorem presetName?_of_mem (h : preset ∈ half.presets) :
    half.presetName? preset.2 = some preset.1 := by
  have hall : ∀ preset ∈ half.presets, half.presetName? preset.2 = some preset.1 := by
    cases half <;> decide
  exact hall preset h

theorem presetFormat?_eq_none {name : Text}
    (h : ∀ preset ∈ half.presets, Text.lower preset.1 ≠ Text.lower name) :
    half.presetFormat? name = none := by
  simpa [presetFormat?] using h

/-- The name of a preset has nothing in it that is read in another way. -/
@[mk_iff]
structure IsPlainWord (word : Text) : Prop where
  ne_nil : word ≠ []
  trimmed : Text.IsTrimmed word
  no_percent : '%' ∉ word
  no_comma : ',' ∉ word
  not_marked : word.getLast? ≠ some '?'
  not_closed : word.getLast? ≠ some ')'

instance (word : Text) : Decidable (IsPlainWord word) :=
  decidable_of_iff' _ (isPlainWord_iff word)

theorem isPlainWord_of_mem (h : preset ∈ half.presets) : IsPlainWord preset.1 := by
  have hall : ∀ preset ∈ half.presets, IsPlainWord preset.1 := by
    cases half <;> decide
  exact hall preset h

end Half

/-! ### One half -/

theorem isCustomFormat_wrapped {format : Text} (hne : format ≠ []) :
    isCustomFormat (formatOpening ++ format ++ [')']) = true := by
  have hlength : 0 < format.length := List.length_pos_iff.2 hne
  have hopen : formatOpening.isPrefixOf (formatOpening ++ (format ++ [')'])) = true :=
    List.isPrefixOf_iff_prefix.2 (List.prefix_append _ _)
  simp only [isCustomFormat, List.append_assoc, hopen, Bool.true_and, Bool.and_eq_true,
    decide_eq_true_eq, List.length_append, List.length_singleton]
  refine ⟨?_, by omega⟩
  rw [← List.append_assoc, List.getLast?_concat]

theorem insideFormat_wrapped (format : Text) :
    insideFormat (formatOpening ++ format ++ [')']) = format := by
  rw [insideFormat, List.append_assoc, List.drop_left, List.dropLast_concat]

/-- A detail that is not wrapped is not mistaken for one that is. -/
theorem isCustomFormat_eq_false {detail : Text}
    (h : ¬(formatOpening <+: detail ∧ detail.getLast? = some ')')) :
    isCustomFormat detail = false := by
  rw [Bool.eq_false_iff, ne_eq, isCustomFormat, Bool.and_eq_true, Bool.and_eq_true,
    List.isPrefixOf_iff_prefix, decide_eq_true_eq]
  rintro ⟨⟨hopen, hlast⟩, -⟩
  exact h ⟨hopen, hlast⟩

/-- A detail between a second colon and the end of a tag. -/
structure IsDetail (detail : Text) : Prop where
  trimmed : Text.IsTrimmed detail
  no_percent : '%' ∉ detail

namespace FormatConfig

variable {half : Half} {config : FormatConfig} {format : Text} {preset : Text × Text}

@[simp]
theorem isCustom_custom (format : Text) : (custom format).isCustom = true := rfl

theorem isCustom_preset (h : preset ∈ half.presets) : (plain preset.2).isCustom = false := by
  have hall : ∀ preset ∈ half.presets, (plain preset.2).isCustom = false := by
    cases half <;> decide
  exact hall preset h

theorem customText_custom (format : Text) : (custom format).customText = format := by
  cases format <;> rfl

theorem word_custom (half : Half) (format : Text) : (custom format).word half = format := by
  rw [word, if_pos (isCustom_custom format), customText_custom]

theorem word_preset (h : preset ∈ half.presets) : (plain preset.2).word half = preset.1 := by
  rw [word, if_neg (by simp [isCustom_preset h])]
  simp [plain, Half.presetName?_of_mem h]

theorem isDetail_wrapped (hpercent : '%' ∉ format) :
    IsDetail (formatOpening ++ format ++ [')']) where
  trimmed := by
    apply Text.IsTrimmed.append <;> decide
  no_percent := by
    simp only [List.mem_append, not_or]
    exact ⟨⟨by decide, hpercent⟩, by decide⟩

theorem IsWritable.isDetail_detail? (h : IsWritable half config) :
    IsDetail ((config.detail? half).getD []) := by
  cases h with
  | preset preset hmem =>
    have hword := Half.isPlainWord_of_mem hmem
    rw [detail?, if_neg (by simp [isCustom_preset hmem]), word_preset hmem]
    by_cases hdefault : plain preset.2 = default half
    · rw [if_pos hdefault]
      exact ⟨Text.isTrimmed_nil, by simp⟩
    · rw [if_neg hdefault]
      exact ⟨hword.trimmed, hword.no_percent⟩
  | custom format hne hpercent =>
    rw [detail?, if_pos (isCustom_custom format), wrapped, customText_custom]
    exact isDetail_wrapped hpercent

/-- The detail of a half that stands alone gives its configuration back. -/
theorem IsWritable.ofDetail_detail? (h : IsWritable half config) :
    ofDetail half ((config.detail? half).getD []) = config := by
  cases h with
  | preset preset hmem =>
    have hword := Half.isPlainWord_of_mem hmem
    rw [detail?, if_neg (by simp [isCustom_preset hmem]), word_preset hmem]
    by_cases hdefault : plain preset.2 = default half
    · rw [if_pos hdefault, hdefault]
      rfl
    · have hplain : isCustomFormat preset.1 = false :=
        isCustomFormat_eq_false fun hform => hword.not_closed hform.2
      rw [if_neg hdefault, Option.getD_some, ofDetail, hplain, ofWord,
        Half.presetFormat?_of_mem hmem]
      simp [hword.ne_nil]
  | custom format hne hpercent =>
    rw [detail?, if_pos (isCustom_custom format), wrapped, customText_custom, Option.getD_some,
      ofDetail, isCustomFormat_wrapped hne, insideFormat_wrapped]
    rfl

end FormatConfig

end NoteTemplate
