import NoteTemplate.Proofs.Prompt.DetailReading

/-!
# Reading a written pair and a written list

A date with time has four written forms: nothing, one format in `format(...)` for both
halves, the name of a preset that both halves have, and two words with a comma between
them.  Each is read back.  A list of options is read back because no option has a comma
or blanks at its ends.
-/

namespace NoteTemplate

variable {half : Half} {config : FormatConfig} {configs : HalfConfigs} {format : Text}
  {preset : Text × Text} {options : List Text}

/-- A word that gives its configuration back when it stands next to another one. -/
structure FormatConfig.IsBare (half : Half) (config : FormatConfig) : Prop where
  ne_nil : config.word half ≠ []
  trimmed : Text.IsTrimmed (config.word half)
  no_percent : '%' ∉ config.word half
  ofWord_word : ofWord half false (config.word half) = config

namespace FormatConfig

theorem isBare_preset (h : preset ∈ half.presets) : IsBare half (plain preset.2) := by
  have hword := Half.isPlainWord_of_mem h
  constructor <;> rw [word_preset h]
  · exact hword.ne_nil
  · exact hword.trimmed
  · exact hword.no_percent
  · rw [ofWord, Half.presetFormat?_of_mem h]
    simp [hword.ne_nil]

theorem isBare_custom (hne : format ≠ []) (hpercent : '%' ∉ format)
    (htrimmed : Text.IsTrimmed format)
    (hname : ∀ preset ∈ half.presets, Text.lower preset.1 ≠ Text.lower format) :
    IsBare half (custom format) := by
  constructor <;> rw [word_custom]
  · exact hne
  · exact htrimmed
  · exact hpercent
  · rw [ofWord, Half.presetFormat?_eq_none hname]
    simp [hne]

/-- A configuration that is not custom is a preset. -/
theorem IsWritable.exists_preset (h : IsWritable half config) (hcustom : ¬config.isCustom = true) :
    ∃ preset ∈ half.presets, config = plain preset.2 := by
  cases h with
  | preset preset hmem => exact ⟨preset, hmem, rfl⟩
  | custom format => exact absurd (isCustom_custom format) hcustom

theorem IsWritable.exists_custom (h : IsWritable half config) (hcustom : config.isCustom = true) :
    ∃ format, config = .custom format ∧ format ≠ [] ∧ '%' ∉ format := by
  cases h with
  | preset preset hmem => simp [isCustom_preset hmem] at hcustom
  | custom format hne hpercent => exact ⟨format, rfl, hne, hpercent⟩

theorem customFormat_custom (format : Text) : (custom format).customFormat = some (.text format) :=
  rfl

end FormatConfig

namespace HalfConfigs

/-- The detail that is written for the two halves. -/
def detail (configs : HalfConfigs) : Text :=
  (Prompt.datetimeDetail? configs.date configs.time).getD []

/-! ### Two presets -/

theorem ofDetail_detail_presets {date time : Text × Text} (hdate : date ∈ Half.date.presets)
    (htime : time ∈ Half.time.presets) :
    ofDetail (detail ⟨.plain date.2, .plain time.2⟩) = ⟨.plain date.2, .plain time.2⟩ := by
  have hall : ∀ date ∈ Half.date.presets, ∀ time ∈ Half.time.presets,
      ofDetail (detail ⟨.plain date.2, .plain time.2⟩) = ⟨.plain date.2, .plain time.2⟩ := by
    decide
  exact hall date hdate time htime

theorem isDetail_detail_presets {date time : Text × Text} (hdate : date ∈ Half.date.presets)
    (htime : time ∈ Half.time.presets) : IsDetail (detail ⟨.plain date.2, .plain time.2⟩) := by
  have hall : ∀ date ∈ Half.date.presets, ∀ time ∈ Half.time.presets,
      Text.IsTrimmed (detail ⟨.plain date.2, .plain time.2⟩) ∧
        '%' ∉ detail ⟨.plain date.2, .plain time.2⟩ := by
    decide
  obtain ⟨htrimmed, hpercent⟩ := hall date hdate time htime
  exact ⟨htrimmed, hpercent⟩

/-! ### One format of its own for both -/

theorem detail_custom (format : Text) :
    detail ⟨.custom format, .custom format⟩ = formatOpening ++ format ++ [')'] := by
  simp [detail, Prompt.datetimeDetail?, FormatConfig.wrapped, FormatConfig.customText_custom]

theorem ofDetail_detail_custom (hne : format ≠ []) :
    ofDetail (detail ⟨.custom format, .custom format⟩) = ⟨.custom format, .custom format⟩ := by
  rw [detail_custom, ofDetail, isCustomFormat_wrapped hne, insideFormat_wrapped]
  rfl

/-! ### Halves that are apart -/

/-- Both halves can be written and, when they are apart, told apart. -/
structure AreWritable (configs : HalfConfigs) : Prop where
  date : configs.date.IsWritable .date
  time : configs.time.IsWritable .time
  readable : configs.AreApart → configs.AreReadable

theorem AreWritable.isBare_date (h : configs.AreWritable) (hapart : configs.AreApart) :
    configs.date.IsBare .date := by
  by_cases hcustom : configs.date.isCustom = true
  · obtain ⟨format, hformat, hne, hpercent⟩ := h.date.exists_custom hcustom
    have hhas : configs.HasCustom format := Or.inl hformat
    rw [hformat]
    exact FormatConfig.isBare_custom hne hpercent ((h.readable hapart).trimmed format hhas)
      ((h.readable hapart).not_preset_name format hhas .date)
  · obtain ⟨preset, hmem, hpreset⟩ := h.date.exists_preset hcustom
    rw [hpreset]
    exact FormatConfig.isBare_preset hmem

theorem AreWritable.isBare_time (h : configs.AreWritable) (hapart : configs.AreApart) :
    configs.time.IsBare .time := by
  by_cases hcustom : configs.time.isCustom = true
  · obtain ⟨format, hformat, hne, hpercent⟩ := h.time.exists_custom hcustom
    have hhas : configs.HasCustom format := Or.inr hformat
    rw [hformat]
    exact FormatConfig.isBare_custom hne hpercent ((h.readable hapart).trimmed format hhas)
      ((h.readable hapart).not_preset_name format hhas .time)
  · obtain ⟨preset, hmem, hpreset⟩ := h.time.exists_preset hcustom
    rw [hpreset]
    exact FormatConfig.isBare_preset hmem

theorem AreWritable.no_comma_date (h : configs.AreWritable) (hapart : configs.AreApart) :
    ',' ∉ configs.date.word .date := by
  by_cases hcustom : configs.date.isCustom = true
  · obtain ⟨format, hformat, -, -⟩ := h.date.exists_custom hcustom
    rw [hformat, FormatConfig.word_custom]
    exact (h.readable hapart).no_comma format hformat
  · obtain ⟨preset, hmem, hpreset⟩ := h.date.exists_preset hcustom
    rw [hpreset, FormatConfig.word_preset hmem]
    exact (Half.isPlainWord_of_mem hmem).no_comma

/-- A format of its own is not mistaken for a preset, so the two words differ. -/
theorem AreWritable.word_ne (h : configs.AreWritable) (hapart : configs.AreApart) :
    configs.date.word .date ≠ configs.time.word .time := by
  have hname := (h.readable hapart).not_preset_name
  have hne := hapart.2
  intro heq
  by_cases hdate : configs.date.isCustom = true
  · obtain ⟨dateFormat, hdateFormat, -, -⟩ := h.date.exists_custom hdate
    rw [hdateFormat, FormatConfig.word_custom] at heq
    by_cases htime : configs.time.isCustom = true
    · obtain ⟨timeFormat, htimeFormat, -, -⟩ := h.time.exists_custom htime
      rw [htimeFormat, FormatConfig.word_custom] at heq
      exact hne (by rw [hdateFormat, htimeFormat, heq])
    · obtain ⟨preset, hmem, hpreset⟩ := h.time.exists_preset htime
      rw [hpreset, FormatConfig.word_preset hmem] at heq
      exact hname dateFormat (Or.inl hdateFormat) .time preset hmem (by rw [heq])
  · have htime : configs.time.isCustom = true := hapart.1.resolve_left hdate
    obtain ⟨timeFormat, htimeFormat, -, -⟩ := h.time.exists_custom htime
    obtain ⟨preset, hmem, hpreset⟩ := h.date.exists_preset hdate
    rw [hpreset, htimeFormat, FormatConfig.word_preset hmem, FormatConfig.word_custom] at heq
    exact hname timeFormat (Or.inr htimeFormat) .date preset hmem (by rw [heq])

/-- Bare halves that give their configurations back, with two different words. -/
structure ArePaired (configs : HalfConfigs) : Prop where
  date : configs.date.IsBare .date
  time : configs.time.IsBare .time
  no_comma : ',' ∉ configs.date.word .date
  not_wrapped : ¬(formatOpening <+: configs.pairText ∧ configs.pairText.getLast? = some ')')
  word_ne : configs.date.word .date ≠ configs.time.word .time

/-- Both halves can be written and, when they are apart, read back. -/
structure AreLegible (configs : HalfConfigs) : Prop where
  date : configs.date.IsWritable .date
  time : configs.time.IsWritable .time
  paired : configs.AreApart → configs.ArePaired

theorem AreWritable.areLegible (h : configs.AreWritable) : configs.AreLegible where
  date := h.date
  time := h.time
  paired hapart :=
    { date := h.isBare_date hapart
      time := h.isBare_time hapart
      no_comma := h.no_comma_date hapart
      not_wrapped := (h.readable hapart).not_wrapped
      word_ne := h.word_ne hapart }

/-- Halves that are not apart are two presets or one format of its own. -/
theorem AreLegible.presets_or_custom (h : configs.AreLegible) (hapart : ¬configs.AreApart) :
    (∃ date ∈ Half.date.presets, ∃ time ∈ Half.time.presets,
        configs = ⟨.plain date.2, .plain time.2⟩) ∨
      ∃ format, configs = ⟨.custom format, .custom format⟩ ∧ format ≠ [] ∧ '%' ∉ format := by
  obtain ⟨date, time⟩ := configs
  by_cases hcustom : date.isCustom = true ∨ time.isCustom = true
  · have heq : date = time := by
      by_contra hne
      exact hapart ⟨hcustom, hne⟩
    subst heq
    obtain ⟨format, rfl, hne, hpercent⟩ := h.date.exists_custom (by simpa using hcustom)
    exact Or.inr ⟨format, rfl, hne, hpercent⟩
  · rw [not_or] at hcustom
    obtain ⟨dateFormat, hdate, rfl⟩ := h.date.exists_preset hcustom.1
    obtain ⟨timeFormat, htime, rfl⟩ := h.time.exists_preset hcustom.2
    exact Or.inl ⟨dateFormat, hdate, timeFormat, htime, rfl⟩

/-- Halves that are apart are written as two words, or as one when the words are equal. -/
theorem detail_of_areApart (hdate : configs.date.IsWritable .date)
    (htime : configs.time.IsWritable .time) (hapart : configs.AreApart) :
    configs.detail = if configs.date.word .date = configs.time.word .time then
      configs.date.word .date else configs.pairText := by
  have hdefault : ¬(configs.date = .default .date ∧ configs.time = .default .time) := by
    rintro ⟨hdate, htime⟩
    have hcustom := hapart.1
    rw [hdate, htime] at hcustom
    revert hcustom
    decide
  have hsame : ¬((configs.date.isCustom && configs.time.isCustom &&
      decide (configs.date.customFormat = configs.time.customFormat)) = true) := by
    simp only [Bool.and_eq_true, decide_eq_true_eq]
    rintro ⟨⟨hdateCustom, htimeCustom⟩, heq⟩
    obtain ⟨dateFormat, hdateFormat, -, -⟩ := hdate.exists_custom hdateCustom
    obtain ⟨timeFormat, htimeFormat, -, -⟩ := htime.exists_custom htimeCustom
    rw [hdateFormat, htimeFormat, FormatConfig.customFormat_custom,
      FormatConfig.customFormat_custom] at heq
    have hne := hapart.2
    rw [hdateFormat, htimeFormat, StoredText.text.inj (Option.some.inj heq)] at hne
    exact hne rfl
  rw [detail, Prompt.datetimeDetail?, if_neg hsame, if_neg hdefault, Option.getD_some]
  rfl

theorem AreLegible.detail_of_areApart (h : configs.AreLegible) (hapart : configs.AreApart) :
    configs.detail = configs.pairText := by
  rw [HalfConfigs.detail_of_areApart h.date h.time hapart, if_neg (h.paired hapart).word_ne]

theorem AreLegible.ofDetail_pairText (h : configs.AreLegible) (hapart : configs.AreApart) :
    ofDetail configs.pairText = configs := by
  have hpair := h.paired hapart
  have hdate := hpair.date
  have htime := hpair.time
  have hform := isCustomFormat_eq_false hpair.not_wrapped
  have hempty : configs.pairText.isEmpty = false := by simp [pairText]
  have hcut := Text.cutAt?_append (configs.time.word .time) hpair.no_comma
  rw [ofDetail, hform, hempty]
  simp only [Bool.false_eq_true, if_false, ofWord]
  rw [pairText, hcut]
  simp only
  rw [hdate.trimmed, htime.trimmed, hdate.ofWord_word, htime.ofWord_word]

/-- What is written for two halves gives them back. -/
theorem AreLegible.ofDetail_detail (h : configs.AreLegible) :
    ofDetail configs.detail = configs := by
  by_cases hapart : configs.AreApart
  · rw [h.detail_of_areApart hapart, h.ofDetail_pairText hapart]
  · rcases h.presets_or_custom hapart with ⟨date, hdate, time, htime, rfl⟩ | ⟨format, rfl, hne, -⟩
    · exact ofDetail_detail_presets hdate htime
    · exact ofDetail_detail_custom hne

theorem AreLegible.isDetail_detail (h : configs.AreLegible) : IsDetail configs.detail := by
  by_cases hapart : configs.AreApart
  · have hdate := (h.paired hapart).date
    have htime := (h.paired hapart).time
    rw [h.detail_of_areApart hapart]
    constructor
    · have htrimmed := hdate.trimmed.append htime.trimmed hdate.ne_nil htime.ne_nil [',']
      rwa [List.append_assoc] at htrimmed
    · simp [pairText, hdate.no_percent, htime.no_percent]
  · rcases h.presets_or_custom hapart with ⟨date, hdate, time, htime, rfl⟩ |
      ⟨format, rfl, -, hpercent⟩
    · exact isDetail_detail_presets hdate htime
    · rw [detail_custom]
      exact FormatConfig.isDetail_wrapped hpercent

end HalfConfigs

/-! ### Options -/

/-- Options that can be listed with commas between them. -/
def AreListable (options : List Text) : Prop :=
  ∀ option ∈ options, option ≠ [] ∧ Text.IsTrimmed option ∧ ',' ∉ option ∧ '%' ∉ option

theorem optionsOfDetail_join (h : AreListable options) :
    optionsOfDetail (Text.join [','] options) = options := by
  cases options with
  | nil => rfl
  | cons option more =>
    rw [optionsOfDetail, Text.splitOn_join (fun option hoption => (h option hoption).2.2.1) (by simp)]
    have htrim : (option :: more).map Text.trim = (option :: more).map id :=
      List.map_congr_left fun option hoption => (h option hoption).2.1
    rw [htrim, List.map_id, List.filter_eq_self]
    intro option hoption
    simpa using (h option hoption).1

theorem join_ne_nil (h : AreListable options) (hne : options ≠ []) :
    Text.join [','] options ≠ [] := by
  cases options with
  | nil => exact absurd rfl hne
  | cons option more =>
    cases more with
    | nil => exact (h option (by simp)).1
    | cons next more => simp [Text.join]

theorem isDetail_join (h : AreListable options) : IsDetail (Text.join [','] options) := by
  induction options with
  | nil => exact ⟨Text.isTrimmed_nil, by simp⟩
  | cons option more ih =>
    obtain ⟨hne, htrimmed, -, hpercent⟩ := h option (by simp)
    have hmore : AreListable more := fun option hoption => h option (by simp [hoption])
    cases more with
    | nil => exact ⟨htrimmed, hpercent⟩
    | cons next more =>
      have hrest := ih hmore
      rw [Text.join]
      constructor
      · exact htrimmed.append hrest.trimmed hne (join_ne_nil hmore (by simp)) [',']
      · simp [hpercent, hrest.no_percent]

end NoteTemplate
