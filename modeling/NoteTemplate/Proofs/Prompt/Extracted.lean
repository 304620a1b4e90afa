import NoteTemplate.Proofs.Prompt.RoundTrip
import NoteTemplate.Proofs.Title.TagShape
import NoteTemplate.Title.Checking

/-!
# Writing what was read

A prompt that was read from a usable title can be written, whatever forms its tag had.  The
written tag gives the prompt back unless a mark stands bare at its end, or the halves of a date
with time are written with one word although only one of them is a preset
(`extractPrompts_extracted_iff`).
-/

namespace NoteTemplate

variable {half : Half} {detail word : Text} {configs : HalfConfigs}

/-! ### The halves that a detail gives -/

namespace FormatConfig

theorem default_eq_preset (half : Half) :
    ∃ preset ∈ half.presets, default half = plain preset.2 := by
  cases half <;> decide

/-- A word is read as a preset or as a format of its own. -/
theorem preset_or_custom_ofWord (half : Half) (formats : Bool) (word : Text) :
    (∃ preset ∈ half.presets, ofWord half formats word = plain preset.2) ∨
      word ≠ [] ∧ ofWord half formats word = custom word := by
  rw [ofWord]
  split
  · exact Or.inl (default_eq_preset half)
  · next hne =>
    split
    · next format hformat =>
      obtain ⟨preset, hpreset, rfl⟩ := Option.map_eq_some_iff.1 hformat
      exact Or.inl ⟨preset, List.mem_of_find?_eq_some hpreset, rfl⟩
    · split
      · next hpreset =>
        rw [Bool.and_eq_true, Half.isPresetFormat, List.any_eq_true] at hpreset
        obtain ⟨-, preset, hmem, hformat⟩ := hpreset
        obtain rfl : preset.2 = word := by simpa using hformat
        exact Or.inl ⟨preset, hmem, rfl⟩
      · exact Or.inr ⟨by simpa using hne, rfl⟩

theorem isWritable_ofWord (formats : Bool) (hpercent : '%' ∉ word) :
    IsWritable half (ofWord half formats word) := by
  rcases preset_or_custom_ofWord half formats word with ⟨preset, hmem, heq⟩ | ⟨hne, heq⟩
  · rw [heq]
    exact .preset preset hmem
  · rw [heq]
    exact .custom word hne hpercent

theorem insideFormat_ne_nil (h : isCustomFormat detail = true) : insideFormat detail ≠ [] := by
  rw [isCustomFormat, Bool.and_eq_true, decide_eq_true_eq] at h
  have hlength : 0 < (insideFormat detail).length := by
    rw [insideFormat, List.length_dropLast, List.length_drop]
    omega
  exact List.length_pos_iff.1 hlength

theorem insideFormat_sublist (detail : Text) : (insideFormat detail).Sublist detail :=
  (List.dropLast_sublist _).trans (List.drop_sublist _ _)

theorem isWritable_ofDetail (hpercent : '%' ∉ detail) :
    IsWritable half (ofDetail half detail) := by
  rw [ofDetail]
  split
  · next hform =>
    exact .custom _ (insideFormat_ne_nil hform)
      fun hmem => hpercent ((insideFormat_sublist detail).mem hmem)
  · exact isWritable_ofWord true hpercent

theorem custom_ne_preset {preset : Text × Text} {format : Text} (h : preset ∈ half.presets) :
    custom format ≠ plain preset.2 := by
  intro heq
  have hcustom := isCustom_preset h
  rw [← heq] at hcustom
  simp at hcustom

/-- A word that was read bare gives its configuration back. -/
theorem isBare_ofWord (htrimmed : Text.IsTrimmed word) (hpercent : '%' ∉ word) :
    IsBare half (ofWord half false word) := by
  rcases preset_or_custom_ofWord half false word with ⟨preset, hmem, heq⟩ | ⟨hne, heq⟩
  · rw [heq]
    exact isBare_preset hmem
  · rw [heq]
    constructor <;> rw [word_custom]
    · exact hne
    · exact htrimmed
    · exact hpercent
    · exact heq

end FormatConfig

namespace HalfConfigs

/-- The halves that a detail with a comma gives. -/
def pairOf (date time : Text) : HalfConfigs :=
  ⟨.ofWord .date false (Text.trim date), .ofWord .time false (Text.trim time)⟩

theorem formatOpening_prefix_of_append {front rest : Text}
    (h : formatOpening <+: front ++ ',' :: rest) : formatOpening <+: front := by
  rcases List.prefix_or_prefix_of_prefix h (List.prefix_append front (',' :: rest)) with
    hfront | ⟨tail, htail⟩
  · exact hfront
  · cases tail with
    | nil => rw [← htail, List.append_nil]
    | cons c tail =>
      rw [← htail, List.prefix_append_right_inj, List.cons_prefix_cons] at h
      have hcomma : ',' ∈ formatOpening := by
        rw [← htail, ← h.1]
        simp
      exact absurd hcomma (by decide)

theorem not_opened_preset {preset : Text × Text} (h : preset ∈ half.presets) :
    ¬formatOpening <+: preset.1 := by
  have hall : ∀ preset ∈ half.presets, ¬formatOpening <+: preset.1 := by
    cases half <;> decide
  exact hall preset h

variable {date time : Text}

/-- Two words look like `format(...)` only when the detail that they were read from does. -/
theorem not_wrapped_pairOf (htrimmed : Text.IsTrimmed (date ++ ',' :: time))
    (hform : isCustomFormat (date ++ ',' :: time) = false) :
    ¬(formatOpening <+: (pairOf date time).pairText ∧
      (pairOf date time).pairText.getLast? = some ')') := by
  rintro ⟨hopen, hclose⟩
  have hdate : formatOpening <+: date := by
    have hword := formatOpening_prefix_of_append hopen
    rcases FormatConfig.preset_or_custom_ofWord .date false (Text.trim date) with
      ⟨preset, hmem, heq⟩ | ⟨-, heq⟩
    · rw [pairOf, heq, FormatConfig.word_preset hmem] at hword
      exact absurd hword (not_opened_preset hmem)
    · rw [pairOf, heq, FormatConfig.word_custom] at hword
      exact hword.trans (Text.trim_prefix_of_isTrimmed htrimmed)
  have htime : time.getLast? = some ')' := by
    rcases FormatConfig.preset_or_custom_ofWord .time false (Text.trim time) with
      ⟨preset, hmem, heq⟩ | ⟨hne, heq⟩
    · have hplain := Half.isPlainWord_of_mem hmem
      have hword : (pairOf date time).time.word .time = preset.1 := by
        rw [pairOf, heq, FormatConfig.word_preset hmem]
      rw [getLast?_pairText (by rw [hword]; exact hplain.ne_nil), hword] at hclose
      exact absurd hclose hplain.not_closed
    · have hword : (pairOf date time).time.word .time = Text.trim time := by
        rw [pairOf, heq, FormatConfig.word_custom]
      rw [getLast?_pairText (by rwa [hword]), hword] at hclose
      rw [List.append_cons] at htrimmed
      obtain ⟨front, hfront⟩ := Text.trim_suffix_of_isTrimmed htrimmed
      rw [← hfront, List.getLast?_append_of_ne_nil _ hne, hclose]
  have hne : time ≠ [] := by
    rintro rfl
    simp at htime
  have hlast : (date ++ ',' :: time).getLast? = some ')' := by
    rw [List.getLast?_append_of_ne_nil _ (by simp), List.getLast?_cons_of_ne_nil hne, htime]
  have hlength : formatOpening.length + 1 < (date ++ ',' :: time).length := by
    have hdateLength := hdate.length_le
    have htimeLength := List.length_pos_iff.2 hne
    rw [List.length_append, List.length_cons]
    omega
  have hwrapped : isCustomFormat (date ++ ',' :: time) = true := by
    rw [isCustomFormat, List.isPrefixOf_iff_prefix.2 (hdate.trans (List.prefix_append _ _)), hlast]
    simpa using hlength
  rw [hform] at hwrapped
  exact absurd hwrapped (by simp)

/-- Halves that were read from two words can be written as two words. -/
theorem arePaired_pairOf (htrimmed : Text.IsTrimmed (date ++ ',' :: time))
    (hpercent : '%' ∉ date ++ ',' :: time) (hcomma : ',' ∉ date)
    (hform : isCustomFormat (date ++ ',' :: time) = false)
    (hwords : (pairOf date time).date.word .date ≠ (pairOf date time).time.word .time) :
    (pairOf date time).ArePaired where
  date := by
    apply FormatConfig.isBare_ofWord Text.isTrimmed_trim
    intro hmem
    exact hpercent (List.mem_append_left _ ((Text.trim_sublist date).mem hmem))
  time := by
    apply FormatConfig.isBare_ofWord Text.isTrimmed_trim
    intro hmem
    exact hpercent (List.mem_append_right _
      (List.mem_cons_of_mem _ ((Text.trim_sublist time).mem hmem)))
  no_comma := by
    rcases FormatConfig.preset_or_custom_ofWord .date false (Text.trim date) with
      ⟨preset, hmem, heq⟩ | ⟨-, heq⟩
    · rw [pairOf, heq, FormatConfig.word_preset hmem]
      exact (Half.isPlainWord_of_mem hmem).no_comma
    · rw [pairOf, heq, FormatConfig.word_custom]
      exact fun hmem => hcomma ((Text.trim_sublist date).mem hmem)
  not_wrapped := not_wrapped_pairOf htrimmed hform
  word_ne := hwords

theorem exists_preset_formatOfWord? (half : Half) (word : Text) :
    ∃ preset ∈ half.presets, ((half.formatOfWord? word).map FormatConfig.plain).getD
      (.default half) = FormatConfig.plain preset.2 := by
  rw [Half.formatOfWord?]
  cases hname : half.presetFormat? word with
  | some format =>
    obtain ⟨preset, hpreset, rfl⟩ := Option.map_eq_some_iff.1 hname
    exact ⟨preset, List.mem_of_find?_eq_some hpreset, rfl⟩
  | none =>
    dsimp only
    split
    · next hformat =>
      obtain ⟨preset, hmem, heq⟩ := List.any_eq_true.1 hformat
      obtain rfl : preset.2 = word := by simpa using heq
      exact ⟨preset, hmem, rfl⟩
    · exact FormatConfig.default_eq_preset half

/-- A detail gives one format for both halves, two presets, or two words. -/
theorem ofDetail_cases (detail : Text) :
    (∃ format ≠ [], format.Sublist detail ∧
      ofDetail detail = ⟨.custom format, .custom format⟩) ∨
    (∃ date ∈ Half.date.presets, ∃ time ∈ Half.time.presets,
      ofDetail detail = ⟨.plain date.2, .plain time.2⟩) ∨
    ∃ date time, detail = date ++ ',' :: time ∧ ',' ∉ date ∧ isCustomFormat detail = false ∧
      ofDetail detail = pairOf date time := by
  rw [ofDetail]
  split
  · next hform =>
    exact Or.inl ⟨insideFormat detail, FormatConfig.insideFormat_ne_nil hform,
      FormatConfig.insideFormat_sublist detail, rfl⟩
  · next hform =>
    split
    · obtain ⟨date, hdate, hdateDefault⟩ := FormatConfig.default_eq_preset .date
      obtain ⟨time, htime, htimeDefault⟩ := FormatConfig.default_eq_preset .time
      refine Or.inr (Or.inl ⟨date, hdate, time, htime, ?_⟩)
      rw [default, hdateDefault, htimeDefault]
    · next hne =>
      rw [ofWord]
      cases hcut : Text.cutAt? ',' detail with
      | some cut =>
        exact Or.inr (Or.inr ⟨cut.1, cut.2, Text.eq_of_cutAt? hcut, Text.notMem_of_cutAt? hcut,
          by simpa using hform, rfl⟩)
      | none =>
        obtain ⟨date, hdate, hdateWord⟩ := exists_preset_formatOfWord? .date detail
        obtain ⟨time, htime, htimeWord⟩ := exists_preset_formatOfWord? .time detail
        dsimp only
        split
        · exact Or.inl ⟨detail, by simpa using hne, List.Sublist.refl detail, rfl⟩
        · refine Or.inr (Or.inl ⟨date, hdate, time, htime, ?_⟩)
          rw [hdateWord, htimeWord]

theorem isWritable_ofDetail (hpercent : '%' ∉ detail) :
    (ofDetail detail).date.IsWritable .date ∧ (ofDetail detail).time.IsWritable .time := by
  rcases ofDetail_cases detail with ⟨format, hne, hsublist, heq⟩ | ⟨date, hdate, time, htime, heq⟩ |
    ⟨date, time, rfl, -, -, heq⟩
  · have hformat : '%' ∉ format := fun hmem => hpercent (hsublist.mem hmem)
    rw [heq]
    exact ⟨.custom format hne hformat, .custom format hne hformat⟩
  · rw [heq]
    exact ⟨.preset date hdate, .preset time htime⟩
  · rw [heq]
    constructor
    · apply FormatConfig.isWritable_ofWord
      exact fun hmem => hpercent (List.mem_append_left _ ((Text.trim_sublist date).mem hmem))
    · apply FormatConfig.isWritable_ofWord
      exact fun hmem => hpercent (List.mem_append_right _
        (List.mem_cons_of_mem _ ((Text.trim_sublist time).mem hmem)))

theorem arePaired_ofDetail (hdetail : IsDetail detail) (hapart : (ofDetail detail).AreApart)
    (hwords : (ofDetail detail).date.word .date ≠ (ofDetail detail).time.word .time) :
    (ofDetail detail).ArePaired := by
  rcases ofDetail_cases detail with ⟨format, -, -, heq⟩ | ⟨date, hdate, time, htime, heq⟩ |
    ⟨date, time, rfl, hcomma, hform, heq⟩
  · rw [heq] at hapart
    exact absurd rfl hapart.2
  · rw [heq, AreApart, FormatConfig.isCustom_preset hdate, FormatConfig.isCustom_preset htime]
      at hapart
    simp at hapart
  · rw [heq] at hwords ⊢
    exact arePaired_pairOf hdetail.trimmed hdetail.no_percent hcomma hform hwords

/-- Halves with one word are a preset and its name, unless they are equal or both presets. -/
theorem preset_of_word_eq {configs : HalfConfigs} (hdate : configs.date.IsWritable .date)
    (htime : configs.time.IsWritable .time) (hapart : configs.AreApart)
    (hword : configs.date.word .date = configs.time.word .time) :
    (∃ preset ∈ Half.date.presets, configs.date = .plain preset.2 ∧
        configs.time = .custom preset.1) ∨
      ∃ preset ∈ Half.time.presets, configs.date = .custom preset.1 ∧
        configs.time = .plain preset.2 := by
  obtain ⟨date, time⟩ := configs
  dsimp only at hdate htime hword ⊢
  obtain ⟨hcustom, hne⟩ := hapart
  dsimp only at hcustom hne
  cases hdate with
  | preset date hdateMem =>
    cases htime with
    | preset time htimeMem =>
      rw [FormatConfig.isCustom_preset hdateMem, FormatConfig.isCustom_preset htimeMem] at hcustom
      simp at hcustom
    | custom format =>
      rw [FormatConfig.word_preset hdateMem, FormatConfig.word_custom] at hword
      exact Or.inl ⟨date, hdateMem, rfl, by rw [hword]⟩
  | custom dateFormat =>
    rw [FormatConfig.word_custom] at hword
    cases htime with
    | preset time htimeMem =>
      rw [FormatConfig.word_preset htimeMem] at hword
      exact Or.inr ⟨time, htimeMem, by rw [hword], rfl⟩
    | custom timeFormat =>
      rw [FormatConfig.word_custom] at hword
      exact absurd (by rw [hword]) hne

/-- What the name of a preset is read as has no format of its own. -/
theorem isCustom_ofDetail_preset {preset : Text × Text} (h : preset ∈ half.presets) :
    (ofDetail preset.1).date.isCustom = false ∧ (ofDetail preset.1).time.isCustom = false := by
  have hall : ∀ preset ∈ half.presets, (ofDetail preset.1).date.isCustom = false ∧
      (ofDetail preset.1).time.isCustom = false := by
    cases half <;> decide
  exact hall preset h

end HalfConfigs

theorem areListable_optionsOfDetail (hpercent : '%' ∉ detail) :
    AreListable (optionsOfDetail detail) := by
  intro option hoption
  obtain ⟨hmem, hne⟩ := List.mem_filter.1 hoption
  obtain ⟨part, hpart, rfl⟩ := List.mem_map.1 hmem
  have hchar : ∀ c ∈ Text.trim part, c ∈ detail ∧ c ≠ ',' := fun c hc =>
    Text.mem_of_mem_splitOn hpart c ((Text.trim_sublist part).mem hc)
  refine ⟨by simpa using hne, Text.isTrimmed_trim, ?_, ?_⟩
  · exact fun hmem => (hchar _ hmem).2 rfl
  · exact fun hmem => hpercent (hchar _ hmem).1

/-! ### Prompts that were read -/

namespace Prompt

variable {prompt : Prompt}

/-- The prompt has an accepted name and the configurations that a detail gives. -/
structure IsReadFrom (prompt : Prompt) (detail : Text) : Prop where
  name_accepted : NameProblem.ofName? prompt.name = none
  name_trimmed : Text.IsTrimmed prompt.name
  isDetail : IsDetail detail
  dateConfig : prompt.dateConfig = dateConfigOfDetail? detail prompt.valueType
  timeConfig : prompt.timeConfig = timeConfigOfDetail? detail prompt.valueType
  options : prompt.options = if prompt.valueType.hasOptions then
    some ((optionsOfDetail detail).map StoredText.text) else none

/-- One half of a date with time is a preset, and the format of the other one is the name of
that preset.  Both halves are then written with this name. -/
inductive SharesWord (prompt : Prompt) : Prop
  | date (preset : Text × Text) (hmem : preset ∈ Half.date.presets)
      (htype : prompt.valueType = .datetime)
      (hdate : prompt.dateConfig = some (.plain preset.2))
      (htime : prompt.timeConfig = some (.custom preset.1))
  | time (preset : Text × Text) (hmem : preset ∈ Half.time.presets)
      (htype : prompt.valueType = .datetime)
      (hdate : prompt.dateConfig = some (.custom preset.1))
      (htime : prompt.timeConfig = some (.plain preset.2))

namespace IsReadFrom

theorem halfConfigs_eq (h : prompt.IsReadFrom detail) (htype : prompt.valueType = .datetime) :
    prompt.halfConfigs = HalfConfigs.ofDetail detail := by
  rw [halfConfigs, config, config, h.dateConfig, h.timeConfig, htype]
  rfl

theorem dateConfig_isSome (h : prompt.IsReadFrom detail) :
    prompt.dateConfig.isSome = prompt.valueType.hasDate := by
  rw [h.dateConfig]
  cases prompt.valueType <;> rfl

theorem timeConfig_isSome (h : prompt.IsReadFrom detail) :
    prompt.timeConfig.isSome = prompt.valueType.hasTime := by
  rw [h.timeConfig]
  cases prompt.valueType <;> rfl

theorem isWritable_date (h : prompt.IsReadFrom detail) {config : FormatConfig}
    (hconfig : prompt.dateConfig = some config) : config.IsWritable .date := by
  rw [h.dateConfig] at hconfig
  cases htype : prompt.valueType <;> rw [htype] at hconfig <;> cases hconfig
  · exact FormatConfig.isWritable_ofDetail h.isDetail.no_percent
  · exact (HalfConfigs.isWritable_ofDetail h.isDetail.no_percent).1

theorem isWritable_time (h : prompt.IsReadFrom detail) {config : FormatConfig}
    (hconfig : prompt.timeConfig = some config) : config.IsWritable .time := by
  rw [h.timeConfig] at hconfig
  cases htype : prompt.valueType <;> rw [htype] at hconfig <;> cases hconfig
  · exact FormatConfig.isWritable_ofDetail h.isDetail.no_percent
  · exact (HalfConfigs.isWritable_ofDetail h.isDetail.no_percent).2

/-- Halves that are apart have one word only when they share it. -/
theorem sharesWord_of_word_eq (h : prompt.IsReadFrom detail)
    (htype : prompt.valueType = .datetime) (hapart : prompt.halfConfigs.AreApart)
    (hword : prompt.halfConfigs.date.word .date = prompt.halfConfigs.time.word .time) :
    prompt.SharesWord := by
  have hdate := dateConfig_eq_config (h.dateConfig_isSome.trans (by rw [htype]; rfl))
  have htime := timeConfig_eq_config (h.timeConfig_isSome.trans (by rw [htype]; rfl))
  rcases HalfConfigs.preset_of_word_eq (h.isWritable_date hdate) (h.isWritable_time htime)
    hapart hword with ⟨preset, hmem, hdateEq, htimeEq⟩ | ⟨preset, hmem, hdateEq, htimeEq⟩
  · exact .date preset hmem htype (hdate.trans (congrArg some hdateEq))
      (htime.trans (congrArg some htimeEq))
  · exact .time preset hmem htype (hdate.trans (congrArg some hdateEq))
      (htime.trans (congrArg some htimeEq))

theorem isLegible (h : prompt.IsReadFrom detail) (hshared : ¬prompt.SharesWord) :
    prompt.IsLegible where
  name_accepted := h.name_accepted
  name_trimmed := h.name_trimmed
  dateConfig_isSome := h.dateConfig_isSome
  timeConfig_isSome := h.timeConfig_isSome
  options_isSome := by
    rw [h.options]
    split <;> simp_all
  date _ hconfig := h.isWritable_date hconfig
  time _ hconfig := h.isWritable_time hconfig
  paired htype hapart := by
    have hword := mt (h.sharesWord_of_word_eq htype hapart) hshared
    rw [h.halfConfigs_eq htype] at hapart hword ⊢
    exact HalfConfigs.arePaired_ofDetail h.isDetail hapart hword
  options options hoptions := by
    rw [h.options] at hoptions
    split at hoptions
    · exact ⟨_, (Option.some.inj hoptions).symm, areListable_optionsOfDetail h.isDetail.no_percent⟩
    · simp at hoptions

end IsReadFrom

/-! ### One word for two halves -/

namespace SharesWord

theorem isWritable_custom_preset {preset : Text × Text} {other : Half}
    (h : preset ∈ half.presets) : FormatConfig.IsWritable other (.custom preset.1) :=
  .custom _ (Half.isPlainWord_of_mem h).ne_nil (Half.isPlainWord_of_mem h).no_percent

/-- What is written is the name of the preset. -/
theorem exists_detailText (h : prompt.SharesWord) :
    ∃ half : Half, ∃ preset ∈ half.presets, prompt.detailText = preset.1 := by
  cases h with
  | date preset hmem htype hdate htime =>
    have hconfigs : prompt.halfConfigs = ⟨.plain preset.2, .custom preset.1⟩ := by
      rw [halfConfigs, config, config, hdate, htime]
      rfl
    have hapart : HalfConfigs.AreApart ⟨.plain preset.2, .custom preset.1⟩ :=
       ⟨Or.inr rfl, (FormatConfig.custom_ne_preset hmem).symm⟩
    refine ⟨.date, preset, hmem, ?_⟩
    rw [detailText_datetime htype, hconfigs, HalfConfigs.detail_of_areApart (.preset preset hmem)
      (isWritable_custom_preset hmem) hapart, FormatConfig.word_preset hmem,
      FormatConfig.word_custom, if_pos rfl]
  | time preset hmem htype hdate htime =>
    have hconfigs : prompt.halfConfigs = ⟨.custom preset.1, .plain preset.2⟩ := by
      rw [halfConfigs, config, config, hdate, htime]
      rfl
    have hapart : HalfConfigs.AreApart ⟨.custom preset.1, .plain preset.2⟩ :=
       ⟨Or.inl rfl, FormatConfig.custom_ne_preset hmem⟩
    refine ⟨.time, preset, hmem, ?_⟩
    rw [detailText_datetime htype, hconfigs, HalfConfigs.detail_of_areApart
      (isWritable_custom_preset hmem) (.preset preset hmem) hapart, FormatConfig.word_custom,
      FormatConfig.word_preset hmem, if_pos rfl]

theorem valueType_eq (h : prompt.SharesWord) : prompt.valueType = .datetime := by
  cases h with
  | date preset hmem htype hdate htime => exact htype
  | time preset hmem htype hdate htime => exact htype

/-- One of the halves has a format of its own. -/
theorem isCustom (h : prompt.SharesWord) :
    (prompt.config .date).isCustom = true ∨ (prompt.config .time).isCustom = true := by
  cases h with
  | date preset hmem htype hdate htime => exact Or.inr (by rw [config, htime]; rfl)
  | time preset hmem htype hdate htime => exact Or.inl (by rw [config, hdate]; rfl)

/-- The prompt is not read back: both halves become presets. -/
theorem extractPrompts_ne (h : prompt.SharesWord) (hname : IsPlainName prompt.name)
    (htrimmed : Text.IsTrimmed prompt.name) (next : Nat) :
    (extractPrompts next prompt.tag).1.map question ≠ [prompt.question] := by
  obtain ⟨half, preset, hmem, hdetail⟩ := h.exists_detailText
  have hword := Half.isPlainWord_of_mem hmem
  have htaggable : prompt.IsTaggable :=
    ⟨hname, htrimmed, by rw [hdetail]; exact ⟨hword.trimmed, hword.no_percent⟩⟩
  have hclosed : prompt.detailText.getLast? ≠ some '?' := by
    rw [hdetail]
    exact hword.not_marked
  rw [htaggable.extractPrompts_tag (Or.inr hclosed) next, hdetail, h.valueType_eq]
  intro heq
  have hsame := (List.cons.inj heq).1
  have hdate : some (HalfConfigs.ofDetail preset.1).date = prompt.dateConfig :=
    congrArg Prompt.dateConfig hsame
  have htime : some (HalfConfigs.ofDetail preset.1).time = prompt.timeConfig :=
    congrArg Prompt.timeConfig hsame
  obtain ⟨hdatePlain, htimePlain⟩ := HalfConfigs.isCustom_ofDetail_preset hmem
  have hcustom := h.isCustom
  rw [config, config, ← hdate, ← htime, Option.getD_some, Option.getD_some, hdatePlain,
    htimePlain] at hcustom
  simp at hcustom

end SharesWord

/-! ### The prompts of a title -/

theorem percent_notMem_content {pattern : Text} {found : TagOccurrence}
    (h : found ∈ promptTags pattern) : '%' ∉ found.value.content := by
  obtain ⟨-, -, hfound⟩ := recognise_of_mem_occurrences h
  obtain ⟨inside, rest, -, -, hpercent, htag, -⟩ := PromptTag.recognise_iff.1 hfound
  rw [htag, PromptTag.ofInside]
  intro hmem
  apply hpercent
  dsimp only at hmem
  split at hmem
  · have hcut := List.mem_append_left (PromptTag.cutContent (inside.drop 1)).2 hmem
    rw [PromptTag.cutContent_eq] at hcut
    exact List.mem_of_mem_drop hcut
  · have hcut := List.mem_append_left (PromptTag.cutContent inside).2 hmem
    rwa [PromptTag.cutContent_eq] at hcut

/-- A content with a name is read by its name, its type and its detail. -/
theorem exists_ofContent_eq {text : Text} (hne : promptName text ≠ []) (hpercent : '%' ∉ text)
    (isOptional : Bool) :
    ∃ name type? detail, Text.IsTrimmed name ∧ IsDetail detail ∧
      ofContent text isOptional = ofParts name type? detail isOptional := by
  have hnone : IsDetail [] := ⟨Text.isTrimmed_nil, by simp⟩
  cases hname : Text.cutAt? ':' (Text.trim text) with
  | none =>
    have htrim : Text.trim text ≠ [] := by
      intro hempty
      apply hne
      simp [promptName, PromptContent.ofText, Segment.trimmed, hempty, PromptContent.name]
    exact ⟨_, none, [], Text.isTrimmed_trim, hnone,
      ofContent_named rfl htrim (Text.cutAt?_eq_none_iff.1 hname) isOptional⟩
  | some cut =>
    obtain ⟨name, rest⟩ := cut
    have htext := Text.eq_of_cutAt? hname
    have hcolon := Text.notMem_of_cutAt? hname
    cases htype : Text.cutAt? ':' rest with
    | none =>
      exact ⟨_, _, [], Text.isTrimmed_trim, hnone,
        ofContent_typed htext hcolon (Text.cutAt?_eq_none_iff.1 htype) isOptional⟩
    | some cut =>
      obtain ⟨type, detail⟩ := cut
      have hrest := Text.eq_of_cutAt? htype
      rw [hrest] at htext
      have hdetail : '%' ∉ Text.trim detail := by
        intro hmem
        apply hpercent
        apply (Text.trim_sublist text).mem
        rw [htext]
        simp [(Text.trim_sublist detail).mem hmem]
      exact ⟨_, _, _, Text.isTrimmed_trim, ⟨Text.isTrimmed_trim, hdetail⟩,
        ofContent_detailed htext hcolon (Text.notMem_of_cutAt? htype) isOptional⟩

theorem exists_numbered {next : Nat} {prompts : List Prompt}
    (h : prompt ∈ numberPrompts next prompts) :
    ∃ plain ∈ prompts, ∃ id, prompt = { plain with id := id } := by
  induction prompts generalizing next with
  | nil => simp [numberPrompts] at h
  | cons first prompts ih =>
    rcases List.mem_cons.1 h with rfl | h
    · exact ⟨first, List.mem_cons_self, _, rfl⟩
    · obtain ⟨plain, hplain, hprompt⟩ := ih h
      exact ⟨plain, List.mem_cons_of_mem _ hplain, hprompt⟩

theorem exists_tag_of_mem_promptsOfTagsFrom {seen : List Text} {tags : List TagOccurrence}
    (h : prompt ∈ promptsOfTagsFrom seen tags) : ∃ found ∈ tags, prompt = found.prompt := by
  induction tags generalizing seen with
  | nil => simp [promptsOfTagsFrom] at h
  | cons first tags ih =>
    simp only [promptsOfTagsFrom] at h
    split at h
    · obtain ⟨found, hfound, hprompt⟩ := ih h
      exact ⟨found, List.mem_cons_of_mem _ hfound, hprompt⟩
    · rcases List.mem_cons.1 h with rfl | h
      · exact ⟨first, List.mem_cons_self, rfl⟩
      · obtain ⟨found, hfound, hprompt⟩ := ih h
        exact ⟨found, List.mem_cons_of_mem _ hfound, hprompt⟩

theorem accepted_of_titleProblems {pattern : Text} {found : TagOccurrence}
    (hproblems : titleProblems pattern = []) (hfound : found ∈ promptTags pattern) :
    NameProblem.ofName? (promptName found.value.content) = none := by
  rw [titleProblems, List.append_eq_nil_iff] at hproblems
  have hname := List.filterMap_eq_nil_iff.1 hproblems.2 found hfound
  simpa [nameProblem?] using hname

/-- A prompt of a usable title has the configurations that some detail gives. -/
theorem exists_isReadFrom {pattern : Text} {next : Nat} (hproblems : titleProblems pattern = [])
    (hprompt : prompt ∈ (extractPrompts next pattern).1) :
    ∃ detail, prompt.IsReadFrom detail := by
  obtain ⟨plain, hplain, id, rfl⟩ := exists_numbered hprompt
  obtain ⟨found, hfound, rfl⟩ := exists_tag_of_mem_promptsOfTagsFrom hplain
  have haccepted := accepted_of_titleProblems hproblems hfound
  have hne : promptName found.value.content ≠ [] := by
    intro hempty
    rw [hempty] at haccepted
    exact absurd haccepted (by decide)
  obtain ⟨name, type?, detail, htrimmed, hdetail, heq⟩ :=
    exists_ofContent_eq hne (percent_notMem_content hfound) found.value.isOptional
  have hprompt : found.prompt = ofParts name type? detail found.value.isOptional := heq
  have hname : promptName found.value.content = name := congrArg Prompt.name heq
  rw [hname] at haccepted
  refine ⟨detail, ?_⟩
  rw [hprompt]
  exact ⟨haccepted, htrimmed, hdetail, rfl, rfl, rfl⟩

/-- A prompt of a usable title is read back from its tag exactly when no mark is lost and no
word is shared. -/
theorem extractPrompts_extracted_iff {pattern : Text} {next : Nat}
    (hproblems : titleProblems pattern = [])
    (hprompt : prompt ∈ (extractPrompts next pattern).1) (again : Nat) :
    (extractPrompts again prompt.tag).1.map question = [prompt.question] ↔
      (prompt.isOptional = true ∨ ¬prompt.EndsInMark) ∧ ¬prompt.SharesWord := by
  obtain ⟨detail, hread⟩ := exists_isReadFrom hproblems hprompt
  by_cases hshared : prompt.SharesWord
  · have hname := isPlainName_of_accepted hread.name_accepted hread.name_trimmed
    exact iff_of_false (hshared.extractPrompts_ne hname hread.name_trimmed again)
      (fun h => h.2 hshared)
  · rw [(hread.isLegible hshared).extractPrompts_eq_iff again, and_iff_left hshared]

/-- A day that is asked for by the names of two presets, each in the place of the other. -/
def dayPrompt : Prompt where
  name := "Day".toList
  valueType := .datetime
  isOptional := false
  dateConfig := some (.custom "24-hour".toList)
  timeConfig := some (.custom "us".toList)
  options := none
  id := promptId 0
  isInlineConfigured := true

/-- The two words are formats of their own and are read as such again. -/
theorem extractPrompts_tag_dayPrompt :
    titleProblems "\x7b% Day:datetime:24-hour,us %\x7d".toList = [] ∧
      dayPrompt ∈ (extractPrompts 0 "\x7b% Day:datetime:24-hour,us %\x7d".toList).1 ∧
      (extractPrompts 1 dayPrompt.tag).1.map question = [dayPrompt.question] := by
  have hproblems : titleProblems "\x7b% Day:datetime:24-hour,us %\x7d".toList = [] := by
    decide +kernel
  have hprompt : dayPrompt ∈
      (extractPrompts 0 "\x7b% Day:datetime:24-hour,us %\x7d".toList).1 := by
    decide +kernel
  have hmark : ¬dayPrompt.EndsInMark := by
    rintro (⟨options, option, hoptions, -⟩ | ⟨format, -, -, htime, hlast⟩)
    · simp [dayPrompt] at hoptions
    · obtain rfl : "us".toList = format := FormatConfig.custom_injective htime
      exact absurd hlast (by decide)
  have hshared : ¬dayPrompt.SharesWord := by
    rintro (⟨preset, hmem, -, hdate, -⟩ | ⟨preset, hmem, -, -, htime⟩)
    · exact FormatConfig.custom_ne_preset hmem (Option.some.inj hdate)
    · exact FormatConfig.custom_ne_preset hmem (Option.some.inj htime)
  exact ⟨hproblems, hprompt,
    (extractPrompts_extracted_iff hproblems hprompt 1).2 ⟨Or.inr hmark, hshared⟩⟩

/-- A question whose last option ends in a question mark. -/
def optionPrompt : Prompt where
  name := "Q".toList
  valueType := .list
  isOptional := false
  dateConfig := none
  timeConfig := none
  options := some [.text "a".toList, .text "b?".toList]
  id := promptId 0
  isInlineConfigured := true

/-- In the title the option is followed by a closing mark, which is not written again, so the
mark of the option is taken for it. -/
theorem extractPrompts_tag_optionPrompt :
    titleProblems "\x7b% Q:list:a,b?? %\x7d".toList = [] ∧
      optionPrompt ∈ (extractPrompts 0 "\x7b% Q:list:a,b?? %\x7d".toList).1 ∧
      (extractPrompts 1 optionPrompt.tag).1.map question ≠ [optionPrompt.question] := by
  decide +kernel

end Prompt

end NoteTemplate
