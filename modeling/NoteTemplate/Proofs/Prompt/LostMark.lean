import NoteTemplate.Proofs.Prompt.WellFormed

/-!
# The mark that is lost

A question mark that stands bare at the end of a required tag is taken for the closing
mark of an optional one.  This happens to the last option of a list and to the time half of
a pair of words, and what is then read is another prompt (`exists_read`).
-/

namespace NoteTemplate

namespace Prompt

/-- What stands bare at the end of the tag ends in a question mark: the last option, or the
time half of a pair of words. -/
inductive EndsInMark (prompt : Prompt) : Prop
  | option (options : List StoredText) (option : Text)
      (hoptions : prompt.options = some (options ++ [.text option]))
      (hmark : option.getLast? = some '?')
  | timeHalf (format : Text) (htype : prompt.valueType = .datetime)
      (hapart : prompt.halfConfigs.AreApart) (htime : prompt.halfConfigs.time = .custom format)
      (hmark : format.getLast? = some '?')

end Prompt

/-! ### The end of a detail -/

namespace FormatConfig

variable {half : Half} {config : FormatConfig}

theorem custom_injective : Function.Injective custom := by
  intro left right h
  simpa [custom] using h

theorem getLast?_wrapped (format : Text) :
    (formatOpening ++ format ++ [')']).getLast? = some ')' := List.getLast?_concat

theorem IsWritable.not_marked (h : IsWritable half config) :
    ((config.detail? half).getD []).getLast? ≠ some '?' := by
  cases h with
  | preset preset hmem =>
    have hword := Half.isPlainWord_of_mem hmem
    rw [detail?, if_neg (by simp [isCustom_preset hmem]), word_preset hmem]
    by_cases hdefault : plain preset.2 = default half
    · simp [hdefault]
    · rw [if_neg hdefault]
      exact hword.not_marked
  | custom format hne hpercent =>
    rw [detail?, if_pos (isCustom_custom format), wrapped, customText_custom, Option.getD_some,
      getLast?_wrapped]
    decide

end FormatConfig

namespace HalfConfigs

variable {configs : HalfConfigs}

theorem getLast?_pairText (hne : configs.time.word .time ≠ []) :
    configs.pairText.getLast? = (configs.time.word .time).getLast? := by
  rw [pairText, List.getLast?_append_of_ne_nil _ (by simp), List.getLast?_cons_of_ne_nil hne]

theorem not_marked_detail_presets {date time : Text × Text} (hdate : date ∈ Half.date.presets)
    (htime : time ∈ Half.time.presets) :
    (detail ⟨.plain date.2, .plain time.2⟩).getLast? ≠ some '?' := by
  have hall : ∀ date ∈ Half.date.presets, ∀ time ∈ Half.time.presets,
      (detail ⟨.plain date.2, .plain time.2⟩).getLast? ≠ some '?' := by
    decide
  exact hall date hdate time htime

theorem AreLegible.getLast?_detail_iff (h : configs.AreLegible) :
    configs.detail.getLast? = some '?' ↔
      configs.AreApart ∧ ∃ format, configs.time = .custom format ∧ format.getLast? = some '?' := by
  by_cases hapart : configs.AreApart
  · rw [h.detail_of_areApart hapart, getLast?_pairText (h.paired hapart).time.ne_nil]
    by_cases hcustom : configs.time.isCustom = true
    · obtain ⟨format, hformat, -, -⟩ := h.time.exists_custom hcustom
      rw [hformat, FormatConfig.word_custom]
      simp [hapart, FormatConfig.custom]
    · obtain ⟨preset, hmem, hpreset⟩ := h.time.exists_preset hcustom
      have hmark := (Half.isPlainWord_of_mem hmem).not_marked
      rw [hpreset, FormatConfig.word_preset hmem]
      simp [hmark, FormatConfig.plain, FormatConfig.custom]
  · have hnot : configs.detail.getLast? ≠ some '?' := by
      rcases h.presets_or_custom hapart with ⟨date, hdate, time, htime, rfl⟩ | ⟨format, rfl, -, -⟩
      · exact not_marked_detail_presets hdate htime
      · rw [detail_custom, FormatConfig.getLast?_wrapped]
        decide
    simp [hapart, hnot]

end HalfConfigs

theorem getLast?_join_concat (options : List Text) {option : Text} (hne : option ≠ []) :
    (Text.join [','] (options ++ [option])).getLast? = option.getLast? := by
  by_cases hoptions : options = []
  · simp [hoptions]
  · rw [Text.join_append_singleton hoptions, List.getLast?_append_of_ne_nil _ (by simp),
      List.getLast?_cons_of_ne_nil hne]

namespace Prompt

variable {prompt : Prompt}

theorem getLast?_detailText_options {texts : List Text}
    (hoptions : prompt.valueType.hasOptions = true)
    (htexts : prompt.options = some (texts.map StoredText.text)) (hlist : AreListable texts) :
    prompt.detailText.getLast? = some '?' ↔ prompt.EndsInMark := by
  rw [detailText_options hoptions htexts]
  constructor
  · intro hmark
    rcases List.eq_nil_or_concat texts with rfl | ⟨init, option, rfl⟩
    · simp at hmark
    · have hne : option ≠ [] := (hlist option (by simp)).1
      rw [List.concat_eq_append, getLast?_join_concat init hne] at hmark
      exact .option (init.map StoredText.text) option (by simp [htexts]) hmark
  · rintro (⟨options, option, heq, hmark⟩ | ⟨format, htype, -, -, -⟩)
    · rw [htexts, Option.some.injEq, List.map_eq_append_iff] at heq
      obtain ⟨init, last, rfl, -, hlast⟩ := heq
      obtain ⟨option', rfl, hoption⟩ := List.map_eq_singleton_iff.1 hlast
      obtain rfl : option' = option := by simpa using hoption
      rwa [getLast?_join_concat init (hlist option' (by simp)).1]
    · simp [htype, ValueType.hasOptions] at hoptions

/-- The detail of a prompt ends in a question mark when what stands bare does. -/
theorem IsLegible.getLast?_detailText_iff (h : prompt.IsLegible) :
    prompt.detailText.getLast? = some '?' ↔ prompt.EndsInMark := by
  by_cases hoptions : prompt.valueType.hasOptions = true
  · obtain ⟨texts, heq, htexts⟩ := h.options_eq hoptions
    exact getLast?_detailText_options hoptions heq htexts
  · have hnone : prompt.options = none := by
      have hsome := h.options_isSome
      rw [Bool.eq_false_iff.2 hoptions] at hsome
      exact Option.not_isSome_iff_eq_none.1 (by simp [hsome])
    by_cases hdatetime : prompt.valueType = .datetime
    · rw [detailText_datetime hdatetime, (h.areLegible hdatetime).getLast?_detail_iff]
      constructor
      · rintro ⟨hapart, format, htime, hmark⟩
        exact .timeHalf format hdatetime hapart htime hmark
      · rintro (⟨options, option, heq, -⟩ | ⟨format, -, hapart, htime, hmark⟩)
        · simp [hnone] at heq
        · exact ⟨hapart, format, htime, hmark⟩
    · have hnot : ¬prompt.EndsInMark := by
        rintro (⟨options, option, heq, -⟩ | ⟨format, htype, -, -, -⟩)
        · simp [hnone] at heq
        · exact hdatetime htype
      have hmark : prompt.detailText.getLast? ≠ some '?' := by
        cases htype : prompt.valueType with
        | text => simp [detailText, detail?, htype]
        | numeric => simp [detailText, detail?, htype]
        | date =>
          rw [detailText_date htype]
          exact (h.date _ (h.dateConfig_eq (by rw [htype]; rfl))).not_marked
        | time =>
          rw [detailText_time htype]
          exact (h.time _ (h.timeConfig_eq (by rw [htype]; rfl))).not_marked
        | datetime => exact absurd htype hdatetime
        | list => simp [htype, ValueType.hasOptions] at hoptions
        | multilist => simp [htype, ValueType.hasOptions] at hoptions
      exact iff_of_false hmark hnot

end Prompt

/-! ### What is left without the last mark -/

theorem FormatConfig.eq_of_ofWord_eq_custom {half : Half} {formats : Bool} {word format : Text}
    (h : ofWord half formats word = custom format) : word = format := by
  rw [ofWord] at h
  split at h
  · simp [default, plain, custom] at h
  · split at h
    · simp [plain, custom] at h
    · split at h
      · simp [plain, custom] at h
      · simpa [custom] using h

theorem count_options_le (parts : List Text) (c : Char) :
    ((parts.map Text.trim).filter fun option => !option.isEmpty).flatten.count c ≤
      (Text.join [','] parts).count c := by
  induction parts with
  | nil => simp
  | cons part parts ih =>
    have hpart : (Text.trim part).count c ≤ part.count c := (Text.trim_sublist part).count_le c
    have hjoin : part.count c + (Text.join [','] parts).count c ≤
        (Text.join [','] (part :: parts)).count c := by
      cases parts with
      | nil => simp
      | cons next parts =>
        rw [Text.join, List.append_assoc, List.count_append, List.singleton_append]
        exact Nat.add_le_add_left List.count_le_count_cons _
    by_cases hempty : (Text.trim part).isEmpty
    · simp only [List.map_cons, List.filter_cons, hempty]
      exact (ih.trans (Nat.le_add_left _ _)).trans hjoin
    · simp only [List.map_cons, List.filter_cons, hempty]
      rw [if_pos (by simp), List.flatten_cons, List.count_append]
      exact (Nat.add_le_add hpart ih).trans hjoin

/-- Reading a detail as options invents no question marks. -/
theorem count_optionsOfDetail_le (detail : Text) (c : Char) :
    (optionsOfDetail detail).flatten.count c ≤ detail.count c := by
  have h := count_options_le (Text.splitOn ',' detail) c
  rwa [Text.join_splitOn] at h

theorem count_join {texts : List Text} {c : Char} (hc : c ≠ ',') :
    (Text.join [','] texts).count c = texts.flatten.count c := by
  induction texts with
  | nil => rfl
  | cons text texts ih =>
    cases texts with
    | nil => simp
    | cons next texts =>
      rw [Text.join, List.flatten_cons, List.count_append, List.count_append, ih,
        List.count_append, List.count_singleton]
      simp [Ne.symm hc]

theorem optionsOfDetail_ne {texts : List Text} {rest read : Text}
    (hjoin : Text.join [','] texts = rest ++ ['?']) (hread : read.Sublist rest) :
    optionsOfDetail read ≠ texts := by
  rintro rfl
  have hcount := count_optionsOfDetail_le read '?'
  rw [← count_join (by decide), hjoin, List.count_append, List.count_singleton] at hcount
  have hle := hread.count_le '?'
  simp at hcount
  omega

/-- Without its last mark a pair of words is read as other halves. -/
theorem HalfConfigs.ofDetail_ne {configs : HalfConfigs} (h : configs.AreLegible)
    (hapart : configs.AreApart) {rest format : Text} (htime : configs.time = .custom format)
    (hrest : rest.length < format.length) :
    ofDetail (configs.date.word .date ++ ',' :: rest) ≠ configs := by
  intro heq
  rw [ofDetail] at heq
  split at heq
  · exact hapart.2 (by rw [← heq])
  · rw [List.isEmpty_eq_false_iff.2 (by simp), if_neg Bool.false_ne_true, ofWord,
      Text.cutAt?_append _ (h.paired hapart).no_comma] at heq
    have hword : FormatConfig.ofWord .time false (Text.trim rest) = .custom format := by
      rw [← htime, ← heq]
    have hformat := FormatConfig.eq_of_ofWord_eq_custom hword
    have hlength := (Text.trim_sublist rest).length_le
    rw [hformat] at hlength
    omega

namespace Prompt

variable {prompt : Prompt}

/-- What is left of a detail without its last mark, and what is read from it. -/
theorem IsLegible.exists_read (h : prompt.IsLegible) (hmark : prompt.EndsInMark) :
    ∃ rest, prompt.detailText = rest ++ ['?'] ∧
      (ofParts prompt.name (some prompt.valueType) (Text.trim (Text.trimRight rest)) false).question
        ≠ prompt.question := by
  obtain ⟨rest, hrest⟩ := List.getLast?_eq_some_iff.1 (h.getLast?_detailText_iff.2 hmark)
  refine ⟨rest, hrest, ?_⟩
  intro heq
  simp only [question, ofParts, Option.getD_some, Prompt.mk.injEq] at heq
  obtain ⟨-, -, -, hdate, htime, hoptions, -, -⟩ := heq
  cases hmark with
  | option options option hoption _ =>
    have hhas : prompt.valueType.hasOptions = true := by
      rw [← h.options_isSome, hoption]
      rfl
    obtain ⟨texts, htexts, -⟩ := h.options_eq hhas
    rw [if_pos hhas, htexts, Option.some.injEq] at hoptions
    have hsame : optionsOfDetail (Text.trim (Text.trimRight rest)) = texts :=
      List.map_injective_iff.2 (fun _ _ => StoredText.text.inj) hoptions
    rw [detailText_options hhas htexts] at hrest
    exact optionsOfDetail_ne hrest
      ((Text.trim_sublist _).trans (Text.trimRight_prefix_self rest).sublist) hsame
  | timeHalf format htype hapart htimeHalf hformat =>
    have hlegible := h.areLegible htype
    obtain ⟨bare, rfl⟩ := List.getLast?_eq_some_iff.1 hformat
    have hleft : Text.IsTrimmed (prompt.halfConfigs.date.word .date ++ [',']) := by
      have hbare := (hlegible.paired hapart).date
      have hcomma : Text.IsTrimmed [','] := by decide
      have htrimmed := hbare.trimmed.append hcomma hbare.ne_nil (by simp) []
      simpa using htrimmed
    have hread : Text.trim (Text.trimRight rest) =
        prompt.halfConfigs.date.word .date ++ ',' :: Text.trimRight (Text.trimRight bare) := by
      have hpair : rest = prompt.halfConfigs.date.word .date ++ [','] ++ bare := by
        rw [detailText_datetime htype, hlegible.detail_of_areApart hapart, HalfConfigs.pairText,
          htimeHalf, FormatConfig.word_custom] at hrest
        have hcancel : rest ++ ['?'] =
            prompt.halfConfigs.date.word .date ++ [','] ++ bare ++ ['?'] := by simp [← hrest]
        exact List.append_cancel_right hcancel
      rw [hpair, Text.trimRight_append (Text.isTrimmed_iff.1 hleft).2,
        ← List.nil_append (_ ++ Text.trimRight bare), Text.trim_append hleft (by simp) rfl _]
      simp
    rw [hread, htype, dateConfigOfDetail?, h.dateConfig_eq (by rw [htype]; rfl)] at hdate
    rw [hread, htype, timeConfigOfDetail?, h.timeConfig_eq (by rw [htype]; rfl)] at htime
    have hshort : (Text.trimRight (Text.trimRight bare)).length < (bare ++ ['?']).length := by
      have hlength :=
        ((Text.trimRight_prefix_self _).trans (Text.trimRight_prefix_self bare)).length_le
      rw [List.length_append, List.length_singleton]
      omega
    apply HalfConfigs.ofDetail_ne hlegible hapart htimeHalf hshort
    rw [HalfConfigs.mk.injEq]
    exact ⟨Option.some.inj hdate, Option.some.inj htime⟩

end Prompt

end NoteTemplate
