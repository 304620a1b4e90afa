import NoteTemplate.CommandLine.Question
import NoteTemplate.Proofs.Failing
import NoteTemplate.Proofs.Prompt.Extracted
import NoteTemplate.Value.Output

/-!
# Values of prompts that a text asks

What a text asks has formats and options that are texts.  So every value can be checked, and a
value can be shown unless the calendar ends.
-/

namespace NoteTemplate

/-! ### The calendar -/

/-- The calendar ends; no number of a day is too large. -/
def CalendarError.IsEnd : CalendarError → Prop
  | .yearOutOfRange _ | .dayOutOfMonth | .dateOverflow => True
  | .dayTooLarge _ => False

/-- The failure is that the calendar ends. -/
def Failure.IsCalendarEnd : Failure → Prop
  | .calendar error => error.IsEnd
  | _ => False

/-- The end of the calendar is explained, except at a moment that is outside of it in UTC. -/
theorem Failure.IsCalendarEnd.eq_dateOverflow {cause : Failure} (h : cause.IsCalendarEnd)
    (hcause : cause.isExplained = false) : cause = .calendar .dateOverflow := by
  cases cause with
  | calendar error =>
    cases error with
    | dateOverflow => rfl
    | dayTooLarge day => exact h.elim
    | yearOutOfRange | dayOutOfMonth => cases hcause
  | _ => exact h.elim

/-- The week rule of English calendars looks at 1 January only. -/
theorem onlyFails_firstWeekOffset (year : Int) :
    OnlyFails CalendarError.IsEnd (firstWeekOffset .english year) := by
  have hweekday : OnlyFails CalendarError.IsEnd (januaryWeekday year 1) := by
    rw [januaryWeekday, if_neg (by omega)]
    split
    · exact onlyFails_error trivial
    · exact onlyFails_ok _
  exact hweekday.bind fun _ => onlyFails_ok _

theorem onlyFails_weeksInYear (year : Int) :
    OnlyFails CalendarError.IsEnd (weeksInYear .english year) :=
  (onlyFails_firstWeekOffset year).bind fun _ =>
    (onlyFails_firstWeekOffset (year + 1)).bind fun _ => onlyFails_ok _

namespace LocalZone

variable [LocalZone]

theorem onlyFails_shownAt (second : Int) : OnlyFails CalendarError.IsEnd (shownAt second) := by
  rw [shownAt]
  split
  · exact onlyFails_error trivial
  · split
    · exact onlyFails_error trivial
    · exact onlyFails_ok _

theorem onlyFails_secondFrom (shown found offset : Int) (fits isLater : Bool) :
    OnlyFails CalendarError.IsEnd (secondFrom shown found offset fits isLater) := by
  apply (onlyFails_shownAt _).bind
  intro again
  split
  · exact onlyFails_ok _
  · split <;> exact onlyFails_ok _

theorem onlyFails_secondOf (shown : Int) (isLater : Bool) :
    OnlyFails CalendarError.IsEnd (secondOf shown isLater) := by
  apply (onlyFails_shownAt _).bind
  intro first
  apply (onlyFails_shownAt _).bind
  intro shownFound
  dsimp only
  split
  · apply (onlyFails_shownAt _).bind
    intro near
    apply onlyFails_ite
    · exact onlyFails_ok _
    · exact onlyFails_secondFrom _ _ _ _ _
  · exact onlyFails_secondFrom _ _ _ _ _

theorem onlyFails_pointOf (shown : Int) (isLater : Bool) :
    OnlyFails CalendarError.IsEnd (pointOf shown isLater) := by
  apply (onlyFails_secondOf _ _).bind
  intro second
  dsimp only
  split
  · exact onlyFails_ok _
  · exact onlyFails_error trivial

end LocalZone

namespace Instant

variable (instant : Instant)

theorem onlyFails_localWeek : OnlyFails CalendarError.IsEnd instant.localWeek := by
  rw [localWeek, weekOf]
  apply (onlyFails_firstWeekOffset _).bind
  intro offset
  dsimp only
  split
  · exact (onlyFails_weeksInYear _).bind fun _ => onlyFails_ok _
  · apply (onlyFails_weeksInYear _).bind
    intro weeks
    split <;> exact onlyFails_ok _

variable [LocalZone]

theorem onlyFails_offsetSeconds : OnlyFails CalendarError.IsEnd instant.offsetSeconds := by
  rw [offsetSeconds]
  split
  · exact onlyFails_ok _
  · exact (LocalZone.onlyFails_pointOf _ _).bind fun _ => onlyFails_ok _

theorem onlyFails_unixUnits : OnlyFails CalendarError.IsEnd instant.unixUnits := by
  rw [unixUnits]
  dsimp only
  split
  · exact (LocalZone.onlyFails_secondOf _ _).bind fun _ => onlyFails_ok _
  · exact onlyFails_ok _

theorem onlyFails_zoneName : OnlyFails CalendarError.IsEnd instant.zoneName := by
  rw [zoneName]
  split
  · exact onlyFails_ok _
  · exact (LocalZone.onlyFails_pointOf _ _).bind fun _ => onlyFails_ok _

/-- A token fails only where the calendar ends. -/
theorem onlyFails_showToken (token : Token) :
    OnlyFails CalendarError.IsEnd (instant.showToken token) := by
  have hweek {α : Type} (f : YearWeek → α) :
      OnlyFails CalendarError.IsEnd (instant.localWeek >>= fun week => .ok (f week)) :=
    instant.onlyFails_localWeek.bind fun _ => onlyFails_ok _
  cases token with
  | week2 | weekOrdinal | week | weekYear4 | weekYear2 => exact hweek _
  | unixSeconds | unixMilliseconds =>
    exact (instant.onlyFails_unixUnits.bind fun _ => onlyFails_ok _).bind fun _ => onlyFails_ok _
  | offsetPlain | offsetColon =>
    exact instant.onlyFails_offsetSeconds.bind fun _ => onlyFails_ok _
  | zoneName | zoneAbbr => exact instant.onlyFails_zoneName
  | _ => exact onlyFails_ok _

theorem onlyFails_formatStored (format : Text) :
    OnlyFails Failure.IsCalendarEnd (instant.formatStored (.text format)) := by
  have hpieces : OnlyFails CalendarError.IsEnd
      ((formatPieces format).mapM instant.showPiece) := by
    apply onlyFails_mapM
    intro piece _
    cases piece with
    | token token => exact instant.onlyFails_showToken token
    | literal kept => exact onlyFails_ok _
  intro cause hcause
  simp only [formatStored, StoredText.formatPieces, bind, Except.bind] at hcause
  split at hcause
  · cases hcause
  · next error herror =>
    obtain rfl := Except.error.inj hcause
    exact hpieces error herror

end Instant

/-! ### Configurations -/

/-- Both formats of the configuration are texts. -/
structure FormatConfig.IsText (config : FormatConfig) : Prop where
  outputFormat : ∃ format, config.outputFormat = .text format
  customFormat : ∀ stored, config.customFormat = some stored → ∃ format, stored = .text format

namespace FormatConfig

variable {config : FormatConfig} {half : Half}

theorem IsText.plain (format : Text) : (FormatConfig.plain format).IsText :=
  ⟨⟨format, rfl⟩, fun _ h => by cases h⟩

theorem IsText.custom (format : Text) : (FormatConfig.custom format).IsText :=
  ⟨⟨customWord, rfl⟩, by rintro _ ⟨⟩; exact ⟨format, rfl⟩⟩

theorem IsText.ofWord (half : Half) (formats : Bool) (word : Text) :
    (FormatConfig.ofWord half formats word).IsText := by
  rcases preset_or_custom_ofWord half formats word with ⟨preset, -, heq⟩ | ⟨-, heq⟩
  · rw [heq]
    exact .plain _
  · rw [heq]
    exact .custom _

theorem IsText.exists_effective (h : config.IsText) (half : Half) :
    ∃ format, config.effective half = .text format := by
  rw [effective]
  split
  · split
    · next stored hstored =>
      split
      · exact h.customFormat stored hstored
      · exact ⟨_, rfl⟩
    · exact ⟨_, rfl⟩
  · exact h.outputFormat

end FormatConfig

theorem PromptContent.isText_halfConfigs (content : PromptContent) (valueType : ValueType) :
    (content.halfConfigs valueType).date.IsText ∧ (content.halfConfigs valueType).time.IsText := by
  have hplain (half : Half) (format? : Option Text) :
      ((format?.map FormatConfig.plain).getD (.default half)).IsText := by
    cases format? <;> exact .plain _
  rw [halfConfigs]
  split
  · exact ⟨.custom _, .custom _⟩
  · exact ⟨.plain _, .plain _⟩
  · split
    · rw [HalfConfigs.ofWord]
      split
      · exact ⟨.ofWord _ _ _, .ofWord _ _ _⟩
      · split
        · exact ⟨.custom _, .custom _⟩
        · exact ⟨hplain _ _, hplain _ _⟩
    · exact ⟨.ofWord _ _ _, .ofWord _ _ _⟩

namespace Prompt

variable {prompt : Prompt}

/-- The formats and the options of the prompt are texts. -/
structure IsText (prompt : Prompt) : Prop where
  config : ∀ half, (prompt.config half).IsText
  options : ∀ option ∈ prompt.optionList, ∃ text, option = .text text

theorem isText_ofContent (text : Text) (isOptional : Bool) :
    (ofContent text isOptional).IsText where
  config half := by
    have hconfigs := PromptContent.isText_halfConfigs (.ofText text)
      (((PromptContent.ofText text).valueType?).getD .text)
    have hhalf {config : FormatConfig} (hconfig : config.IsText) (present : Bool) :
        ((if present = true then some config else none).getD (.default half)).IsText := by
      cases present
      · exact .plain _
      · exact hconfig
    cases half with
    | date => exact hhalf hconfigs.1 _
    | time => exact hhalf hconfigs.2 _
  options option hoption := by
    rw [optionList, ofContent] at hoption
    dsimp only at hoption
    split at hoption
    · obtain ⟨text, -, rfl⟩ := List.mem_map.1 hoption
      exact ⟨text, rfl⟩
    · cases hoption

/-- What a note asks has texts for its formats and options. -/
theorem isText_of_mem_extractNotePrompts {next : Nat} {text : Text}
    (h : prompt ∈ (extractNotePrompts next text).1) : prompt.IsText := by
  obtain ⟨plain, hplain, id, rfl⟩ := exists_numbered h
  obtain ⟨found, -, rfl⟩ := exists_tag_of_mem_promptsOfTagsFrom hplain
  have hcontent := isText_ofContent found.value.content found.value.isOptional
  exact ⟨hcontent.config, hcontent.options⟩

theorem exists_optionTexts {options : List StoredText}
    (h : ∀ option ∈ options, ∃ text, option = .text text) :
    ∃ texts, optionTexts options = .ok texts := by
  induction options with
  | nil => exact ⟨[], rfl⟩
  | cons option options ih =>
    obtain ⟨text, rfl⟩ := h option List.mem_cons_self
    obtain ⟨texts, htexts⟩ := ih fun other hother => h other (List.mem_cons_of_mem _ hother)
    rw [optionTexts] at htexts
    refine ⟨text :: texts, ?_⟩
    rw [optionTexts, List.mapM_cons, htexts]
    rfl

/-- A value can be checked. -/
theorem IsText.exists_valueProblem? (h : prompt.IsText) (value : Text) :
    ∃ problem, valueProblem? prompt value = .ok problem := by
  have hchoice : ∃ problem, choiceProblem? prompt value = .ok problem := by
    obtain ⟨texts, htexts⟩ := exists_optionTexts h.options
    rw [choiceProblem?]
    dsimp only
    split
    · exact ⟨_, rfl⟩
    · split
      · split
        · exact ⟨_, rfl⟩
        · rw [htexts]
          exact ⟨_, rfl⟩
      · split <;> exact ⟨_, rfl⟩
  rw [valueProblem?]
  dsimp only
  split
  · exact ⟨_, rfl⟩
  · cases prompt.valueType with
    | numeric =>
      dsimp only
      split <;> exact ⟨_, rfl⟩
    | list | multilist => exact hchoice
    | text | date | time | datetime => exact ⟨_, rfl⟩

/-- A value can be shown unless the calendar ends. -/
theorem IsText.onlyFails_showValue [LocalZone] (h : prompt.IsText) (today : Date) (now : Instant)
    (value : Text) : OnlyFails Failure.IsCalendarEnd (prompt.showValue today now value) := by
  obtain ⟨dateFormat, hdate⟩ := (h.config .date).exists_effective .date
  obtain ⟨timeFormat, htime⟩ := (h.config .time).exists_effective .time
  rw [showValue]
  cases prompt.valueType with
  | text | numeric | list | multilist => exact onlyFails_ok _
  | date =>
    dsimp only
    split
    · next date _ =>
      rw [showDateValue]
      rw [hdate]
      have hshows : (StoredText.text dateFormat).hasTimeTokens =
          .ok ((formatPieces dateFormat).any FormatPiece.isTimeToken) := rfl
      rw [hshows]
      dsimp only [bind, Except.bind]
      split <;> exact Instant.onlyFails_formatStored _ _
    · exact onlyFails_ok _
  | time =>
    dsimp only
    split
    · rw [showTime, htime]
      exact Instant.onlyFails_formatStored _ _
    · exact onlyFails_ok _
  | datetime =>
    dsimp only
    split
    · next instant _ =>
      have hboth (join : Text → Text → Text) : OnlyFails Failure.IsCalendarEnd
          (instant.formatStored (.text dateFormat) >>= fun date =>
            instant.formatStored (.text timeFormat) >>= fun time => .ok (join date time)) :=
        (Instant.onlyFails_formatStored _ _).bind fun _ =>
          (Instant.onlyFails_formatStored _ _).bind fun _ => onlyFails_ok _
      rw [showDatetimeValue]
      split
      · rw [showDatetime, hdate, htime]
        exact hboth _
      · rw [hdate, htime]
        dsimp only
        split
        · exact Instant.onlyFails_formatStored _ _
        · exact hboth _
    · exact onlyFails_ok _

end Prompt

end NoteTemplate
