import NoteTemplate.Proofs.Failing
import NoteTemplate.Settings.Reading
import NoteTemplate.Settings.Writing

/-!
# Settings are read back

Reading settles what a settings file leaves open: a field that is missing or empty gets its
default, and where a text is needed the plain text of the value is taken.  Settings in which
nothing is left open (`Settings.IsSettled`) are those that can be read at all, and they are
read back from what is written for them.
-/

namespace NoteTemplate

/-! ### Readings that succeed -/

section

variable {α β ε : Type} {read : α → Except ε β} {write : β → α}

theorem mapM_map_eq_ok {results : List β}
    (h : ∀ result ∈ results, read (write result) = .ok result) :
    (results.map write).mapM read = .ok results := by
  induction results with
  | nil => rfl
  | cons result results ih =>
    obtain ⟨hfirst, hmore⟩ := List.forall_mem_cons.1 h
    rw [List.map_cons, List.mapM_cons, hfirst, ih hmore]
    rfl

theorem exists_of_option_mapM {given : Option α} {result : Option β}
    (h : given.mapM read = .ok result) :
    ∀ found ∈ result, ∃ value ∈ given, read value = .ok found := by
  cases given with
  | none =>
    obtain rfl := Except.ok.inj h
    simp
  | some value =>
    rw [Option.mapM_some] at h
    obtain ⟨found, hfound, rfl⟩ := map_eq_ok_iff.1 h
    simpa using hfound

theorem option_mapM_map_eq_ok {result : Option β}
    (h : ∀ found ∈ result, read (write found) = .ok found) :
    (result.map write).mapM read = .ok result := by
  cases result with
  | none => rfl
  | some found =>
    rw [Option.map_some, Option.mapM_some, h found rfl]
    rfl

end

/-! ### Fields of an object that was written -/

namespace Json

variable {fields : List (String × Json)} {name other : String} {found : Json}

theorem get?_toList (name : String) (fields : List (String × Json)) :
    Keyed.get? name.toList (fields.map fun entry => (entry.1.toList, entry.2)) =
      fields.lookup name := by
  induction fields with
  | nil => rfl
  | cons entry fields ih =>
    rw [List.map_cons, Keyed.get?, List.lookup_cons, ih]
    by_cases h : entry.1 = name
    · simp [h]
    · have hbeq : (name == entry.1) = false := by simpa using Ne.symm h
      rw [hbeq, if_neg fun heq => h (String.toList_inj.1 heq)]

@[simp]
theorem field?_ofFields (fields : List (String × Json)) (name : String) :
    (ofFields fields).field? name = .ok (fields.lookup name) := by
  rw [ofFields, field?, get?_toList]

@[simp]
theorem filledField?_ofFields (fields : List (String × Json)) (name : String) :
    (ofFields fields).filledField? name = .ok ((fields.lookup name).filter isFilled) := by
  rw [filledField?, field?_ofFields]
  rfl

theorem field_ofFields (h : fields.lookup name = some found) :
    (ofFields fields).field name = .ok found := by
  rw [field, field?_ofFields, h]
  rfl

theorem fieldElements_ofFields {items : List Json} (h : fields.lookup name = some (.arr items)) :
    (ofFields fields).fieldElements name = .ok items := by
  rw [fieldElements, field?_ofFields, h]
  rfl

/-- A field that is written only where there is something to write. -/
theorem lookup_optional {α : Type} (write : α → Json) (given : Option α) :
    List.lookup other (given.map fun value => (name, write value)).toList =
      if other = name then given.map write else none := by
  cases given with
  | none => simp
  | some value =>
    by_cases h : other = name
    · simp [h]
    · have hbeq : (other == name) = false := by simpa using h
      simp [h, List.lookup_cons, hbeq]

end Json

/-! ### Plain texts -/

theorem signedDecimal_ne_nil (n : Int) : signedDecimal n ≠ [] := by
  rw [signedDecimal]
  split
  · simp
  · exact decimal_ne_nil _

namespace Binary64

theorem magnitudeText_ne_nil (units : Nat) : magnitudeText units ≠ [] := by
  unfold magnitudeText
  split
  · simp
  · -- Only the shape of the text matters here, so the digits are not computed.
    generalize shortest units = found
    dsimp only
    generalize dropZeros (decimal found.1) found.2 = trimmed
    split
    · split
      · exact List.append_ne_nil_of_left_ne_nil
          (List.append_ne_nil_of_left_ne_nil (by decide) _) _
      · split
        · exact List.append_ne_nil_of_right_ne_nil _ (by decide)
        · exact List.append_ne_nil_of_right_ne_nil _ (List.cons_ne_nil _ _)
    · exact List.append_ne_nil_of_right_ne_nil _ (List.cons_ne_nil _ _)

theorem textWith_ne_nil {infinity notNumber : Text} (hinfinity : infinity ≠ [])
    (hnumber : notNumber ≠ []) (value : Binary64) : value.textWith infinity notNumber ≠ [] := by
  cases value with
  | finite negative units => simp [textWith, magnitudeText_ne_nil]
  | infinite negative => simp [textWith, hinfinity]
  | notANumber => exact hnumber

end Binary64

/-- The plain text of a filled value has a character. -/
theorem Json.plainText_ne_nil {value : Json} (h : value.isFilled = true) :
    value.plainText ≠ [] := by
  cases value with
  | null => cases h
  | bool value =>
    obtain rfl : value = true := h
    decide
  | int value => exact signedDecimal_ne_nil value
  | float value => exact Binary64.textWith_ne_nil (by decide) (by decide) value
  | str value => simpa [isFilled] using h
  | arr items => simp [plainText, quotedText]
  | obj fields => simp [plainText, quotedText]

/-! ### Settings with nothing left open -/

/-- A format of its own is not given as null, which stands for none. -/
def FormatConfig.IsSettled (config : FormatConfig) : Prop :=
  config.customFormat ≠ some (.ofJson .null)

/-- A prompt as it is kept with a template. -/
structure Prompt.IsSettled (prompt : Prompt) : Prop where
  dateConfig : ∀ config ∈ prompt.dateConfig, config.IsSettled
  timeConfig : ∀ config ∈ prompt.timeConfig, config.IsSettled
  notInline : prompt.isInlineConfigured = false

/-- A template in which no default is needed.  Its identifier may only be empty where its name
is, since a template without an identifier goes by its name. -/
structure Template.IsSettled (template : Template) : Prop where
  id : template.id = [] → template.name = []
  folder : template.folder ≠ []
  fileTemplate : ∀ stored ∈ template.fileTemplate, stored.isFilled = true
  prompts : ∀ prompt ∈ template.prompts, prompt.IsSettled

/-- Settings in which no default is needed. -/
structure Settings.IsSettled (settings : Settings) : Prop where
  templates : ∀ template ∈ settings.templates, template.IsSettled
  templateFolder : settings.templateFolder ≠ []
  dateFormat : ∀ stored ∈ settings.dateFormat, stored.isFilled = true
  timeFormat : ∀ stored ∈ settings.timeFormat, stored.isFilled = true

/-! ### What was read is settled -/

theorem isFilled_of_filledField? {value : Json} {name : String} {found : Option Json}
    (h : value.filledField? name = .ok found) : ∀ filled ∈ found, filled.isFilled = true := by
  rw [Json.filledField?] at h
  obtain ⟨field, -, h⟩ := bind_eq_ok_iff.1 h
  obtain rfl := Except.ok.inj h
  intro filled hfilled
  exact (Option.filter_eq_some_iff.1 hfilled).2

theorem isFilled_of_map_ofJson {found : Option Json}
    (h : ∀ filled ∈ found, filled.isFilled = true) :
    ∀ stored ∈ found.map StoredText.ofJson, stored.isFilled = true := by
  intro stored hstored
  obtain ⟨filled, hfilled, rfl⟩ := Option.map_eq_some_iff.1 hstored
  rw [StoredText.isFilled, StoredText.toJson_ofJson]
  exact h filled hfilled

theorem plainText_getD_ne_nil {found : Option Json} {default : Text}
    (h : ∀ filled ∈ found, filled.isFilled = true) (hdefault : default ≠ []) :
    (found.map Json.plainText).getD default ≠ [] := by
  cases found with
  | none => exact hdefault
  | some filled => exact Json.plainText_ne_nil (h filled rfl)

theorem FormatConfig.isSettled_of_ofJson {half : Half} {value : Json} {config : FormatConfig}
    (h : ofJson half value = .ok config) : config.IsSettled := by
  unfold ofJson at h
  split at h
  · split at h
    · obtain rfl := Except.ok.inj h
      unfold IsSettled
      dsimp only
      split
      · simp
      · simp
      · next format hnull _ =>
        intro heq
        have hjson := congrArg StoredText.toJson (Option.some.inj heq)
        rw [StoredText.toJson_ofJson, StoredText.toJson_ofJson] at hjson
        exact hnull hjson
    · cases h
  · cases h

theorem Prompt.isSettled_of_ofJson {value : Json} {prompt : Prompt}
    (h : ofJson value = .ok prompt) : prompt.IsSettled := by
  unfold ofJson at h
  obtain ⟨_, -, h⟩ := bind_eq_ok_iff.1 h
  obtain ⟨_, -, h⟩ := bind_eq_ok_iff.1 h
  obtain ⟨_, -, h⟩ := bind_eq_ok_iff.1 h
  obtain ⟨_, -, h⟩ := bind_eq_ok_iff.1 h
  obtain ⟨_, -, h⟩ := bind_eq_ok_iff.1 h
  obtain ⟨_, -, h⟩ := bind_eq_ok_iff.1 h
  obtain ⟨_, -, h⟩ := bind_eq_ok_iff.1 h
  obtain ⟨dateConfig, hdate, h⟩ := bind_eq_ok_iff.1 h
  obtain ⟨timeConfig, htime, h⟩ := bind_eq_ok_iff.1 h
  obtain ⟨_, -, h⟩ := bind_eq_ok_iff.1 h
  obtain ⟨_, -, h⟩ := bind_eq_ok_iff.1 h
  obtain rfl := Except.ok.inj h
  refine ⟨fun config hconfig => ?_, fun config hconfig => ?_, rfl⟩
  · obtain ⟨_, -, hread⟩ := exists_of_option_mapM hdate config hconfig
    exact FormatConfig.isSettled_of_ofJson hread
  · obtain ⟨_, -, hread⟩ := exists_of_option_mapM htime config hconfig
    exact FormatConfig.isSettled_of_ofJson hread

/-- The identifier of a template that was read is empty only where its name is. -/
theorem Template.id_settled {value found name : Json} {given : Option Json}
    (hgiven : value.filledField? "id" = .ok given)
    (hfound : given.elim (value.field "name") pure = .ok found)
    (hname : value.field "name" = .ok name) (hid : found.plainText = []) :
    name.plainText = [] := by
  cases given with
  | none =>
    obtain rfl : name = found := Except.ok.inj (hname.symm.trans hfound)
    exact hid
  | some filled =>
    obtain rfl : filled = found := Except.ok.inj hfound
    exact absurd hid (Json.plainText_ne_nil (isFilled_of_filledField? hgiven filled rfl))

theorem Template.isSettled_of_ofJson {value : Json} {template : Template}
    (h : ofJson value = .ok template) : template.IsSettled := by
  unfold ofJson at h
  obtain ⟨_, hgiven, h⟩ := bind_eq_ok_iff.1 h
  obtain ⟨_, hid, h⟩ := bind_eq_ok_iff.1 h
  obtain ⟨_, hname, h⟩ := bind_eq_ok_iff.1 h
  obtain ⟨_, -, h⟩ := bind_eq_ok_iff.1 h
  obtain ⟨_, hfolder, h⟩ := bind_eq_ok_iff.1 h
  obtain ⟨_, hfile, h⟩ := bind_eq_ok_iff.1 h
  obtain ⟨_, -, h⟩ := bind_eq_ok_iff.1 h
  obtain ⟨_, -, h⟩ := bind_eq_ok_iff.1 h
  obtain ⟨_, -, h⟩ := bind_eq_ok_iff.1 h
  obtain ⟨_, hprompts, h⟩ := bind_eq_ok_iff.1 h
  obtain rfl := Except.ok.inj h
  refine ⟨id_settled hgiven hid hname, plainText_getD_ne_nil (isFilled_of_filledField? hfolder)
    (by decide), isFilled_of_map_ofJson (isFilled_of_filledField? hfile), ?_⟩
  intro prompt hprompt
  obtain ⟨_, -, hread⟩ := exists_of_mapM hprompts prompt hprompt
  exact Prompt.isSettled_of_ofJson hread

theorem Settings.isSettled_of_ofJson {value : Json} {settings : Settings}
    (h : ofJson value = .ok settings) : settings.IsSettled := by
  unfold ofJson at h
  obtain ⟨_, -, h⟩ := bind_eq_ok_iff.1 h
  obtain ⟨_, htemplates, h⟩ := bind_eq_ok_iff.1 h
  obtain ⟨_, hfolder, h⟩ := bind_eq_ok_iff.1 h
  obtain ⟨_, hdate, h⟩ := bind_eq_ok_iff.1 h
  obtain ⟨_, htime, h⟩ := bind_eq_ok_iff.1 h
  obtain rfl := Except.ok.inj h
  refine ⟨?_, plainText_getD_ne_nil (isFilled_of_filledField? hfolder) (by decide),
    isFilled_of_map_ofJson (isFilled_of_filledField? hdate),
    isFilled_of_map_ofJson (isFilled_of_filledField? htime)⟩
  intro template htemplate
  obtain ⟨_, -, hread⟩ := exists_of_mapM htemplates template htemplate
  exact Template.isSettled_of_ofJson hread

/-! ### What was written is read back -/

namespace Json

/-- What is written filled wherever there is something to write is read back. -/
theorem mapM_filter_isFilled {α : Type} {read : Json → Except Failure α} {write : α → Json}
    {given : Option α} (hfilled : ∀ value, (write value).isFilled = true)
    (hread : ∀ value ∈ given, read (write value) = .ok value) :
    ((given.map write).filter isFilled).mapM read = .ok given := by
  have hfilter : (given.map write).filter isFilled = given.map write := by
    cases given with
    | none => rfl
    | some value => exact Option.filter_some_pos (hfilled value)
  rw [hfilter, option_mapM_map_eq_ok hread]

/-- A text that is not empty is read back in place of its default. -/
theorem getD_filter_str {text default : Text} (h : text ≠ []) :
    (((some (str text)).filter isFilled).map plainText).getD default = text := by
  have hfilled : (str text).isFilled = true := by simpa [isFilled] using h
  rw [Option.filter_some_pos hfilled]
  rfl

/-- A stored text that is filled is read back, and so is null where there is none. -/
theorem map_ofJson_filter_ofStored? {given : Option StoredText}
    (h : ∀ stored ∈ given, stored.isFilled = true) :
    ((some (ofStored? given)).filter isFilled).map StoredText.ofJson = given := by
  cases given with
  | none => rfl
  | some stored =>
    have hfilled : (ofStored? (some stored)).isFilled = true := h stored rfl
    rw [Option.filter_some_pos hfilled]
    exact congrArg some (StoredText.ofJson_toJson stored)

end Json

theorem FormatConfig.ofJson_toJson (half : Half) {config : FormatConfig} (h : config.IsSettled) :
    ofJson half config.toJson = .ok config := by
  obtain ⟨outputFormat, customFormat⟩ := config
  simp only [toJson, Json.ofFields, ofJson, Json.get?_toList]
  rw [if_pos (by simp [fieldNames])]
  simp only [List.lookup_cons, String.reduceBEq, StoredText.ofJson_toJson]
  cases customFormat with
  | none => rfl
  | some stored =>
    have hnull : stored.toJson ≠ .null := fun hnull => h <| by
      rw [← StoredText.ofJson_toJson stored, hnull]
    simp only [Json.ofStored?, StoredText.ofJson_toJson]

theorem optionsOfJson_toJson (options : List StoredText) :
    optionsOfJson (optionsToJson options) = .ok options := by
  rw [optionsOfJson, optionsToJson, Json.fieldElements_ofFields rfl]
  have hread : (options.map StoredText.toJson).map StoredText.ofJson = options := by
    simp [Function.comp_def]
  exact congrArg Except.ok hread

theorem ValueType.ofJson_name (valueType : ValueType) :
    ValueType.ofJson (.str valueType.name) = .ok valueType := by
  simp [ValueType.ofJson, Json.asText?, ValueType.ofName?_name]

theorem Prompt.ofJson_toJson {prompt : Prompt} (h : prompt.IsSettled) :
    ofJson prompt.toJson = .ok prompt := by
  have hdateField : prompt.toJson.filledField? "date_config" =
      .ok ((prompt.dateConfig.map FormatConfig.toJson).filter Json.isFilled) := by
    simp [toJson, List.lookup_append, Json.lookup_optional, List.lookup_cons]
  have htimeField : prompt.toJson.filledField? "time_config" =
      .ok ((prompt.timeConfig.map FormatConfig.toJson).filter Json.isFilled) := by
    simp [toJson, List.lookup_append, Json.lookup_optional, List.lookup_cons]
  have hoptionsField : prompt.toJson.filledField? "list_config" =
      .ok ((prompt.options.map optionsToJson).filter Json.isFilled) := by
    simp [toJson, List.lookup_append, Json.lookup_optional, List.lookup_cons]
  have hdate : ((prompt.dateConfig.map FormatConfig.toJson).filter Json.isFilled).mapM
      (FormatConfig.ofJson .date) = .ok prompt.dateConfig :=
    Json.mapM_filter_isFilled (fun _ => rfl) fun config hconfig =>
      FormatConfig.ofJson_toJson .date (h.dateConfig config hconfig)
  have htime : ((prompt.timeConfig.map FormatConfig.toJson).filter Json.isFilled).mapM
      (FormatConfig.ofJson .time) = .ok prompt.timeConfig :=
    Json.mapM_filter_isFilled (fun _ => rfl) fun config hconfig =>
      FormatConfig.ofJson_toJson .time (h.timeConfig config hconfig)
  have hoptions : ((prompt.options.map optionsToJson).filter Json.isFilled).mapM optionsOfJson =
      .ok prompt.options :=
    Json.mapM_filter_isFilled (fun _ => rfl) fun options _ => optionsOfJson_toJson options
  have hname : prompt.toJson.field "name" = .ok (.str prompt.name) := Json.field_ofFields rfl
  have htype : prompt.toJson.field? "value_type" = .ok (some (.str prompt.valueType.name)) :=
    Json.field?_ofFields ..
  have hisOptional : prompt.toJson.filledField? "is_optional" =
      .ok ((some (.bool prompt.isOptional)).filter Json.isFilled) := Json.filledField?_ofFields ..
  have hflag : ((some (Json.bool prompt.isOptional)).filter Json.isFilled).isSome =
      prompt.isOptional := by
    cases prompt.isOptional <;> rfl
  have hid : prompt.toJson.field? "id" = .ok (some (.str prompt.id)) := Json.field?_ofFields ..
  unfold ofJson
  rw [hdateField, ok_bind, htimeField, ok_bind, hoptionsField, ok_bind, hname, ok_bind, htype,
    ok_bind, Option.elim_some, ValueType.ofJson_name, ok_bind, hisOptional, ok_bind, hdate, ok_bind,
    htime, ok_bind, hoptions, ok_bind, hid, ok_bind]
  rw [hflag]
  obtain ⟨name, valueType, isOptional, dateConfig, timeConfig, options, id, inline⟩ := prompt
  obtain rfl : inline = false := h.notInline
  rfl

theorem Template.ofJson_toJson {template : Template} (h : template.IsSettled) :
    ofJson template.toJson = .ok template := by
  have hid : ((some (Json.str template.id)).filter Json.isFilled).elim
      (Except.ok (Json.str template.name)) pure =
        (Except.ok (Json.str template.id) : Except Failure Json) := by
    by_cases hempty : template.id = []
    · rw [h.id hempty, hempty]
      rfl
    · rw [Option.filter_some_pos (by simpa [Json.isFilled] using hempty)]
      rfl
  have hprompts : (template.prompts.map Prompt.toJson).mapM Prompt.ofJson = .ok template.prompts :=
    mapM_map_eq_ok fun prompt hprompt => Prompt.ofJson_toJson (h.prompts prompt hprompt)
  have hlisted : template.toJson.fieldElements "user_prompts" =
      .ok (template.prompts.map Prompt.toJson) := Json.fieldElements_ofFields rfl
  have hname : template.toJson.field "name" = .ok (.str template.name) := Json.field_ofFields rfl
  have htitle : template.toJson.field "title_pattern" = .ok (.str template.titlePattern) :=
    Json.field_ofFields rfl
  have hcounter : template.toJson.field? "counter_starts_at" =
      .ok (some (.int template.counterStart)) := Json.field?_ofFields ..
  unfold ofJson
  rw [hname, hlisted, htitle, hcounter]
  simp only [toJson, Json.filledField?_ofFields, ok_bind]
  simp only [List.lookup_cons, String.reduceBEq, hid, ok_bind]
  rw [hprompts, Json.getD_filter_str h.folder, Json.map_ofJson_filter_ofStored? h.fileTemplate]
  rfl

theorem Settings.ofJson_toJson {settings : Settings} (h : settings.IsSettled) :
    ofJson settings.toJson = .ok settings := by
  have htemplates : (settings.templates.map Template.toJson).mapM Template.ofJson =
      .ok settings.templates :=
    mapM_map_eq_ok fun template htemplate =>
      Template.ofJson_toJson (h.templates template htemplate)
  have hlisted : settings.toJson.fieldElements "templates" =
      .ok (settings.templates.map Template.toJson) := Json.fieldElements_ofFields rfl
  unfold ofJson
  rw [hlisted, ok_bind, htemplates, ok_bind]
  simp only [toJson, Json.filledField?_ofFields, List.lookup_cons, String.reduceBEq, ok_bind]
  rw [Json.getD_filter_str h.templateFolder, Json.map_ofJson_filter_ofStored? h.dateFormat,
    Json.map_ofJson_filter_ofStored? h.timeFormat]
  rfl

/-- Settings survive saving: whatever they were read from, they are read back from what is
written for them, and no second reading changes anything. -/
theorem Settings.ofJson_toJson_of_ofJson {value : Json} {settings : Settings}
    (h : ofJson value = .ok settings) : ofJson settings.toJson = .ok settings :=
  ofJson_toJson (isSettled_of_ofJson h)

namespace Settings

/-- A value that is read as settings with some tolerance: the template has a number for a name
and none for its identifier, an empty folder and a numeral as its counter; the prompt has null
for its identifier, a text for its options and formats that are not texts. -/
def looseValue : Json :=
  .ofFields
    [("date_format", .int 0), ("time_format", .arr [.int 7]),
     ("templates", .arr [.ofFields
       [("name", .int (-5)), ("title_pattern", .bool true), ("folder", .str []),
        ("counter_starts_at", .str " 7 ".toList),
        ("user_prompts", .arr [.ofFields
          [("name", .null), ("value_type", .str "date".toList), ("id", .null),
           ("is_optional", .str "no".toList), ("time_config", .ofFields []),
           ("list_config", .ofFields [("options", .str "ab".toList)]),
           ("date_config", .ofFields
              [("output_format", .null), ("custom_format", .bool true)])]])]])]

/-- The settings that `looseValue` is read as. -/
def looseReading : Settings where
  templates :=
    [{ id := "-5".toList
       name := "-5".toList
       titlePattern := "True".toList
       folder := currentFolderWord
       fileTemplate := none
       counterStart := 7
       prompts :=
        [{ name := "None".toList
           valueType := .date
           isOptional := true
           dateConfig := some ⟨.ofJson .null, some (.ofJson (.bool true))⟩
           timeConfig := none
           options := some [.text "a".toList, .text "b".toList]
           id := "None".toList
           isInlineConfigured := false }] }]
  templateFolder := defaultTemplateFolder
  dateFormat := none
  timeFormat := some (.ofJson (.arr [.int 7]))

theorem ofJson_toJson_looseReading :
    ofJson looseValue = .ok looseReading ∧ ofJson looseReading.toJson = .ok looseReading := by
  have hread : ofJson looseValue = .ok looseReading := by rfl
  exact ⟨hread, ofJson_toJson_of_ofJson hread⟩

end Settings

end NoteTemplate
