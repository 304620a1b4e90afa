import NoteTemplate.Proofs.Settings.Settled
import NoteTemplate.Settings.File

/-!
# The shape of a settings file

A value that is read as settings either has the shape of settings or stops the reading.  Most
of what stops a reading is due to the content of the file and is reported as such.  Three
things are not: a value that is asked for a part although it is no object, an infinite number
as a counter, and lists and objects that are nested too deep.  A value *trips* the reading
when such a thing is the first that the reading meets.
-/

namespace NoteTemplate

/-! ### How a reading ends -/

/-- What stops a reading without being reported as the content of the file. -/
def Failure.tripping : List Failure := [.missingPart, .infiniteNumber, .nestedTooDeep]

theorem Failure.isBadContent_of_mem_tripping {failure : Failure} (h : failure ∈ tripping) :
    failure.isBadContent = false := by
  simp only [tripping, List.mem_cons, List.not_mem_nil, or_false] at h
  rcases h with rfl | rfl | rfl <;> rfl

/-- A reading succeeds where its input fits, trips where its input trips, and refuses
everything else as bad content. -/
inductive Reads {α : Type} (fits trips : Prop) : Except Failure α → Prop where
  | ok (value : α) (hfits : fits) (htrips : ¬ trips) : Reads fits trips (.ok value)
  | refused {failure : Failure} (hbad : failure.isBadContent = true) (hfits : ¬ fits)
      (htrips : ¬ trips) : Reads fits trips (.error failure)
  | tripped {failure : Failure} (hfailure : failure ∈ Failure.tripping) (hfits : ¬ fits)
      (htrips : trips) : Reads fits trips (.error failure)

namespace Reads

variable {α β : Type} {fits fits' trips trips' : Prop} {result : Except Failure α}

theorem congr (h : Reads fits trips result) (hfits : fits ↔ fits') (htrips : trips ↔ trips') :
    Reads fits' trips' result := by
  rw [← propext hfits, ← propext htrips]
  exact h

/-- What is read first decides first. -/
theorem bind {next : α → Except Failure β} (h : Reads fits trips result)
    (hnext : ∀ value, result = .ok value → Reads fits' trips' (next value)) :
    Reads (fits ∧ fits') (trips ∨ fits ∧ trips') (result >>= next) := by
  cases h with
  | ok value hfits htrips =>
    refine (hnext value rfl).congr ?_ ?_
    · simp [hfits]
    · simp [hfits, htrips]
  | refused hbad hfits htrips => exact .refused hbad (by simp [hfits]) (by simp [hfits, htrips])
  | tripped hfailure hfits htrips => exact .tripped hfailure (by simp [hfits]) (.inl htrips)

theorem map (f : α → β) (h : Reads fits trips result) : Reads fits trips (f <$> result) := by
  cases h with
  | ok value hfits htrips => exact .ok (f value) hfits htrips
  | refused hbad hfits htrips => exact .refused hbad hfits htrips
  | tripped hfailure hfits htrips => exact .tripped hfailure hfits htrips

/-- A reading that needs nothing of its input. -/
theorem pure (value : α) : Reads True False (.ok value : Except Failure α) :=
  .ok value trivial not_false

variable {read : α → Except Failure β} {Fits Trips : α → Prop}

/-- A list is read item by item, up to the first item that does not fit. -/
theorem mapM (hread : ∀ item, Reads (Fits item) (Trips item) (read item)) (items : List α) :
    Reads (∀ item ∈ items, Fits item)
      (∃ front item back, items = front ++ item :: back ∧ (∀ other ∈ front, Fits other) ∧
        Trips item)
      (items.mapM read) := by
  induction items with
  | nil => exact (pure []).congr (by simp) (by simp)
  | cons first items ih =>
    rw [List.mapM_cons]
    refine ((hread first).bind fun _ _ => ih.bind fun _ _ => pure _).congr (by simp) ?_
    constructor
    · rintro (htrips | ⟨hfits, ⟨front, item, back, rfl, hfront, htrips⟩ | ⟨-, ⟨⟩⟩⟩)
      · exact ⟨[], first, items, rfl, by simp, htrips⟩
      · exact ⟨first :: front, item, back, rfl, by simpa using ⟨hfits, hfront⟩, htrips⟩
    · rintro ⟨front, item, back, heq, hfront, htrips⟩
      cases front with
      | nil =>
        obtain ⟨rfl, rfl⟩ := List.cons.inj heq
        exact .inl htrips
      | cons other front =>
        obtain ⟨rfl, rfl⟩ := List.cons.inj heq
        obtain ⟨hfits, hfront⟩ := List.forall_mem_cons.1 hfront
        exact .inr ⟨hfits, .inl ⟨front, item, back, rfl, hfront, htrips⟩⟩

theorem option_mapM (hread : ∀ item, Reads (Fits item) (Trips item) (read item))
    (given : Option α) :
    Reads (∀ item ∈ given, Fits item) (∃ item ∈ given, Trips item) (given.mapM read) := by
  cases given with
  | none => exact (pure none).congr (by simp) (by simp)
  | some item =>
    rw [Option.mapM_some]
    exact ((hread item).map some).congr (by simp) (by simp)

theorem elim (hread : ∀ item, Reads (Fits item) (Trips item) (read item)) (default : β)
    (given : Option α) :
    Reads (∀ item ∈ given, Fits item) (∃ item ∈ given, Trips item)
      (given.elim (.ok default) read) := by
  cases given with
  | none => exact (pure default).congr (by simp) (by simp)
  | some item => exact (hread item).congr (by simp) (by simp)

end Reads

/-! ### The parts of a value -/

namespace Json

/-- Only objects can be asked for their fields. -/
def IsObject : Json → Prop
  | .obj _ => True
  | _ => False

/-- What stands at a field of an object. -/
def part? (value : Json) (name : String) : Option Json :=
  match value with
  | .obj fields => Keyed.get? name.toList fields
  | _ => none

/-- What stands at a field of an object, unless it is empty. -/
def filledPart? (value : Json) (name : String) : Option Json := (value.part? name).filter isFilled

/-- What a value lists. -/
inductive Lists : Json → List Json → Prop where
  | items (items : List Json) : Lists (.arr items) items
  | characters (text : Text) : Lists (.str text) (text.map fun c => .str [c])
  | names (fields : List (Text × Json)) :
    Lists (.obj fields) (fields.map fun entry => .str entry.1)

/-- What a field of an object lists; a missing field lists nothing. -/
def ListsAt (value : Json) (name : String) (listed : List Json) : Prop :=
  match value.part? name with
  | some found => found.Lists listed
  | none => listed = []

@[simp]
theorem part?_ofFields (fields : List (String × Json)) (name : String) :
    (ofFields fields).part? name = fields.lookup name :=
  get?_toList name fields

theorem listsAt_of_part? {value found : Json} {name : String} {listed : List Json}
    (h : value.part? name = some found) (hlists : found.Lists listed) :
    value.ListsAt name listed := by
  rw [ListsAt, h]
  exact hlists

/-! ### The shape of settings -/

/-- The fields of a format have known names. -/
def IsFormat (value : Json) : Prop :=
  ∃ fields, value = .obj fields ∧ ∀ entry ∈ fields, entry.1 ∈ FormatConfig.fieldNames

/-- The options of a prompt are an object that lists them. -/
def IsOptions (value : Json) : Prop := value.IsObject ∧ ∃ listed, value.ListsAt "options" listed

/-- The value is the name of a type of prompts. -/
def IsValueType (value : Json) : Prop :=
  ∃ text, value = .str text ∧ (ValueType.ofName? text).isSome = true

/-- The value has an integer part, or is the numeral of an integer. -/
def IsCounter : Json → Prop
  | .bool _ | .int _ => True
  | .float value => value.truncate?.isSome = true
  | .str text => ∃ number, readInteger text = .ok number
  | .null | .arr _ | .obj _ => False

/-- A prompt as far as it is read before its options. -/
structure IsPromptHead (value : Json) : Prop where
  object : value.IsObject
  name : (value.part? "name").isSome = true
  valueType : ∀ found ∈ value.part? "value_type", found.IsValueType
  dateConfig : ∀ found ∈ value.filledPart? "date_config", found.IsFormat
  timeConfig : ∀ found ∈ value.filledPart? "time_config", found.IsFormat

/-- The shape of a prompt. -/
structure IsPrompt (value : Json) : Prop extends IsPromptHead value where
  options : ∀ found ∈ value.filledPart? "list_config", found.IsOptions

/-- What trips the reading of a prompt. -/
inductive TripsPrompt (value : Json) : Prop where
  | notObject (h : ¬ value.IsObject)
  | options (head : value.IsPromptHead) {found : Json}
      (hfound : value.filledPart? "list_config" = some found) (h : ¬ found.IsObject)

/-- A template as far as it is read before its counter. -/
structure IsTemplateHead (value : Json) : Prop where
  object : value.IsObject
  name : (value.part? "name").isSome = true
  titlePattern : (value.part? "title_pattern").isSome = true

/-- A template as far as it is read before its prompts. -/
structure IsCountingTemplate (value : Json) : Prop extends IsTemplateHead value where
  counter : ∀ found ∈ value.part? "counter_starts_at", found.IsCounter

/-- The shape of a template. -/
structure IsTemplate (value : Json) : Prop extends IsCountingTemplate value where
  prompts : ∃ prompts, value.ListsAt "user_prompts" prompts ∧ ∀ prompt ∈ prompts, prompt.IsPrompt

/-- What trips the reading of a template. -/
inductive TripsTemplate (value : Json) : Prop where
  | notObject (h : ¬ value.IsObject)
  | counter (head : value.IsTemplateHead) {negative : Bool}
      (h : value.part? "counter_starts_at" = some (.float (.infinite negative)))
  | prompt (head : value.IsCountingTemplate) {front back : List Json} {prompt : Json}
      (hlisted : value.ListsAt "user_prompts" (front ++ prompt :: back))
      (hfront : ∀ other ∈ front, other.IsPrompt) (h : prompt.TripsPrompt)

/-- The shape of settings. -/
structure IsSettings (value : Json) : Prop where
  object : value.IsObject
  templates : ∃ templates, value.ListsAt "templates" templates ∧
    ∀ template ∈ templates, template.IsTemplate

/-- What trips the reading of settings: the first template that does not fit. -/
inductive TripsSettings (value : Json) : Prop where
  | template {front back : List Json} {template : Json} (hobject : value.IsObject)
      (hlisted : value.ListsAt "templates" (front ++ template :: back))
      (hfront : ∀ other ∈ front, other.IsTemplate) (h : template.TripsTemplate)

/-! ### Reading the parts -/

variable {value : Json}

theorem field?_obj (fields : List (Text × Json)) (name : String) :
    (obj fields).field? name = .ok ((obj fields).part? name) := rfl

theorem filledField?_obj (fields : List (Text × Json)) (name : String) :
    (obj fields).filledField? name = .ok ((obj fields).filledPart? name) := rfl

theorem exists_fields (h : value.IsObject) : ∃ fields, value = .obj fields := by
  cases value with
  | obj fields => exact ⟨fields, rfl⟩
  | _ => exact h.elim

theorem field?_of_not_isObject (h : ¬ value.IsObject) (name : String) :
    value.field? name = .error .missingPart := by
  cases value with
  | obj fields => exact absurd trivial h
  | _ => rfl

theorem reads_field (fields : List (Text × Json)) (name : String) :
    Reads (((obj fields).part? name).isSome = true) False ((obj fields).field name) := by
  rw [field, field?_obj, ok_bind]
  cases (obj fields).part? name with
  | none => exact .refused rfl (by simp) not_false
  | some found => exact .ok found rfl not_false

theorem reads_elements (value : Json) :
    Reads (∃ listed, value.Lists listed) False value.elements := by
  cases value with
  | arr items => exact .ok _ ⟨_, .items items⟩ not_false
  | str text => exact .ok _ ⟨_, .characters text⟩ not_false
  | obj fields => exact .ok _ ⟨_, .names fields⟩ not_false
  | _ => exact .refused rfl (by rintro ⟨_, ⟨⟩⟩) not_false

theorem elements_eq_ok_iff {listed : List Json} :
    value.elements = .ok listed ↔ value.Lists listed := by
  constructor
  · intro h
    cases value with
    | arr items =>
      obtain rfl := Except.ok.inj h
      exact .items items
    | str text =>
      obtain rfl := Except.ok.inj h
      exact .characters text
    | obj fields =>
      obtain rfl := Except.ok.inj h
      exact .names fields
    | _ => cases h
  · rintro (_ | _ | _) <;> rfl

theorem fieldElements_eq_ok_iff {fields : List (Text × Json)} {name : String}
    {listed : List Json} :
    (obj fields).fieldElements name = .ok listed ↔ (obj fields).ListsAt name listed := by
  rw [fieldElements, field?_obj, ok_bind, ListsAt]
  cases (obj fields).part? name with
  | none => exact ⟨fun h => (Except.ok.inj h).symm, fun h => congrArg Except.ok h.symm⟩
  | some found => exact elements_eq_ok_iff

theorem reads_fieldElements (fields : List (Text × Json)) (name : String) :
    Reads (∃ listed, (obj fields).ListsAt name listed) False
      ((obj fields).fieldElements name) := by
  rw [fieldElements, field?_obj, ok_bind]
  unfold ListsAt
  cases (obj fields).part? name with
  | none => exact .ok _ ⟨_, rfl⟩ not_false
  | some found => exact reads_elements found

/-- The items of a list that a field has are read one by one. -/
theorem reads_listed {α β : Type} {read : Json → Except Failure α} {Fits Trips : Json → Prop}
    (hread : ∀ item, Reads (Fits item) (Trips item) (read item)) (f : List α → β)
    (fields : List (Text × Json)) (name : String) :
    Reads (∃ listed, (obj fields).ListsAt name listed ∧ ∀ item ∈ listed, Fits item)
      (∃ front item back, (obj fields).ListsAt name (front ++ item :: back) ∧
        (∀ other ∈ front, Fits other) ∧ Trips item)
      ((obj fields).fieldElements name >>= fun listed =>
        listed.mapM read >>= fun results => .ok (f results)) := by
  simp only [← fieldElements_eq_ok_iff]
  have hlisted := reads_fieldElements fields name
  cases hfound : (obj fields).fieldElements name with
  | ok listed =>
    rw [ok_bind]
    refine ((Reads.mapM hread listed).bind fun _ _ => .pure _).congr (by simp) ?_
    simp only [Except.ok.injEq, and_false, or_false]
  | error failure =>
    rw [hfound] at hlisted
    cases hlisted with
    | refused hbad hfits _ => exact .refused hbad (by simp) (by simp)
    | tripped _ _ htrips => exact htrips.elim

end Json

theorem FormatConfig.reads_ofJson (half : Half) (value : Json) :
    Reads value.IsFormat False (ofJson half value) := by
  unfold ofJson
  split
  · next fields =>
    split
    · next hnames =>
      refine .ok _ ⟨fields, rfl, fun entry hentry => ?_⟩ not_false
      simpa using List.all_eq_true.1 hnames entry hentry
    · next hnames =>
      refine .refused rfl ?_ not_false
      rintro ⟨_, ⟨⟩, hknown⟩
      refine hnames (List.all_eq_true.2 fun entry hentry => ?_)
      simpa using hknown entry hentry
  · next hobject =>
    refine .refused rfl ?_ not_false
    rintro ⟨fields, rfl, -⟩
    exact hobject fields rfl

theorem ValueType.reads_ofJson (value : Json) : Reads value.IsValueType False (ofJson value) := by
  unfold ofJson
  split
  · next valueType hname =>
    refine .ok _ ?_ not_false
    obtain ⟨text, htext, hname⟩ := Option.bind_eq_some_iff.1 hname
    cases value with
    | str text' =>
      obtain rfl := Option.some.inj htext
      exact ⟨text', rfl, by simp [hname]⟩
    | _ => cases htext
  · next hname =>
    refine .refused rfl ?_ not_false
    rintro ⟨text, rfl, hsome⟩
    rw [show ofName? text = none from hname] at hsome
    cases hsome

theorem reads_optionsOfJson (value : Json) :
    Reads value.IsOptions (¬ value.IsObject) (optionsOfJson value) := by
  rw [optionsOfJson]
  cases value with
  | obj fields =>
    exact ((Json.reads_fieldElements fields "options").bind fun _ _ => .pure _).congr
      (by simp [Json.IsOptions, Json.IsObject]) (by simp [Json.IsObject])
  | _ =>
    rw [Json.fieldElements, Json.field?_of_not_isObject id]
    exact .tripped (by simp [Failure.tripping]) (fun h => h.1) id

/-- How a counter is read. -/
theorem Json.reads_toInteger (value : Json) :
    Reads value.IsCounter (∃ negative, value = .float (.infinite negative)) value.toInteger := by
  cases value with
  | bool flag => exact .ok _ trivial (by simp)
  | int number => exact .ok _ trivial (by simp)
  | float number =>
    cases number with
    | finite negative units => exact .ok _ rfl (by simp)
    | infinite negative =>
      exact .tripped (by simp [Failure.tripping]) Bool.false_ne_true ⟨negative, rfl⟩
    | notANumber => exact .refused rfl Bool.false_ne_true (by simp)
  | str text =>
    rw [toInteger, integerOfText]
    cases hread : readInteger text with
    | ok number => exact .ok number ⟨number, hread⟩ (by simp)
    | error fault =>
      have hfits : ¬ (str text).IsCounter := by
        rintro ⟨number, hnumber⟩
        rw [hread] at hnumber
        cases hnumber
      cases fault <;> exact .refused rfl hfits (by simp)
  | _ => exact .refused rfl id (by simp)

/-! ### Reading prompts, templates and settings -/

theorem Prompt.reads_ofJson (value : Json) :
    Reads value.IsPrompt value.TripsPrompt (ofJson value) := by
  by_cases hobject : value.IsObject
  · obtain ⟨fields, rfl⟩ := Json.exists_fields hobject
    unfold ofJson
    simp only [Json.filledField?_obj, Json.field?_obj, ok_bind]
    refine ((Json.reads_field fields "name").bind fun _ _ =>
      (Reads.elim ValueType.reads_ofJson _ _).bind fun _ _ =>
        (Reads.option_mapM (FormatConfig.reads_ofJson .date) _).bind fun _ _ =>
          (Reads.option_mapM (FormatConfig.reads_ofJson .time) _).bind fun _ _ =>
            (Reads.option_mapM reads_optionsOfJson _).bind fun _ _ => .pure _).congr ?_ ?_
    · constructor
      · rintro ⟨hname, hvalueType, hdate, htime, hoptions, -⟩
        exact ⟨⟨hobject, hname, hvalueType, hdate, htime⟩, hoptions⟩
      · rintro ⟨⟨-, hname, hvalueType, hdate, htime⟩, hoptions⟩
        exact ⟨hname, hvalueType, hdate, htime, hoptions, trivial⟩
    · simp only [and_false, exists_false, false_or, or_false]
      constructor
      · rintro ⟨hname, hvalueType, hdate, htime, found, hfound, htrips⟩
        exact .options ⟨hobject, hname, hvalueType, hdate, htime⟩ hfound htrips
      · rintro (htrips | ⟨⟨-, hname, hvalueType, hdate, htime⟩, hfound, htrips⟩)
        · exact absurd hobject htrips
        · exact ⟨hname, hvalueType, hdate, htime, _, hfound, htrips⟩
  · unfold ofJson
    rw [Json.filledField?, Json.field?_of_not_isObject hobject]
    exact .tripped (by simp [Failure.tripping]) (fun h => hobject h.object) (.notObject hobject)

/-- The identifier of a template is there or its name is. -/
theorem Template.reads_id (fields : List (Text × Json)) (given : Option Json) :
    Reads (given = none → ((Json.obj fields).part? "name").isSome = true) False
      (given.elim ((Json.obj fields).field "name") pure) := by
  cases given with
  | none => exact (Json.reads_field fields "name").congr (by simp) Iff.rfl
  | some found => exact .ok found (by simp) not_false

theorem Template.reads_ofJson (value : Json) :
    Reads value.IsTemplate value.TripsTemplate (ofJson value) := by
  by_cases hobject : value.IsObject
  · obtain ⟨fields, rfl⟩ := Json.exists_fields hobject
    unfold ofJson
    simp only [Json.filledField?_obj, Json.field?_obj, ok_bind]
    refine ((reads_id fields _).bind fun _ _ => (Json.reads_field fields "name").bind fun _ _ =>
      (Json.reads_field fields "title_pattern").bind fun _ _ =>
        (Reads.elim Json.reads_toInteger _ _).bind fun _ _ =>
          Json.reads_listed Prompt.reads_ofJson _ fields "user_prompts").congr ?_ ?_
    · constructor
      · rintro ⟨-, hname, htitle, hcounter, hprompts⟩
        exact ⟨⟨⟨hobject, hname, htitle⟩, hcounter⟩, hprompts⟩
      · rintro ⟨⟨⟨-, hname, htitle⟩, hcounter⟩, hprompts⟩
        exact ⟨fun _ => hname, hname, htitle, hcounter, hprompts⟩
    · simp only [false_or]
      constructor
      · rintro ⟨-, hname, htitle, ⟨_, hfound, negative, rfl⟩ | ⟨hcounter, htrips⟩⟩
        · exact .counter ⟨hobject, hname, htitle⟩ hfound
        · obtain ⟨front, prompt, back, hlisted, hfront, htrips⟩ := htrips
          exact .prompt ⟨⟨hobject, hname, htitle⟩, hcounter⟩ hlisted hfront htrips
      · rintro (htrips | ⟨⟨-, hname, htitle⟩, hfound⟩ |
          ⟨⟨⟨-, hname, htitle⟩, hcounter⟩, hlisted, hfront, htrips⟩)
        · exact absurd hobject htrips
        · exact ⟨fun _ => hname, hname, htitle, .inl ⟨_, hfound, _, rfl⟩⟩
        · exact ⟨fun _ => hname, hname, htitle, .inr ⟨hcounter, _, _, _, hlisted, hfront, htrips⟩⟩
  · unfold ofJson
    rw [Json.filledField?, Json.field?_of_not_isObject hobject]
    exact .tripped (by simp [Failure.tripping]) (fun h => hobject h.object) (.notObject hobject)

theorem Settings.reads_ofJson {value : Json} (hobject : value.IsObject) :
    Reads value.IsSettings value.TripsSettings (ofJson value) := by
  obtain ⟨fields, rfl⟩ := Json.exists_fields hobject
  unfold ofJson
  simp only [Json.filledField?_obj, ok_bind]
  refine (Json.reads_listed Template.reads_ofJson _ fields "templates").congr ?_ ?_
  · exact ⟨fun htemplates => ⟨hobject, htemplates⟩, fun h => h.templates⟩
  · constructor
    · rintro ⟨front, template, back, hlisted, hfront, htrips⟩
      exact .template hobject hlisted hfront htrips
    · rintro ⟨-, hlisted, hfront, htrips⟩
      exact ⟨_, _, _, hlisted, hfront, htrips⟩

end NoteTemplate
