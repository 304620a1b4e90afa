import NoteTemplate.Proofs.Disk.Refusing
import NoteTemplate.Proofs.Settings.Shape
import NoteTemplate.Proofs.Terminal.Escaped

/-!
# Loading a settings file

A settings file that exists is loaded, or it is reported with its path, or its reading trips
and the failure goes out as it is.  Which of the three happens is decided by the content of the
file alone (`Action.loadSettings_reports_iff`), and nothing is changed by it.
-/

namespace NoteTemplate

/-! ### What a file holds -/

namespace FileContent

variable {content : FileContent} {maxNesting : Nat}

/-- The text in the file is this JSON value. -/
def Holds (content : FileContent) (maxNesting : Nat) (value : Json) : Prop :=
  ∃ text, content.decode = .ok text ∧ Json.read maxNesting (unixLines text) = .ok value

/-- The text in the file opens more lists and objects than are read. -/
def IsTooDeep (content : FileContent) (maxNesting : Nat) : Prop :=
  ∃ text, content.decode = .ok text ∧
    Json.read maxNesting (unixLines text) = .error .nestedTooDeep

/-- The file holds settings. -/
def HoldsSettings (content : FileContent) (maxNesting : Nat) : Prop :=
  ∃ value, content.Holds maxNesting value ∧ value.IsSettings

/-- The file trips the reading of settings. -/
def TripsSettings (content : FileContent) (maxNesting : Nat) : Prop :=
  content.IsTooDeep maxNesting ∨ ∃ value, content.Holds maxNesting value ∧ value.TripsSettings

/-- The settings in the file. -/
def readSettings (content : FileContent) (maxNesting : Nat) : Except Failure Settings :=
  content.decode.mapError Failure.notUtf8 >>= fun text =>
    Settings.read maxNesting (unixLines text)

theorem holds_text {text : Text} {value : Json}
    (h : (Json.read maxNesting (unixLines text)).toOption = some value) :
    (FileContent.text text).Holds maxNesting value := by
  refine ⟨text, rfl, ?_⟩
  cases hread : Json.read maxNesting (unixLines text) with
  | error fault =>
    rw [hread] at h
    cases h
  | ok found =>
    rw [hread] at h
    exact congrArg Except.ok (Option.some.inj h)

end FileContent

/-- The faults of a text that is no JSON are bad content, except for its nesting. -/
theorem JsonFault.isBadContent_failure {fault : JsonFault} (text : Text)
    (h : fault ≠ .nestedTooDeep) : (fault.failure text).isBadContent = true := by
  cases fault with
  | malformed reason position => rfl
  | tooManyDigits count => rfl
  | nestedTooDeep => exact absurd rfl h

theorem Settings.read_eq {maxNesting : Nat} {text : Text} {value : Json}
    (hread : Json.read maxNesting text = .ok value) (hobject : value.IsObject) :
    Settings.read maxNesting text = Settings.ofJson value := by
  obtain ⟨fields, rfl⟩ := Json.exists_fields hobject
  rw [Settings.read, readJson, hread]
  rfl

theorem FileContent.readSettings_of_holds {content : FileContent} {maxNesting : Nat} {value : Json}
    (h : content.Holds maxNesting value) (hobject : value.IsObject) :
    content.readSettings maxNesting = Settings.ofJson value := by
  obtain ⟨text, htext, hread⟩ := h
  rw [readSettings, htext]
  exact Settings.read_eq hread hobject

theorem Settings.reads_read (maxNesting : Nat) (text : Text) :
    Reads (∃ value, Json.read maxNesting text = .ok value ∧ value.IsSettings)
      (Json.read maxNesting text = .error .nestedTooDeep ∨
        ∃ value, Json.read maxNesting text = .ok value ∧ value.TripsSettings)
      (Settings.read maxNesting text) := by
  cases hread : Json.read maxNesting text with
  | error fault =>
    rw [Settings.read, readJson, hread]
    by_cases hdeep : fault = .nestedTooDeep
    · subst hdeep
      have htripping : Failure.nestedTooDeep ∈ Failure.tripping := by simp [Failure.tripping]
      exact .tripped htripping (by simp) (.inl rfl)
    · refine .refused (JsonFault.isBadContent_failure text hdeep) (by simp) ?_
      simpa using hdeep
  | ok value =>
    by_cases hobject : value.IsObject
    · rw [Settings.read_eq hread hobject]
      exact (Settings.reads_ofJson hobject).congr (by simp) (by simp)
    · rw [Settings.read, readJson, hread]
      have hfits : ¬ ∃ found, (.ok value : Except JsonFault Json) = .ok found ∧
          found.IsSettings := by
        rintro ⟨_, ⟨⟩, hsettings⟩
        exact hobject hsettings.object
      have htrips : ¬ ∃ found, (.ok value : Except JsonFault Json) = .ok found ∧
          found.TripsSettings := by
        rintro ⟨_, ⟨⟩, ⟨htop, _, _, _⟩⟩
        exact hobject htop
      have hbad : Failure.notObject.isBadContent = true := rfl
      cases value with
      | obj fields => exact absurd trivial hobject
      | _ => exact .refused hbad hfits (by simpa using htrips)

theorem FileContent.reads_readSettings (content : FileContent) (maxNesting : Nat) :
    Reads (content.HoldsSettings maxNesting) (content.TripsSettings maxNesting)
      (content.readSettings maxNesting) := by
  rw [readSettings]
  cases hdecode : content.decode with
  | error fault =>
    refine .refused rfl ?_ ?_
    · rintro ⟨_, ⟨text, htext, -⟩, -⟩
      rw [hdecode] at htext
      cases htext
    · rintro (⟨text, htext, -⟩ | ⟨_, ⟨text, htext, -⟩, -⟩) <;>
      · rw [hdecode] at htext
        cases htext
  | ok text =>
    refine (Settings.reads_read maxNesting (unixLines text)).congr ?_ ?_
    · simp [HoldsSettings, Holds, hdecode]
    · simp [TripsSettings, IsTooDeep, Holds, hdecode]

/-! ### Loading -/

namespace Action

variable {path : DiskPath} {before : Session} {content : FileContent}

/-- The text of a file that is there. -/
theorem outcome_readText (hfile : before.tree.node? before.here path = some (.file content)) :
    (readText path).outcome before =
      ((content.decode.mapError Failure.notUtf8).map unixLines, before) := by
  obtain ⟨hnull, place, hplace⟩ := DiskTree.exists_locate_of_node? hfile
  have hlocate : (locate path).Gives before (.ok (.found place (.file content))) before :=
    gives_locate_iff.2 ⟨hnull, hplace.symm, rfl⟩
  rw [readText, outcome_bind, hlocate]
  dsimp only
  cases content.decode <;> rfl

theorem gives_readText {text : Text}
    (hfile : before.tree.node? before.here path = some (.file content))
    (htext : content.decode = .ok text) : (readText path).Gives before (unixLines text) before := by
  rw [Gives, outcome_readText hfile, htext]
  rfl

section

variable [Styling]

/-- Bad content is reported with the path of the file; every other failure stays as it is. -/
theorem outcome_loadSettings
    (hfile : before.tree.node? before.here path = some (.file content)) :
    (loadSettings path).outcome before =
      ((content.readSettings before.maxNesting).mapError fun failure =>
        if failure.isBadContent then .badSettings path.text failure else failure, before) := by
  have hnode : (node? path).outcome before = (.ok (some (.file content)), before) :=
    gives_node?_of_some hfile
  have hread : (readText path >>= fun text =>
      ofExcept (Settings.read before.maxNesting text)).outcome before =
        (content.readSettings before.maxNesting, before) := by
    rw [outcome_bind, outcome_readText hfile, FileContent.readSettings]
    cases content.decode with
    | error fault => rfl
    | ok text => exact outcome_ofExcept _ before
  rw [loadSettings, outcome_bind, hnode]
  dsimp only
  have hget := gives_get before
  rw [outcome_bind, hget]
  dsimp only
  rw [outcome_tryCatch, hread]
  cases content.readSettings before.maxNesting with
  | ok settings => rfl
  | error failure =>
    rw [Except.mapError]
    dsimp only
    split <;> rfl

/-- A settings file is loaded if it holds settings; it is reported with its path if it does
not; but when its reading trips, the failure goes out without the path. -/
theorem loadSettings_reports_iff
    (hfile : before.tree.node? before.here path = some (.file content)) :
    ((∃ settings, (loadSettings path).Gives before settings before) ↔
        content.HoldsSettings before.maxNesting) ∧
      ((∃ cause, (loadSettings path).Fails before (.badSettings path.text cause) before ∧
          path.text <:+: (Failure.badSettings path.text cause).message) ↔
        ¬ content.HoldsSettings before.maxNesting ∧
          ¬ content.TripsSettings before.maxNesting) ∧
      ((∃ failure ∈ Failure.tripping, (loadSettings path).Fails before failure before) ↔
        content.TripsSettings before.maxNesting) := by
  have hshown (cause : Failure) : path.text <:+: (Failure.badSettings path.text cause).message :=
    ⟨_, _, (List.append_assoc _ _ _).symm⟩
  have hreport (cause : Failure) : Failure.badSettings path.text cause ∉ Failure.tripping := by
    simp [Failure.tripping]
  have hreads := content.reads_readSettings before.maxNesting
  unfold Gives Fails
  rw [outcome_loadSettings hfile]
  generalize content.readSettings before.maxNesting = result at hreads
  cases hreads with
  | ok settings hfits htrips => simp [Except.mapError, hfits, htrips]
  | refused hbad hfits htrips => simp [Except.mapError, hbad, hfits, htrips, hshown, hreport]
  | @tripped failure hfailure hfits htrips =>
    have hbad := Failure.isBadContent_of_mem_tripping hfailure
    have hcause (cause : Failure) : failure ≠ .badSettings path.text cause := by
      rintro rfl
      exact hreport cause hfailure
    simp [Except.mapError, hbad, hfits, htrips, hcause, hfailure]

end

/-! ### A template and a number in its place -/

/-- A session with a settings file of this text. -/
def settingsSession (text : Text) : Session where
  tree := ⟨[(["s.json".toList], .file (.text text))], .usual⟩
  here := []
  notices := []
  nextPrompt := 1
  maxNesting := 900

/-- The path of the settings file. -/
def settingsPath : DiskPath := ⟨[], ["s.json".toList]⟩

theorem node?_settingsSession (text : Text) :
    (settingsSession text).tree.node? (settingsSession text).here settingsPath =
      some (.file (.text text)) := by
  rfl

/-- Settings with a template that has a name and a pattern for titles. -/
def dayText : Text :=
  "\x7b\"templates\": [\x7b\"name\": \"Day\", \"title_pattern\": \"D\"\x7d]\x7d".toList

theorem holdsSettings_dayText : (FileContent.text dayText).HoldsSettings 900 := by
  let template : Json :=
    .ofFields [("name", .str "Day".toList), ("title_pattern", .str "D".toList)]
  have hholds : (FileContent.text dayText).Holds 900 (.ofFields [("templates", .arr [template])]) :=
    FileContent.holds_text (by decide +kernel)
  have htemplate : template.IsTemplate :=
    { object := trivial
      name := by simp [template]
      titlePattern := by simp [template]
      counter := by simp [template, List.lookup_cons]
      prompts := ⟨[], rfl, by simp⟩ }
  have hlisted : (Json.ofFields [("templates", .arr [template])]).ListsAt "templates" [template] :=
    Json.listsAt_of_part? (Json.part?_ofFields _ _) (.items [template])
  exact ⟨_, hholds, ⟨trivial, [template], hlisted, by simpa using htemplate⟩⟩

section

attribute [local instance] Markup.styling

theorem loadSettings_gives_dayText :
    (settingsSession dayText).tree.node? (settingsSession dayText).here settingsPath =
        some (.file (.text dayText)) ∧
      ∃ settings, (loadSettings settingsPath).Gives (settingsSession dayText) settings
        (settingsSession dayText) :=
  ⟨node?_settingsSession dayText,
    (loadSettings_reports_iff (node?_settingsSession dayText)).1.2 holdsSettings_dayText⟩

/-- Settings with a number in place of a template. -/
def numberText : Text := "\x7b\"templates\": [1]\x7d".toList

/-- The number stops the loading, which gives no settings and no report of the file. -/
theorem loadSettings_stops_at_number :
    ¬ ((∃ settings after,
          (loadSettings settingsPath).Gives (settingsSession numberText) settings after) ∨
        ∃ cause after, (loadSettings settingsPath).Fails (settingsSession numberText)
          (.badSettings settingsPath.text cause) after) := by
  have hholds : (FileContent.text numberText).Holds 900
      (.ofFields [("templates", .arr [.int 1])]) :=
    FileContent.holds_text (by decide +kernel)
  have hread : (FileContent.text numberText).readSettings (settingsSession numberText).maxNesting =
      .error .missingPart :=
    (FileContent.readSettings_of_holds hholds trivial).trans rfl
  have hfails : (loadSettings settingsPath).Fails (settingsSession numberText) .missingPart
      (settingsSession numberText) := by
    rw [Fails, outcome_loadSettings (node?_settingsSession numberText), hread]
    rfl
  rintro (⟨settings, after, hgives⟩ | ⟨cause, after, hreport⟩)
  · exact hfails.not_gives hgives
  · exact absurd (hfails.unique hreport).1 (by simp)

end

end Action

end NoteTemplate
