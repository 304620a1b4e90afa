import NoteTemplate.Proofs.Json.Faults
import NoteTemplate.Proofs.Settings.Loading

/-!
# Formats from three places

A format of dates or of times is the explicit one of the settings; where there is none it is the
one that the note app has configured, and else the default.  A configuration of the app that is
no JSON object is passed over with a notice, which can always be shown.  Some configurations are
not passed over: those that cannot be read as text or whose numbers or nesting are too large
stop the command, and an app value that is not a text is taken for a format
(`Action.dateTimeSettings_resolves_iff`).
-/

namespace NoteTemplate

/-! ### The wanted formats -/

/-- The format of a half. -/
def DateTimeSettings.format (formats : DateTimeSettings) : Half → StoredText
  | .date => formats.dateFormat
  | .time => formats.timeFormat

/-- The explicit format of a half. -/
def Settings.format? (settings : Settings) : Half → Option StoredText
  | .date => settings.dateFormat
  | .time => settings.timeFormat

/-- The field for a half in the configuration of the app. -/
def Half.appField : Half → String
  | .date => "dateFormat"
  | .time => "timeFormat"

/-- A format that is a text with a character. -/
def StoredText.IsFormat (stored : StoredText) : Prop := ∃ text, text ≠ [] ∧ stored = .text text

/-- The JSON value in a file. -/
def FileContent.value? (content : FileContent) (maxNesting : Nat) : Option Json :=
  match content.decode with
  | .ok decoded => (Json.read maxNesting (unixLines decoded)).toOption
  | .error _ => none

namespace Session

variable (session : Session) (root : DiskPath)

/-- What stands at the path of the app's configuration. -/
def appNode? : Option DiskNode := session.tree.node? session.here (root.append appConfigParts)

/-- What the app has configured for a half, unless it is empty. -/
def appPart? (half : Half) : Option Json :=
  match session.appNode? root with
  | some (.file content) =>
    (content.value? session.maxNesting).bind fun value => value.filledPart? half.appField
  | _ => none

/-- The format that is wanted for a half: the explicit one, else a text of the app, else the
default. -/
def wantedFormat (given : Option Settings) (half : Half) : StoredText :=
  ((given.bind fun settings => settings.format? half).or
    (((session.appPart? root half).bind Json.asText?).map StoredText.text)).getD
      (DateTimeSettings.default.format half)

/-- The app has something that is not a text, and there is no explicit format. -/
def HasForeignFormat (given : Option Settings) (half : Half) : Prop :=
  (given.bind fun settings => settings.format? half) = none ∧
    ∃ found, session.appPart? root half = some found ∧ found.asText? = none

end Session

/-- Why the configuration of the app stops the command. -/
inductive FileContent.IsUnreadable (content : FileContent) (maxNesting : Nat) : Prop where
  | notUtf8 {fault : Utf8Fault} (h : content.decode = .error fault)
  | tooManyDigits {text : Text} {count : Nat} (htext : content.decode = .ok text)
      (h : Json.read maxNesting (unixLines text) = .error (.tooManyDigits count))
  | nestedTooDeep {text : Text} (htext : content.decode = .ok text)
      (h : Json.read maxNesting (unixLines text) = .error .nestedTooDeep)

/-- A readable configuration is a text, and if it is no JSON, then because of what it says. -/
theorem FileContent.exists_text_of_readable {content : FileContent} {maxNesting : Nat}
    (h : ¬ content.IsUnreadable maxNesting) :
    ∃ text, content.decode = .ok text ∧
      ∀ fault, Json.read maxNesting (unixLines text) = .error fault →
        ∃ reason position, fault = .malformed reason position := by
  cases hdecode : content.decode with
  | error fault => exact absurd (.notUtf8 hdecode) h
  | ok text =>
    refine ⟨text, rfl, fun fault hfault => ?_⟩
    cases fault with
    | malformed reason position => exact ⟨reason, position, rfl⟩
    | tooManyDigits count => exact absurd (.tooManyDigits hdecode hfault) h
    | nestedTooDeep => exact absurd (.nestedTooDeep hdecode hfault) h

/-- The configuration of the app stops the command: it cannot be read, or its path is too long to
be looked for. -/
def Session.HasUnreadableApp (session : Session) (root : DiskPath) : Prop :=
  session.tree.IsTooLong session.here (root.append appConfigParts) ∨
    ∃ content, session.appNode? root = some (.file content) ∧
      content.IsUnreadable session.maxNesting

/-! ### Resolving -/

namespace Action

variable {root path : DiskPath} {before : Session} {content : FileContent}

/-- The notice about a configuration that is passed over can be shown. -/
theorem exists_gives_ignoring [Styling] {reason : Text} (h : reason.IsWords)
    (path : DiskPath) (before : Session) :
    ∃ after, (notice (styled "dim" ("Ignoring unreadable ".toList ++ Styling.escape path.text
      ++ ": ".toList ++ Styling.escape reason))).Gives before ⟨⟩ after ∧
        before.SameDisk after := by
  have hfront : Text.IsWords "Ignoring unreadable ".toList := by decide
  have hbehind : Text.IsWords (": ".toList ++ Styling.escape reason) := by
    rw [Styling.escape_of_isWords h]
    exact .append (by decide) h
  have hshown : Styling.refusal? (styled "dim" ("Ignoring unreadable ".toList
      ++ Styling.escape path.text ++ (": ".toList ++ Styling.escape reason))) = none :=
    Styling.refusal?_styled path.text (by decide) hfront hbehind
  rw [← List.append_assoc] at hshown
  exact ⟨_, gives_notice_iff.2 ⟨hshown, rfl⟩, ⟨rfl, rfl⟩⟩

end Action

/-- The formats in the value of a configuration, if there is one. -/
def AppFormats.found (value : Option Json) : AppFormats :=
  ⟨(value.bind fun value => value.filledPart? "dateFormat").map .ofJson,
    (value.bind fun value => value.filledPart? "timeFormat").map .ofJson⟩

namespace Action

variable [Styling]

/-- What is passed over leaves no formats. -/
theorem gives_appFormats_of_ignored {text : Text} {cause : Failure} {before : Session}
    (hread : readJson before.maxNesting text >>= AppFormats.ofJson = .error cause)
    (hcause : cause = .missingPart ∨ ∃ shown fault, cause = .malformedJson shown fault)
    (hwords : Text.IsWords cause.message) (path : DiskPath) :
    ∃ after, (appFormats path text).Gives before .none after ∧ before.SameDisk after := by
  obtain ⟨after, hnotice, hsame⟩ := exists_gives_ignoring hwords path before
  refine ⟨after, gives_bind_iff.2 ⟨_, _, gives_get _, ?_⟩, hsame⟩
  rw [hread]
  rcases hcause with rfl | ⟨shown, fault, rfl⟩ <;>
    exact gives_bind_iff.2 ⟨_, _, hnotice, gives_pure_iff.2 ⟨rfl, rfl⟩⟩

/-- A configuration gives the formats of its JSON value, and none if it has no such value. -/
theorem gives_appFormats {text : Text} {before : Session}
    (hread : ∀ fault, Json.read before.maxNesting text = .error fault →
      ∃ reason position, fault = .malformed reason position) (path : DiskPath) :
    ∃ after, (appFormats path text).Gives before
        (.found (Json.read before.maxNesting text).toOption) after ∧ before.SameDisk after := by
  cases hresult : Json.read before.maxNesting text with
  | error fault =>
    obtain ⟨reason, position, rfl⟩ := hread fault hresult
    have hwords : Text.IsWords (Failure.malformedJson text (.malformed reason position)).message :=
      JsonFault.isWords_message
        (Json.onlyFails_read before.maxNesting text _ hresult reason position rfl) position text
    have hcause : readJson before.maxNesting text >>= AppFormats.ofJson =
        .error (.malformedJson text (.malformed reason position)) := by
      rw [readJson, hresult]
      rfl
    exact gives_appFormats_of_ignored hcause (.inr ⟨_, _, rfl⟩) hwords path
  | ok value =>
    by_cases hobject : value.IsObject
    · obtain ⟨fields, rfl⟩ := Json.exists_fields hobject
      refine ⟨before, gives_bind_iff.2 ⟨_, _, gives_get _, ?_⟩, .refl _⟩
      rw [readJson, hresult]
      exact gives_pure_iff.2 ⟨rfl, rfl⟩
    · have hfound : AppFormats.found (some value) = .none := by
        cases value with
        | obj fields => exact absurd trivial hobject
        | _ => rfl
      have hcause : readJson before.maxNesting text >>= AppFormats.ofJson =
          .error .missingPart := by
        rw [readJson, hresult, Except.mapError, ok_bind, AppFormats.ofJson, Json.filledField?,
          Json.field?_of_not_isObject hobject]
        rfl
      rw [Except.toOption, hfound]
      exact gives_appFormats_of_ignored hcause (.inl rfl) (by decide) path

/-- What the app has configured is resolved together with the settings, unless it stops the
command. -/
theorem gives_dateTimeSettings (given : Option Settings)
    (hreadable : ¬ before.HasUnreadableApp root) :
    ∃ after, (dateTimeSettings root given).Gives before
        (.choose given ⟨(before.appPart? root .date).map .ofJson,
          (before.appPart? root .time).map .ofJson⟩) after ∧ before.SameDisk after := by
  have hnode : (node? (root.append appConfigParts)).Gives before (before.appNode? root) before :=
    gives_node?_iff.2 ⟨fun htooLong => hreadable (.inl htooLong), rfl, rfl⟩
  cases hstands : before.appNode? root with
  | none =>
    rw [hstands] at hnode
    refine ⟨before, gives_bind_iff.2 ⟨_, _, hnode, ?_⟩, .refl _⟩
    rw [Session.appPart?, Session.appPart?, hstands]
    exact gives_pure_iff.2 ⟨rfl, rfl⟩
  | some node =>
    rw [hstands] at hnode
    cases node with
    | folder =>
      refine ⟨before, gives_bind_iff.2 ⟨_, _, hnode, ?_⟩, .refl _⟩
      rw [Session.appPart?, Session.appPart?, hstands]
      exact gives_pure_iff.2 ⟨rfl, rfl⟩
    | file content =>
      obtain ⟨text, htext, hread⟩ := FileContent.exists_text_of_readable
        fun hunreadable => hreadable (.inr ⟨content, hstands, hunreadable⟩)
      obtain ⟨after, happ, hsame⟩ := gives_appFormats hread (root.append appConfigParts)
      refine ⟨after, gives_bind_iff.2 ⟨_, _, hnode, ?_⟩, hsame⟩
      have hvalue : content.value? before.maxNesting =
          (Json.read before.maxNesting (unixLines text)).toOption := by
        rw [FileContent.value?, htext]
      rw [Session.appPart?, Session.appPart?, hstands]
      dsimp only
      rw [hvalue]
      refine gives_bind_iff.2 ⟨_, _, gives_readText hstands htext, ?_⟩
      exact gives_bind_iff.2 ⟨_, _, happ, gives_pure_iff.2 ⟨rfl, rfl⟩⟩

/-- What stops the command. -/
theorem fails_dateTimeSettings (given : Option Settings) (h : before.HasUnreadableApp root) :
    ∃ failure, (dateTimeSettings root given).Fails before failure before := by
  rcases h with htooLong | ⟨content, hstands, hunreadable⟩
  · exact ⟨_, (fails_node? htooLong).bind _⟩
  have hnode : (node? (root.append appConfigParts)).Gives before (some (.file content)) before :=
    gives_node?_of_some hstands
  have happ {text : Text} {cause : Failure} (htext : content.decode = .ok text)
      (hcause : (appFormats (root.append appConfigParts) (unixLines text)).Fails before cause
        before) :
      (dateTimeSettings root given).Fails before cause before :=
    hnode.bind_fails ((gives_readText hstands htext).bind_fails (hcause.bind _))
  cases hunreadable with
  | @notUtf8 fault hdecode =>
    refine ⟨.notUtf8 fault, hnode.bind_fails ?_⟩
    have hfails : (readText (root.append appConfigParts)).Fails before (.notUtf8 fault) before := by
      rw [Fails, outcome_readText hstands, hdecode]
      rfl
    exact hfails.bind _
  | @tooManyDigits text count htext hread =>
    refine ⟨.tooManyDigits (some count), happ htext ?_⟩
    refine (gives_get before).bind_fails ?_
    rw [readJson, hread]
    exact fails_throw _ _
  | @nestedTooDeep text htext hread =>
    refine ⟨.nestedTooDeep, happ htext ?_⟩
    refine (gives_get before).bind_fails ?_
    rw [readJson, hread]
    exact fails_throw _ _

end Action

/-! ### The formats that are found -/

theorem StoredText.ofJson_of_asText? {value : Json} {text : Text} (h : value.asText? = some text) :
    ofJson value = .text text := by
  cases value with
  | str found =>
    obtain rfl := Option.some.inj h
    rfl
  | _ => cases h

theorem StoredText.asText?_ofJson {value : Json} (h : value.asText? = none) :
    (ofJson value).asText? = none := by
  cases value with
  | str found => cases h
  | _ => rfl

theorem Json.text_ne_nil_of_filledPart? {value found : Json} {name : String} {text : Text}
    (h : value.filledPart? name = some found) (htext : found.asText? = some text) : text ≠ [] := by
  have hfilled : found.isFilled = true := (Option.filter_eq_some_iff.1 h).2
  cases found with
  | str stored =>
    obtain rfl := Option.some.inj htext
    simpa [isFilled] using hfilled
  | _ => cases htext

namespace Session

variable {session : Session} {root : DiskPath} {given : Option Settings} {half : Half}

/-- The default is a text with a character, and so is a text of the app. -/
theorem isFormat_wantedFormat
    (hgiven : ∀ stored ∈ given.bind fun settings => settings.format? half, stored.IsFormat) :
    (session.wantedFormat root given half).IsFormat := by
  rw [wantedFormat]
  cases hexplicit : given.bind fun settings => settings.format? half with
  | some stored => exact hgiven stored hexplicit
  | none =>
    cases happ : (session.appPart? root half).bind Json.asText? with
    | none =>
      cases half with
      | date => exact ⟨_, by decide, rfl⟩
      | time => exact ⟨_, by decide, rfl⟩
    | some text =>
      obtain ⟨found, hfound, htext⟩ := Option.bind_eq_some_iff.1 happ
      refine ⟨text, ?_, rfl⟩
      rw [appPart?] at hfound
      split at hfound
      · obtain ⟨value, -, hpart⟩ := Option.bind_eq_some_iff.1 hfound
        exact Json.text_ne_nil_of_filledPart? hpart htext
      · cases hfound

/-- The explicit format, the app's value of any kind and the default, in this order. -/
def foundFormat (session : Session) (root : DiskPath) (given : Option Settings) (half : Half) :
    StoredText :=
  ((given.bind fun settings => settings.format? half).or
    ((session.appPart? root half).map .ofJson)).getD (DateTimeSettings.default.format half)

theorem foundFormat_eq_wantedFormat (h : ¬ session.HasForeignFormat root given half) :
    session.foundFormat root given half = session.wantedFormat root given half := by
  rw [foundFormat, wantedFormat]
  cases hexplicit : given.bind fun settings => settings.format? half with
  | some stored => rfl
  | none =>
    cases happ : session.appPart? root half with
    | none => rfl
    | some found =>
      cases htext : found.asText? with
      | none => exact absurd ⟨hexplicit, found, happ, htext⟩ h
      | some text =>
        rw [Option.map_some, StoredText.ofJson_of_asText? htext, Option.bind_some, htext]
        rfl

theorem asText?_foundFormat (h : session.HasForeignFormat root given half) :
    (session.foundFormat root given half).asText? = none := by
  obtain ⟨hexplicit, found, happ, htext⟩ := h
  rw [foundFormat, hexplicit, happ]
  exact StoredText.asText?_ofJson htext

end Session

namespace Action

/-- Whatever the configuration of the app is, the formats are the wanted ones, which are texts
with a character.  There are two exceptions: an unreadable configuration stops the command, and
a value of the app that is no text is taken where a format is not explicit. -/
theorem dateTimeSettings_resolves_iff [Styling] (root : DiskPath) (before : Session)
    {given : Option Settings}
    (hgiven : ∀ settings ∈ given, ∀ half, ∀ stored ∈ settings.format? half, stored.IsFormat) :
    (∀ half, (before.wantedFormat root given half).IsFormat) ∧
      (before.HasUnreadableApp root →
        ∃ failure, (dateTimeSettings root given).Fails before failure before) ∧
      (¬ before.HasUnreadableApp root →
        ∃ formats after, (dateTimeSettings root given).Gives before formats after ∧
          before.SameDisk after ∧ ∀ half,
            (¬ before.HasForeignFormat root given half →
              formats.format half = before.wantedFormat root given half) ∧
            (before.HasForeignFormat root given half → (formats.format half).asText? = none)) := by
  refine ⟨fun half => ?_, fails_dateTimeSettings given, fun hreadable => ?_⟩
  · apply Session.isFormat_wantedFormat
    intro stored hstored
    obtain ⟨settings, hsettings, hformat⟩ := Option.bind_eq_some_iff.1 hstored
    exact hgiven settings hsettings half stored hformat
  · obtain ⟨after, hgives, hsame⟩ := gives_dateTimeSettings given hreadable
    refine ⟨_, after, hgives, hsame, fun half => ?_⟩
    have hfound : (DateTimeSettings.choose given
        ⟨(before.appPart? root .date).map .ofJson, (before.appPart? root .time).map .ofJson⟩).format
          half = before.foundFormat root given half := by
      cases half <;> rfl
    rw [hfound]
    exact ⟨Session.foundFormat_eq_wantedFormat, Session.asText?_foundFormat⟩

/-! ### Three configurations of the app -/

/-- A session whose working folder has this configuration of the app. -/
def appSession (content : FileContent) : Session where
  tree := ⟨[([".obsidian".toList], .folder), (appConfigParts, .file content)], .usual⟩
  here := []
  notices := []
  nextPrompt := 1
  maxNesting := 900

/-- The path of the working folder. -/
def hereRoot : DiskPath := ⟨[], []⟩

theorem appNode?_appSession (content : FileContent) :
    (appSession content).appNode? hereRoot = some (.file content) := by
  rfl

theorem not_hasUnreadableApp_appSession {text : Text} {value : Json}
    (h : (Json.read 900 (unixLines text)).toOption = some value) :
    ¬ (appSession (.text text)).HasUnreadableApp hereRoot := by
  rintro (⟨-, htooLong⟩ | ⟨content, hcontent, hunreadable⟩)
  · cases htooLong
  rw [appNode?_appSession] at hcontent
  obtain rfl := DiskNode.file.inj (Option.some.inj hcontent)
  cases hunreadable with
  | notUtf8 hdecode => cases hdecode
  | tooManyDigits hdecode hread | nestedTooDeep hdecode hread =>
    obtain rfl := Except.ok.inj hdecode
    have hnone : (Json.read 900 (unixLines text)).toOption = none := congrArg Except.toOption hread
    rw [hnone] at h
    cases h

/-- A configuration with a format of dates. -/
def slashedText : Text := "\x7b\"dateFormat\": \"YYYY/MM/DD\"\x7d".toList

/-- Settings with a format of times. -/
def timedSettings : Settings :=
  { Settings.default with timeFormat := some (.text "h:mm".toList) }

section

attribute [local instance] Markup.styling

theorem dateTimeSettings_resolves_slashed :
    (∀ settings ∈ some timedSettings, ∀ half, ∀ stored ∈ settings.format? half,
        stored.IsFormat) ∧
      ∃ formats after, (dateTimeSettings hereRoot (some timedSettings)).Gives
        (appSession (.text slashedText)) formats after ∧
          formats.dateFormat = .text "YYYY/MM/DD".toList ∧
          formats.timeFormat = .text "h:mm".toList := by
  have hgiven : ∀ settings ∈ some timedSettings, ∀ half, ∀ stored ∈ settings.format? half,
      stored.IsFormat := by
    rintro _ ⟨⟩ half stored hstored
    cases half with
    | date => cases hstored
    | time =>
      obtain rfl := Option.some.inj hstored
      exact ⟨_, by decide, rfl⟩
  have hreadable : ¬ (appSession (.text slashedText)).HasUnreadableApp hereRoot :=
    not_hasUnreadableApp_appSession
      (by decide +kernel : _ = some (Json.ofFields [("dateFormat", .str "YYYY/MM/DD".toList)]))
  obtain ⟨formats, after, hgives, -, hformats⟩ :=
    (dateTimeSettings_resolves_iff hereRoot (appSession (.text slashedText)) hgiven).2.2 hreadable
  have hdate : ¬ (appSession (.text slashedText)).HasForeignFormat hereRoot (some timedSettings)
      .date := by
    have happ : (appSession (.text slashedText)).appPart? hereRoot .date =
        some (.str "YYYY/MM/DD".toList) := by
      decide +kernel
    rintro ⟨-, found, hfound, hnone⟩
    obtain rfl := Option.some.inj (happ.symm.trans hfound)
    cases hnone
  have htime : ¬ (appSession (.text slashedText)).HasForeignFormat hereRoot (some timedSettings)
      .time := by
    rintro ⟨hnone, -⟩
    cases hnone
  refine ⟨hgiven, formats, after, hgives, ?_, ?_⟩
  · exact ((hformats .date).1 hdate).trans (by decide +kernel)
  · exact ((hformats .time).1 htime).trans (by decide +kernel)

/-- A configuration with a number as the format of dates. -/
def numberedText : Text := "\x7b\"dateFormat\": 5\x7d".toList

/-- A byte that is no text gives no formats at all, and a number is taken for a format. -/
theorem dateTimeSettings_breaks :
    (¬ ∃ formats after,
      (dateTimeSettings hereRoot none).Gives (appSession (.ofBytes [0xff])) formats after) ∧
      ∃ formats after,
        (dateTimeSettings hereRoot none).Gives (appSession (.text numberedText)) formats after ∧
          formats.dateFormat.asText? = none := by
  constructor
  · rintro ⟨formats, after, hgives⟩
    have hdecode : (FileContent.ofBytes [0xff]).decode = .error ⟨.invalidStart, 0xff, 0, 1⟩ := by
      rfl
    obtain ⟨failure, hfails⟩ := fails_dateTimeSettings none
      (.inr ⟨_, appNode?_appSession (.ofBytes [0xff]), .notUtf8 hdecode⟩)
    exact hfails.not_gives hgives
  · have hreadable : ¬ (appSession (.text numberedText)).HasUnreadableApp hereRoot :=
      not_hasUnreadableApp_appSession
        (by decide +kernel : _ = some (Json.ofFields [("dateFormat", .int 5)]))
    obtain ⟨after, hgives, -⟩ := gives_dateTimeSettings none hreadable
    refine ⟨_, after, hgives, ?_⟩
    decide +kernel

end

end Action

end NoteTemplate
