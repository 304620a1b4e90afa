import NoteTemplate.Creation.Note
import NoteTemplate.Proofs.Counter.ReadBack
import NoteTemplate.Proofs.Creation.NextNumber
import NoteTemplate.Proofs.Terminal.Escaped
import NoteTemplate.Title.Checking

/-!
# Behind a new note

The number of a note is given out again unless the name that the note got is read back with
it.  It is read back when one side of the counter has no tags and tidying the title changed
no more than its characters; a dot at the end of a title is already too much.
-/

namespace NoteTemplate

open NoteTemplate.Action

variable {vault : Vault} {settings : DateTimeSettings} {template : Template} {given : Option Text}
  {current folder content : Text} {before after planned created : Session} {plan : CreationPlan}
  {number : Int} {found : CounterPattern} {moment : Moment} {titleValues noteValues : PromptValues}
  {note : CreatedNote} {place : List Text}

/-- A file name is read back with this number or a greater one. -/
def CounterPattern.KeepsUp (found : CounterPattern) (filename : Text) (number : Int) : Prop :=
  ∃ value, found.pattern.counterIn? filename = some value ∧ number ≤ (value : Int)

theorem CounterPattern.ReadsBack.keepsUp {name : Text} {number : Nat}
    (h : found.ReadsBack name number) (hstatic : found.strategy ≠ .everyPart)
    (hdigits : ∀ digits, found.pattern.match? name = some (some digits) →
      digits.length ≤ maxNumeralDigits) : found.KeepsUp name number := by
  rw [ReadsBack] at h
  cases hstrategy : found.strategy with
  | bothSides =>
    rw [hstrategy] at h
    exact ⟨number, h, Int.le_refl _⟩
  | before =>
    rw [hstrategy] at h
    obtain ⟨more, -, hmatch, hvalue⟩ := h
    obtain ⟨value, hread, hle⟩ := hvalue (hdigits _ hmatch)
    exact ⟨value, hread, Int.ofNat_le.2 hle⟩
  | after =>
    rw [hstrategy] at h
    obtain ⟨more, -, hmatch, hvalue⟩ := h
    obtain ⟨value, hread, hle⟩ := hvalue (hdigits _ hmatch)
    exact ⟨value, hread, Int.ofNat_le.2 hle⟩
  | everyPart => exact absurd hstrategy hstatic

theorem exists_cut_of_static {pattern : Text}
    (hfound : counterPattern? settings pattern = .ok (some found))
    (hstatic : found.strategy ≠ .everyPart) :
    ∃ front behind, cutAtCounter? pattern = some (front, behind) ∧
      (hasTags front = false ∨ hasTags behind = false) := by
  cases hcut : cutAtCounter? pattern with
  | none => simp [counterPattern?, hcut] at hfound
  | some cut =>
    obtain ⟨front, behind⟩ := cut
    refine ⟨front, behind, rfl, ?_⟩
    by_contra hboth
    rw [not_or, Bool.not_eq_false, Bool.not_eq_false] at hboth
    exact hstatic (strategy_everyPart settings hcut hboth.1 hboth.2 hfound)

theorem CreationPlan.exists_render_of_title [LocalZone] {mode : FillMode} {title : Text}
    (h : plan.title mode settings moment titleValues = .ok title) :
    ∃ shown, shownValues moment titleValues plan.titlePrompts = .ok shown ∧
      renderTitle mode ⟨settings, moment.now, plan.counter, .filename⟩ plan.titlePrompts shown
        plan.template.titlePattern = .ok title := by
  cases hshown : shownValues moment titleValues plan.titlePrompts with
  | error failure => simp [CreationPlan.title, hshown, bind, Except.bind] at h
  | ok shown =>
    simp only [CreationPlan.title, hshown, bind, Except.bind] at h
    exact ⟨shown, rfl, h⟩

/-- The name is a tidy title: tidying has changed no more than its characters.  One side of the
counter has no tags, and what is read as the number is not too long. -/
structure CreationPlan.NamesTidily [LocalZone] (plan : CreationPlan) (settings : DateTimeSettings)
    (moment : Moment) (titleValues : PromptValues) (found : CounterPattern) (filename : Text) :
    Prop where
  isStatic : found.strategy ≠ .everyPart
  counterStandsFree : CounterStandsFree plan.template.titlePattern
  exists_title : ∃ title, plan.title .final settings moment titleValues = .ok title ∧
    filename = cleanCharacters title
  length_digits_le : ∀ digits, found.pattern.match? filename = some (some digits) →
    digits.length ≤ maxNumeralDigits

/-- The name of a tidy title keeps up. -/
theorem CreationPlan.NamesTidily.keepsUp [LocalZone] {number : Nat} {filename : Text}
    (h : plan.NamesTidily settings moment titleValues found filename)
    (hnumber : plan.counter = some (number : Int))
    (hfound : counterPattern? settings plan.template.titlePattern = .ok (some found)) :
    found.KeepsUp filename number := by
  obtain ⟨title, htitle, rfl⟩ := h.exists_title
  obtain ⟨front, behind, hcut, hsides⟩ := exists_cut_of_static hfound h.isStatic
  obtain ⟨shown, -, hrender⟩ := CreationPlan.exists_render_of_title htitle
  obtain ⟨left, right, rfl, hlength, hleft, hright⟩ :=
    exists_shown_of_render hcut h.counterStandsFree hnumber hrender
  obtain ⟨found', hfound', -, hread⟩ :=
    exists_readsBack_of_sides settings hcut hsides hlength hleft hright
  rw [hfound] at hfound'
  obtain rfl := Option.some.inj (Except.ok.inj hfound')
  rw [← cleanCharacters_decimal, ← cleanCharacters_append, ← cleanCharacters_append] at hread
  exact hread.keepsUp h.isStatic h.length_digits_le

namespace Vault

/-- A folder has a note besides the given one with this number or a greater one. -/
def HasOtherNote (vault : Vault) (session : Session) (folder : Text) (note : CreatedNote)
    (found : CounterPattern) (number : Int) : Prop :=
  ∃ entry ∈ vault.entriesIn session folder, entry ≠ ⟨note.path, false⟩ ∧
    ∃ value, found.counterOf? entry = some value ∧ number ≤ (value : Int)

/-- The note of a plan is created under the name of its title. -/
theorem exists_createNote_of_createPlanned [LocalZone]
    (h : (vault.createPlanned plan settings moment titleValues noteValues).Gives before note
      after) :
    ∃ title content, plan.title .final settings moment titleValues = .ok title ∧
      (vault.createNote plan.folder (cleanFilename title) content).Gives before note after := by
  rw [createPlanned] at h
  obtain ⟨filename, first, hfilename, hrest⟩ := gives_bind_iff.1 h
  obtain ⟨hnamed, hfirst⟩ := gives_ofExcept_iff.1 hfilename
  obtain ⟨content, second, hcontent, hcreate⟩ := gives_bind_iff.1 hrest
  obtain ⟨-, hsecond⟩ := gives_ofExcept_iff.1 hcontent
  rw [hsecond, hfirst] at hcreate
  rw [CreationPlan.filename] at hnamed
  cases htitle : plan.title .final settings moment titleValues with
  | error failure =>
    rw [htitle] at hnamed
    cases hnamed
  | ok title =>
    rw [htitle] at hnamed
    obtain rfl : cleanFilename title = filename := Except.ok.inj hnamed
    exact ⟨title, content, rfl, hcreate⟩

theorem gives_createPlanned [LocalZone] {title : Text}
    (htitle : plan.title .final settings moment titleValues = .ok title)
    (htext : plan.noteText (some (cleanFilename title)) settings moment noteValues = .ok content)
    (hnote : (vault.createNote plan.folder (cleanFilename title) content).Gives before note after) :
    (vault.createPlanned plan settings moment titleValues noteValues).Gives before note after := by
  have hfilename : plan.filename settings moment titleValues = .ok (cleanFilename title) := by
    rw [CreationPlan.filename, htitle]
    rfl
  rw [createPlanned]
  refine gives_bind_iff.2 ⟨_, before, gives_ofExcept_iff.2 ⟨hfilename, rfl⟩, ?_⟩
  exact gives_bind_iff.2 ⟨_, before, gives_ofExcept_iff.2 ⟨htext, rfl⟩, hnote⟩

theorem exists_addsNote_of_createPlanned [LocalZone]
    (h : (vault.createPlanned plan settings moment titleValues noteValues).Gives before note
      after) :
    ∃ content middle place, middle.here = before.here ∧
      (vault.HasFolderAt before plan.folder → middle = before) ∧
      vault.AddsNote plan.folder content place note middle after := by
  obtain ⟨title, content, -, hcreate⟩ := exists_createNote_of_createPlanned h
  obtain ⟨middle, place, hadds⟩ := exists_addsNote_of_createNote hcreate
  exact ⟨content, middle, place, hadds⟩

theorem AddsNote.counterOf?_note (h : vault.AddsNote folder content place note before after)
    (found : CounterPattern) :
    found.counterOf? ⟨note.path, false⟩ = found.pattern.counterIn? note.filename := by
  rw [h.path_eq, counterOf?_notePath h.isNoteName]

/-- The next number grows when the new note keeps up, or another one does. -/
theorem nextNumber_lt_after_note {start : Int} {numbers : List Nat}
    (hadds : vault.AddsNote folder content place note before after)
    (hnumbers : ∀ value ∈ numbers, value ∈ vault.numbersIn before folder found) :
    nextNumber start numbers < nextNumber start (vault.numbersIn after folder found) ↔
      found.KeepsUp note.filename (nextNumber start numbers) ∨
        vault.HasOtherNote after folder note found (nextNumber start numbers) := by
  have hmore : ∀ value ∈ numbers, value ∈ vault.numbersIn after folder found := by
    intro value hvalue
    obtain ⟨entry, hentry, hread⟩ := List.mem_filterMap.1 (hnumbers value hvalue)
    exact List.mem_filterMap.2 ⟨entry, hadds.mem_entriesIn_iff.2 (Or.inl hentry), hread⟩
  rw [nextNumber_lt_iff hmore]
  constructor
  · rintro ⟨value, hvalue, hle⟩
    obtain ⟨entry, hentry, hread⟩ := List.mem_filterMap.1 hvalue
    by_cases hnew : entry = ⟨note.path, false⟩
    · rw [hnew, hadds.counterOf?_note] at hread
      exact Or.inl ⟨value, hread, hle⟩
    · exact Or.inr ⟨entry, hentry, hnew, value, hread, hle⟩
  · intro h
    cases h with
    | inl hkeeps =>
      obtain ⟨value, hread, hle⟩ := hkeeps
      rw [← hadds.counterOf?_note] at hread
      have hentry := hadds.mem_entriesIn_iff.2 (Or.inr rfl)
      exact ⟨value, List.mem_filterMap.2 ⟨_, hentry, hread⟩, hle⟩
    | inr hother =>
      obtain ⟨entry, hentry, -, value, hread, hle⟩ := hother
      exact ⟨value, List.mem_filterMap.2 ⟨entry, hentry, hread⟩, hle⟩

/-- Notes that were counted are behind the next number. -/
theorem not_hasOtherNote {start : Int}
    (hadds : vault.AddsNote folder content place note before after) :
    ¬ vault.HasOtherNote after folder note found
      (nextNumber start (vault.numbersIn before folder found)) := by
  rintro ⟨entry, hentry, hne, value, hread, hle⟩
  have hold := (hadds.mem_entriesIn_iff.1 hentry).resolve_right hne
  have hcounted : value ∈ vault.numbersIn before folder found :=
    List.mem_filterMap.2 ⟨entry, hold, hread⟩
  exact absurd hle (Int.not_le.2 (lt_nextNumber hcounted))

section

variable [Styling] [LocalZone]
  (hplan : (vault.planNote settings template given current).Gives before plan planned)
  (hcounter : hasCounter template.titlePattern = true)
  (hcreate : (vault.createPlanned plan settings moment titleValues noteValues).Gives planned note
    created)

include hplan hcounter hcreate

/-- Between a plan and its note nothing happens to the folder of the plan but that it is made
where it was missing. -/
theorem exists_addsNote_of_planNote :
    ∃ content middle place, middle.here = before.here ∧
      (vault.HasFolderAt before plan.folder → before.SameDisk middle) ∧
      vault.AddsNote plan.folder content place note middle created := by
  obtain ⟨hsame, -⟩ := counter_of_planNote hplan hcounter
  obtain ⟨content, middle, place, hhere, hthere, hadds⟩ := exists_addsNote_of_createPlanned hcreate
  refine ⟨content, middle, place, hhere.trans hsame.here, ?_, hadds⟩
  intro hfolder
  rw [hthere (hasFolderAt_congr hsame hfolder)]
  exact hsame

/-- There is a new plan when the text of the template can still be read and the folder can be
listed, as it is where the folder was there. -/
theorem exists_next_plan
    (hkept : vault.HasFolderAt before plan.folder ∨ vault.LooksInto created plan.folder ∧
      ∃ text later, (vault.startingText? template.fileTemplate).Gives created text later) :
    ∃ next after,
      (vault.planNote settings template given current).Gives created next after := by
  obtain ⟨hfolder, ⟨text, first, _, hfirst, hread⟩, -⟩ := of_gives_planNote hplan
  obtain ⟨-, hadmits, hlooks, found, hfound, -⟩ := counter_of_planNote hplan hcounter
  obtain ⟨content, middle, place, hhere, hmiddle, hadds⟩ :=
    exists_addsNote_of_planNote hplan hcounter hcreate
  have hcreated : vault.LooksInto created plan.folder ∧
      ∃ text later, (vault.startingText? template.fileTemplate).Gives created text later := by
    cases hkept with
    | inr hkept => exact hkept
    | inl hthere =>
      obtain ⟨later, hlater⟩ := (onlyReads_startingText? _ hread).2 middle
        (hfirst.symm.trans (hmiddle hthere))
      exact ⟨hadds.looksInto_after (looksInto_congr (hmiddle hthere) hlooks),
        exists_startingText?_of_addsNote hadds hlater⟩
  rw [hfolder] at hadmits hadds hcreated
  rw [← hhere, ← hadds.here_eq] at hadmits
  exact exists_gives_planNote hcounter hfound hadmits ⟨place, hadds.located_after⟩ hcreated.1
    hcreated.2

/-- Only where the folder was missing another note than the new one can be in the way: double
dots in a path may lead to a folder that is there once the missing one has been made. -/
theorem nextNumber_lt_created (start : Int) (found : CounterPattern) :
    nextNumber start (vault.numbersIn before plan.folder found) <
        nextNumber start (vault.numbersIn created plan.folder found) ↔
      found.KeepsUp note.filename
          (nextNumber start (vault.numbersIn before plan.folder found)) ∨
        ¬ vault.HasFolderAt before plan.folder ∧
          vault.HasOtherNote created plan.folder note found
            (nextNumber start (vault.numbersIn before plan.folder found)) := by
  obtain ⟨content, middle, place, -, hmiddle, hadds⟩ :=
    exists_addsNote_of_planNote hplan hcounter hcreate
  by_cases hfolder : vault.HasFolderAt before plan.folder
  · have hcounted : vault.numbersIn middle plan.folder found =
        vault.numbersIn before plan.folder found :=
      numbersIn_congr (hmiddle hfolder)
    rw [← hcounted, nextNumber_lt_after_note hadds fun _ hvalue => hvalue]
    simp only [hfolder, not_true, false_and, or_false]
    exact or_iff_left (not_hasOtherNote hadds)
  · have hnone : vault.numbersIn before plan.folder found = [] := by
      rw [numbersIn, entriesIn_of_not_hasFolderAt hfolder]
      rfl
    rw [hnone, nextNumber_lt_after_note hadds fun _ hvalue => absurd hvalue List.not_mem_nil]
    simp only [hfolder, not_false_iff, true_and]

end

/-- When the note of a plan has been created, a new plan takes a greater number exactly when
the name of the note is read back with the number that was given out, or a greater one.  So it
does where one side of the counter has no tags and tidying the title has changed no more than its
characters. -/
theorem number_lt_next_iff [Styling] [LocalZone]
    (hplan : (vault.planNote settings template given current).Gives before plan planned)
    (hnumber : plan.counter = some number)
    (hcreate : (vault.createPlanned plan settings moment titleValues noteValues).Gives planned
      note created) :
    ∃ found, counterPattern? settings template.titlePattern = .ok (some found) ∧
      (0 ≤ number → plan.NamesTidily settings moment titleValues found note.filename →
        found.KeepsUp note.filename number) ∧
      (vault.HasFolderAt before plan.folder ∨ vault.LooksInto created plan.folder ∧
        (∃ text later, (vault.startingText? template.fileTemplate).Gives created text later) →
          ∃ next after, (vault.planNote settings template given current).Gives created next
            after) ∧
      ∀ next after, (vault.planNote settings template given current).Gives created next after →
        ∃ later, next.counter = some later ∧
          (number < later ↔ found.KeepsUp note.filename number ∨
            ¬ vault.HasFolderAt before plan.folder ∧
              vault.HasOtherNote created plan.folder note found number) := by
  have hcounter := hasCounter_of_planNote hplan hnumber
  obtain ⟨-, -, -, found, hfound, hplanned⟩ := counter_of_planNote hplan hcounter
  refine ⟨found, hfound, fun hnonneg htidy => ?_, exists_next_plan hplan hcounter hcreate, ?_⟩
  · obtain ⟨number, rfl⟩ := Int.eq_ofNat_of_zero_le hnonneg
    exact htidy.keepsUp hnumber ((template_of_planNote hplan).symm ▸ hfound)
  intro next after hnext
  obtain ⟨-, -, -, again, hagain, hlater⟩ := counter_of_planNote hnext hcounter
  have hsameFound : again = found := by
    rw [hfound] at hagain
    exact (Option.some.inj (Except.ok.inj hagain)).symm
  have hsameFolder : next.folder = plan.folder := by
    calc next.folder = template.targetFolder given current := (of_gives_planNote hnext).1
      _ = plan.folder := (of_gives_planNote hplan).1.symm
  rw [hsameFolder, hsameFound] at hlater
  obtain rfl : number = nextNumber template.counterStart
      (vault.numbersIn before plan.folder found) := by
    rw [hnumber] at hplanned
    exact Option.some.inj hplanned
  exact ⟨_, hlater, nextNumber_lt_created hplan hcounter hcreate _ found⟩

end Vault

/-! ### A diary -/

/-- A vault below the root of the disk. -/
def diary : Vault := ⟨⟨"/".toList, ["vault".toList]⟩⟩

/-- A template for notes directly in the vault, which are numbered from 1 on. -/
def dayTemplate (titlePattern : Text) : Template where
  id := "day".toList
  name := "Day".toList
  titlePattern := titlePattern
  folder := vaultRoot
  fileTemplate := none
  counterStart := 1
  prompts := []

def dayPlan (titlePattern : Text) (number : Int) : CreationPlan :=
  ⟨dayTemplate titlePattern, vaultRoot, some number, [], [], none⟩

/-- The diary with notes of these names. -/
def diarySession (names : List Text) : Session where
  tree := ⟨(["vault".toList], .folder) ::
    names.map fun name => (["vault".toList, name], .file (.text [])), .usual⟩
  here := []
  notices := []
  nextPrompt := 0
  maxNesting := 900

def dayMoment : Moment := .ofClock seventhContext.instant

theorem gives_createPlanned_day [LocalZone] {titlePattern title : Text}
    (hrender : renderTitle .final ⟨.default, dayMoment.now, some number, .filename⟩ [] []
      titlePattern = .ok title)
    (hnote : (diary.createNote vaultRoot (cleanFilename title) []).Gives before note after) :
    (diary.createPlanned (dayPlan titlePattern number) .default dayMoment [] []).Gives before note
      after := by
  refine Vault.gives_createPlanned ?_ rfl hnote
  exact hrender

/-- The days of the diary. -/
def dayPattern : Text := "Day {{counter}}".toList

section

attribute [local instance] LocalZone.utc Markup.styling

/-- The fifth day. -/
theorem number_lt_next_of_fifthDay :
    (diary.planNote .default (dayTemplate dayPattern) none vaultRoot).Gives
        (diarySession ["Day 4.md".toList]) (dayPlan dayPattern 5)
        (diarySession ["Day 4.md".toList]) ∧
      (dayPlan dayPattern 5).counter = some 5 ∧
      (diary.createPlanned (dayPlan dayPattern 5) .default dayMoment [] []).Gives
        (diarySession ["Day 4.md".toList]) ⟨"Day 5.md".toList, "Day 5".toList, false⟩
        (diarySession ["Day 4.md".toList, "Day 5.md".toList]) ∧
      ∃ found, counterPattern? .default dayPattern = .ok (some found) ∧
        found.KeepsUp "Day 5".toList 5 ∧
        ∃ next after later, (diary.planNote .default (dayTemplate dayPattern) none vaultRoot).Gives
            (diarySession ["Day 4.md".toList, "Day 5.md".toList]) next after ∧
          next.counter = some later ∧ 5 < later := by
  have hplan : (diary.planNote .default (dayTemplate dayPattern) none vaultRoot).Gives
      (diarySession ["Day 4.md".toList]) (dayPlan dayPattern 5)
      (diarySession ["Day 4.md".toList]) := by
    unfold Gives
    decide +kernel
  have hrender : renderTitle .final ⟨.default, dayMoment.now, some 5, .filename⟩ [] []
      dayPattern = .ok "Day 5".toList := by
    rw [renderTitle, titlePieces, List.isEmpty_nil, Bool.not_true, chosenTitleTags_false]
    decide +kernel
  have hcreate : (diary.createPlanned (dayPlan dayPattern 5) .default dayMoment [] []).Gives
      (diarySession ["Day 4.md".toList]) ⟨"Day 5.md".toList, "Day 5".toList, false⟩
      (diarySession ["Day 4.md".toList, "Day 5.md".toList]) := by
    apply gives_createPlanned_day hrender
    unfold Gives
    decide +kernel
  obtain ⟨found, hfound, -, hnext, hlater⟩ := Vault.number_lt_next_iff hplan rfl hcreate
  have hcounted : counterPattern? .default (dayTemplate dayPattern).titlePattern =
      .ok (some ⟨literalPattern "Day ".toList ++ [.counter], .bothSides⟩) := by
    decide +kernel
  have hkeeps : found.KeepsUp "Day 5".toList 5 := by
    rw [hcounted] at hfound
    obtain rfl := Option.some.inj (Except.ok.inj hfound)
    exact ⟨5, by decide +kernel, Int.le_refl 5⟩
  obtain ⟨next, after, hgives⟩ := hnext (Or.inl ⟨["vault".toList], by decide⟩)
  obtain ⟨later, hcounter, hiff⟩ := hlater next after hgives
  exact ⟨hplan, rfl, hcreate, found, hfound, hkeeps, next, after, later, hgives, hcounter,
    hiff.2 (Or.inl hkeeps)⟩

/-- A counter with a dot behind it. -/
def dottedPattern : Text := "{{counter}}.".toList

/-- The dot is no part of the name, so the first number is given out again. -/
theorem number_again_of_dottedPattern :
    titleProblems dottedPattern = [] ∧ hasCounter dottedPattern = true ∧
      0 ≤ (dayTemplate dottedPattern).counterStart ∧
      ∃ plan note created next after number later,
        (diary.planNote .default (dayTemplate dottedPattern) none vaultRoot).Gives
          (diarySession []) plan (diarySession []) ∧
        plan.counter = some number ∧
        (diary.createPlanned plan .default dayMoment [] []).Gives (diarySession []) note created ∧
        (diary.planNote .default (dayTemplate dottedPattern) none vaultRoot).Gives created next
          after ∧
        next.counter = some later ∧ ¬ number < later := by
  have hplan : (diary.planNote .default (dayTemplate dottedPattern) none vaultRoot).Gives
      (diarySession []) (dayPlan dottedPattern 1) (diarySession []) := by
    unfold Gives
    decide +kernel
  have hrender : renderTitle .final ⟨.default, dayMoment.now, some 1, .filename⟩ [] []
      dottedPattern = .ok "1.".toList := by
    rw [renderTitle, titlePieces, List.isEmpty_nil, Bool.not_true, chosenTitleTags_false]
    decide +kernel
  have hcreate : (diary.createPlanned (dayPlan dottedPattern 1) .default dayMoment [] []).Gives
      (diarySession []) ⟨"1.md".toList, "1".toList, false⟩ (diarySession ["1.md".toList]) := by
    apply gives_createPlanned_day hrender
    unfold Gives
    decide +kernel
  have hnext : (diary.planNote .default (dayTemplate dottedPattern) none vaultRoot).Gives
      (diarySession ["1.md".toList]) (dayPlan dottedPattern 1) (diarySession ["1.md".toList]) := by
    unfold Gives
    decide +kernel
  refine ⟨by decide +kernel, by decide +kernel, by decide, ?_⟩
  exact ⟨_, _, _, _, _, 1, 1, hplan, rfl, hcreate, hnext, rfl, Int.lt_irrefl 1⟩

end

end NoteTemplate
