import NoteTemplate.Proofs.Creation.Advance
import NoteTemplate.Proofs.Title.Tidy

/-!
# Runs of numbered notes

In one round a note is planned for a folder and then created.  When the title has no tag but
its counter, the name of the note is the one that the next plan reads back, and it was free,
since every name of its kind in the folder has a smaller number.  So a run of rounds counts
on from the first number without a gap, and no note has to give way to what was there.
-/

namespace NoteTemplate

open NoteTemplate.Action

variable {vault : Vault} {template : Template} {folder pattern front behind title : Text}
  {found : CounterPattern} {settings : DateTimeSettings} {context : RenderContext}
  {prompts : List Prompt} {values : PromptValues} {mode : FillMode} {number : Nat}
  {before after : Session}

/-! ### Patterns with a counter between fixed texts -/

/-- The counter stands between two texts without tags, which come through tidying. -/
structure CounterPattern.IsFixed (found : CounterPattern) (pattern : Text) : Prop where
  classified : ∃ settings, counterPattern? settings pattern = .ok (some found)
  bothSides : found.strategy = .bothSides
  standsFree : CounterStandsFree pattern
  tidy : ∀ front behind, cutAtCounter? pattern = some (front, behind) →
    cleanFilename (front ++ '0' :: behind) =
      cleanCharacters front ++ '0' :: cleanCharacters behind

namespace CounterPattern.IsFixed

theorem exists_cut (h : found.IsFixed pattern) :
    ∃ front behind, cutAtCounter? pattern = some (front, behind) ∧
      hasTags front = false ∧ hasTags behind = false ∧
      found = ⟨literalPattern front ++ .counter :: literalPattern behind, .bothSides⟩ := by
  obtain ⟨settings, hfound⟩ := h.classified
  have hstrategy := h.bothSides
  cases hcut : cutAtCounter? pattern with
  | none => simp [counterPattern?, hcut] at hfound
  | some cut =>
    obtain ⟨front, behind⟩ := cut
    refine ⟨front, behind, rfl, ?_⟩
    cases hfront : hasTags front <;> cases hbehind : hasTags behind
    · rw [counterPattern?_bothSides settings hcut hfront hbehind] at hfound
      exact ⟨rfl, rfl, (Option.some.inj (Except.ok.inj hfound)).symm⟩
    · rw [counterPattern?_before settings hcut hfront hbehind] at hfound
      obtain rfl := Option.some.inj (Except.ok.inj hfound)
      cases hstrategy
    · rw [counterPattern?_after settings hcut hfront hbehind] at hfound
      obtain rfl := Option.some.inj (Except.ok.inj hfound)
      cases hstrategy
    · rw [strategy_everyPart settings hcut hfront hbehind hfound] at hstrategy
      cases hstrategy

theorem of_cut (hcut : cutAtCounter? pattern = some (front, behind))
    (hfront : hasTags front = false) (hbehind : hasTags behind = false)
    (hfree : CounterStandsFree pattern)
    (htidy : cleanFilename (front ++ '0' :: behind) =
      cleanCharacters front ++ '0' :: cleanCharacters behind) :
    IsFixed ⟨literalPattern front ++ .counter :: literalPattern behind, .bothSides⟩ pattern := by
  refine ⟨⟨.default, counterPattern?_bothSides .default hcut hfront hbehind⟩, rfl, hfree, ?_⟩
  intro left right hsides
  rw [hcut] at hsides
  obtain ⟨rfl, rfl⟩ := Prod.mk.inj (Option.some.inj hsides)
  exact htidy

theorem counterPattern?_eq (h : found.IsFixed pattern) (settings : DateTimeSettings) :
    counterPattern? settings pattern = .ok (some found) := by
  obtain ⟨front, behind, hcut, hfront, hbehind, rfl⟩ := h.exists_cut
  exact counterPattern?_bothSides settings hcut hfront hbehind

theorem hasCounter (h : found.IsFixed pattern) : hasCounter pattern = true := by
  obtain ⟨front, behind, hcut, -⟩ := h.exists_cut
  rw [hasCounter_eq, hcut]
  rfl

/-- The name of a title is read back with its counter, and with no other number. -/
theorem counterIn?_of_render [LocalZone] (h : found.IsFixed pattern)
    (hcontext : context.counter = some (number : Int))
    (hrender : renderTitle mode context prompts values pattern = .ok title) :
    cleanFilename title ≠ [] ∧ found.pattern.counterIn? (cleanFilename title) = some number := by
  obtain ⟨front, behind, hcut, hfront, hbehind, rfl⟩ := h.exists_cut
  obtain ⟨shownFront, shownBehind, rfl, hlength, hshownFront, hshownBehind⟩ :=
    exists_shown_of_render hcut h.standsFree hcontext hrender
  rw [hshownFront hfront, hshownBehind hbehind,
    cleanFilename_decimal number (h.tidy front behind hcut)]
  refine ⟨by simp [decimal_ne_nil], ?_⟩
  exact CounterPattern.readsBack_bothSides front behind hlength

end CounterPattern.IsFixed

/-! ### One round -/

/-- A note is planned and then created. -/
structure Round where
  before : Session
  plan : CreationPlan
  note : CreatedNote
  after : Session

/-- The round is one of the template and puts its note into the folder. -/
def Round.IsMadeIn [Styling] [LocalZone] (round : Round) (vault : Vault) (template : Template)
    (folder : Text) : Prop :=
  ∃ settings given current planned creating moment titleValues noteValues,
    template.targetFolder given current = folder ∧
    (vault.planNote settings template given current).Gives round.before round.plan planned ∧
    (vault.createPlanned round.plan creating moment titleValues noteValues).Gives planned
      round.note round.after

namespace Vault

/-- No folder in the folder has a name like a note. -/
def HasNoNoteFolders (vault : Vault) (session : Session) (folder : Text) : Prop :=
  ∀ entry ∈ vault.entriesIn session folder, entry.isFolder = true →
    hasNoteExtension entry.name = false

/-- The next number is this one, and nothing can stand where its note is to be put. -/
structure IsReadyFor (vault : Vault) (template : Template) (found : CounterPattern)
    (folder : Text) (session : Session) (number : Nat) : Prop where
  next : nextNumber template.counterStart (vault.numbersIn session folder found) = (number : Int)
  hasNoNoteFolders : vault.HasNoNoteFolders session folder
  hasWay : vault.HasWay session folder

variable {content filename : Text} {place : List Text} {note : CreatedNote}

theorem hasWay_congr {other : Session} (h : before.SameDisk other)
    (hway : vault.HasWay before folder) : vault.HasWay other folder := by
  rw [HasWay, LeadsOn, HasFolderAt, h.tree, h.here]
  exact hway

theorem entriesIn_congr {other : Session} (h : before.SameDisk other) :
    vault.entriesIn other folder = vault.entriesIn before folder := by
  rw [entriesIn, entriesIn, h.tree, h.here]

theorem isReadyFor_of_entriesIn_eq {other : Session}
    (h : vault.IsReadyFor template found folder before number)
    (hentries : vault.entriesIn other folder = vault.entriesIn before folder)
    (hway : vault.HasWay other folder) :
    vault.IsReadyFor template found folder other number := by
  refine ⟨?_, ?_, hway⟩
  · rw [numbersIn, hentries]
    exact h.next
  · rw [HasNoNoteFolders, hentries]
    exact h.hasNoNoteFolders

/-- A name that is read back with the next number is free: a note of that name would have been
counted, and there are no folders of such names. -/
theorem IsReadyFor.vacant (h : vault.IsReadyFor template found folder before number)
    (hplace : before.tree.locate before.here (vault.diskPath folder) = .ok (.found place .folder))
    (hname : IsNoteName filename) (hread : found.pattern.counterIn? filename = some number) :
    before.tree.get? (place ++ [filename ++ '.' :: noteExtension]) = none := by
  rw [Option.eq_none_iff_forall_ne_some]
  intro node hnode
  have hentry := mem_entriesIn_of_get? hplace hname.not_isHidden hnode
  cases node with
  | folder =>
    have hextension := h.hasNoNoteFolders _ hentry rfl
    rw [name_joinPath hname.isPathName, hasNoteExtension_append] at hextension
    cases hextension
  | file content =>
    have hcounted : number ∈ vault.numbersIn before folder found :=
      List.mem_filterMap.2 ⟨_, hentry, (counterOf?_notePath hname found).trans hread⟩
    have hless : (number : Int) < nextNumber template.counterStart
        (vault.numbersIn before folder found) := lt_nextNumber hcounted
    rw [h.next] at hless
    exact absurd hless (Int.lt_irrefl _)

/-- Behind a note with the next number the folder is ready for the one that follows. -/
theorem IsReadyFor.of_addsNote (h : vault.IsReadyFor template found folder before number)
    (hadds : vault.AddsNote folder content place note before after)
    (hread : found.pattern.counterIn? note.filename = some number) :
    vault.IsReadyFor template found folder after (number + 1) := by
  refine ⟨?_, ?_, Or.inl ⟨place, hadds.located_after⟩⟩
  · rw [Nat.cast_succ]
    apply nextNumber_of_greatest
    · exact List.mem_filterMap.2
        ⟨_, hadds.mem_entriesIn_iff.2 (Or.inr rfl), (hadds.counterOf?_note found).trans hread⟩
    · intro value hvalue
      obtain ⟨entry, hentry, hcounter⟩ := List.mem_filterMap.1 hvalue
      cases hadds.mem_entriesIn_iff.1 hentry with
      | inl hold =>
        have hless : (value : Int) < nextNumber template.counterStart
            (vault.numbersIn before folder found) :=
          lt_nextNumber (List.mem_filterMap.2 ⟨entry, hold, hcounter⟩)
        rw [h.next] at hless
        exact Int.ofNat_le.1 (Int.le_of_lt hless)
      | inr hnew =>
        rw [hnew, hadds.counterOf?_note, hread] at hcounter
        exact Nat.le_of_eq (Option.some.inj hcounter).symm
  · intro entry hentry hfolder
    cases hadds.mem_entriesIn_iff.1 hentry with
    | inl hold => exact h.hasNoNoteFolders entry hold hfolder
    | inr hnew =>
      rw [hnew] at hfolder
      cases hfolder

/-- A plan takes the number that its folder is ready for, and leaves it ready. -/
theorem IsReadyFor.of_planNote [Styling] {given : Option Text} {current : Text}
    {plan : CreationPlan}
    (h : vault.IsReadyFor template found (template.targetFolder given current) before number)
    (hfixed : found.IsFixed template.titlePattern)
    (hplan : (vault.planNote settings template given current).Gives before plan after) :
    plan.counter = some (number : Int) ∧ before.SameDisk after ∧
      vault.IsReadyFor template found (template.targetFolder given current) after number := by
  obtain ⟨hsame, -, -, again, hagain, hcounter⟩ := counter_of_planNote hplan hfixed.hasCounter
  obtain rfl : found = again :=
    Option.some.inj (Except.ok.inj ((hfixed.counterPattern?_eq settings).symm.trans hagain))
  rw [(of_gives_planNote hplan).1, h.next] at hcounter
  exact ⟨hcounter, hsame,
    isReadyFor_of_entriesIn_eq h (entriesIn_congr hsame) (hasWay_congr hsame h.hasWay)⟩

/-- The note of a plan with the next number gets the name of its title. -/
theorem IsReadyFor.of_createPlanned [LocalZone] {plan : CreationPlan} {moment : Moment}
    {titleValues noteValues : PromptValues}
    (h : vault.IsReadyFor template found plan.folder before number)
    (hfixed : found.IsFixed plan.template.titlePattern)
    (hcounter : plan.counter = some (number : Int))
    (hcreate : (vault.createPlanned plan settings moment titleValues noteValues).Gives before note
      after) :
    note.conflictResolved = false ∧ before.tree.StaysIn after.tree ∧
      vault.IsReadyFor template found plan.folder after (number + 1) := by
  obtain ⟨title, content, htitle, hnote⟩ := exists_createNote_of_createPlanned hcreate
  obtain ⟨shown, -, hrender⟩ := CreationPlan.exists_render_of_title htitle
  obtain ⟨hne, hread⟩ := hfixed.counterIn?_of_render hcounter hrender
  obtain ⟨middle, place, hensure, hadds, hfree⟩ := exists_ensureFolder_of_createNote hnote
  rw [cleanFilename_cleanFilename] at hfree
  -- The folder may only now be there, but it still has the entries that were counted.
  obtain ⟨hstays, hentries⟩ := entriesIn_ensureFolder h.hasWay hensure ⟨place, hadds.located⟩
  have hready : vault.IsReadyFor template found plan.folder middle number :=
    isReadyFor_of_entriesIn_eq h hentries (Or.inl ⟨place, hadds.located⟩)
  obtain ⟨hfilename, hresolved⟩ := hfree hne
    (hready.vacant hadds.located (isNoteName_cleanFilename hne) hread)
  rw [← hfilename] at hread
  exact ⟨hresolved, hstays.trans hadds.staysIn, hready.of_addsNote hadds hread⟩

/-- A round takes the next number and leaves its folder ready for the one that follows. -/
theorem IsReadyFor.of_round [Styling] [LocalZone] {round : Round}
    (h : vault.IsReadyFor template found folder round.before number)
    (hfixed : found.IsFixed template.titlePattern) (hround : round.IsMadeIn vault template folder) :
    (round.plan.counter = some (number : Int) ∧ round.note.conflictResolved = false ∧
      round.before.tree.StaysIn round.after.tree) ∧
      vault.IsReadyFor template found folder round.after (number + 1) := by
  obtain ⟨settings, given, current, planned, creating, moment, titleValues, noteValues, rfl, hplan,
    hcreate⟩ := hround
  obtain ⟨hcounter, hsame, hplanned⟩ := h.of_planNote hfixed hplan
  rw [← template_of_planNote hplan] at hfixed
  rw [← (of_gives_planNote hplan).1] at hplanned ⊢
  obtain ⟨hresolved, hstays, hready⟩ := hplanned.of_createPlanned hfixed hcounter hcreate
  rw [hsame.tree] at hstays
  exact ⟨⟨hcounter, hresolved, hstays⟩, hready⟩

end Vault

/-! ### Runs -/

/-- Rounds that follow one another, from the first session to the last. -/
inductive IsRun [Styling] [LocalZone] (vault : Vault) (template : Template) (folder : Text) :
    Session → List Round → Session → Prop
  | nil (session : Session) : IsRun vault template folder session [] session
  | cons {round : Round} {rounds : List Round} {after : Session}
      (hround : round.IsMadeIn vault template folder)
      (hrest : IsRun vault template folder round.after rounds after) :
      IsRun vault template folder round.before (round :: rounds) after

/-- The rounds of a run take one number after the other. -/
theorem Vault.IsReadyFor.of_run [Styling] [LocalZone] {rounds : List Round}
    (h : vault.IsReadyFor template found folder before number)
    (hfixed : found.IsFixed template.titlePattern)
    (hrun : IsRun vault template folder before rounds after) :
    ∀ i (hi : i < rounds.length), rounds[i].plan.counter = some ((number : Int) + i) ∧
      rounds[i].note.conflictResolved = false ∧
      rounds[i].before.tree.StaysIn rounds[i].after.tree := by
  induction hrun generalizing number with
  | nil session =>
    intro i hi
    exact absurd hi (Nat.not_lt_zero i)
  | cons hround hrest ih =>
    obtain ⟨hfirst, hready⟩ := h.of_round hfixed hround
    intro i hi
    cases i with
    | zero => simpa using hfirst
    | succ i =>
      have hlater := ih hready i (Nat.lt_of_succ_lt_succ hi)
      rw [Nat.cast_succ, Int.add_assoc, Int.add_comm 1] at hlater
      simpa using hlater

/-- A run counts on from the first number of the template, or from behind the greatest number
in the folder.  No note has to give way to another, and what stood on the disk stays. -/
theorem counters_of_isRun [Styling] [LocalZone] {rounds : List Round}
    (hfixed : found.IsFixed template.titlePattern)
    (hstart : 0 ≤ template.counterStart) (hfolders : vault.HasNoNoteFolders before folder)
    (hway : vault.HasWay before folder)
    (hrun : IsRun vault template folder before rounds after) :
    ∃ first : Int,
      (vault.numbersIn before folder found = [] → first = template.counterStart) ∧
      (∀ greatest ∈ vault.numbersIn before folder found,
        (∀ other ∈ vault.numbersIn before folder found, other ≤ greatest) →
          first = greatest + 1) ∧
      ∀ i (hi : i < rounds.length), rounds[i].plan.counter = some (first + i) ∧
        rounds[i].note.conflictResolved = false ∧
        rounds[i].before.tree.StaysIn rounds[i].after.tree := by
  have hnext := nextNumber_nonneg hstart (vault.numbersIn before folder found)
  obtain ⟨number, hnumber⟩ := Int.eq_ofNat_of_zero_le hnext
  have hready : vault.IsReadyFor template found folder before number :=
    ⟨hnumber, hfolders, hway⟩
  refine ⟨number, ?_, ?_, hready.of_run hfixed hrun⟩
  · intro hnone
    rw [← hnumber, hnone, nextNumber]
  · intro greatest hmem hall
    rw [← hnumber, nextNumber_of_greatest hmem hall]

/-! ### A folder for the days -/

/-- The template of the diary for another folder. -/
def dayTemplateIn (folder titlePattern : Text) : Template :=
  { dayTemplate titlePattern with folder := folder }

def dayPlanIn (folder titlePattern : Text) (number : Int) : CreationPlan :=
  ⟨dayTemplateIn folder titlePattern, folder, some number, [], [], none⟩

/-- The diary with these places in it. -/
def diaryWith (places : List (List Text × DiskNode)) (notices : List Text) : Session where
  tree := ⟨(["vault".toList], .folder) :: places, .usual⟩
  here := []
  notices := notices
  nextPrompt := 0
  maxNesting := 900

/-- What is said about a folder that is missing. -/
def missingNotice (folder : Text) : Text :=
  styled "dim" ("Folder not found, no existing counters: ".toList ++ folder)

theorem isMadeIn_day [Styling] [LocalZone] {titlePattern : Text} {value : Int}
    {note : CreatedNote} (planned : Session) (title : Text)
    (hplan : (diary.planNote .default (dayTemplateIn folder titlePattern) none vaultRoot).Gives
      before (dayPlanIn folder titlePattern value) planned)
    (hrender : renderTitle .final ⟨.default, dayMoment.now, some value, .filename⟩ [] []
      titlePattern = .ok title)
    (hnote : (diary.createNote folder (cleanFilename title) []).Gives planned note after) :
    Round.IsMadeIn ⟨before, dayPlanIn folder titlePattern value, note, after⟩ diary
      (dayTemplateIn folder titlePattern) folder := by
  have hfolder := (Vault.of_gives_planNote hplan).1.symm
  refine ⟨.default, none, vaultRoot, planned, .default, dayMoment, [], [], hfolder, hplan, ?_⟩
  refine Vault.gives_createPlanned ?_ rfl hnote
  exact hrender

def daysFolder : Text := "Days".toList

/-- A place in the folder for the days, or the folder itself. -/
def daysPlace (names : List Text) : List Text := "vault".toList :: daysFolder :: names

/-- The diary with these notes in a folder for the days, which was missing at first. -/
def daysSession (names : List Text) : Session :=
  diaryWith ((daysPlace [], .folder) ::
    names.map fun name => (daysPlace [name], .file (.text []))) [missingNotice daysFolder]

def firstDay : Round where
  before := diaryWith [] []
  plan := dayPlanIn daysFolder dayPattern 1
  note := ⟨"Days/Day 1.md".toList, "Day 1".toList, false⟩
  after := daysSession ["Day 1.md".toList]

def secondDay : Round where
  before := daysSession ["Day 1.md".toList]
  plan := dayPlanIn daysFolder dayPattern 2
  note := ⟨"Days/Day 2.md".toList, "Day 2".toList, false⟩
  after := daysSession ["Day 1.md".toList, "Day 2.md".toList]

/-- How the names of the days are read. -/
def dayNames : CounterPattern :=
  ⟨literalPattern "Day ".toList ++ .counter :: literalPattern [], .bothSides⟩

section

attribute [local instance] LocalZone.utc Markup.styling

/-- The first two days, whose folder is made for the first of them. -/
theorem counters_of_firstDays :
    dayNames.IsFixed (dayTemplateIn daysFolder dayPattern).titlePattern ∧
      0 ≤ (dayTemplateIn daysFolder dayPattern).counterStart ∧
      diary.HasNoNoteFolders (diaryWith [] []) daysFolder ∧
      diary.HasWay (diaryWith [] []) daysFolder ∧
      IsRun diary (dayTemplateIn daysFolder dayPattern) daysFolder (diaryWith [] [])
        [firstDay, secondDay] secondDay.after ∧
      ∃ first : Int,
        (diary.numbersIn (diaryWith [] []) daysFolder dayNames = [] →
          first = (dayTemplateIn daysFolder dayPattern).counterStart) ∧
        (∀ greatest ∈ diary.numbersIn (diaryWith [] []) daysFolder dayNames,
          (∀ other ∈ diary.numbersIn (diaryWith [] []) daysFolder dayNames, other ≤ greatest) →
            first = greatest + 1) ∧
        ∀ i (hi : i < [firstDay, secondDay].length),
          [firstDay, secondDay][i].plan.counter = some (first + i) ∧
          [firstDay, secondDay][i].note.conflictResolved = false ∧
          [firstDay, secondDay][i].before.tree.StaysIn [firstDay, secondDay][i].after.tree := by
  have hfixed : dayNames.IsFixed (dayTemplateIn daysFolder dayPattern).titlePattern :=
    .of_cut (by decide +kernel) (by decide +kernel) (by decide +kernel) (by decide +kernel)
      (by decide +kernel)
  have hfolders : diary.HasNoNoteFolders (diaryWith [] []) daysFolder := by
    unfold Vault.HasNoNoteFolders
    decide +kernel
  have hway : diary.HasWay (diaryWith [] []) daysFolder :=
    Or.inr ⟨by decide +kernel, ["vault".toList], [daysFolder], ["vault".toList],
      by decide +kernel, by decide +kernel, by decide +kernel⟩
  have hfirst : firstDay.IsMadeIn diary (dayTemplateIn daysFolder dayPattern) daysFolder := by
    apply isMadeIn_day (diaryWith [] [missingNotice daysFolder]) "Day 1".toList
    · unfold Gives
      decide +kernel
    · rw [renderTitle, titlePieces_nil]
      decide +kernel
    · unfold Gives
      decide +kernel
  have hsecond : secondDay.IsMadeIn diary (dayTemplateIn daysFolder dayPattern) daysFolder := by
    apply isMadeIn_day secondDay.before "Day 2".toList
    · unfold Gives
      decide +kernel
    · rw [renderTitle, titlePieces_nil]
      decide +kernel
    · unfold Gives
      decide +kernel
  have hrun : IsRun diary (dayTemplateIn daysFolder dayPattern) daysFolder (diaryWith [] [])
      [firstDay, secondDay] secondDay.after :=
    .cons hfirst (.cons hsecond (.nil _))
  exact ⟨hfixed, by decide, hfolders, hway, hrun,
    counters_of_isRun hfixed (by decide) hfolders hway hrun⟩

end

/-! ### A way with double dots -/

/-- The folder `b`, by way of a folder that is missing. -/
def dottedFolder : Text := "a/../b".toList

/-- The pattern of a number alone. -/
def barePattern : Text := "\x7b\x7bcounter\x7d\x7d".toList

def bareNames : CounterPattern := ⟨literalPattern [] ++ .counter :: literalPattern [], .bothSides⟩

def bPlaces : List (List Text × DiskNode) :=
  [(["vault".toList, "b".toList], .folder),
    (["vault".toList, "b".toList, "1.md".toList], .file (.text []))]

def dottedRound : Round where
  before := diaryWith bPlaces []
  plan := dayPlanIn dottedFolder barePattern 1
  note := ⟨"a/../b/1 1.md".toList, "1 1".toList, true⟩
  after := diaryWith (bPlaces ++ [(["vault".toList, "a".toList], .folder),
    (["vault".toList, "b".toList, "1 1.md".toList], .file (.text []))])
    [missingNotice dottedFolder]

section

attribute [local instance] LocalZone.utc Markup.styling

/-- Where double dots lead back from a missing folder, the plan finds no folder and so no
numbers, and then the note lands in a folder that has some. -/
theorem conflictResolved_of_doubleDots :
    bareNames.IsFixed (dayTemplateIn dottedFolder barePattern).titlePattern ∧
      0 ≤ (dayTemplateIn dottedFolder barePattern).counterStart ∧
      diary.HasNoNoteFolders dottedRound.before dottedFolder ∧
      diary.HasNoNoteFolders dottedRound.before "b".toList ∧
      dottedRound.before.tree.IsGrounded ∧
      IsRun diary (dayTemplateIn dottedFolder barePattern) dottedFolder dottedRound.before
        [dottedRound] dottedRound.after ∧
      dottedRound.note.conflictResolved = true := by
  have hfixed : bareNames.IsFixed (dayTemplateIn dottedFolder barePattern).titlePattern :=
    .of_cut (by decide +kernel) (by decide +kernel) (by decide +kernel) (by decide +kernel)
      (by decide +kernel)
  have hfolders (folder : Text) (h : ∀ entry ∈ diary.entriesIn dottedRound.before folder,
      entry.isFolder = false) : diary.HasNoNoteFolders dottedRound.before folder := by
    intro entry hentry hfolder
    rw [h entry hentry] at hfolder
    cases hfolder
  have hround : dottedRound.IsMadeIn diary (dayTemplateIn dottedFolder barePattern)
      dottedFolder := by
    apply isMadeIn_day (diaryWith bPlaces [missingNotice dottedFolder]) "1".toList
    · unfold Gives
      decide +kernel
    · rw [renderTitle, titlePieces_nil]
      decide +kernel
    · unfold Gives
      decide +kernel
  exact ⟨hfixed, by decide, hfolders _ (by decide +kernel), hfolders _ (by decide +kernel),
    by decide +kernel, .cons hround (.nil _), rfl⟩

end

end NoteTemplate
