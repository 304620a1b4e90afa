import NoteTemplate.Creation.Note
import NoteTemplate.Proofs.Counter.Place
import NoteTemplate.Proofs.Vault.TemplateText

/-!
# The next number

A plan takes the number that follows those of the notes in the folder.  When the note of the
plan has been created, the next plan takes a greater one exactly when a note of the folder is
read back with the number that was given out, or a greater one.
-/

namespace NoteTemplate

open NoteTemplate.Action

variable {vault : Vault} {settings : DateTimeSettings} {template : Template} {given : Option Text}
  {current pattern folder : Text} {before after session : Session} {plan : CreationPlan}
  {number : Int} {found : CounterPattern}

/-! ### Numbers in use -/

/-- With more numbers in use the next one is greater when one of them is in the way. -/
theorem nextNumber_lt_iff {start : Int} {numbers more : List Nat}
    (hmore : ∀ number ∈ numbers, number ∈ more) :
    nextNumber start numbers < nextNumber start more ↔
      ∃ number ∈ more, nextNumber start numbers ≤ (number : Int) := by
  constructor
  · intro hlt
    cases more with
    | nil =>
      obtain rfl : numbers = [] := List.eq_nil_iff_forall_not_mem.2 fun number hnumber =>
        List.not_mem_nil (hmore number hnumber)
      exact absurd hlt (Int.lt_irrefl _)
    | cons first rest =>
      have hgreatest : rest.foldl max first ∈ first :: rest := List.max?_mem List.max?_cons'
      refine ⟨_, hgreatest, ?_⟩
      rw [nextNumber.eq_def start (first :: rest)] at hlt
      exact Int.le_of_lt_add_one hlt
  · rintro ⟨number, hnumber, hle⟩
    exact Int.lt_of_le_of_lt hle (lt_nextNumber hnumber)

theorem nextNumber_of_greatest {start : Int} {numbers : List Nat} {greatest : Nat}
    (hmem : greatest ∈ numbers) (hall : ∀ number ∈ numbers, number ≤ greatest) :
    nextNumber start numbers = greatest + 1 := by
  cases numbers with
  | nil => cases hmem
  | cons first rest =>
    have hmax : rest.foldl max first = greatest :=
      Option.some.inj (List.max?_cons'.symm.trans (List.max?_eq_some_iff.2 ⟨hmem, hall⟩))
    rw [nextNumber, hmax]

theorem nextNumber_nonneg {start : Int} (hstart : 0 ≤ start) (numbers : List Nat) :
    0 ≤ nextNumber start numbers := by
  cases numbers with
  | nil => exact hstart
  | cons first rest =>
    rw [nextNumber]
    omega

/-- A note is counted by its name. -/
theorem counterOf?_notePath {filename : Text} (hname : IsNoteName filename)
    (found : CounterPattern) :
    found.counterOf? ⟨notePath folder filename, false⟩ = found.pattern.counterIn? filename := by
  rw [CounterPattern.counterOf?, extension_notePath hname, basename_notePath hname]
  rfl

theorem exists_of_hasCounter (hcounter : hasCounter pattern = true)
    {built : Option CounterPattern} (hbuilt : counterPattern? settings pattern = .ok built) :
    ∃ found, built = some found := by
  rw [hasCounter_eq] at hcounter
  obtain ⟨⟨front, behind⟩, hcut⟩ := Option.isSome_iff_exists.1 hcounter
  cases built with
  | some found => exact ⟨found, rfl⟩
  | none =>
    simp only [counterPattern?, hcut] at hbuilt
    split at hbuilt
    · simp at hbuilt
    · simp at hbuilt
    · simp at hbuilt
    · cases hparts : partsPattern settings pattern with
      | error failure => simp [hparts, bind, Except.bind] at hbuilt
      | ok parts => simp [hparts, bind, Except.bind, pure, Except.pure] at hbuilt

namespace Vault

/-- The numbers of the notes in a folder, as they are read back from their names. -/
def numbersIn (vault : Vault) (session : Session) (folder : Text) (found : CounterPattern) :
    List Nat :=
  (vault.entriesIn session folder).filterMap found.counterOf?

theorem numbersIn_congr {other : Session} (h : session.SameDisk other) :
    vault.numbersIn other folder found = vault.numbersIn session folder found := by
  rw [numbersIn, numbersIn, entriesIn, entriesIn, h.tree, h.here]

theorem hasFolderAt_congr {other : Session} (h : session.SameDisk other)
    (hfolder : vault.HasFolderAt session folder) : vault.HasFolderAt other folder := by
  rw [HasFolderAt, h.tree, h.here]
  exact hfolder

theorem looksInto_congr {other : Session} (h : session.SameDisk other)
    (hlooks : vault.LooksInto session folder) : vault.LooksInto other folder := by
  rw [LooksInto, h.tree, h.here]
  exact hlooks

theorem gives_counterValues [Styling] {numbers : List Nat} (hcounter : hasCounter pattern = true)
    (h : (vault.counterValues settings pattern folder).Gives before numbers after) :
    before.SameDisk after ∧ vault.Admits before.here folder ∧ vault.LooksInto before folder ∧
      ∃ found, counterPattern? settings pattern = .ok (some found) ∧
        numbers = vault.numbersIn before folder found := by
  rw [counterValues] at h
  obtain ⟨built, session, hbuilt, hrest⟩ := gives_bind_iff.1 h
  obtain ⟨hbuilt, hsession⟩ := gives_ofExcept_iff.1 hbuilt
  obtain ⟨found, rfl⟩ := exists_of_hasCounter hcounter hbuilt
  rw [hsession] at hrest
  obtain ⟨_, _, hcontains, hrest⟩ := gives_bind_iff.1 hrest
  obtain ⟨⟨hadmits, -⟩, hthere, hsession⟩ := gives_contains_iff.1 hcontains
  rw [hthere, hsession] at hrest
  obtain ⟨_, _, hfolder, hrest⟩ := gives_bind_iff.1 hrest
  obtain ⟨-, hisFolder, hsession⟩ := gives_hasFolder_iff.1 hfolder
  rw [hisFolder, hsession] at hrest
  by_cases hfolderAt : vault.HasFolderAt before folder
  · rw [if_pos ((isFolder_nodeIn_iff hadmits).2 hfolderAt)] at hrest
    obtain ⟨entries, _, hentries, hpure⟩ := gives_bind_iff.1 hrest
    obtain ⟨hlooks, rfl, hsession⟩ := (gives_children hadmits hfolderAt).1 hentries
    obtain ⟨rfl, hafter⟩ := gives_pure_iff.1 hpure
    rw [hafter, hsession]
    exact ⟨.refl _, hadmits, hlooks, found, hbuilt, rfl⟩
  · rw [if_neg (mt (isFolder_nodeIn_iff hadmits).1 hfolderAt)] at hrest
    obtain ⟨_, _, hnotice, hpure⟩ := gives_bind_iff.1 hrest
    obtain ⟨rfl, rfl⟩ := gives_pure_iff.1 hpure
    refine ⟨(onlyReads_notice _ hnotice).1, hadmits,
      fun place hplace => absurd ⟨place, hplace⟩ hfolderAt, found, hbuilt, ?_⟩
    rw [numbersIn, entriesIn_of_not_hasFolderAt hfolderAt]
    rfl

theorem gives_counterValues_of_hasFolderAt [Styling]
    (hfound : counterPattern? settings pattern = .ok (some found))
    (hadmits : vault.Admits before.here folder) (hfolder : vault.HasFolderAt before folder)
    (hlooks : vault.LooksInto before folder) :
    (vault.counterValues settings pattern folder).Gives before
      (vault.numbersIn before folder found) before := by
  obtain ⟨place, hplace⟩ := hfolder
  have hreaches := hadmits.reaches_of_located hplace
  have hfolder : vault.HasFolderAt before folder := ⟨place, hplace⟩
  rw [counterValues]
  refine gives_bind_iff.2 ⟨_, before, gives_ofExcept_iff.2 ⟨hfound, rfl⟩, ?_⟩
  refine gives_bind_iff.2 ⟨_, before, hreaches.gives_contains, ?_⟩
  refine gives_bind_iff.2 ⟨_, before, hreaches.gives_hasFolder, ?_⟩
  rw [if_pos ((isFolder_nodeIn_iff hadmits).2 hfolder)]
  exact gives_bind_iff.2 ⟨_, before, (gives_children hadmits hfolder).2 ⟨hlooks, rfl, rfl⟩,
    gives_pure_iff.2 ⟨rfl, rfl⟩⟩

theorem gives_nextCounter [Styling] {start : Int} (hcounter : hasCounter pattern = true)
    (h : (vault.nextCounter settings start pattern folder).Gives before number after) :
    before.SameDisk after ∧ vault.Admits before.here folder ∧ vault.LooksInto before folder ∧
      ∃ found, counterPattern? settings pattern = .ok (some found) ∧
        number = nextNumber start (vault.numbersIn before folder found) := by
  rw [nextCounter, if_pos hcounter] at h
  obtain ⟨numbers, _, hnumbers, hpure⟩ := gives_bind_iff.1 h
  obtain ⟨rfl, rfl⟩ := gives_pure_iff.1 hpure
  obtain ⟨hsame, hadmits, hlooks, found, hfound, rfl⟩ := gives_counterValues hcounter hnumbers
  exact ⟨hsame, hadmits, hlooks, found, hfound, rfl⟩

/-- A plan has read the text of its template, and then looked for its number. -/
theorem of_gives_planNote [Styling]
    (h : (vault.planNote settings template given current).Gives before plan after) :
    plan.folder = template.targetFolder given current ∧
      (∃ text middle later, before.SameDisk middle ∧
        (vault.startingText? template.fileTemplate).Gives middle text later) ∧
      ∃ middle, before.SameDisk middle ∧
        (hasCounter template.titlePattern = true → ∃ value, plan.counter = some value ∧
          (vault.nextCounter settings template.counterStart template.titlePattern
            plan.folder).Gives middle value after) ∧
        (hasCounter template.titlePattern = false → plan.counter = none) := by
  rw [planNote] at h
  obtain ⟨_, first, hprompts, h⟩ := gives_bind_iff.1 h
  obtain ⟨-, hfirst⟩ := gives_numbered_iff.1 hprompts
  obtain ⟨text, second, htext, h⟩ := gives_bind_iff.1 h
  obtain ⟨_, third, hprompts, h⟩ := gives_bind_iff.1 h
  obtain ⟨-, hthird⟩ := gives_numbered_iff.1 hprompts
  have hbeforeFirst : before.SameDisk first := by
    rw [hfirst]
    exact ⟨rfl, rfl⟩
  have hbeforeThird : before.SameDisk third := by
    rw [hthird]
    exact (hbeforeFirst.trans (onlyReads_startingText? _ htext).1).trans ⟨rfl, rfl⟩
  have hread : ∃ text middle later, before.SameDisk middle ∧
      (vault.startingText? template.fileTemplate).Gives middle text later :=
    ⟨text, first, second, hbeforeFirst, htext⟩
  split at h
  · next hcounter =>
    obtain ⟨counter, fourth, hmap, hpure⟩ := gives_bind_iff.1 h
    obtain ⟨rfl, rfl⟩ := gives_pure_iff.1 hpure
    obtain ⟨value, hvalue, hsome⟩ := (gives_map_iff _).1 hmap
    exact ⟨rfl, hread, third, hbeforeThird, fun _ => ⟨value, hsome, hvalue⟩, by simp [hcounter]⟩
  · next hcounter =>
    obtain ⟨counter, fourth, hnone, hpure⟩ := gives_bind_iff.1 h
    obtain ⟨rfl, rfl⟩ := gives_pure_iff.1 hpure
    exact ⟨rfl, hread, third, hbeforeThird, fun hsome => absurd hsome hcounter,
      fun _ => (gives_pure_iff.1 hnone).1⟩

theorem template_of_planNote [Styling]
    (h : (vault.planNote settings template given current).Gives before plan after) :
    plan.template = template := by
  rw [planNote] at h
  obtain ⟨_, _, -, h⟩ := gives_bind_iff.1 h
  obtain ⟨_, _, -, h⟩ := gives_bind_iff.1 h
  obtain ⟨_, _, -, h⟩ := gives_bind_iff.1 h
  split at h <;>
  · obtain ⟨_, _, -, hpure⟩ := gives_bind_iff.1 h
    rw [(gives_pure_iff.1 hpure).1]

theorem hasCounter_of_planNote [Styling]
    (h : (vault.planNote settings template given current).Gives before plan after)
    (hnumber : plan.counter = some number) : hasCounter template.titlePattern = true := by
  obtain ⟨-, -, middle, -, -, hnone⟩ := of_gives_planNote h
  by_contra hcounter
  rw [hnone (eq_false_of_ne_true hcounter)] at hnumber
  cases hnumber

/-- The number of a plan follows those of the notes in its folder. -/
theorem counter_of_planNote [Styling]
    (h : (vault.planNote settings template given current).Gives before plan after)
    (hcounter : hasCounter template.titlePattern = true) :
    before.SameDisk after ∧ vault.Admits before.here plan.folder ∧
      vault.LooksInto before plan.folder ∧
      ∃ found, counterPattern? settings template.titlePattern = .ok (some found) ∧
        plan.counter = some (nextNumber template.counterStart
          (vault.numbersIn before plan.folder found)) := by
  obtain ⟨-, -, middle, hmiddle, hsome, -⟩ := of_gives_planNote h
  obtain ⟨value, hplanned, hvalue⟩ := hsome hcounter
  obtain ⟨hsame, hadmits, hlooks, found, hfound, rfl⟩ := gives_nextCounter hcounter hvalue
  rw [hmiddle.here] at hadmits
  rw [numbersIn_congr hmiddle] at hplanned
  exact ⟨hmiddle.trans hsame, hadmits, looksInto_congr hmiddle.symm hlooks, found, hfound,
    hplanned⟩

/-- A plan is made where its folder can be listed and the text of its template can be read. -/
theorem exists_gives_planNote [Styling] (hcounter : hasCounter template.titlePattern = true)
    (hfound : counterPattern? settings template.titlePattern = .ok (some found))
    (hadmits : vault.Admits before.here (template.targetFolder given current))
    (hfolder : vault.HasFolderAt before (template.targetFolder given current))
    (hlooks : vault.LooksInto before (template.targetFolder given current))
    (htext : ∃ text later, (vault.startingText? template.fileTemplate).Gives before text later) :
    ∃ plan after, (vault.planNote settings template given current).Gives before plan after := by
  obtain ⟨text, _, htext⟩ := htext
  obtain ⟨prompts, first, hprompts⟩ : ∃ prompts first,
      (Action.numbered fun next => syncPrompts next template.titlePattern template.prompts).Gives
        before prompts first := ⟨_, _, gives_numbered_iff.2 ⟨rfl, rfl⟩⟩
  have hfirst : before.SameDisk first := by
    rw [(gives_numbered_iff.1 hprompts).2]
    exact ⟨rfl, rfl⟩
  obtain ⟨second, htext⟩ := (onlyReads_startingText? _ htext).2 first hfirst
  have hsecond : before.SameDisk second := hfirst.trans (onlyReads_startingText? _ htext).1
  obtain ⟨notePrompts, third, hnotePrompts⟩ : ∃ prompts third,
      (Action.numbered fun next => extractNotePrompts next (text.getD [])).Gives
        second prompts third := ⟨_, _, gives_numbered_iff.2 ⟨rfl, rfl⟩⟩
  have hthird : before.SameDisk third := by
    rw [(gives_numbered_iff.1 hnotePrompts).2]
    exact hsecond.trans ⟨rfl, rfl⟩
  obtain ⟨number, hnumber⟩ : ∃ number, (vault.nextCounter settings template.counterStart
      template.titlePattern (template.targetFolder given current)).Gives third number third := by
    rw [nextCounter, if_pos hcounter]
    have hnumbers := gives_counterValues_of_hasFolderAt hfound (hthird.here.symm ▸ hadmits)
      (hasFolderAt_congr hthird hfolder) (looksInto_congr hthird hlooks)
    exact ⟨_, gives_bind_iff.2 ⟨_, _, hnumbers, gives_pure_iff.2 ⟨rfl, rfl⟩⟩⟩
  refine ⟨⟨template, template.targetFolder given current, some number, prompts, notePrompts, text⟩,
    third, ?_⟩
  rw [planNote]
  refine gives_bind_iff.2 ⟨_, _, hprompts, gives_bind_iff.2 ⟨_, _, htext,
    gives_bind_iff.2 ⟨_, _, hnotePrompts, ?_⟩⟩⟩
  rw [if_pos hcounter]
  exact gives_bind_iff.2
    ⟨_, third, (gives_map_iff _).2 ⟨number, hnumber, rfl⟩, gives_pure_iff.2 ⟨rfl, rfl⟩⟩

end Vault

end NoteTemplate
