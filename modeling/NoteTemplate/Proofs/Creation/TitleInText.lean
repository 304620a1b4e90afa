import NoteTemplate.Proofs.Creation.LeftBehind
import NoteTemplate.Proofs.Creation.NoteText
import NoteTemplate.Proofs.Settings.Settled

/-!
# The title in the text of a note

The prompts of a note are filled first, and then its variables, among them the title: every tag
that names it becomes the title for which the note is created.  The note itself has that name,
if the name is free and the title is not empty; a note without a title is called by another name,
which its text does not have.
-/

namespace NoteTemplate

open NoteTemplate.Action

variable [LocalZone] {context : RenderContext} {plan : CreationPlan} {settings : DateTimeSettings}
  {moment : Moment} {titleValues noteValues values : PromptValues} {text content title : Text}

/-! ### Filling variables -/

/-- A text with tags replaced, every one with a value by its value. -/
structure FillsWith (context : RenderContext) (text content : Text)
    (replaced : List (Span Nat × Text)) : Prop where
  eq : content = Text.replaceSpans replaced text
  ordered : (replaced.map Prod.fst).Sublist ((variableTags text).map Occurrence.span)
  mem : ∀ found ∈ variableTags text, ∀ value,
    context.renderTag found.value = .ok (some value) → (found.span, value) ∈ replaced

/-- The tags of a list that are replaced, in the order of the list: every one with a value. -/
theorem renderedTags_of_filterMapM {tags : List (Occurrence VariableTag)}
    {replaced : List (Span Nat × Text)}
    (h : (tags.filterMapM fun found => do
      return (← context.renderTag found.value).map fun value => (found.span, value)) =
        (Except.ok replaced : Except Failure _)) :
    (replaced.map Prod.fst).Sublist (tags.map Occurrence.span) ∧
      ∀ found ∈ tags, ∀ value, context.renderTag found.value = .ok (some value) →
        (found.span, value) ∈ replaced := by
  induction tags generalizing replaced with
  | nil =>
    obtain rfl := Except.ok.inj h
    exact ⟨.slnil, fun found hfound => absurd hfound List.not_mem_nil⟩
  | cons found tags ih =>
    rw [List.filterMapM_cons] at h
    obtain ⟨shown, hshown, h⟩ := bind_eq_ok_iff.1 h
    obtain ⟨value, hvalue, heq⟩ := bind_eq_ok_iff.1 hshown
    obtain rfl := Except.ok.inj heq
    cases value with
    | none =>
      obtain ⟨hspans, hmem⟩ := ih h
      refine ⟨hspans.cons _, fun other hother value hrender => ?_⟩
      rcases List.mem_cons.1 hother with rfl | hother
      · rw [hvalue] at hrender
        cases hrender
      · exact hmem other hother value hrender
    | some value =>
      obtain ⟨more, hmore, heq⟩ := bind_eq_ok_iff.1 h
      obtain rfl := Except.ok.inj heq
      obtain ⟨hspans, hmem⟩ := ih hmore
      refine ⟨hspans.cons_cons _, fun other hother shown hrender => ?_⟩
      rcases List.mem_cons.1 hother with rfl | hother
      · rw [hvalue] at hrender
        obtain rfl := Option.some.inj (Except.ok.inj hrender)
        exact List.mem_cons_self
      · exact List.mem_cons_of_mem _ (hmem other hother shown hrender)

/-- A variable with a value in a text is replaced by it. -/
theorem exists_fillsWith (h : fillVariables context text = .ok content) :
    ∃ replaced, FillsWith context text content replaced := by
  rw [fillVariables] at h
  obtain ⟨replaced, hreplaced, heq⟩ := bind_eq_ok_iff.1 h
  obtain ⟨hspans, hmem⟩ := renderedTags_of_filterMapM hreplaced
  exact ⟨replaced, (Except.ok.inj heq).symm, hspans, hmem⟩

/-- Does the tag name the title? -/
def VariableTag.NamesTitle (tag : VariableTag) : Prop :=
  Variable.ofName? (Text.lower tag.name) = some .title

theorem VariableTag.NamesTitle.renderTag_eq {tag : VariableTag} (h : tag.NamesTitle)
    (hplace : context.place = .note (some title)) :
    context.renderTag tag = .ok (some title) := by
  rw [RenderContext.renderTag, RenderContext.renderNamed, h]
  simp only [RenderContext.render, hplace]

/-! ### The text of a note -/

/-- The content is the text with its variables filled, and every tag that names the title is
replaced by this title. -/
def InsertsTitle (title text content : Text) : Prop :=
  ∃ replaced : List (Span Nat × Text), content = Text.replaceSpans replaced text ∧
    (replaced.map Prod.fst).Sublist ((variableTags text).map Occurrence.span) ∧
    ∀ found ∈ variableTags text, found.value.NamesTitle → (found.span, title) ∈ replaced

/-- The text of a note with its prompts filled, before its variables are. -/
def CreationPlan.promptedText (plan : CreationPlan) (moment : Moment) (values : PromptValues) :
    Except Failure Text :=
  match plan.content with
  | none | some [] => .ok []
  | some content => do
    let shown ← shownValues moment values plan.notePrompts
    return fillNote plan.notePrompts shown content

theorem CreationPlan.noteText_eq_bind (plan : CreationPlan) (title : Option Text)
    (settings : DateTimeSettings) (moment : Moment) (values : PromptValues) :
    plan.noteText title settings moment values = plan.promptedText moment values >>=
      fillVariables ⟨settings, moment.now, plan.counter, .note title⟩ := by
  rw [noteText, promptedText]
  cases plan.content with
  | none => rfl
  | some content =>
    cases content with
    | nil => rfl
    | cons c rest =>
      dsimp only
      rw [bind_assoc]
      rfl

theorem CreationPlan.exists_insertsTitle
    (h : plan.noteText (some title) settings moment values = .ok content) :
    ∃ text, plan.promptedText moment values = .ok text ∧ InsertsTitle title text content := by
  rw [noteText_eq_bind] at h
  obtain ⟨text, htext, hfilled⟩ := bind_eq_ok_iff.1 h
  obtain ⟨replaced, hreplaced⟩ := exists_fillsWith hfilled
  refine ⟨text, htext, replaced, hreplaced.eq, hreplaced.ordered, fun found hfound hnames => ?_⟩
  exact hreplaced.mem found hfound title (hnames.renderTag_eq rfl)

/-! ### The name of the note -/

namespace Vault

variable {vault : Vault} {folder : Text} {before after : Session} {note : CreatedNote}

omit [LocalZone] in
theorem exists_create_of_createNote
    (h : (vault.createNote folder title content).Gives before note after) :
    (∃ middle, (vault.create note.path content).Gives middle ⟨⟩ after) ∧
      (note.conflictResolved = false ↔ note.filename = noteName (cleanFilename title)) := by
  rw [createNote] at h
  obtain ⟨_, _, -, h⟩ := gives_bind_iff.1 h
  obtain ⟨filename, _, -, h⟩ := gives_bind_iff.1 h
  obtain ⟨_, _, hcreated, hdone⟩ := gives_bind_iff.1 h
  obtain ⟨rfl, rfl⟩ := gives_pure_iff.1 hdone
  refine ⟨⟨_, hcreated⟩, ?_⟩
  rw [decide_eq_false_iff_not, not_not]
  rfl

omit [LocalZone] in
theorem noteName_eq_self_iff : noteName title = title ↔ title ≠ [] := by
  cases title with
  | nil => decide
  | cons c rest => simp [noteName]

/-- One title is put into the text of a planned note, and it names the note, which has another
name when the title is empty. -/
theorem exists_title_of_createPlanned
    (h : (vault.createPlanned plan settings moment titleValues noteValues).Gives before note
      after) :
    ∃ title text content, plan.filename settings moment titleValues = .ok title ∧
      plan.promptedText moment noteValues = .ok text ∧ InsertsTitle title text content ∧
      vault.nodeIn after note.path = some (.file (.text content)) ∧
      (note.conflictResolved = false ↔ note.filename = noteName title) := by
  rw [createPlanned] at h
  obtain ⟨title, _, htitle, h⟩ := gives_bind_iff.1 h
  obtain ⟨htitle, -⟩ := gives_ofExcept_iff.1 htitle
  obtain ⟨content, _, hcontent, hcreate⟩ := gives_bind_iff.1 h
  obtain ⟨hcontent, -⟩ := gives_ofExcept_iff.1 hcontent
  obtain ⟨text, htext, hinserts⟩ := CreationPlan.exists_insertsTitle hcontent
  obtain ⟨⟨middle, hcreated⟩, hname⟩ := exists_create_of_createNote hcreate
  rw [CreationPlan.cleanFilename_filename htitle] at hname
  exact ⟨title, text, content, htitle, htext, hinserts, nodeIn_of_create hcreated, hname⟩

end Vault

end NoteTemplate
