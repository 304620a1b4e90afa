import NoteTemplate.Disk.Session
import NoteTemplate.Proofs.Disk.NewFile

/-!
# Running an action

An action gives a result and leaves a session, or it fails.  An action that only reads leaves
the disk and the working folder as they are, and it succeeds again wherever these are the
same.
-/

namespace NoteTemplate

variable {α β : Type}

namespace Action

variable {action : Action α} {next : α → Action β} {before after : Session}
  {value : α} {result : β}

/-- Run an action on a session. -/
def outcome (action : Action α) (session : Session) : Except Failure α × Session :=
  action.run.run session

/-- The action has this result and leaves this session. -/
def Gives (action : Action α) (before : Session) (value : α) (after : Session) : Prop :=
  action.outcome before = (.ok value, after)

theorem gives_of_fst_eq (h : (action.outcome before).1 = .ok value) :
    action.Gives before value (action.outcome before).2 := by
  rw [Gives, ← h]

theorem gives_pure_iff {given : α} :
    Gives (pure given) before value after ↔ value = given ∧ after = before := by
  have hrun : outcome (pure given) before = (.ok given, before) := rfl
  rw [Gives, hrun]
  simp [eq_comm]

theorem gives_throw_iff {failure : Failure} :
    ¬ Gives (throw failure : Action α) before value after := by
  have hrun : outcome (throw failure : Action α) before = (.error failure, before) := rfl
  rw [Gives, hrun]
  simp

theorem outcome_bind (action : Action α) (next : α → Action β) (before : Session) :
    (action >>= next).outcome before =
      match action.outcome before with
      | (.ok value, middle) => (next value).outcome middle
      | (.error failure, middle) => (.error failure, middle) := by
  rw [outcome, ExceptT.run_bind, StateT.run_bind]
  unfold outcome
  cases StateT.run (ExceptT.run action) before with
  | mk first middle => cases first <;> rfl

theorem outcome_ofExcept (given : Except Failure α) (before : Session) :
    (ofExcept given).outcome before = (given, before) := by
  cases given <;> rfl

theorem outcome_tryCatch (action : Action α) (handler : Failure → Action α) (before : Session) :
    (tryCatch action handler).outcome before =
      match action.outcome before with
      | (.ok value, middle) => (.ok value, middle)
      | (.error failure, middle) => (handler failure).outcome middle := by
  unfold outcome
  simp only [tryCatch, tryCatchThe, MonadExceptOf.tryCatch]
  rw [ExceptT.tryCatch, ExceptT.run_mk, StateT.run_bind]
  unfold ExceptT.run
  cases StateT.run action before with
  | mk result middle => cases result <;> rfl

theorem gives_bind_iff :
    (action >>= next).Gives before result after ↔
      ∃ value middle,
        action.Gives before value middle ∧ (next value).Gives middle result after := by
  rw [Gives, outcome_bind]
  unfold Gives
  cases action.outcome before with
  | mk first middle =>
    cases first with
    | error failure => simp
    | ok found =>
      constructor
      · intro h
        exact ⟨found, middle, rfl, h⟩
      · rintro ⟨_, _, ⟨⟩, h⟩
        exact h

theorem gives_map_iff (f : α → β) :
    (f <$> action).Gives before result after ↔
      ∃ value, action.Gives before value after ∧ result = f value := by
  rw [map_eq_pure_bind, gives_bind_iff]
  constructor
  · rintro ⟨value, _, hvalue, hpure⟩
    obtain ⟨rfl, rfl⟩ := gives_pure_iff.1 hpure
    exact ⟨value, hvalue, rfl⟩
  · rintro ⟨value, hvalue, rfl⟩
    exact ⟨value, after, hvalue, gives_pure_iff.2 ⟨rfl, rfl⟩⟩

theorem gives_get_iff {session : Session} :
    Gives get before session after ↔ session = before ∧ after = before := by
  have hrun : outcome get before = (.ok before, before) := rfl
  rw [Gives, hrun]
  simp [eq_comm]

theorem gives_get (session : Session) : Gives get session session session :=
  gives_get_iff.2 ⟨rfl, rfl⟩

theorem gives_modify_iff {change : Session → Session} {done : PUnit} :
    Gives (modify change) before done after ↔ after = change before := by
  have hrun : outcome (modify change) before = (.ok ⟨⟩, change before) := rfl
  rw [Gives, hrun]
  simp [eq_comm]

theorem gives_ofExcept_iff {given : Except Failure α} :
    Gives (ofExcept given) before value after ↔ given = .ok value ∧ after = before := by
  rw [Gives, outcome_ofExcept]
  simp [eq_comm]

theorem gives_numbered_iff {extract : Nat → Numbered α} :
    (numbered extract).Gives before value after ↔
      value = (extract before.nextPrompt).1 ∧
        after = { before with nextPrompt := (extract before.nextPrompt).2 } := by
  rw [numbered]
  simp only [gives_bind_iff, gives_get_iff, gives_modify_iff, gives_pure_iff]
  constructor
  · rintro ⟨_, _, ⟨rfl, rfl⟩, _, _, rfl, rfl, rfl⟩
    exact ⟨rfl, rfl⟩
  · rintro ⟨rfl, rfl⟩
    exact ⟨_, _, ⟨rfl, rfl⟩, ⟨⟩, _, rfl, rfl, rfl⟩

theorem gives_checkPath_iff {path : DiskPath} {done : Unit} :
    (checkPath path).Gives before done after ↔ path.hasNull = false ∧ after = before := by
  rw [checkPath]
  cases path.hasNull with
  | true => simpa using gives_throw_iff
  | false =>
    rw [if_neg (by decide), gives_pure_iff]
    simp

theorem gives_locate_iff {path : DiskPath} {found : Except SystemError Location} :
    (locate path).Gives before found after ↔
      path.hasNull = false ∧ found = before.tree.locate before.here path ∧ after = before := by
  rw [locate]
  simp only [gives_bind_iff, gives_checkPath_iff, gives_get_iff, gives_pure_iff]
  constructor
  · rintro ⟨_, _, ⟨hnull, rfl⟩, _, _, ⟨rfl, rfl⟩, rfl, rfl⟩
    exact ⟨hnull, rfl, rfl⟩
  · rintro ⟨hnull, rfl, rfl⟩
    exact ⟨⟨⟩, _, ⟨hnull, rfl⟩, _, _, ⟨rfl, rfl⟩, rfl, rfl⟩

theorem gives_node?_iff {path : DiskPath} {found : Option DiskNode} :
    (node? path).Gives before found after ↔ ¬before.tree.IsTooLong before.here path ∧
      found = before.tree.node? before.here path ∧ after = before := by
  rw [node?, DiskTree.node?_eq, DiskTree.IsTooLong]
  split
  · next hnull => simp [gives_pure_iff, hnull]
  · next hnull =>
    have hfalse : path.hasNull = false := Bool.eq_false_iff.2 hnull
    simp only [gives_bind_iff, gives_locate_iff, hfalse, true_and]
    constructor
    · rintro ⟨_, _, ⟨rfl, rfl⟩, h⟩
      split at h
      · next hlocate => simpa [hlocate, DiskTree.nodeAt] using gives_pure_iff.1 h
      · exact absurd h gives_throw_iff
      · next hfound htooLong =>
        obtain ⟨rfl, rfl⟩ := gives_pure_iff.1 h
        refine ⟨htooLong, ?_, rfl⟩
        rw [DiskTree.nodeAt]
        exact hfound
    · rintro ⟨htooLong, rfl, rfl⟩
      refine ⟨_, _, ⟨rfl, rfl⟩, ?_⟩
      split
      · next hlocate => simp [hlocate, DiskTree.nodeAt, gives_pure_iff]
      · next hlocate => exact absurd hlocate htooLong
      · next hfound _ =>
        refine gives_pure_iff.2 ⟨?_, rfl⟩
        rw [DiskTree.nodeAt]
        exact hfound

theorem gives_children_iff {path : DiskPath} {place : List Text} (hnull : path.hasNull = false)
    (hplace : before.tree.locate before.here path = .ok (.found place .folder))
    {found : List (Text × DiskNode)} :
    (children path).Gives before found after ↔
      found = before.tree.children place ∧ after = before := by
  rw [children]
  simp only [gives_bind_iff, gives_locate_iff]
  constructor
  · rintro ⟨_, _, ⟨-, rfl, rfl⟩, hfound⟩
    rw [hplace] at hfound
    obtain ⟨_, _, hget, hpure⟩ := gives_bind_iff.1 hfound
    obtain ⟨rfl, rfl⟩ := gives_get_iff.1 hget
    exact gives_pure_iff.1 hpure
  · rintro ⟨rfl, rfl⟩
    refine ⟨_, _, ⟨hnull, rfl, rfl⟩, ?_⟩
    rw [hplace]
    exact gives_bind_iff.2 ⟨_, _, gives_get _, gives_pure_iff.2 ⟨rfl, rfl⟩⟩

theorem gives_checkLength_iff {path : DiskPath} {done : Unit} :
    (checkLength path).Gives before done after ↔
      before.tree.takesPath path = true ∧ after = before := by
  rw [checkLength]
  simp only [gives_bind_iff, gives_get_iff]
  constructor
  · rintro ⟨_, _, ⟨rfl, rfl⟩, h⟩
    split at h
    · next htakes => exact ⟨htakes, (gives_pure_iff.1 h).2⟩
    · exact absurd h gives_throw_iff
  · rintro ⟨htakes, rfl⟩
    refine ⟨_, _, ⟨rfl, rfl⟩, ?_⟩
    rw [if_pos htakes]
    exact gives_pure_iff.2 ⟨rfl, rfl⟩

theorem gives_forM_checkLength_iff {α : Type} {items : List α} {path : α → DiskPath}
    {done : Unit} :
    (items.forM fun item => checkLength (path item)).Gives before done after ↔
      (∀ item ∈ items, before.tree.takesPath (path item) = true) ∧ after = before := by
  rw [List.forM_eq_forM]
  induction items with
  | nil => simp [gives_pure_iff]
  | cons item items ih =>
    rw [List.forM_cons, gives_bind_iff, List.forall_mem_cons]
    simp only [gives_checkLength_iff]
    constructor
    · rintro ⟨_, _, ⟨htakes, rfl⟩, h⟩
      obtain ⟨hrest, hafter⟩ := ih.1 h
      exact ⟨⟨htakes, hrest⟩, hafter⟩
    · rintro ⟨⟨htakes, hrest⟩, hafter⟩
      exact ⟨⟨⟩, before, ⟨htakes, rfl⟩, ih.2 ⟨hrest, hafter⟩⟩

theorem gives_fillFile_iff {spot : List Text} {content : Text} {done : Unit} :
    (fillFile spot content).Gives before done after ↔
      before.tree.takesText content = true ∧
        after = { before with tree := before.tree.set spot (.file (.text content)) } := by
  rw [fillFile]
  simp only [gives_bind_iff, gives_get_iff]
  constructor
  · rintro ⟨_, _, ⟨rfl, rfl⟩, h⟩
    split at h
    · next htakes => exact ⟨htakes, gives_modify_iff.1 h⟩
    · obtain ⟨_, _, -, hthrow⟩ := gives_bind_iff.1 h
      exact absurd hthrow gives_throw_iff
  · rintro ⟨htakes, rfl⟩
    refine ⟨_, _, ⟨rfl, rfl⟩, ?_⟩
    rw [if_pos htakes]
    exact gives_modify_iff.2 rfl

theorem gives_createFile_iff {path : DiskPath} {content : Text} {done : Unit} :
    (createFile path content).Gives before done after ↔
      path.hasNull = false ∧ before.tree.takesText content = true ∧ ∃ spot,
        before.tree.locate before.here path = .ok (.vacant spot) ∧
          after = { before with tree := before.tree.set spot (.file (.text content)) } := by
  rw [createFile]
  simp only [gives_bind_iff, gives_locate_iff]
  constructor
  · rintro ⟨_, session, ⟨hnull, rfl, rfl⟩, h⟩
    refine ⟨hnull, ?_⟩
    cases hlocate : session.tree.locate session.here path with
    | error failure =>
      rw [hlocate] at h
      exact absurd h gives_throw_iff
    | ok location =>
      rw [hlocate] at h
      cases location with
      | found place node => exact absurd h gives_throw_iff
      | vacant spot =>
        obtain ⟨htakes, rfl⟩ := gives_fillFile_iff.1 h
        exact ⟨htakes, spot, rfl, rfl⟩
  · rintro ⟨hnull, htakes, spot, hspot, rfl⟩
    refine ⟨_, _, ⟨hnull, rfl, rfl⟩, ?_⟩
    rw [hspot]
    exact gives_fillFile_iff.2 ⟨htakes, rfl⟩

theorem gives_writeFile_iff {path : DiskPath} {content : Text} {done : Unit} :
    (writeFile path content).Gives before done after ↔
      path.hasNull = false ∧ before.tree.takesText content = true ∧ ∃ spot,
        (before.tree.locate before.here path = .ok (.vacant spot) ∨
          ∃ file, before.tree.locate before.here path = .ok (.found spot (.file file))) ∧
        after = { before with tree := before.tree.set spot (.file (.text content)) } := by
  rw [writeFile]
  simp only [gives_bind_iff, gives_locate_iff]
  constructor
  · rintro ⟨_, session, ⟨hnull, rfl, rfl⟩, h⟩
    refine ⟨hnull, ?_⟩
    cases hlocate : session.tree.locate session.here path with
    | error failure =>
      rw [hlocate] at h
      exact absurd h gives_throw_iff
    | ok location =>
      rw [hlocate] at h
      cases location with
      | vacant spot =>
        obtain ⟨htakes, rfl⟩ := gives_fillFile_iff.1 h
        exact ⟨htakes, spot, .inl rfl, rfl⟩
      | found spot node =>
        cases node with
        | folder => exact absurd h gives_throw_iff
        | file file =>
          obtain ⟨htakes, rfl⟩ := gives_fillFile_iff.1 h
          exact ⟨htakes, spot, .inr ⟨file, rfl⟩, rfl⟩
  · rintro ⟨hnull, htakes, spot, hspot, rfl⟩
    refine ⟨_, _, ⟨hnull, rfl, rfl⟩, ?_⟩
    rcases hspot with hspot | ⟨file, hspot⟩
    · rw [hspot]
      exact gives_fillFile_iff.2 ⟨htakes, rfl⟩
    · rw [hspot]
      exact gives_fillFile_iff.2 ⟨htakes, rfl⟩

section

variable [Styling]

theorem gives_notice_iff {message : Text} {done : Unit} :
    (notice message).Gives before done after ↔ Styling.refusal? message = none ∧
      after = { before with notices := before.notices ++ [message] } := by
  rw [notice]
  cases Styling.refusal? message with
  | some reason => simp [gives_throw_iff]
  | none => simp [gives_modify_iff]

/-- A notice that can be shown can be shown on every session. -/
theorem exists_gives_notice {message : Text} {done : Unit}
    (h : (notice message).Gives before done after) (other : Session) :
    ∃ later, (notice message).Gives other done later :=
  ⟨_, gives_notice_iff.2 ⟨(gives_notice_iff.1 h).1, rfl⟩⟩

end

end Action

/-! ### Reading -/

/-- Two sessions with the same disk and the same working folder. -/
structure Session.SameDisk (session other : Session) : Prop where
  tree : other.tree = session.tree
  here : other.here = session.here

theorem Session.SameDisk.refl (session : Session) : session.SameDisk session := ⟨rfl, rfl⟩

theorem Session.SameDisk.symm {session other : Session} (h : session.SameDisk other) :
    other.SameDisk session :=
  ⟨h.tree.symm, h.here.symm⟩

theorem Session.SameDisk.trans {first second third : Session} (h : first.SameDisk second)
    (h' : second.SameDisk third) : first.SameDisk third :=
  ⟨h'.tree.trans h.tree, h'.here.trans h.here⟩

namespace Action

variable {action : Action α} {next : α → Action β}

/-- The action leaves the disk as it is, and where the disk is the same it gives the same. -/
def OnlyReads (action : Action α) : Prop :=
  ∀ ⦃before value after⦄, action.Gives before value after → before.SameDisk after ∧
    ∀ other, before.SameDisk other → ∃ later, action.Gives other value later

theorem onlyReads_pure (value : α) : OnlyReads (pure value) := by
  intro before found after h
  obtain ⟨rfl, rfl⟩ := gives_pure_iff.1 h
  exact ⟨.refl _, fun other _ => ⟨other, gives_pure_iff.2 ⟨rfl, rfl⟩⟩⟩

theorem onlyReads_throw (failure : Failure) : OnlyReads (throw failure : Action α) := by
  intro before found after h
  exact absurd h gives_throw_iff

theorem OnlyReads.bind (haction : action.OnlyReads) (hnext : ∀ value, (next value).OnlyReads) :
    (action >>= next).OnlyReads := by
  intro before result after h
  obtain ⟨value, middle, hvalue, hresult⟩ := gives_bind_iff.1 h
  obtain ⟨hmiddle, hagain⟩ := haction hvalue
  obtain ⟨hafter, hagainNext⟩ := hnext value hresult
  refine ⟨hmiddle.trans hafter, ?_⟩
  intro other hother
  obtain ⟨between, hbetween⟩ := hagain other hother
  have hsame : middle.SameDisk between :=
    (hmiddle.symm.trans hother).trans (haction hbetween).1
  obtain ⟨later, hlater⟩ := hagainNext between hsame
  exact ⟨later, gives_bind_iff.2 ⟨value, between, hbetween, hlater⟩⟩

/-- The action leaves the working folder as it is. -/
def KeepsHere (action : Action α) : Prop :=
  ∀ ⦃before value after⦄, action.Gives before value after → after.here = before.here

theorem OnlyReads.keepsHere (h : action.OnlyReads) : action.KeepsHere :=
  fun _ _ _ hgives => (h hgives).1.here

theorem KeepsHere.bind (haction : action.KeepsHere) (hnext : ∀ value, (next value).KeepsHere) :
    (action >>= next).KeepsHere := by
  intro before result after h
  obtain ⟨value, middle, hvalue, hresult⟩ := gives_bind_iff.1 h
  exact (hnext value hresult).trans (haction hvalue)

theorem onlyReads_locate (path : DiskPath) : (locate path).OnlyReads := by
  intro before found after h
  obtain ⟨hnull, rfl, rfl⟩ := gives_locate_iff.1 h
  refine ⟨.refl _, fun other hother => ⟨other, gives_locate_iff.2 ⟨hnull, ?_, rfl⟩⟩⟩
  rw [hother.tree, hother.here]

theorem onlyReads_node? (path : DiskPath) : (node? path).OnlyReads := by
  intro before found after h
  obtain ⟨htooLong, rfl, rfl⟩ := gives_node?_iff.1 h
  refine ⟨.refl _, fun other hother => ⟨other, gives_node?_iff.2 ?_⟩⟩
  rw [hother.tree, hother.here]
  exact ⟨htooLong, rfl, rfl⟩

theorem keepsHere_place (spot : List Text) (node : DiskNode) : (place spot node).KeepsHere := by
  intro before done after h
  obtain rfl := gives_modify_iff.1 h
  rfl

theorem keepsHere_makeFolder (path : DiskPath) : (makeFolder path).KeepsHere := by
  apply (onlyReads_locate path).keepsHere.bind
  intro found
  rcases found with failure | location
  · exact (onlyReads_pure _).keepsHere
  · cases location with
    | found place node => exact (onlyReads_pure _).keepsHere
    | vacant spot =>
      exact (keepsHere_place spot .folder).bind fun _ => (onlyReads_pure _).keepsHere

theorem keepsHere_acceptFolder (path : DiskPath) (error : SystemError) :
    (acceptFolder path error).KeepsHere := by
  apply (onlyReads_node? path).keepsHere.bind
  intro found
  split
  · exact (onlyReads_pure _).keepsHere
  · exact (onlyReads_throw _).keepsHere

/-- Making folders leaves the working folder as it is. -/
theorem keepsHere_makeFoldersFrom (root : Text) (names : List Text) :
    (makeFoldersFrom root names).KeepsHere := by
  induction names with
  | nil => exact (onlyReads_pure _).keepsHere
  | cons name names ih =>
    apply (keepsHere_makeFolder _).bind
    intro first
    split
    · exact (onlyReads_pure _).keepsHere
    · apply ih.bind
      intro _
      apply (keepsHere_makeFolder _).bind
      intro second
      split
      · exact (onlyReads_pure _).keepsHere
      · exact (onlyReads_throw _).keepsHere
      · exact keepsHere_acceptFolder _ _
    · exact keepsHere_acceptFolder _ _

theorem onlyReads_notice [Styling] (message : Text) : (notice message).OnlyReads := by
  intro before done after h
  obtain ⟨-, rfl⟩ := gives_notice_iff.1 h
  exact ⟨⟨rfl, rfl⟩, fun other _ => exists_gives_notice h other⟩

end Action

end NoteTemplate
