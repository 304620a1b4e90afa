import NoteTemplate.Proofs.Disk.NewFolder

/-!
# Actions that fail, and ways on a disk

An action that fails may have changed something before it did.  What can keep folders from being
made is a file on the way to them, or a name that is too long for one of them.
-/

namespace NoteTemplate

variable {α β : Type}

/-! ### Failing -/

namespace Action

variable {action : Action α} {next : α → Action β} {before middle after : Session}
  {failure : Failure} {value : α} {path : DiskPath}

/-- The action fails and leaves this session. -/
def Fails (action : Action α) (before : Session) (failure : Failure) (after : Session) : Prop :=
  action.outcome before = (.error failure, after)

theorem fails_throw (failure : Failure) (before : Session) :
    (throw failure : Action α).Fails before failure before := rfl

theorem Fails.bind (h : action.Fails before failure after) (next : α → Action β) :
    (action >>= next).Fails before failure after := by
  have hrun : action.run.run before = (.error failure, after) := h
  rw [Fails, outcome, ExceptT.run_bind, StateT.run_bind, hrun]
  rfl

theorem Gives.bind_fails (h : action.Gives before value middle)
    (hnext : (next value).Fails middle failure after) :
    (action >>= next).Fails before failure after := by
  have hrun : action.run.run before = (.ok value, middle) := h
  rw [Fails, outcome, ExceptT.run_bind, StateT.run_bind, hrun]
  exact hnext

/-- What fails gives nothing. -/
theorem Fails.not_gives {other : Session} (h : action.Fails before failure after) :
    ¬action.Gives before value other := by
  rw [Gives, h]
  simp

theorem Gives.unique {again : α} {other : Session} (h : action.Gives before value after)
    (h' : action.Gives before again other) : again = value ∧ other = after := by
  rw [Gives, h] at h'
  obtain ⟨hvalue, hafter⟩ := Prod.mk.inj h'
  exact ⟨(Except.ok.inj hvalue).symm, hafter.symm⟩

theorem Fails.unique {again : Failure} {other : Session} (h : action.Fails before failure after)
    (h' : action.Fails before again other) : again = failure ∧ other = after := by
  rw [Fails, h] at h'
  obtain ⟨hfailure, hafter⟩ := Prod.mk.inj h'
  exact ⟨(Except.error.inj hfailure).symm, hafter.symm⟩

/-- The first path that is too long is refused. -/
theorem fails_forM_checkLength {items : List α} {path : α → DiskPath}
    (h : ∃ item ∈ items, before.tree.takesPath (path item) = false) :
    ∃ item ∈ items, before.tree.takesPath (path item) = false ∧
      (items.forM fun item => checkLength (path item)).Fails before
        (.system .nameTooLong (path item).text) before := by
  rw [List.forM_eq_forM]
  induction items with
  | nil => simp at h
  | cons item items ih =>
    rw [List.forM_cons]
    cases htakes : before.tree.takesPath (path item) with
    | false =>
      have hfails : (checkLength (path item)).Fails before
          (.system .nameTooLong (path item).text) before := by
        apply (gives_get before).bind_fails
        rw [htakes]
        exact fails_throw _ _
      exact ⟨item, List.mem_cons_self, htakes, hfails.bind _⟩
    | true =>
      have hrest : ∃ item ∈ items, before.tree.takesPath (path item) = false := by
        simpa [htakes] using h
      obtain ⟨other, hother, htooLong, hfails⟩ := ih hrest
      have hgives : (checkLength (path item)).Gives before ⟨⟩ before :=
        gives_checkLength_iff.2 ⟨htakes, rfl⟩
      exact ⟨other, List.mem_cons_of_mem _ hother, htooLong, hgives.bind_fails hfails⟩

theorem fails_checkPath (hnull : path.hasNull = true) :
    (checkPath path).Fails before .nullInPath before := by
  rw [checkPath, if_pos hnull]
  exact fails_throw _ _

theorem gives_node?_of_found {place : List Text} {node : DiskNode} (hnull : path.hasNull = false)
    (hplace : before.tree.locate before.here path = .ok (.found place node)) :
    (node? path).Gives before (some node) before := by
  refine gives_node?_iff.2 ⟨fun htooLong => ?_, ?_, rfl⟩
  · rw [htooLong.2] at hplace
    cases hplace
  · rw [DiskTree.node?_eq, hnull, hplace]
    rfl

theorem gives_node?_of_some {node : DiskNode} (h : before.tree.node? before.here path = some node) :
    (node? path).Gives before (some node) before := by
  obtain ⟨hnull, place, hplace⟩ := DiskTree.exists_locate_of_node? h
  exact gives_node?_of_found hnull hplace

theorem fails_node? (h : before.tree.IsTooLong before.here path) :
    (node? path).Fails before (.system .nameTooLong path.text) before := by
  have hlocate : (locate path).Gives before (.error .nameTooLong) before :=
    gives_locate_iff.2 ⟨h.1, h.2.symm, rfl⟩
  rw [node?, if_neg (by simp [h.1])]
  exact hlocate.bind_fails (fails_throw _ _)

/-- A text that the disk does not take leaves an empty file. -/
theorem fails_fillFile {spot : List Text} {content : Text}
    (h : before.tree.takesText content = false) :
    (fillFile spot content).Fails before .unwritable
      { before with tree := before.tree.set spot (.file (.text [])) } := by
  refine (gives_get before).bind_fails ?_
  rw [if_neg (by simp [h])]
  exact (gives_modify_iff.2 rfl : Gives (modify _) before ⟨⟩ _).bind_fails (fails_throw _ _)

theorem gives_acceptFolder {place : List Text} {error : SystemError}
    (hnull : path.hasNull = false)
    (hplace : before.tree.locate before.here path = .ok (.found place .folder)) :
    (acceptFolder path error).Gives before ⟨⟩ before :=
  gives_bind_iff.2 ⟨_, _, gives_node?_of_found hnull hplace, gives_pure_iff.2 ⟨rfl, rfl⟩⟩

theorem fails_acceptFolder_of_file {place : List Text} {content : FileContent}
    {error : SystemError} (hnull : path.hasNull = false)
    (hplace : before.tree.locate before.here path = .ok (.found place (.file content))) :
    (acceptFolder path error).Fails before (.system error path.text) before :=
  (gives_node?_of_found hnull hplace).bind_fails (fails_throw _ _)

theorem fails_acceptFolder_of_error {error : SystemError} (hnull : path.hasNull = false)
    (hplace : before.tree.locate before.here path = .error error) :
    (acceptFolder path error).Fails before (.system error path.text) before := by
  by_cases htooLong : error = .nameTooLong
  · rw [htooLong] at hplace ⊢
    exact (fails_node? ⟨hnull, hplace⟩).bind _
  · have hnode : (node? path).Gives before none before := by
      refine gives_node?_iff.2 ⟨fun h => ?_, ?_, rfl⟩
      · exact htooLong (Except.error.inj (hplace.symm.trans h.2))
      · rw [DiskTree.node?_eq, hnull, hplace]
        rfl
    exact hnode.bind_fails (fails_throw _ _)

end Action

/-! ### Ways on a disk -/

namespace DiskTree

variable {tree other middle : DiskTree} {place spot start way : List Text}
  {front names : List Text} {name : Text} {node stands : DiskNode} {error : SystemError}

/-- A file stands on the way to the place, or at the place. -/
def IsBlocked (tree : DiskTree) (place : List Text) : Prop :=
  ∃ spot content, spot <+: place ∧ tree.get? spot = some (.file content)

/-- Behind `way` nothing stands on the way to the place, and the next name is too long. -/
def IsCutAt (tree : DiskTree) (way place : List Text) : Prop :=
  ∃ name, way ++ [name] <+: place ∧ tree.get? (way ++ [name]) = none ∧
    tree.takesPlace (way ++ [name]) = false

theorem get?_of_locateFrom (hnode : tree.get? start = some node)
    (h : tree.locateFrom start node names = .ok (.found place stands)) :
    tree.get? place = some stands := by
  induction names generalizing start node with
  | nil =>
    obtain ⟨rfl, rfl⟩ := Location.found.inj (Except.ok.inj h)
    exact hnode
  | cons name names ih =>
    cases node with
    | file content => simp [locateFrom, DiskNode.isFolder] at h
    | folder =>
      rw [locateFrom_cons] at h
      split at h
      · next next hnext => exact ih hnext h
      · exact absurd h missing_ne_found

/-- A file that is found stands there, wherever the path starts. -/
theorem get?_of_locateFrom_file {content : FileContent}
    (h : tree.locateFrom start .folder names = .ok (.found place (.file content))) :
    tree.get? place = some (.file content) := by
  cases names with
  | nil => cases h
  | cons name names =>
    rw [locateFrom_cons] at h
    split at h
    · next next hnext => exact get?_of_locateFrom hnext h
    · exact absurd h missing_ne_found

/-- Every folder on the way is there, and all else is as it was; no file was in the way. -/
structure FillsWay (way : List Text) (tree other : DiskTree) : Prop where
  system_eq : other.system = tree.system
  clear : ¬tree.IsBlocked way
  get?_eq : ∀ spot, other.get? spot = if spot <+: way then some .folder else tree.get? spot

namespace FillsWay

/-- Nothing is to be done for a folder that is there. -/
theorem refl (hgrounded : tree.IsGrounded) (hfolder : tree.get? place = some .folder) :
    FillsWay place tree tree := by
  have hway {spot : List Text} (hspot : spot <+: place) : tree.get? spot = some .folder := by
    obtain ⟨names, rfl⟩ := hspot
    exact hgrounded.get?_of_append hfolder
  refine ⟨rfl, ?_, fun spot => ?_⟩
  · rintro ⟨spot, content, hspot, hfile⟩
    rw [hway hspot] at hfile
    cases hfile
  · split
    · next hspot => exact hway hspot
    · rfl

/-- The folder at the end of the way is made when the others are there. -/
theorem set (h : FillsWay way tree middle) (hvacant : tree.get? (way ++ [name]) = none) :
    FillsWay (way ++ [name]) tree (middle.set (way ++ [name]) .folder) := by
  have hend : ¬way ++ [name] <+: way := by
    intro hprefix
    have hlength := hprefix.length_le
    rw [List.length_append, List.length_singleton] at hlength
    omega
  have hmiddle : middle.get? (way ++ [name]) = none := by
    rw [h.get?_eq, if_neg hend, hvacant]
  refine ⟨h.system_eq, ?_, fun spot => ?_⟩
  · rintro ⟨spot, content, hspot, hfile⟩
    rcases List.prefix_concat_iff.1 hspot with rfl | hspot
    · rw [hvacant] at hfile
      cases hfile
    · exact h.clear ⟨spot, content, hspot, hfile⟩
  · by_cases hspot : spot = way ++ [name]
    · rw [hspot, get?_set_self hmiddle, if_pos (List.prefix_refl _)]
    · rw [get?_set_of_ne _ hspot, h.get?_eq]
      simp only [List.prefix_concat_iff, hspot, false_or]

/-- Behind the way all is as it was. -/
theorem get?_behind (h : FillsWay way tree other) (name : Text) :
    other.get? (way ++ [name]) = tree.get? (way ++ [name]) := by
  rw [h.get?_eq, if_neg]
  intro hprefix
  have hlength := hprefix.length_le
  rw [List.length_append, List.length_singleton] at hlength
  omega

theorem staysIn (h : FillsWay way tree other) : tree.StaysIn other := by
  refine ⟨h.system_eq, fun spot node hnode => ?_⟩
  rw [h.get?_eq]
  split
  · next hspot =>
    cases node with
    | folder => rfl
    | file content => exact absurd ⟨spot, content, hspot, hnode⟩ h.clear
  · exact hnode

/-- The way can be walked. -/
theorem locateFrom (h : FillsWay (start ++ names) tree other) (hdots : ['.', '.'] ∉ names) :
    other.locateFrom start .folder names = .ok (.found (start ++ names) .folder) := by
  induction names generalizing start with
  | nil => rw [List.append_nil]; rfl
  | cons name names ih =>
    rw [List.append_cons] at h ⊢
    rw [locateFrom_cons, follow_of_notMem hdots, h.get?_eq, if_pos (List.prefix_append _ _)]
    exact ih h (fun hmem => hdots (List.mem_cons_of_mem _ hmem))

end FillsWay

/-- What stands at the end of a way without double dots is found there. -/
theorem IsGrounded.locateFrom_of_get? (h : tree.IsGrounded) (hdots : ['.', '.'] ∉ names)
    (hstart : tree.get? start = some .folder) (hnode : tree.get? (start ++ names) = some node) :
    tree.locateFrom start .folder names = .ok (.found (start ++ names) node) := by
  rcases List.eq_nil_or_concat' names with rfl | ⟨names, name, rfl⟩
  · rw [List.append_nil] at hnode ⊢
    obtain rfl := Option.some.inj (hstart.symm.trans hnode)
    rfl
  · rw [← List.append_assoc] at hnode ⊢
    rw [List.mem_append, not_or] at hdots
    have hfolder := h.locateFrom hdots.1 (h.get?_folder hnode)
    rw [locateFrom_append _ hfolder, locateFrom_cons, follow_of_notMem hdots.2, hnode]
    rfl

end DiskTree

end NoteTemplate
