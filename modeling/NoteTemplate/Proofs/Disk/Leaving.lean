import NoteTemplate.Proofs.Disk.Refusing

/-!
# What an action leaves

An action leaves a session whether it succeeds or fails.  Actions that only look leave it as it
was (`Steady`), and one that puts a file somewhere changes the place that its path leads to and
nothing else (`Session.PutsFile`).
-/

namespace NoteTemplate

variable {α β : Type}

/-! ### What an action leaves -/

namespace Action

variable {action : Action α} {next : α → Action β} {before middle session : Session}
  {value : α} {failure : Failure} {path : DiskPath} {content : Text}

/-- The session that an action leaves, whether it succeeds or fails. -/
def leaves (action : Action α) (session : Session) : Session := (action.outcome session).2

theorem Gives.leaves_eq (h : action.Gives before value middle) : action.leaves before = middle := by
  rw [leaves, h]

theorem Fails.leaves_eq (h : action.Fails before failure middle) :
    action.leaves before = middle := by
  rw [leaves, h]

theorem gives_or_fails (action : Action α) (session : Session) :
    (∃ value, action.Gives session value (action.leaves session)) ∨
      ∃ failure, action.Fails session failure (action.leaves session) := by
  cases houtcome : action.outcome session with
  | mk result left =>
    have hleft : action.leaves session = left := by rw [leaves, houtcome]
    cases result with
    | ok value => exact Or.inl ⟨value, by rw [Gives, houtcome, hleft]⟩
    | error failure => exact Or.inr ⟨failure, by rw [Fails, houtcome, hleft]⟩

theorem Gives.leaves_bind (h : action.Gives before value middle) (next : α → Action β) :
    (action >>= next).leaves before = (next value).leaves middle := by
  rcases gives_or_fails (next value) middle with ⟨_, hnext⟩ | ⟨_, hnext⟩
  · exact (gives_bind_iff.2 ⟨_, _, h, hnext⟩ : (action >>= next).Gives _ _ _).leaves_eq
  · exact (h.bind_fails hnext).leaves_eq

/-- The second of two actions is reached, or the first one has failed. -/
theorem leaves_bind_cases (action : Action α) (next : α → Action β) (session : Session) :
    (∃ value, action.Gives session value (action.leaves session) ∧
      (action >>= next).leaves session = (next value).leaves (action.leaves session)) ∨
    (action >>= next).leaves session = action.leaves session := by
  rcases gives_or_fails action session with ⟨value, hgives⟩ | ⟨failure, hfails⟩
  · exact Or.inl ⟨value, hgives, hgives.leaves_bind next⟩
  · exact Or.inr (hfails.bind next).leaves_eq

/-- The action changes nothing, whether it succeeds or fails. -/
def Steady (action : Action α) : Prop := ∀ session, action.leaves session = session

theorem steady_pure (value : α) : Steady (pure value) := fun _ => rfl

theorem steady_throw (failure : Failure) : Steady (throw failure : Action α) := fun _ => rfl

theorem Steady.bind_cases (h : action.Steady) (next : α → Action β) (session : Session) :
    (∃ value, action.Gives session value session ∧
      (action >>= next).leaves session = (next value).leaves session) ∨
    (action >>= next).leaves session = session := by
  have hcases := leaves_bind_cases action next session
  rwa [h session] at hcases

theorem Steady.bind (h : action.Steady) (hnext : ∀ value, (next value).Steady) :
    (action >>= next).Steady := by
  intro session
  rcases h.bind_cases next session with ⟨value, -, heq⟩ | heq
  · rw [heq, hnext value]
  · exact heq

theorem steady_checkPath (path : DiskPath) : (checkPath path).Steady := by
  rw [checkPath]
  split
  · exact steady_throw _
  · exact steady_pure _

theorem steady_locate (path : DiskPath) : (locate path).Steady :=
  (steady_checkPath path).bind fun _ => fun _ => rfl

theorem steady_node? (path : DiskPath) : (node? path).Steady := by
  rw [node?]
  split
  · exact steady_pure _
  · refine (steady_locate path).bind fun found => ?_
    split
    · exact steady_pure _
    · exact steady_throw _
    · exact steady_pure _

end Action

/-! ### Where a path leads -/

namespace DiskTree

variable {tree other : DiskTree} {place stop spot : List Text} {names : List Text}
  {start : DiskNode} {location : Location}

theorem get?_of_locateFrom_vacant (h : tree.locateFrom place start names = .ok (.vacant spot)) :
    tree.get? spot = none := by
  rcases List.eq_nil_or_concat' names with rfl | ⟨names, name, rfl⟩
  · cases h
  · obtain ⟨_, -, -, hvacant⟩ := exists_folder_of_vacant h
    exact hvacant

/-- A way through folders stays as long as the folders do. -/
theorem locateFrom_of_keepsFolders
    (hkeeps : ∀ spot, tree.get? spot = some .folder → other.get? spot = some .folder)
    (h : tree.locateFrom place .folder names = .ok (.found stop .folder)) :
    other.locateFrom place .folder names = .ok (.found stop .folder) := by
  induction names generalizing place with
  | nil => exact h
  | cons name names ih =>
    rw [locateFrom_cons] at h ⊢
    split at h
    · next node hnext =>
      cases node with
      | folder =>
        rw [hkeeps _ hnext]
        exact ih h
      | file content => cases names <;> simp [locateFrom, DiskNode.isFolder] at h
    · exact absurd h missing_ne_found

end DiskTree

/-! ### A file is put somewhere -/

/-- What a file holds that a text was put into: nothing if it cannot hold the text. -/
def DiskTree.heldText (tree : DiskTree) (content : Text) : Text :=
  if tree.takesText content then content else []

/-- The session when a text was put into the file at a place. -/
def Session.putText (session : Session) (spot : List Text) (content : Text) : Session :=
  { session with tree := session.tree.set spot (.file (.text (session.tree.heldText content))) }

/-- A file is put where a path leads, unless a folder is there, or nothing is changed. -/
def Session.PutsFile (session : Session) (path : DiskPath) (content : Text) (left : Session) :
    Prop :=
  left = session ∨ ∃ location, session.tree.locate session.here path = .ok location ∧
    session.tree.get? location.place ≠ some .folder ∧
    left = session.putText location.place content

namespace Action

theorem leaves_fillFile (spot : List Text) (content : Text) (session : Session) :
    (fillFile spot content).leaves session = session.putText spot content := by
  rw [Session.putText, DiskTree.heldText]
  cases htakes : session.tree.takesText content with
  | true => exact (gives_fillFile_iff.2 ⟨htakes, rfl⟩ : Gives _ _ ⟨⟩ _).leaves_eq
  | false => exact (fails_fillFile htakes).leaves_eq

theorem putsFile_createFile (path : DiskPath) (content : Text) (session : Session) :
    session.PutsFile path content ((createFile path content).leaves session) := by
  rcases (steady_locate path).bind_cases _ session with ⟨found, hfound, heq⟩ | heq
  · obtain ⟨-, rfl, -⟩ := gives_locate_iff.1 hfound
    rw [createFile, heq]
    split
    · exact Or.inl rfl
    · next spot hspot =>
      have hvacant : session.tree.get? spot = none :=
        DiskTree.get?_of_locateFrom_vacant (DiskTree.locateFrom_of_locate hspot)
      exact Or.inr ⟨_, hspot, by simp [Location.place, hvacant], leaves_fillFile _ _ _⟩
    · exact Or.inl rfl
  · exact Or.inl heq

theorem putsFile_writeFile (path : DiskPath) (content : Text) (session : Session) :
    session.PutsFile path content ((writeFile path content).leaves session) := by
  rcases (steady_locate path).bind_cases _ session with ⟨found, hfound, heq⟩ | heq
  · obtain ⟨-, rfl, -⟩ := gives_locate_iff.1 hfound
    rw [writeFile, heq]
    split
    · exact Or.inl rfl
    · next spot file hspot =>
      have hfile : session.tree.get? spot = some (.file file) :=
        DiskTree.get?_of_locateFrom_file (DiskTree.locateFrom_of_locate hspot)
      exact Or.inr ⟨_, hspot, by simp [Location.place, hfile], leaves_fillFile _ _ _⟩
    · next spot hspot =>
      have hvacant : session.tree.get? spot = none :=
        DiskTree.get?_of_locateFrom_vacant (DiskTree.locateFrom_of_locate hspot)
      exact Or.inr ⟨_, hspot, by simp [Location.place, hvacant], leaves_fillFile _ _ _⟩
    · exact Or.inl rfl
  · exact Or.inl heq

end Action

/-- One session came out of another without touching anything outside a place.  Folders are
kept inside too. -/
structure Session.StaysInside (root : List Text) (before after : Session) : Prop where
  here_eq : after.here = before.here
  system_eq : after.tree.system = before.tree.system
  outside : ∀ spot, ¬root <+: spot → after.tree.get? spot = before.tree.get? spot
  folders : ∀ spot, before.tree.get? spot = some .folder → after.tree.get? spot = some .folder

namespace Session.StaysInside

variable {root spot : List Text} {before middle after session : Session}

theorem refl (root : List Text) (session : Session) : session.StaysInside root session :=
  ⟨rfl, rfl, fun _ _ => rfl, fun _ h => h⟩

/-- A file is put at a place inside where no folder is. -/
theorem set (hinside : root <+: spot) (hopen : session.tree.get? spot ≠ some .folder)
    (content : FileContent) :
    session.StaysInside root { session with tree := session.tree.set spot (.file content) } := by
  refine ⟨rfl, rfl, fun other hother => ?_, fun other hfolder => ?_⟩
  · have hne : other ≠ spot := by
      rintro rfl
      exact hother hinside
    exact DiskTree.get?_set_of_ne _ hne _
  · have hne : other ≠ spot := by
      rintro rfl
      exact hopen hfolder
    exact (DiskTree.get?_set_of_ne _ hne _).trans hfolder

end Session.StaysInside

end NoteTemplate
