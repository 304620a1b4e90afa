import Mathlib.Data.List.Basic
import Mathlib.Data.List.Induction
import NoteTemplate.Proofs.Disk.NewFile
import NoteTemplate.Proofs.Disk.Running

/-!
# New folders on a disk

A folder is made together with those that it needs.  What stood on the disk stays, and what
is new are folders on the way to the one that was asked for, as long as the way has no
double dots: these could lead back from a folder that has only just been made, into one that
was there before.
-/

namespace NoteTemplate

/-- The place that a path leads to, whether something stands there or not. -/
def Location.place : Location → List Text
  | .found place _ => place
  | .vacant place => place

namespace DiskPath

variable {place names : List Text}

theorem follow_append (place front names : List Text) :
    follow place (front ++ names) = follow (follow place front) names := by
  induction front generalizing place with
  | nil => rfl
  | cons name front ih =>
    rw [List.cons_append, follow, follow]
    split <;> exact ih _

theorem follow_of_noDots (hdots : ['.', '.'] ∉ names) : follow place names = place ++ names := by
  induction names generalizing place with
  | nil => rw [List.append_nil]; rfl
  | cons name names ih =>
    rw [List.mem_cons, not_or] at hdots
    rw [follow, if_neg (Ne.symm hdots.1), ih hdots.2, List.append_assoc]
    rfl

end DiskPath

namespace DiskTree

variable {tree other middle : DiskTree} {place spot folder way longer : List Text}
  {front names : List Text} {name : Text} {node start : DiskNode} {location : Location}

/-- Everything on the disk stands in a folder. -/
def IsGrounded (tree : DiskTree) : Prop :=
  ∀ entry ∈ tree.nodes, tree.get? entry.1.dropLast = some .folder

instance (tree : DiskTree) : Decidable tree.IsGrounded := by
  unfold IsGrounded; infer_instance

theorem IsGrounded.get?_folder (h : tree.IsGrounded)
    (hnode : tree.get? (folder ++ [name]) = some node) : tree.get? folder = some .folder := by
  have hfolder := h _ (mem_nodes_of_get? hnode)
  rwa [List.dropLast_concat] at hfolder

theorem IsGrounded.get?_of_append (h : tree.IsGrounded)
    (hfolder : tree.get? (place ++ names) = some .folder) : tree.get? place = some .folder := by
  induction names using List.reverseRecOn with
  | nil => rwa [List.append_nil] at hfolder
  | append_singleton names name ih =>
    rw [← List.append_assoc] at hfolder
    exact ih (h.get?_folder hfolder)

/-! ### Where a path leads by name -/

/-- A path leads where its names say. -/
theorem place_eq_follow (h : tree.locateFrom place start names = .ok location) :
    location.place = DiskPath.follow place names := by
  induction names generalizing place start with
  | nil =>
    obtain rfl := Except.ok.inj h
    rfl
  | cons name names ih =>
    cases start with
    | file content => simp [locateFrom, DiskNode.isFolder] at h
    | folder =>
      rw [locateFrom_cons] at h
      rw [← List.singleton_append, DiskPath.follow_append]
      split at h
      · exact ih h
      · cases location with
        | found spot node => exact absurd h missing_ne_found
        | vacant spot =>
          obtain ⟨-, hempty, rfl⟩ := missing_eq_vacant_iff.1 h
          obtain rfl := List.isEmpty_iff.1 hempty
          rfl

/-! ### Ways without double dots -/

theorem follow_of_ne (hne : name ≠ ['.', '.']) :
    DiskPath.follow place [name] = place ++ [name] := by
  rw [DiskPath.follow, if_neg hne]
  rfl

theorem follow_of_notMem (hdots : ['.', '.'] ∉ name :: names) :
    DiskPath.follow place [name] = place ++ [name] :=
  follow_of_ne fun heq => hdots (heq ▸ List.mem_cons_self)

theorem place_of_locateFrom (hdots : ['.', '.'] ∉ names)
    (h : tree.locateFrom place start names = .ok location) :
    location.place = place ++ names :=
  (place_eq_follow h).trans (DiskPath.follow_of_noDots hdots)

theorem locateFrom_append (names : List Text)
    (h : tree.locateFrom place start front = .ok (.found folder node)) :
    tree.locateFrom place start (front ++ names) = tree.locateFrom folder node names := by
  induction front generalizing place start with
  | nil =>
    obtain ⟨rfl, rfl⟩ := Location.found.inj (Except.ok.inj h)
    rfl
  | cons name front ih =>
    cases start with
    | file content => simp [locateFrom, DiskNode.isFolder] at h
    | folder =>
      rw [locateFrom_cons] at h
      rw [List.cons_append, locateFrom_cons]
      split at h
      · exact ih h
      · exact absurd h missing_ne_found

/-- A path that leads to a folder is followed on from there. -/
theorem locate_append {here : List Text} {root : Text}
    (hplace : tree.locate here ⟨root, front⟩ = .ok (.found folder .folder))
    (htakes : tree.takesPath ⟨root, front ++ names⟩ = true) :
    tree.locate here ⟨root, front ++ names⟩ = tree.locateFrom folder .folder names :=
  (locate_of_takesPath htakes).trans (locateFrom_append names (locateFrom_of_locate hplace))

theorem locateFrom_of_locate_append {here : List Text} {root : Text}
    (hplace : tree.locate here ⟨root, front⟩ = .ok (.found folder .folder))
    (h : tree.locate here ⟨root, front ++ names⟩ = .ok location) :
    tree.locateFrom folder .folder names = .ok location :=
  (locateFrom_append names (locateFrom_of_locate hplace)).symm.trans (locateFrom_of_locate h)

theorem IsGrounded.locateFrom (h : tree.IsGrounded) (hdots : ['.', '.'] ∉ names)
    (hfolder : tree.get? (place ++ names) = some .folder) :
    tree.locateFrom place .folder names = .ok (.found (place ++ names) .folder) := by
  induction names generalizing place with
  | nil => rw [List.append_nil]; rfl
  | cons name names ih =>
    rw [List.append_cons] at hfolder ⊢
    rw [locateFrom_cons, follow_of_notMem hdots, h.get?_of_append hfolder]
    exact ih (fun hmem => hdots (List.mem_cons_of_mem _ hmem)) hfolder

/-! ### What is new on the way -/

/-- What stood on the disk stays, and nothing is new but on the way. -/
structure GrowsAlong (way : List Text) (tree other : DiskTree) : Prop where
  stays : tree.StaysIn other
  get?_eq : ∀ ⦃place⦄, ¬ place <+: way → other.get? place = tree.get? place

namespace GrowsAlong

theorem refl (way : List Text) (tree : DiskTree) : GrowsAlong way tree tree :=
  ⟨.refl tree, fun _ _ => rfl⟩

theorem trans (h : GrowsAlong way tree middle) (h' : GrowsAlong way middle other) :
    GrowsAlong way tree other :=
  ⟨h.stays.trans h'.stays, fun _ hoff => (h'.get?_eq hoff).trans (h.get?_eq hoff)⟩

theorem mono (h : GrowsAlong way tree other) (hway : way <+: longer) :
    GrowsAlong longer tree other :=
  ⟨h.stays, fun _ hoff => h.get?_eq fun hplace => hoff (hplace.trans hway)⟩

theorem set (hvacant : tree.get? way = none) (node : DiskNode) :
    GrowsAlong way tree (tree.set way node) := by
  refine ⟨staysIn_set hvacant node, ?_⟩
  intro place hoff
  have hne : place ≠ way := by
    rintro rfl
    exact hoff (List.prefix_refl _)
  exact get?_set_of_ne tree hne node

/-- Behind the end of the way nothing is new. -/
theorem get?_behind (h : GrowsAlong way tree other) (name : Text) :
    other.get? (way ++ [name]) = tree.get? (way ++ [name]) := by
  apply h.get?_eq
  intro hbehind
  have hlength := hbehind.length_le
  rw [List.length_append, List.length_singleton] at hlength
  omega

end GrowsAlong

end DiskTree

namespace Action

variable {before after : Session} {root : Text} {front names place : List Text}

/-- A path that leads somewhere goes on leading there. -/
theorem locate_of_staysIn {path : DiskPath} {node : DiskNode}
    (hstays : before.tree.StaysIn after.tree) (hhere : after.here = before.here)
    (h : before.tree.locate before.here path = .ok (.found place node)) :
    after.tree.locate after.here path = .ok (.found place node) := by
  rw [hhere]
  exact hstays.locate h

theorem gives_makeFolder_iff {path : DiskPath} {result : Option SystemError} :
    (makeFolder path).Gives before result after ↔ path.hasNull = false ∧
      match before.tree.locate before.here path with
      | .ok (.found _ _) => result = some .alreadyExists ∧ after = before
      | .ok (.vacant spot) =>
        result = none ∧ after = { before with tree := before.tree.set spot .folder }
      | .error error => result = some error ∧ after = before := by
  rw [makeFolder]
  simp only [gives_bind_iff, gives_locate_iff]
  constructor
  · rintro ⟨_, session, ⟨hnull, rfl, rfl⟩, h⟩
    refine ⟨hnull, ?_⟩
    cases hlocate : session.tree.locate session.here path with
    | error failure =>
      rw [hlocate] at h
      exact gives_pure_iff.1 h
    | ok location =>
      rw [hlocate] at h
      cases location with
      | found place node => exact gives_pure_iff.1 h
      | vacant spot =>
        obtain ⟨_, _, hplaced, hdone⟩ := gives_bind_iff.1 h
        obtain ⟨rfl, rfl⟩ := gives_pure_iff.1 hdone
        exact ⟨rfl, gives_modify_iff.1 hplaced⟩
  · rintro ⟨hnull, h⟩
    refine ⟨_, before, ⟨hnull, rfl, rfl⟩, ?_⟩
    cases hlocate : before.tree.locate before.here path with
    | error failure =>
      rw [hlocate] at h
      exact gives_pure_iff.2 h
    | ok location =>
      rw [hlocate] at h
      cases location with
      | found place node => exact gives_pure_iff.2 h
      | vacant spot =>
        obtain ⟨rfl, rfl⟩ := h
        exact gives_bind_iff.2 ⟨⟨⟩, _, gives_modify_iff.2 rfl, gives_pure_iff.2 ⟨rfl, rfl⟩⟩

theorem eq_of_acceptFolder {path : DiskPath} {error : SystemError} {done : Unit}
    (h : (acceptFolder path error).Gives before done after) : after = before := by
  rw [acceptFolder] at h
  obtain ⟨_, _, hnode, hdone⟩ := gives_bind_iff.1 h
  obtain ⟨-, -, rfl⟩ := gives_node?_iff.1 hnode
  split at hdone
  · exact (gives_pure_iff.1 hdone).2
  · exact absurd hdone gives_throw_iff

/-- One folder is made at the end of its way. -/
theorem growsAlong_makeFolder {result : Option SystemError}
    (hplace : before.tree.locate before.here ⟨root, front⟩ = .ok (.found place .folder))
    (hdots : ['.', '.'] ∉ names)
    (h : (makeFolder ⟨root, front ++ names⟩).Gives before result after) :
    DiskTree.GrowsAlong (place ++ names) before.tree after.tree := by
  obtain ⟨-, hmade⟩ := gives_makeFolder_iff.1 h
  split at hmade
  · rw [hmade.2]
    exact .refl _ _
  · next spot hlocate =>
    have hvacant := DiskTree.locateFrom_of_locate_append hplace hlocate
    obtain rfl : spot = place ++ names := DiskTree.place_of_locateFrom hdots hvacant
    rw [hmade.2]
    rcases List.eq_nil_or_concat' names with rfl | ⟨names, name, rfl⟩
    · simp [DiskTree.locateFrom] at hvacant
    · obtain ⟨_, _, _, hnone⟩ := DiskTree.exists_folder_of_vacant hvacant
      exact .set hnone _
  · rw [hmade.2]
    exact .refl _ _

/-- A path that leads to a folder is left alone. -/
theorem eq_of_makeFoldersFrom {done : Unit}
    (hplace : before.tree.locate before.here ⟨root, front⟩ = .ok (.found place .folder))
    (h : (makeFoldersFrom root front.reverse).Gives before done after) : after = before := by
  cases hfront : front.reverse with
  | nil =>
    rw [hfront] at h
    exact (gives_pure_iff.1 h).2
  | cons name names =>
    have hpath : (name :: names).reverse = front := by rw [← hfront, List.reverse_reverse]
    rw [hfront, makeFoldersFrom, hpath] at h
    obtain ⟨_, _, hmade, hdone⟩ := gives_bind_iff.1 h
    obtain ⟨-, hfound⟩ := gives_makeFolder_iff.1 hmade
    rw [hplace] at hfound
    obtain ⟨rfl, rfl⟩ := hfound
    exact eq_of_acceptFolder hdone

/-- Behind a folder that is there, folders are made along the way.  The names are given last
one first, and the induction is on those that may be missing. -/
theorem growsAlong_makeFoldersFrom {done : Unit}
    (hplace : before.tree.locate before.here ⟨root, front⟩ = .ok (.found place .folder))
    (hdots : ['.', '.'] ∉ names)
    (h : (makeFoldersFrom root (names ++ front.reverse)).Gives before done after) :
    DiskTree.GrowsAlong (place ++ names.reverse) before.tree after.tree := by
  induction names generalizing before after done with
  | nil =>
    rw [eq_of_makeFoldersFrom hplace h]
    exact .refl _ _
  | cons name names ih =>
    have hshorter : place ++ names.reverse <+: place ++ (name :: names).reverse := by
      rw [List.reverse_cons, ← List.append_assoc]
      exact List.prefix_append _ _
    have hdotsReverse : ['.', '.'] ∉ (name :: names).reverse := by
      rwa [List.mem_reverse]
    have hpath : (name :: (names ++ front.reverse)).reverse = front ++ (name :: names).reverse := by
      simp
    rw [List.cons_append, makeFoldersFrom, hpath] at h
    obtain ⟨first, middle, hfirst, hrest⟩ := gives_bind_iff.1 h
    have hgrown := growsAlong_makeFolder hplace hdotsReverse hfirst
    split at hrest
    · rw [(gives_pure_iff.1 hrest).2]
      exact hgrown
    · -- The folder above is missing too: it is made first, and then this one is tried again.
      obtain ⟨_, made, hmade, hrest⟩ := gives_bind_iff.1 hrest
      obtain ⟨second, last, hsecond, hdone⟩ := gives_bind_iff.1 hrest
      have hplaceMiddle := locate_of_staysIn hgrown.stays (keepsHere_makeFolder _ hfirst) hplace
      have hparents := ih hplaceMiddle (fun hmem => hdots (List.mem_cons_of_mem _ hmem)) hmade
      have hplaceMade :=
        locate_of_staysIn hparents.stays (keepsHere_makeFoldersFrom _ _ hmade) hplaceMiddle
      have hagain := growsAlong_makeFolder hplaceMade hdotsReverse hsecond
      have hlast : after = last := by
        split at hdone
        · exact (gives_pure_iff.1 hdone).2
        · exact absurd hdone gives_throw_iff
        · exact eq_of_acceptFolder hdone
      rw [hlast]
      exact (hgrown.trans (hparents.mono hshorter)).trans hagain
    · rw [eq_of_acceptFolder hrest]
      exact hgrown

end Action

end NoteTemplate
