import NoteTemplate.Disk.Tree
import NoteTemplate.Proofs.Text.Split

/-!
# A new file on a disk

A file that is put at a vacant place changes nothing else: what a path led to it still leads
to, and the folder of the file lists one entry more.
-/

namespace NoteTemplate.DiskTree

variable {tree : DiskTree} {spot place folder : List Text} {node found start : DiskNode}
  {parts : List Text} {name : Text} {content : FileContent}

theorem ne_nil_of_vacant (hvacant : tree.get? spot = none) : spot ≠ [] := by
  rintro rfl
  simp [get?] at hvacant

theorem get?_set_of_ne_nil (hspot : spot ≠ []) : (tree.set spot node).get? spot = some node := by
  rw [get?, List.isEmpty_eq_false_iff.2 hspot]
  exact lookup_setEntry_self spot node tree.nodes

theorem get?_set_self (hvacant : tree.get? spot = none) :
    (tree.set spot node).get? spot = some node :=
  get?_set_of_ne_nil (ne_nil_of_vacant hvacant)

/-- What stands somewhere on the one disk stands there on the other, which takes the same names. -/
structure StaysIn (tree other : DiskTree) : Prop where
  system_eq : other.system = tree.system
  keeps : ∀ ⦃place node⦄, tree.get? place = some node → other.get? place = some node

theorem StaysIn.refl (tree : DiskTree) : tree.StaysIn tree := ⟨rfl, fun _ _ h => h⟩

theorem StaysIn.trans {middle other : DiskTree} (h : tree.StaysIn middle)
    (h' : middle.StaysIn other) : tree.StaysIn other :=
  ⟨h'.system_eq.trans h.system_eq, fun _ _ hnode => h'.keeps (h.keeps hnode)⟩

theorem StaysIn.takesPath_eq {other : DiskTree} (h : tree.StaysIn other) (path : DiskPath) :
    other.takesPath path = tree.takesPath path := by
  rw [takesPath, takesPath, h.system_eq]

theorem staysIn_set (hvacant : tree.get? spot = none) (node : DiskNode) :
    tree.StaysIn (tree.set spot node) := by
  refine ⟨rfl, fun place found h => ?_⟩
  have hne : place ≠ spot := by
    rintro rfl
    rw [hvacant] at h
    cases h
  rw [get?_set_of_ne tree hne, h]

/-! ### Following a path -/

/-- Is the path too long to be followed, or one of its names? -/
def IsTooLong (tree : DiskTree) (here : List Text) (path : DiskPath) : Prop :=
  path.hasNull = false ∧ tree.locate here path = .error .nameTooLong

theorem locate_of_takesPath {here : List Text} {path : DiskPath} (h : tree.takesPath path = true) :
    tree.locate here path = tree.locateFrom (path.origin here) .folder path.parts :=
  if_pos h

theorem locate_of_not_takesPath {here : List Text} {path : DiskPath}
    (h : tree.takesPath path = false) : tree.locate here path = .error .nameTooLong :=
  if_neg (by simp [h])

theorem locate_eq_ok_iff {here : List Text} {path : DiskPath} {location : Location} :
    tree.locate here path = .ok location ↔ tree.takesPath path = true ∧
      tree.locateFrom (path.origin here) .folder path.parts = .ok location := by
  cases htakes : tree.takesPath path with
  | true => simp [locate_of_takesPath htakes]
  | false => simp [locate_of_not_takesPath htakes]

theorem locateFrom_of_locate {here : List Text} {path : DiskPath} {location : Location}
    (h : tree.locate here path = .ok location) :
    tree.locateFrom (path.origin here) .folder path.parts = .ok location :=
  (locate_eq_ok_iff.1 h).2

/-- What stands where a path leads. -/
def nodeAt : Except SystemError Location → Option DiskNode
  | .ok (.found _ node) => some node
  | _ => none

theorem node?_eq (tree : DiskTree) (here : List Text) (path : DiskPath) :
    tree.node? here path = if path.hasNull then none else nodeAt (tree.locate here path) := by
  rw [node?]
  split
  · rfl
  · cases tree.locate here path with
    | error failure => rfl
    | ok location => cases location <;> rfl

theorem exists_locate_of_node? {here : List Text} {path : DiskPath}
    (h : tree.node? here path = some node) :
    path.hasNull = false ∧ ∃ spot, tree.locate here path = .ok (.found spot node) := by
  rw [node?] at h
  split at h
  · cases h
  · next hnull =>
    refine ⟨by simpa using hnull, ?_⟩
    split at h
    · next spot found hlocate =>
      obtain rfl := Option.some.inj h
      exact ⟨spot, hlocate⟩
    · cases h

theorem missing_ne_found {isLast : Bool} :
    tree.missing place isLast ≠ .ok (.found folder found) := by
  rw [missing]
  split
  · simp
  · split <;> simp

theorem missing_eq_vacant_iff {isLast : Bool} :
    tree.missing place isLast = .ok (.vacant spot) ↔
      tree.takesPlace place = true ∧ isLast = true ∧ place = spot := by
  rw [missing]
  cases tree.takesPlace place <;> cases isLast <;> simp

theorem nodeAt_missing {isLast : Bool} : nodeAt (tree.missing place isLast) = none := by
  rw [missing]
  split
  · rfl
  · split <;> rfl

theorem locateFrom_cons (tree : DiskTree) (part : Text) (parts : List Text) :
    tree.locateFrom place .folder (part :: parts) =
      match tree.get? (DiskPath.follow place [part]) with
      | some node => tree.locateFrom (DiskPath.follow place [part]) node parts
      | none => tree.missing (DiskPath.follow place [part]) parts.isEmpty := by
  rfl

/-- What a path leads to on the one disk it leads to on the other. -/
theorem StaysIn.locateFrom {other : DiskTree} (hstays : tree.StaysIn other)
    (h : tree.locateFrom place start parts = .ok (.found folder found)) :
    other.locateFrom place start parts = .ok (.found folder found) := by
  induction parts generalizing place start with
  | nil => exact h
  | cons part parts ih =>
    cases start with
    | file content => simp [DiskTree.locateFrom, DiskNode.isFolder] at h
    | folder =>
      rw [locateFrom_cons] at h ⊢
      cases hnext : tree.get? (DiskPath.follow place [part]) with
      | none =>
        rw [hnext] at h
        exact absurd h missing_ne_found
      | some next =>
        rw [hnext] at h
        rw [hstays.keeps hnext]
        exact ih h

/-- A path that leads somewhere goes on leading there. -/
theorem StaysIn.locate {other : DiskTree} (hstays : tree.StaysIn other) {here : List Text}
    {path : DiskPath} {node : DiskNode} (h : tree.locate here path = .ok (.found place node)) :
    other.locate here path = .ok (.found place node) := by
  obtain ⟨htakes, hfound⟩ := locate_eq_ok_iff.1 h
  exact locate_eq_ok_iff.2 ⟨(hstays.takesPath_eq path).trans htakes, hstays.locateFrom hfound⟩

/-- A path to a vacant place leads to what is put there. -/
theorem locateFrom_set_of_vacant (h : tree.locateFrom place start parts = .ok (.vacant spot))
    (node : DiskNode) :
    tree.get? spot = none ∧
      (tree.set spot node).locateFrom place start parts = .ok (.found spot node) := by
  induction parts generalizing place start with
  | nil => cases h
  | cons part parts ih =>
    cases start with
    | file content => simp [locateFrom, DiskNode.isFolder] at h
    | folder =>
      rw [locateFrom_cons] at h ⊢
      cases hnext : tree.get? (DiskPath.follow place [part]) with
      | some next =>
        rw [hnext] at h
        obtain ⟨hvacant, hfound⟩ := ih h
        rw [(staysIn_set hvacant node).keeps hnext]
        exact ⟨hvacant, hfound⟩
      | none =>
        rw [hnext] at h
        obtain ⟨-, hlast, rfl⟩ := missing_eq_vacant_iff.1 h
        obtain rfl := List.isEmpty_iff.1 hlast
        rw [get?_set_self hnext]
        exact ⟨hnext, rfl⟩

/-- A new file is found where nothing was, and all else as before. -/
theorem nodeAt_locateFrom_set (hvacant : tree.get? spot = none) :
    nodeAt ((tree.set spot (.file content)).locateFrom place start parts) =
        nodeAt (tree.locateFrom place start parts) ∨
      nodeAt ((tree.set spot (.file content)).locateFrom place start parts) =
        some (.file content) := by
  induction parts generalizing place start with
  | nil => exact Or.inl rfl
  | cons part parts ih =>
    cases start with
    | file content => exact Or.inl rfl
    | folder =>
      rw [locateFrom_cons, locateFrom_cons]
      by_cases hspot : DiskPath.follow place [part] = spot
      · rw [hspot, get?_set_self hvacant, hvacant]
        cases parts with
        | nil => exact Or.inr rfl
        | cons next parts => exact Or.inl nodeAt_missing.symm
      · rw [get?_set_of_ne tree hspot]
        cases tree.get? (DiskPath.follow place [part]) with
        | none => exact Or.inl rfl
        | some next => exact ih

theorem node?_set (hvacant : tree.get? spot = none) (here : List Text) (path : DiskPath) :
    (tree.set spot (.file content)).node? here path = tree.node? here path ∨
      (tree.set spot (.file content)).node? here path = some (.file content) := by
  rw [node?_eq, node?_eq]
  split
  · exact Or.inl rfl
  · rw [locate, locate, takesPath_set]
    split
    · exact nodeAt_locateFrom_set hvacant
    · exact Or.inl rfl

/-- A path to a vacant place leads through the folder of the place. -/
theorem exists_folder_of_vacant
    (h : tree.locateFrom place start (parts ++ [name]) = .ok (.vacant spot)) :
    ∃ folder, tree.locateFrom place start parts = .ok (.found folder .folder) ∧
      spot = DiskPath.follow folder [name] ∧ tree.get? spot = none := by
  induction parts generalizing place start with
  | nil =>
    cases start with
    | file content => simp [locateFrom, DiskNode.isFolder] at h
    | folder =>
      rw [List.nil_append, locateFrom_cons] at h
      cases hnext : tree.get? (DiskPath.follow place [name]) with
      | some next =>
        rw [hnext] at h
        simp [locateFrom] at h
      | none =>
        rw [hnext] at h
        obtain ⟨-, -, rfl⟩ := missing_eq_vacant_iff.1 h
        exact ⟨place, rfl, rfl, hnext⟩
  | cons part parts ih =>
    cases start with
    | file content => simp [locateFrom, DiskNode.isFolder] at h
    | folder =>
      rw [List.cons_append, locateFrom_cons] at h
      rw [locateFrom_cons]
      cases hnext : tree.get? (DiskPath.follow place [part]) with
      | some next =>
        rw [hnext] at h
        exact ih h
      | none =>
        rw [hnext] at h
        obtain ⟨-, hlast, -⟩ := missing_eq_vacant_iff.1 h
        simp at hlast

/-- The path of a folder is no longer than the paths behind it. -/
theorem takesPath_of_append {root : Text} {front names : List Text}
    (h : tree.takesPath ⟨root, front ++ names⟩ = true) : tree.takesPath ⟨root, front⟩ = true := by
  rw [takesPath, decide_eq_true_iff, DiskPath.byteLength] at h ⊢
  obtain ⟨rest, hrest⟩ := Text.join_prefix_join_append ['/'] front names
  dsimp only at h ⊢
  rw [← hrest, Text.byteLength_append] at h
  omega

theorem locate_eq_tooLong_iff {here : List Text} {path : DiskPath} :
    tree.locate here path = .error .nameTooLong ↔ tree.takesPath path = false ∨
      tree.locateFrom (path.origin here) .folder path.parts = .error .nameTooLong := by
  cases htakes : tree.takesPath path with
  | true => simp [locate_of_takesPath htakes]
  | false => simp [locate_of_not_takesPath htakes]

theorem locateFrom_tooLong_of_set (hvacant : tree.get? spot = none)
    (h : (tree.set spot (.file content)).locateFrom place start parts = .error .nameTooLong) :
    tree.locateFrom place start parts = .error .nameTooLong := by
  induction parts generalizing place start with
  | nil => cases h
  | cons part parts ih =>
    cases start with
    | file content => cases h
    | folder =>
      rw [locateFrom_cons] at h ⊢
      by_cases hspot : DiskPath.follow place [part] = spot
      · rw [hspot, get?_set_self hvacant] at h
        cases parts <;> cases h
      · rw [get?_set_of_ne tree hspot] at h
        cases hnext : tree.get? (DiskPath.follow place [part]) with
        | none =>
          rw [hnext] at h
          exact h
        | some next =>
          rw [hnext] at h
          exact ih h

/-- A new file makes no path too long. -/
theorem isTooLong_of_set {here : List Text} {path : DiskPath} (hvacant : tree.get? spot = none)
    (h : (tree.set spot (.file content)).IsTooLong here path) : tree.IsTooLong here path :=
  ⟨h.1, locate_eq_tooLong_iff.2
    ((locate_eq_tooLong_iff.1 h.2).imp_right (locateFrom_tooLong_of_set hvacant))⟩

theorem exists_locate_error {here : List Text} {path : DiskPath} {error : SystemError}
    (h : tree.locateFrom (path.origin here) .folder path.parts = .error error) :
    ∃ other, tree.locate here path = .error other := by
  cases htakes : tree.takesPath path with
  | true => exact ⟨error, (locate_of_takesPath htakes).trans h⟩
  | false => exact ⟨.nameTooLong, locate_of_not_takesPath htakes⟩

/-- A path that is not too long is short enough. -/
theorem takesPath_of_not_isTooLong {here : List Text} {path : DiskPath}
    (hnull : path.hasNull = false) (hshort : ¬tree.IsTooLong here path) :
    tree.takesPath path = true := by
  rw [← Bool.not_eq_false]
  exact fun htakes => hshort ⟨hnull, locate_of_not_takesPath htakes⟩

/-! ### Listing a folder -/

theorem mem_children_iff :
    (name, node) ∈ tree.children folder ↔ (folder ++ [name], node) ∈ tree.nodes := by
  rw [children, List.mem_mergeSort, List.mem_filterMap]
  constructor
  · rintro ⟨⟨spot, found⟩, hmem, hchild⟩
    rw [childName?] at hchild
    split at hchild
    · next last hlast =>
      split at hchild
      · next hfolder =>
        obtain ⟨rfl, rfl⟩ := Prod.mk.inj (Option.some.inj hchild)
        obtain ⟨rest, hspot⟩ := List.getLast?_eq_some_iff.1 hlast
        obtain rfl : rest = folder := by
          rw [← hfolder, hspot, List.dropLast_concat]
        exact hspot ▸ hmem
      · cases hchild
    · cases hchild
  · intro hmem
    exact ⟨_, hmem, by simp [childName?]⟩

theorem lookup_eq_none_of_vacant (hvacant : tree.get? spot = none) :
    lookup spot tree.nodes = none := by
  have hspot : spot.isEmpty = false := List.isEmpty_eq_false_iff.2 (ne_nil_of_vacant hvacant)
  rw [get?, hspot] at hvacant
  exact hvacant

theorem lookup_eq_none_iff {nodes : List (List Text × DiskNode)} :
    lookup spot nodes = none ↔ ∀ entry ∈ nodes, entry.1 ≠ spot := by
  induction nodes with
  | nil => simp [lookup]
  | cons entry nodes ih =>
    rw [lookup]
    split
    · next hspot => simp [hspot]
    · next hspot => simp [hspot, ih]

theorem mem_of_lookup {nodes : List (List Text × DiskNode)} (h : lookup spot nodes = some node) :
    (spot, node) ∈ nodes := by
  induction nodes with
  | nil => cases h
  | cons entry nodes ih =>
    rw [lookup] at h
    split at h
    · next hspot =>
      obtain rfl := Option.some.inj h
      rw [← hspot]
      exact List.mem_cons_self
    · exact List.mem_cons_of_mem _ (ih h)

theorem mem_nodes_of_get? (h : tree.get? (folder ++ [name]) = some node) :
    (folder ++ [name], node) ∈ tree.nodes := by
  have hspot : (folder ++ [name]).isEmpty = false := by simp
  rw [get?, hspot] at h
  exact mem_of_lookup h

/-- An empty folder is one with vacant places only. -/
theorem children_eq_nil_of_vacant (h : ∀ name, tree.get? (folder ++ [name]) = none) :
    tree.children folder = [] := by
  rw [List.eq_nil_iff_forall_not_mem]
  rintro ⟨name, node⟩ hchild
  exact lookup_eq_none_iff.1 (lookup_eq_none_of_vacant (h name)) _ (mem_children_iff.1 hchild) rfl

theorem setEntry_of_lookup_eq_none {nodes : List (List Text × DiskNode)}
    (h : lookup spot nodes = none) : setEntry spot node nodes = nodes ++ [(spot, node)] := by
  induction nodes with
  | nil => rfl
  | cons entry nodes ih =>
    rw [lookup] at h
    split at h
    · cases h
    · next hne =>
      rw [setEntry, if_neg hne, ih h]
      rfl

/-- A new file is one entry more in its folder. -/
theorem mem_children_set (hvacant : tree.get? (folder ++ [name]) = none)
    {child : Text × DiskNode} :
    child ∈ (tree.set (folder ++ [name]) node).children folder ↔
      child ∈ tree.children folder ∨ child = (name, node) := by
  have hnodes : (tree.set (folder ++ [name]) node).nodes =
      tree.nodes ++ [(folder ++ [name], node)] :=
    setEntry_of_lookup_eq_none (lookup_eq_none_of_vacant hvacant)
  have hnew : childName? folder (folder ++ [name], node) = some (name, node) := by
    simp [childName?]
  rw [children, children, List.mem_mergeSort, List.mem_mergeSort, hnodes, List.filterMap_append,
    List.mem_append, List.filterMap_cons_some hnew, List.filterMap_nil, List.mem_singleton]

end NoteTemplate.DiskTree
