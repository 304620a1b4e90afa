import Mathlib.Data.List.Nodup
import Mathlib.Data.List.Perm.Subperm
import NoteTemplate.Proofs.Disk.NewFolder
import NoteTemplate.Vault.Storage

/-!
# What is shown below a folder

Names that start with a dot hide what they name and everything below it.  What is left is listed
here folder by folder, in the order in which a walk comes to it (`DiskTree.below`).  On a disk on
which nothing is entered twice, the list has each shown place once, and no other place
(`DiskTree.mem_below_iff`, `DiskTree.nodup_below`).
-/

namespace NoteTemplate

theorem DiskNode.isFolder_iff {node : DiskNode} : node.isFolder = true ↔ node = .folder := by
  cases node <;> simp [DiskNode.isFolder]

namespace DiskTree

variable {tree : DiskTree} {place spot names : List Text} {name : Text} {node : DiskNode}
  {depth : Nat}

/-- What stands behind the names below the place is shown: none of the names hides it. -/
structure ShowsBelow (tree : DiskTree) (place names : List Text) (node : DiskNode) : Prop where
  ne_nil : names ≠ []
  shown : ∀ name ∈ names, Vault.isHidden name = false
  stands : tree.get? (place ++ names) = some node

/-- No place is entered twice. -/
def IsEnteredOnce (tree : DiskTree) : Prop := (tree.nodes.map Prod.fst).Nodup

instance (tree : DiskTree) : Decidable tree.IsEnteredOnce := by
  unfold IsEnteredOnce; infer_instance

/-- What is shown directly in a folder, with its place. -/
def shownIn (tree : DiskTree) (place : List Text) : List (List Text × DiskNode) :=
  ((tree.children place).filter fun child => !Vault.isHidden child.1).map fun child =>
    (place ++ [child.1], child.2)

/-- The folders among what is shown directly in a folder, the last one first. -/
def foldersIn (tree : DiskTree) (place : List Text) : List (List Text) :=
  (((tree.shownIn place).filter fun entry => entry.2.isFolder).map Prod.fst).reverse

/-- What is shown below a folder, up to `depth` names further down. -/
def below (tree : DiskTree) : (depth : Nat) → (place : List Text) → List (List Text × DiskNode)
  | 0, _ => []
  | depth + 1, place => tree.shownIn place ++ (tree.foldersIn place).flatMap (tree.below depth)

/-- Everything on the disk stands in front of this depth below the place. -/
def EndsWithin (tree : DiskTree) (place : List Text) (depth : Nat) : Prop :=
  ∀ spot node, tree.get? spot = some node → spot.length < place.length + depth

/-! ### Entries of a disk -/

theorem lookup_of_mem {nodes : List (List Text × DiskNode)} (hnodup : (nodes.map Prod.fst).Nodup)
    (h : (spot, node) ∈ nodes) : lookup spot nodes = some node := by
  induction nodes with
  | nil => cases h
  | cons entry nodes ih =>
    rw [List.map_cons, List.nodup_cons] at hnodup
    rw [lookup]
    rcases List.mem_cons.1 h with rfl | hmem
    · rw [if_pos rfl]
    · have hne : entry.1 ≠ spot := by
        rintro rfl
        exact hnodup.1 (List.mem_map.2 ⟨_, hmem, rfl⟩)
      rw [if_neg hne, ih hnodup.2 hmem]

theorem IsEnteredOnce.get?_of_mem (h : tree.IsEnteredOnce) (hne : spot ≠ [])
    (hmem : (spot, node) ∈ tree.nodes) : tree.get? spot = some node := by
  rw [get?, List.isEmpty_eq_false_iff.2 hne]
  exact lookup_of_mem h hmem

theorem eq_of_childName? {entry : List Text × DiskNode}
    (h : childName? place entry = some (name, node)) : entry = (place ++ [name], node) := by
  rw [childName?] at h
  split at h
  · next last hlast =>
    split at h
    · next hplace =>
      obtain ⟨rfl, rfl⟩ := Prod.mk.inj (Option.some.inj h)
      obtain ⟨front, hfront⟩ := List.getLast?_eq_some_iff.1 hlast
      rw [hfront, List.dropLast_concat] at hplace
      rw [← hplace, ← hfront]
    · cases h
  · cases h

theorem nodup_children (h : tree.IsEnteredOnce) (place : List Text) :
    (tree.children place).Nodup := by
  rw [children, (List.mergeSort_perm _ _).nodup_iff]
  apply List.Nodup.filterMap _ (List.Nodup.of_map Prod.fst h)
  intro entry other child hentry hother
  rw [eq_of_childName? hentry, eq_of_childName? hother]

/-- Somewhere every disk ends. -/
theorem exists_endsWithin (tree : DiskTree) (place : List Text) :
    ∃ depth, tree.EndsWithin place depth := by
  refine ⟨(tree.nodes.map Prod.fst).flatten.length + 1, fun spot node hnode => ?_⟩
  rcases List.eq_nil_or_concat' spot with rfl | ⟨folder, name, rfl⟩
  · rw [List.length_nil]
    omega
  · have hmem : folder ++ [name] ∈ tree.nodes.map Prod.fst :=
      List.mem_map.2 ⟨_, mem_nodes_of_get? hnode, rfl⟩
    have hle := (List.sublist_flatten_of_mem hmem).length_le
    omega

theorem EndsWithin.next (h : tree.EndsWithin place (depth + 1)) (name : Text) :
    tree.EndsWithin (place ++ [name]) depth := by
  intro spot node hnode
  have hlt := h spot node hnode
  rw [List.length_append, List.length_singleton]
  omega

theorem EndsWithin.depth_ne_zero (h : tree.EndsWithin place depth)
    (hfolder : tree.get? place = some node) : depth ≠ 0 := by
  have hlt := h place node hfolder
  omega

/-! ### What is shown -/

theorem mem_shownIn_iff (h : tree.IsEnteredOnce) :
    (spot, node) ∈ tree.shownIn place ↔
      ∃ name, spot = place ++ [name] ∧ Vault.isHidden name = false ∧
        tree.get? spot = some node := by
  simp only [shownIn, List.mem_map, List.mem_filter, Prod.exists, Prod.mk.injEq,
    Bool.not_eq_true', mem_children_iff]
  constructor
  · rintro ⟨name, found, ⟨hmem, hshown⟩, rfl, rfl⟩
    exact ⟨name, rfl, hshown, h.get?_of_mem (by simp) hmem⟩
  · rintro ⟨name, rfl, hshown, hnode⟩
    exact ⟨name, node, ⟨mem_nodes_of_get? hnode, hshown⟩, rfl, rfl⟩

theorem nodup_shownIn (h : tree.IsEnteredOnce) (place : List Text) :
    (tree.shownIn place).Nodup := by
  apply List.Nodup.map _ ((nodup_children h place).filter _)
  rintro ⟨name, node⟩ ⟨other, found⟩ heq
  simpa using heq

theorem mem_foldersIn_iff (h : tree.IsEnteredOnce) :
    spot ∈ tree.foldersIn place ↔
      ∃ name, spot = place ++ [name] ∧ Vault.isHidden name = false ∧
        tree.get? spot = some .folder := by
  simp only [foldersIn, List.mem_reverse, List.mem_map, List.mem_filter, Prod.exists,
    mem_shownIn_iff h, DiskNode.isFolder_iff]
  constructor
  · rintro ⟨_, _, ⟨hshown, rfl⟩, rfl⟩
    exact hshown
  · exact fun hshown => ⟨spot, .folder, ⟨hshown, rfl⟩, rfl⟩

theorem nodup_foldersIn (h : tree.IsEnteredOnce) (place : List Text) :
    (tree.foldersIn place).Nodup := by
  apply List.nodup_reverse.2
  apply List.Nodup.map_on _ ((nodup_shownIn h place).filter _)
  rintro ⟨spot, node⟩ hspot ⟨other, stands⟩ hother rfl
  rw [List.mem_filter, DiskNode.isFolder_iff] at hspot hother
  exact Prod.ext rfl (hspot.2.trans hother.2.symm)

theorem ShowsBelow.child (hshown : Vault.isHidden name = false)
    (hnode : tree.get? (place ++ [name]) = some node) : tree.ShowsBelow place [name] node :=
  ⟨List.cons_ne_nil _ _, by simpa using hshown, hnode⟩

theorem ShowsBelow.cons (hshown : Vault.isHidden name = false)
    (h : tree.ShowsBelow (place ++ [name]) names node) :
    tree.ShowsBelow place (name :: names) node where
  ne_nil := List.cons_ne_nil _ _
  shown := List.forall_mem_cons.2 ⟨hshown, h.shown⟩
  stands := by
    rw [List.append_cons]
    exact h.stands

/-- What is listed below a place is shown there. -/
theorem showsBelow_of_mem_below (h : tree.IsEnteredOnce)
    (hmem : (spot, node) ∈ tree.below depth place) :
    ∃ names, spot = place ++ names ∧ tree.ShowsBelow place names node := by
  induction depth generalizing place with
  | zero => cases hmem
  | succ depth ih =>
    rw [below, List.mem_append, List.mem_flatMap] at hmem
    rcases hmem with hmem | ⟨folder, hfolder, hmem⟩
    · obtain ⟨name, rfl, hshown, hnode⟩ := (mem_shownIn_iff h).1 hmem
      exact ⟨[name], rfl, .child hshown hnode⟩
    · obtain ⟨name, rfl, hshown, -⟩ := (mem_foldersIn_iff h).1 hfolder
      obtain ⟨names, rfl, hnames⟩ := ih hmem
      exact ⟨name :: names, (List.append_cons _ _ _).symm, hnames.cons hshown⟩

/-- What is shown below a place is listed, if the list goes deep enough. -/
theorem mem_below (h : tree.IsEnteredOnce) (hgrounded : tree.IsGrounded)
    (hdepth : tree.EndsWithin place depth) (hshows : tree.ShowsBelow place names node) :
    (place ++ names, node) ∈ tree.below depth place := by
  induction depth generalizing place names with
  | zero =>
    have hlt := hdepth _ _ hshows.stands
    rw [List.length_append] at hlt
    omega
  | succ depth ih =>
    obtain ⟨name, more, rfl⟩ := List.exists_cons_of_ne_nil hshows.ne_nil
    obtain ⟨hname, hmore⟩ := List.forall_mem_cons.1 hshows.shown
    have hnode := hshows.stands
    rw [below, List.mem_append]
    by_cases hlast : more = []
    · subst hlast
      exact Or.inl ((mem_shownIn_iff h).2 ⟨name, rfl, hname, hnode⟩)
    · rw [List.append_cons] at hnode ⊢
      obtain ⟨front, last, rfl⟩ := (List.eq_nil_or_concat' more).resolve_left hlast
      have hfolder : tree.get? (place ++ [name]) = some .folder := by
        rw [← List.append_assoc] at hnode
        exact hgrounded.get?_of_append (hgrounded.get?_folder hnode)
      exact Or.inr (List.mem_flatMap.2 ⟨place ++ [name],
        (mem_foldersIn_iff h).2 ⟨name, rfl, hname, hfolder⟩,
        ih (hdepth.next name) ⟨hlast, hmore, hnode⟩⟩)

theorem mem_below_iff (h : tree.IsEnteredOnce) (hgrounded : tree.IsGrounded)
    (hdepth : tree.EndsWithin place depth) :
    (spot, node) ∈ tree.below depth place ↔
      ∃ names, spot = place ++ names ∧ tree.ShowsBelow place names node := by
  constructor
  · exact showsBelow_of_mem_below h
  · rintro ⟨names, rfl, hshows⟩
    exact mem_below h hgrounded hdepth hshows

/-! ### Nothing is listed twice -/

/-- What is in a folder is not listed below a folder in it. -/
theorem disjoint_shownIn_below (h : tree.IsEnteredOnce) :
    List.Disjoint (tree.shownIn place) ((tree.foldersIn place).flatMap (tree.below depth)) := by
  rintro ⟨spot, node⟩ hdirect hmem
  obtain ⟨name, rfl, -⟩ := (mem_shownIn_iff h).1 hdirect
  obtain ⟨folder, hfolder, hmem⟩ := List.mem_flatMap.1 hmem
  obtain ⟨other, rfl, -⟩ := (mem_foldersIn_iff h).1 hfolder
  obtain ⟨names, heq, hnames⟩ := showsBelow_of_mem_below h hmem
  have hlength := congrArg List.length heq
  have hpos := List.length_pos_iff.2 hnames.ne_nil
  simp only [List.length_append, List.length_singleton] at hlength
  omega

/-- Below two folders that stand in the same one nothing is listed twice. -/
theorem disjoint_below (h : tree.IsEnteredOnce) {folder other : List Text}
    (hfolder : folder ∈ tree.foldersIn place) (hother : other ∈ tree.foldersIn place)
    (hne : folder ≠ other) : List.Disjoint (tree.below depth folder) (tree.below depth other) := by
  obtain ⟨left, rfl, -⟩ := (mem_foldersIn_iff h).1 hfolder
  obtain ⟨right, rfl, -⟩ := (mem_foldersIn_iff h).1 hother
  rintro ⟨spot, node⟩ hleft hright
  obtain ⟨names, rfl, -⟩ := showsBelow_of_mem_below h hleft
  obtain ⟨others, heq, -⟩ := showsBelow_of_mem_below h hright
  exact hne (List.append_inj_left heq (by simp))

theorem nodup_below (h : tree.IsEnteredOnce) (depth : Nat) (place : List Text) :
    (tree.below depth place).Nodup := by
  induction depth generalizing place with
  | zero => exact List.nodup_nil
  | succ depth ih =>
    rw [below, List.nodup_append', List.nodup_flatMap]
    refine ⟨nodup_shownIn h place, ⟨fun folder _ => ih folder, ?_⟩, disjoint_shownIn_below h⟩
    exact (nodup_foldersIn h place).imp_of_mem fun hfolder hother hne =>
      disjoint_below h hfolder hother hne

/-- No more is listed than is entered. -/
theorem length_below_le (h : tree.IsEnteredOnce) (depth : Nat) (place : List Text) :
    (tree.below depth place).length ≤ tree.nodes.length := by
  apply (List.Nodup.subperm (nodup_below h depth place) _).length_le
  rintro ⟨spot, node⟩ hmem
  obtain ⟨names, rfl, hshows⟩ := showsBelow_of_mem_below h hmem
  obtain ⟨front, name, hnames⟩ := (List.eq_nil_or_concat' names).resolve_left hshows.ne_nil
  have hnode := hshows.stands
  rw [hnames, ← List.append_assoc] at hnode ⊢
  exact mem_nodes_of_get? hnode

end DiskTree

end NoteTemplate
