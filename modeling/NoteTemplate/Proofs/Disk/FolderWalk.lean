import NoteTemplate.Proofs.Disk.Refusing

/-!
# Making folders as a walk

Folders are made from the last one back: the whole path is tried first, and what is missing in
front of it only when that fails.  The disk that is left is the one that a walk from the front
leaves, which makes every folder that is missing where it comes to it and ends at a file or at a
name that is too long (`makeFoldersFrom_walks`).  A double dot on the way leads back from a folder
that the walk has just made, so it can make folders beside the one that was asked for.  Without
double dots the walk fills the way, up to the name that is too long if there is one; a file ends
it before anything is made (`walk_ends`).
-/

namespace NoteTemplate

namespace DiskTree

variable {tree made : DiskTree} {place stop spot : List Text} {names more : List Text}
  {name : Text} {node start : DiskNode} {content : FileContent}

/-- Follow names from a folder and make each folder that is missing.  With the disk that is left
goes the folder at the end; a file on the way ends the walk, and so does the name of a missing
folder that is too long, and then there is none. -/
def walk (tree : DiskTree) (place : List Text) : List Text → DiskTree × Option (List Text)
  | [] => (tree, some place)
  | name :: names =>
    match tree.get? (DiskPath.follow place [name]) with
    | some .folder => tree.walk (DiskPath.follow place [name]) names
    | some (.file _) => (tree, none)
    | none =>
      if tree.takesPlace (DiskPath.follow place [name]) then
        (tree.set (DiskPath.follow place [name]) .folder).walk (DiskPath.follow place [name]) names
      else (tree, none)

theorem walk_cons_of_folder (h : tree.get? (DiskPath.follow place [name]) = some .folder) :
    tree.walk place (name :: names) = tree.walk (DiskPath.follow place [name]) names := by
  rw [walk, h]

theorem walk_cons_of_file (h : tree.get? (DiskPath.follow place [name]) = some (.file content)) :
    tree.walk place (name :: names) = (tree, none) := by
  rw [walk, h]

theorem walk_cons_of_vacant (h : tree.get? (DiskPath.follow place [name]) = none)
    (htakes : tree.takesPlace (DiskPath.follow place [name]) = true) :
    tree.walk place (name :: names) =
      (tree.set (DiskPath.follow place [name]) .folder).walk (DiskPath.follow place [name])
        names := by
  rw [walk, h]
  exact if_pos htakes

theorem walk_cons_of_tooLong (h : tree.get? (DiskPath.follow place [name]) = none)
    (htakes : tree.takesPlace (DiskPath.follow place [name]) = false) :
    tree.walk place (name :: names) = (tree, none) := by
  rw [walk, h]
  exact if_neg (by simp [htakes])

theorem walk_append_of_some (more : List Text) (h : tree.walk place names = (made, some stop)) :
    tree.walk place (names ++ more) = made.walk stop more := by
  fun_induction walk tree place names with
  | case1 tree place =>
    obtain ⟨rfl, hstop⟩ := Prod.mk.inj h
    obtain rfl := Option.some.inj hstop
    rfl
  | case2 tree place name names hfolder ih =>
    rw [List.cons_append, walk_cons_of_folder hfolder, ih h]
  | case3 tree place name names content hfile => cases h
  | case4 tree place name names hvacant htakes ih =>
    rw [List.cons_append, walk_cons_of_vacant hvacant htakes, ih h]
  | case5 tree place name names hvacant htakes => cases h

theorem walk_append_of_none (more : List Text) (h : tree.walk place names = (made, none)) :
    tree.walk place (names ++ more) = (made, none) := by
  fun_induction walk tree place names with
  | case1 tree place => cases h
  | case2 tree place name names hfolder ih =>
    rw [List.cons_append, walk_cons_of_folder hfolder, ih h]
  | case3 tree place name names content hfile =>
    rw [List.cons_append, walk_cons_of_file hfile, h]
  | case4 tree place name names hvacant htakes ih =>
    rw [List.cons_append, walk_cons_of_vacant hvacant htakes, ih h]
  | case5 tree place name names hvacant htakes =>
    rw [List.cons_append, walk_cons_of_tooLong hvacant (Bool.eq_false_iff.2 htakes), h]

/-! ### Where the way is there already -/

theorem walk_of_found (h : tree.locateFrom place .folder names = .ok (.found stop .folder)) :
    tree.walk place names = (tree, some stop) := by
  fun_induction walk tree place names with
  | case1 tree place =>
    obtain ⟨rfl, -⟩ := Location.found.inj (Except.ok.inj h)
    rfl
  | case2 tree place name names hfolder ih =>
    rw [locateFrom_cons, hfolder] at h
    exact ih h
  | case3 tree place name names content hfile =>
    rw [locateFrom_cons, hfile] at h
    cases names <;> simp [locateFrom, DiskNode.isFolder] at h
  | case4 tree place name names hvacant | case5 tree place name names hvacant =>
    rw [locateFrom_cons, hvacant] at h
    exact absurd h missing_ne_found

/-- A path cannot be gone on with: it ends at a file or goes on behind it, or a name that nothing
stands at is too long. -/
def IsStopped (result : Except SystemError Location) : Prop :=
  (∃ spot content, result = .ok (.found spot (.file content))) ∨
    ∃ error, error ≠ .notFound ∧ result = .error error

/-- The end of a path is missing, or more than the end. -/
def IsMissing (result : Except SystemError Location) : Prop :=
  (∃ spot, result = .ok (.vacant spot)) ∨ result = .error .notFound

theorem locateFrom_cases (tree : DiskTree) (place : List Text) (names : List Text) :
    (∃ stop, tree.locateFrom place .folder names = .ok (.found stop .folder)) ∨
      IsStopped (tree.locateFrom place .folder names) ∨
        IsMissing (tree.locateFrom place .folder names) := by
  cases hresult : tree.locateFrom place .folder names with
  | ok location =>
    cases location with
    | vacant spot => exact Or.inr (Or.inr (Or.inl ⟨spot, rfl⟩))
    | found spot node =>
      cases node with
      | folder => exact Or.inl ⟨spot, rfl⟩
      | file content => exact Or.inr (Or.inl (Or.inl ⟨spot, content, rfl⟩))
  | error error =>
    by_cases hmissing : error = .notFound
    · exact Or.inr (Or.inr (Or.inr (congrArg _ hmissing)))
    · exact Or.inr (Or.inl (Or.inr ⟨error, hmissing, rfl⟩))

theorem isStopped_missing_iff {isLast : Bool} :
    IsStopped (tree.missing place isLast) ↔ tree.takesPlace place = false := by
  rw [IsStopped, missing]
  cases tree.takesPlace place <;> cases isLast <;> simp

theorem walk_of_isStopped (h : IsStopped (tree.locateFrom place .folder names)) :
    tree.walk place names = (tree, none) := by
  fun_induction walk tree place names with
  | case1 tree place => rcases h with ⟨_, _, h⟩ | ⟨_, _, h⟩ <;> simp [locateFrom] at h
  | case2 tree place name names hfolder ih =>
    rw [locateFrom_cons, hfolder] at h
    exact ih h
  | case3 tree place name names content hfile => rfl
  | case4 tree place name names hvacant htakes ih =>
    rw [locateFrom_cons, hvacant] at h
    rw [isStopped_missing_iff.1 h] at htakes
    cases htakes
  | case5 tree place name names hvacant htakes => rfl

/-- Nothing is behind a file, nor behind a name that is too long. -/
theorem locateFrom_append_of_isStopped (h : IsStopped (tree.locateFrom place start names))
    (name : Text) (more : List Text) :
    ∃ error, error ≠ .notFound ∧
      tree.locateFrom place start (names ++ name :: more) = .error error := by
  induction names generalizing place start with
  | nil =>
    rcases h with ⟨_, _, h⟩ | ⟨_, _, h⟩
    · obtain ⟨-, rfl⟩ := Location.found.inj (Except.ok.inj h)
      exact ⟨.notFolder, by simp, rfl⟩
    · cases h
  | cons first names ih =>
    cases start with
    | file content => exact ⟨.notFolder, by simp, rfl⟩
    | folder =>
      rw [locateFrom_cons] at h
      rw [List.cons_append, locateFrom_cons]
      cases hnext : tree.get? (DiskPath.follow place [first]) with
      | none =>
        rw [hnext] at h
        refine ⟨.nameTooLong, by simp, ?_⟩
        dsimp only
        rw [missing, isStopped_missing_iff.1 h]
        rfl
      | some node =>
        rw [hnext] at h
        exact ih h

theorem locateFrom_append_of_isMissing (h : IsMissing (tree.locateFrom place start names))
    (name : Text) (more : List Text) :
    tree.locateFrom place start (names ++ name :: more) = .error .notFound := by
  induction names generalizing place start with
  | nil => rcases h with ⟨_, h⟩ | h <;> cases h
  | cons first names ih =>
    cases start with
    | file content => rcases h with ⟨_, h⟩ | h <;> cases h
    | folder =>
      rw [locateFrom_cons] at h
      rw [List.cons_append, locateFrom_cons]
      cases hnext : tree.get? (DiskPath.follow place [first]) with
      | none =>
        rw [hnext] at h
        have hmore : (names ++ name :: more).isEmpty = false := by simp
        have htakes : tree.takesPlace (DiskPath.follow place [first]) = true := by
          rw [IsMissing] at h
          dsimp only [missing] at h
          cases htakes : tree.takesPlace (DiskPath.follow place [first]) <;> simp_all
        dsimp only [missing]
        rw [hmore, htakes]
        rfl
      | some node =>
        rw [hnext] at h
        exact ih h

/-! ### What a walk leaves -/

theorem staysIn_walk (tree : DiskTree) (place names : List Text) :
    tree.StaysIn (tree.walk place names).1 := by
  fun_induction walk tree place names with
  | case1 tree place => exact .refl tree
  | case2 tree place name names hfolder ih => exact ih
  | case3 tree place name names content hfile => exact .refl tree
  | case4 tree place name names hvacant htakes ih => exact (staysIn_set hvacant .folder).trans ih
  | case5 tree place name names hvacant htakes => exact .refl tree

/-- Afterwards the way can be followed. -/
theorem locateFrom_of_walk (h : tree.walk place names = (made, some stop)) :
    made.locateFrom place .folder names = .ok (.found stop .folder) := by
  fun_induction walk tree place names with
  | case1 tree place =>
    obtain ⟨-, hstop⟩ := Prod.mk.inj h
    obtain rfl := Option.some.inj hstop
    rfl
  | case2 tree place name names hfolder ih =>
    have hstays := staysIn_walk tree (DiskPath.follow place [name]) names
    rw [h] at hstays
    rw [locateFrom_cons, hstays.keeps hfolder]
    exact ih h
  | case3 tree place name names content hfile => cases h
  | case5 tree place name names hvacant htakes => cases h
  | case4 tree place name names hvacant htakes ih =>
    have hstays := staysIn_walk (tree.set (DiskPath.follow place [name]) .folder)
      (DiskPath.follow place [name]) names
    rw [h] at hstays
    rw [locateFrom_cons, hstays.keeps (get?_set_self hvacant)]
    exact ih h

/-- A walk passes a place: no file is there, and a folder can be made if nothing is. -/
structure IsOpen (tree : DiskTree) (place : List Text) : Prop where
  noFile : ∀ content, tree.get? place ≠ some (.file content)
  takes : tree.get? place = none → tree.takesPlace place = true

/-- A walk comes to a place where a folder can be made: nothing ends the walk before. -/
inductive Meets (tree : DiskTree) : List Text → List Text → List Text → Prop where
  | next (place : List Text) (name : Text) (names : List Text)
      (takes : tree.takesPlace (DiskPath.follow place [name]) = true) :
      Meets tree place (name :: names) (DiskPath.follow place [name])
  | later {place names spot : List Text} {name : Text}
      (isOpen : tree.IsOpen (DiskPath.follow place [name]))
      (h : Meets tree (DiskPath.follow place [name]) names spot) :
      Meets tree place (name :: names) spot

theorem Meets.of_cons (h : tree.Meets place (name :: names) spot) :
    spot = DiskPath.follow place [name] ∧ tree.takesPlace spot = true ∨
      tree.IsOpen (DiskPath.follow place [name]) ∧
        tree.Meets (DiskPath.follow place [name]) names spot := by
  cases h with
  | next _ _ _ takes => exact Or.inl ⟨rfl, takes⟩
  | later isOpen h => exact Or.inr ⟨isOpen, h⟩

/-- A new folder opens no place and closes none. -/
theorem isOpen_set_iff {other : List Text} (hvacant : tree.get? place = none)
    (htakes : tree.takesPlace place = true) :
    (tree.set place .folder).IsOpen other ↔ tree.IsOpen other := by
  by_cases hother : other = place
  · rw [hother]
    exact ⟨fun _ => ⟨by simp [hvacant], fun _ => htakes⟩,
      fun _ => ⟨by simp [get?_set_self hvacant], fun _ => htakes⟩⟩
  · have hsame := get?_set_of_ne tree hother .folder
    exact ⟨fun h => ⟨hsame ▸ h.noFile, fun hnone => h.takes (hsame.trans hnone)⟩,
      fun h => ⟨hsame ▸ h.noFile, fun hnone => h.takes (hsame ▸ hnone)⟩⟩

/-- A new folder ends no walk and opens no way. -/
theorem meets_set_iff {origin : List Text} (hvacant : tree.get? place = none)
    (htakes : tree.takesPlace place = true) :
    (tree.set place .folder).Meets origin names spot ↔ tree.Meets origin names spot := by
  constructor
  · intro h
    induction h with
    | next place name names takes => exact .next place name names takes
    | later isOpen h ih => exact .later ((isOpen_set_iff hvacant htakes).1 isOpen) ih
  · intro h
    induction h with
    | next place name names takes => exact .next place name names takes
    | later isOpen h ih => exact .later ((isOpen_set_iff hvacant htakes).2 isOpen) ih

/-- What is new after a walk are folders, at the vacant places that it came to. -/
theorem get?_walk_of_vacant (hspot : tree.get? spot = none) :
    (tree.walk place names).1.get? spot = some node ↔
      node = .folder ∧ tree.Meets place names spot := by
  fun_induction walk tree place names with
  | case1 tree place =>
    rw [hspot]
    exact ⟨nofun, fun h => nomatch h.2⟩
  | case2 tree place name names hfolder ih =>
    have hne : spot ≠ DiskPath.follow place [name] := by
      rintro rfl
      rw [hfolder] at hspot
      cases hspot
    rw [ih hspot]
    refine and_congr_right fun _ => ⟨.later ⟨by simp [hfolder], by simp [hfolder]⟩, fun h => ?_⟩
    exact (h.of_cons.resolve_left fun hthis => hne hthis.1).2
  | case3 tree place name names content hfile =>
    rw [hspot]
    refine ⟨nofun, ?_⟩
    rintro ⟨-, h⟩
    rcases h.of_cons with ⟨rfl, -⟩ | ⟨isOpen, -⟩
    · rw [hfile] at hspot
      cases hspot
    · exact absurd hfile (isOpen.noFile content)
  | case4 tree place name names hvacant htakes ih =>
    by_cases heq : spot = DiskPath.follow place [name]
    · rw [heq, (staysIn_walk _ _ _).keeps (get?_set_self hvacant)]
      constructor
      · intro h
        exact ⟨(Option.some.inj h).symm, .next _ _ _ htakes⟩
      · rintro ⟨rfl, -⟩
        rfl
    · rw [ih (by rwa [get?_set_of_ne tree heq]), meets_set_iff hvacant htakes]
      refine and_congr_right fun _ => ⟨.later ⟨by simp [hvacant], fun _ => htakes⟩, fun h => ?_⟩
      exact (h.of_cons.resolve_left fun hthis => heq hthis.1).2
  | case5 tree place name names hvacant htakes =>
    rw [hspot]
    refine ⟨nofun, ?_⟩
    rintro ⟨-, h⟩
    rcases h.of_cons with ⟨rfl, htaken⟩ | ⟨isOpen, -⟩
    · exact absurd htaken htakes
    · exact absurd (isOpen.takes hvacant) htakes

/-! ### Without double dots -/

/-- How a walk without double dots ends.  The way is filled, or a file ends the walk before
anything is made, or the way is filled up to a name that is too long. -/
inductive WalkEnds (tree : DiskTree) (place names : List Text) : Prop where
  | filled {made : DiskTree} (walk_eq : tree.walk place names = (made, some (place ++ names)))
      (fills : FillsWay (place ++ names) tree made)
  | blocked (walk_eq : tree.walk place names = (tree, none))
      (isBlocked : tree.IsBlocked (place ++ names))
  | cut {made : DiskTree} {way : List Text} (walk_eq : tree.walk place names = (made, none))
      (isCut : tree.IsCutAt way (place ++ names)) (fills : FillsWay way tree made)

/-- Behind a vacant place that a folder was made at, everything is vacant. -/
theorem fills_of_vacant {base : DiskTree} (hgrounded : base.IsGrounded)
    (hdots : ['.', '.'] ∉ names) (hvacant : base.get? place = none)
    (hfills : FillsWay place base tree) :
    (∃ made, tree.walk place names = (made, some (place ++ names)) ∧
      FillsWay (place ++ names) base made) ∨
    ∃ made way, tree.walk place names = (made, none) ∧ base.IsCutAt way (place ++ names) ∧
      FillsWay way base made := by
  induction names generalizing place tree with
  | nil =>
    rw [List.append_nil]
    exact Or.inl ⟨tree, rfl, hfills⟩
  | cons name names ih =>
    have hbase : base.get? (place ++ [name]) = none := by
      rw [Option.eq_none_iff_forall_ne_some]
      intro node hnode
      rw [hgrounded.get?_folder hnode] at hvacant
      cases hvacant
    have hfollow : DiskPath.follow place [name] = place ++ [name] := follow_of_notMem hdots
    have hway : place ++ name :: names = place ++ [name] ++ names := List.append_cons _ _ _
    have hnext : tree.get? (DiskPath.follow place [name]) = none := by
      rw [hfollow, hfills.get?_behind, hbase]
    cases htakes : tree.takesPlace (DiskPath.follow place [name]) with
    | false =>
      refine Or.inr ⟨tree, place, walk_cons_of_tooLong hnext htakes, ⟨name, ?_, hbase, ?_⟩,
        hfills⟩
      · rw [hway]
        exact List.prefix_append _ _
      · rw [← htakes, hfollow, takesPlace, takesPlace, hfills.system_eq]
    | true =>
      rw [walk_cons_of_vacant hnext htakes, hfollow, hway]
      exact ih (fun hmem => hdots (List.mem_cons_of_mem _ hmem)) hbase (hfills.set hbase)

theorem walk_ends (hgrounded : tree.IsGrounded) (hdots : ['.', '.'] ∉ names)
    (hplace : tree.get? place = some .folder) : tree.WalkEnds place names := by
  induction names generalizing place with
  | nil =>
    have hwalk : tree.walk place [] = (tree, some (place ++ [])) := by
      rw [List.append_nil]
      rfl
    refine .filled hwalk ?_
    rw [List.append_nil]
    exact .refl hgrounded hplace
  | cons name names ih =>
    have hmore : ['.', '.'] ∉ names := fun hmem => hdots (List.mem_cons_of_mem _ hmem)
    have hfollow : DiskPath.follow place [name] = place ++ [name] := follow_of_notMem hdots
    have hway : place ++ name :: names = place ++ [name] ++ names := List.append_cons _ _ _
    cases hnext : tree.get? (DiskPath.follow place [name]) with
    | some node =>
      cases node with
      | folder =>
        have hwalk : tree.walk place (name :: names) = _ := walk_cons_of_folder hnext
        rw [hfollow] at hnext hwalk
        cases ih hmore hnext with
        | filled walk_eq fills =>
          rw [← hway] at walk_eq fills
          exact .filled (hwalk.trans walk_eq) fills
        | blocked walk_eq isBlocked =>
          rw [← hway] at isBlocked
          exact .blocked (hwalk.trans walk_eq) isBlocked
        | cut walk_eq isCut fills =>
          rw [← hway] at isCut
          exact .cut (hwalk.trans walk_eq) isCut fills
      | file content =>
        refine .blocked (walk_cons_of_file hnext) ⟨_, content, ?_, hnext⟩
        rw [hfollow, hway]
        exact List.prefix_append _ _
    | none =>
      cases htakes : tree.takesPlace (DiskPath.follow place [name]) with
      | false =>
        refine .cut (walk_cons_of_tooLong hnext htakes)
          ⟨name, ?_, hfollow ▸ hnext, hfollow ▸ htakes⟩ (.refl hgrounded hplace)
        rw [hway]
        exact List.prefix_append _ _
      | true =>
        have hwalk : tree.walk place (name :: names) = _ := walk_cons_of_vacant hnext htakes
        rw [hfollow] at hnext hwalk
        have hfills := (FillsWay.refl hgrounded hplace).set hnext
        have hrest := fills_of_vacant hgrounded hmore hnext hfills
        rw [← hway] at hrest
        rcases hrest with ⟨made, hmade, hfilled⟩ | ⟨made, way, hmade, hcut, hfilled⟩
        · exact .filled (hwalk.trans hmade) hfilled
        · exact .cut (hwalk.trans hmade) hcut hfilled

end DiskTree

namespace Action

variable {before : Session} {root : Text} {front names start stop : List Text} {name : Text}

theorem gives_makeFoldersFrom_front
    (hplace : before.tree.locate before.here ⟨root, front⟩ = .ok (.found start .folder))
    (hnull : DiskPath.hasNull ⟨root, front⟩ = false) :
    (makeFoldersFrom root front.reverse).Gives before ⟨⟩ before := by
  cases hfront : front.reverse with
  | nil => exact gives_pure_iff.2 ⟨rfl, rfl⟩
  | cons name names =>
    have hpath : (name :: names).reverse = front := by rw [← hfront, List.reverse_reverse]
    rw [makeFoldersFrom, hpath]
    refine gives_bind_iff.2 ⟨some .alreadyExists, before, gives_makeFolder_iff.2 ⟨hnull, ?_⟩,
      gives_acceptFolder hnull hplace⟩
    rw [hplace]
    exact ⟨rfl, rfl⟩

/-- The path of a folder, whose names are given last one first. -/
theorem reverse_names (front names : List Text) (name : Text) :
    (name :: (names ++ front.reverse)).reverse = front ++ (names.reverse ++ [name]) := by
  rw [List.reverse_cons, List.reverse_append, List.reverse_reverse, List.append_assoc]

/-- The action does what a walk does: it succeeds or fails with it, and leaves its disk. -/
def Walks (action : Action Unit) (before : Session) (start names : List Text) : Prop :=
  (∃ made stop, before.tree.walk start names = (made, some stop) ∧
    action.Gives before ⟨⟩ { before with tree := made }) ∨
  ∃ made failure, before.tree.walk start names = (made, none) ∧
    action.Fails before failure { before with tree := made }

/-- The last folder is made, or it is there already, or it cannot be made.  It is never missing
more than this folder, so what would be done then (`other`) does not matter. -/
theorem makeFolder_walks (session : Session) (other : Action Unit)
    (hnull : DiskPath.hasNull ⟨root, front ++ [name]⟩ = false)
    (htakes : session.tree.takesPath ⟨root, front ++ [name]⟩ = true)
    (hplace : session.tree.locate session.here ⟨root, front⟩ = .ok (.found stop .folder)) :
    Walks (do
      match ← makeFolder ⟨root, front ++ [name]⟩ with
      | none => pure ()
      | some .notFound => other
      | some error => acceptFolder ⟨root, front ++ [name]⟩ error) session stop [name] := by
  have hlocate := DiskTree.locate_append hplace htakes
  rw [DiskTree.locateFrom_cons] at hlocate
  cases hnext : session.tree.get? (DiskPath.follow stop [name]) with
  | none =>
    rw [hnext] at hlocate
    cases hname : session.tree.takesPlace (DiskPath.follow stop [name]) with
    | true =>
      have hmade : (makeFolder ⟨root, front ++ [name]⟩).Gives session none
          { session with tree := session.tree.set (DiskPath.follow stop [name]) .folder } := by
        refine gives_makeFolder_iff.2 ⟨hnull, ?_⟩
        rw [hlocate]
        dsimp only [DiskTree.missing]
        rw [hname]
        exact ⟨rfl, rfl⟩
      rw [Walks, DiskTree.walk_cons_of_vacant hnext hname]
      exact Or.inl ⟨_, _, rfl, gives_bind_iff.2 ⟨_, _, hmade, gives_pure_iff.2 ⟨rfl, rfl⟩⟩⟩
    | false =>
      dsimp only [DiskTree.missing] at hlocate
      rw [hname] at hlocate
      have hrefused : (makeFolder ⟨root, front ++ [name]⟩).Gives session (some .nameTooLong)
          session :=
        gives_makeFolder_iff.2 ⟨hnull, by rw [hlocate]; exact ⟨rfl, rfl⟩⟩
      rw [Walks, DiskTree.walk_cons_of_tooLong hnext hname]
      exact Or.inr ⟨_, _, rfl, hrefused.bind_fails (fails_acceptFolder_of_error hnull hlocate)⟩
  | some node =>
    rw [hnext] at hlocate
    have hthere : (makeFolder ⟨root, front ++ [name]⟩).Gives session (some .alreadyExists)
        session :=
      gives_makeFolder_iff.2 ⟨hnull, by rw [hlocate]; exact ⟨rfl, rfl⟩⟩
    cases node with
    | folder =>
      rw [Walks, DiskTree.walk_cons_of_folder hnext]
      exact Or.inl ⟨_, _, rfl, gives_bind_iff.2 ⟨_, _, hthere, gives_acceptFolder hnull hlocate⟩⟩
    | file content =>
      rw [Walks, DiskTree.walk_cons_of_file hnext]
      exact Or.inr ⟨_, _, rfl, hthere.bind_fails (fails_acceptFolder_of_file hnull hlocate)⟩

section

variable (hnull : DiskPath.hasNull ⟨root, front ++ (names.reverse ++ [name])⟩ = false)
  (htakes : before.tree.takesPath ⟨root, front ++ (names.reverse ++ [name])⟩ = true)
  (hplace : before.tree.locate before.here ⟨root, front⟩ = .ok (.found start .folder))

include hnull htakes hplace

/-- The folders in front of the last one are there. -/
theorem walks_of_found
    (hfound : before.tree.locateFrom start .folder names.reverse = .ok (.found stop .folder)) :
    Walks (makeFoldersFrom root (name :: (names ++ front.reverse))) before start
      (names.reverse ++ [name]) := by
  have hfront : before.tree.locate before.here ⟨root, front ++ names.reverse⟩ =
      .ok (.found stop .folder) := by
    rw [← List.append_assoc] at htakes
    exact (DiskTree.locate_append hplace (DiskTree.takesPath_of_append htakes)).trans hfound
  rw [← List.append_assoc] at hnull htakes
  rw [Walks, DiskTree.walk_append_of_some [name] (DiskTree.walk_of_found hfound),
    makeFoldersFrom, reverse_names, ← List.append_assoc]
  exact makeFolder_walks before _ hnull htakes hfront

/-- The way to the last folder is stopped. -/
theorem walks_of_isStopped
    (hstopped : DiskTree.IsStopped (before.tree.locateFrom start .folder names.reverse)) :
    Walks (makeFoldersFrom root (name :: (names ++ front.reverse))) before start
      (names.reverse ++ [name]) := by
  obtain ⟨error, herror, hstop⟩ := DiskTree.locateFrom_append_of_isStopped hstopped name []
  have hlocate := (DiskTree.locate_append hplace htakes).trans hstop
  have hfirst : (makeFolder ⟨root, front ++ (names.reverse ++ [name])⟩).Gives before
      (some error) before :=
    gives_makeFolder_iff.2 ⟨hnull, by rw [hlocate]; exact ⟨rfl, rfl⟩⟩
  have hrefused : (acceptFolder ⟨root, front ++ (names.reverse ++ [name])⟩ error).Fails before
      (.system error _) before :=
    fails_acceptFolder_of_error hnull hlocate
  rw [Walks, DiskTree.walk_append_of_none [name] (DiskTree.walk_of_isStopped hstopped),
    makeFoldersFrom, reverse_names]
  cases error with
  | notFound => exact absurd rfl herror
  | alreadyExists | notFolder | isFolder | nameTooLong =>
    exact Or.inr ⟨_, _, rfl, hfirst.bind_fails hrefused⟩

/-- Something in front of the last folder is missing: that is made first. -/
theorem walks_of_isMissing
    (hmissing : DiskTree.IsMissing (before.tree.locateFrom start .folder names.reverse))
    (habove : Walks (makeFoldersFrom root (names ++ front.reverse)) before start names.reverse) :
    Walks (makeFoldersFrom root (name :: (names ++ front.reverse))) before start
      (names.reverse ++ [name]) := by
  have hlocate := (DiskTree.locate_append hplace htakes).trans
    (DiskTree.locateFrom_append_of_isMissing hmissing name [])
  have hfirst : (makeFolder ⟨root, front ++ (names.reverse ++ [name])⟩).Gives before
      (some .notFound) before :=
    gives_makeFolder_iff.2 ⟨hnull, by rw [hlocate]; exact ⟨rfl, rfl⟩⟩
  rw [Walks, makeFoldersFrom, reverse_names]
  rcases habove with ⟨made, stop, hwalk, hgives⟩ | ⟨made, failure, hwalk, hfails⟩
  · have hstays := DiskTree.staysIn_walk before.tree start names.reverse
    rw [hwalk] at hstays
    rw [← hstays.takesPath_eq] at htakes
    rw [DiskTree.walk_append_of_some [name] hwalk]
    rw [← List.append_assoc] at hnull htakes hfirst ⊢
    have hfront : made.locate before.here ⟨root, front ++ names.reverse⟩ =
        .ok (.found stop .folder) :=
      (DiskTree.locate_append (hstays.locate hplace)
        (DiskTree.takesPath_of_append htakes)).trans (DiskTree.locateFrom_of_walk hwalk)
    rcases makeFolder_walks { before with tree := made } (throw (.system .notFound _)) hnull
        htakes hfront with ⟨_, _, hlast, hgivesLast⟩ | ⟨_, _, hlast, hfailsLast⟩
    · exact Or.inl ⟨_, _, hlast, gives_bind_iff.2 ⟨_, _, hfirst,
        gives_bind_iff.2 ⟨_, _, hgives, hgivesLast⟩⟩⟩
    · exact Or.inr ⟨_, _, hlast, hfirst.bind_fails (hgives.bind_fails hfailsLast)⟩
  · exact Or.inr ⟨_, _, DiskTree.walk_append_of_none [name] hwalk,
      hfirst.bind_fails (hfails.bind _)⟩

end

/-- Behind a folder that is there, folders are made as on a walk.  The names are given last one
first, and the induction is on those behind the folder. -/
theorem makeFoldersFrom_walks
    (hplace : before.tree.locate before.here ⟨root, front⟩ = .ok (.found start .folder))
    (hnull : DiskPath.hasNull ⟨root, front ++ names.reverse⟩ = false)
    (htakes : before.tree.takesPath ⟨root, front ++ names.reverse⟩ = true) :
    Walks (makeFoldersFrom root (names ++ front.reverse)) before start names.reverse := by
  induction names with
  | nil =>
    rw [List.reverse_nil, List.append_nil] at hnull
    exact Or.inl ⟨_, _, rfl, gives_makeFoldersFrom_front hplace hnull⟩
  | cons name names ih =>
    rw [List.reverse_cons] at hnull htakes ⊢
    have hinit : DiskPath.hasNull ⟨root, front ++ names.reverse⟩ = false := by
      rw [← List.append_assoc, DiskPath.hasNull, List.any_append, Bool.or_eq_false_iff] at hnull
      exact hnull.1
    have htakesInit : before.tree.takesPath ⟨root, front ++ names.reverse⟩ = true := by
      rw [← List.append_assoc] at htakes
      exact DiskTree.takesPath_of_append htakes
    rw [List.cons_append]
    rcases DiskTree.locateFrom_cases before.tree start names.reverse with
      ⟨stop, hfound⟩ | hstopped | hmissing
    · exact walks_of_found hnull htakes hplace hfound
    · exact walks_of_isStopped hnull htakes hplace hstopped
    · exact walks_of_isMissing hnull htakes hplace hmissing (ih hinit htakesInit)

theorem makeFolders_walks
    (hplace : before.tree.locate before.here ⟨root, front⟩ = .ok (.found start .folder))
    (hnull : DiskPath.hasNull ⟨root, front ++ names⟩ = false)
    (htakes : before.tree.takesPath ⟨root, front ++ names⟩ = true) :
    Walks (makeFolders ⟨root, front ++ names⟩) before start names := by
  obtain ⟨names, rfl⟩ : ∃ other : List Text, names = other.reverse :=
    ⟨names.reverse, (List.reverse_reverse _).symm⟩
  rw [makeFolders, List.reverse_append, List.reverse_reverse]
  exact makeFoldersFrom_walks hplace hnull htakes

/-! ### Folders behind a folder that is there -/

/-- The path leads to a folder of the disk, and on from there without double dots. -/
structure LeadsFrom (before : Session) (root : Text) (front start names : List Text) : Prop where
  located : before.tree.locate before.here ⟨root, front⟩ = .ok (.found start .folder)
  stands : before.tree.get? start = some .folder
  noDots : ['.', '.'] ∉ names
  noNull : DiskPath.hasNull ⟨root, front ++ names⟩ = false

/-- The action makes every folder on the way, or a file stands on it and nothing is done, or it
makes the folders in front of a name that is too long. -/
inductive FillsOrFails (action : Action Unit) (before : Session) (way : List Text) : Prop where
  | filled {tree : DiskTree} (gives : action.Gives before ⟨⟩ { before with tree := tree })
      (fills : DiskTree.FillsWay way before.tree tree)
  | blocked {failure : Failure} (fails : action.Fails before failure before)
      (isBlocked : before.tree.IsBlocked way)
  | cut {tree : DiskTree} {front : List Text} {failure : Failure}
      (fails : action.Fails before failure { before with tree := tree })
      (isCut : before.tree.IsCutAt front way) (fills : DiskTree.FillsWay front before.tree tree)

namespace LeadsFrom

/-- Without double dots a path leads to what stands at its place. -/
theorem node?_eq_get? (h : LeadsFrom before root front start names)
    (hgrounded : before.tree.IsGrounded)
    (htakes : before.tree.takesPath ⟨root, front ++ names⟩ = true) :
    before.tree.node? before.here ⟨root, front ++ names⟩ = before.tree.get? (start ++ names) := by
  rw [DiskTree.node?_eq, h.noNull, DiskTree.locate_append h.located htakes]
  cases hstands : before.tree.get? (start ++ names) with
  | some node =>
    rw [hgrounded.locateFrom_of_get? h.noDots h.stands hstands]
    rfl
  | none =>
    cases hlocate : before.tree.locateFrom start .folder names with
    | error error => rfl
    | ok location =>
      cases location with
      | vacant spot => rfl
      | found spot node =>
        have hfound := DiskTree.get?_of_locateFrom h.stands hlocate
        obtain rfl : spot = start ++ names := DiskTree.place_of_locateFrom h.noDots hlocate
        rw [hfound] at hstands
        cases hstands

theorem makeFolders_fills_or_fails (h : LeadsFrom before root front start names)
    (hgrounded : before.tree.IsGrounded)
    (htakes : before.tree.takesPath ⟨root, front ++ names⟩ = true) :
    FillsOrFails (makeFolders ⟨root, front ++ names⟩) before (start ++ names) := by
  have hwalks := makeFolders_walks h.located h.noNull htakes
  cases DiskTree.walk_ends hgrounded h.noDots h.stands with
  | filled walk_eq fills =>
    rcases hwalks with ⟨_, _, hwalk, hgives⟩ | ⟨_, _, hwalk, -⟩
    · obtain ⟨rfl, -⟩ := Prod.mk.inj (walk_eq.symm.trans hwalk)
      exact .filled hgives fills
    · cases walk_eq.symm.trans hwalk
  | blocked walk_eq isBlocked =>
    rcases hwalks with ⟨_, _, hwalk, -⟩ | ⟨_, _, hwalk, hfails⟩
    · cases walk_eq.symm.trans hwalk
    · obtain ⟨rfl, -⟩ := Prod.mk.inj (walk_eq.symm.trans hwalk)
      exact .blocked hfails isBlocked
  | cut walk_eq isCut fills =>
    rcases hwalks with ⟨_, _, hwalk, -⟩ | ⟨_, _, hwalk, hfails⟩
    · cases walk_eq.symm.trans hwalk
    · obtain ⟨rfl, -⟩ := Prod.mk.inj (walk_eq.symm.trans hwalk)
      exact .cut hfails isCut fills

end LeadsFrom

end Action

end NoteTemplate
