import NoteTemplate.Proofs.Vault.Names

/-!
# Joining paths

A path of the vault stands for its row of names, and joining two paths puts one row behind the
other.  So it does not matter how joins are grouped, the root is neutral, and a path is in its
usual form as soon as it has been normalized once (`normalizePath_joinPath_laws`).
-/

namespace NoteTemplate

variable {path folder name : Text} {parts : List Text}

/-- A path that is written with its names only: each is there, none is a single dot, and nothing
but single slashes stands between them. -/
structure IsPlainPath (path : Text) : Prop where
  parts : ∀ part ∈ Text.splitOn '/' path, part ≠ [] ∧ part ≠ ['.']
  no_backslash : '\\' ∉ path
  head_ne_slash : path.head? ≠ some '/'
  last_ne_slash : path.getLast? ≠ some '/'

/-! ### Names of joined texts -/

/-- A slash between two texts keeps their names apart, whatever the texts are. -/
theorem vaultParts_append_slash (front behind : Text) :
    vaultParts (front ++ '/' :: behind) = vaultParts front ++ vaultParts behind := by
  rw [vaultParts, List.map_append, List.map_cons, if_neg (by decide), Text.splitOn_append,
    List.filter_append]
  rfl

/-- Behind a folder that is not the root, a slash and the name are written. -/
theorem joinPath_eq (folder name : Text) :
    joinPath folder name =
      if isRootPath folder then normalizePath name
      else normalizePath (normalizePath folder ++ '/' :: name) := by
  split
  · next hroot =>
    rw [joinPath, isRootPath_iff.1 hroot]
    rfl
  · rw [normalizePath, vaultParts_append_slash, vaultParts_normalizePath, joinPath]

/-! ### Plain paths -/

/-- The names of a path say already that no slash stands at its ends. -/
theorem isPlainPath_of_parts (hparts : ∀ part ∈ Text.splitOn '/' path, part ≠ [] ∧ part ≠ ['.'])
    (hbackslash : '\\' ∉ path) : IsPlainPath path where
  parts := hparts
  no_backslash := hbackslash
  head_ne_slash hhead := by
    obtain ⟨behind, rfl⟩ := List.head?_eq_some_iff.1 hhead
    exact (hparts [] (by simp [Text.splitOn])).1 rfl
  last_ne_slash hlast := by
    obtain ⟨front, rfl⟩ := List.getLast?_eq_some_iff.1 hlast
    have hmem : [] ∈ Text.splitOn '/' (front ++ ['/']) := by
      rw [Text.splitOn_append]
      exact List.mem_append_right _ List.mem_cons_self
    exact (hparts [] hmem).1 rfl

theorem isPlainPath_vaultPath (hne : parts ≠ []) (h : ∀ part ∈ parts, IsPathName part) :
    IsPlainPath (vaultPath parts) := by
  rw [vaultPath_eq_join hne h]
  apply isPlainPath_of_parts
  · rw [Text.splitOn_join (fun part hpart => (h part hpart).isUncut.no_slash) hne]
    exact fun part hpart => ⟨(h part hpart).ne_nil, (h part hpart).ne_dot⟩
  · exact backslash_notMem_join h

theorem normalizePath_eq_root_or (path : Text) :
    normalizePath path = vaultRoot ∨ IsPlainPath (normalizePath path) := by
  by_cases hparts : vaultParts path = []
  · rw [normalizePath, hparts]
    exact Or.inl rfl
  · exact Or.inr (isPlainPath_vaultPath hparts fun _ => isPathName_of_mem_vaultParts)

/-- The parts between the slashes of a plain path are its names. -/
theorem IsPlainPath.vaultParts_eq (h : IsPlainPath path) :
    vaultParts path = Text.splitOn '/' path := by
  rw [vaultParts, map_backslash_eq_self h.no_backslash, List.filter_eq_self]
  intro part hpart
  simp [h.parts part hpart]

theorem IsPlainPath.normalizePath_eq (h : IsPlainPath path) : normalizePath path = path := by
  have hnames : ∀ part ∈ vaultParts path, IsPathName part :=
    fun _ => isPathName_of_mem_vaultParts
  rw [h.vaultParts_eq] at hnames
  rw [normalizePath, h.vaultParts_eq,
    vaultPath_eq_join (Text.splitOn_ne_nil '/' path) hnames, Text.join_splitOn]

/-- The paths that are left as they are. -/
theorem normalizePath_eq_self_iff :
    normalizePath path = path ↔ path = vaultRoot ∨ IsPlainPath path := by
  constructor
  · intro heq
    have hform := normalizePath_eq_root_or path
    rwa [heq] at hform
  · rintro (rfl | hplain)
    · decide
    · exact hplain.normalizePath_eq

/-- Normalizing a path gives the root or a plain path, and leaves exactly these as they are, so
it changes nothing the second time.  Joining writes the second path behind the first one; it may
be grouped in either way, and joining with the root on either side only normalizes. -/
theorem normalizePath_joinPath_laws (path folder name : Text) :
    normalizePath (normalizePath path) = normalizePath path ∧
      (normalizePath path = vaultRoot ∨ IsPlainPath (normalizePath path)) ∧
      (normalizePath path = path ↔ path = vaultRoot ∨ IsPlainPath path) ∧
      (joinPath folder name =
        if isRootPath folder then normalizePath name
        else normalizePath (normalizePath folder ++ '/' :: name)) ∧
      joinPath (joinPath path folder) name = joinPath path (joinPath folder name) ∧
      joinPath vaultRoot path = normalizePath path ∧
      joinPath path vaultRoot = normalizePath path := by
  have hroot : vaultParts vaultRoot = [] := by decide
  refine ⟨?_, normalizePath_eq_root_or path, normalizePath_eq_self_iff, joinPath_eq folder name,
    ?_, ?_, ?_⟩
  · rw [normalizePath, vaultParts_normalizePath]
    rfl
  · rw [joinPath, vaultParts_joinPath_append, List.append_assoc, ← vaultParts_joinPath_append,
      joinPath]
    rfl
  · rw [joinPath, hroot, List.nil_append]
    rfl
  · rw [joinPath, hroot, List.append_nil]
    rfl

end NoteTemplate
