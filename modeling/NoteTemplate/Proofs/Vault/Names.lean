import Mathlib.Data.List.Basic
import NoteTemplate.Proofs.Text.Split
import NoteTemplate.Proofs.Title.Cleaning
import NoteTemplate.Vault.Notes

/-!
# Names in paths

A path is read back into the names that it was made from.  The name of a note has no
character that would cut it, so the path of the note is that of its folder with one name
more, and the note is listed under its own name.
-/

namespace NoteTemplate

variable {part name filename folder path title : Text} {parts : List Text}

/-- No character of the text cuts a path. -/
def IsUncut (text : Text) : Prop := ∀ c ∈ text, c ≠ '/' ∧ c ≠ '\\'

/-- A name that can stand in a path. -/
structure IsPathName (name : Text) : Prop where
  ne_nil : name ≠ []
  ne_dot : name ≠ ['.']
  isUncut : IsUncut name

theorem IsUncut.no_slash (h : IsUncut name) : '/' ∉ name :=
  fun hmem => (h _ hmem).1 rfl

theorem IsUncut.append {other : Text} (h : IsUncut name) (h' : IsUncut other) :
    IsUncut (name ++ other) :=
  List.forall_mem_append.2 ⟨h, h'⟩

theorem isUncut_decimal (number : Nat) : IsUncut (decimal number) := by
  intro c hc
  have hdigit := isDigit_of_mem_decimal hc
  constructor <;> rintro rfl <;> revert hdigit <;> decide

theorem isPathName_of_mem_vaultParts (h : part ∈ vaultParts path) : IsPathName part := by
  obtain ⟨hmem, hkept⟩ := List.mem_filter.1 h
  simp only [Bool.and_eq_true, Bool.not_eq_true', List.isEmpty_eq_false_iff,
    decide_eq_true_eq] at hkept
  have hchars := Text.mem_of_mem_splitOn hmem
  refine ⟨hkept.1, hkept.2, fun c hc => ⟨(hchars c hc).2, ?_⟩⟩
  rintro rfl
  obtain ⟨d, -, hd⟩ := List.mem_map.1 (hchars _ hc).1
  split at hd
  · cases hd
  · next hne => exact hne hd

theorem map_backslash_eq_self (h : '\\' ∉ path) :
    path.map (fun c => if c = '\\' then '/' else c) = path := by
  calc path.map (fun c => if c = '\\' then '/' else c) = path.map id := by
        apply List.map_congr_left
        intro c hc
        have hne : c ≠ '\\' := by
          rintro rfl
          exact h hc
        rw [if_neg hne]
        rfl
    _ = path := List.map_id _

theorem mem_join_iff {separator c : Char} (parts : List Text) (hne : c ≠ separator) :
    c ∈ Text.join [separator] parts ↔ ∃ part ∈ parts, c ∈ part := by
  induction parts with
  | nil => simp
  | cons part parts ih =>
    cases parts with
    | nil => simp
    | cons next parts =>
      rw [Text.join, List.mem_append, List.mem_append, ih]
      simp [hne]

/-- The path of one or more names has nothing but them and slashes. -/
theorem vaultPath_eq_join (hne : parts ≠ []) (h : ∀ part ∈ parts, IsPathName part) :
    vaultPath parts = Text.join ['/'] parts := by
  rw [vaultPath]
  split
  · next hempty =>
    obtain ⟨part, more, rfl⟩ := List.exists_cons_of_ne_nil hne
    obtain ⟨c, rest, hc⟩ := List.exists_cons_of_ne_nil (h part List.mem_cons_self).ne_nil
    have hslash : c ≠ '/' := by
      rintro rfl
      exact (h part List.mem_cons_self).isUncut.no_slash (hc ▸ List.mem_cons_self)
    have hmem := (mem_join_iff (part :: more) hslash).2
      ⟨part, List.mem_cons_self, hc ▸ List.mem_cons_self⟩
    rw [hempty] at hmem
    cases hmem
  · rfl

theorem backslash_notMem_join (h : ∀ part ∈ parts, IsPathName part) :
    '\\' ∉ Text.join ['/'] parts := by
  intro hmem
  obtain ⟨part, hpart, hc⟩ := (mem_join_iff parts (by decide)).1 hmem
  exact ((h part hpart).isUncut _ hc).2 rfl

/-- The names of a path are read back from it. -/
theorem vaultParts_vaultPath (parts : List Text) (h : ∀ part ∈ parts, IsPathName part) :
    vaultParts (vaultPath parts) = parts := by
  by_cases hne : parts = []
  · subst hne
    decide
  · rw [vaultParts, vaultPath_eq_join hne h, map_backslash_eq_self (backslash_notMem_join h),
      Text.splitOn_join (fun part hpart => (h part hpart).isUncut.no_slash) hne,
      List.filter_eq_self]
    intro part hpart
    simp [(h part hpart).ne_nil, (h part hpart).ne_dot]

/-- The usual form of a path has the same names. -/
theorem vaultParts_normalizePath (path : Text) :
    vaultParts (normalizePath path) = vaultParts path :=
  vaultParts_vaultPath _ fun _ => isPathName_of_mem_vaultParts

theorem isRootPath_iff : isRootPath path = true ↔ vaultParts path = [] := by
  rw [isRootPath, decide_eq_true_eq]
  constructor
  · intro hroot
    rw [← vaultParts_normalizePath, hroot]
    decide
  · intro hparts
    rw [normalizePath, hparts]
    rfl

theorem vaultParts_name (h : IsPathName name) : vaultParts name = [name] := by
  have hparts := vaultParts_vaultPath [name] (by simpa using h)
  have hpath : vaultPath [name] = name := by
    rw [vaultPath, Text.join_singleton]
    split
    · exact absurd rfl h.ne_nil
    · rfl
  rwa [hpath] at hparts

/-- The names of joined paths stand one behind the other. -/
theorem vaultParts_joinPath_append (folder name : Text) :
    vaultParts (joinPath folder name) = vaultParts folder ++ vaultParts name := by
  apply vaultParts_vaultPath
  intro part hpart
  cases List.mem_append.1 hpart with
  | inl hpart => exact isPathName_of_mem_vaultParts hpart
  | inr hpart => exact isPathName_of_mem_vaultParts hpart

theorem vaultParts_joinPath (h : IsPathName name) :
    vaultParts (joinPath folder name) = vaultParts folder ++ [name] := by
  rw [vaultParts_joinPath_append, vaultParts_name h]

/-- What stands behind the last slash of a path is its last name. -/
theorem name_joinPath (h : IsPathName name) (isFolder : Bool) :
    (VaultEntry.mk (joinPath folder name) isFolder).name = name := by
  have hnone : Text.cutAtLast? '/' name = none :=
    Text.cutAtLast?_eq_none_iff.2 h.isUncut.no_slash
  rw [VaultEntry.name, joinPath, vaultParts_name h]
  dsimp only
  cases hparts : vaultParts folder with
  | nil =>
    have hpath : vaultPath ([] ++ [name]) = name := by
      rw [vaultPath, List.nil_append, Text.join_singleton]
      split
      · exact absurd rfl h.ne_nil
      · rfl
    rw [hpath, hnone]
  | cons part parts =>
    have hpath : vaultPath (part :: parts ++ [name]) =
        Text.join ['/'] (part :: parts) ++ '/' :: name := by
      rw [vaultPath, Text.join_append_singleton (by simp)]
      split
      · next hempty => simp at hempty
      · rfl
    rw [hpath, Text.cutAtLast?_append _ h.isUncut.no_slash]

/-! ### Names of notes -/

/-- The name of a note file, without its extension. -/
structure IsNoteName (filename : Text) : Prop where
  ne_nil : filename ≠ []
  head_ne_dot : filename.head? ≠ some '.'
  isUncut : IsUncut filename

theorem isNoteName_cleanFilename (h : cleanFilename title ≠ []) :
    IsNoteName (cleanFilename title) where
  ne_nil := h
  head_ne_dot hdot := by
    have hedge := (Text.trimWhile_eq_self_iff.1 (Text.trimWhile_trimWhile isFilenameEdge _)).1 _ hdot
    revert hedge
    decide
  isUncut c hc := by
    have hallowed := isAllowed_of_mem_cleanFilename hc
    constructor <;> rintro rfl <;> revert hallowed <;> decide

theorem isNoteName_untitled : IsNoteName untitled where
  ne_nil := by decide
  head_ne_dot := by decide
  isUncut := by
    have hall : untitled.all (fun c => c ≠ '/' && c ≠ '\\') = true := by decide
    intro c hc
    simpa using List.all_eq_true.1 hall c hc

/-- A number behind a name changes nothing about it. -/
theorem IsNoteName.append_number (h : IsNoteName filename) (number : Nat) :
    IsNoteName (filename ++ ' ' :: decimal number) where
  ne_nil := by simp
  head_ne_dot := by
    rw [List.head?_append_of_ne_nil _ h.ne_nil]
    exact h.head_ne_dot
  isUncut := by
    have hblank : IsUncut [' '] := by simp [IsUncut]
    exact h.isUncut.append (hblank.append (isUncut_decimal number))

theorem IsNoteName.isPathName (h : IsNoteName filename) :
    IsPathName (filename ++ '.' :: noteExtension) where
  ne_nil := by simp
  ne_dot := by
    intro heq
    have hlength := congrArg List.length heq
    simp [noteExtension] at hlength
  isUncut := h.isUncut.append (by simp [IsUncut, noteExtension])

theorem IsNoteName.not_isHidden (h : IsNoteName filename) :
    Vault.isHidden (filename ++ '.' :: noteExtension) = false := by
  rw [Vault.isHidden, List.head?_append_of_ne_nil _ h.ne_nil]
  exact decide_eq_false h.head_ne_dot

theorem hasNoteExtension_append (filename : Text) :
    hasNoteExtension (filename ++ '.' :: noteExtension) = true :=
  List.isSuffixOf_iff_suffix.2 (List.suffix_append _ _)

theorem vaultParts_notePath (h : IsNoteName filename) :
    vaultParts (notePath folder filename) =
      vaultParts folder ++ [filename ++ '.' :: noteExtension] :=
  vaultParts_joinPath h.isPathName

/-- A note is listed under its own name. -/
theorem extension_notePath (h : IsNoteName filename) :
    (VaultEntry.mk (notePath folder filename) false).extension = noteExtension := by
  rw [VaultEntry.extension, notePath, name_joinPath h.isPathName,
    Text.cutAtLast?_append filename (by decide)]
  rfl

/-- A file has the extension of notes exactly when its name ends in it. -/
theorem extension_eq_noteExtension_iff (folder : Text) (hname : IsPathName name) :
    (VaultEntry.mk (joinPath folder name) false).extension = noteExtension ↔
      hasNoteExtension name = true := by
  rw [VaultEntry.extension, name_joinPath hname, hasNoteExtension, List.isSuffixOf_iff_suffix,
    if_neg Bool.false_ne_true]
  constructor
  · intro h
    split at h
    · next cut hcut =>
      obtain ⟨hparts, -⟩ := Text.cutAtLast?_eq_some_iff.1 hcut
      exact ⟨cut.1, by rw [← h, hparts]⟩
    · cases h
  · rintro ⟨front, rfl⟩
    rw [Text.cutAtLast?_append front (by decide)]

theorem basename_notePath (h : IsNoteName filename) :
    (VaultEntry.mk (notePath folder filename) false).basename = filename := by
  rw [VaultEntry.basename, extension_notePath h, notePath, name_joinPath h.isPathName]
  simp [noteExtension]

end NoteTemplate
