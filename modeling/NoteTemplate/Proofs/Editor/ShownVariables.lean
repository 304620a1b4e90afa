import Mathlib.Data.List.Perm.Subperm
import NoteTemplate.Proofs.Editor.Overlap

/-!
# Which variables are highlighted

The highlights of the variables are found in one pass: a row of prompts is walked along with
the variables, and a prompt that ends in front of a variable is dropped for all later ones.
Asking every prompt again for every variable gives the same highlights in the same order
(`filter_highlights_variable`).
-/

namespace NoteTemplate

variable {text : Text} {shown : Occurrence VariableTag}

/-- The variable starts neither in a code block nor in a prompt, but for prompts that start in a
code block themselves. -/
structure IsShown (text : Text) (shown : Occurrence VariableTag) : Prop where
  outside : insideCodeBlock (codeBlocks text) shown.span.start = false
  uncovered : ∀ found ∈ promptTags text,
    insideCodeBlock (codeBlocks text) found.span.start = false →
      ¬found.span.covers shown.span.start = true

instance (text : Text) (shown : Occurrence VariableTag) : Decidable (IsShown text shown) :=
  decidable_of_iff
    (insideCodeBlock (codeBlocks text) shown.span.start = false ∧ ∀ found ∈ promptTags text,
      insideCodeBlock (codeBlocks text) found.span.start = false →
        ¬found.span.covers shown.span.start = true)
    ⟨fun h => ⟨h.1, h.2⟩, fun h => ⟨h.1, h.2⟩⟩

theorem insideCodeBlock_eq_false_iff {pos : Int} :
    insideCodeBlock (codeBlocks text) pos = false ↔
      ∀ block ∈ codeBlocks text, ¬block.Holds pos := by
  rw [← Bool.not_eq_true, insideCodeBlock_iff]
  exact not_exists.trans (forall_congr' fun block => not_and)

theorem mem_highlightedVariables_iff_isShown :
    shown ∈ highlightedVariables text ↔ shown ∈ variableTags text ∧ IsShown text shown := by
  rw [mem_highlightedVariables_iff, and_congr_right_iff]
  intro _
  constructor
  · rintro ⟨houtside, huncovered⟩
    refine ⟨insideCodeBlock_eq_false_iff.2 houtside, fun found hfound hfree => ?_⟩
    exact huncovered found
      (mem_promptTagsOutsideCode_iff.2 ⟨hfound, insideCodeBlock_eq_false_iff.1 hfree⟩)
  · rintro ⟨houtside, huncovered⟩
    refine ⟨insideCodeBlock_eq_false_iff.1 houtside, fun found hfound => ?_⟩
    obtain ⟨htag, hfree⟩ := mem_promptTagsOutsideCode_iff.1 hfound
    exact huncovered found htag (insideCodeBlock_eq_false_iff.2 hfree)

/-- A part of a list without repetitions is known by its elements. -/
theorem eq_filter_of_sublist {α : Type} {part whole : List α} {keep : α → Bool}
    (hpart : part.Sublist whole) (hnodup : whole.Nodup)
    (hmem : ∀ a, a ∈ part ↔ a ∈ whole ∧ keep a = true) : part = whole.filter keep := by
  have hkept : part.filter keep = part :=
    List.filter_eq_self.2 fun a ha => ((hmem a).1 ha).2
  have hsublist : part.Sublist (whole.filter keep) := hkept ▸ hpart.filter keep
  have hsubset : whole.filter keep ⊆ part :=
    fun a ha => (hmem a).2 (List.mem_filter.1 ha)
  exact hsublist.eq_of_length_le (List.subperm_of_subset (hnodup.filter keep) hsubset).length_le

theorem nodup_variableTags (text : Text) : (variableTags text).Nodup := by
  apply (pairwise_variableTags text).imp_of_mem
  rintro left right hleft - hle rfl
  have hlength := start_lt_stop_of_mem_variableTags hleft
  omega

/-- The walk along the prompts leaves what every prompt leaves. -/
theorem highlightedVariables_eq_filter (text : Text) :
    highlightedVariables text = (variableTags text).filter fun shown => IsShown text shown := by
  have hsublist : (highlightedVariables text).Sublist (variableTags text) :=
    List.filter_sublist.trans (outsidePrompts_sublist _ _)
  apply eq_filter_of_sublist hsublist (nodup_variableTags text)
  intro shown
  rw [mem_highlightedVariables_iff_isShown, decide_eq_true_iff]

/-- Of a variable in a code block, one in a prompt and one behind them the last is left. -/
example : (highlightedVariables ("\x60\x60\x60\n\x7b\x7btime\x7d\x7d\n\x60\x60\x60\n" ++
    "\x7b% A:date:\x7b\x7bb\x7d\x7d %\x7d \x7b\x7bdate\x7d\x7d").toList).map
      Occurrence.span = [⟨36, 44⟩] := by
  decide +kernel

/-- The highlights of variables that stand one behind the other are in order. -/
theorem pairwise_before_variables (text : Text) :
    ((highlightedVariables text).map fun shown => (⟨shown.span, .variable⟩ : Highlight)).Pairwise
      fun left right => left.before right = true := by
  apply List.pairwise_map.2
  apply (pairwise_highlightedVariables text).imp_of_mem
  intro left right hleft _ hle
  have hlength := start_lt_stop_of_mem_variableTags (mem_highlightedVariables_iff.1 hleft).1
  exact Highlight.before_iff.2 (Or.inl (by dsimp only; omega))

/-- Two highlights of one kind that both stand before each other are one. -/
theorem Highlight.eq_of_before {left right : Highlight} (hkind : left.kind = right.kind)
    (hleft : left.before right = true) (hright : right.before left = true) : left = right := by
  rw [Highlight.before_iff] at hleft hright
  obtain ⟨⟨start, stop⟩, kind⟩ := left
  obtain ⟨⟨otherStart, otherStop⟩, otherKind⟩ := right
  dsimp only at hkind hleft hright
  obtain rfl : start = otherStart := by omega
  obtain rfl : stop = otherStop := by omega
  rw [hkind]

/-- Sorting keeps the highlights of the variables and adds none. -/
theorem perm_filter_variable (text : Text) :
    ((highlights text).filter fun spot => spot.kind = .variable).Perm
      ((highlightedVariables text).map fun shown => ⟨shown.span, .variable⟩) := by
  have hprompts : ((promptTagsOutsideCode text).flatMap TagOccurrence.highlights).filter
      (fun spot => decide (spot.kind = .variable)) = [] := by
    apply List.filter_eq_nil_iff.2
    intro spot hspot hkind
    obtain ⟨found, -, hfound⟩ := List.mem_flatMap.1 hspot
    exact TagOccurrence.kind_ne_variable hfound (of_decide_eq_true hkind)
  have hvariables : ((highlightedVariables text).map fun shown =>
      (⟨shown.span, .variable⟩ : Highlight)).filter
        (fun spot => decide (spot.kind = .variable)) =
      (highlightedVariables text).map fun shown => ⟨shown.span, .variable⟩ := by
    apply List.filter_eq_self.2
    intro spot hspot
    obtain ⟨shown, -, rfl⟩ := List.mem_map.1 hspot
    exact decide_eq_true rfl
  have hperm := (List.mergeSort_perm ((promptTagsOutsideCode text).flatMap
    TagOccurrence.highlights ++ (highlightedVariables text).map fun found =>
      ⟨found.span, .variable⟩) Highlight.before).filter fun spot => spot.kind = .variable
  rwa [List.filter_append, hprompts, hvariables, List.nil_append] at hperm

/-- Among the highlights of a text, those of variables are in order the ones of the variables that
start neither in a code block nor in a prompt outside the code blocks, every prompt being asked. -/
theorem filter_highlights_variable (text : Text) :
    (highlights text).filter (fun spot => spot.kind = .variable) =
      ((variableTags text).filter fun shown => IsShown text shown).map
        fun shown => ⟨shown.span, .variable⟩ := by
  rw [← highlightedVariables_eq_filter]
  apply List.Perm.eq_of_pairwise ?_ ((pairwise_before_highlights text).filter _)
    (pairwise_before_variables text) (perm_filter_variable text)
  intro left right hleft hright hbefore hbehind
  have hkind := of_decide_eq_true (List.mem_filter.1 hleft).2
  obtain ⟨shown, -, rfl⟩ := List.mem_map.1 hright
  exact Highlight.eq_of_before hkind hbefore hbehind

end NoteTemplate
