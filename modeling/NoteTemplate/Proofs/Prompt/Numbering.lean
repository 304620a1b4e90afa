import Mathlib.Data.List.Induction
import Mathlib.Data.List.Nodup
import NoteTemplate.Creation.Note
import NoteTemplate.Json.Reader
import NoteTemplate.Proofs.Prompt.FencedCode

/-!
# The numbers of prompts do not show

Prompts get their identifiers from a counter, and values are kept under these identifiers.  In
one row no identifier comes twice, so a prompt finds the value that was given under its own name,
the last one if there are several (`IsRow.get?_valuesFromNames`).  What a note is filled with
therefore does not depend on the number at which the counter stood.
-/

namespace NoteTemplate

variable {prompts others : List Prompt} {prompt : Prompt} {named : Keyed Text} {key : Text}
  {values shown : PromptValues} {moment : Moment}

/-! ### Identifiers -/

/-- The number that hexadecimal digits denote. -/
def hexNumber (digits : Text) : Nat :=
  digits.foldl (fun number c => 16 * number + (JsonReader.hexValue? c).getD 0) 0

theorem hexNumber_toDigits (n : Nat) : hexNumber (Nat.toDigits 16 n) = n := by
  have hdigit : ∀ digit < 16, JsonReader.hexValue? (Nat.digitChar digit) = some digit := by decide
  induction n using Nat.strongRecOn with
  | ind n ih =>
    by_cases hlt : n < 16
    · rw [Nat.toDigits_of_lt_base hlt]
      simp [hexNumber, hdigit n hlt]
    · have hrest := ih (n / 16) (by omega)
      rw [hexNumber] at hrest
      rw [Nat.toDigits_of_base_le (by decide) (by omega), hexNumber, List.foldl_append, hrest,
        List.foldl_cons, List.foldl_nil, hdigit _ (Nat.mod_lt _ (by decide)), Option.getD_some]
      omega

theorem hexNumber_paddedHex (width n : Nat) : hexNumber (paddedHex width n) = n := by
  have hzeros (count : Nat) (digits : Text) :
      hexNumber (List.replicate count '0' ++ digits) = hexNumber digits := by
    induction count with
    | zero => rfl
    | succ count ih => exact ih
  rw [paddedHex, hzeros, hexNumber_toDigits]

theorem promptId_injective : Function.Injective promptId := by
  intro left right h
  have hdigits := congrArg hexNumber (List.append_cancel_left h)
  rwa [hexNumber_paddedHex, hexNumber_paddedHex] at hdigits

theorem map_id_numberPrompts (next : Nat) (prompts : List Prompt) :
    (numberPrompts next prompts).map Prompt.id =
      (List.range' next prompts.length).map promptId := by
  induction prompts generalizing next with
  | nil => rfl
  | cons prompt prompts ih => simp [numberPrompts, ih, List.range'_succ]

/-- A row of prompts in which no name and no identifier comes twice. -/
structure IsRow (prompts : List Prompt) : Prop where
  keys : (prompts.map Prompt.key).Nodup
  ids : (prompts.map Prompt.id).Nodup

theorem isRow_numberPrompts (h : (prompts.map Prompt.key).Nodup) (next : Nat) :
    IsRow (numberPrompts next prompts) where
  keys := by rwa [map_key_numberPrompts]
  ids := by
    have hrange : (List.range' next prompts.length).Nodup := List.nodup_range'
    rw [map_id_numberPrompts]
    exact hrange.map promptId_injective

theorem isRow_extractNotePrompts (next : Nat) (text : Text) :
    IsRow (extractNotePrompts next text).1 :=
  isRow_numberPrompts (nodup_key_promptsOfTags _) next

/-! ### Values by name -/

/-- The value that is given under a name, the last one if there are several. -/
def givenFor? (named : Keyed Text) (key : Text) : Option Text :=
  (named.reverse.find? fun entry => Text.lower (Text.trim entry.1) = key).map Prod.snd

/-- Where no key comes twice, a prompt is found under its key. -/
theorem Prompt.find?_eq_some_iff (h : (prompts.map Prompt.key).Nodup) :
    Prompt.find? prompts key = some prompt ↔ prompt ∈ prompts ∧ prompt.key = key := by
  constructor
  · intro hfind
    exact ⟨List.mem_reverse.1 (List.mem_of_find?_eq_some hfind), Prompt.key_of_find? hfind⟩
  · rintro ⟨hmem, hkey⟩
    obtain ⟨found, hfound⟩ : ∃ found, Prompt.find? prompts key = some found := by
      apply Option.isSome_iff_exists.1
      exact List.find?_isSome.2 ⟨prompt, List.mem_reverse.2 hmem, by simpa using hkey⟩
    have hother : found ∈ prompts := List.mem_reverse.1 (List.mem_of_find?_eq_some hfound)
    have hsame : found = prompt :=
      List.inj_on_of_nodup_map h hother hmem ((Prompt.key_of_find? hfound).trans hkey.symm)
    rw [hfound, hsame]

namespace IsRow

/-- A prompt finds the value that is given under its name. -/
theorem get?_valuesFromNames (h : IsRow prompts) (hmem : prompt ∈ prompts) (named : Keyed Text) :
    (valuesFromNames prompts named).get? prompt.id = givenFor? named prompt.key := by
  induction named using List.reverseRecOn with
  | nil => rfl
  | append_singleton named entry ih =>
    have hgiven : givenFor? (named ++ [entry]) prompt.key =
        if Text.lower (Text.trim entry.1) = prompt.key then some entry.2
        else givenFor? named prompt.key := by
      rw [givenFor?, List.reverse_append, List.reverse_singleton, List.singleton_append,
        List.find?_cons]
      split <;> simp_all [givenFor?]
    rw [valuesFromNames, List.foldl_append, List.foldl_cons, List.foldl_nil, ← valuesFromNames,
      hgiven]
    split
    · next other hother =>
      obtain ⟨hmemOther, hkey⟩ := (Prompt.find?_eq_some_iff h.keys).1 hother
      by_cases hsame : other = prompt
      · rw [hsame] at hkey ⊢
        rw [Keyed.get?_set_self, if_pos hkey.symm]
      · have hid : prompt.id ≠ other.id := fun heq =>
          hsame (List.inj_on_of_nodup_map h.ids hmemOther hmem heq.symm)
        have hne : Text.lower (Text.trim entry.1) ≠ prompt.key := fun heq =>
          hsame (List.inj_on_of_nodup_map h.keys hmemOther hmem (hkey.trans heq))
        rw [Keyed.get?_set_of_ne hid, if_neg hne, ih]
    · next hnone =>
      have hne : Text.lower (Text.trim entry.1) ≠ prompt.key := fun heq => by
        rw [(Prompt.find?_eq_some_iff h.keys).2 ⟨hmem, heq.symm⟩] at hnone
        cases hnone
      rw [if_neg hne, ih]

end IsRow

/-! ### Values as they are shown -/

/-- The value that a prompt is given, in the format of the prompt. -/
def Prompt.showGiven [LocalZone] (moment : Moment) (prompt : Prompt) (given : Option Text) :
    Except Failure (Option Text) :=
  match given with
  | some value => some <$> prompt.showValue moment.clock.date moment.now value
  | none => .ok none

/-- The values that are shown for a row of prompts: each prompt has its own, and there are no
others. -/
structure IsShownAs (prompts : List Prompt) (shown : PromptValues) (texts : List (Option Text)) :
    Prop where
  texts_eq : prompts.map (fun prompt => shown.get? prompt.id) = texts
  others : ∀ id ∉ prompts.map Prompt.id, shown.get? id = none

namespace IsShownAs

variable {texts : List (Option Text)} (h : IsShownAs prompts shown texts)
  (hnew : prompt.id ∉ prompts.map Prompt.id)
include h hnew

theorem concat_none : IsShownAs (prompts ++ [prompt]) shown (texts ++ [none]) where
  texts_eq := by
    rw [List.map_append, h.texts_eq, List.map_singleton, h.others _ hnew]
  others id hid := by
    rw [List.map_append, List.mem_append, not_or] at hid
    exact h.others id hid.1

theorem concat_some (text : Text) :
    IsShownAs (prompts ++ [prompt]) (shown.set prompt.id text) (texts ++ [some text]) where
  texts_eq := by
    have hfront : prompts.map (fun other => Keyed.get? other.id (shown.set prompt.id text)) =
        prompts.map fun other => shown.get? other.id := by
      apply List.map_congr_left
      intro other hother
      apply Keyed.get?_set_of_ne
      rintro heq
      exact hnew (heq ▸ List.mem_map_of_mem hother)
    rw [List.map_append, hfront, h.texts_eq, List.map_singleton, Keyed.get?_set_self]
  others id hid := by
    rw [List.map_append, List.map_singleton, List.mem_append, not_or, List.mem_singleton] at hid
    rw [Keyed.get?_set_of_ne hid.2, h.others id hid.1]

end IsShownAs

/-- The values are shown one by one, until one of them cannot be shown. -/
theorem shownValues_cases [LocalZone] (hids : (prompts.map Prompt.id).Nodup) (moment : Moment)
    (values : PromptValues) :
    match prompts.mapM fun prompt => prompt.showGiven moment (values.get? prompt.id) with
    | .ok texts => ∃ shown, shownValues moment values prompts = .ok shown ∧
        IsShownAs prompts shown texts
    | .error failure => shownValues moment values prompts = .error failure := by
  induction prompts using List.reverseRecOn with
  | nil => exact ⟨[], rfl, rfl, fun _ _ => rfl⟩
  | append_singleton prompts prompt ih =>
    rw [List.map_append, List.map_singleton, ← List.concat_eq_append, List.nodup_concat] at hids
    have hstep : shownValues moment values (prompts ++ [prompt]) =
        shownValues moment values prompts >>= fun shown =>
          match values.get? prompt.id with
          | some value => do
            return shown.set prompt.id (← prompt.showValue moment.clock.date moment.now value)
          | none => .ok shown := by
      rw [shownValues, List.foldlM_append, ← shownValues]
      exact bind_congr fun shown => bind_pure _
    have hfront := ih hids.2
    rw [List.mapM_append, hstep]
    cases hmap : prompts.mapM fun prompt => prompt.showGiven moment (values.get? prompt.id) with
    | error failure =>
      rw [hmap] at hfront
      rw [hfront]
      rfl
    | ok texts =>
      rw [hmap] at hfront
      obtain ⟨shown, hshown, htexts⟩ := hfront
      have hlast : [prompt].mapM (fun prompt => prompt.showGiven moment (values.get? prompt.id)) =
          (prompt.showGiven moment (values.get? prompt.id)).map fun text => [text] := by
        rw [List.mapM_cons, List.mapM_nil]
        cases prompt.showGiven moment (values.get? prompt.id) <;> rfl
      rw [hshown, hlast]
      cases hvalue : values.get? prompt.id with
      | none => exact ⟨shown, rfl, htexts.concat_none hids.1⟩
      | some value =>
        cases hvalueShown : prompt.showValue moment.clock.date moment.now value with
        | error failure =>
          simp only [Prompt.showGiven, hvalueShown]
          rfl
        | ok text =>
          simp only [Prompt.showGiven, hvalueShown]
          exact ⟨shown.set prompt.id text, rfl, htexts.concat_some hids.1 text⟩

/-- What is filled in depends on the names of the prompts and on their values alone. -/
theorem fillNote_congr {values' : PromptValues}
    (h : prompts.map (fun prompt => (prompt.key, values.get? prompt.id)) =
      others.map fun prompt => (prompt.key, values'.get? prompt.id)) (text : Text) :
    fillNote prompts values text = fillNote others values' text := by
  have hfind (row : List Prompt) (values : PromptValues) (key : Text) :
      (Prompt.find? row key).map (Prompt.answer values) =
        (((row.map fun prompt => (prompt.key, values.get? prompt.id)).reverse.find?
          fun entry => entry.1 = key).map fun entry => entry.2.getD []) := by
    rw [Prompt.find?, ← List.map_reverse, List.find?_map, Option.map_map]
    rfl
  have hanswer (found : TagOccurrence) :
      ((found.promptIn? prompts).map fun asked => (found.span, asked.answer values)) =
        (found.promptIn? others).map fun asked => (found.span, asked.answer values') := by
    rw [TagOccurrence.promptIn?, TagOccurrence.promptIn?]
    split
    · rfl
    · have hsame : (Prompt.find? prompts (Text.lower (promptName found.value.content))).map
          (Prompt.answer values) = (Prompt.find? others
            (Text.lower (promptName found.value.content))).map (Prompt.answer values') := by
        rw [hfind, hfind, h]
      have hspan := congrArg (Option.map fun answer => (found.span, answer)) hsame
      rwa [Option.map_map, Option.map_map] at hspan
  rw [fillNote_eq_replaceSpans, fillNote_eq_replaceSpans, noteReplacements, noteReplacements]
  simp only [hanswer]

end NoteTemplate
