import NoteTemplate.Proofs.Title.Chosen
import NoteTemplate.Variable.Rendering

/-!
# Variables in a text of several parts

Whether a variable tag is seen depends on the whole text: two parts may form a tag that
neither of them has.  When every tag lies in one of the parts, the variables of the text are
those of its parts, and each part can be filled apart (`fillVariables_flatten`).
-/

namespace NoteTemplate

variable {α : Type} {recognise : Recogniser α} {left right text : Text} {pos skip : Nat}

/-! ### Scanning two parts -/

/-- What is recognised is still recognised with more characters behind it. -/
def IsStable {α : Type} (recognise : Recogniser α) : Prop :=
  ∀ text rest length value, recognise text = some (length, value) →
    recognise (text ++ rest) = some (length, value)

theorem VariableTag.isStable_recognise : IsStable VariableTag.recognise := by
  intro text rest length tag h
  obtain ⟨name, behind, rfl, hwritten, hname, hlength⟩ := recognise_iff.1 h
  exact recognise_iff.2 ⟨name, behind ++ rest, by rw [List.append_assoc], hwritten, hname, hlength⟩

/-- The same thing further behind. -/
def Occurrence.shift (offset : Nat) (found : Occurrence α) : Occurrence α :=
  ⟨found.span.shift offset, found.value⟩

theorem occurrencesFrom_shift (recognise : Recogniser α) (pos skip offset : Nat) (text : Text) :
    occurrencesFrom recognise (pos + offset) skip text =
      (occurrencesFrom recognise pos skip text).map (Occurrence.shift offset) := by
  induction text generalizing pos skip with
  | nil => simp [occurrencesFrom]
  | cons c rest ih =>
    have hnext : pos + offset + 1 = pos + 1 + offset := by omega
    cases skip with
    | succ skip => rw [occurrencesFrom, occurrencesFrom, hnext, ih]
    | zero =>
      rw [occurrencesFrom, occurrencesFrom, hnext]
      cases recognise (c :: rest) with
      | none => exact ih _ _
      | some length =>
        have hstop : pos + offset + length.1 = pos + length.1 + offset := by omega
        simp only [ih, List.map_cons, Occurrence.shift, Span.shift, hstop]

/-- When nothing lies across the seam, the parts are scanned one after the other. -/
theorem occurrencesFrom_append (hlocal : IsLocal recognise) (hstable : IsStable recognise)
    (hskip : skip ≤ left.length)
    (hclear : ∀ found ∈ occurrencesFrom recognise pos skip (left ++ right),
      found.span.stop ≤ pos + left.length ∨ pos + left.length ≤ found.span.start) :
    occurrencesFrom recognise pos skip (left ++ right) =
      occurrencesFrom recognise pos skip left ++
        occurrencesFrom recognise (pos + left.length) 0 right := by
  induction left generalizing pos skip with
  | nil =>
    obtain rfl : skip = 0 := Nat.le_zero.1 hskip
    simp [occurrencesFrom]
  | cons c left ih =>
    have hlength : pos + (c :: left).length = pos + 1 + left.length := by
      rw [List.length_cons]
      omega
    rw [hlength] at hclear ⊢
    rw [List.length_cons] at hskip
    rw [List.cons_append] at hclear ⊢
    cases skip with
    | succ skip =>
      rw [occurrencesFrom] at hclear
      rw [occurrencesFrom, occurrencesFrom]
      exact ih (by omega) hclear
    | zero =>
      cases hfound : recognise (c :: (left ++ right)) with
      | none =>
        have hleft : recognise (c :: left) = none := by
          cases hpart : recognise (c :: left) with
          | none => rfl
          | some value =>
            rw [← List.cons_append, hstable _ right _ _ hpart] at hfound
            simp at hfound
        simp only [occurrencesFrom, hfound] at hclear
        simp only [occurrencesFrom, hfound, hleft]
        exact ih (Nat.zero_le _) hclear
      | some value =>
        obtain ⟨length, value⟩ := value
        simp only [occurrencesFrom, hfound, List.mem_cons, forall_eq_or_imp] at hclear
        have hreach : length ≤ (c :: left).length := by
          rw [List.length_cons]
          omega
        have hleft := hlocal (c :: left) right length value hfound hreach
        rw [List.length_cons] at hreach
        simp only [occurrencesFrom, hfound, hleft, List.cons_append]
        rw [ih (by omega) hclear.2]

/-! ### Filling two parts -/

variable {context : RenderContext} {tags first second : List (Occurrence VariableTag)}

/-- A text whose first character is at position `pos`, with the given tags filled. -/
def fillFoundFrom [LocalZone] (context : RenderContext) (pos : Nat)
    (tags : List (Occurrence VariableTag)) (text : Text) : Except Failure Text := do
  let replacements ← tags.filterMapM fun found => do
    return (← context.renderTag found.value).map fun value => (found.span, value)
  return Text.replaceSpansFrom pos replacements text

theorem fillVariables_eq [LocalZone] (context : RenderContext) (text : Text) :
    fillVariables context text = fillFoundFrom context 0 (variableTags text) text := rfl

/-- Both texts, one behind the other. -/
def appendShown (left right : Except Failure Text) : Except Failure Text := do
  return (← left) ++ (← right)

theorem appendShown_assoc (first second third : Except Failure Text) :
    appendShown (appendShown first second) third =
      appendShown first (appendShown second third) := by
  simp only [appendShown, bind, Except.bind, pure, Except.pure]
  cases first with
  | error failure => rfl
  | ok first =>
    cases second with
    | error failure => rfl
    | ok second =>
      cases third with
      | error failure => rfl
      | ok third => simp

theorem appendShown_ok (left right : Text) :
    appendShown (.ok left) (.ok right) = .ok (left ++ right) := rfl

theorem fillFoundFrom_cons [LocalZone] (found : Occurrence VariableTag) :
    fillFoundFrom context pos (found :: tags) text = (do
      match ← context.renderTag found.value with
      | none => fillFoundFrom context pos tags text
      | some value =>
        appendShown (.ok (text.take (found.span.start - pos) ++ value))
          (fillFoundFrom context found.span.stop tags (text.drop (found.span.stop - pos)))) := by
  unfold fillFoundFrom
  rw [List.filterMapM_cons]
  cases context.renderTag found.value with
  | error failure => rfl
  | ok shown =>
    cases shown with
    | none => rfl
    | some value =>
      simp only [appendShown, bind, Except.bind, pure, Except.pure, Option.map_some]
      cases List.filterMapM (m := Except Failure) _ tags with
      | error failure => rfl
      | ok replacements => rfl

theorem fillFoundFrom_shift [LocalZone] (context : RenderContext) (pos offset : Nat)
    (tags : List (Occurrence VariableTag)) (text : Text) :
    fillFoundFrom context (pos + offset) (tags.map (Occurrence.shift offset)) text =
      fillFoundFrom context pos tags text := by
  induction tags generalizing pos text with
  | nil => rfl
  | cons found tags ih =>
    have hstart : found.span.start + offset - (pos + offset) = found.span.start - pos := by omega
    have hstop : found.span.stop + offset - (pos + offset) = found.span.stop - pos := by omega
    rw [List.map_cons, fillFoundFrom_cons, fillFoundFrom_cons]
    simp only [Occurrence.shift, Span.shift, hstart, hstop, ih]

theorem ArePlaced.weaken {tags : List (Occurrence α)} {pos' : Nat} (h : ArePlaced pos' tags)
    (hle : pos ≤ pos') : ArePlaced pos tags := by
  cases tags with
  | nil => trivial
  | cons found tags => exact ⟨hle.trans h.1, h.2⟩

theorem fillFoundFrom_behind [LocalZone] (h : ArePlaced (pos + left.length) tags) :
    fillFoundFrom context pos tags (left ++ right) =
      appendShown (.ok left) (fillFoundFrom context (pos + left.length) tags right) := by
  induction tags with
  | nil => rfl
  | cons found tags ih =>
    obtain ⟨hstart, horder, htags⟩ := h
    rw [fillFoundFrom_cons, fillFoundFrom_cons]
    cases context.renderTag found.value with
    | error failure => rfl
    | ok shown =>
      cases shown with
      | none => exact ih (htags.weaken (by omega))
      | some value =>
        have hfront : found.span.start - pos =
            left.length + (found.span.start - (pos + left.length)) := by omega
        have hbehind : found.span.stop - pos =
            left.length + (found.span.stop - (pos + left.length)) := by omega
        simp only [bind, Except.bind]
        rw [hfront, hbehind, List.take_length_add_append, List.drop_length_add_append,
          List.append_assoc, ← appendShown_ok, appendShown_assoc]

theorem fillFoundFrom_append [LocalZone] (hfirst : ArePlaced pos first)
    (hstop : ∀ found ∈ first, found.span.stop ≤ pos + left.length)
    (hsecond : ArePlaced (pos + left.length) second) :
    fillFoundFrom context pos (first ++ second) (left ++ right) =
      appendShown (fillFoundFrom context pos first left)
        (fillFoundFrom context (pos + left.length) second right) := by
  induction first generalizing pos left with
  | nil => exact fillFoundFrom_behind hsecond
  | cons found first ih =>
    obtain ⟨hstart, horder, htags⟩ := hfirst
    obtain ⟨hreach, hstops⟩ := List.forall_mem_cons.1 hstop
    rw [List.cons_append, fillFoundFrom_cons, fillFoundFrom_cons]
    cases context.renderTag found.value with
    | error failure => rfl
    | ok shown =>
      cases shown with
      | none => exact ih (htags.weaken (by omega)) hstops hsecond
      | some value =>
        have hend : found.span.stop + (left.drop (found.span.stop - pos)).length =
            pos + left.length := by
          rw [List.length_drop]
          omega
        have hstops : ∀ other ∈ first, other.span.stop ≤
            found.span.stop + (left.drop (found.span.stop - pos)).length := by rwa [hend]
        have htail := ih htags hstops (by rwa [hend])
        have hfront : (left ++ right).take (found.span.start - pos) =
            left.take (found.span.start - pos) := List.take_append_of_le_length (by omega)
        have hbehind : (left ++ right).drop (found.span.stop - pos) =
            left.drop (found.span.stop - pos) ++ right := List.drop_append_of_le_length (by omega)
        simp only [bind, Except.bind]
        rw [hfront, hbehind, htail, hend, appendShown_assoc]

/-! ### Filling parts -/

theorem arePlaced_occurrencesFrom
    (hne : ∀ text length value, recognise text = some (length, value) → 0 < length)
    (pos skip : Nat) (text : Text) :
    ArePlaced (pos + skip) (occurrencesFrom recognise pos skip text) := by
  induction text generalizing pos skip with
  | nil => trivial
  | cons c rest ih =>
    cases skip with
    | succ skip =>
      rw [occurrencesFrom]
      exact (ih (pos + 1) skip).weaken (by omega)
    | zero =>
      cases hfound : recognise (c :: rest) with
      | none =>
        simp only [occurrencesFrom, hfound]
        exact (ih (pos + 1) 0).weaken (by omega)
      | some value =>
        obtain ⟨length, value⟩ := value
        have hlength := hne _ _ _ hfound
        simp only [occurrencesFrom, hfound]
        exact ⟨Nat.le_refl _, Nat.le_add_right _ _,
          (ih (pos + 1) (length - 1)).weaken (by dsimp only; omega)⟩

theorem arePlaced_scan (pos : Nat) (text : Text) :
    ArePlaced pos (occurrencesFrom VariableTag.recognise pos 0 text) :=
  arePlaced_occurrencesFrom VariableTag.recognise_pos pos 0 text

theorem span_of_mem_scan {found : Occurrence VariableTag}
    (h : found ∈ occurrencesFrom VariableTag.recognise pos skip text) :
    found.span.start < found.span.stop ∧ found.span.start < pos + text.length := by
  obtain ⟨offset, length, hoffset, hspan, hfound⟩ := recognise_of_mem_occurrencesFrom h
  have hlength := VariableTag.recognise_pos _ _ _ hfound
  rw [hspan]
  dsimp only
  omega

/-- A stretch lies in one of the parts of a text; the first part starts at position `pos`. -/
def LiesInPart (pos : Nat) : List Text → Span Nat → Prop
  | [], _ => False
  | part :: parts, span =>
    (pos ≤ span.start ∧ span.stop ≤ pos + part.length) ∨
      LiesInPart (pos + part.length) parts span

instance decidableLiesInPart : (pos : Nat) → (parts : List Text) → (span : Span Nat) →
    Decidable (LiesInPart pos parts span)
  | _, [], _ => inferInstanceAs (Decidable False)
  | pos, part :: parts, span =>
    have := decidableLiesInPart (pos + part.length) parts span
    inferInstanceAs (Decidable (_ ∨ _))

theorem LiesInPart.le_start {parts : List Text} {span : Span Nat} (h : LiesInPart pos parts span) :
    pos ≤ span.start := by
  induction parts generalizing pos with
  | nil => exact absurd h id
  | cons part parts ih =>
    rcases h with h | h
    · exact h.1
    · have hlater := ih h
      omega

/-- The scan of a text from a position on, with its variables filled. -/
theorem fillFoundFrom_scan [LocalZone] (pos : Nat) (text : Text) :
    fillFoundFrom context pos (occurrencesFrom VariableTag.recognise pos 0 text) text =
      fillVariables context text := by
  have hshift := occurrencesFrom_shift VariableTag.recognise 0 0 pos text
  rw [Nat.zero_add] at hshift
  rw [hshift, fillVariables_eq]
  have hfill := fillFoundFrom_shift context 0 pos (variableTags text) text
  rwa [Nat.zero_add] at hfill

theorem mapM_fillVariables_cons [LocalZone] (part : Text) (parts : List Text) :
    ((part :: parts).mapM (fillVariables context)).map List.flatten =
      appendShown (fillVariables context part)
        ((parts.mapM (fillVariables context)).map List.flatten) := by
  rw [List.mapM_cons]
  simp only [appendShown, bind, Except.bind, pure, Except.pure]
  cases fillVariables context part with
  | error failure => rfl
  | ok shown =>
    cases parts.mapM (fillVariables context) with
    | error failure => rfl
    | ok later => simp [Except.map]

theorem fillFoundFrom_flatten [LocalZone] {parts : List Text}
    (h : ∀ found ∈ occurrencesFrom VariableTag.recognise pos 0 parts.flatten,
      LiesInPart pos parts found.span) :
    fillFoundFrom context pos (occurrencesFrom VariableTag.recognise pos 0 parts.flatten)
      parts.flatten = (parts.mapM (fillVariables context)).map List.flatten := by
  induction parts generalizing pos with
  | nil => rfl
  | cons part parts ih =>
    rw [List.flatten_cons] at h ⊢
    have hclear : ∀ found ∈ occurrencesFrom VariableTag.recognise pos 0 (part ++ parts.flatten),
        found.span.stop ≤ pos + part.length ∨ pos + part.length ≤ found.span.start :=
      fun found hfound => (h found hfound).imp And.right LiesInPart.le_start
    have hscan := occurrencesFrom_append VariableTag.isLocal_recognise
      VariableTag.isStable_recognise (Nat.zero_le _) hclear
    rw [hscan] at h ⊢
    have hstop : ∀ found ∈ occurrencesFrom VariableTag.recognise pos 0 part,
        found.span.stop ≤ pos + part.length := by
      intro found hfound
      have hspan := span_of_mem_scan hfound
      rcases h found (List.mem_append_left _ hfound) with h | h
      · exact h.2
      · have hstart := h.le_start
        omega
    have hparts : ∀ found ∈ occurrencesFrom VariableTag.recognise (pos + part.length) 0
        parts.flatten, LiesInPart (pos + part.length) parts found.span := by
      intro found hfound
      have hspan := span_of_mem_scan hfound
      have hstart := le_start_of_mem_occurrencesFrom hfound
      rcases h found (List.mem_append_right _ hfound) with h | h
      · omega
      · exact h
    rw [fillFoundFrom_append (arePlaced_scan _ _) hstop (arePlaced_scan _ _),
      fillFoundFrom_scan, ih hparts, mapM_fillVariables_cons]

/-- When every tag lies in one of the parts, each part can be filled apart. -/
theorem fillVariables_flatten [LocalZone] {parts : List Text}
    (h : ∀ found ∈ variableTags parts.flatten, LiesInPart 0 parts found.span) :
    fillVariables context parts.flatten =
      (parts.mapM (fillVariables context)).map List.flatten :=
  fillFoundFrom_flatten h

end NoteTemplate
