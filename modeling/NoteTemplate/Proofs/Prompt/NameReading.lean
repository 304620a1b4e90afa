import NoteTemplate.Proofs.Prompt.ContentReading
import NoteTemplate.Proofs.Prompt.Grammar

/-!
# The name that a tag gives

The name is what stands in front of the first colon of the content, without blanks
(`promptName_eq`).  A colon is never part of the ending of a tag, so the name of a tag with a
type can be read off its inside, and the inside of a tag without one has to have something
besides blanks and a closing mark.
-/

namespace NoteTemplate

variable {before inside rest content : Text} {c : Char}

/-- What stands behind an opening mark; the whole text when it has none. -/
def withoutMark (text : Text) : Text := if text.head? = some '?' then text.tail else text

theorem withoutMark_append (hne : before ≠ []) (rest : Text) :
    withoutMark (before ++ rest) = withoutMark before ++ rest := by
  obtain ⟨c, more, rfl⟩ := List.exists_cons_of_ne_nil hne
  rw [withoutMark, withoutMark, List.cons_append, List.head?_cons, List.head?_cons]
  split <;> rfl

theorem withoutMark_sublist (text : Text) : (withoutMark text).Sublist text := by
  rw [withoutMark]
  split
  · exact List.tail_sublist text
  · exact List.Sublist.refl text

/-! ### The name of a content -/

theorem promptName_of_trim_colon (h : Text.trim content = before ++ ':' :: rest)
    (hbefore : ':' ∉ before) : promptName content = Text.trim before := by
  cases hcut : Text.cutAt? ':' rest with
  | none =>
    have htype := Text.cutAt?_eq_none_iff.1 hcut
    obtain ⟨_, _, _, hcontent⟩ := PromptContent.ofText_typed h hbefore htype
    rw [promptName, hcontent]
    rfl
  | some cut =>
    have htype := Text.notMem_of_cutAt? hcut
    rw [Text.eq_of_cutAt? hcut] at h
    obtain ⟨_, _, _, _, _, hcontent⟩ := PromptContent.ofText_detailed h hbefore htype
    rw [promptName, hcontent]
    rfl

/-- The name is what stands in front of the first colon, without blanks at its ends. -/
theorem promptName_eq (content : Text) :
    promptName content = Text.trim (content.takeWhile (· ≠ ':')) := by
  cases hcut : Text.cutAt? ':' content with
  | none =>
    have hcolon := Text.cutAt?_eq_none_iff.1 hcut
    have hwhole : content.takeWhile (· ≠ ':') = content := by
      rw [List.takeWhile_eq_self_iff]
      intro c hc
      simpa using fun heq : c = ':' => hcolon (heq ▸ hc)
    rw [hwhole]
    by_cases hne : Text.trim content = []
    · rw [promptName, PromptContent.ofText]
      simp [Segment.trimmed, hne, PromptContent.name]
    · have hname : ':' ∉ Text.trim content := fun h => hcolon ((Text.trim_sublist _).mem h)
      rw [promptName, PromptContent.ofText_named rfl hne hname]
      rfl
  | some cut =>
    obtain ⟨before, rest⟩ := cut
    have hbefore := Text.notMem_of_cutAt? hcut
    obtain rfl := Text.eq_of_cutAt? hcut
    have hnotLeft : ':' ∉ Text.trimLeft before := fun h =>
      hbefore (Text.trimLeft_suffix.sublist.mem h)
    rw [Text.takeWhile_append_separator rest hbefore, ← Text.trim_trimLeft before]
    exact promptName_of_trim_colon (Text.trim_append_cons (by decide) before rest) hnotLeft

/-! ### The content of an inside -/

namespace PromptTag

/-- An ending has nothing in it but blanks and a mark. -/
theorem IsLeftover.notMem (h : IsLeftover rest) (hc : isBlank c = false) (hmark : c ≠ '?') :
    c ∉ rest := by
  intro hmem
  cases h with
  | unmarked h => simp [List.all_eq_true.1 h c hmem] at hc
  | marked h =>
    rcases List.mem_cons.1 hmem with heq | hmem
    · exact hmark heq
    · simp [List.all_eq_true.1 h c hmem] at hc

theorem body_ofInside_eq (hlength : 2 ≤ inside.length) :
    (ofInside inside).body inside = withoutMark inside := by
  rw [body, withoutMark]
  by_cases hmark : inside.head? = some '?'
  · rw [if_pos hmark, if_pos (hasOpenMark_ofInside.2 ⟨hmark, hlength⟩)]
  · rw [if_neg hmark, if_neg fun hopen => hmark (hasOpenMark_ofInside.1 hopen).1]

theorem content_prefix_body (hne : inside ≠ []) :
    (ofInside inside).content <+: (ofInside inside).body inside := by
  obtain ⟨leftover, hbody, -, -⟩ := (isReadingOf_ofInside hne).exists_leftover
  rw [hbody]
  exact List.prefix_append _ _

/-- What has to be content takes everything in front of it into the content. -/
theorem exists_content_eq (hlength : 2 ≤ inside.length)
    (hinside : withoutMark inside = before ++ c :: rest) (hc : isBlank c = false)
    (hmark : c ≠ '?') : ∃ more, (ofInside inside).content = before ++ c :: more := by
  have hne : inside ≠ [] := by
    rintro rfl
    simp at hlength
  obtain ⟨leftover, hbody, hleftover, -⟩ := (isReadingOf_ofInside hne).exists_leftover
  rw [body_ofInside_eq hlength, hinside, List.append_eq_append_iff] at hbody
  rcases hbody with ⟨front, hcontent, hrest⟩ | ⟨front, -, hleft⟩
  · cases front with
    | nil =>
      rw [List.nil_append] at hrest
      exact absurd (hrest ▸ List.mem_cons_self) (hleftover.notMem hc hmark)
    | cons d front =>
      obtain ⟨rfl, -⟩ := List.cons_eq_cons.1 hrest
      exact ⟨front, hcontent⟩
  · have hmem : c ∈ leftover := by
      rw [hleft]
      simp
    exact absurd hmem (hleftover.notMem hc hmark)

/-! ### The name of a tag -/

/-- The name of a tag with a type. -/
theorem promptName_of_colon (hlength : 2 ≤ inside.length)
    (hinside : withoutMark inside = before ++ ':' :: rest) (hbefore : ':' ∉ before) :
    promptName (ofInside inside).content = Text.trim before := by
  obtain ⟨more, hcontent⟩ := exists_content_eq hlength hinside (by decide) (by decide)
  rw [promptName_eq, hcontent, Text.takeWhile_append_separator more hbefore]

/-- A tag has a name when something in front of the first colon has to be content. -/
theorem promptName_ne_nil_of_mem (hlength : 2 ≤ inside.length)
    (hinside : withoutMark inside = before ++ c :: rest) (hbefore : ':' ∉ before)
    (hc : isBlank c = false) (hmark : c ≠ '?') (hcolon : c ≠ ':') :
    promptName (ofInside inside).content ≠ [] := by
  obtain ⟨more, hcontent⟩ := exists_content_eq hlength hinside hc hmark
  have htake : (before ++ c :: more).takeWhile (· ≠ ':') =
      before ++ c :: more.takeWhile (· ≠ ':') := by
    rw [List.takeWhile_append_of_pos, List.takeWhile_cons]
    · simp [hcolon]
    · intro d hd
      simpa using fun heq : d = ':' => hbefore (heq ▸ hd)
  rw [promptName_eq, hcontent, htake, Text.trim_append_cons hc]
  simp

/-- A tag with nothing but blanks in it has no name. -/
theorem promptName_eq_nil_of_blank (hlength : 2 ≤ inside.length)
    (hblank : Text.isBlankText (withoutMark inside) = true) :
    promptName (ofInside inside).content = [] := by
  have hne : inside ≠ [] := by
    rintro rfl
    simp at hlength
  have hstart := content_prefix_body hne
  rw [body_ofInside_eq hlength] at hstart
  rw [promptName_eq, Text.trim_eq_nil_iff]
  exact List.all_eq_true.2 fun c hc =>
    List.all_eq_true.1 hblank c (hstart.mem ((List.takeWhile_sublist _).mem hc))

end PromptTag

end NoteTemplate
