import NoteTemplate.Proofs.Terminal.Effective
import NoteTemplate.Proofs.Text.Replacing
import NoteTemplate.Proofs.Text.Scan

/-!
# Escaped texts in a message

An escaped text has no tag that takes effect.  Words around it have none either, and a closing
tag behind it starts with a bracket of its own, so a message that quotes one text closes no
style that is not open.
-/

namespace NoteTemplate.Markup

variable {c : Char} {text rest body : Text} {length : Nat} {tag : MarkupTag}

/-! ### Escaping a text -/

/-- A text and its escaped form, without what is done at its end: each tag is made text, and all
the rest is kept. -/
inductive Escapes : Text → Text → Prop
  | nil : Escapes [] []
  | keep {c : Char} {rest body : Text} (none : recogniseTag (c :: rest) = none)
      (behind : Escapes rest body) : Escapes (c :: rest) (c :: body)
  | tag {text body : Text} {length : Nat} {tag : MarkupTag}
      (found : recogniseTag text = some (length, tag))
      (behind : Escapes (text.drop length) body) : Escapes text (escapedTag tag ++ body)

theorem escapes_replaceSpansFrom (pos skip : Nat) (text : Text) :
    Escapes (text.drop skip) (Text.replaceSpansFrom (pos + skip)
      ((occurrencesFrom recogniseTag pos skip text).map
        fun found => (found.span, escapedTag found.value)) (text.drop skip)) := by
  induction text generalizing pos skip with
  | nil =>
    rw [List.drop_nil, occurrencesFrom_eq_nil _ (Nat.zero_le _)]
    exact .nil
  | cons c rest ih =>
    cases skip with
    | succ skip =>
      have hplace : pos + (skip + 1) = pos + 1 + skip := by omega
      rw [List.drop_succ_cons, hplace]
      exact ih _ _
    | zero =>
      rw [List.drop_zero, Nat.add_zero, occurrencesFrom]
      split
      · next length tag hfound =>
        have hpos : 0 < length := (effective_of_recognised hfound false).1
        have hrest := ih (pos + 1) (length - 1)
        have hplace : pos + 1 + (length - 1) = pos + length := by omega
        have hdrop : rest.drop (length - 1) = (c :: rest).drop length := by
          obtain ⟨count, rfl⟩ := Nat.exists_eq_succ_of_ne_zero (Nat.ne_of_gt hpos)
          rfl
        rw [hplace, hdrop] at hrest
        rw [List.map_cons, Text.replaceSpansFrom, Nat.sub_self, Nat.add_sub_cancel_left]
        exact .tag hfound hrest
      · next hnone =>
        rw [Text.replaceSpansFrom_cons]
        · exact .keep hnone (ih (pos + 1) 0)
        · intro entry hentry
          obtain ⟨found, hfound, rfl⟩ := List.mem_map.1 hentry
          obtain ⟨offset, length, -, hspan, -⟩ := recognise_of_mem_occurrencesFrom hfound
          rw [hspan]
          dsimp only
          omega

/-- At the end of the escaped form a backslash that stands alone is doubled. -/
theorem exists_escapes (text : Text) :
    ∃ body, Escapes text body ∧ escape text =
      if (body.reverse.takeWhile (· = '\\')).length = 1 then body ++ ['\\'] else body :=
  ⟨_, escapes_replaceSpansFrom 0 0 text, rfl⟩

/-! ### The parts of a tag -/

theorem recogniseTag_replicate (count : Nat) (rest : Text) :
    recogniseTag (List.replicate count '\\' ++ rest) = (recogniseTag rest).map fun found =>
      (found.1 + count, ⟨found.2.backslashes + count, found.2.inside⟩) := by
  induction count with
  | zero => simp
  | succ count ih =>
    rw [List.replicate_succ, List.cons_append, recogniseTag_backslash, ih, Option.map_map]
    rfl

/-- What a tag is made of, with the text behind it. -/
structure IsTag (text : Text) (tag : MarkupTag) (behind : Text) : Prop where
  eq : text = List.replicate tag.backslashes '\\' ++ '[' :: (tag.inside ++ ']' :: behind)
  noBracket : tag.inside.any isTagBracket = false
  starts : tag.inside.head?.any startsTag = true

theorem isTag_of_recognised (h : recogniseTag text = some (length, tag)) :
    IsTag text tag (text.drop length) := by
  induction text generalizing length tag with
  | nil => cases h
  | cons c rest ih =>
    by_cases hslash : c = '\\'
    · rw [hslash, recogniseTag_backslash] at h
      obtain ⟨⟨count, other⟩, hother, heq⟩ := Option.map_eq_some_iff.1 h
      obtain ⟨rfl, rfl⟩ := Prod.mk.inj heq
      obtain ⟨htext, hnone, hstarts⟩ := ih hother
      refine ⟨?_, hnone, hstarts⟩
      rw [hslash, List.drop_succ_cons, List.replicate_succ, List.cons_append, ← htext]
    · by_cases hopen : c = '['
      · rw [hopen, recogniseTag_bracket] at h
        obtain ⟨inside, hinside, heq⟩ := Option.map_eq_some_iff.1 h
        obtain ⟨rfl, rfl⟩ := Prod.mk.inj heq
        obtain ⟨hclosed, hstarts⟩ := Option.filter_eq_some_iff.1 hinside
        obtain ⟨hnone, behind, rfl⟩ := closed?_eq_some_iff.1 hclosed
        refine ⟨?_, hnone, hstarts⟩
        have hlength : inside.length + 2 = ('[' :: (inside ++ [']'])).length := by simp
        rw [hopen, List.append_cons, ← List.cons_append, hlength, List.drop_left]
        simp
      · rw [recogniseTag_other hslash hopen] at h
        cases h

namespace IsTag

variable {behind : Text} (h : IsTag text tag behind)
include h

theorem any_isTagBracket : text.any isTagBracket = true := by
  rw [h.eq]
  simp [isTagBracket]

theorem closed?_eq_none : closed? text = none := by
  have hnone : (List.replicate tag.backslashes '\\').any isTagBracket = false := by
    simp [isTagBracket]
  rw [h.eq, closed?_append_of_not_any hnone]
  rfl

/-- The escaped form of a tag is a tag with an odd number of backslashes. -/
theorem recogniseTag_escapedTag (body : Text) :
    ∃ length, recogniseTag (escapedTag tag ++ body) =
        some (length, ⟨2 * tag.backslashes + 1, tag.inside⟩) ∧
      (escapedTag tag ++ body).drop length = body := by
  have hinside : inside? (tag.inside ++ ']' :: body) = some tag.inside := by
    rw [inside?, closed?_eq_some_iff.2 ⟨h.noBracket, body, rfl⟩]
    exact Option.filter_eq_some_iff.2 ⟨rfl, h.starts⟩
  have htext : escapedTag tag ++ body =
      List.replicate (2 * tag.backslashes + 1) '\\' ++ '[' :: (tag.inside ++ ']' :: body) := by
    simp [escapedTag]
  have hfound : recogniseTag (escapedTag tag ++ body) =
      some ((escapedTag tag).length, ⟨2 * tag.backslashes + 1, tag.inside⟩) := by
    have hlength : (escapedTag tag).length = tag.inside.length + 2 + (2 * tag.backslashes + 1) := by
      simp [escapedTag]
      omega
    rw [htext, recogniseTag_replicate, recogniseTag_bracket, hinside, hlength]
    simp
  exact ⟨_, hfound, List.drop_left⟩

end IsTag

/-! ### The escaped form -/

theorem Escapes.closed?_eq (h : Escapes text body) : closed? body = closed? text := by
  induction h with
  | nil => rfl
  | keep _ _ ih => rw [closed?, closed?, ih]
  | tag hfound _ _ =>
    obtain ⟨escaped, hescaped, -⟩ := (isTag_of_recognised hfound).recogniseTag_escapedTag _
    rw [(isTag_of_recognised hfound).closed?_eq_none,
      (isTag_of_recognised hescaped).closed?_eq_none]

/-- A text without brackets is its own escaped form. -/
theorem Escapes.eq_of_not_any (h : Escapes text body) (hany : text.any isTagBracket = false) :
    body = text := by
  induction h with
  | nil => rfl
  | keep _ _ ih =>
    rw [List.any_cons, Bool.or_eq_false_iff] at hany
    rw [ih hany.2]
  | tag hfound _ _ =>
    rw [(isTag_of_recognised hfound).any_isTagBracket] at hany
    cases hany

theorem recogniseTag_behind_backslash (h : recogniseTag ('\\' :: rest) = none) :
    recogniseTag rest = none := by
  rwa [recogniseTag_backslash, Option.map_eq_none_iff] at h

theorem inside?_of_not_recognised (h : recogniseTag ('[' :: rest) = none) :
    inside? rest = none := by
  rwa [recogniseTag_bracket, Option.map_eq_none_iff] at h

/-- No tag takes effect in the escaped form.  Where no tag starts, backslashes in front change
nothing. -/
theorem Escapes.effective_eq_nil (h : Escapes text body) :
    effective false body = [] ∧ (recogniseTag text = none → ∀ odd, effective odd body = []) := by
  induction h with
  | nil => exact ⟨rfl, fun _ _ => rfl⟩
  | @keep c rest body hnone hbehind ih =>
    have hbody (odd : Bool) : effective odd (c :: body) = [] := by
      by_cases hslash : c = '\\'
      · rw [hslash] at hnone
        rw [hslash, effective_backslash, ih.2 (recogniseTag_behind_backslash hnone)]
      · by_cases hopen : c = '['
        · rw [hopen] at hnone
          have hinside : inside? body = none := by
            rw [inside?, hbehind.closed?_eq]
            exact inside?_of_not_recognised hnone
          rw [hopen, effective_bracket, hinside, ih.1]
          cases odd <;> rfl
        · rw [effective_other hslash hopen, ih.1]
    exact ⟨hbody false, fun _ => hbody⟩
  | @tag text body length tag hfound _ ih =>
    obtain ⟨escaped, hescaped, hdrop⟩ := (isTag_of_recognised hfound).recogniseTag_escapedTag body
    have hodd : ¬false = decide ((2 * tag.backslashes + 1) % 2 = 1) := by
      simp
    refine ⟨?_, fun hnone => ?_⟩
    · rw [(effective_of_recognised hescaped false).2, hdrop, ih.1, if_neg hodd]
      rfl
    · rw [hfound] at hnone
      cases hnone

theorem effective_escape (text : Text) : effective false (escape text) = [] := by
  obtain ⟨body, hbody, heq⟩ := exists_escapes text
  rw [heq]
  split
  · have hinside (tail : Text) (hopen : openEnd? false body = some tail) :
        inside? (tail ++ ['\\']) = none := by
      rw [inside?, closed?_append_of_not_any (not_any_of_openEnd? hopen)]
      rfl
    rw [effective_append, hbody.effective_eq_nil.1]
    cases hopen : openEnd? false body with
    | none => rfl
    | some tail =>
      rw [Option.bind_some, hinside tail hopen]
      rfl
  · exact hbody.effective_eq_nil.1

/-- Words are written as they are. -/
theorem escape_of_isWords (h : text.IsWords) : escape text = text := by
  obtain ⟨body, hbody, heq⟩ := exists_escapes text
  obtain rfl := hbody.eq_of_not_any h.1
  have hlast := h.2
  rw [← List.head?_reverse] at hlast
  rw [heq, if_neg]
  cases hreverse : body.reverse with
  | nil => simp
  | cons c rest =>
    have hc : c ≠ '\\' := fun hc => hlast (by rw [hreverse, hc]; rfl)
    simp [hc]

/-! ### Messages that quote a text -/

theorem endsOdd_of_getLast? (h : text.getLast? ≠ some '\\') (odd : Bool) (hne : text ≠ []) :
    endsOdd odd text = false := by
  induction text generalizing odd with
  | nil => exact absurd rfl hne
  | cons c rest ih =>
    cases rest with
    | nil =>
      have hc : c ≠ '\\' := by simpa using h
      rw [endsOdd, if_neg hc]
      rfl
    | cons d rest =>
      rw [List.getLast?_cons_cons] at h
      rw [endsOdd]
      split <;> exact ih h _ (by simp)

theorem endsOdd_of_isWords (h : text.IsWords) : endsOdd false text = false := by
  cases text with
  | nil => rfl
  | cons c rest => exact endsOdd_of_getLast? h.2 false (by simp)

/-- No tag takes effect in words around a text, not even with the start of a tag behind. -/
theorem effective_words {front behind : Text} (text : Text) (hfront : front.IsWords)
    (hbehind : behind.IsWords) (last : Text) (hlast : closed? last = none) :
    effective false (front ++ escape text ++ behind ++ last) =
      effective (endsOdd (endsOdd false (escape text)) behind) last := by
  have hmiddle : (openEnd? false (escape text)).bind
      (fun tail => inside? (tail ++ (behind ++ last))) = none := by
    rw [Option.bind_eq_none_iff]
    intro tail htail
    rw [inside?, closed?_append_of_not_any (not_any_of_openEnd? htail),
      closed?_append_of_not_any hbehind.1, hlast]
    rfl
  rw [List.append_assoc, List.append_assoc, effective_append, effective_of_not_any hfront.1,
    openEnd?_of_not_any hfront.1, endsOdd_of_isWords hfront, effective_append, effective_escape,
    hmiddle, effective_append, effective_of_not_any hbehind.1, openEnd?_of_not_any hbehind.1]
  rfl

theorem unopenedTag?_escape {front behind : Text} (text : Text) (hfront : front.IsWords)
    (hbehind : behind.IsWords) : unopenedTag? (front ++ escape text ++ behind) = none := by
  have heffective := effective_words text hfront hbehind [] rfl
  rw [List.append_nil] at heffective
  rw [unopenedTag?_eq_none_iff, heffective]
  rfl

theorem unopenedTag?_styled {style : String} {front behind : Text} (text : Text)
    (hstyle : style ∈ ["bold", "dim", "red", "green"]) (hfront : front.IsWords)
    (hbehind : behind.IsWords) :
    unopenedTag? (styled style (front ++ escape text ++ behind)) = none := by
  have hall : ∀ style ∈ ["bold", "dim", "red", "green"],
      effective false ('[' :: style.toList ++ [']']) = [style.toList] ∧
        openEnd? false ('[' :: style.toList ++ [']']) = none ∧
        endsOdd false ('[' :: style.toList ++ [']']) = false ∧
        ∀ odd, unopened? [] (([style.toList] ++
          effective odd ('[' :: '/' :: style.toList ++ [']'])).map (MarkupTag.mk 0)) = none := by
    decide
  obtain ⟨htags, hopen, hends, hcloses⟩ := hall style hstyle
  have hmessage : styled style (front ++ escape text ++ behind) =
      ('[' :: style.toList ++ [']']) ++
        (front ++ escape text ++ behind ++ ('[' :: '/' :: style.toList ++ [']'])) := by
    simp [styled]
  rw [unopenedTag?_eq_none_iff, hmessage, effective_append, htags, hopen, hends,
    effective_words text hfront hbehind _ rfl]
  exact hcloses _

/-- The markup of a plain terminal. -/
@[reducible] def styling : Styling where
  escape := escape
  refusal? message := (unopenedTag? message).map fun tag =>
    '[' :: tag.inside ++ "] closes nothing that is open".toList
  escape_of_isWords := escape_of_isWords
  refusal?_escape text hfront hbehind := by
    rw [unopenedTag?_escape text hfront hbehind]
    rfl
  refusal?_styled text hstyle hfront hbehind := by
    rw [unopenedTag?_styled text hstyle hfront hbehind]
    rfl

end NoteTemplate.Markup
