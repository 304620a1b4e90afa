import NoteTemplate.Terminal.Markup

/-!
# Tags that take effect

A tag with an odd number of backslashes in front is text; the others set styles.  The tags that
take effect are found here by a recursion that keeps only the parity of the backslashes, and
they are the ones that the scan of a message lists (`effective_eq`).  Over an append they are
those of both parts, with at most one in between: a bracket left open in the first part may be
closed in the second (`effective_append`).
-/

namespace NoteTemplate.Markup

variable {c : Char} {text rest left right inside tail message : Text} {odd : Bool}
  {length : Nat} {tag : MarkupTag}

/-- The text in front of the first bracket, if that bracket closes. -/
def closed? : Text → Option Text
  | [] => none
  | c :: rest =>
    if c = ']' then some []
    else if c = '[' then none
    else (closed? rest).map (c :: ·)

/-- The inside of a tag whose opening bracket stands right in front of the text. -/
def inside? (text : Text) : Option Text :=
  (closed? text).filter fun inside => inside.head?.any startsTag

/-- The insides of the tags that take effect, when an odd number of backslashes stands in front
of the text or not. -/
def effective (odd : Bool) : Text → List Text
  | [] => []
  | c :: rest =>
    if c = '\\' then effective (!odd) rest
    else if c = '[' ∧ odd = false then (inside? rest).toList ++ effective false rest
    else effective false rest

/-- What stands behind the last bracket of a text, if that bracket opens a tag that would take
effect. -/
def openEnd? (odd : Bool) : Text → Option Text
  | [] => none
  | c :: rest =>
    if c = '\\' then openEnd? (!odd) rest
    else if c = '[' ∧ odd = false ∧ rest.any isTagBracket = false then some rest
    else openEnd? false rest

/-- Does an odd number of backslashes stand at the end of the text? -/
def endsOdd (odd : Bool) : Text → Bool
  | [] => odd
  | c :: rest => if c = '\\' then endsOdd (!odd) rest else endsOdd false rest

/-! ### One tag -/

theorem closed?_eq (text : Text) :
    closed? text =
      if (text.drop (text.takeWhile fun c => c ≠ '[' && c ≠ ']').length).head? = some ']' then
        some (text.takeWhile fun c => c ≠ '[' && c ≠ ']')
      else none := by
  induction text with
  | nil => rfl
  | cons c rest ih =>
    rw [closed?]
    by_cases hclose : c = ']'
    · simp [hclose]
    · by_cases hopen : c = '['
      · simp [hopen]
      · rw [if_neg hclose, if_neg hopen, ih, List.takeWhile_cons_of_pos (by simp [hclose, hopen])]
        split <;> simp_all

/-- A backslash in front of a tag belongs to the tag. -/
theorem recogniseTag_backslash (rest : Text) :
    recogniseTag ('\\' :: rest) =
      (recogniseTag rest).map fun found =>
        (found.1 + 1, ⟨found.2.backslashes + 1, found.2.inside⟩) := by
  rw [recogniseTag, recogniseTag, List.takeWhile_cons_of_pos (by decide)]
  dsimp only
  rw [List.length_cons, List.drop_succ_cons]
  generalize (rest.takeWhile fun c => c = '\\').length = count
  split
  · split
    · rw [Option.map_some]
      simp only [Option.some.injEq, Prod.mk.injEq, and_true]
      omega
    · rfl
  · rfl

theorem any_head?_takeWhile (c : Char) (rest : Text) :
    ((c :: rest).takeWhile fun d => d ≠ '[' && d ≠ ']').head?.any startsTag = startsTag c := by
  by_cases hopen : c = '['
  · rw [hopen]
    rfl
  · by_cases hclose : c = ']'
    · rw [hclose]
      rfl
    · rw [List.takeWhile_cons_of_pos (by simp [hopen, hclose])]
      rfl

/-- A tag starts at a bracket when its inside is closed. -/
theorem recogniseTag_bracket (rest : Text) :
    recogniseTag ('[' :: rest) =
      (inside? rest).map fun inside => (inside.length + 2, ⟨0, inside⟩) := by
  cases rest with
  | nil => rfl
  | cons c rest =>
    have hrun : recogniseTag ('[' :: c :: rest) =
        let inside := (c :: rest).takeWhile fun d => d ≠ '[' && d ≠ ']'
        if startsTag c && ((c :: rest).drop inside.length).head? = some ']' then
          some (0 + inside.length + 2, ⟨0, inside⟩)
        else none := rfl
    rw [hrun, inside?, closed?_eq]
    dsimp only
    by_cases hclosed : ((c :: rest).drop
        ((c :: rest).takeWhile fun d => d ≠ '[' && d ≠ ']').length).head? = some ']'
    · rw [if_pos hclosed, hclosed, Option.filter_some, any_head?_takeWhile, Nat.zero_add]
      cases startsTag c <;> rfl
    · rw [if_neg hclosed, decide_eq_false hclosed, Bool.and_false]
      rfl

theorem recogniseTag_other (hslash : c ≠ '\\') (hopen : c ≠ '[') (rest : Text) :
    recogniseTag (c :: rest) = none := by
  rw [recogniseTag, List.takeWhile_cons_of_neg (by simpa using hslash)]
  dsimp only [List.length_nil, List.drop_zero]
  split
  · next heq => exact absurd (List.cons.inj heq).1 hopen
  · rfl

/-! ### The scan -/

theorem effective_backslash (odd : Bool) (rest : Text) :
    effective odd ('\\' :: rest) = effective (!odd) rest := rfl

theorem effective_bracket (odd : Bool) (rest : Text) :
    effective odd ('[' :: rest) =
      (if odd = false then (inside? rest).toList else []) ++ effective false rest := by
  cases odd <;> rfl

theorem effective_other (hslash : c ≠ '\\') (hopen : c ≠ '[') (odd : Bool) (rest : Text) :
    effective odd (c :: rest) = effective false rest := by
  rw [effective, if_neg hslash, if_neg fun h => hopen h.1]

/-- No tag takes effect in front of a bracket that closes. -/
theorem effective_of_closed? (h : closed? text = some inside) (odd : Bool) :
    effective odd text = effective false (text.drop (inside.length + 1)) := by
  induction text generalizing inside odd with
  | nil => cases h
  | cons c rest ih =>
    rw [closed?] at h
    by_cases hclose : c = ']'
    · rw [if_pos hclose] at h
      obtain rfl := Option.some.inj h
      rw [hclose, effective_other (by decide) (by decide)]
      rfl
    · rw [if_neg hclose] at h
      by_cases hopen : c = '['
      · rw [if_pos hopen] at h
        cases h
      · rw [if_neg hopen] at h
        obtain ⟨inside, hinside, rfl⟩ := Option.map_eq_some_iff.1 h
        rw [List.length_cons, List.drop_succ_cons]
        by_cases hslash : c = '\\'
        · rw [hslash, effective_backslash, ih hinside]
        · rw [effective_other hslash hopen, ih hinside]

/-- Where a tag is recognised, it takes effect if its backslashes are doubled, and the tags
behind it are those of the rest. -/
theorem effective_of_recognised (h : recogniseTag text = some (length, tag)) (odd : Bool) :
    0 < length ∧ effective odd text =
      (if odd = decide (tag.backslashes % 2 = 1) then [tag.inside] else []) ++
        effective false (text.drop length) := by
  induction text generalizing length tag odd with
  | nil => cases h
  | cons c rest ih =>
    by_cases hslash : c = '\\'
    · rw [hslash, recogniseTag_backslash] at h
      obtain ⟨⟨count, other⟩, hother, heq⟩ := Option.map_eq_some_iff.1 h
      obtain ⟨rfl, rfl⟩ := Prod.mk.inj heq
      have hparity : (!odd) = decide (other.backslashes % 2 = 1) ↔
          odd = decide ((other.backslashes + 1) % 2 = 1) := by
        rcases Nat.mod_two_eq_zero_or_one other.backslashes with heven | hone
        · cases odd <;> simp [heven, Nat.add_mod]
        · cases odd <;> simp [hone, Nat.add_mod]
      refine ⟨Nat.succ_pos _, ?_⟩
      rw [hslash, effective_backslash, (ih hother _).2, List.drop_succ_cons]
      simp only [hparity]
    · by_cases hopen : c = '['
      · rw [hopen, recogniseTag_bracket] at h
        obtain ⟨inside, hinside, heq⟩ := Option.map_eq_some_iff.1 h
        obtain ⟨rfl, rfl⟩ := Prod.mk.inj heq
        have hclosed : closed? rest = some inside := (Option.filter_eq_some_iff.1 hinside).1
        refine ⟨Nat.succ_pos _, ?_⟩
        rw [hopen, effective_bracket, hinside, effective_of_closed? hclosed, List.drop_succ_cons]
        cases odd <;> rfl
      · rw [recogniseTag_other hslash hopen] at h
        cases h

/-- Where no tag is recognised, the next character starts anew. -/
theorem effective_of_not_recognised (h : recogniseTag (c :: rest) = none) (odd : Bool) :
    effective odd (c :: rest) = effective false rest := by
  induction rest generalizing c odd with
  | nil =>
    by_cases hslash : c = '\\'
    · rw [hslash]
      rfl
    · by_cases hopen : c = '['
      · rw [hopen]
        cases odd <;> rfl
      · rw [effective_other hslash hopen]
  | cons d rest ih =>
    by_cases hslash : c = '\\'
    · rw [hslash, recogniseTag_backslash, Option.map_eq_none_iff] at h
      rw [hslash, effective_backslash, ih h, ih h]
    · by_cases hopen : c = '['
      · rw [hopen, recogniseTag_bracket, Option.map_eq_none_iff] at h
        rw [hopen, effective_bracket, h]
        cases odd <;> rfl
      · rw [effective_other hslash hopen]

theorem filter_occurrencesFrom (pos skip : Nat) (text : Text) :
    (((occurrencesFrom recogniseTag pos skip text).map Occurrence.value).filter
        fun tag => tag.backslashes % 2 ≠ 1).map MarkupTag.inside =
      effective false (text.drop skip) := by
  induction text generalizing pos skip with
  | nil => cases skip <;> rfl
  | cons c rest ih =>
    cases skip with
    | succ skip => exact ih _ _
    | zero =>
      rw [occurrencesFrom, List.drop_zero]
      split
      · next length tag hfound =>
        obtain ⟨hpos, heffective⟩ := effective_of_recognised hfound false
        obtain ⟨length, rfl⟩ := Nat.exists_eq_succ_of_ne_zero (Nat.ne_of_gt hpos)
        have hrest := ih (pos + 1) length
        rw [heffective, List.map_cons, List.drop_succ_cons, ← hrest, Nat.succ_sub_one,
          List.filter_cons]
        by_cases hodd : tag.backslashes % 2 = 1 <;> simp [hodd]
      · next hnone => rw [effective_of_not_recognised hnone, ih, List.drop_zero]

/-- The tags that take effect are those of the scan whose backslashes are all doubled. -/
theorem effective_eq (text : Text) :
    (((occurrences recogniseTag text).map Occurrence.value).filter
        fun tag => tag.backslashes % 2 ≠ 1).map MarkupTag.inside = effective false text :=
  filter_occurrencesFrom 0 0 text

theorem unopened?_eq_none_iff (opened : List Text) (tags : List MarkupTag) :
    unopened? opened tags = none ↔
      unopened? opened (((tags.filter fun tag => tag.backslashes % 2 ≠ 1).map
        MarkupTag.inside).map (MarkupTag.mk 0)) = none := by
  induction tags generalizing opened with
  | nil => rfl
  | cons tag tags ih =>
    by_cases hodd : tag.backslashes % 2 = 1
    · have hopen : openBehind? opened tag = some opened := if_pos hodd
      rw [unopened?, hopen, List.filter_cons_of_neg (by simp [hodd])]
      exact ih opened
    · have hopen : openBehind? opened ⟨0, tag.inside⟩ = openBehind? opened tag := by
        rw [openBehind?, openBehind?, if_neg hodd]
        rfl
      rw [unopened?, List.filter_cons_of_pos (by simp [hodd]), List.map_cons, List.map_cons,
        unopened?, hopen]
      cases openBehind? opened tag with
      | none => simp
      | some opened => exact ih opened

/-- A message is refused for a tag that takes effect. -/
theorem unopenedTag?_eq_none_iff (message : Text) :
    unopenedTag? message = none ↔
      unopened? [] ((effective false message).map (MarkupTag.mk 0)) = none := by
  rw [← effective_eq, ← unopened?_eq_none_iff, unopenedTag?]

/-! ### Two parts -/

theorem closed?_append_of_any (h : left.any isTagBracket = true) (right : Text) :
    closed? (left ++ right) = closed? left := by
  induction left with
  | nil => cases h
  | cons c left ih =>
    rw [List.cons_append, closed?, closed?]
    by_cases hclose : c = ']'
    · rw [if_pos hclose, if_pos hclose]
    · by_cases hopen : c = '['
      · rw [if_neg hclose, if_pos hopen, if_neg hclose, if_pos hopen]
      · rw [ih]
        simpa [isTagBracket, hclose, hopen] using h

theorem closed?_append_of_not_any (h : left.any isTagBracket = false) (right : Text) :
    closed? (left ++ right) = (closed? right).map (left ++ ·) := by
  induction left with
  | nil => simp
  | cons c left ih =>
    simp only [List.any_cons, isTagBracket, Bool.or_eq_false_iff, decide_eq_false_iff_not] at h
    rw [List.cons_append, closed?, if_neg h.1.2, if_neg h.1.1, ih h.2, Option.map_map]
    rfl

theorem closed?_eq_none_of_not_any (h : text.any isTagBracket = false) : closed? text = none := by
  have happend := closed?_append_of_not_any h []
  rwa [List.append_nil] at happend

theorem effective_of_not_any (h : text.any isTagBracket = false) (odd : Bool) :
    effective odd text = [] := by
  induction text generalizing odd with
  | nil => rfl
  | cons c rest ih =>
    simp only [List.any_cons, isTagBracket, Bool.or_eq_false_iff, decide_eq_false_iff_not] at h
    by_cases hslash : c = '\\'
    · rw [hslash, effective_backslash, ih h.2]
    · rw [effective_other hslash h.1.1, ih h.2]

theorem openEnd?_of_not_any (h : text.any isTagBracket = false) (odd : Bool) :
    openEnd? odd text = none := by
  induction text generalizing odd with
  | nil => rfl
  | cons c rest ih =>
    simp only [List.any_cons, isTagBracket, Bool.or_eq_false_iff, decide_eq_false_iff_not] at h
    rw [openEnd?]
    split
    · exact ih h.2 _
    · rw [if_neg fun hall => h.1.1 hall.1]
      exact ih h.2 _

theorem not_any_of_openEnd? (h : openEnd? odd text = some tail) :
    tail.any isTagBracket = false := by
  induction text generalizing odd with
  | nil => cases h
  | cons c rest ih =>
    rw [openEnd?] at h
    split at h
    · exact ih h
    · split at h
      · next hall =>
        obtain rfl := Option.some.inj h
        exact hall.2.2
      · exact ih h

theorem closed?_eq_some_iff :
    closed? text = some inside ↔
      inside.any isTagBracket = false ∧ ∃ behind, text = inside ++ ']' :: behind := by
  constructor
  · intro h
    induction text generalizing inside with
    | nil => cases h
    | cons c rest ih =>
      rw [closed?] at h
      split at h
      · next hclose =>
        obtain rfl := Option.some.inj h
        exact ⟨rfl, rest, by rw [hclose]; rfl⟩
      · next hclose =>
        split at h
        · cases h
        · next hopen =>
          obtain ⟨inside, hinside, rfl⟩ := Option.map_eq_some_iff.1 h
          obtain ⟨hany, behind, rfl⟩ := ih hinside
          exact ⟨by simp [isTagBracket, hclose, hopen, hany], behind, rfl⟩
  · rintro ⟨hany, behind, rfl⟩
    rw [closed?_append_of_not_any hany, closed?, if_pos rfl, Option.map_some, List.append_nil]

/-- The tags of two parts: those of each, and one that opens in the first and closes in the
second. -/
theorem effective_append (odd : Bool) (left right : Text) :
    effective odd (left ++ right) =
      effective odd left ++ ((openEnd? odd left).bind fun tail => inside? (tail ++ right)).toList
        ++ effective (endsOdd odd left) right := by
  induction left generalizing odd with
  | nil => rfl
  | cons c left ih =>
    rw [List.cons_append]
    by_cases hslash : c = '\\'
    · subst hslash
      exact ih (!odd)
    · by_cases hopen : c = '['
      · subst hopen
        have hends : endsOdd odd ('[' :: left) = endsOdd false left := rfl
        rw [effective_bracket, effective_bracket, ih false, hends]
        cases odd with
        | true => rfl
        | false =>
          cases hany : left.any isTagBracket with
          | true =>
            have htail : openEnd? false ('[' :: left) = openEnd? false left := by
              rw [openEnd?, if_neg hslash, if_neg fun h => by simp [hany] at h]
            rw [inside?, inside?, closed?_append_of_any hany, htail]
            simp only [List.append_assoc]
          | false =>
            have htail : openEnd? false ('[' :: left) = some left := by
              rw [openEnd?, if_neg hslash, if_pos ⟨rfl, rfl, hany⟩]
            have hinside : inside? left = none := by
              rw [inside?, closed?_eq_none_of_not_any hany]
              rfl
            rw [htail, openEnd?_of_not_any hany, effective_of_not_any hany, hinside]
            simp
      · have hends : endsOdd odd (c :: left) = endsOdd false left := if_neg hslash
        have htail : openEnd? odd (c :: left) = openEnd? false left := by
          rw [openEnd?, if_neg hslash, if_neg fun h => hopen h.1]
        rw [effective_other hslash hopen, effective_other hslash hopen, ih false, hends, htail]

end NoteTemplate.Markup
