import Mathlib.Data.List.Count
import NoteTemplate.Proofs.Counter.Place
import NoteTemplate.Proofs.Text.Leftmost
import NoteTemplate.Title.Checking

/-!
# Counter tags and variable tags

Two recognisers look for the counter.  One finds the tag `{{counter}}` and nothing else; the
other one finds variables of any name, with or without a format.  Every counter tag stands at
the end of a variable tag: it is the whole of one, or a format ends with its first nine
characters (`counterTags_eq`).  So the two agree on the number of counters exactly when as many
counters have a format as formats take in a counter tag (`length_counterTags_eq_iff`).
-/

namespace NoteTemplate

variable {pattern before after front rest name format text : Text} {tag : VariableTag}
  {found : Occurrence VariableTag}

/-- What a counter tag starts with: its braces and its name. -/
def counterOpening : Text := "\x7b\x7bcounter".toList

/-- The text ends like a counter tag without its closing braces. -/
def endsInCounter (text : Text) : Bool :=
  (text.drop (text.length - counterOpening.length)).map Char.toLower = counterOpening

namespace VariableTag

/-- The tag names the counter, with or without a format. -/
def isCounter (tag : VariableTag) : Bool := tag.name = Variable.counter.name

/-- The tag is the counter without a format. -/
def isPlainCounter (tag : VariableTag) : Bool := tag.isCounter && tag.format.isNone

/-- The tag is the counter with a format. -/
def isFormattedCounter (tag : VariableTag) : Bool := tag.isCounter && tag.format.isSome

/-- A counter tag ends with the tag and starts in its format. -/
def takesInCounter (tag : VariableTag) : Bool := tag.format.any endsInCounter

/-- A counter tag ends with the tag. -/
def closesCounter (tag : VariableTag) : Bool := tag.isPlainCounter || tag.takesInCounter

end VariableTag

/-! ### Where a counter tag can start in a variable tag -/

theorem endsInCounter_iff :
    endsInCounter text = true ↔
      ∃ front name, text = front ++ '\x7b' :: '\x7b' :: name ∧ IsCounterName name := by
  have hsplit : counterOpening = ['\x7b', '\x7b'] ++ Variable.counter.name := by decide
  have hlength : counterOpening.length = 9 := rfl
  rw [endsInCounter, hlength, decide_eq_true_eq, hsplit]
  constructor
  · intro h
    obtain ⟨opening, name, hdrop, hopening, hname⟩ := List.map_eq_append_iff.1 h
    refine ⟨text.take (text.length - 9), name, ?_, hname⟩
    rw [eq_braces_of_map (Or.inl rfl) hopening] at hdrop
    calc text = text.take (text.length - 9) ++ text.drop (text.length - 9) :=
          (List.take_append_drop _ _).symm
      _ = text.take (text.length - 9) ++ '\x7b' :: '\x7b' :: name := by
          rw [hdrop]
          rfl
  · rintro ⟨front, name, rfl, hname⟩
    have hdrop : (front ++ '\x7b' :: '\x7b' :: name).drop
        ((front ++ '\x7b' :: '\x7b' :: name).length - 9) = ['\x7b', '\x7b'] ++ name := by
      have hfront : (front ++ '\x7b' :: '\x7b' :: name).length - 9 = front.length := by
        simp [hname.length]
      rw [hfront, List.drop_left]
      rfl
    have hbraces : (['\x7b', '\x7b'] : Text).map Char.toLower = ['\x7b', '\x7b'] := by decide
    rw [hdrop, List.map_append, hbraces, hname]

/-- The names of the counter are those with its name in small letters. -/
theorem lower_eq_counter_iff : Text.lower name = Variable.counter.name ↔ IsCounterName name := by
  constructor
  · intro h
    have honly : (Text.lower name).all isOnlyLower = true := by
      rw [h]
      decide
    rwa [Text.lower_of_ascii (Text.isAscii_of_lowerAfter (List.all_eq_true.1 honly))] at h
  · exact IsCounterName.lower

theorem isWordChar_openingBrace : isWordChar '\x7b' = false := by decide +kernel

/-- No closing brace stands before those at the end of a variable tag. -/
theorem VariableTag.IsWritten.closingBrace_notMem {format : Option Text}
    (h : VariableTag.IsWritten name format) :
    '\x7d' ∉ '\x7b' :: '\x7b' :: name ++ VariableTag.formatSource format := by
  have hname : '\x7d' ∉ name := by
    intro hmem
    have hword := h.name_word _ hmem
    rw [isWordChar_closingBrace] at hword
    cases hword
  cases format with
  | none => simpa [VariableTag.formatSource] using hname
  | some format =>
    have hformat := h.format_closed format rfl
    simp [VariableTag.formatSource, hname, hformat]

/-- Behind the braces of a variable tag there is a counter name only when the tag is plain. -/
theorem eq_of_source_eq {spelled : Text} {format : Option Text} (hname : IsCounterName name)
    (h : spelled ++ VariableTag.formatSource format = name) : format = none ∧ spelled = name := by
  cases format with
  | none => exact ⟨rfl, by simpa [VariableTag.formatSource] using h⟩
  | some format =>
    have hcolon : ':' ∈ name := by
      rw [← h]
      simp [VariableTag.formatSource]
    exact absurd (hname.isAlpha hcolon) (by decide)

/-- The braces of a counter tag do not stand in the name of a variable, so a counter tag that
starts inside a variable tag starts in its format. -/
theorem exists_format_of_source_eq {spelled : Text} {format : Option Text}
    (hwritten : VariableTag.IsWritten spelled format)
    (h : spelled ++ VariableTag.formatSource format = front ++ '\x7b' :: '\x7b' :: name) :
    ∃ text more, format = some text ∧ text = more ++ '\x7b' :: '\x7b' :: name := by
  have hbrace {c : Char} (hc : c ∈ spelled) : c ≠ '\x7b' := by
    rintro rfl
    exact absurd (hwritten.name_word _ hc) (by simp [isWordChar_openingBrace])
  cases format with
  | none =>
    have hmem : '\x7b' ∈ spelled := by
      have happ : spelled = front ++ '\x7b' :: '\x7b' :: name := by
        simpa [VariableTag.formatSource] using h
      simp [happ]
    exact absurd rfl (hbrace hmem)
  | some text =>
    rw [VariableTag.formatSource] at h
    rcases List.append_eq_append_iff.1 h with ⟨more, rfl, hmore⟩ | ⟨more, rfl, hmore⟩
    · cases more with
      | nil => simp at hmore
      | cons c more =>
        obtain ⟨-, htext⟩ := List.cons.inj hmore
        exact ⟨text, more, rfl, htext⟩
    · cases more with
      | nil => simp at hmore
      | cons c more =>
        obtain ⟨rfl, -⟩ := List.cons.inj hmore
        exact absurd rfl (hbrace (by simp))

/-- A tag closes a counter when the characters before its closing braces do. -/
theorem closesCounter_iff {spelled : Text} (htag : tag.name = Text.lower spelled)
    (hwritten : VariableTag.IsWritten spelled tag.format) :
    tag.closesCounter = true ↔ ∃ front name, IsCounterName name ∧
      '\x7b' :: '\x7b' :: spelled ++ VariableTag.formatSource tag.format =
        front ++ '\x7b' :: '\x7b' :: name := by
  obtain ⟨tagName, format⟩ := tag
  obtain rfl : tagName = Text.lower spelled := htag
  simp only [VariableTag.closesCounter, VariableTag.isPlainCounter, VariableTag.isCounter,
    VariableTag.takesInCounter, Bool.or_eq_true, Bool.and_eq_true, decide_eq_true_eq,
    lower_eq_counter_iff, Option.isNone_iff_eq_none, Option.any_eq_true, endsInCounter_iff]
  constructor
  · rintro (⟨hname, rfl⟩ | ⟨_, rfl, front, name, rfl, hname⟩)
    · exact ⟨[], spelled, hname, by simp [VariableTag.formatSource]⟩
    · exact ⟨'\x7b' :: '\x7b' :: spelled ++ ':' :: front, name, hname,
        by simp [VariableTag.formatSource]⟩
  · rintro ⟨front, name, hname, hsource⟩
    rcases front with _ | ⟨c, _ | ⟨d, front⟩⟩
    · obtain ⟨rfl, rfl⟩ := eq_of_source_eq hname (by simpa using hsource)
      exact Or.inl ⟨hname, rfl⟩
    · obtain ⟨first, more, rfl⟩ := List.exists_cons_of_ne_nil hwritten.name_ne_nil
      have hfirst : first = '\x7b' := by
        have hcons := hsource
        simp only [List.cons_append, List.nil_append, List.cons.injEq] at hcons
        exact hcons.2.2.1
      have hword := hwritten.name_word first (by simp)
      rw [hfirst, isWordChar_openingBrace] at hword
      cases hword
    · simp only [List.cons_append, List.cons.injEq] at hsource
      obtain ⟨text, more, hformat, htext⟩ := exists_format_of_source_eq hwritten hsource.2.2
      exact Or.inr ⟨text, hformat, more, name, htext, hname⟩

/-! ### One counter tag for each variable tag that closes one -/

/-- A variable tag stands between two parts of the pattern. -/
theorem exists_of_mem_variableTags (h : found ∈ variableTags pattern) :
    ∃ before spelled after, VariableTag.IsWritten spelled found.value.format ∧
      found.value.name = Text.lower spelled ∧
      pattern = before ++ ('\x7b' :: '\x7b' :: spelled ++
        VariableTag.formatSource found.value.format ++ ('\x7d' :: '\x7d' :: after)) ∧
      found.span.start = before.length ∧
      found.span.stop = before.length + (spelled.length +
        (VariableTag.formatSource found.value.format).length + 4) := by
  obtain ⟨hstart, horder, hfound⟩ := recognise_of_mem_occurrences h
  obtain ⟨spelled, after, hdrop, hwritten, hname, hlength⟩ := VariableTag.recognise_iff.1 hfound
  have hbefore : (pattern.take found.span.start).length = found.span.start :=
    List.length_take_of_le (Nat.le_of_lt hstart)
  refine ⟨pattern.take found.span.start, spelled, after, hwritten, hname, ?_, hbefore.symm, ?_⟩
  · have hsource : VariableTag.source spelled found.value.format ++ after =
        '\x7b' :: '\x7b' :: spelled ++ VariableTag.formatSource found.value.format ++
          ('\x7d' :: '\x7d' :: after) := by
      simp [VariableTag.source, VariableTag.closing]
    rw [← hsource, ← hdrop, List.take_append_drop]
  · rw [VariableTag.length_source] at hlength
    omega

/-- A counter tag is found wherever it stands. -/
theorem mem_counterTags (hname : IsCounterName name)
    (hpattern : pattern = before ++ (VariableTag.source name none ++ after)) :
    ⟨⟨before.length, before.length + 11⟩, ()⟩ ∈ counterTags pattern := by
  have hinside : before.length < pattern.length := by
    rw [hpattern, List.length_append, List.length_append, hname.length_source]
    omega
  have hvalue : recogniseCounter (pattern.drop before.length) = some (11, ()) := by
    rw [hpattern, List.drop_left]
    exact recogniseCounter_iff.2 ⟨rfl, name, after, hname, rfl⟩
  apply mem_occurrences hinside hvalue
  intro other hother hstart
  obtain ⟨front, spelled, behind, hspelled, hfront, rfl⟩ := exists_of_mem_counterTags hother
  have hdrop : pattern.drop front.length =
      '\x7b' :: '\x7b' :: spelled ++ ['\x7d', '\x7d'] ++ behind := by
    rw [hfront, List.drop_left]
    simp [VariableTag.source, VariableTag.formatSource, VariableTag.closing]
  have hfenced := isFenced_of_drop spelled hdrop hspelled.isWritten.name_ne_nil
  rw [hspelled.length] at hfenced
  dsimp only at hstart ⊢
  rcases stop_le_or_of_isFenced hname hpattern hfenced (by decide) with hstop | hstop
  · exact hstop
  · dsimp only at hstop
    omega

theorem mem_counterTags_of_closesCounter (h : found ∈ variableTags pattern)
    (hcloses : found.value.closesCounter = true) :
    found.span.start + 11 ≤ found.span.stop ∧
      ⟨⟨found.span.stop - 11, found.span.stop⟩, ()⟩ ∈ counterTags pattern := by
  obtain ⟨before, spelled, after, hwritten, hlower, hpattern, hstart, hstop⟩ :=
    exists_of_mem_variableTags h
  obtain ⟨front, name, hname, hsource⟩ := (closesCounter_iff hlower hwritten).1 hcloses
  have hlength := congrArg List.length hsource
  simp only [List.length_append, List.length_cons, hname.length] at hlength
  rw [hsource] at hpattern
  have hcounter : pattern = (before ++ front) ++ (VariableTag.source name none ++ after) := by
    rw [hpattern]
    simp [VariableTag.source, VariableTag.formatSource, VariableTag.closing]
  have hmem := mem_counterTags hname hcounter
  rw [List.length_append] at hmem
  have hspan : found.span.stop - 11 = before.length + front.length ∧
      found.span.stop = before.length + front.length + 11 := by
    omega
  refine ⟨by omega, ?_⟩
  rwa [hspan.1, hspan.2]

/-- A variable tag that reaches over the start of a counter tag closes it: the first closing
brace behind its start is that of the counter. -/
theorem closesCounter_of_reaches (hname : IsCounterName name)
    (hpattern : pattern = before ++ (VariableTag.source name none ++ after))
    (h : found ∈ variableTags pattern) (hstart : found.span.start < before.length)
    (hreach : before.length < found.span.stop) :
    found.value.closesCounter = true ∧ found.span.stop = before.length + 11 := by
  have hover : before.length + 11 ≤ found.span.stop := by
    have hapart := stop_le_or_of_isFenced hname hpattern (isFenced_of_mem_variableTags h) (by decide)
    omega
  obtain ⟨front, spelled, behind, hwritten, hlower, hfound, hfront, hstop⟩ :=
    exists_of_mem_variableTags h
  generalize hinside : '\x7b' :: '\x7b' :: spelled ++
    VariableTag.formatSource found.value.format = inside at hfound
  have hlength : inside.length = spelled.length +
      (VariableTag.formatSource found.value.format).length + 2 := by
    rw [← hinside]
    simp
  have hopen : '\x7d' ∉ inside := by
    rw [← hinside]
    exact hwritten.closingBrace_notMem
  have hbrace := (braces_of_counter hname hpattern).2.2.1
  have hlast : before.length + 9 = front.length + inside.length := by
    by_contra hne
    apply hopen
    obtain ⟨k, hk⟩ : ∃ k, before.length + 9 = front.length + k := Nat.exists_eq_add_of_le (by omega)
    rw [hfound, hk, List.getElem?_append_right (Nat.le_add_right _ _), Nat.add_sub_cancel_left,
      List.getElem?_append_left (by omega)] at hbrace
    exact List.mem_of_getElem? hbrace
  have hparts : front ++ inside = before ++ '\x7b' :: '\x7b' :: name := by
    have hboth : front ++ inside ++ '\x7d' :: '\x7d' :: behind =
        before ++ '\x7b' :: '\x7b' :: name ++ '\x7d' :: '\x7d' :: after := by
      rw [List.append_assoc, ← hfound, hpattern]
      simp [VariableTag.source, VariableTag.formatSource, VariableTag.closing]
    refine (List.append_inj hboth ?_).1
    simp only [List.length_append, List.length_cons, hname.length]
    omega
  refine ⟨(closesCounter_iff hlower hwritten).2 ?_, by omega⟩
  rcases List.append_eq_append_iff.1 hparts with ⟨more, hbefore, hmore⟩ | ⟨more, hshort, -⟩
  · exact ⟨more, name, hname, hinside.trans hmore⟩
  · rw [hshort, List.length_append] at hfront
    omega

/-- Every counter tag is closed by a variable tag. -/
theorem exists_closesCounter {counter : Occurrence Unit} (h : counter ∈ counterTags pattern) :
    ∃ found ∈ variableTags pattern, found.value.closesCounter = true ∧
      counter = ⟨⟨found.span.stop - 11, found.span.stop⟩, ()⟩ := by
  obtain ⟨before, name, after, hname, hpattern, rfl⟩ := exists_of_mem_counterTags h
  by_cases hreach : ∃ found ∈ variableTags pattern,
      found.span.start < before.length ∧ before.length < found.span.stop
  · obtain ⟨found, hfound, hstart, hstop⟩ := hreach
    obtain ⟨hcloses, hend⟩ := closesCounter_of_reaches hname hpattern hfound hstart hstop
    refine ⟨found, hfound, hcloses, ?_⟩
    rw [hend, Nat.add_sub_cancel]
  · have hinside : before.length < pattern.length := by
      rw [hpattern, List.length_append, List.length_append, hname.length_source]
      omega
    refine ⟨_, mem_occurrences hinside (recognise_counter hname hpattern) ?_, ?_, ?_⟩
    · intro found hfound hstart
      by_contra hstop
      exact hreach ⟨found, hfound, hstart, Nat.not_le.1 hstop⟩
    · show VariableTag.closesCounter ⟨Variable.counter.name, none⟩ = true
      decide
    · dsimp only
      rw [Nat.add_sub_cancel]

/-- The counter tags are what ends the variable tags that close one. -/
theorem counterTags_eq (pattern : Text) :
    counterTags pattern =
      ((variableTags pattern).filter fun found => found.value.closesCounter).map fun found =>
        ⟨⟨found.span.stop - 11, found.span.stop⟩, ()⟩ := by
  have hstart {counter : Occurrence Unit} (h : counter ∈ counterTags pattern) :
      counter.span.start < counter.span.stop := by
    obtain ⟨before, -, -, -, -, rfl⟩ := exists_of_mem_counterTags h
    exact Nat.lt_add_of_pos_right (by decide)
  apply eq_of_pairwise_start
  · refine (pairwise_occurrences recogniseCounter_pos pattern).imp_of_mem ?_
    intro left right hleft _ hle
    exact Nat.lt_of_lt_of_le (hstart hleft) hle
  · rw [List.pairwise_map]
    refine ((pairwise_variableTags pattern).filter _).imp_of_mem ?_
    intro left right hleft hright hle
    obtain ⟨-, hcloses⟩ := List.mem_filter.1 hright
    obtain ⟨hlength, -⟩ :=
      mem_counterTags_of_closesCounter (List.mem_filter.1 hright).1 hcloses
    dsimp only
    have hleftLength := (mem_counterTags_of_closesCounter (List.mem_filter.1 hleft).1
      (List.mem_filter.1 hleft).2).1
    omega
  · intro counter
    simp only [List.mem_map, List.mem_filter]
    constructor
    · intro h
      obtain ⟨found, hfound, hcloses, rfl⟩ := exists_closesCounter h
      exact ⟨found, ⟨hfound, hcloses⟩, rfl⟩
    · rintro ⟨found, ⟨hfound, hcloses⟩, rfl⟩
      exact (mem_counterTags_of_closesCounter hfound hcloses).2

/-! ### How many counters there are -/

/-- The variable tags of a pattern for which a test holds. -/
def countVariables (test : VariableTag → Bool) (pattern : Text) : Nat :=
  (variableTags pattern).countP fun found => test found.value

/-- What is counted by two tests that exclude each other is counted by one of them. -/
theorem countVariables_add {test first second : VariableTag → Bool}
    (hfirst : ∀ tag, first tag = (test tag && !second tag))
    (hsecond : ∀ tag, second tag = (test tag && second tag)) (pattern : Text) :
    countVariables test pattern = countVariables first pattern + countVariables second pattern := by
  rw [countVariables, List.countP_eq_countP_filter_add _ _ fun found => second found.value,
    List.countP_filter, List.countP_filter, Nat.add_comm]
  simp only [countVariables, hfirst, ← hsecond]

theorem length_counterTags (pattern : Text) :
    (counterTags pattern).length =
      countVariables VariableTag.isPlainCounter pattern +
        countVariables VariableTag.takesInCounter pattern := by
  have hcloses : (counterTags pattern).length =
      countVariables VariableTag.closesCounter pattern := by
    rw [counterTags_eq, List.length_map, countVariables, List.countP_eq_length_filter]
  rw [hcloses]
  apply countVariables_add
  · intro tag
    rcases tag with ⟨name, _ | format⟩ <;>
      simp [VariableTag.closesCounter, VariableTag.isPlainCounter, VariableTag.takesInCounter]
  · intro tag
    rw [VariableTag.closesCounter]
    cases tag.isPlainCounter <;> cases tag.takesInCounter <;> rfl

theorem countVariables_isCounter (pattern : Text) :
    countVariables VariableTag.isCounter pattern =
      countVariables VariableTag.isPlainCounter pattern +
        countVariables VariableTag.isFormattedCounter pattern := by
  apply countVariables_add
  · rintro ⟨name, _ | format⟩ <;> simp [VariableTag.isPlainCounter, VariableTag.isFormattedCounter]
  · intro tag
    rw [VariableTag.isFormattedCounter, ← Bool.and_assoc, Bool.and_self]

/-- The two recognisers find as many counters when as many of them have a format as are in a
format. -/
theorem length_counterTags_eq_iff (pattern : Text) :
    (counterTags pattern).length = countVariables VariableTag.isCounter pattern ↔
      countVariables VariableTag.isFormattedCounter pattern =
        countVariables VariableTag.takesInCounter pattern := by
  rw [length_counterTags, countVariables_isCounter]
  omega

end NoteTemplate
