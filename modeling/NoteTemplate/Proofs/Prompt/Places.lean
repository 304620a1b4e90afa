import NoteTemplate.Proofs.Prompt.ContentReading
import NoteTemplate.Proofs.Text.Slice

/-!
# Where the parts of a content stand

The content of a tag is cut at colons, and a detail at commas or around a format.  Every
part that is kept stands in the stretch between its separators and leaves only blanks of it.
The relations here say so for each cut, so that what is derived from the parts does not
need to look at the cutting again.
-/

namespace NoteTemplate

variable {text raw : Text} {start stop middle : Nat}

/-- All characters of the stretch are blank. -/
def IsBlankIn (text : Text) (start stop : Nat) : Prop :=
  ∀ pos c, start ≤ pos → pos < stop → text[pos]? = some c → isBlank c = true

/-- The segment stands inside a stretch of the text and has no blanks at its ends. -/
structure Segment.Stands (text : Text) (start stop : Nat) (segment : Segment) : Prop where
  start_le : start ≤ segment.start
  stop_le : segment.stop ≤ stop
  isAt : segment.text <+: text.drop segment.start
  isTrimmed : Text.IsTrimmed segment.text

/-- The segment is what remains of a stretch of the text without the blanks at its ends. -/
structure Segment.Trims (text : Text) (start stop : Nat) (segment : Segment) : Prop
    extends segment.Stands text start stop where
  blank_front : IsBlankIn text start segment.start
  blank_behind : IsBlankIn text segment.stop stop

/-! ### Blank stretches -/

theorem isBlankIn_self (text : Text) (pos : Nat) : IsBlankIn text pos pos := by
  intro other c hle hlt
  omega

theorem IsBlankIn.append (hleft : IsBlankIn text start middle)
    (hright : IsBlankIn text middle stop) : IsBlankIn text start stop := by
  intro pos c hstart hstop hchar
  rcases Nat.lt_or_ge pos middle with hlt | hge
  · exact hleft pos c hstart hlt hchar
  · exact hright pos c hge hstop hchar

theorem isBlankIn_of_prefix_drop (h : raw <+: text.drop start)
    (hblank : Text.isBlankText raw = true) : IsBlankIn text start (start + raw.length) := by
  intro pos c hstart hstop hchar
  have hpos : text[start + (pos - start)]? = raw[pos - start]? :=
    Text.getElem?_of_prefix_drop h (by omega)
  rw [Nat.add_sub_cancel' hstart, hchar] at hpos
  exact List.all_eq_true.1 hblank c (List.mem_of_getElem? hpos.symm)

/-! ### Trimmed segments -/

namespace Segment

variable {segment : Segment}

theorem start_le_stop (segment : Segment) : segment.start ≤ segment.stop :=
  Nat.le_add_right _ _

theorem span_of (h : segment.text <+: text.drop segment.start) :
    segment.span.of text = segment.text :=
  Text.slice_eq_of_prefix_drop h

theorem Stands.start_le_stop (h : segment.Stands text start stop) : start ≤ stop :=
  calc
    start ≤ segment.start := h.start_le
    _ ≤ segment.stop := segment.start_le_stop
    _ ≤ stop := h.stop_le

theorem Stands.widen {first last : Nat} (h : segment.Stands text start stop)
    (hfirst : first ≤ start) (hlast : stop ≤ last) : segment.Stands text first last where
  start_le := Nat.le_trans hfirst h.start_le
  stop_le := Nat.le_trans h.stop_le hlast
  isAt := h.isAt
  isTrimmed := h.isTrimmed

end Segment

/-- A text is its trimmed text with blanks around it. -/
theorem Text.exists_trim_eq (raw : Text) :
    ∃ behind, isBlankText behind = true ∧ raw = raw.takeWhile isBlank ++ trim raw ++ behind := by
  refine ⟨(raw.dropWhile isBlank).rtakeWhile isBlank, ?_, ?_⟩
  · exact List.all_eq_true.2 fun c hc => List.mem_rtakeWhile_imp hc
  · have hright : trim raw ++ (raw.dropWhile isBlank).rtakeWhile isBlank =
        raw.dropWhile isBlank := List.rdropWhile_append_rtakeWhile
    rw [List.append_assoc, hright, List.takeWhile_append_dropWhile]

namespace Segment

variable {segment : Segment}

theorem trims_trimmed (h : raw <+: text.drop start) :
    (trimmed start raw).Trims text start (start + raw.length) := by
  obtain ⟨behind, hbehind, hraw⟩ := Text.exists_trim_eq raw
  have hfront : Text.isBlankText (raw.takeWhile isBlank) = true :=
    List.all_eq_true.2 fun c hc => List.mem_takeWhile_imp hc
  have hlength : start + raw.length = (trimmed start raw).stop + behind.length := by
    have hsum := congrArg List.length hraw
    rw [List.length_append, List.length_append] at hsum
    simp only [Segment.stop, trimmed]
    omega
  rw [hraw, List.append_assoc, Text.append_prefix_drop_iff, Text.append_prefix_drop_iff] at h
  refine ⟨⟨Nat.le_add_right _ _, by omega, h.2.1, Text.isTrimmed_trim⟩,
    isBlankIn_of_prefix_drop h.1 hfront, ?_⟩
  rw [hlength]
  exact isBlankIn_of_prefix_drop h.2.2 hbehind

namespace Trims

theorem extend {first last : Nat} (h : segment.Trims text start stop) (hfirst : first ≤ start)
    (hlast : stop ≤ last) (hfront : IsBlankIn text first start)
    (hbehind : IsBlankIn text stop last) : segment.Trims text first last where
  toStands := h.toStands.widen hfirst hlast
  blank_front := hfront.append h.blank_front
  blank_behind := h.blank_behind.append hbehind

theorem of_eq (h : segment.Trims text start middle) (heq : middle = stop) :
    segment.Trims text start stop :=
  heq ▸ h

/-- A blank stretch leaves nothing, wherever it is taken to stand. -/
theorem nil_of_text_eq_nil (h : segment.Trims text start stop) (hempty : segment.text = []) :
    Segment.Trims text start stop ⟨start, []⟩ := by
  have hstop : segment.stop = segment.start := by rw [Segment.stop, hempty]; rfl
  have hblank : IsBlankIn text start stop := by
    apply h.blank_front.append
    rw [← hstop]
    exact h.blank_behind
  have hle := h.stop_le
  have hstart := h.start_le
  exact ⟨⟨Nat.le_refl _, Nat.le_trans hstart (hstop ▸ hle), List.nil_prefix,
    Text.isTrimmed_nil⟩, isBlankIn_self _ _, hblank⟩

end Trims

end Segment

/-! ### Cutting a content at its colons -/

/-- The parts of a content, cut at the colons that count. -/
inductive PromptContent.Splits (text : Text) : PromptContent → Prop where
  | named {name : Segment} (hname : name.Trims text 0 text.length) : Splits text (.named name)
  | typed {name type : Segment} {colon : Nat} (hname : name.Trims text 0 colon)
      (hcolon : text[colon]? = some ':') (htype : type.Trims text (colon + 1) text.length) :
      Splits text (.typed name colon type)
  | detailed {name type detail : Segment} {colon secondColon : Nat}
      (hname : name.Trims text 0 colon) (hcolon : text[colon]? = some ':')
      (htype : type.Trims text (colon + 1) secondColon)
      (hsecond : text[secondColon]? = some ':')
      (hdetail : detail.Trims text (secondColon + 1) text.length) :
      Splits text (.detailed name colon type secondColon detail)

theorem getElem?_of_append_prefix_drop {front behind : Text} {c : Char}
    (h : front ++ c :: behind <+: text.drop start) : text[start + front.length]? = some c := by
  have hpos : text[start + front.length]? = (front ++ c :: behind)[front.length]? :=
    Text.getElem?_of_prefix_drop h (by simp)
  rw [hpos, List.getElem?_append_right (Nat.le_refl _), Nat.sub_self, List.getElem?_cons_zero]

theorem behind_prefix_drop {front behind : Text} {c : Char}
    (h : front ++ c :: behind <+: text.drop start) :
    behind <+: text.drop (start + front.length + 1) := by
  have hright := (Text.append_prefix_drop_iff.1 h).2
  rw [← List.singleton_append, Text.append_prefix_drop_iff] at hright
  exact hright.2

theorem PromptContent.splits_ofText (text : Text) : Splits text (ofText text) := by
  have hwhole : (Segment.trimmed 0 text).Trims text 0 text.length := by
    have h : (Segment.trimmed 0 text).Trims text 0 (0 + text.length) :=
      Segment.trims_trimmed List.prefix_rfl
    rwa [Nat.zero_add] at h
  have hstart : IsBlankIn text 0 (Segment.trimmed 0 text).start := hwhole.blank_front
  rw [ofText]
  split
  · next hempty =>
    exact .named (hwhole.nil_of_text_eq_nil (List.isEmpty_iff.1 hempty))
  · split
    · exact .named hwhole
    · next name rest hcut =>
      have hat := hwhole.isAt
      rw [Text.eq_of_cutAt? hcut] at hat
      have hname := Segment.trims_trimmed (Text.append_prefix_drop_iff.1 hat).1
      have hstop : (Segment.trimmed 0 text).start + name.length + 1 + rest.length =
          (Segment.trimmed 0 text).stop := by
        have hlength := congrArg List.length (Text.eq_of_cutAt? hcut)
        rw [List.length_append, List.length_cons] at hlength
        rw [Segment.stop, hlength]
        omega
      have hname := hname.extend (Nat.zero_le _) (Nat.le_refl _) hstart (isBlankIn_self _ _)
      have hrest := behind_prefix_drop hat
      have hend {part : Segment} {first : Nat}
          (h : part.Trims text first (Segment.trimmed 0 text).stop) :
          part.Trims text first text.length :=
        h.extend (Nat.le_refl _) hwhole.stop_le (isBlankIn_self _ _) hwhole.blank_behind
      dsimp only
      split
      · exact .typed hname (getElem?_of_append_prefix_drop hat)
          (hend ((Segment.trims_trimmed hrest).of_eq hstop))
      · next type detail hsecond =>
        rw [Text.eq_of_cutAt? hsecond] at hrest hstop
        rw [List.length_append, List.length_cons] at hstop
        refine .detailed hname (getElem?_of_append_prefix_drop hat)
          (Segment.trims_trimmed (Text.append_prefix_drop_iff.1 hrest).1)
          (getElem?_of_append_prefix_drop hrest) (hend ?_)
        exact (Segment.trims_trimmed (behind_prefix_drop hrest)).of_eq (by omega)

/-! ### Cutting a detail at its commas -/

/-- The parts between the commas of a stretch that are not blank, and the commas. -/
inductive CommaSplit.Splits (text : Text) : Nat → Nat → CommaSplit → Prop where
  | last {start stop : Nat} {item : Segment} (hitem : item.Trims text start stop) :
      Splits text start stop ⟨[item].filter fun item => !item.text.isEmpty, []⟩
  | comma {start comma stop : Nat} {item : Segment} {later : CommaSplit}
      (hitem : item.Trims text start comma) (hcomma : text[comma]? = some ',')
      (hlater : Splits text (comma + 1) stop later) :
      Splits text start stop ⟨([item].filter fun item => !item.text.isEmpty) ++ later.items,
        comma :: later.commas⟩

namespace CommaSplit

variable {parts : List Text} {split : CommaSplit} {item : Segment} {comma : Nat}

theorem splits_ofParts (hne : parts ≠ []) (h : Text.join [','] parts <+: text.drop start) :
    (ofParts start parts).Splits text start (start + (Text.join [','] parts).length) := by
  induction parts generalizing start with
  | nil => exact absurd rfl hne
  | cons part parts ih =>
    cases parts with
    | nil => exact .last (Segment.trims_trimmed h)
    | cons next more =>
      have hjoin : Text.join [','] (part :: next :: more) =
          part ++ ',' :: Text.join [','] (next :: more) := by
        rw [Text.join, List.append_assoc, List.singleton_append]
      rw [hjoin] at h ⊢
      have hstop : start + (part ++ ',' :: Text.join [','] (next :: more)).length =
          start + part.length + 1 + (Text.join [','] (next :: more)).length := by
        rw [List.length_append, List.length_cons]
        omega
      rw [ofParts_cons_cons, hstop]
      exact .comma (Segment.trims_trimmed (Text.append_prefix_drop_iff.1 h).1)
        (getElem?_of_append_prefix_drop h) (ih (by simp) (behind_prefix_drop h))

theorem splits_splitAtCommas {segment : Segment}
    (h : segment.text <+: text.drop segment.start) :
    segment.splitAtCommas.Splits text segment.start segment.stop := by
  have hparts := Text.splitOn_ne_nil ',' segment.text
  have hjoin := Text.join_splitOn ',' segment.text
  rw [← hjoin] at h
  have hsplits := splits_ofParts hparts h
  rwa [hjoin] at hsplits

namespace Splits

theorem start_le_stop (h : split.Splits text start stop) : start ≤ stop := by
  induction h with
  | last hitem => exact hitem.start_le_stop
  | comma hitem hcomma hlater ih => exact Nat.le_trans hitem.start_le_stop (Nat.le_of_succ_le ih)

/-- The kept parts are not empty and stand in the stretch. -/
theorem stands (h : split.Splits text start stop) :
    ∀ item ∈ split.items, item.Stands text start stop ∧ item.text ≠ [] := by
  have hfirst {start stop : Nat} {item : Segment} (hitem : item.Trims text start stop) :
      ∀ kept ∈ [item].filter fun item => !item.text.isEmpty,
        kept.Stands text start stop ∧ kept.text ≠ [] := by
    intro kept hkept
    obtain ⟨hmem, hne⟩ := List.mem_filter.1 hkept
    rw [List.mem_singleton.1 hmem] at hne ⊢
    exact ⟨hitem.toStands, by simpa using hne⟩
  induction h with
  | last hitem => exact hfirst hitem
  | comma hitem hcomma hlater ih =>
    intro kept hkept
    rcases List.mem_append.1 hkept with hkept | hkept
    · obtain ⟨hstands, hne⟩ := hfirst hitem kept hkept
      exact ⟨hstands.widen (Nat.le_refl _) (Nat.le_of_succ_le hlater.start_le_stop), hne⟩
    · obtain ⟨hstands, hne⟩ := ih kept hkept
      have hcomma := Nat.le_succ_of_le hitem.start_le_stop
      exact ⟨hstands.widen hcomma (Nat.le_refl _), hne⟩

theorem commas_stand (h : split.Splits text start stop) :
    ∀ comma ∈ split.commas, start ≤ comma ∧ comma < stop ∧ text[comma]? = some ',' := by
  induction h with
  | last hitem =>
    intro comma hmem
    exact absurd hmem List.not_mem_nil
  | comma hitem hcomma hlater ih =>
    intro comma hmem
    rcases List.mem_cons.1 hmem with rfl | hmem
    · exact ⟨hitem.start_le_stop, hlater.start_le_stop, hcomma⟩
    · obtain ⟨hstart, hstop, hat⟩ := ih comma hmem
      exact ⟨Nat.le_trans (Nat.le_succ_of_le hitem.start_le_stop) hstart, hstop, hat⟩

/-- A part ends before the next one starts. -/
theorem pairwise_items (h : split.Splits text start stop) :
    split.items.Pairwise fun left right => left.stop ≤ right.start := by
  have hfirst (item : Segment) : ([item].filter fun item => !item.text.isEmpty).Pairwise
      fun left right => left.stop ≤ right.start :=
    (List.pairwise_singleton _ item).filter _
  induction h with
  | @last _ _ item _ => exact hfirst item
  | @comma _ _ _ item _ hitem hcomma hlater ih =>
    refine List.pairwise_append.2 ⟨hfirst item, ih, fun left hleft right hright => ?_⟩
    rw [List.mem_singleton.1 (List.mem_filter.1 hleft).1]
    exact Nat.le_trans hitem.stop_le (Nat.le_of_succ_le (hlater.stands right hright).1.start_le)

theorem pairwise_commas (h : split.Splits text start stop) :
    split.commas.Pairwise (· < ·) := by
  induction h with
  | last hitem => exact List.Pairwise.nil
  | comma hitem hcomma hlater ih =>
    exact List.pairwise_cons.2 ⟨fun later hmem => (hlater.commas_stand later hmem).1, ih⟩

/-- A comma stands outside every part. -/
theorem items_apart_commas (h : split.Splits text start stop) :
    ∀ item ∈ split.items, ∀ comma ∈ split.commas, item.stop ≤ comma ∨ comma < item.start := by
  induction h with
  | last hitem =>
    intro item _ comma hmem
    exact absurd hmem List.not_mem_nil
  | comma hitem hcomma hlater ih =>
    intro item hmemItem comma hmem
    rcases List.mem_append.1 hmemItem with hfirst | hkept
    · rw [List.mem_singleton.1 (List.mem_filter.1 hfirst).1]
      apply Or.inl
      apply Nat.le_trans hitem.stop_le
      rcases List.mem_cons.1 hmem with rfl | hmem
      · exact Nat.le_refl _
      · exact Nat.le_of_succ_le (hlater.commas_stand comma hmem).1
    · rcases List.mem_cons.1 hmem with rfl | hmem
      · exact Or.inr (hlater.stands item hkept).1.start_le
      · exact ih item hkept comma hmem

end Splits

end CommaSplit

/-! ### Reading a detail -/

/-- What is known of the places of a detail, in the ways in which it is read. -/
inductive Detail.Splits (text : Text) (segment : Segment) : Detail → Prop where
  | custom {format : Text} (h : segment.text = formatOpening ++ (format ++ [')'])) :
      Splits text segment (.custom ⟨segment.start, formatOpening⟩
        ⟨segment.start + formatOpening.length, format⟩
        (segment.start + formatOpening.length + format.length))
  | items {split : CommaSplit} (h : split.Splits text segment.start segment.stop) :
      Splits text segment (.items split)
  | whole : Splits text segment .whole

/-- A detail that holds a format is that format in its parentheses. -/
theorem eq_of_isCustomFormat {detail : Text} (h : isCustomFormat detail = true) :
    detail = formatOpening ++ (insideFormat detail ++ [')']) := by
  rw [isCustomFormat, Bool.and_eq_true, Bool.and_eq_true, decide_eq_true_eq,
    decide_eq_true_eq] at h
  obtain ⟨⟨hopen, hlast⟩, hlength⟩ := h
  obtain ⟨rest, hrest⟩ := List.isPrefixOf_iff_prefix.1 hopen
  have hne : rest ≠ [] := by
    rintro rfl
    rw [← hrest, List.append_nil] at hlength
    omega
  have hclosing : rest.getLast? = some ')' := by
    rwa [← hrest, List.getLast?_append_of_ne_nil _ hne] at hlast
  rw [insideFormat, ← hrest, List.drop_left, List.dropLast_append_getLast? _ hclosing]

theorem Detail.splits_ofSegment {segment : Segment} (valueType : Option ValueType)
    (h : segment.text <+: text.drop segment.start) :
    (Detail.ofSegment valueType segment).Splits text segment := by
  unfold ofSegment
  split
  · exact .whole
  · split
    · next hcustom =>
      have htext := eq_of_isCustomFormat (Bool.and_eq_true_iff.1 hcustom).2
      have hclosing : segment.stop - 1 =
          segment.start + formatOpening.length + (insideFormat segment.text).length := by
        have hlength := congrArg List.length htext
        rw [List.length_append, List.length_append, List.length_singleton] at hlength
        rw [Segment.stop]
        omega
      rw [hclosing]
      exact .custom htext
    · split
      · exact .items (CommaSplit.splits_splitAtCommas h)
      · exact .whole

end NoteTemplate
