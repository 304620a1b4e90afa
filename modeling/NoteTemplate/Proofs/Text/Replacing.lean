import NoteTemplate.Proofs.Text.Slice
import NoteTemplate.Text.Replacement

/-!
# What a replacement keeps

When stretches of a text are replaced, everything else is kept.  This is said twice: the
result is put together from the kept texts and the new ones (`Replaces`), and every kept
character has a place in the result, in the old order and next to its old neighbours
(`Replaces.keepsAt`).
-/

namespace NoteTemplate.Text

variable {text result : Text} {replaced : List (Span Nat × Text)} {pos left right : Nat}

/-- The rest of a text from a position on with stretches replaced, one behind the other. -/
inductive Replaces (text : Text) : Nat → List (Span Nat × Text) → Text → Prop where
  | rest {pos : Nat} : Replaces text pos [] (text.drop pos)
  | replace {pos : Nat} {span : Span Nat} {value : Text} {more : List (Span Nat × Text)}
      {result : Text} (hstart : pos ≤ span.start) (hstop : span.start ≤ span.stop)
      (later : Replaces text span.stop more result) :
      Replaces text pos ((span, value) :: more) (slice text pos span.start ++ value ++ result)

/-- The position is in no stretch that is replaced. -/
def IsKept (replaced : List (Span Nat × Text)) (pos : Nat) : Prop :=
  ∀ entry ∈ replaced, pos < entry.1.start ∨ entry.1.stop ≤ pos

/-- The characters at the kept positions are in the result, where `place` says: in the same
order, and with nothing between neighbours. -/
structure KeepsAt (text result : Text) (kept : Nat → Prop) (place : Nat → Nat) : Prop where
  char : ∀ pos, kept pos → pos < text.length → result[place pos]? = text[pos]?
  order : ∀ left right, kept left → kept right → left < right → place left < place right
  next : ∀ pos, kept pos → kept (pos + 1) → place (pos + 1) = place pos + 1

/-- Where a kept character of the text stands in the result. -/
def placeFrom (start : Nat) : List (Span Nat × Text) → Nat → Nat
  | [], pos => pos - start
  | (span, value) :: more, pos =>
    if pos < span.start then pos - start
    else span.start - start + value.length + placeFrom span.stop more pos

/-- Stretches that stand in order are replaced one after the other. -/
theorem replaces_replaceSpansFrom
    (hordered : replaced.Pairwise fun left right => left.1.stop ≤ right.1.start)
    (hlength : ∀ entry ∈ replaced, entry.1.start ≤ entry.1.stop)
    (hpos : ∀ entry ∈ replaced, pos ≤ entry.1.start) (text : Text) :
    Replaces text pos replaced (replaceSpansFrom pos replaced (text.drop pos)) := by
  induction replaced generalizing pos with
  | nil => exact .rest
  | cons entry more ih =>
    obtain ⟨span, value⟩ := entry
    obtain ⟨hfirst, hordered⟩ := List.pairwise_cons.1 hordered
    have hstart : pos ≤ span.start := hpos _ List.mem_cons_self
    have hstop : span.start ≤ span.stop := hlength _ List.mem_cons_self
    have hrest : pos + (span.stop - pos) = span.stop := by omega
    rw [replaceSpansFrom, List.drop_drop, hrest]
    apply Replaces.replace hstart hstop
    apply ih hordered
    · exact fun other hother => hlength other (List.mem_cons_of_mem _ hother)
    · exact fun other hother => hfirst other hother

/-- A stretch behind a front is replaced, and the rest goes on behind it. -/
theorem replaceSpansFrom_behind (pos : Nat) (front source shown rest : Text)
    (more : List (Span Nat × Text)) :
    replaceSpansFrom pos
        ((⟨pos + front.length, pos + front.length + source.length⟩, shown) :: more)
        (front ++ source ++ rest) =
      front ++ shown ++ replaceSpansFrom (pos + front.length + source.length) more rest := by
  have hstop : pos + front.length + source.length - pos = (front ++ source).length := by
    rw [List.length_append]
    omega
  rw [replaceSpansFrom, Nat.add_sub_cancel_left, hstop, List.drop_left, List.append_assoc front,
    List.take_left]

/-- What stands in front of all stretches is kept. -/
theorem replaceSpansFrom_cons
    (h : ∀ entry ∈ replaced, pos < entry.1.start ∧ entry.1.start ≤ entry.1.stop) (c : Char)
    (rest : Text) :
    replaceSpansFrom pos replaced (c :: rest) = c :: replaceSpansFrom (pos + 1) replaced rest := by
  cases replaced with
  | nil => rfl
  | cons entry more =>
    obtain ⟨span, value⟩ := entry
    obtain ⟨hstart, hstop⟩ := h _ List.mem_cons_self
    dsimp only at hstart hstop
    have hfront : span.start - pos = (span.start - (pos + 1)) + 1 := by omega
    have hbehind : span.stop - pos = (span.stop - (pos + 1)) + 1 := by omega
    rw [replaceSpansFrom, replaceSpansFrom, hfront, hbehind, List.take_succ_cons,
      List.drop_succ_cons]
    rfl

theorem IsKept.tail {entry : Span Nat × Text} (h : IsKept (entry :: replaced) pos) :
    IsKept replaced pos :=
  fun other hother => h other (List.mem_cons_of_mem _ hother)

theorem IsKept.head {entry : Span Nat × Text} (h : IsKept (entry :: replaced) pos) :
    pos < entry.1.start ∨ entry.1.stop ≤ pos :=
  h entry List.mem_cons_self

namespace Replaces

/-- A kept character stands in its place. -/
theorem getElem?_placeFrom {start : Nat} (h : Replaces text start replaced result)
    (hkept : IsKept replaced pos) (hstart : start ≤ pos) (hpos : pos < text.length) :
    result[placeFrom start replaced pos]? = text[pos]? := by
  induction h with
  | @rest start =>
    rw [placeFrom, List.getElem?_drop, Nat.add_sub_cancel' hstart]
  | @replace start span value more result hle hstop later ih =>
    rw [placeFrom, List.append_assoc]
    split
    · next hlt =>
      have hlength : pos - start < (slice text start span.start).length := by
        rw [slice, List.length_take, List.length_drop]
        omega
      rw [List.getElem?_append_left hlength, slice, List.getElem?_take_of_lt (by omega),
        List.getElem?_drop, Nat.add_sub_cancel' hstart]
    · next hnot =>
      have hbehind : span.stop ≤ pos := hkept.head.resolve_left hnot
      have hlength : (slice text start span.start).length = span.start - start :=
        length_slice (by omega)
      rw [Nat.add_assoc, ← hlength, List.getElem?_append_right (by omega),
        Nat.add_sub_cancel_left, List.getElem?_append_right (by omega), Nat.add_sub_cancel_left]
      exact ih hkept.tail hbehind

theorem placeFrom_lt {start : Nat} (h : Replaces text start replaced result)
    (hleft : IsKept replaced left) (hright : IsKept replaced right) (hstart : start ≤ left)
    (hlt : left < right) : placeFrom start replaced left < placeFrom start replaced right := by
  induction h with
  | rest =>
    rw [placeFrom, placeFrom]
    omega
  | @replace start span value more result hle hstop later ih =>
    have hcases := hleft.head
    rw [placeFrom, placeFrom]
    by_cases hfront : left < span.start
    · rw [if_pos hfront]
      split <;> omega
    · have hbehind := ih hleft.tail hright.tail (hcases.resolve_left hfront)
      rw [if_neg hfront, if_neg (by omega)]
      omega

/-- No stretch that is replaced fits between neighbours. -/
theorem placeFrom_succ {start : Nat} (h : Replaces text start replaced result)
    (hlength : ∀ entry ∈ replaced, entry.1.start < entry.1.stop) (hkept : IsKept replaced pos)
    (hnext : IsKept replaced (pos + 1)) (hstart : start ≤ pos) :
    placeFrom start replaced (pos + 1) = placeFrom start replaced pos + 1 := by
  induction h with
  | rest =>
    rw [placeFrom, placeFrom]
    omega
  | @replace start span value more result hle hstop later ih =>
    have hspan : span.start < span.stop := hlength _ List.mem_cons_self
    have hcases := hkept.head
    have hnextCases := hnext.head
    dsimp only at hcases hnextCases
    rw [placeFrom, placeFrom]
    by_cases hfront : pos < span.start
    · rw [if_pos hfront, if_pos (by omega)]
      omega
    · have hbehind := ih (fun entry hentry => hlength entry (List.mem_cons_of_mem _ hentry))
        hkept.tail hnext.tail (hcases.resolve_left hfront)
      rw [if_neg hfront, if_neg (by omega), hbehind]
      omega

theorem keepsAt (h : Replaces text 0 replaced result)
    (hlength : ∀ entry ∈ replaced, entry.1.start < entry.1.stop) :
    KeepsAt text result (IsKept replaced) (placeFrom 0 replaced) where
  char _ hkept hpos := h.getElem?_placeFrom hkept (Nat.zero_le _) hpos
  order _ _ hleft hright hlt := h.placeFrom_lt hleft hright (Nat.zero_le _) hlt
  next _ hkept hnext := h.placeFrom_succ hlength hkept hnext (Nat.zero_le _)

end Replaces

end NoteTemplate.Text
