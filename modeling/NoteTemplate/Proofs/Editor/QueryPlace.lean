import NoteTemplate.Proofs.Editor.Typed
import NoteTemplate.Proofs.Markdown.FencedLines

/-!
# Where the query stands

The query is the end of the text, and nothing but the last line decides what it is: in front of
another cursor the same line is read in the same way, and only the place moves
(`lineContext?_eq_map`).  Where the last line is fenced nothing is offered, so the query is what a
completion takes the place of (`queryPlace_of_typingContext?`).
-/

namespace NoteTemplate

/-- The last line of the text is fenced, so what is typed at its end is code. -/
def EndsFenced (text : Text) : Prop := IsFencedLine text.lines (text.lines.length - 1)

namespace Typing

variable {line opened name valueType query content : Text}

/-- The longest end of a text stands at its end. -/
theorem trailing_suffix (keep : Char → Bool) (text : Text) : trailing keep text <:+ text :=
  List.rtakeWhile_suffix keep text

theorem suffix_of_variableQuery? (h : variableQuery? line = some query) : query <:+ line := by
  rw [variableQuery?] at h
  split at h
  · obtain rfl := Option.some.inj h
    exact trailing_suffix isWordChar line
  · cases h

theorem suffix_of_formatInside? (h : formatInside? opened = some (name, valueType, content)) :
    content <:+ opened := by
  obtain ⟨⟨cut, rest⟩, hcut, htype⟩ := Option.bind_eq_some_iff.1 h
  obtain ⟨before, -, rfl⟩ := exists_of_cutName? hcut
  obtain ⟨⟨type, detail⟩, hword, hformat⟩ := Option.bind_eq_some_iff.1 htype
  obtain ⟨word, -, -, rfl⟩ := exists_of_cutFormatType? hword
  dsimp only at hformat
  split at hformat
  · obtain ⟨-, -, rfl⟩ := by simpa using hformat
    have hdetail := List.suffix_append (before ++ ':' :: (word ++ [':'])) detail
    rw [List.append_assoc, List.cons_append, List.append_assoc] at hdetail
    exact (List.drop_suffix _ detail).trans hdetail
  · cases hformat

end Typing

open Typing

variable {text other line : Text} {context : TypingContext} {cursor : Nat}

/-! ### In a line -/

/-- The query ends the line, and starts as far in front of the cursor as it is long.  Where a token
is typed, the query also ends the format, which ends the line. -/
structure EndsWithQuery (cursor : Nat) (line : Text) (context : TypingContext) : Prop where
  query_suffix : context.query <:+ line
  start_eq : context.start = cursor - context.query.length
  format_suffix : context.kind = .formatToken → ∃ content,
    context.formatContent = some content ∧ content <:+ line ∧ context.query <:+ content

theorem endsWithQuery_of_lineContext? (h : lineContext? cursor line = some context) :
    EndsWithQuery cursor line context := by
  rw [lineContext?] at h
  dsimp only at h
  split at h
  · next query hvariable =>
    obtain rfl := Option.some.inj h
    exact ⟨suffix_of_variableQuery? hvariable, rfl, by simp⟩
  split at h
  · obtain rfl := Option.some.inj h
    exact ⟨List.nil_suffix, rfl, by simp⟩
  split at h
  · next name valueType content hfound =>
    obtain rfl := Option.some.inj h
    obtain ⟨front, opened, rfl, hinside⟩ := exists_of_findSome?_openedTexts hfound
    have hcontent := (suffix_of_formatInside? hinside).trans
      (List.suffix_append (front ++ ['\x7b', '%']) opened)
    rw [List.append_assoc] at hcontent
    have hquery := trailing_suffix Char.isAlpha content
    exact ⟨hquery.trans hcontent, rfl, fun _ => ⟨content, rfl, hcontent, hquery⟩⟩
  split at h
  · next name query hfound =>
    obtain rfl := Option.some.inj h
    obtain ⟨front, opened, rfl, hinside⟩ := exists_of_findSome?_openedTexts hfound
    obtain ⟨before, blanks, rfl, -⟩ := exists_of_typeInside? hinside
    exact ⟨⟨front ++ '\x7b' :: '%' :: (before ++ ':' :: blanks), by simp⟩, rfl, by simp⟩
  split at h
  · next name valueType query afterComma hfound =>
    obtain rfl := Option.some.inj h
    obtain ⟨front, opened, rfl, hinside⟩ := exists_of_findSome?_openedTexts hfound
    obtain ⟨before, word, blanks, picked, rfl, -⟩ := exists_of_presetInside? hinside
    exact ⟨⟨front ++ '\x7b' :: '%' :: (before ++ ':' :: (word ++ ':' :: (blanks ++ picked))),
      by simp⟩, rfl, by simp⟩
  · obtain ⟨query, hfound, rfl⟩ := Option.map_eq_some_iff.1 h
    obtain ⟨front, opened, rfl, hinside⟩ := exists_of_findSome?_openedTexts hfound
    obtain ⟨mark, blanks, rfl, -⟩ := exists_of_nameInside? hinside
    exact ⟨⟨front ++ '\x7b' :: '%' :: (mark ++ blanks), by simp⟩, rfl, by simp⟩

/-- In front of another cursor a line is read in the same way. -/
theorem lineContext?_eq_map (cursor moved : Nat) (line : Text) :
    lineContext? moved line = (lineContext? cursor line).map fun context =>
      { context with start := moved - context.query.length } := by
  rw [lineContext?, lineContext?]
  dsimp only
  cases variableQuery? line with
  | some query => rfl
  | none =>
    cases isOpening line with
    | true => rfl
    | false =>
      cases (openedTexts line).findSome? formatInside? with
      | some found => rfl
      | none =>
        cases (openedTexts line).findSome? typeInside? with
        | some found => rfl
        | none =>
          cases (openedTexts line).findSome? presetInside? with
          | some found => rfl
          | none => cases (openedTexts line).findSome? nameInside? <;> rfl

/-! ### At the end of a text -/

theorem lineFeed_notMem_trailing (text : Text) : '\n' ∉ trailing (· ≠ '\n') text := by
  intro hmem
  have hchar := List.mem_rtakeWhile_imp hmem
  simp at hchar

/-- Behind the last line feed stands the last line. -/
theorem getLast?_lines (text : Text) :
    text.lines.getLast? = some (trailing (· ≠ '\n') text) := by
  have hlast : Text.splitOn '\n' (trailing (· ≠ '\n') text) = [trailing (· ≠ '\n') text] :=
    Text.splitOn_of_notMem (lineFeed_notMem_trailing text)
  have hparts : text.rdropWhile (· ≠ '\n') ++ trailing (· ≠ '\n') text = text :=
    List.rdropWhile_append_rtakeWhile
  have hlines := congrArg Text.lines hparts
  rw [← hlines, Text.lines]
  by_cases hfront : text.rdropWhile (· ≠ '\n') = []
  · rw [hfront, List.nil_append, hlast]
    rfl
  · have hfeed := List.rdropWhile_last_not (fun c => decide (c ≠ '\n')) text hfront
    rw [decide_eq_true_eq, not_not] at hfeed
    rw [← List.dropLast_append_getLast hfront, hfeed, List.append_assoc, List.singleton_append,
      Text.splitOn_append, hlast]
    exact List.getLast?_concat

theorem insideCodeBlock_length_iff (text : Text) :
    insideCodeBlock (codeBlocks text) text.length = true ↔ EndsFenced text :=
  (ownsPlace_length text).insideCodeBlock_iff

theorem typingContext?_eq_some_iff :
    typingContext? text = some context ↔ ¬EndsFenced text ∧
      lineContext? text.length (trailing (· ≠ '\n') text) = some context := by
  rw [typingContext?, ← insideCodeBlock_length_iff]
  split
  · next hinside => simp [hinside]
  · next hinside => simp [hinside]

/-- The query is the end of the text behind its start, and of its last line, which is not fenced.
Behind other lines the same last line has the same context, if it is not fenced there either; only
the start of the query moves with the end of the text.  A format in which a token is typed reaches
up to the end of the text and ends with the query. -/
theorem queryPlace_of_typingContext? (h : typingContext? text = some context) :
    context.start ≤ text.length ∧ text.drop context.start = context.query ∧
    '\n' ∉ context.query ∧ ¬EndsFenced text ∧
    (∀ other : Text, other.lines.getLast? = text.lines.getLast? → ¬EndsFenced other →
      ∃ start, typingContext? other = some { context with start := start } ∧
        start + text.length = context.start + other.length) ∧
    (context.kind = .formatToken → ∃ content, context.formatContent = some content ∧
      content <:+ text ∧ context.query <:+ content) := by
  obtain ⟨hunfenced, hline⟩ := typingContext?_eq_some_iff.1 h
  have hends := endsWithQuery_of_lineContext? hline
  have hlength := hends.query_suffix.length_le
  have hsuffix := hends.query_suffix.trans (trailing_suffix _ text)
  refine ⟨?_, ?_, fun hmem => ?_, hunfenced, fun other hother hopen => ?_, fun hkind => ?_⟩
  · rw [hends.start_eq]
    exact Nat.sub_le _ _
  · rw [hends.start_eq]
    exact (List.suffix_iff_eq_drop.1 hsuffix).symm
  · exact lineFeed_notMem_trailing text (hends.query_suffix.mem hmem)
  · rw [getLast?_lines, getLast?_lines, Option.some.injEq] at hother
    have hmoved : context.query.length ≤ other.length := by
      rw [← hother] at hlength
      exact hlength.trans (trailing_suffix _ other).length_le
    have hhere := hsuffix.length_le
    refine ⟨other.length - context.query.length, ?_, ?_⟩
    · rw [typingContext?_eq_some_iff, hother, lineContext?_eq_map text.length, hline]
      exact ⟨hopen, rfl⟩
    · rw [hends.start_eq]
      omega
  · obtain ⟨content, hformat, hcontent, hquery⟩ := hends.format_suffix hkind
    exact ⟨content, hformat, hcontent.trans (trailing_suffix _ text), hquery⟩

/-- A text with code in front, and a format that is typed behind it. -/
def typedFormat : Text := "\x60\x60\x60\ncode\n\x60\x60\x60\n\x7b%? Day:Date:format(YY-M".toList

/-- Behind the code the month of a format is being typed. -/
theorem queryPlace_typedFormat :
    ∃ context, typingContext? typedFormat = some context ∧
      context.kind = .formatToken ∧ context.formatContent = some "YY-M".toList ∧
      typedFormat.drop context.start = "M".toList ∧ ¬EndsFenced typedFormat := by
  have htyping : typingContext? typedFormat = some ⟨.formatToken, "M".toList, 36,
      some "Day".toList, some "date".toList, some "YY-M".toList, false⟩ := by
    decide +kernel
  obtain ⟨-, hdrop, -, hunfenced, -⟩ := queryPlace_of_typingContext? htyping
  exact ⟨_, htyping, rfl, rfl, hdrop, hunfenced⟩

end NoteTemplate
