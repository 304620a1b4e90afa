import Mathlib.Data.List.Basic
import Mathlib.Tactic.SplitIfs
import NoteTemplate.Editor.Suggestion
import NoteTemplate.Proofs.Failing

/-!
# Completions that close a prompt

Which of the completions end in the closing delimiter, and what they write in front of it, is
said here once for each kind of context.  Variables and tokens of a format never close a prompt,
and behind a second colon only presets do (`Suggestion.ClosesWith`).
-/

namespace NoteTemplate

/-- What closes a prompt. -/
def tagClosing : Text := ['%', '\x7d']

/-- The half that a completion offers a preset of. -/
def SuggestionKind.half? : SuggestionKind → Option Half
  | .dateFormat => some .date
  | .timeFormat => some .time
  | _ => none

/-- The completion closes the prompt. -/
def Suggestion.Closes (suggestion : Suggestion) : Prop := tagClosing <:+ suggestion.insertText

instance (suggestion : Suggestion) : Decidable suggestion.Closes := by
  unfold Suggestion.Closes; infer_instance

/-- What was typed asks for a preset of the half, and then the prompt can be closed. -/
inductive AsksPreset (context : TypingContext) : Half → Prop
  | date (htype : context.valueType = some ValueType.date.name)
      (hcomma : context.afterComma = false) : AsksPreset context .date
  | time (htype : context.valueType = some ValueType.time.name) : AsksPreset context .time
  | datetime (htype : context.valueType = some ValueType.datetime.name)
      (hcomma : context.afterComma = true) : AsksPreset context .time

/-- The completion closes the prompt behind a preset of the half. -/
structure Suggestion.ClosesWith (suggestion : Suggestion) (context : TypingContext) (half : Half)
    (preset : Text × Text) : Prop where
  asks : AsksPreset context half
  mem : preset ∈ half.presets
  half?_eq : suggestion.kind.half? = some half
  label_eq : suggestion.label = preset.1
  insertText_eq : suggestion.insertText = preset.1 ++ [' '] ++ tagClosing

variable {context : TypingContext} {suggestion : Suggestion} {offered : List Suggestion}
  {instant : Instant}

namespace Suggestion

theorem not_closes_of_getLast? (h : suggestion.insertText.getLast? ≠ some '\x7d') :
    ¬suggestion.Closes := by
  rintro ⟨front, hfront⟩
  apply h
  rw [← hfront, List.getLast?_append_of_ne_nil _ (by decide)]
  rfl

theorem mem_of_mem_filter {query : Text} (h : suggestion ∈ filter query offered) :
    suggestion ∈ offered := by
  simp only [filter] at h
  split at h
  · exact h
  · exact List.mem_of_mem_filter h

/-- Behind an opening every completion brings a name. -/
theorem insertText_of_mem_forOpening (h : suggestion ∈ forOpening) :
    suggestion.kind.half? = none ∧ ∃ typed, '%' ∉ typed ∧
      suggestion.insertText = ' ' :: 'N' :: typed ++ tagClosing := by
  have hall : ∀ suggestion ∈ forOpening, suggestion.kind.half? = none ∧
      '%' ∉ (suggestion.insertText.drop 2).dropLast.dropLast ∧
      suggestion.insertText =
        ' ' :: 'N' :: (suggestion.insertText.drop 2).dropLast.dropLast ++ tagClosing := by
    decide
  obtain ⟨hkind, hpercent, hinsert⟩ := hall suggestion h
  exact ⟨hkind, _, hpercent, hinsert⟩

/-- In place of a name nothing but a blank or a colon is written in front of the end. -/
theorem insertText_of_mem_forName {query : Text} (h : suggestion ∈ forName query)
    (hcloses : suggestion.Closes) : suggestion.kind.half? = none ∧
      ∃ typed, '%' ∉ typed ∧ suggestion.insertText = typed ++ tagClosing ∧
        (typed = [' '] ∨ ∃ rest, typed = ':' :: rest) := by
  have hmem : suggestion ∈ behindName := by
    simp only [forName] at h
    split at h
    · exact h
    · exact List.mem_of_mem_filter h
  have hall : ∀ suggestion ∈ behindName, suggestion.Closes → suggestion.kind.half? = none ∧
      ∃ typed ∈ [[' '], ":text ".toList, ":number ".toList],
        suggestion.insertText = typed ++ tagClosing := by
    decide
  have hwords : ∀ typed ∈ [[' '], ":text ".toList, ":number ".toList],
      '%' ∉ typed ∧ (typed = [' '] ∨ typed = ':' :: typed.tail) := by
    decide
  obtain ⟨hkind, typed, htyped, hinsert⟩ := hall suggestion hmem hcloses
  obtain ⟨hpercent, hshape⟩ := hwords typed htyped
  exact ⟨hkind, typed, hpercent, hinsert, hshape.imp_right fun hcolon => ⟨_, hcolon⟩⟩

theorem insertText_of_mem_forValueType {query : Text} (h : suggestion ∈ forValueType query)
    (hcloses : suggestion.Closes) : suggestion.kind.half? = none ∧
      ∃ typed, '%' ∉ typed ∧ suggestion.insertText = typed ++ tagClosing := by
  have hmem : suggestion ∈ forValueType [] := mem_of_mem_filter h
  have hall : ∀ suggestion ∈ forValueType [], suggestion.Closes → suggestion.kind.half? = none ∧
      ∃ typed ∈ ["text ".toList, "number ".toList],
        suggestion.insertText = typed ++ tagClosing := by
    decide
  have hwords : ∀ typed ∈ ["text ".toList, "number ".toList], '%' ∉ typed := by decide
  obtain ⟨hkind, typed, htyped, hinsert⟩ := hall suggestion hmem hcloses
  exact ⟨hkind, typed, hwords typed htyped, hinsert⟩

variable [LocalZone]

theorem not_closes_of_mem_forVariable {query : Text}
    (hoffered : forVariable query instant = .ok offered) (h : suggestion ∈ offered) :
    ¬suggestion.Closes := by
  obtain ⟨values, -, hoffered⟩ := bind_eq_ok_iff.1 hoffered
  obtain rfl := Except.ok.inj hoffered
  obtain ⟨known, -, rfl⟩ := List.mem_map.1 h
  rintro ⟨front, hfront⟩
  exact absurd (List.append_inj_right' hfront rfl) (by decide)

/-- The offer of a token. -/
def tokenOffer (instant : Instant) (token : Token) : Except Failure Suggestion := do
  let sample ← (instant.example? token).mapError Failure.calendar
  return ⟨token.symbol, token.description, token.symbol, .formatToken, some sample,
    some token.category⟩

theorem insertText_of_mem_forFormatToken
    (hoffered : forFormatToken context instant = .ok offered) (h : suggestion ∈ offered) :
    suggestion.insertText = [] ∨ ∃ token ∈ Token.all, suggestion.insertText = token.symbol := by
  have hlater {preview : List Suggestion} {tokens : List Token}
      (hpreview : ∀ shown ∈ preview, shown.insertText = []) (htokens : tokens ⊆ Token.all)
      (hoffered : (do
        let listed ← tokens.mapM (tokenOffer instant)
        return preview ++ listed) = .ok offered) :
      suggestion.insertText = [] ∨
        ∃ token ∈ Token.all, suggestion.insertText = token.symbol := by
    obtain ⟨listed, hlisted, hoffered⟩ := bind_eq_ok_iff.1 hoffered
    obtain rfl := Except.ok.inj hoffered
    rcases List.mem_append.1 h with h | h
    · exact Or.inl (hpreview suggestion h)
    · obtain ⟨token, htoken, hoffer⟩ := exists_of_mapM hlisted suggestion h
      obtain ⟨sample, -, hoffer⟩ := bind_eq_ok_iff.1 hoffer
      obtain rfl := Except.ok.inj hoffer
      exact Or.inr ⟨token, htokens htoken, rfl⟩
  have htokens (keep : Token → Bool) :
      (tokensFor context.valueType).filter keep ⊆ Token.all := by
    intro token htoken
    rcases List.mem_append.1 (List.mem_of_mem_filter htoken) with htoken | htoken
    · exact List.mem_of_mem_filter htoken
    · exact List.mem_of_mem_filter htoken
  rw [forFormatToken] at hoffered
  dsimp only at hoffered
  split at hoffered
  · obtain ⟨value, -, hoffered⟩ := bind_eq_ok_iff.1 hoffered
    exact hlater (by simp) (htokens _) hoffered
  · exact hlater (by simp) (htokens _) hoffered

theorem not_closes_of_mem_forFormatToken
    (hoffered : forFormatToken context instant = .ok offered) (h : suggestion ∈ offered) :
    ¬suggestion.Closes := by
  have hsymbols : ∀ token ∈ Token.all, ¬tagClosing <:+ token.symbol := by decide
  rw [Closes]
  rcases insertText_of_mem_forFormatToken hoffered h with hinsert | ⟨token, htoken, hinsert⟩
  · rw [hinsert]
    decide
  · rw [hinsert]
    exact hsymbols token htoken

/-! ### Presets -/

/-- The dates that are offered. -/
def dateOffers (context : TypingContext) (instant : Instant) :
    Except Failure (List Suggestion) :=
  let valueType := context.valueType.getD []
  let isDatetime : Bool := valueType = ValueType.datetime.name
  if (valueType = ValueType.date.name || isDatetime) && !context.afterComma then do
    let ending := if isDatetime then [','] else closing
    let presets ← presets .date .dateFormat "Date format: " ending instant
    return presets ++ [customFormat "Custom date format string" "e.g., format(MMM DD)"]
  else return []

/-- The times of day that are offered. -/
def timeOffers (context : TypingContext) (instant : Instant) :
    Except Failure (List Suggestion) :=
  let valueType := context.valueType.getD []
  let isTime : Bool := valueType = ValueType.time.name
  if isTime || (valueType = ValueType.datetime.name && context.afterComma) then do
    let presets ← presets .time .timeFormat "Time format: " closing instant
    return presets ++
      if isTime then [customFormat "Custom time format string" "e.g., format(H:mm)"] else []
  else return []

theorem forFormat_eq (context : TypingContext) (instant : Instant) :
    forFormat context instant = (do
      let dates ← dateOffers context instant
      let times ← timeOffers context instant
      return filter context.query (dates ++ times)) := by
  simp only [forFormat, dateOffers, timeOffers]
  split_ifs <;> simp only [bind_assoc, pure_bind]

theorem exists_preset_of_mem_presets {half : Half} {kind : SuggestionKind} {title : String}
    {ending : Text} (hoffered : presets half kind title ending instant = .ok offered)
    (h : suggestion ∈ offered) :
    ∃ preset ∈ half.presets, suggestion.label = preset.1 ∧
      suggestion.insertText = preset.1 ++ ending ∧ suggestion.kind = kind := by
  obtain ⟨preset, hpreset, hoffer⟩ := exists_of_mapM hoffered suggestion h
  obtain ⟨sample, -, hoffer⟩ := bind_eq_ok_iff.1 hoffer
  obtain rfl := Except.ok.inj hoffer
  exact ⟨preset, hpreset, rfl, rfl, rfl⟩

omit [LocalZone] in
theorem not_closes_customFormat (description sample : String) :
    ¬(customFormat description sample).Closes := by
  have hopening : ¬tagClosing <:+ "format(".toList := by decide
  exact hopening

omit [LocalZone] in
theorem valueType_eq_some {name : Text} (hne : name ≠ [])
    (h : context.valueType.getD [] = name) : context.valueType = some name := by
  cases hvalue : context.valueType with
  | none =>
    rw [hvalue, Option.getD_none] at h
    exact absurd h.symm hne
  | some value => rw [← h, hvalue, Option.getD_some]

theorem exists_closesWith_of_mem_presets {half : Half} {kind : SuggestionKind} {title : String}
    (hasks : AsksPreset context half) (hkind : kind.half? = some half)
    (hoffered : presets half kind title closing instant = .ok offered) (h : suggestion ∈ offered) :
    ∃ preset, suggestion.ClosesWith context half preset := by
  obtain ⟨preset, hpreset, hlabel, hinsert, rfl⟩ := exists_preset_of_mem_presets hoffered h
  exact ⟨preset, hasks, hpreset, hkind, hlabel, by simp [hinsert, closing, tagClosing]⟩

theorem exists_closesWith_of_mem_dateOffers (hoffered : dateOffers context instant = .ok offered)
    (h : suggestion ∈ offered) (hcloses : suggestion.Closes) :
    ∃ half preset, suggestion.ClosesWith context half preset := by
  simp only [dateOffers] at hoffered
  split at hoffered
  · next hasks =>
    obtain ⟨dates, hdates, hoffered⟩ := bind_eq_ok_iff.1 hoffered
    obtain rfl := Except.ok.inj hoffered
    rcases List.mem_append.1 h with h | h
    · split at hdates
      · obtain ⟨preset, -, -, hinsert, -⟩ := exists_preset_of_mem_presets hdates h
        refine absurd hcloses (not_closes_of_getLast? ?_)
        rw [hinsert]
        simp
      · next hdatetime =>
        obtain ⟨htype, hcomma⟩ := by simpa [hdatetime] using hasks
        have hdate := AsksPreset.date (valueType_eq_some (by decide) htype) hcomma
        exact ⟨.date, exists_closesWith_of_mem_presets hdate rfl hdates h⟩
    · rw [List.mem_singleton.1 h] at hcloses
      exact absurd hcloses (not_closes_customFormat _ _)
  · obtain rfl := Except.ok.inj hoffered
    cases h

theorem exists_closesWith_of_mem_timeOffers (hoffered : timeOffers context instant = .ok offered)
    (h : suggestion ∈ offered) (hcloses : suggestion.Closes) :
    ∃ half preset, suggestion.ClosesWith context half preset := by
  simp only [timeOffers] at hoffered
  split at hoffered
  · next hasks =>
    obtain ⟨times, htimes, hoffered⟩ := bind_eq_ok_iff.1 hoffered
    obtain rfl := Except.ok.inj hoffered
    rcases List.mem_append.1 h with h | h
    · have htime : AsksPreset context .time := by
        simp only [Bool.or_eq_true, Bool.and_eq_true, decide_eq_true_eq] at hasks
        rcases hasks with htype | ⟨htype, hcomma⟩
        · exact .time (valueType_eq_some (by decide) htype)
        · exact .datetime (valueType_eq_some (by decide) htype) hcomma
      exact ⟨.time, exists_closesWith_of_mem_presets htime rfl htimes h⟩
    · split at h
      · rw [List.mem_singleton.1 h] at hcloses
        exact absurd hcloses (not_closes_customFormat _ _)
      · cases h
  · obtain rfl := Except.ok.inj hoffered
    cases h

/-- Behind a second colon only the presets close a prompt. -/
theorem exists_closesWith_of_mem_forFormat (hoffered : forFormat context instant = .ok offered)
    (h : suggestion ∈ offered) (hcloses : suggestion.Closes) :
    ∃ half preset, suggestion.ClosesWith context half preset := by
  rw [forFormat_eq] at hoffered
  obtain ⟨dates, hdates, hoffered⟩ := bind_eq_ok_iff.1 hoffered
  obtain ⟨times, htimes, hoffered⟩ := bind_eq_ok_iff.1 hoffered
  obtain rfl := Except.ok.inj hoffered
  rcases List.mem_append.1 (mem_of_mem_filter h) with h | h
  · exact exists_closesWith_of_mem_dateOffers hdates h hcloses
  · exact exists_closesWith_of_mem_timeOffers htimes h hcloses

end Suggestion

end NoteTemplate
