import NoteTemplate.Proofs.Failing
import NoteTemplate.Proofs.Terminal.Words

/-!
# Faults of a text that is no JSON

The reason of a fault is one of a few phrases, whatever the text is, and none of them has a
bracket.  So what is said about a fault is words, and it can stand in a message beside anything
else.
-/

namespace NoteTemplate

/-- The reason, if the fault has one, has no bracket. -/
def JsonFault.IsPlain (fault : JsonFault) : Prop :=
  ∀ reason position, fault = .malformed reason position → reason.any isTagBracket = false

namespace JsonReader

variable {α : Type}

theorem onlyFails_malformed {reason : Text} (h : reason.any isTagBracket = false)
    (position : Nat) :
    OnlyFails JsonFault.IsPlain (.error (.malformed reason position) : Except JsonFault α) := by
  apply onlyFails_error
  rintro _ _ ⟨⟩
  exact h

theorem onlyFails_fault {reason : String} (h : reason.toList.any isTagBracket = false)
    (cursor : Cursor) :
    OnlyFails JsonFault.IsPlain (cursor.fault reason : Except JsonFault α) :=
  onlyFails_malformed h cursor.position

theorem onlyFails_cons {result : Except JsonFault (Text × Cursor)} (c : Char)
    (h : OnlyFails JsonFault.IsPlain result) :
    OnlyFails JsonFault.IsPlain (stringFrom.cons c result) := by
  cases result with
  | ok found => exact onlyFails_ok _
  | error fault => exact onlyFails_error (h fault rfl)

theorem onlyFails_stringFrom (opening skip position : Nat) (text : Text) :
    OnlyFails JsonFault.IsPlain (stringFrom opening skip position text) := by
  fun_induction stringFrom opening skip position text <;>
    first
    | exact onlyFails_ok _
    | exact onlyFails_malformed (by decide) _
    | exact onlyFails_cons _ ‹_›
    | assumption

theorem onlyFails_tooManyDigits (count : Nat) :
    OnlyFails JsonFault.IsPlain (.error (.tooManyDigits count) : Except JsonFault α) :=
  onlyFails_error fun _ _ h => nomatch h

theorem onlyFails_nestedTooDeep :
    OnlyFails JsonFault.IsPlain (.error .nestedTooDeep : Except JsonFault α) :=
  onlyFails_error fun _ _ h => nomatch h

theorem onlyFails_number (cursor : Cursor) : OnlyFails JsonFault.IsPlain (number cursor) := by
  unfold number
  dsimp only
  generalize (if decide (cursor.rest.head? = some '-') = true then cursor.advance 1 else cursor) =
    start
  generalize (if start.rest.head? = some '0' then ['0'] else start.rest.takeWhile Char.isDigit) =
    digits
  split
  · exact onlyFails_fault (by decide) _
  · split
    · split
      · exact onlyFails_tooManyDigits _
      · exact onlyFails_ok _
    · exact onlyFails_ok _

/-- What is opened is read only when it is not nested too deep. -/
theorem onlyFails_opened {depth : Nat} {inside : Unit → Except JsonFault α}
    (h : OnlyFails JsonFault.IsPlain (inside ())) :
    OnlyFails JsonFault.IsPlain
      (if depth = 0 then (throw .nestedTooDeep : Except JsonFault Unit) >>= inside
        else inside ()) := by
  split
  · exact onlyFails_nestedTooDeep
  · exact h

/-- The readers of values, of items and of fields call one another with less fuel. -/
theorem onlyFails_reader (fuel : Nat) :
    (∀ depth cursor, OnlyFails JsonFault.IsPlain (value fuel depth cursor)) ∧
      (∀ depth cursor, OnlyFails JsonFault.IsPlain (items fuel depth cursor)) ∧
      ∀ depth read cursor, OnlyFails JsonFault.IsPlain (fields fuel depth read cursor) := by
  induction fuel with
  | zero =>
    exact ⟨fun _ _ => onlyFails_fault (by decide) _, fun _ _ => onlyFails_fault (by decide) _,
      fun _ _ _ => onlyFails_fault (by decide) _⟩
  | succ fuel ih =>
    obtain ⟨hvalue, hitems, hfields⟩ := ih
    refine ⟨fun depth cursor => ?_, fun depth cursor => ?_, fun depth read cursor => ?_⟩
    · rw [value]
      split
      · exact (onlyFails_stringFrom _ _ _ _).bind fun _ => onlyFails_ok _
      · apply onlyFails_opened
        dsimp only
        split
        · exact onlyFails_ok _
        · exact (hitems _ _).bind fun _ => onlyFails_ok _
      · apply onlyFails_opened
        dsimp only
        split
        · exact onlyFails_ok _
        · exact (hfields _ _ _).bind fun _ => onlyFails_ok _
      · split
        · exact onlyFails_ok _
        · exact onlyFails_number cursor
    · rw [items]
      refine (hvalue depth cursor).bind fun found => ?_
      dsimp only
      split
      · exact onlyFails_ok _
      · exact (hitems _ _).bind fun _ => onlyFails_ok _
      · exact onlyFails_fault (by decide) _
    · rw [fields]
      split
      · refine (onlyFails_stringFrom _ _ _ _).bind fun found => ?_
        dsimp only
        split
        · refine (hvalue _ _).bind fun found => ?_
          split
          · exact onlyFails_ok _
          · exact hfields _ _ _
          · exact onlyFails_fault (by decide) _
        · exact onlyFails_fault (by decide) _
      · exact onlyFails_fault (by decide) _

end JsonReader

/-- Whatever the text is, the reason why it is no JSON has no bracket. -/
theorem Json.onlyFails_read (maxNesting : Nat) (text : Text) :
    OnlyFails JsonFault.IsPlain (read maxNesting text) := by
  rw [read]
  split
  · exact JsonReader.onlyFails_malformed (by decide) 0
  · refine ((JsonReader.onlyFails_reader _).1 _ _).bind fun found => ?_
    dsimp only
    split
    · exact onlyFails_ok _
    · exact JsonReader.onlyFails_fault (by decide) _

/-- What is said about a fault is words: the place of the fault adds only numbers. -/
theorem JsonFault.isWords_message {reason : Text} (h : reason.any isTagBracket = false)
    (position : Nat) (text : Text) :
    ((JsonFault.malformed reason position).message text).IsWords := by
  have hline : ": line ".toList.any isTagBracket = false := by decide
  have hcolumn : " column ".toList.any isTagBracket = false := by decide
  have hchar : " (char ".toList.any isTagBracket = false := by decide
  have hclose : [')'].any isTagBracket = false := by decide
  constructor
  · simp only [message, List.any_append, h, hline, hcolumn, hchar, hclose,
      any_isTagBracket_decimal, Bool.or_false]
  · rw [message, List.getLast?_append, List.getLast?_singleton, Option.some_or]
    decide

end NoteTemplate
