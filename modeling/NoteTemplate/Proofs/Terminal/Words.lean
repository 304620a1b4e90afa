import NoteTemplate.Proofs.Number.Decimal
import NoteTemplate.Terminal.Message

/-!
# Messages of words

Words are shown as they are, and so are one text and a number between words.
-/

namespace NoteTemplate

theorem Text.IsWords.append {front behind : Text} (hfront : front.IsWords)
    (hbehind : behind.IsWords) : Text.IsWords (front ++ behind) := by
  refine ⟨by rw [List.any_append, hfront.1, hbehind.1]; rfl, ?_⟩
  rw [List.getLast?_append]
  cases hlast : behind.getLast? with
  | none => exact hfront.2
  | some c =>
    rw [Option.some_or, ← hlast]
    exact hbehind.2

theorem any_isTagBracket_decimal (number : Nat) : (decimal number).any isTagBracket = false := by
  rw [List.any_eq_false]
  intro c hc hbracket
  have hdigit : c.isDigit = true := isDigit_of_mem_decimal hc
  rw [isTagBracket, Bool.or_eq_true, decide_eq_true_iff, decide_eq_true_iff] at hbracket
  rcases hbracket with rfl | rfl <;> cases hdigit

theorem isWords_decimal (number : Nat) : (decimal number).IsWords := by
  refine ⟨any_isTagBracket_decimal number, fun hlast => ?_⟩
  have hdigit : '\\'.isDigit = true := isDigit_of_mem_decimal (List.mem_of_getLast? hlast)
  cases hdigit

namespace Styling

variable [Styling] {front : Text} {style : String}

/-- One text behind words is shown. -/
theorem refusal?_quoted (text : Text) (hfront : front.IsWords) :
    refusal? (front ++ escape text) = none := by
  have hshown := refusal?_escape text hfront (by decide : Text.IsWords [])
  rwa [List.append_nil] at hshown

theorem refusal?_words (h : front.IsWords) : refusal? front = none := by
  have hnil : escape [] = [] := escape_of_isWords (by decide)
  have hshown := refusal?_quoted [] h
  rwa [hnil, List.append_nil] at hshown

theorem refusal?_styledWords (h : front.IsWords) (hstyle : style ∈ ["bold", "dim", "red", "green"]) :
    refusal? (styled style front) = none := by
  have hnil : escape [] = [] := escape_of_isWords (by decide)
  have hshown := refusal?_styled [] hstyle h (by decide : Text.IsWords [])
  rwa [hnil, List.append_nil, List.append_nil] at hshown

/-- One text in a style is shown. -/
theorem refusal?_styledQuoted (text : Text) (hstyle : style ∈ ["bold", "dim", "red", "green"]) :
    refusal? (styled style (escape text)) = none := by
  have hnil : Text.IsWords [] := by decide
  have hshown := refusal?_styled text hstyle hnil hnil
  rwa [List.nil_append, List.append_nil] at hshown

end Styling

end NoteTemplate
