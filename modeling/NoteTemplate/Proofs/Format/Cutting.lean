import Mathlib.Data.List.Chain
import NoteTemplate.Proofs.Format.Placing

/-!
# How a format is cut

A format is cut into tokens and the literal text between them.  What a cut is, is said here for
any row of parts: the parts leave no gap, a token is the longest one that stands where it starts,
no token stands anywhere in literal text, and literal text is not cut in two.  The parts of a
format are a cut of it, and but for empty parts they are the only one
(`formatParts_eq_iff_isCutFrom`).
-/

namespace NoteTemplate

variable {format : Text} {start stop : Nat} {part other : FormatPart Nat}
  {parts left right : List (FormatPart Nat)}

/-! ### The longest token -/

namespace Token

/-- The token stands at the place, and no longer one does. -/
structure IsLongestAt (token : Token) (text : Text) (pos : Nat) : Prop where
  stands : token.symbol <+: text.drop pos
  longest : ∀ other : Token, other.symbol <+: text.drop pos →
    other.symbol.length ≤ token.symbol.length

theorem ofSymbol?_symbol (token : Token) : ofSymbol? token.symbol = some token := by
  cases token <;> rfl

/-- No two tokens share a symbol. -/
theorem symbol_injective : Function.Injective symbol := by
  intro left right heq
  apply Option.some.inj
  rw [← ofSymbol?_symbol left, ← ofSymbol?_symbol right, heq]

/-- Tokens with longer symbols are tried first. -/
theorem pairwise_byLength :
    byLength.Pairwise fun left right => right.symbol.length ≤ left.symbol.length := by
  decide

theorem isLongestAt_of_longest? {text : Text} {pos : Nat} {token : Token}
    (h : longest? (text.drop pos) = some token) : token.IsLongestAt text pos := by
  obtain ⟨hstands, before, behind, hsplit, hbefore⟩ := List.find?_eq_some_iff_append.1 h
  refine ⟨List.isPrefixOf_iff_prefix.1 hstands, fun other hother => ?_⟩
  have hmem := mem_byLength other
  rw [hsplit, List.mem_append, List.mem_cons] at hmem
  rcases hmem with hmem | rfl | hmem
  · have hnot := hbefore other hmem
    rw [List.isPrefixOf_iff_prefix.2 hother] at hnot
    exact absurd hnot (by decide)
  · exact Nat.le_refl _
  · have hpairwise := pairwise_byLength
    rw [hsplit, List.pairwise_append, List.pairwise_cons] at hpairwise
    exact hpairwise.2.1.1 other hmem

theorem not_prefix_of_longest? {text : Text} (h : longest? text = none) (token : Token) :
    ¬ token.symbol <+: text := by
  intro hstands
  have hnot := List.find?_eq_none.1 h token (mem_byLength token)
  exact hnot (List.isPrefixOf_iff_prefix.2 hstands)

/-- Two tokens that are longest at one place are the same. -/
theorem IsLongestAt.eq {text : Text} {pos : Nat} {token other : Token}
    (h : token.IsLongestAt text pos) (hother : other.IsLongestAt text pos) : token = other := by
  apply symbol_injective
  apply List.IsPrefix.eq_of_length
  · exact List.prefix_of_prefix_length_le h.stands hother.stands (hother.longest _ h.stands)
  · exact Nat.le_antisymm (hother.longest _ h.stands) (h.longest _ hother.stands)

end Token

/-! ### Cuts -/

/-- The stretches lead from one place to another without a gap. -/
inductive AreContiguous : Nat → List (Span Nat) → Nat → Prop where
  | nil (pos : Nat) : AreContiguous pos [] pos
  | cons {start middle stop : Nat} {spans : List (Span Nat)} (hle : start ≤ middle)
      (hrest : AreContiguous middle spans stop) :
      AreContiguous start (⟨start, middle⟩ :: spans) stop

theorem areContiguous_nil_iff : AreContiguous start [] stop ↔ start = stop :=
  ⟨fun h => by cases h; rfl, fun h => h ▸ .nil start⟩

theorem areContiguous_cons_iff {span : Span Nat} {spans : List (Span Nat)} :
    AreContiguous start (span :: spans) stop ↔
      span.start = start ∧ span.start ≤ span.stop ∧ AreContiguous span.stop spans stop := by
  constructor
  · intro h
    cases h with
    | cons hle hrest => exact ⟨rfl, hle, hrest⟩
  · rintro ⟨rfl, hle, hrest⟩
    exact .cons hle hrest

theorem AreContiguous.start_le_stop {spans : List (Span Nat)}
    (h : AreContiguous start spans stop) : start ≤ stop := by
  induction h with
  | nil pos => exact Nat.le_refl pos
  | cons hle hrest ih => exact Nat.le_trans hle ih

theorem AreAdjoined.areContiguous {spans : List (Span Nat)}
    (h : AreAdjoined start spans stop) : AreContiguous start spans stop := by
  induction h with
  | nil pos => exact .nil pos
  | cons hlt hrest ih => exact .cons (Nat.le_of_lt hlt) ih

/-- The part covers at least one character. -/
def FormatPart.IsFilled (part : FormatPart Nat) : Prop := part.span.start < part.span.stop

instance (part : FormatPart Nat) : Decidable part.IsFilled := by
  unfold FormatPart.IsFilled; infer_instance

/-- The parts cut the format, from `start` to its end, into tokens and literal text. -/
structure IsCutFrom (format : Text) (start : Nat) (parts : List (FormatPart Nat)) : Prop where
  contiguous : AreContiguous start (parts.map FormatPart.span) format.length
  text_eq : ∀ part ∈ parts, part.piece.text = part.span.of format
  isLongestAt : ∀ part ∈ parts, ∀ token : Token, part.piece = .token token →
    token.IsLongestAt format part.span.start
  /-- No token stands anywhere in literal text. -/
  no_token : ∀ part ∈ parts, part.piece.isToken = false →
    ∀ pos, part.span.start ≤ pos → pos < part.span.stop →
      ∀ token : Token, ¬ token.symbol <+: format.drop pos
  /-- Of two neighbours at least one is a token. -/
  literals_apart : parts.IsChain fun left right => left.piece.isToken ∨ right.piece.isToken

namespace IsCutFrom

theorem nil_iff : IsCutFrom format start [] ↔ start = format.length := by
  constructor
  · intro h
    exact areContiguous_nil_iff.1 h.contiguous
  · rintro rfl
    exact ⟨.nil _, by simp, by simp, by simp, .nil⟩

theorem start_eq (h : IsCutFrom format start (part :: parts)) : part.span.start = start :=
  (areContiguous_cons_iff.1 h.contiguous).1

theorem tail (h : IsCutFrom format start (part :: parts)) :
    IsCutFrom format part.span.stop parts where
  contiguous := (areContiguous_cons_iff.1 h.contiguous).2.2
  text_eq other hother := h.text_eq other (List.mem_cons_of_mem _ hother)
  isLongestAt other hother := h.isLongestAt other (List.mem_cons_of_mem _ hother)
  no_token other hother := h.no_token other (List.mem_cons_of_mem _ hother)
  literals_apart := h.literals_apart.tail

/-- A part reaches as far as what it holds is long. -/
theorem stop_eq (h : IsCutFrom format start (part :: parts)) :
    part.span.stop = part.span.start + part.piece.text.length := by
  obtain ⟨-, hle, hrest⟩ := areContiguous_cons_iff.1 h.contiguous
  rw [h.text_eq part List.mem_cons_self, Span.of, Text.length_slice hrest.start_le_stop]
  omega

theorem of_token (h : IsCutFrom format start (part :: parts)) {token : Token}
    (hpiece : part.piece = .token token) : token.IsLongestAt format start := by
  rw [← h.start_eq]
  exact h.isLongestAt part List.mem_cons_self token hpiece

/-- In a filled literal part no token stands at the start. -/
theorem of_literal (h : IsCutFrom format start (part :: parts)) (hfilled : part.IsFilled)
    (hpiece : part.piece.isToken = false) (token : Token) :
    ¬ token.symbol <+: format.drop start := by
  rw [← h.start_eq]
  exact h.no_token part List.mem_cons_self hpiece _ (Nat.le_refl _) hfilled token

/-- Behind literal text the format ends, or a token starts. -/
theorem behind_literal (h : IsCutFrom format start (part :: parts))
    (hpiece : part.piece.isToken = false) (hstop : part.span.stop < format.length) :
    ∃ token : Token, token.symbol <+: format.drop part.span.stop := by
  cases parts with
  | nil => exact absurd (nil_iff.1 h.tail) (Nat.ne_of_lt hstop)
  | cons next parts =>
    have happart := (List.isChain_cons_cons.1 h.literals_apart).1
    rw [hpiece] at happart
    cases hnext : next.piece with
    | token token => exact ⟨token, (h.tail.of_token hnext).stands⟩
    | literal text => simp [hnext, FormatPiece.isToken] at happart

/-- Literal text does not end before literal text that starts at the same place. -/
theorem not_stop_lt (hleft : IsCutFrom format start (part :: left))
    (hright : IsCutFrom format start (other :: right)) (hpart : part.piece.isToken = false)
    (hother : other.piece.isToken = false) : ¬ part.span.stop < other.span.stop := by
  intro hlt
  obtain ⟨-, -, hrest⟩ := areContiguous_cons_iff.1 hright.contiguous
  obtain ⟨hstart, hle, -⟩ := areContiguous_cons_iff.1 hleft.contiguous
  obtain ⟨token, htoken⟩ := hleft.behind_literal hpart (Nat.lt_of_lt_of_le hlt hrest.start_le_stop)
  refine hright.no_token other List.mem_cons_self hother _ ?_ hlt token htoken
  rw [hright.start_eq, ← hstart]
  exact hle

/-- Two cuts start with the same part. -/
theorem part_eq (hleft : IsCutFrom format start (part :: left))
    (hright : IsCutFrom format start (other :: right)) (hpart : part.IsFilled)
    (hother : other.IsFilled) : part = other := by
  have hspan : part.span.stop = other.span.stop → part.span = other.span := by
    intro hstop
    have hstart := hleft.start_eq.trans hright.start_eq.symm
    cases hpartSpan : part.span
    cases hotherSpan : other.span
    rw [hpartSpan, hotherSpan] at hstart hstop
    exact congrArg₂ Span.mk hstart hstop
  have hpiece : part.piece = other.piece → part = other := by
    intro hpiece
    have hstop : part.span.stop = other.span.stop := by
      rw [hleft.stop_eq, hright.stop_eq, hleft.start_eq, hright.start_eq, hpiece]
    cases part
    cases other
    exact congrArg₂ FormatPart.mk hpiece (hspan hstop)
  cases hpartPiece : part.piece with
  | token token =>
    cases hotherPiece : other.piece with
    | token found =>
      apply hpiece
      rw [hpartPiece, hotherPiece, (hleft.of_token hpartPiece).eq (hright.of_token hotherPiece)]
    | literal text =>
      have hliteral : other.piece.isToken = false := by rw [hotherPiece]; rfl
      exact absurd (hleft.of_token hpartPiece).stands (hright.of_literal hother hliteral token)
  | literal kept =>
    have hliteral : part.piece.isToken = false := by rw [hpartPiece]; rfl
    cases hotherPiece : other.piece with
    | token found =>
      exact absurd (hright.of_token hotherPiece).stands (hleft.of_literal hpart hliteral found)
    | literal text =>
      have hotherLiteral : other.piece.isToken = false := by rw [hotherPiece]; rfl
      have hstop : part.span.stop = other.span.stop := Nat.le_antisymm
        (Nat.not_lt.1 (hright.not_stop_lt hleft hotherLiteral hliteral))
        (Nat.not_lt.1 (hleft.not_stop_lt hright hliteral hotherLiteral))
      have htext := hleft.text_eq part List.mem_cons_self
      rw [hspan hstop, ← hright.text_eq other List.mem_cons_self, hpartPiece, hotherPiece] at htext
      apply hpiece
      rw [hpartPiece, hotherPiece]
      exact congrArg FormatPiece.literal htext

theorem eq_nil (h : IsCutFrom format format.length parts)
    (hfilled : ∀ part ∈ parts, part.IsFilled) : parts = [] := by
  cases parts with
  | nil => rfl
  | cons part parts =>
    obtain ⟨hstart, -, hrest⟩ := areContiguous_cons_iff.1 h.contiguous
    have hlt : part.span.start < part.span.stop := hfilled part List.mem_cons_self
    have hle := hrest.start_le_stop
    omega

/-- Two cuts without empty parts are the same. -/
theorem eq (hleft : IsCutFrom format start left) (hright : IsCutFrom format start right)
    (hleftFilled : ∀ part ∈ left, part.IsFilled) (hrightFilled : ∀ part ∈ right, part.IsFilled) :
    left = right := by
  induction left generalizing start right with
  | nil =>
    obtain rfl := nil_iff.1 hleft
    exact (hright.eq_nil hrightFilled).symm
  | cons part left ih =>
    cases right with
    | nil =>
      obtain rfl := nil_iff.1 hright
      exact hleft.eq_nil hleftFilled
    | cons other right =>
      obtain rfl := hleft.part_eq hright (hleftFilled _ List.mem_cons_self)
        (hrightFilled _ List.mem_cons_self)
      rw [ih hleft.tail hright.tail (fun _ h => hleftFilled _ (List.mem_cons_of_mem _ h))
        fun _ h => hrightFilled _ (List.mem_cons_of_mem _ h)]

/-! ### Empty parts -/

/-- A token is never empty. -/
theorem isFilled_of_token (h : IsCutFrom format start (part :: parts))
    (hpiece : part.piece.isToken = true) : part.IsFilled := by
  cases htoken : part.piece with
  | token token =>
    have hpos := List.length_pos_iff.2 token.symbol_ne_nil
    rw [FormatPart.IsFilled, h.stop_eq, htoken]
    exact Nat.lt_add_of_pos_right hpos
  | literal text => simp [htoken, FormatPiece.isToken] at hpiece

/-- Without its empty parts a cut is still one: they stand between tokens, not between literal
texts. -/
theorem filter_isFilled (h : IsCutFrom format start parts) :
    IsCutFrom format start (parts.filter fun part => part.IsFilled) := by
  induction parts generalizing start with
  | nil => exact h
  | cons part parts ih =>
    obtain ⟨hstart, hle, -⟩ := areContiguous_cons_iff.1 h.contiguous
    have hrest := ih h.tail
    by_cases hfilled : part.IsFilled
    · rw [List.filter_cons, if_pos (decide_eq_true hfilled)]
      refine ⟨?_, ?_, ?_, ?_, ?_⟩
      · exact areContiguous_cons_iff.2 ⟨hstart, hle, hrest.contiguous⟩
      · exact List.forall_mem_cons.2 ⟨h.text_eq part List.mem_cons_self, hrest.text_eq⟩
      · exact List.forall_mem_cons.2 ⟨h.isLongestAt part List.mem_cons_self, hrest.isLongestAt⟩
      · exact List.forall_mem_cons.2 ⟨h.no_token part List.mem_cons_self, hrest.no_token⟩
      · refine List.isChain_cons.2 ⟨fun other hother => ?_, hrest.literals_apart⟩
        cases parts with
        | nil => simp at hother
        | cons next parts =>
          -- Beside literal text stands a token, which is kept.
          have happart := (List.isChain_cons_cons.1 h.literals_apart).1
          rcases happart with hpart | hnext
          · exact Or.inl hpart
          · rw [List.filter_cons, if_pos (decide_eq_true (h.tail.isFilled_of_token hnext)),
              List.head?_cons, Option.mem_some_iff] at hother
            exact Or.inr (hother ▸ hnext)
    · rw [List.filter_cons, if_neg (by simpa using hfilled)]
      have hempty : part.span.stop = start := by
        rw [FormatPart.IsFilled] at hfilled
        omega
      rwa [hempty] at hrest

end IsCutFrom

/-! ### The parts of a format -/

namespace FormatPiece

theorem isChain_consLiteral {c : Char} {pieces : List FormatPiece}
    (h : pieces.IsChain fun left right => left.isToken ∨ right.isToken) :
    (consLiteral c pieces).IsChain fun left right => left.isToken ∨ right.isToken := by
  unfold consLiteral
  split
  · next kept pieces =>
    rw [List.isChain_cons] at h ⊢
    exact h
  · next hnot =>
    refine List.isChain_cons.2 ⟨fun piece hpiece => ?_, h⟩
    cases piece with
    | token found => exact Or.inr rfl
    | literal kept =>
      obtain ⟨rest, rfl⟩ := List.head?_eq_some_iff.1 hpiece
      exact absurd rfl (hnot kept rest)

/-- Literal characters that are neighbours are one piece. -/
theorem isChain_scan (skip : Nat) (format : Text) :
    (scan skip format).IsChain fun left right => left.isToken ∨ right.isToken := by
  induction format generalizing skip with
  | nil =>
    rw [scan]
    exact .nil
  | cons c rest ih =>
    cases skip with
    | succ skip => exact ih skip
    | zero =>
      rw [scan]
      split
      · exact List.isChain_cons.2 ⟨fun _ _ => Or.inl rfl, ih _⟩
      · exact isChain_consLiteral (ih 0)

end FormatPiece

/-- What is claimed of a single part of a cut. -/
structure FormatPart.IsRightIn (format : Text) (part : FormatPart Nat) : Prop where
  isLongestAt : ∀ token : Token, part.piece = .token token →
    token.IsLongestAt format part.span.start
  no_token : part.piece.isToken = false →
    ∀ pos, part.span.start ≤ pos → pos < part.span.stop →
      ∀ token : Token, ¬ token.symbol <+: format.drop pos

theorem isRightIn_literal {text : Text} {span : Span Nat}
    (h : ∀ pos, span.start ≤ pos → pos < span.stop →
      ∀ token : Token, ¬ token.symbol <+: format.drop pos) :
    FormatPart.IsRightIn format ⟨.literal text, span⟩ :=
  ⟨fun token htoken => by simp at htoken, fun _ => h⟩

/-- A literal character may stand in front of parts that are right. -/
theorem isRightIn_consLiteral {c : Char} {pieces : List FormatPiece}
    (hc : ∀ token : Token, ¬ token.symbol <+: format.drop start)
    (h : ∀ part ∈ placePieces (start + 1) pieces, part.IsRightIn format) :
    ∀ part ∈ placePieces start (FormatPiece.consLiteral c pieces), part.IsRightIn format := by
  unfold FormatPiece.consLiteral
  split
  · next kept pieces =>
    have hstop : start + (FormatPiece.literal (c :: kept)).text.length =
        start + 1 + (FormatPiece.literal kept).text.length := by
      simp only [FormatPiece.text, List.length_cons]
      omega
    rw [placePieces, List.forall_mem_cons] at h
    rw [placePieces, List.forall_mem_cons, hstop]
    refine ⟨isRightIn_literal fun pos hstart hlt => ?_, h.2⟩
    rcases Nat.eq_or_lt_of_le hstart with rfl | hlater
    · exact hc
    · exact h.1.no_token rfl pos hlater hlt
  · rw [placePieces, List.forall_mem_cons]
    refine ⟨isRightIn_literal fun pos hstart hlt => ?_, h⟩
    obtain rfl : start = pos := Nat.le_antisymm hstart (Nat.le_of_lt_succ hlt)
    exact hc

/-- The scan is right at every place; `pos` is where the rest of the format starts. -/
theorem isRightIn_scan (pos skip : Nat) :
    ∀ part ∈ placePieces (pos + skip) (FormatPiece.scan skip (format.drop pos)),
      part.IsRightIn format := by
  induction hrest : format.drop pos generalizing pos skip with
  | nil => simp [FormatPiece.scan, placePieces]
  | cons c rest ih =>
    have hlater : format.drop (pos + 1) = rest := by
      rw [← List.drop_drop, hrest, List.drop_succ_cons, List.drop_zero]
    cases skip with
    | succ skip =>
      have hpos : pos + (skip + 1) = pos + 1 + skip := by omega
      rw [FormatPiece.scan, hpos]
      exact ih (pos + 1) skip hlater
    | zero =>
      rw [FormatPiece.scan, ← hrest]
      split
      · next found hfound =>
        have hpos := List.length_pos_iff.2 found.symbol_ne_nil
        have hstop : pos + 0 + (FormatPiece.token found).text.length =
            pos + 1 + (found.symbol.length - 1) := by
          rw [FormatPiece.text]
          omega
        rw [placePieces, List.forall_mem_cons, hstop]
        refine ⟨⟨fun token htoken => ?_, fun hliteral => Bool.noConfusion hliteral⟩,
          ih (pos + 1) _ hlater⟩
        obtain rfl := FormatPiece.token.inj htoken
        exact Token.isLongestAt_of_longest? hfound
      · next hnone =>
        exact isRightIn_consLiteral (Token.not_prefix_of_longest? hnone) (ih (pos + 1) 0 hlater)

theorem isFilled_of_mem_formatParts (format : Text) :
    ∀ part ∈ formatParts format, part.IsFilled := by
  intro part hpart
  have hadjoined := areAdjoined_placePieces 0 (text_ne_nil_of_mem_formatPieces format)
  exact (hadjoined.inside part.span (List.mem_map_of_mem hpart)).2.1

theorem isCutFrom_formatParts (format : Text) : IsCutFrom format 0 (formatParts format) := by
  have hadjoined := areAdjoined_placePieces 0 (text_ne_nil_of_mem_formatPieces format)
  have hright : ∀ part ∈ formatParts format, part.IsRightIn format := isRightIn_scan 0 0
  rw [flatMap_formatPieces, Nat.zero_add] at hadjoined
  refine ⟨hadjoined.areContiguous, fun part hpart => ?_, fun part hpart => ?_,
    fun part hpart => ?_, ?_⟩
  · refine (span_of_placePieces ?_ part hpart).symm
    rw [flatMap_formatPieces]
    exact List.prefix_rfl
  · exact (hright part hpart).isLongestAt
  · exact (hright part hpart).no_token
  · have hpieces : (formatParts format).map FormatPart.piece = formatPieces format :=
      map_piece_placePieces 0 _
    have hchain := FormatPiece.isChain_scan 0 format
    rw [← formatPieces, ← hpieces, List.isChain_map] at hchain
    exact hchain

/-- The parts of a format are the one cut of it that has no empty parts, and every other cut
has empty parts besides these. -/
theorem formatParts_eq_iff_isCutFrom (format : Text) (parts : List (FormatPart Nat)) :
    (parts = formatParts format ↔
      IsCutFrom format 0 parts ∧ ∀ part ∈ parts, part.IsFilled) ∧
    (IsCutFrom format 0 parts →
      (parts.filter fun part => part.IsFilled) = formatParts format) := by
  have hcut := isCutFrom_formatParts format
  have hfilled := isFilled_of_mem_formatParts format
  refine ⟨⟨?_, ?_⟩, fun h => ?_⟩
  · rintro rfl
    exact ⟨hcut, hfilled⟩
  · rintro ⟨h, hparts⟩
    exact h.eq hcut hparts hfilled
  · refine h.filter_isFilled.eq hcut (fun part hpart => ?_) hfilled
    exact of_decide_eq_true (List.mem_filter.1 hpart).2

end NoteTemplate
