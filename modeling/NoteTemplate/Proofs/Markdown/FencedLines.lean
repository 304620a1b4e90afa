import Mathlib.Data.List.Basic
import Mathlib.Data.List.TakeWhile
import NoteTemplate.Proofs.Markdown.Lookup
import NoteTemplate.Proofs.Text.Lines

/-!
# Fenced lines

The code blocks of a text are found in one pass over its lines that remembers the fence of the
block that is open.  Here the fenced lines are told without a pass: a line opens a block when it
starts with a fence and no earlier block reaches it, and a block reaches up to the next line
that closes it.  The pass gives these blocks and no others (`mem_codeBlocks_iff`), so bisection
finds a position in a block exactly when its line is fenced
(`insideCodeBlock_iff_isFencedLine`).
-/

namespace NoteTemplate

variable {line : Text} {lines rest : List Text} {fence : Fence}
  {opening number first last : Nat} {pos : Int}

/-! ### Fences at the start of a line -/

namespace Fence

/-- The line starts with the fence: with three or more of its marks, and behind them stands no
further one. -/
structure Starts (fence : Fence) (line : Text) : Prop where
  isMark : fence.mark = '\x60' ∨ fence.mark = '~'
  three_le : 3 ≤ fence.length
  run : ∃ rest, line = List.replicate fence.length fence.mark ++ rest ∧
    rest.head? ≠ some fence.mark

/-- The line closes a block with that fence: it starts with as many of the marks, or more. -/
def IsClosedBy (fence : Fence) (line : Text) : Prop :=
  List.replicate fence.length fence.mark <+: line

theorem isFenceMark_iff {c : Char} : isFenceMark c = true ↔ c = '\x60' ∨ c = '~' := by
  simp [isFenceMark]

theorem takeWhile_replicate_append {c : Char} {rest : Text} (hrest : rest.head? ≠ some c)
    (count : Nat) :
    (List.replicate count c ++ rest).takeWhile (· = c) = List.replicate count c := by
  have hstop : rest.takeWhile (· = c) = [] := by
    cases rest with
    | nil => rfl
    | cons d rest =>
      have hd : d ≠ c := by simpa using hrest
      simp [hd]
  rw [List.takeWhile_append_of_pos (by simp), hstop, List.append_nil]

/-- Every line starts with a longest run of a given character. -/
theorem exists_longest_run (c : Char) (line : Text) :
    ∃ rest, line = List.replicate (line.takeWhile (· = c)).length c ++ rest ∧
      rest.head? ≠ some c := by
  refine ⟨line.dropWhile (· = c), ?_, ?_⟩
  · have hrun : line.takeWhile (· = c) = List.replicate (line.takeWhile (· = c)).length c := by
      apply List.eq_replicate_of_mem
      intro d hd
      simpa using List.mem_takeWhile_imp hd
    rw [← hrun, List.takeWhile_append_dropWhile]
  · intro hhead
    have hnot := List.head?_dropWhile_not (fun d => decide (d = c)) line
    rw [hhead] at hnot
    simp at hnot

theorem ofLine?_eq_some_iff : ofLine? line = some fence ↔ fence.Starts line := by
  constructor
  · intro h
    cases line with
    | nil => cases h
    | cons c line =>
      rw [ofLine?] at h
      split at h
      · next hfence =>
        obtain rfl := Option.some.inj h
        exact ⟨isFenceMark_iff.1 hfence.1, hfence.2, exists_longest_run c (c :: line)⟩
      · cases h
  · rintro ⟨hmark, hlength, rest, rfl, hrest⟩
    obtain ⟨mark, length⟩ := fence
    obtain ⟨count, rfl⟩ := Nat.exists_eq_add_of_lt (Nat.lt_of_lt_of_le (by decide : 0 < 3) hlength)
    have hrun := takeWhile_replicate_append hrest (0 + count + 1)
    rw [List.replicate_succ, List.cons_append] at hrun ⊢
    rw [ofLine?, hrun, List.length_cons, List.length_replicate,
      if_pos ⟨isFenceMark_iff.2 hmark, hlength⟩]

/-- The fence of a line is closed by the lines that start with a fence as long. -/
theorem Starts.isClosedBy_iff {opened : Text} (h : fence.Starts opened) :
    fence.IsClosedBy line ↔ ∃ later, ofLine? line = some later ∧ later.closes fence = true := by
  simp only [closes, Bool.and_eq_true, decide_eq_true_eq]
  constructor
  · rintro ⟨rest, rfl⟩
    obtain ⟨more, hmore, hstop⟩ := exists_longest_run fence.mark rest
    refine ⟨⟨fence.mark, fence.length + (rest.takeWhile (· = fence.mark)).length⟩,
      ofLine?_eq_some_iff.2 ⟨h.isMark, ?_, more, ?_, hstop⟩, rfl, Nat.le_add_right _ _⟩
    · exact Nat.le_trans h.three_le (Nat.le_add_right _ _)
    · rw [List.replicate_add, List.append_assoc, ← hmore]
  · rintro ⟨later, hlater, hmark, hlength⟩
    obtain ⟨rest, rfl, -⟩ := (ofLine?_eq_some_iff.1 hlater).run
    obtain ⟨more, hmore⟩ := Nat.exists_eq_add_of_le hlength
    rw [IsClosedBy, hmark, hmore, List.replicate_add, List.append_assoc]
    exact List.prefix_append _ _

end Fence

/-! ### Blocks of lines -/

/-- The line at `closing` closes a block that is opened at the line `opening`. -/
def ClosesBlock (lines : List Text) (opening closing : Nat) : Prop :=
  ∃ (fence : Fence) (opened line : Text), lines[opening]? = some opened ∧ fence.Starts opened ∧
    lines[closing]? = some line ∧ fence.IsClosedBy line

/-- A block that is opened at the line `opening` reaches the other line: none in between closes
it. -/
def ReachesLine (lines : List Text) (opening number : Nat) : Prop :=
  ∀ closing, opening < closing → closing < number → ¬ClosesBlock lines opening closing

/-- The line opens a block: it starts with a fence, and no block that is opened in front of it
reaches it. -/
def OpensBlock (lines : List Text) (number : Nat) : Prop :=
  (∃ (fence : Fence) (line : Text), lines[number]? = some line ∧ fence.Starts line) ∧
    ∀ opening, opening < number → OpensBlock lines opening → ¬ReachesLine lines opening number
termination_by number

/-- The line is fenced: it opens a block, or a block that was opened in front of it reaches it.
The last line that a block reaches is the one that closes it. -/
def IsFencedLine (lines : List Text) (number : Nat) : Prop :=
  ∃ opening, opening ≤ number ∧ OpensBlock lines opening ∧ ReachesLine lines opening number

/-- The lines of a whole block: from the one that opens it to the one that closes it, or to the
last line when none does. -/
structure IsBlockOfLines (lines : List Text) (first last : Nat) : Prop where
  opens : OpensBlock lines first
  first_le_last : first ≤ last
  last_lt : last < lines.length
  reaches : ReachesLine lines first last
  ends : first < last ∧ ClosesBlock lines first last ∨ last + 1 = lines.length

theorem ReachesLine.mono (h : ReachesLine lines opening last) (hle : number ≤ last) :
    ReachesLine lines opening number :=
  fun closing hopening hclosing => h closing hopening (Nat.lt_of_lt_of_le hclosing hle)

theorem reachesLine_succ (lines : List Text) (number : Nat) :
    ReachesLine lines number (number + 1) := by
  intro closing hopening hclosing
  omega

theorem ReachesLine.succ (h : ReachesLine lines opening number)
    (hnot : opening < number → ¬ClosesBlock lines opening number) :
    ReachesLine lines opening (number + 1) := by
  intro closing hopening hclosing
  rcases Nat.lt_succ_iff_lt_or_eq.1 hclosing with hclosing | rfl
  · exact h closing hopening hclosing
  · exact hnot hopening

/-- A line with a fence closes the block or not, by that fence alone. -/
theorem closesBlock_iff {opened : Text} (hopened : lines[opening]? = some opened)
    (hstarts : fence.Starts opened) (hline : lines[number]? = some line) :
    ClosesBlock lines opening number ↔ fence.IsClosedBy line := by
  constructor
  · rintro ⟨other, opened', line', hopened', hother, hline', hclosed⟩
    obtain rfl := Option.some.inj (hopened.symm.trans hopened')
    obtain rfl := Option.some.inj (hline.symm.trans hline')
    rw [← Fence.ofLine?_eq_some_iff] at hstarts hother
    obtain rfl := Option.some.inj (hstarts.symm.trans hother)
    exact hclosed
  · exact fun hclosed => ⟨fence, opened, line, hopened, hstarts, hline, hclosed⟩

namespace OpensBlock

theorem exists_starts (h : OpensBlock lines number) :
    ∃ (fence : Fence) (line : Text), lines[number]? = some line ∧ fence.Starts line := by
  rw [OpensBlock] at h
  exact h.1

theorem lt_length (h : OpensBlock lines number) : number < lines.length := by
  obtain ⟨_, _, hline, -⟩ := h.exists_starts
  exact (List.getElem?_eq_some_iff.1 hline).1

/-- Inside a block no other one is opened. -/
theorem not_reachesLine (h : OpensBlock lines number) (hlt : opening < number)
    (hopens : OpensBlock lines opening) : ¬ReachesLine lines opening number := by
  rw [OpensBlock] at h
  exact h.2 opening hlt hopens

end OpensBlock

theorem not_opensBlock_of_plain (hline : lines[number]? = some line)
    (hplain : Fence.ofLine? line = none) : ¬OpensBlock lines number := by
  intro hopens
  obtain ⟨fence, opened, hopened, hstarts⟩ := hopens.exists_starts
  obtain rfl := Option.some.inj (hline.symm.trans hopened)
  rw [Fence.ofLine?_eq_some_iff.2 hstarts] at hplain
  cases hplain

namespace IsBlockOfLines

theorem not_opensBlock (h : IsBlockOfLines lines first last) (hlt : first < number)
    (hle : number ≤ last) : ¬OpensBlock lines number :=
  fun hopens => hopens.not_reachesLine hlt h.opens (h.reaches.mono hle)

theorem last_le (h : IsBlockOfLines lines first last)
    (hother : IsBlockOfLines lines first number) : number ≤ last := by
  have hnumber := hother.last_lt
  rcases h.ends with ⟨hlt, hcloses⟩ | hend
  · apply Nat.le_of_not_lt
    exact fun hlate => hother.reaches last hlt hlate hcloses
  · omega

/-- A block is known by the line that opens it. -/
theorem last_eq (h : IsBlockOfLines lines first last)
    (hother : IsBlockOfLines lines first number) : last = number :=
  Nat.le_antisymm (hother.last_le h) (h.last_le hother)

end IsBlockOfLines

/-- A block that reaches a line goes on to the line that closes it, or to the last one. -/
theorem ReachesLine.exists_isBlockOfLines (h : ReachesLine lines first number)
    (hopens : OpensBlock lines first) (hle : first ≤ number) (hnumber : number < lines.length) :
    ∃ last, number ≤ last ∧ IsBlockOfLines lines first last := by
  induction hleft : lines.length - number generalizing number with
  | zero => omega
  | succ left ih =>
    by_cases hcloses : first < number ∧ ClosesBlock lines first number
    · exact ⟨number, Nat.le_refl _, hopens, hle, hnumber, h, Or.inl hcloses⟩
    · by_cases hend : number + 1 = lines.length
      · exact ⟨number, Nat.le_refl _, hopens, hle, hnumber, h, Or.inr hend⟩
      · have hnext : ReachesLine lines first (number + 1) :=
          h.succ fun hlt hclosing => hcloses ⟨hlt, hclosing⟩
        obtain ⟨last, hlast, hblock⟩ := ih hnext (by omega) (by omega) (by omega)
        exact ⟨last, by omega, hblock⟩

/-- The fenced lines are those of the blocks. -/
theorem isFencedLine_iff (hnumber : number < lines.length) :
    IsFencedLine lines number ↔
      ∃ first last, IsBlockOfLines lines first last ∧ first ≤ number ∧ number ≤ last := by
  constructor
  · rintro ⟨first, hfirst, hopens, hreaches⟩
    obtain ⟨last, hlast, hblock⟩ := hreaches.exists_isBlockOfLines hopens hfirst hnumber
    exact ⟨first, last, hblock, hfirst, hlast⟩
  · rintro ⟨first, last, hblock, hfirst, hlast⟩
    exact ⟨first, hfirst, hblock.opens, hblock.reaches.mono hlast⟩

/-! ### The pass over the lines -/

/-- The stretch of text that the lines take up. -/
def stretchOfLines (lines : List Text) (first last : Nat) : CodeBlock :=
  ⟨lineStart lines first, lineStart lines (last + 1) - 1⟩

/-- These are the blocks that are opened at the line or behind it. -/
def AreBlocksFrom (lines : List Text) (number : Nat) (blocks : List CodeBlock) : Prop :=
  ∀ block, block ∈ blocks ↔ ∃ first last, number ≤ first ∧ IsBlockOfLines lines first last ∧
    block = stretchOfLines lines first last

/-- In front of the line every block is closed. -/
def IsBetweenBlocks (lines : List Text) (number : Nat) : Prop :=
  ∀ opening, opening < number → OpensBlock lines opening → ¬ReachesLine lines opening number

/-- The block that the fence opened is still open in front of the line. -/
structure IsOpenAt (lines : List Text) (opening : Nat) (fence : Fence) (number : Nat) : Prop where
  opens : OpensBlock lines opening
  starts : ∃ opened, lines[opening]? = some opened ∧ fence.Starts opened
  lt : opening < number
  reaches : ReachesLine lines opening number

namespace AreBlocksFrom

variable {blocks : List CodeBlock}

theorem nil (h : lines.length ≤ number) : AreBlocksFrom lines number [] := by
  intro block
  simp only [List.not_mem_nil, false_iff]
  rintro ⟨first, last, hfirst, hblock, -⟩
  have hlt := hblock.opens.lt_length
  omega

theorem skip (h : AreBlocksFrom lines (number + 1) blocks) (hnot : ¬OpensBlock lines number) :
    AreBlocksFrom lines number blocks := by
  intro block
  rw [h block]
  constructor
  · rintro ⟨first, last, hfirst, hblock⟩
    exact ⟨first, last, by omega, hblock⟩
  · rintro ⟨first, last, hfirst, hblock, heq⟩
    have hne : number ≠ first := fun hsame => hnot (hsame ▸ hblock.opens)
    exact ⟨first, last, by omega, hblock, heq⟩

theorem cons (h : AreBlocksFrom lines (last + 1) blocks)
    (hblock : IsBlockOfLines lines first last) :
    AreBlocksFrom lines first (stretchOfLines lines first last :: blocks) := by
  intro block
  rw [List.mem_cons, h block]
  constructor
  · rintro (rfl | ⟨other, stop, hother, hends⟩)
    · exact ⟨first, last, Nat.le_refl _, hblock, rfl⟩
    · have hle := hblock.first_le_last
      exact ⟨other, stop, by omega, hends⟩
  · rintro ⟨other, stop, hother, hends, rfl⟩
    rcases Nat.eq_or_lt_of_le hother with rfl | hlt
    · rw [hblock.last_eq hends]
      exact Or.inl rfl
    · refine Or.inr ⟨other, stop, ?_, hends, rfl⟩
      apply Nat.lt_of_not_le
      exact fun hle => hblock.not_opensBlock hlt hle hends.opens

end AreBlocksFrom

theorem isBetweenBlocks_zero (lines : List Text) : IsBetweenBlocks lines 0 :=
  fun _ hlt => absurd hlt (Nat.not_lt_zero _)

namespace IsBetweenBlocks

theorem opensBlock (h : IsBetweenBlocks lines number) (hline : lines[number]? = some line)
    (hstarts : fence.Starts line) : OpensBlock lines number := by
  rw [OpensBlock]
  exact ⟨⟨fence, line, hline, hstarts⟩, h⟩

theorem isOpenAt (h : IsBetweenBlocks lines number) (hline : lines[number]? = some line)
    (hstarts : fence.Starts line) : IsOpenAt lines number fence (number + 1) where
  opens := h.opensBlock hline hstarts
  starts := ⟨line, hline, hstarts⟩
  lt := Nat.lt_succ_self number
  reaches := reachesLine_succ lines number

theorem succ (h : IsBetweenBlocks lines number) (hnot : ¬OpensBlock lines number) :
    IsBetweenBlocks lines (number + 1) := by
  intro opening hlt hopens hreaches
  rcases Nat.lt_succ_iff_lt_or_eq.1 hlt with hlt | rfl
  · exact h opening hlt hopens (hreaches.mono (Nat.le_succ number))
  · exact hnot hopens

end IsBetweenBlocks

namespace IsOpenAt

/-- The open block is closed by a fence that closes the one it was opened with. -/
theorem closesBlock_iff (h : IsOpenAt lines opening fence number)
    (hline : lines[number]? = some line) :
    ClosesBlock lines opening number ↔
      ∃ later, Fence.ofLine? line = some later ∧ later.closes fence = true := by
  obtain ⟨opened, hopened, hstarts⟩ := h.starts
  rw [NoteTemplate.closesBlock_iff hopened hstarts hline, hstarts.isClosedBy_iff]

theorem succ (h : IsOpenAt lines opening fence number)
    (hnot : ¬ClosesBlock lines opening number) : IsOpenAt lines opening fence (number + 1) where
  opens := h.opens
  starts := h.starts
  lt := Nat.lt_succ_of_lt h.lt
  reaches := h.reaches.succ fun _ => hnot

theorem isBlockOfLines (h : IsOpenAt lines opening fence number) (hline : number < lines.length)
    (hcloses : ClosesBlock lines opening number) : IsBlockOfLines lines opening number :=
  ⟨h.opens, Nat.le_of_lt h.lt, hline, h.reaches, Or.inl ⟨h.lt, hcloses⟩⟩

/-- A block that is still open behind the last line ends there. -/
theorem isBlockOfLines_end (h : IsOpenAt lines opening fence number)
    (hend : lines.length ≤ number) : IsBlockOfLines lines opening (lines.length - 1) := by
  have hlt := h.opens.lt_length
  exact ⟨h.opens, by omega, by omega, h.reaches.mono (by omega), Or.inr (by omega)⟩

/-- Behind the line that closes the block all blocks are closed. -/
theorem isBetweenBlocks (h : IsOpenAt lines opening fence number)
    (hline : number < lines.length) (hcloses : ClosesBlock lines opening number) :
    IsBetweenBlocks lines (number + 1) := by
  intro other hlt hopens hreaches
  rcases Nat.lt_trichotomy other opening with hbefore | rfl | hbehind
  · have hle := h.lt
    exact h.opens.not_reachesLine hbefore hopens (hreaches.mono (by omega))
  · exact hreaches number h.lt (Nat.lt_succ_self number) hcloses
  · exact (h.isBlockOfLines hline hcloses).not_opensBlock hbehind (Nat.le_of_lt_succ hlt) hopens

end IsOpenAt

/-- What the pass finds from a line on are the blocks that are opened there or behind, and the
one that is open. -/
theorem areBlocksFrom_codeBlocksFrom (hrest : lines.drop number = rest) :
    (IsBetweenBlocks lines number →
      AreBlocksFrom lines number (codeBlocksFrom (lineStart lines number) none rest)) ∧
    ∀ opening fence, IsOpenAt lines opening fence number →
      AreBlocksFrom lines opening
        (codeBlocksFrom (lineStart lines number) (some (lineStart lines opening, fence)) rest) := by
  induction rest generalizing number with
  | nil =>
    have hend := List.drop_eq_nil_iff.1 hrest
    refine ⟨fun _ => AreBlocksFrom.nil hend, fun opening fence hopen => ?_⟩
    have hblock := hopen.isBlockOfLines_end hend
    have hlength := Nat.sub_add_cancel (Nat.one_le_of_lt hopen.opens.lt_length)
    have hnone : AreBlocksFrom lines (lines.length - 1 + 1) [] := .nil (Nat.le_of_eq hlength.symm)
    have hcons := hnone.cons hblock
    rwa [stretchOfLines, hlength, ← lineStart_of_length_le hend] at hcons
  | cons line rest ih =>
    have hline : lines[number]? = some line := by
      rw [← List.head?_drop, hrest, List.head?_cons]
    have hnumber := (List.getElem?_eq_some_iff.1 hline).1
    have hnext : lines.drop (number + 1) = rest := by
      rw [← List.tail_drop, hrest, List.tail_cons]
    have hstart := lineStart_succ hline
    obtain ⟨hclosed, hopened⟩ := ih hnext
    rw [hstart] at hclosed hopened
    constructor
    · intro hbetween
      cases hfence : Fence.ofLine? line with
      | none =>
        have hnot := not_opensBlock_of_plain hline hfence
        simp only [codeBlocksFrom, hfence]
        exact (hclosed (hbetween.succ hnot)).skip hnot
      | some fence =>
        simp only [codeBlocksFrom, hfence]
        exact hopened number fence
          (hbetween.isOpenAt hline (Fence.ofLine?_eq_some_iff.1 hfence))
    · intro opening fence hopen
      have hcloses := hopen.closesBlock_iff hline
      cases hfence : Fence.ofLine? line with
      | none =>
        simp only [codeBlocksFrom, hfence]
        apply hopened opening fence (hopen.succ _)
        rw [hcloses, hfence]
        simp
      | some later =>
        simp only [hfence, Option.some.injEq, exists_eq_left'] at hcloses
        simp only [codeBlocksFrom, hfence]
        split
        · next hlater =>
          have hblock := hopen.isBlockOfLines hnumber (hcloses.2 hlater)
          have hcons := (hclosed (hopen.isBetweenBlocks hnumber (hcloses.2 hlater))).cons hblock
          rwa [stretchOfLines, hstart, Nat.add_sub_cancel] at hcons
        · next hlater => exact hopened opening fence (hopen.succ (mt hcloses.1 hlater))

/-- The code blocks of a text are the stretches of its blocks of lines. -/
theorem mem_codeBlocks_iff (text : Text) (block : CodeBlock) :
    block ∈ codeBlocks text ↔ ∃ first last, IsBlockOfLines text.lines first last ∧
      block = stretchOfLines text.lines first last := by
  have hdrop : text.lines.drop 0 = text.lines := List.drop_zero
  have hblocks := (areBlocksFrom_codeBlocksFrom hdrop).1 (isBetweenBlocks_zero _) block
  rw [lineStart_zero] at hblocks
  rw [codeBlocks, ← Text.lines, hblocks]
  simp only [Nat.zero_le, true_and]

/-! ### Positions in fenced lines -/

/-- A block holds the places of its lines. -/
theorem IsBlockOfLines.holds_iff (h : IsBlockOfLines lines first last) :
    (stretchOfLines lines first last).Holds pos ↔
      ∃ number, first ≤ number ∧ number ≤ last ∧ OwnsPlace lines number pos := by
  have hnext := lineStart_succ (List.getElem?_eq_getElem h.last_lt)
  rw [exists_ownsPlace_iff h.last_lt, CodeBlock.Holds, stretchOfLines]
  dsimp only
  omega

/-- A place of a line is in a code block exactly when the line is fenced. -/
theorem OwnsPlace.insideCodeBlock_iff {text : Text} (h : OwnsPlace text.lines number pos) :
    insideCodeBlock (codeBlocks text) pos = true ↔ IsFencedLine text.lines number := by
  rw [NoteTemplate.insideCodeBlock_iff, isFencedLine_iff (ownsPlace_iff.1 h).1]
  constructor
  · rintro ⟨block, hblock, hholds⟩
    obtain ⟨first, last, hlines, rfl⟩ := (mem_codeBlocks_iff text block).1 hblock
    obtain ⟨other, hfirst, hlast, hother⟩ := hlines.holds_iff.1 hholds
    obtain rfl := h.eq hother
    exact ⟨first, last, hlines, hfirst, hlast⟩
  · rintro ⟨first, last, hlines, hfirst, hlast⟩
    exact ⟨_, (mem_codeBlocks_iff text _).2 ⟨first, last, hlines, rfl⟩,
      hlines.holds_iff.2 ⟨number, hfirst, hlast, h⟩⟩

/-- A position is found in a code block by bisection exactly when the line that owns it is fenced,
and every position of the text is owned by one line.  The blocks are in order, none shares a
place with another one, and each starts where a line starts. -/
theorem insideCodeBlock_iff_isFencedLine (text : Text) (pos : Int) :
    (insideCodeBlock (codeBlocks text) pos = true ↔
      ∃ number, OwnsPlace text.lines number pos ∧ IsFencedLine text.lines number) ∧
    ((∃! number, OwnsPlace text.lines number pos) ↔ 0 ≤ pos ∧ pos ≤ text.length) ∧
    ((codeBlocks text).Pairwise fun left right => left.stop < right.start) ∧
    ∀ block ∈ codeBlocks text, block.start ≤ block.stop ∧ block.stop ≤ text.length ∧
      ∃ number < text.lines.length, block.start = lineStart text.lines number := by
  have hblocks := areBlocks_codeBlocks text
  refine ⟨?_, existsUnique_ownsPlace_iff text pos, hblocks.ordered, fun block hblock => ?_⟩
  · rw [insideCodeBlock_iff]
    constructor
    · rintro ⟨block, hblock, hholds⟩
      obtain ⟨first, last, hlines, rfl⟩ := (mem_codeBlocks_iff text block).1 hblock
      obtain ⟨number, hfirst, hlast, howns⟩ := hlines.holds_iff.1 hholds
      have hnumber := (ownsPlace_iff.1 howns).1
      exact ⟨number, howns, (isFencedLine_iff hnumber).2 ⟨first, last, hlines, hfirst, hlast⟩⟩
    · rintro ⟨number, howns, hfenced⟩
      have hnumber := (ownsPlace_iff.1 howns).1
      obtain ⟨first, last, hlines, hfirst, hlast⟩ := (isFencedLine_iff hnumber).1 hfenced
      exact ⟨_, (mem_codeBlocks_iff text _).2 ⟨first, last, hlines, rfl⟩,
        hlines.holds_iff.2 ⟨number, hfirst, hlast, howns⟩⟩
  · obtain ⟨first, last, hlines, rfl⟩ := (mem_codeBlocks_iff text block).1 hblock
    refine ⟨hblocks.start_le_stop _ hblock, ?_, first, hlines.opens.lt_length, rfl⟩
    have hend := lineStart_length_lines text
    have hlast : lineStart text.lines (last + 1) ≤ _ := lineStart_le text.lines hlines.last_lt
    rw [stretchOfLines]
    dsimp only
    omega

end NoteTemplate
