import NoteTemplate.Markdown.Fence
import NoteTemplate.Prompt.Tag

/-!
# Looking up code blocks

The code blocks of a text stand one behind the other, so bisection over their starts finds
the only block that can hold a position.  A position is inside a code block exactly when
some block holds it (`insideCodeBlock_iff`).
-/

namespace NoteTemplate

variable {text : Text} {blocks : List CodeBlock} {pos : Int}

/-- The position is in the block, the end of its last line included. -/
def CodeBlock.Holds (block : CodeBlock) (pos : Int) : Prop :=
  block.start ≤ pos ∧ pos ≤ block.stop

/-- Blocks that stand one behind the other from a position on. -/
structure AreBlocks (pos : Nat) (blocks : List CodeBlock) : Prop where
  le_start : ∀ block ∈ blocks, pos ≤ block.start
  start_le_stop : ∀ block ∈ blocks, block.start ≤ block.stop
  ordered : blocks.Pairwise fun left right => left.stop < right.start

/-! ### The blocks of a text -/

theorem areBlocks_nil (pos : Nat) : AreBlocks pos [] :=
  ⟨by simp, by simp, List.Pairwise.nil⟩

theorem AreBlocks.mono {start : Nat} {later : Nat} (h : AreBlocks later blocks)
    (hle : start ≤ later) : AreBlocks start blocks :=
  ⟨fun block hblock => Nat.le_trans hle (h.le_start block hblock), h.start_le_stop, h.ordered⟩

theorem AreBlocks.cons (block : CodeBlock) (hlength : block.start ≤ block.stop)
    (h : AreBlocks (block.stop + 1) blocks) : AreBlocks block.start (block :: blocks) where
  le_start other hother := by
    rcases List.mem_cons.1 hother with rfl | hother
    · exact Nat.le_refl _
    · have hstart := h.le_start other hother
      omega
  start_le_stop other hother := by
    rcases List.mem_cons.1 hother with rfl | hother
    · exact hlength
    · exact h.start_le_stop other hother
  ordered := List.pairwise_cons.2 ⟨fun other hother => h.le_start other hother, h.ordered⟩

/-- What is found in the lines behind a position starts there, or where a block is open. -/
theorem areBlocks_codeBlocksFrom (lines : List Text) (pos : Nat) :
    AreBlocks pos (codeBlocksFrom pos none lines) ∧
      ∀ start opening, start < pos →
        AreBlocks start (codeBlocksFrom pos (some (start, opening)) lines) := by
  induction lines generalizing pos with
  | nil =>
    refine ⟨areBlocks_nil pos, fun start opening hstart => ?_⟩
    rw [codeBlocksFrom]
    exact AreBlocks.cons ⟨start, pos - 1⟩ (by dsimp only; omega) (areBlocks_nil _)
  | cons line lines ih =>
    obtain ⟨hclosed, hopened⟩ := ih (pos + line.length + 1)
    constructor
    · cases hfence : Fence.ofLine? line with
      | none =>
        simp only [codeBlocksFrom, hfence]
        exact hclosed.mono (by omega)
      | some fence =>
        simp only [codeBlocksFrom, hfence]
        exact hopened pos fence (by omega)
    · intro start opening hstart
      cases hfence : Fence.ofLine? line with
      | none =>
        simp only [codeBlocksFrom, hfence]
        exact hopened start opening (by omega)
      | some fence =>
        simp only [codeBlocksFrom, hfence]
        split
        · exact AreBlocks.cons ⟨start, pos + line.length⟩ (by dsimp only; omega) hclosed
        · exact hopened start opening (by omega)

theorem areBlocks_codeBlocks (text : Text) : AreBlocks 0 (codeBlocks text) :=
  (areBlocks_codeBlocksFrom _ 0).1

/-! ### Bisection -/

/-- The starts grow along the row of blocks. -/
theorem AreBlocks.start_lt {start i j : Nat} (h : AreBlocks start blocks) (hij : i < j)
    (hj : j < blocks.length) : blocks[i].start < blocks[j].start := by
  have hi := Nat.lt_trans hij hj
  have hlength := h.start_le_stop blocks[i] (List.getElem_mem hi)
  have hordered := List.pairwise_iff_getElem.1 h.ordered i j hi hj hij
  omega

/-- As many blocks start up to the position, and these are the first ones. -/
structure CountsStarts (blocks : List CodeBlock) (pos : Int) (count : Nat) : Prop where
  le_length : count ≤ blocks.length
  lt_iff : ∀ i (hi : i < blocks.length), i < count ↔ (blocks[i].start : Int) ≤ pos

/-- What a search knows: the count is in its range. -/
structure IsSearch (blocks : List CodeBlock) (pos : Int) (low high : Nat) : Prop where
  low_le_high : low ≤ high
  high_le_length : high ≤ blocks.length
  below : ∀ i (hi : i < blocks.length), i < low → (blocks[i].start : Int) ≤ pos
  above : ∀ i (hi : i < blocks.length), high ≤ i → pos < blocks[i].start

namespace IsSearch

variable {start low middle high : Nat}

theorem countsStarts (h : IsSearch blocks pos low high) (hdone : high ≤ low) :
    CountsStarts blocks pos low := by
  refine ⟨Nat.le_trans h.low_le_high h.high_le_length, fun i hi => ⟨h.below i hi, fun hstart => ?_⟩⟩
  apply Decidable.byContradiction
  intro hlow
  exact absurd (h.above i hi (by omega)) (Int.not_lt.2 hstart)

theorem left (h : IsSearch blocks pos low high) (hblocks : AreBlocks start blocks)
    (hlow : low ≤ middle) (hmiddle : middle < blocks.length) (hpos : pos < blocks[middle].start) :
    IsSearch blocks pos low middle where
  low_le_high := hlow
  high_le_length := Nat.le_of_lt hmiddle
  below := h.below
  above i hi hle := by
    rcases Nat.eq_or_lt_of_le hle with rfl | hlt
    · exact hpos
    · have hgrow := hblocks.start_lt hlt hi
      omega

theorem right (h : IsSearch blocks pos low high) (hblocks : AreBlocks start blocks)
    (hhigh : middle < high) (hmiddle : middle < blocks.length)
    (hpos : (blocks[middle].start : Int) ≤ pos) :
    IsSearch blocks pos (middle + 1) high where
  low_le_high := hhigh
  high_le_length := h.high_le_length
  below i hi hlt := by
    rcases Nat.eq_or_lt_of_le (Nat.le_of_lt_succ hlt) with rfl | hlt
    · exact hpos
    · have hgrow := hblocks.start_lt hlt hmiddle
      omega
  above := h.above

end IsSearch

theorem countsStarts_bisectStarts {start fuel low high : Nat} (hblocks : AreBlocks start blocks)
    (hfuel : high - low ≤ fuel) (h : IsSearch blocks pos low high) :
    CountsStarts blocks pos (bisectStarts blocks.toArray pos fuel low high) := by
  induction fuel generalizing low high with
  | zero => exact h.countsStarts (by omega)
  | succ fuel ih =>
    have hhigh := h.high_le_length
    rw [bisectStarts]
    split
    · next hlt =>
      have hmiddle : (low + high) / 2 < blocks.length := by omega
      simp only [List.getElem?_toArray, List.getElem?_eq_getElem hmiddle]
      split
      · next hpos => exact ih (by omega) (h.left hblocks (by omega) hmiddle hpos)
      · next hpos =>
        exact ih (by omega) (h.right hblocks (by omega) hmiddle (Int.not_lt.1 hpos))
    · next hdone => exact h.countsStarts (Nat.not_lt.1 hdone)

/-! ### Positions in blocks -/

theorem AreBlocks.insideCodeBlock_iff {start : Nat} (h : AreBlocks start blocks) :
    insideCodeBlock blocks pos = true ↔ ∃ block ∈ blocks, block.Holds pos := by
  have hcount : CountsStarts blocks pos
      (bisectStarts blocks.toArray pos (blocks.toArray.size + 1) 0 blocks.toArray.size) := by
    apply countsStarts_bisectStarts h (by omega)
    exact ⟨Nat.zero_le _, by simp, by simp, fun i hi hle => by simp at hle; omega⟩
  rw [insideCodeBlock]
  split
  · next hzero =>
    rw [hzero] at hcount
    simp only [Bool.false_eq_true, false_iff, not_exists, not_and]
    intro block hblock hholds
    obtain ⟨i, hi, rfl⟩ := List.getElem_of_mem hblock
    exact Nat.not_lt_zero i ((hcount.lt_iff i hi).2 hholds.1)
  · next count hsucc =>
    rw [hsucc] at hcount
    have hlast : count < blocks.length := hcount.le_length
    simp only [List.getElem?_toArray, List.getElem?_eq_getElem hlast, Bool.and_eq_true,
      decide_eq_true_eq]
    constructor
    · intro hholds
      exact ⟨blocks[count], List.getElem_mem hlast, hholds⟩
    · rintro ⟨block, hblock, hholds⟩
      obtain ⟨i, hi, rfl⟩ := List.getElem_of_mem hblock
      rcases Nat.eq_or_lt_of_le (Nat.le_of_lt_succ ((hcount.lt_iff i hi).2 hholds.1)) with
        rfl | hlt
      · exact hholds
      · -- An earlier block ends before the last one that starts up to the position.
        have hstart := (hcount.lt_iff count hlast).1 (Nat.lt_succ_self count)
        have hordered := List.pairwise_iff_getElem.1 h.ordered i count hi hlast hlt
        have hstop := hholds.2
        omega

/-- A position is inside a code block when one of the blocks holds it. -/
theorem insideCodeBlock_iff (text : Text) (pos : Int) :
    insideCodeBlock (codeBlocks text) pos = true ↔ ∃ block ∈ codeBlocks text, block.Holds pos :=
  (areBlocks_codeBlocks text).insideCodeBlock_iff

theorem pairwise_promptTagsOutsideCode (text : Text) :
    (promptTagsOutsideCode text).Pairwise fun left right => left.span.stop ≤ right.span.start :=
  (pairwise_promptTags text).filter _

theorem mem_promptTagsOutsideCode_iff {found : TagOccurrence} :
    found ∈ promptTagsOutsideCode text ↔ found ∈ promptTags text ∧
      ∀ block ∈ codeBlocks text, ¬block.Holds found.span.start := by
  rw [promptTagsOutsideCode, List.mem_filter, Bool.not_eq_true', ← Bool.not_eq_true,
    insideCodeBlock_iff]
  simp

end NoteTemplate
