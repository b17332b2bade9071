import DesignCompiler.Proofs.UserBlocks.Ranges

/-! The format of texts with user blocks, from both sides. What is written with the marker lines is
scanned to the same blocks, and the scan of any text is described by its lines alone. -/
namespace DesignCompiler.UserBlocks

/-- What the lines of a text say about its scan. -/
structure Describes (ls : List String) (s : Scan) : Prop where
  /-- The ranges of the blocks increase and do not meet. -/
  ranges : s.blocks.Pairwise fun a b => a.stop < b.start
  framed : ∀ b ∈ s.blocks, Framed ls b
  /-- A start marker is inside of a block or not before the open one. -/
  outside : ∀ i, OpensAt ls i →
    (∃ b ∈ s.blocks, b.Covers i) ∨ ∃ u, s.unterminated = some u ∧ u ≤ i
  /-- The open block begins with the first start marker after the blocks; no end marker follows. -/
  unterminated : ∀ u, s.unterminated = some u ↔
    OpensAt ls u ∧ (∀ b ∈ s.blocks, b.stop < u) ∧ (∀ i, u < i → ¬ EndsAt ls i) ∧
      ∀ i, OpensAt ls i → (∀ b ∈ s.blocks, b.stop < i) → u ≤ i

theorem describes_scan (text : String) : Describes (Text.lines text) (scan text) where
  ranges := pairwise_blocks (cut_pieces _) 0 0
  framed _ := framed_of_mem_blocks
  outside i hi := by
    rw [← linesOf_pieces (Text.lines text)] at hi
    simpa only [Nat.zero_add, scan] using opensAt_scanPieces (cut_pieces _) 0 0 hi
  unterminated := unterminated_eq_some_iff text

/-- What is written into a text: a plain line, or a block with the indents of its two markers. -/
inductive Section where
  | line (text : String)
  | block (label : Option String) (content : List String) (startIndent stopIndent : String)

namespace Section

def lines : Section → List String
  | line text => [text]
  | block label content startIndent stopIndent =>
    startLine label startIndent :: content ++ [endLine stopIndent]

def isBlock : Section → Bool
  | line _ => false
  | block _ _ _ _ => true

/-- An indent holds blanks of one line. -/
def IsIndent (indent : String) : Prop := Text.isBlankText indent = true ∧ Text.OneLine indent

/-- No plain line opens a block, and no line of a block closes it. -/
def WellFormed : Section → Prop
  | line text => parseStart text = none ∧ Text.OneLine text
  | block label content startIndent stopIndent =>
    (∀ l ∈ label, IsLabel l) ∧ (∀ l ∈ content, isEnd l = false ∧ Text.OneLine l) ∧
      IsIndent startIndent ∧ IsIndent stopIndent

instance (indent : String) : Decidable (IsIndent indent) := inferInstanceAs (Decidable (_ ∧ _))

instance : DecidablePred WellFormed
  | line _ => inferInstanceAs (Decidable (_ ∧ _))
  | block _ _ _ _ => inferInstanceAs (Decidable (_ ∧ _ ∧ _ ∧ _))

/-- The part of a text that is written. -/
def piece : Section → Piece
  | line text => .line text
  | block label content startIndent stopIndent =>
    .block (startLine label startIndent) label content (endLine stopIndent)

@[simp] lemma lines_piece (s : Section) : s.piece.lines = s.lines := by cases s <;> rfl
@[simp] lemma isBlock_piece (s : Section) : s.piece.isBlock = s.isBlock := by cases s <;> rfl

theorem WellFormed.proper {s : Section} (h : s.WellFormed) : s.piece.Proper := by
  cases s with
  | line text => exact h.1
  | block label content startIndent stopIndent =>
    obtain ⟨hl,hc,hi,hj⟩ := h
    exact ⟨parseStart_startLine hi.1 hl,fun l hm => (hc l hm).1,isEnd_endLine hj.1⟩

theorem WellFormed.oneLine {s : Section} (h : s.WellFormed) : ∀ l ∈ s.lines, Text.OneLine l := by
  cases s with
  | line text =>
    intro l hm
    rw [List.mem_singleton.mp hm]
    exact h.2
  | block label content startIndent stopIndent =>
    obtain ⟨hl,hc,hi,hj⟩ := h
    intro l hm
    rcases List.mem_cons.mp hm with rfl | hm
    · exact oneLine_startLine hi.2 (fun l he => (hl l he).oneLine)
    · rcases List.mem_append.mp hm with hm | hm
      · exact (hc l hm).2
      · rw [List.mem_singleton.mp hm]
        exact oneLine_endLine hj.2

end Section

/-- The text of sections. -/
def render (sections : List Section) : String := Text.ofLines (sections.flatMap Section.lines)

lemma linesOf_map_piece (sections : List Section) :
    linesOf (sections.map Section.piece) = sections.flatMap Section.lines := by
  simp [linesOf, List.flatMap_map]

lemma blockCount_map_piece (sections : List Section) :
    blockCount (sections.map Section.piece) = sections.countP Section.isBlock := by
  simp [blockCount, List.countP_map, Function.comp_def]

lemma sound_map_piece {sections : List Section} (h : ∀ s ∈ sections, s.WellFormed) :
    Sound (sections.map Section.piece) := by
  intro p hp
  obtain ⟨s,hs,rfl⟩ := List.mem_map.mp hp
  rw [Section.lines_piece]
  exact ⟨(h s hs).proper,(h s hs).oneLine⟩

/-- The scan of a written text is the scan of its parts. -/
theorem scan_render {sections : List Section} (h : ∀ s ∈ sections, s.WellFormed) :
    scan (render sections) = scanPieces 0 0 (sections.map Section.piece) := by
  have hlines := linesOf_map_piece sections
  cases sections with
  | nil =>
    -- No line and one empty line are the same text.
    rw [render, List.flatMap_nil, scan, Text.lines_ofLines_nil, pieces, piecesFrom,
      parseStart_empty]
    rfl
  | cons s rest =>
    rw [render, ← hlines]
    apply scan_ofLines (sound_map_piece h)
    rw [hlines]
    cases s <;> simp [Section.lines]

lemma unterminated_render {sections : List Section} (h : ∀ s ∈ sections, s.WellFormed) :
    (scan (render sections)).unterminated = none := by
  rw [scan_render h]
  exact unterminated_scanPieces (sound_map_piece h).closed 0 0

lemma length_blocks_render {sections : List Section} (h : ∀ s ∈ sections, s.WellFormed) :
    (scan (render sections)).blocks.length = sections.countP Section.isBlock := by
  rw [scan_render h, length_blocks_scanPieces (sound_map_piece h).closed, blockCount_map_piece]

/-- Each written block is found, with the number of the blocks before it and on its own lines. -/
theorem getElem?_blocks_render {before after : List Section} {label : Option String}
    {content : List String} {startIndent stopIndent : String}
    (h : ∀ s ∈ before ++ .block label content startIndent stopIndent :: after, s.WellFormed) :
    (scan (render (before ++ .block label content startIndent stopIndent :: after))).blocks[
      before.countP Section.isBlock]? =
      some ⟨blockId label (before.countP Section.isBlock), label, content,
        (before.flatMap Section.lines).length,
        (before.flatMap Section.lines).length + content.length + 1⟩ := by
  have hb : ∀ s ∈ before, s.WellFormed := fun s hs => h s (List.mem_append_left _ hs)
  have hg := getElem?_blocks_scanPieces (sound_map_piece hb).closed
    (startLine label startIndent) label content (endLine stopIndent) (after.map Section.piece) 0 0
  rw [scan_render h, List.map_append, List.map_cons]
  rw [blockCount_map_piece, linesOf_map_piece] at hg
  simpa only [Section.piece, Nat.zero_add] using hg

/-- Scanning is the inverse of writing over the whole format, and what it finds in any text is
described by the lines of the text. -/
theorem scan_render_and_describes (sections : List Section) (h : ∀ s ∈ sections, s.WellFormed)
    (text : String) :
    ((scan (render sections)).unterminated = none ∧
      (scan (render sections)).blocks.length = sections.countP Section.isBlock ∧
      ∀ before label content startIndent stopIndent after,
        sections = before ++ .block label content startIndent stopIndent :: after →
        (scan (render sections)).blocks[before.countP Section.isBlock]? =
          some { id := label.getD ("block_" ++ toString (before.countP Section.isBlock))
                 label := label
                 content := content
                 start := (before.flatMap Section.lines).length
                 stop := (before.flatMap Section.lines).length + content.length + 1 }) ∧
    Describes (Text.lines text) (scan text) := by
  refine ⟨⟨unterminated_render h,length_blocks_render h,?_⟩,describes_scan text⟩
  rintro before label content startIndent stopIndent after rfl
  exact getElem?_blocks_render h

/-- A block whose content looks like a start marker, after an end marker outside of blocks. -/
theorem scan_render_nested :
    (∀ s ∈ [Section.line "// @canopy-user-end",
      .block (some "a b") ["// @canopy-user-start", ""] "\t" "  ", .block none [] "" " "],
      s.WellFormed) ∧
    (scan (render [.line "// @canopy-user-end",
      .block (some "a b") ["// @canopy-user-start", ""] "\t" "  ",
      .block none [] "" " "])).blocks[1]? = some ⟨"block_1",none,[],5,6⟩ := by
  have h : ∀ s ∈ [Section.line "// @canopy-user-end",
      .block (some "a b") ["// @canopy-user-start", ""] "\t" "  ", .block none [] "" " "],
      s.WellFormed := by decide
  have hb := (scan_render_and_describes _ h "").1.2.2 [.line "// @canopy-user-end",
    .block (some "a b") ["// @canopy-user-start", ""] "\t" "  "] none [] "" " " [] rfl
  exact ⟨h,hb.trans (by decide)⟩

/-- Two limits of the format. With a second start marker behind it the open block still begins with
the first one, and a plain line must stand on one line. -/
theorem later_start_and_broken_line :
    (¬ ∀ (text : String) (u : ℕ), (scan text).unterminated = some u ↔
      OpensAt (Text.lines text) u ∧ (∀ b ∈ (scan text).blocks, b.stop < u) ∧
        ∀ i, u < i → ¬ EndsAt (Text.lines text) i) ∧
    ¬ ∀ line, parseStart line = none → (scan (render [.line line])).unterminated = none := by
  constructor
  · intro h
    have hl : Text.lines "// @canopy-user-start\n// @canopy-user-start" =
        ["// @canopy-user-start", "// @canopy-user-start"] := by decide
    have hs : scan "// @canopy-user-start\n// @canopy-user-start" = ⟨[],some 0⟩ := by decide
    have h1 := (h "// @canopy-user-start\n// @canopy-user-start" 1).mpr
    rw [hs, hl] at h1
    have hu := h1 ⟨⟨_,none,rfl,by decide⟩,by simp,?_⟩
    · exact absurd hu (by simp)
    · rintro i hi ⟨l,hl,-⟩
      rw [List.getElem?_eq_none (show 2 ≤ i from hi)] at hl
      exact absurd hl (by simp)
  · intro h
    have hs : scan (render [.line "x\n// @canopy-user-start"]) = ⟨[],some 1⟩ := by decide
    have hu := h "x\n// @canopy-user-start" (by decide)
    rw [hs] at hu
    exact Option.some_ne_none 1 hu

end DesignCompiler.UserBlocks
