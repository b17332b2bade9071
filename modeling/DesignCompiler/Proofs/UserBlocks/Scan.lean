import DesignCompiler.Proofs.UserBlocks.Piece
import DesignCompiler.UserBlocks.Scan

/-! The blocks that a scan finds, with their numbers, identities and lines, from the parts of the
text. -/
namespace DesignCompiler.UserBlocks

/-- Scanning goes on after closed parts with the next block number and the next line. -/
theorem scanPieces_append {ps : List Piece} (h : Closed ps) (qs : List Piece) (n k : ℕ) :
    scanPieces n k (ps ++ qs) =
      ⟨(scanPieces n k ps).blocks ++
        (scanPieces (n + blockCount ps) (k + (linesOf ps).length) qs).blocks,
      (scanPieces (n + blockCount ps) (k + (linesOf ps).length) qs).unterminated⟩ := by
  induction ps generalizing n k with
  | nil => rfl
  | cons p ps ih =>
    obtain ⟨hp,hps⟩ := closed_cons.mp h
    cases p with
    | line text =>
      simp only [List.cons_append, scanPieces, ih hps, blockCount_line, length_linesOf_line,
        Nat.add_assoc]
    | block start label content stop =>
      have hn : n + 1 + blockCount ps = n + (blockCount ps + 1) := by omega
      have hk : k + content.length + 1 + 1 + (linesOf ps).length =
          k + (linesOf (.block start label content stop :: ps)).length := by
        rw [length_linesOf_block]
        omega
      simp only [List.cons_append, scanPieces, ih hps, blockCount_block, hn, hk]
    | unclosed start content => exact hp.elim

theorem unterminated_scanPieces {ps : List Piece} (h : Closed ps) (n k : ℕ) :
    (scanPieces n k ps).unterminated = none := by
  have ha := scanPieces_append h [] n k
  rw [List.append_nil] at ha
  rw [ha]
  rfl

@[simp] theorem length_blocks_scanPieces {ps : List Piece} (h : Closed ps) (n k : ℕ) :
    (scanPieces n k ps).blocks.length = blockCount ps := by
  induction ps generalizing n k with
  | nil => rfl
  | cons p ps ih =>
    obtain ⟨hp,hps⟩ := closed_cons.mp h
    cases p with
    | line text => rw [scanPieces, ih hps, blockCount_line]
    | block start label content stop =>
      rw [scanPieces, List.length_cons, ih hps, blockCount_block]
    | unclosed start content => exact hp.elim

/-- The block between two lists of parts has the number of the blocks before it. -/
theorem getElem?_blocks_scanPieces {before : List Piece} (h : Closed before) (start : String)
    (label : Option String) (content : List String) (stop : String) (after : List Piece)
    (n k : ℕ) :
    (scanPieces n k (before ++ .block start label content stop :: after)).blocks[
        blockCount before]? =
      some ⟨blockId label (n + blockCount before), label, content, k + (linesOf before).length,
        k + (linesOf before).length + content.length + 1⟩ := by
  rw [scanPieces_append h]
  have hl := length_blocks_scanPieces h n k
  rw [← hl, List.getElem?_append_right le_rfl, Nat.sub_self, hl]
  rfl

/-- Where block number `i` comes from: the parts around it and its marker lines. -/
theorem exists_split_of_getElem? {ps : List Piece} (h : Cut ps) {n k i : ℕ} {b : UserBlock}
    (hb : (scanPieces n k ps).blocks[i]? = some b) :
    ∃ before start stop after, ps = before ++ .block start b.label b.content stop :: after ∧
      Closed before ∧ blockCount before = i ∧
      (Piece.block start b.label b.content stop).Proper ∧ b.id = blockId b.label (n + i) ∧
      b.start = k + (linesOf before).length ∧ b.stop = b.start + b.content.length + 1 := by
  induction h generalizing n k i with
  | nil => simp [scanPieces] at hb
  | unclosed ho hi => simp [scanPieces] at hb
  | @cons p ps hp hr ih =>
    cases p with
    | line text =>
      obtain ⟨before,start,stop,after,rfl,hc,hn,hproper,hid,hs,he⟩ := ih hb
      refine ⟨.line text :: before,start,stop,after,rfl,closed_cons.mpr ⟨hp,hc⟩,?_,hproper,hid,
        ?_,he⟩
      · rw [blockCount_line, hn]
      · rw [hs, length_linesOf_line]
        omega
    | block start label content stop =>
      cases i with
      | zero =>
        rw [scanPieces, List.getElem?_cons_zero, Option.some.injEq] at hb
        subst hb
        exact ⟨[],start,stop,ps,rfl,closed_nil,rfl,hp,rfl,rfl,rfl⟩
      | succ i =>
        rw [scanPieces, List.getElem?_cons_succ] at hb
        obtain ⟨before,start',stop',after,rfl,hc,hn,hproper,hid,hs,he⟩ := ih hb
        refine ⟨.block start label content stop :: before,start',stop',after,rfl,
          closed_cons.mpr ⟨hp,hc⟩,?_,hproper,?_,?_,he⟩
        · rw [blockCount_block, hn]
        · rw [hid, Nat.add_assoc, Nat.add_comm 1 i]
        · rw [hs, length_linesOf_block]
          omega
    | unclosed start content => exact hp.elim

/-- The open block is reported with the line of its start marker. -/
theorem unterminated_append_unclosed {before : List Piece} (h : Closed before) (start : String)
    (content : List String) (n k : ℕ) :
    (scanPieces n k (before ++ [.unclosed start content])).unterminated =
      some (k + (linesOf before).length) := by
  rw [scanPieces_append h]
  rfl

/-- The parts of a text without an open block are all closed. -/
theorem closed_pieces {text : String} (h : (scan text).unterminated = none) :
    Closed (pieces (Text.lines text)) := by
  rcases (cut_pieces (Text.lines text)).closed_or_open with
    hc | ⟨before,start,label,content,hp,hb,-,-⟩
  · exact hc
  · rw [scan, hp, unterminated_append_unclosed hb] at h
    contradiction

lemma blockCount_pieces {text : String} (h : (scan text).unterminated = none) :
    blockCount (pieces (Text.lines text)) = (scan text).blocks.length :=
  (length_blocks_scanPieces (closed_pieces h) 0 0).symm

theorem sound_pieces {text : String} (h : (scan text).unterminated = none) :
    Sound (pieces (Text.lines text)) := by
  refine (closed_pieces h).sound ?_
  rw [linesOf_pieces]
  exact fun l => Text.oneLine_of_mem_lines

/-- A text that is made of closed parts is scanned to the blocks of these parts. -/
theorem scan_ofLines {ps : List Piece} (h : Sound ps) (hne : linesOf ps ≠ []) :
    scan (Text.ofLines (linesOf ps)) = scanPieces 0 0 ps := by
  rw [scan, Text.lines_ofLines_of_oneLine hne h.oneLine, pieces_linesOf h.closed]

/-- A block that is found is one of the parts, with its marker lines where it says. -/
theorem getElem?_blockParts {ps : List Piece} (h : Cut ps) {i : ℕ} {b : UserBlock}
    (hb : (scanPieces 0 0 ps).blocks[i]? = some b) :
    b.id = blockId b.label i ∧ ∃ start stop,
      (blockParts ps)[i]? = some (.block start b.label b.content stop) ∧
      (Piece.block start b.label b.content stop).Proper ∧
      (linesOf ps)[b.start]? = some start ∧ (linesOf ps)[b.stop]? = some stop := by
  obtain ⟨before,start,stop,after,rfl,-,hn,hp,hid,hs,he⟩ := exists_split_of_getElem? h hb
  rw [Nat.zero_add] at hid hs
  refine ⟨hid,start,stop,?_,hp,?_,?_⟩
  · rw [blockParts_append, blockParts_block, ← hn, ← length_blockParts,
      List.getElem?_append_right le_rfl, Nat.sub_self]
    rfl
  · rw [linesOf_split, hs]
    exact getElem?_linesOf_append before _ 0
  · rw [linesOf_split, he, hs, Nat.add_assoc, getElem?_linesOf_append, List.getElem?_cons_succ,
      List.getElem?_append_right le_rfl, Nat.sub_self]
    rfl

/-- No line of a block is an end marker or more than a line. -/
theorem content_of_mem_blocks {text : String} {b : UserBlock} (h : b ∈ (scan text).blocks) :
    ∀ l ∈ b.content, isEnd l = false ∧ Text.OneLine l := by
  obtain ⟨i,hi⟩ := List.mem_iff_getElem?.mp h
  obtain ⟨-,start,stop,hpart,hp,-⟩ := getElem?_blockParts (cut_pieces _) hi
  intro l hl
  refine ⟨hp.2.1 l hl,?_⟩
  apply Text.oneLine_of_mem_lines (s := text)
  rw [← linesOf_pieces (Text.lines text)]
  refine List.mem_flatMap.mpr ⟨_,(List.mem_filter.mp (List.mem_of_getElem? hpart)).1,?_⟩
  exact List.mem_cons_of_mem _ (List.mem_append_left _ hl)

/-- The number that stands for a missing label is no blank text. -/
lemma isLabel_number (n : ℕ) : IsLabel ("block_" ++ toString n) := by
  have hc : ∀ c ∈ ("block_" ++ toString n).toList, Text.isBlank c = false := by
    intro c hc
    rw [String.toList_append, List.mem_append] at hc
    rcases hc with hc | hc
    · have hw : "block_".toList.all (fun c => !Text.isBlank c) = true := by decide
      exact (Bool.not_eq_true' _).mp (List.all_eq_true.mp hw c hc)
    · change c ∈ (Nat.repr n).toList at hc
      rw [Nat.repr, String.toList_ofList] at hc
      exact Text.isBlank_of_isDigit (Nat.isDigit_of_mem_toDigits (by decide) (by decide) hc)
  refine ⟨?_,?_,?_⟩
  · simp
  · apply String.toList_inj.mp
    rw [Text.toList_trim, Text.trimChars_of_forall hc]
  · intro hlf
    have hb := hc _ hlf
    contradiction

lemma isLabel_blockId {label : Option String} (h : ∀ l ∈ label, IsLabel l) (n : ℕ) :
    IsLabel (blockId label n) := by
  cases label with
  | none => exact isLabel_number n
  | some label => exact h label rfl

/-- The identity of a block of a text can be written as a label. -/
theorem isLabel_id {text : String} {b : UserBlock} (h : b ∈ (scan text).blocks) : IsLabel b.id := by
  obtain ⟨i,hi⟩ := List.mem_iff_getElem?.mp h
  obtain ⟨hid,start,stop,-,hp,hstart,-⟩ := getElem?_blockParts (cut_pieces _) hi
  rw [linesOf_pieces] at hstart
  rw [hid]
  apply isLabel_blockId
  intro l hl
  exact isLabel_of_parseStart (Text.oneLine_of_mem_lines (List.mem_of_getElem? hstart))
    (hl ▸ hp.1)

end DesignCompiler.UserBlocks
