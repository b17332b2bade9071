import DesignCompiler.Proofs.UserBlocks.Filling
import DesignCompiler.Proofs.UserBlocks.Matching
import DesignCompiler.Proofs.UserBlocks.Ranges

/-! The structure of a merged text, as a scan of that text sees it: the fresh blocks with what they
took, then the previous blocks that found no place. -/
namespace DesignCompiler.UserBlocks

/-- For each fresh block the content that it takes. -/
def takenContents (previous fresh : List UserBlock) : List (Option (List String)) :=
  (sources previous fresh).map fun s => (s.bind (previous[·]?)).map (·.content)

/-- The previous blocks that are appended: not taken and not blank. -/
def leftOver (previous fresh : List UserBlock) : List UserBlock :=
  (untaken previous fresh).filter fun b => !b.isBlank

/-- The parts of the merged text. -/
def mergedPieces (previous fresh : String) : List Piece :=
  withAppended (fill (takenContents (scan previous).blocks (scan fresh).blocks)
    (pieces (Text.lines fresh))) (leftOver (scan previous).blocks (scan fresh).blocks)

section
variable {previous fresh : List UserBlock}

lemma contentAt_takenContents {i j : ℕ} {p : UserBlock} (h : Takes previous fresh i j)
    (hp : previous[j]? = some p) : contentAt (takenContents previous fresh) i = some p.content := by
  rw [contentAt, takenContents, List.getElem?_map, getElem?_sources.mpr h]
  simp [hp]

lemma contentAt_takenContents_none {i : ℕ} (h : ∀ j, ¬ Takes previous fresh i j) :
    contentAt (takenContents previous fresh) i = none := by
  rw [contentAt, takenContents, List.getElem?_map]
  cases hs : (sources previous fresh)[i]? with
  | none => rfl
  | some s =>
    cases s with
    | none => rfl
    | some j => exact absurd (getElem?_sources.mp hs) (h j)

lemma exists_of_contentAt_takenContents {i : ℕ} {c : List String}
    (h : contentAt (takenContents previous fresh) i = some c) : ∃ p ∈ previous, p.content = c := by
  by_cases ht : ∃ j, Takes previous fresh i j
  · obtain ⟨j,hj⟩ := ht
    have hp := List.getElem?_eq_getElem hj.lt_previous
    rw [contentAt_takenContents hj hp, Option.some.injEq] at h
    exact ⟨_,List.getElem_mem _,h⟩
  · rw [contentAt_takenContents_none (not_exists.mp ht)] at h
    contradiction

lemma mem_of_mem_leftOver {b : UserBlock} (h : b ∈ leftOver previous fresh) : b ∈ previous := by
  obtain ⟨⟨b',j⟩,hb,rfl⟩ := List.mem_map.mp (List.mem_filter.mp h).1
  exact List.fst_mem_of_mem_zipIdx (List.mem_filter.mp hb).1

end

section
variable {previous fresh : String}

/-- The report of a merge that carries blocks over. -/
theorem mergeReport_eq (hb : (scan previous).hasBlocks = true)
    (hp : (scan previous).unterminated = none) :
    mergeReport previous fresh =
      { text := Text.ofLines ((leftOver (scan previous).blocks (scan fresh).blocks).foldl
          appendBlock (linesOf (fill (takenContents (scan previous).blocks (scan fresh).blocks)
            (pieces (Text.lines fresh)))))
        preserved := (sources (scan previous).blocks (scan fresh).blocks).countP (·.isSome)
        appended := (leftOver (scan previous).blocks (scan fresh).blocks).length
        diagnostics := unterminatedWarning "generated" (scan fresh) } := by
  simp only [mergeReport, hp, hb, orphans_sources]
  rfl

variable (hf : (scan fresh).unterminated = none)
include hf

lemma sound_filled : Sound (fill (takenContents (scan previous).blocks (scan fresh).blocks)
    (pieces (Text.lines fresh))) := by
  apply sound_fill (sound_pieces hf)
  intro i c hc
  obtain ⟨p,hp,rfl⟩ := exists_of_contentAt_takenContents hc
  exact content_of_mem_blocks hp

theorem sound_mergedPieces : Sound (mergedPieces previous fresh) := by
  apply sound_withAppended (sound_filled hf)
  · exact fun b hb => isLabel_id (mem_of_mem_leftOver hb)
  · exact fun b hb => content_of_mem_blocks (mem_of_mem_leftOver hb)

/-- The blocks of the merged parts are the fresh ones, filled, and the ones left over. -/
theorem blockParts_mergedPieces : blockParts (mergedPieces previous fresh) =
    ((blockParts (pieces (Text.lines fresh))).mapIdx fun i p =>
      p.withContent (contentAt (takenContents (scan previous).blocks (scan fresh).blocks) i)) ++
    (leftOver (scan previous).blocks (scan fresh).blocks).map appended := by
  rw [mergedPieces, blockParts_withAppended, blockParts_fill (closed_pieces hf)]

/-- The fresh blocks come first, each filled with what it takes. -/
theorem getElem?_blockParts_mergedPieces {i : ℕ} {p : Piece}
    (hi : (blockParts (pieces (Text.lines fresh)))[i]? = some p) :
    (blockParts (mergedPieces previous fresh))[i]? = some (p.withContent
      (contentAt (takenContents (scan previous).blocks (scan fresh).blocks) i)) := by
  rw [blockParts_mergedPieces hf, List.getElem?_append_left, List.getElem?_mapIdx, hi,
    Option.map_some]
  rw [List.length_mapIdx]
  exact (List.getElem?_eq_some_iff.mp hi).1

theorem lines_ofLines_mergedPieces :
    Text.lines (Text.ofLines (linesOf (mergedPieces previous fresh))) =
      linesOf (mergedPieces previous fresh) := by
  apply Text.lines_ofLines_of_oneLine ?_ (sound_mergedPieces hf).oneLine
  intro h
  have hps := fill_eq_nil.mp (withAppended_eq_nil (linesOf_eq_nil.mp h))
  apply Text.lines_ne_nil fresh
  rw [← linesOf_pieces (Text.lines fresh), hps]
  rfl

variable (hb : (scan previous).hasBlocks = true) (hp : (scan previous).unterminated = none)
include hb hp

theorem merge_eq : merge previous fresh = Text.ofLines (linesOf (mergedPieces previous fresh)) := by
  rw [merge, mergeReport_eq hb hp, mergedPieces, linesOf_withAppended (sound_filled hf).closed]

theorem lines_merge :
    Text.lines (merge previous fresh) = linesOf (mergedPieces previous fresh) := by
  rw [merge_eq hf hb hp, lines_ofLines_mergedPieces hf]

theorem scan_merge :
    scan (merge previous fresh) = scanPieces 0 0 (mergedPieces previous fresh) := by
  rw [scan, lines_merge hf hb hp, pieces_linesOf (sound_mergedPieces hf).closed]

theorem unterminated_merge : (scan (merge previous fresh)).unterminated = none := by
  rw [scan_merge hf hb hp]
  exact unterminated_scanPieces (sound_mergedPieces hf).closed 0 0

theorem length_blocks_merge : (scan (merge previous fresh)).blocks.length =
    (scan fresh).blocks.length + (leftOver (scan previous).blocks (scan fresh).blocks).length := by
  rw [scan_merge hf hb hp, length_blocks_scanPieces (sound_mergedPieces hf).closed,
    ← length_blockParts, blockParts_mergedPieces hf, List.length_append, List.length_mapIdx,
    List.length_map, length_blockParts, blockCount_pieces hf]

/-- The lines outside of blocks stay, up to one empty line at the end. -/
theorem outsideLines_merge : outsideLines (merge previous fresh) = outsideLines fresh ∨
    outsideLines (merge previous fresh) = outsideLines fresh ++ [""] := by
  rw [outsideLines_eq (unterminated_merge hf hb hp), outsideLines_eq hf, lines_merge hf hb hp,
    pieces_linesOf (sound_mergedPieces hf).closed, ← plainLines_fill (closed_pieces hf)
    (takenContents (scan previous).blocks (scan fresh).blocks)]
  exact plainLines_withAppended _ _

end

/-- Block `m` of a merged text is fresh block `b`, number `i`, with the content that this takes. -/
structure Carried (previous fresh merged : String) (i : ℕ) (b m : UserBlock) : Prop where
  id : m.id = b.id
  label : m.label = b.label
  start_line : (Text.lines merged)[m.start]? = (Text.lines fresh)[b.start]?
  stop_line : (Text.lines merged)[m.stop]? = (Text.lines fresh)[b.stop]?
  taken : ∀ j p, Takes (scan previous).blocks (scan fresh).blocks i j →
    (scan previous).blocks[j]? = some p → m.content = p.content
  own : (∀ j, ¬ Takes (scan previous).blocks (scan fresh).blocks i j) → m.content = b.content

section
variable {previous fresh : String} (hf : (scan fresh).unterminated = none)
  (hb : (scan previous).hasBlocks = true) (hp : (scan previous).unterminated = none)
include hf hb hp

/-- The fresh blocks come first, each with its markers and what it takes. -/
theorem carried_merge {i : ℕ} {b m : UserBlock} (hi : (scan fresh).blocks[i]? = some b)
    (hm : (scan (merge previous fresh)).blocks[i]? = some m) :
    Carried previous fresh (merge previous fresh) i b m := by
  rw [scan_merge hf hb hp] at hm
  obtain ⟨hid,start,stop,hpart,-,hstart,hstop⟩ := getElem?_blockParts (cut_pieces _) hi
  obtain ⟨hid',start',stop',hpart',-,hstart',hstop'⟩ :=
    getElem?_blockParts (sound_mergedPieces hf).closed.cut hm
  rw [linesOf_pieces] at hstart hstop
  rw [getElem?_blockParts_mergedPieces hf hpart, Option.some.injEq, Piece.withContent,
    Piece.block.injEq] at hpart'
  obtain ⟨rfl,hlabel,hcontent,rfl⟩ := hpart'
  refine ⟨?_,hlabel.symm,?_,?_,?_,?_⟩
  · rw [hid, hid', hlabel]
  · rw [lines_merge hf hb hp, hstart, hstart']
  · rw [lines_merge hf hb hp, hstop, hstop']
  · intro j p hj hpj
    rw [← hcontent, contentAt_takenContents hj hpj]
    rfl
  · intro hno
    rw [← hcontent, contentAt_takenContents_none hno]
    rfl

/-- The previous blocks that are left over follow, labelled with their identities. -/
theorem leftOver_merge {k : ℕ} {b m : UserBlock}
    (hk : (leftOver (scan previous).blocks (scan fresh).blocks)[k]? = some b)
    (hm : (scan (merge previous fresh)).blocks[(scan fresh).blocks.length + k]? = some m) :
    m.id = b.id ∧ m.label = some b.id ∧ m.content = b.content := by
  have hlen : (blockParts (pieces (Text.lines fresh))).length = (scan fresh).blocks.length := by
    rw [length_blockParts, blockCount_pieces hf]
  rw [scan_merge hf hb hp] at hm
  obtain ⟨hid,start,stop,hpart,-⟩ := getElem?_blockParts (sound_mergedPieces hf).closed.cut hm
  rw [blockParts_mergedPieces hf, ← hlen, List.getElem?_append_right (by simp),
    List.length_mapIdx, Nat.add_sub_cancel_left, List.getElem?_map, hk, Option.map_some,
    Option.some.injEq, appended, Piece.block.injEq] at hpart
  obtain ⟨-,hlabel,hcontent,-⟩ := hpart
  refine ⟨?_,hlabel.symm,hcontent.symm⟩
  rw [hid, ← hlabel]
  rfl

end

/-- A block that is not blank is found in the merged text with all its lines. -/
theorem exists_content_merge {previous fresh : String} (hf : (scan fresh).unterminated = none)
    (hp : (scan previous).unterminated = none) {b : UserBlock} (hmem : b ∈ (scan previous).blocks)
    (hb : b.isBlank = false) :
    ∃ m ∈ (scan (merge previous fresh)).blocks, m.content = b.content := by
  have hblocks : (scan previous).hasBlocks = true := by
    rw [Scan.hasBlocks, List.isEmpty_eq_false_iff.mpr (List.ne_nil_of_mem hmem)]
    rfl
  have hlen := length_blocks_merge hf hblocks hp
  obtain ⟨j,hj⟩ := List.mem_iff_getElem?.mp hmem
  by_cases ht : Taken (scan previous).blocks (scan fresh).blocks j
  · obtain ⟨i,hi⟩ := ht
    have hm := List.getElem?_eq_getElem (show i < (scan (merge previous fresh)).blocks.length by
      have := hi.lt_fresh
      omega)
    have hc := carried_merge hf hblocks hp (List.getElem?_eq_getElem hi.lt_fresh) hm
    exact ⟨_,List.mem_of_getElem? hm,hc.taken j b hi hj⟩
  · have hleft : b ∈ leftOver (scan previous).blocks (scan fresh).blocks :=
      List.mem_filter.mpr ⟨mem_untaken hj ht,by simp [hb]⟩
    obtain ⟨k,hk⟩ := List.mem_iff_getElem?.mp hleft
    have hlt := (List.getElem?_eq_some_iff.mp hk).1
    have hm := List.getElem?_eq_getElem
      (show (scan fresh).blocks.length + k < (scan (merge previous fresh)).blocks.length by omega)
    exact ⟨_,List.mem_of_getElem? hm,(leftOver_merge hf hblocks hp hk hm).2.2⟩

/-- With distinct fresh identities the report accounts for every previous block once. -/
theorem preserved_add_appended {previous fresh : String}
    (hd : ((scan fresh).blocks.map (·.id)).Nodup) (hb : (scan previous).hasBlocks = true)
    (hp : (scan previous).unterminated = none) :
    (mergeReport previous fresh).preserved + (mergeReport previous fresh).appended +
      (untaken (scan previous).blocks (scan fresh).blocks).countP (·.isBlank) =
        (scan previous).blocks.length := by
  have hu : (leftOver (scan previous).blocks (scan fresh).blocks).length +
      (untaken (scan previous).blocks (scan fresh).blocks).countP (·.isBlank) =
        (untaken (scan previous).blocks (scan fresh).blocks).length := by
    rw [leftOver, ← List.countP_eq_length_filter, Nat.add_comm,
      List.length_eq_countP_add_countP (·.isBlank)]
    simp
  have ht := taken_add_untaken (scan previous).blocks hd
  rw [mergeReport_eq hb hp]
  dsimp only
  omega

/-- The exact structure of a merged text and of the report about it. -/
theorem merge_structure (previous fresh : String) (hb : (scan previous).hasBlocks = true)
    (hp : (scan previous).unterminated = none) (hf : (scan fresh).unterminated = none) :
    (scan (merge previous fresh)).unterminated = none ∧
    (scan (merge previous fresh)).blocks.length = (scan fresh).blocks.length +
      (leftOver (scan previous).blocks (scan fresh).blocks).length ∧
    (∀ i b m, (scan fresh).blocks[i]? = some b →
      (scan (merge previous fresh)).blocks[i]? = some m →
      Carried previous fresh (merge previous fresh) i b m) ∧
    (∀ k b m, (leftOver (scan previous).blocks (scan fresh).blocks)[k]? = some b →
      (scan (merge previous fresh)).blocks[(scan fresh).blocks.length + k]? = some m →
      m.id = b.id ∧ m.label = some b.id ∧ m.content = b.content) ∧
    (outsideLines (merge previous fresh) = outsideLines fresh ∨
      outsideLines (merge previous fresh) = outsideLines fresh ++ [""]) ∧
    (((scan fresh).blocks.map (·.id)).Nodup →
      (∀ i i' j, Takes (scan previous).blocks (scan fresh).blocks i j →
        Takes (scan previous).blocks (scan fresh).blocks i' j → i = i') ∧
      (mergeReport previous fresh).preserved + (mergeReport previous fresh).appended +
        (untaken (scan previous).blocks (scan fresh).blocks).countP (·.isBlank) =
          (scan previous).blocks.length) := by
  refine ⟨unterminated_merge hf hb hp,length_blocks_merge hf hb hp,?_,?_,
    outsideLines_merge hf hb hp,?_⟩
  · exact fun i b m => carried_merge hf hb hp
  · exact fun k b m => leftOver_merge hf hb hp
  · exact fun hd => ⟨fun i i' j => Takes.injective hd,preserved_add_appended hd hb hp⟩

/-- A block that is taken by its number and one that is left over. -/
theorem merge_structure_two_blocks :
    let previous := "// @canopy-user-start a\nx\n// @canopy-user-end\n" ++
      "// @canopy-user-start\ny\n// @canopy-user-end"
    let fresh := "f\n// @canopy-user-start b\n// @canopy-user-end"
    (scan previous).hasBlocks = true ∧ (scan previous).unterminated = none ∧
    (scan fresh).unterminated = none ∧ ((scan fresh).blocks.map (·.id)).Nodup ∧
    (scan (merge previous fresh)).unterminated = none ∧
    (scan (merge previous fresh)).blocks.length = 2 ∧
    (∀ m, (scan (merge previous fresh)).blocks[1]? = some m →
      m.id = "block_1" ∧ m.label = some "block_1" ∧ m.content = ["y"]) ∧
    (mergeReport previous fresh).preserved + (mergeReport previous fresh).appended = 2 := by
  intro previous fresh
  have hp : scan previous =
      ⟨[⟨"a",some "a",["x"],0,2⟩, ⟨"block_1",none,["y"],3,5⟩],none⟩ := by decide +kernel
  have hf : scan fresh = ⟨[⟨"b",some "b",[],1,2⟩],none⟩ := by decide +kernel
  have hun : untaken (scan previous).blocks (scan fresh).blocks =
      [⟨"block_1",none,["y"],3,5⟩] := by
    rw [hp, hf]
    decide +kernel
  have hl : leftOver (scan previous).blocks (scan fresh).blocks =
      [⟨"block_1",none,["y"],3,5⟩] := by
    rw [leftOver, hun]
    decide +kernel
  obtain ⟨hu,hlen,-,hleft,-,hd⟩ := merge_structure previous fresh (by rw [hp]; rfl) (by rw [hp])
    (by rw [hf])
  have hnodup : ((scan fresh).blocks.map (·.id)).Nodup := by
    rw [hf]
    decide
  have hcount := (hd hnodup).2
  rw [hun, hp] at hcount
  rw [hl, hf] at hlen hleft
  refine ⟨by rw [hp]; rfl,by rw [hp],by rw [hf],hnodup,hu,hlen,?_,hcount⟩
  exact fun m => hleft 0 ⟨"block_1",none,["y"],3,5⟩ m rfl

end DesignCompiler.UserBlocks
