import DesignCompiler.Proofs.UserBlocks.Merge

/-! Merging the same fresh text again. The merged blocks begin with the fresh ones, and of such
blocks each fresh block takes the one at its own place. -/
namespace DesignCompiler.UserBlocks

/-- The previous blocks begin with blocks of the fresh identities. -/
def Aligned (previous fresh : List UserBlock) : Prop :=
  ∀ (i : ℕ) (b : UserBlock), fresh[i]? = some b → ∃ p, previous[i]? = some p ∧ p.id = b.id

lemma Aligned.refl (bs : List UserBlock) : Aligned bs bs := fun _ b hb => ⟨b,hb,rfl⟩

lemma filter_zipIdx_map_fst {α : Type*} (l : List α) (n k : ℕ) :
    ((l.zipIdx k).filter fun x => decide (n ≤ x.2)).map (·.1) = l.drop (n - k) := by
  induction l generalizing k with
  | nil => simp
  | cons a l ih =>
    rw [List.zipIdx_cons, List.filter_cons]
    by_cases hnk : n ≤ k
    · rw [if_pos (decide_eq_true hnk), List.map_cons, ih, Nat.sub_eq_zero_of_le hnk,
        Nat.sub_eq_zero_of_le (by omega)]
      rfl
    · have hs : n - k = n - (k + 1) + 1 := by omega
      rw [if_neg (by simpa using hnk), ih, hs, List.drop_succ_cons]

section
variable {previous fresh : List UserBlock} (ha : Aligned previous fresh)
  (hd : (fresh.map (·.id)).Nodup)
include ha hd

lemma findIdx?_of_aligned {i : ℕ} {b : UserBlock} (hb : fresh[i]? = some b) :
    previous.findIdx? (·.id == b.id) = some i := by
  obtain ⟨p,hp,hid⟩ := ha i b hb
  obtain ⟨hlt,rfl⟩ := List.getElem?_eq_some_iff.mp hp
  refine List.findIdx?_eq_some_iff_getElem.mpr ⟨hlt,beq_iff_eq.mpr hid,?_⟩
  intro j hj he
  -- An earlier block of this identity stands for a fresh block of the same identity.
  have hfresh := List.getElem?_eq_getElem (hj.trans (List.getElem?_eq_some_iff.mp hb).1)
  obtain ⟨q,hq,hidq⟩ := ha j _ hfresh
  obtain ⟨hlt',rfl⟩ := List.getElem?_eq_some_iff.mp hq
  have hij := index_eq_of_id_eq hd hfresh hb (hidq.symm.trans (beq_iff_eq.mp he))
  omega

/-- Each fresh block takes the block at its own place. -/
theorem takes_iff_of_aligned {i j : ℕ} :
    Takes previous fresh i j ↔ i = j ∧ i < fresh.length := by
  constructor
  · intro h
    refine ⟨?_,h.lt_fresh⟩
    cases h with
    | byId hb hj => exact Option.some.inj ((findIdx?_of_aligned ha hd hb).symm.trans hj)
    | byNumber => rfl
  · rintro ⟨rfl,hi⟩
    have hb := List.getElem?_eq_getElem hi
    exact .byId hb (findIdx?_of_aligned ha hd hb)

lemma contentAt_of_aligned {i : ℕ} {p : UserBlock} (hi : i < fresh.length)
    (hp : previous[i]? = some p) : contentAt (takenContents previous fresh) i = some p.content :=
  contentAt_takenContents ((takes_iff_of_aligned ha hd).mpr ⟨rfl,hi⟩) hp

/-- The blocks after the fresh ones are those that are not taken. -/
theorem untaken_of_aligned : untaken previous fresh = previous.drop fresh.length := by
  have ht : ∀ j, decide (¬ Taken previous fresh j) = decide (fresh.length ≤ j) := by
    intro j
    rw [decide_eq_decide, Taken, ← Nat.not_lt]
    simp [takes_iff_of_aligned ha hd]
  simp only [untaken, ht]
  exact filter_zipIdx_map_fst previous fresh.length 0

/-- Nothing is lost or moved: the blocks beyond the fresh ones are appended, if not blank. -/
theorem leftOver_of_aligned : leftOver previous fresh =
    (previous.drop fresh.length).filter fun b => !b.isBlank := by
  rw [leftOver, untaken_of_aligned ha hd]

/-- Filling with what is taken puts into each block the content of the block at its place. -/
theorem fill_of_aligned {ps : List Piece} (hc : Closed ps) (hlen : blockCount ps = fresh.length)
    {cs : List (Option (List String))}
    (h : ∀ (i : ℕ) (p : Piece) (b : UserBlock), (blockParts ps)[i]? = some p →
      previous[i]? = some b → p.withContent (contentAt cs i) = p.withContent (some b.content)) :
    fill (takenContents previous fresh) ps = fill cs ps := by
  apply fill_congr hc
  intro i p hp
  have hi : i < fresh.length := by
    rw [← hlen, ← length_blockParts]
    exact (List.getElem?_eq_some_iff.mp hp).1
  obtain ⟨b,hb,-⟩ := ha i _ (List.getElem?_eq_getElem hi)
  rw [contentAt_of_aligned ha hd hi hb, h i p b hp hb]

end

/-- A part that was given a content and is found again has that content. -/
lemma withContent_content {ps : List Piece} (h : Cut ps) {i : ℕ} {p : Piece}
    {c : Option (List String)} {b : UserBlock}
    (hp : (blockParts ps)[i]? = some (p.withContent c))
    (hb : (scanPieces 0 0 ps).blocks[i]? = some b) :
    p.withContent c = p.withContent (some b.content) := by
  obtain ⟨-,start,stop,hpart,-⟩ := getElem?_blockParts h hb
  have he := Option.some.inj (hp.symm.trans hpart)
  cases p with
  | line text => contradiction
  | block start' label content stop' =>
    rw [he]
    obtain ⟨rfl,rfl,-,rfl⟩ := Piece.block.inj he
    rfl
  | unclosed start content => contradiction

section
variable {previous fresh : String}

lemma merge_of_unterminated (h : (scan previous).unterminated.isSome = true) :
    merge previous fresh = previous := by
  unfold merge mergeReport
  rw [if_pos h]

lemma merge_of_no_blocks (hp : (scan previous).unterminated = none)
    (hb : (scan previous).hasBlocks = false) : merge previous fresh = fresh := by
  unfold merge mergeReport
  rw [if_neg (by simp [hp]), if_pos (by simp [hb])]

variable (hf : (scan fresh).unterminated = none)
include hf

lemma ofLines_fill_nil :
    Text.ofLines (linesOf (withAppended (fill [] (pieces (Text.lines fresh))) [])) = fresh := by
  rw [fill_nil (closed_pieces hf), withAppended, linesOf_pieces, Text.ofLines_lines]

variable (hd : ((scan fresh).blocks.map (·.id)).Nodup)
include hd

/-- A text that is merged into itself stays the same. -/
theorem merge_self : merge fresh fresh = fresh := by
  by_cases hb : (scan fresh).hasBlocks = true
  · have ha := Aligned.refl (scan fresh).blocks
    have hfill : fill (takenContents (scan fresh).blocks (scan fresh).blocks)
        (pieces (Text.lines fresh)) = fill [] (pieces (Text.lines fresh)) :=
      fill_of_aligned ha hd (closed_pieces hf) (blockCount_pieces hf) fun i p b hi hb =>
        withContent_content (c := none) (cut_pieces _)
          (hi.trans (congrArg some p.withContent_none.symm)) hb
    rw [merge_eq hf hb hf, mergedPieces, leftOver_of_aligned ha hd, List.drop_length, hfill]
    exact ofLines_fill_nil hf
  · exact merge_of_no_blocks hf (eq_false_of_ne_true hb)

variable (hb : (scan previous).hasBlocks = true) (hp : (scan previous).unterminated = none)
include hb hp

omit hd in
lemma aligned_merge : Aligned (scan (merge previous fresh)).blocks (scan fresh).blocks := by
  intro i b hi
  have hlt : i < (scan (merge previous fresh)).blocks.length := by
    rw [length_blocks_merge hf hb hp]
    exact Nat.lt_add_right _ (List.getElem?_eq_some_iff.mp hi).1
  have hm := List.getElem?_eq_getElem hlt
  exact ⟨_,hm,(carried_merge hf hb hp hi hm).id⟩

omit hd in
/-- What follows the fresh blocks is what was left over. -/
lemma drop_blocks_merge :
    ((scan (merge previous fresh)).blocks.drop (scan fresh).blocks.length).map
        (fun b => (b.id,b.content)) =
      (leftOver (scan previous).blocks (scan fresh).blocks).map fun b => (b.id,b.content) := by
  have hlen := length_blocks_merge hf hb hp
  apply List.ext_getElem (by simp [hlen])
  intro k hk hk'
  rw [List.length_map] at hk hk'
  have hm := List.getElem?_eq_getElem hk
  have hl := List.getElem?_eq_getElem hk'
  rw [List.getElem_map, List.getElem_map]
  obtain ⟨hid,-,hcontent⟩ := leftOver_merge hf hb hp hl (List.getElem?_drop.symm.trans hm)
  rw [hid, hcontent]

/-- The blocks that were appended are left over again. -/
lemma leftOver_merge_merge :
    (leftOver (scan (merge previous fresh)).blocks (scan fresh).blocks).map appended =
      (leftOver (scan previous).blocks (scan fresh).blocks).map appended := by
  have hdrop := drop_blocks_merge hf hb hp
  rw [leftOver_of_aligned (aligned_merge hf hb hp) hd, List.filter_eq_self.mpr]
  · have hmap := congrArg (List.map fun x : String × List String =>
      Piece.block (startLine (some x.1) "") (some x.1) x.2 (endLine "")) hdrop
    rwa [List.map_map, List.map_map] at hmap
  · intro m hm
    have hmem := List.mem_map_of_mem (f := fun b : UserBlock => (b.id,b.content)) hm
    rw [hdrop] at hmem
    obtain ⟨b,hbl,he⟩ := List.mem_map.mp hmem
    have hcontent : b.content = m.content := congrArg Prod.snd he
    rw [UserBlock.isBlank, ← hcontent]
    exact (List.mem_filter.mp hbl).2

/-- The second merge makes the same parts. -/
theorem mergedPieces_merge :
    mergedPieces (merge previous fresh) fresh = mergedPieces previous fresh := by
  have hfill := fill_of_aligned (aligned_merge hf hb hp) hd (closed_pieces hf)
    (blockCount_pieces hf) fun i p m hi hm => by
      rw [scan_merge hf hb hp] at hm
      exact withContent_content (sound_mergedPieces hf).closed.cut
        (getElem?_blockParts_mergedPieces hf hi) hm
  rw [mergedPieces, mergedPieces, hfill]
  exact withAppended_congr _ (leftOver_merge_merge hf hd hb hp)

omit hd in
/-- A merge that leaves no block had nothing to carry over. -/
lemma merge_eq_fresh (hm : (scan (merge previous fresh)).hasBlocks = false) :
    merge previous fresh = fresh := by
  have hlen := length_blocks_merge hf hb hp
  rw [Scan.hasBlocks, Bool.not_eq_false', List.isEmpty_iff] at hm
  rw [hm, List.length_nil, eq_comm, Nat.add_eq_zero_iff, List.length_eq_zero_iff,
    List.length_eq_zero_iff] at hlen
  have hparts : blockParts (pieces (Text.lines fresh)) = [] := by
    rw [← List.length_eq_zero_iff, length_blockParts, blockCount_pieces hf, hlen.1]
    rfl
  have hfill : fill (takenContents (scan previous).blocks (scan fresh).blocks)
      (pieces (Text.lines fresh)) = fill [] (pieces (Text.lines fresh)) := by
    apply fill_congr (closed_pieces hf)
    intro i p hi
    rw [hparts, List.getElem?_nil] at hi
    exact absurd hi (by simp)
  rw [merge_eq hf hb hp, mergedPieces, hlen.2, hfill, ofLines_fill_nil hf]

end

/-- One merge reaches the fixed point. -/
theorem merge_merge {fresh : String} (hf : (scan fresh).unterminated = none)
    (hd : ((scan fresh).blocks.map (·.id)).Nodup) (previous : String) :
    merge (merge previous fresh) fresh = merge previous fresh := by
  by_cases hu : (scan previous).unterminated.isSome = true
  · rw [merge_of_unterminated hu, merge_of_unterminated hu]
  have hp := Option.not_isSome_iff_eq_none.mp hu
  by_cases hb : (scan previous).hasBlocks = true
  · by_cases hm : (scan (merge previous fresh)).hasBlocks = true
    · rw [merge_eq hf hm (unterminated_merge hf hb hp), mergedPieces_merge hf hd hb hp,
        ← merge_eq hf hb hp]
    · have hm := eq_false_of_ne_true hm
      rw [merge_of_no_blocks (unterminated_merge hf hb hp) hm, merge_eq_fresh hf hb hp hm]
  · rw [merge_of_no_blocks hp (eq_false_of_ne_true hb), merge_self hf hd]

end DesignCompiler.UserBlocks
