import DesignCompiler.Proofs.UserBlocks.Scan

/-! Where the blocks of a text stand: their ranges of lines do not meet, and the lines outside of
them are the plain lines of the text. -/
namespace DesignCompiler.UserBlocks

/-- A start marker stands on line `i`. -/
def OpensAt (ls : List String) (i : ℕ) : Prop :=
  ∃ l label, ls[i]? = some l ∧ parseStart l = some label

/-- An end marker stands on line `i`. -/
def EndsAt (ls : List String) (i : ℕ) : Prop := ∃ l, ls[i]? = some l ∧ isEnd l = true

/-- Line `i` belongs to the block, its markers included. -/
def UserBlock.Covers (b : UserBlock) (i : ℕ) : Prop := b.start ≤ i ∧ i ≤ b.stop

instance (b : UserBlock) (i : ℕ) : Decidable (b.Covers i) := inferInstanceAs (Decidable (_ ∧ _))

/-- The block runs from a start marker to the first end marker after it. -/
structure Framed (ls : List String) (b : UserBlock) : Prop where
  opens : ∃ l, ls[b.start]? = some l ∧ parseStart l = some b.label
  start_lt_stop : b.start < b.stop
  ends : EndsAt ls b.stop
  first_end : ∀ i, b.start < i → i < b.stop → ¬ EndsAt ls i
  content : b.content = ls.extract (b.start + 1) b.stop

lemma framed_of_split {before after : List Piece} {start stop : String} {b : UserBlock}
    (hp : (Piece.block start b.label b.content stop).Proper)
    (hs : b.start = (linesOf before).length) (he : b.stop = b.start + b.content.length + 1) :
    Framed (linesOf (before ++ .block start b.label b.content stop :: after)) b := by
  obtain ⟨hstart,hcontent,hstop⟩ := hp
  have hget : ∀ i,
      (linesOf before ++ (start :: (b.content ++ stop :: linesOf after)))[b.start + i]? =
        (start :: (b.content ++ stop :: linesOf after))[i]? :=
    fun i => hs ▸ getElem?_linesOf_append before _ i
  rw [linesOf_split]
  refine ⟨⟨start,?_,hstart⟩,by omega,⟨stop,?_,hstop⟩,?_,?_⟩
  · exact hget 0
  · rw [he, Nat.add_assoc, hget, List.getElem?_cons_succ, List.getElem?_append_right le_rfl,
      Nat.sub_self]
    rfl
  · rintro i hlo hhi ⟨l,hl,hend⟩
    obtain ⟨j,rfl⟩ : ∃ j, i = b.start + (j + 1) := ⟨i - b.start - 1,by omega⟩
    rw [hget, List.getElem?_cons_succ, List.getElem?_append_left (by omega)] at hl
    rw [hcontent l (List.mem_of_getElem? hl)] at hend
    contradiction
  · have hd : b.stop - (b.start + 1) = b.content.length := by omega
    rw [List.extract_eq_take_drop, hd, hs, ← List.drop_drop, List.drop_left]
    exact List.take_left.symm

/-- Each block of a text is framed by its markers. -/
theorem framed_of_mem_blocks {text : String} {b : UserBlock} (h : b ∈ (scan text).blocks) :
    Framed (Text.lines text) b := by
  obtain ⟨i,hi⟩ := List.mem_iff_getElem?.mp h
  obtain ⟨before,start,stop,after,hps,-,-,hp,-,hs,he⟩ := exists_split_of_getElem? (cut_pieces _) hi
  rw [← linesOf_pieces (Text.lines text), hps]
  exact framed_of_split hp (by omega) he

lemma le_start_of_mem {ps : List Piece} (h : Cut ps) {n k : ℕ} {b : UserBlock}
    (hb : b ∈ (scanPieces n k ps).blocks) : k ≤ b.start := by
  obtain ⟨i,hi⟩ := List.mem_iff_getElem?.mp hb
  obtain ⟨before,start,stop,after,-,-,-,-,-,hs,-⟩ := exists_split_of_getElem? h hi
  omega

theorem pairwise_blocks {ps : List Piece} (h : Cut ps) (n k : ℕ) :
    (scanPieces n k ps).blocks.Pairwise (fun a b => a.stop < b.start) := by
  induction h generalizing n k with
  | nil => exact .nil
  | unclosed ho hi => exact .nil
  | @cons p ps hp hr ih =>
    cases p with
    | line text => exact ih n (k+1)
    | block start label content stop =>
      refine List.pairwise_cons.mpr ⟨?_,ih _ _⟩
      intro b hb
      exact Nat.lt_of_succ_le (le_start_of_mem hr hb)
    | unclosed start content => exact hp.elim

/-- A start marker outside of the blocks stands on the line of the open block or after it. -/
theorem opensAt_scanPieces {ps : List Piece} (h : Cut ps) (n k : ℕ) {i : ℕ}
    (ho : OpensAt (linesOf ps) i) :
    (∃ b ∈ (scanPieces n k ps).blocks, b.Covers (k + i)) ∨
      ∃ u, (scanPieces n k ps).unterminated = some u ∧ u ≤ k + i := by
  induction h generalizing n k i with
  | nil =>
    obtain ⟨l,label,hl,-⟩ := ho
    simp at hl
  | unclosed hs hc => exact .inr ⟨k,rfl,by omega⟩
  | @cons p ps hp hr ih =>
    cases p with
    | line text =>
      cases i with
      | zero =>
        obtain ⟨l,label,hl,hlabel⟩ := ho
        change some text = some l at hl
        rw [← Option.some.inj hl, show parseStart text = none from hp] at hlabel
        contradiction
      | succ i =>
        have ht := ih n (k+1) (i := i) ho
        rwa [Nat.add_assoc, Nat.add_comm 1 i] at ht
    | block start label content stop =>
      by_cases hi : i < content.length + 2
      · refine .inl ⟨_,List.mem_cons_self,?_,?_⟩ <;> dsimp only <;> omega
      · obtain ⟨j,rfl⟩ : ∃ j, i = content.length + 2 + j := ⟨i - (content.length + 2),by omega⟩
        have hlen : (Piece.block start label content stop).lines.length = content.length + 2 := by
          simp [Piece.lines]
        have ho' : OpensAt (linesOf ps) j := by
          obtain ⟨l,label',hl,hlabel⟩ := ho
          rw [linesOf_cons, ← hlen, List.getElem?_append_right (by omega),
            Nat.add_sub_cancel_left] at hl
          exact ⟨l,label',hl,hlabel⟩
        have hk : k + content.length + 1 + 1 + j = k + (content.length + 2 + j) := by omega
        rcases ih (n+1) (k + content.length + 1 + 1) ho' with ⟨b,hb,hcov⟩ | ⟨u,hu,hle⟩
        · exact .inl ⟨b,List.mem_cons_of_mem _ hb,hk ▸ hcov⟩
        · exact .inr ⟨u,hu,hk ▸ hle⟩
    | unclosed start content => exact hp.elim

lemma stop_lt_of_mem {ps : List Piece} (h : Cut ps) {n k : ℕ} {b : UserBlock}
    (hb : b ∈ (scanPieces n k ps).blocks) : b.stop < k + (linesOf ps).length := by
  obtain ⟨i,hi⟩ := List.mem_iff_getElem?.mp hb
  obtain ⟨before,start,stop,after,rfl,-,-,-,-,hs,he⟩ := exists_split_of_getElem? h hi
  rw [linesOf_append, List.length_append, length_linesOf_block]
  omega

/-- The open block begins after all blocks with a start marker, and no end marker follows it. -/
theorem open_of_unterminated {text : String} {u : ℕ} (h : (scan text).unterminated = some u) :
    OpensAt (Text.lines text) u ∧ (∀ b ∈ (scan text).blocks, b.stop < u) ∧
      ∀ i, u < i → ¬ EndsAt (Text.lines text) i := by
  unfold scan at h ⊢
  rcases (cut_pieces (Text.lines text)).closed_or_open with
    hc | ⟨before,start,label,content,hp,hb,hs,hc⟩
  · rw [unterminated_scanPieces hc] at h
    contradiction
  · have hls : Text.lines text = linesOf before ++ start :: content := by
      rw [← linesOf_pieces (Text.lines text), hp, linesOf_append]
      simp [Piece.lines]
    rw [hp, unterminated_append_unclosed hb, Nat.zero_add, Option.some.injEq] at h
    subst h
    rw [hp, hls]
    refine ⟨⟨start,label,?_,hs⟩,?_,?_⟩
    · exact getElem?_linesOf_append before _ 0
    · intro b hmem
      rw [scanPieces_append hb] at hmem
      have hlt := stop_lt_of_mem hb.cut (List.append_nil _ ▸ hmem)
      omega
    · rintro i hi ⟨l,hl,hend⟩
      obtain ⟨j,rfl⟩ : ∃ j, i = (linesOf before).length + (j + 1) :=
        ⟨i - (linesOf before).length - 1,by omega⟩
      rw [getElem?_linesOf_append, List.getElem?_cons_succ] at hl
      rw [hc l (List.mem_of_getElem? hl)] at hend
      contradiction

/-- The block that is never closed begins with the first start marker after all blocks. -/
theorem unterminated_eq_some_iff (text : String) (u : ℕ) :
    (scan text).unterminated = some u ↔
      OpensAt (Text.lines text) u ∧ (∀ b ∈ (scan text).blocks, b.stop < u) ∧
      (∀ i, u < i → ¬ EndsAt (Text.lines text) i) ∧
      ∀ i, OpensAt (Text.lines text) i → (∀ b ∈ (scan text).blocks, b.stop < i) → u ≤ i := by
  have hopen : ∀ i, OpensAt (Text.lines text) i → (∀ b ∈ (scan text).blocks, b.stop < i) →
      ∃ v, (scan text).unterminated = some v ∧ v ≤ i := by
    intro i hi hafter
    rw [← linesOf_pieces (Text.lines text)] at hi
    have h := opensAt_scanPieces (cut_pieces _) 0 0 hi
    rw [Nat.zero_add] at h
    rcases h with ⟨b,hb,-,hle⟩ | h
    · exact absurd (hafter b hb) (Nat.not_lt.mpr hle)
    · exact h
  constructor
  · intro h
    obtain ⟨ho,hafter,hend⟩ := open_of_unterminated h
    refine ⟨ho,hafter,hend,?_⟩
    intro i hi hb
    obtain ⟨v,hv,hle⟩ := hopen i hi hb
    rw [h, Option.some.injEq] at hv
    omega
  · rintro ⟨ho,hafter,-,hfirst⟩
    obtain ⟨v,hv,hle⟩ := hopen u ho hafter
    obtain ⟨hov,hbv,-⟩ := open_of_unterminated hv
    have hge := hfirst v hov hbv
    rw [hv, Nat.le_antisymm hle hge]

/-- Of numbered lines those that belong to none of the blocks. -/
def linesOutside (bs : List UserBlock) (numbered : List (String × ℕ)) : List String :=
  (numbered.filter fun l => decide (∀ b ∈ bs, ¬ b.Covers l.2)).map (·.1)

/-- The lines of a text that belong to no block. -/
def outsideLines (text : String) : List String :=
  linesOutside (scan text).blocks (Text.lines text).zipIdx

lemma linesOutside_append (bs : List UserBlock) (xs ys : List (String × ℕ)) :
    linesOutside bs (xs ++ ys) = linesOutside bs xs ++ linesOutside bs ys := by
  simp [linesOutside]

/-- A block that covers none of the lines has no say about them. -/
lemma linesOutside_cons_of_not_covers {b : UserBlock} {bs : List UserBlock}
    {numbered : List (String × ℕ)} (h : ∀ l ∈ numbered, ¬ b.Covers l.2) :
    linesOutside (b :: bs) numbered = linesOutside bs numbered := by
  unfold linesOutside
  congr 1
  apply List.filter_congr
  intro l hl
  rw [decide_eq_decide, List.forall_mem_cons]
  exact and_iff_right (h l hl)

lemma linesOutside_cons_of_covers {b : UserBlock} {bs : List UserBlock}
    {numbered : List (String × ℕ)} (h : ∀ l ∈ numbered, b.Covers l.2) :
    linesOutside (b :: bs) numbered = [] := by
  unfold linesOutside
  rw [List.map_eq_nil_iff, List.filter_eq_nil_iff]
  intro l hl hd
  exact of_decide_eq_true hd b List.mem_cons_self (h l hl)

theorem linesOutside_scanPieces {ps : List Piece} (h : Closed ps) (n k : ℕ) :
    linesOutside (scanPieces n k ps).blocks ((linesOf ps).zipIdx k) = plainLines ps := by
  induction ps generalizing n k with
  | nil => rfl
  | cons p ps ih =>
    obtain ⟨hp,hps⟩ := closed_cons.mp h
    cases p with
    | line text =>
      have hk : ∀ b ∈ (scanPieces n (k+1) ps).blocks, ¬ b.Covers k := by
        rintro b hb ⟨hle,-⟩
        have hge := le_start_of_mem hps.cut hb
        omega
      have hone : linesOutside (scanPieces n (k+1) ps).blocks [(text,k)] = [text] := by
        rw [linesOutside, List.filter_cons_of_pos]
        · rfl
        · exact decide_eq_true hk
      change linesOutside (scanPieces n (k+1) ps).blocks
        ([(text,k)] ++ (linesOf ps).zipIdx (k+1)) = text :: plainLines ps
      rw [linesOutside_append, hone, ih hps]
      rfl
    | block start label content stop =>
      have hlen : (Piece.block start label content stop).lines.length = content.length + 2 := by
        simp [Piece.lines]
      rw [linesOf_cons, List.zipIdx_append, linesOutside_append, hlen, scanPieces,
        linesOutside_cons_of_covers, linesOutside_cons_of_not_covers, plainLines_block]
      · exact ih hps (n+1) (k + content.length + 1 + 1)
      · rintro ⟨l,i⟩ hi ⟨-,hle⟩
        have hlo := (List.mem_zipIdx hi).1
        dsimp only at hle
        omega
      · rintro ⟨l,i⟩ hi
        obtain ⟨hlo,hhi,-⟩ := List.mem_zipIdx hi
        rw [hlen] at hhi
        refine ⟨hlo,?_⟩
        dsimp only
        omega
    | unclosed start content => exact hp.elim

/-- The lines outside of blocks are the plain parts of the text. -/
theorem outsideLines_eq {text : String} (h : (scan text).unterminated = none) :
    outsideLines text = plainLines (pieces (Text.lines text)) := by
  have hl := linesOutside_scanPieces (closed_pieces h) 0 0
  rwa [linesOf_pieces] at hl

end DesignCompiler.UserBlocks
