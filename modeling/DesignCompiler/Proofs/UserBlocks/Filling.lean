import DesignCompiler.Proofs.UserBlocks.Scan
import DesignCompiler.UserBlocks.Merge

/-! New contents for the blocks of a text, and blocks that are appended to it. Both keep the parts
of the text apart, so the result is cut into the parts that were put into it. -/
namespace DesignCompiler.UserBlocks

/-- The part with a new content, if it is a block and there is one. -/
def Piece.withContent (c : Option (List String)) : Piece → Piece
  | .block start label content stop => .block start label (c.getD content) stop
  | p => p

@[simp] lemma Piece.withContent_none (p : Piece) : p.withContent none = p := by cases p <;> rfl

/-- The content for block `i`, if there is one. -/
def contentAt (cs : List (Option (List String))) (i : ℕ) : Option (List String) := cs[i]?.join

lemma fill_line (cs : List (Option (List String))) (text : String) (ps : List Piece) :
    fill cs (.line text :: ps) = .line text :: fill cs ps := by cases cs <;> rfl

lemma fill_block (cs : List (Option (List String))) (start : String) (label : Option String)
    (content : List String) (stop : String) (ps : List Piece) :
    fill cs (.block start label content stop :: ps) =
      .block start label ((contentAt cs 0).getD content) stop :: fill cs.tail ps := by
  cases cs <;> rfl

lemma contentAt_tail (cs : List (Option (List String))) (i : ℕ) :
    contentAt cs.tail i = contentAt cs (i + 1) := by
  rw [contentAt, contentAt, List.getElem?_tail]

lemma fill_eq_nil {cs : List (Option (List String))} {ps : List Piece} :
    fill cs ps = [] ↔ ps = [] := by
  cases ps with
  | nil => cases cs <;> simp [fill]
  | cons p ps => cases cs <;> cases p <;> simp [fill]

/-- The blocks of the filled parts are the blocks with their new contents, in order. -/
theorem blockParts_fill {ps : List Piece} (h : Closed ps) (cs : List (Option (List String))) :
    blockParts (fill cs ps) = (blockParts ps).mapIdx fun i p => p.withContent (contentAt cs i) := by
  induction ps generalizing cs with
  | nil => cases cs <;> rfl
  | cons p ps ih =>
    obtain ⟨hp,hps⟩ := closed_cons.mp h
    cases p with
    | line text => rw [fill_line, blockParts_line, blockParts_line, ih hps]
    | block start label content stop =>
      rw [fill_block, blockParts_block, blockParts_block, List.mapIdx_cons, ih hps]
      simp only [contentAt_tail]
      rfl
    | unclosed start content => exact hp.elim

theorem plainLines_fill {ps : List Piece} (h : Closed ps) (cs : List (Option (List String))) :
    plainLines (fill cs ps) = plainLines ps := by
  induction ps generalizing cs with
  | nil => cases cs <;> rfl
  | cons p ps ih =>
    obtain ⟨hp,hps⟩ := closed_cons.mp h
    cases p with
    | line text => rw [fill_line, plainLines_line, plainLines_line, ih hps]
    | block start label content stop =>
      rw [fill_block, plainLines_block, plainLines_block, ih hps]
    | unclosed start content => exact hp.elim

theorem sound_fill {ps : List Piece} (h : Sound ps) {cs : List (Option (List String))}
    (hcs : ∀ i c, contentAt cs i = some c → ∀ l ∈ c, isEnd l = false ∧ Text.OneLine l) :
    Sound (fill cs ps) := by
  induction ps generalizing cs with
  | nil => cases cs <;> exact sound_nil
  | cons p ps ih =>
    obtain ⟨hp,hps⟩ := sound_cons.mp h
    cases p with
    | line text =>
      rw [fill_line]
      exact sound_cons.mpr ⟨hp,ih hps hcs⟩
    | block start label content stop =>
      have htail : Sound (fill cs.tail ps) := by
        apply ih hps
        intro i c hc
        exact hcs (i+1) c (contentAt_tail cs i ▸ hc)
      rw [fill_block]
      refine sound_cons.mpr ⟨?_,htail⟩
      cases hc : contentAt cs 0 with
      | none => exact hp
      | some c =>
        obtain ⟨⟨hs,-,he⟩,hl⟩ := hp
        refine ⟨⟨hs,fun l hl => (hcs 0 c hc l hl).1,he⟩,?_⟩
        intro l hlc
        rcases List.mem_cons.mp hlc with rfl | hlc
        · exact hl _ List.mem_cons_self
        · rcases List.mem_append.mp hlc with hlc | hlc
          · exact (hcs 0 c hc l hlc).2
          · exact hl l (List.mem_cons_of_mem _ (List.mem_append_right _ hlc))
    | unclosed start content => exact hp.1.elim

/-- Contents that agree where there are blocks give the same parts. -/
theorem fill_congr {ps : List Piece} (h : Closed ps) {cs ds : List (Option (List String))}
    (hcd : ∀ (i : ℕ) (p : Piece), (blockParts ps)[i]? = some p →
      p.withContent (contentAt cs i) = p.withContent (contentAt ds i)) :
    fill cs ps = fill ds ps := by
  induction ps generalizing cs ds with
  | nil => cases cs <;> cases ds <;> rfl
  | cons p ps ih =>
    obtain ⟨hp,hps⟩ := closed_cons.mp h
    cases p with
    | line text =>
      rw [fill_line, fill_line, ih hps hcd]
    | block start label content stop =>
      have h0 := hcd 0 _ rfl
      have ht : fill cs.tail ps = fill ds.tail ps := by
        apply ih hps
        intro i p hi
        rw [contentAt_tail, contentAt_tail]
        exact hcd (i+1) p hi
      rw [fill_block, fill_block, ht]
      exact congrArg (· :: fill ds.tail ps) h0
    | unclosed start content => exact hp.elim

lemma fill_nil {ps : List Piece} (h : Closed ps) : fill [] ps = ps := by
  induction ps with
  | nil => rfl
  | cons p ps ih =>
    obtain ⟨hp,hps⟩ := closed_cons.mp h
    cases p with
    | line text => rw [fill_line, ih hps]
    | block start label content stop =>
      rw [fill_block]
      exact congrArg _ (ih hps)
    | unclosed start content => exact hp.elim

/-- The parts without an empty line at the end. -/
def withoutFinalEmpty (ps : List Piece) : List Piece :=
  if ps.getLast? = some (.line "") then ps.dropLast else ps

lemma withoutFinalEmpty_cases (ps : List Piece) :
    withoutFinalEmpty ps ++ [.line ""] = ps ∨ withoutFinalEmpty ps = ps := by
  unfold withoutFinalEmpty
  split
  · next h => exact .inl (List.dropLast_append_getLast? _ h)
  · exact .inr rfl

lemma blockParts_withoutFinalEmpty (ps : List Piece) :
    blockParts (withoutFinalEmpty ps) = blockParts ps := by
  rcases withoutFinalEmpty_cases ps with h | h
  · conv_rhs => rw [← h, blockParts_append]
    simp
  · rw [h]

lemma sound_withoutFinalEmpty {ps : List Piece} (h : Sound ps) : Sound (withoutFinalEmpty ps) := by
  rcases withoutFinalEmpty_cases ps with he | he
  · rw [← he, sound_append] at h
    exact h.1
  · rwa [he]

/-- An end marker is not empty, so an empty last line stands outside of blocks. -/
theorem linesOf_withoutFinalEmpty {ps : List Piece} (h : Closed ps) :
    linesOf (withoutFinalEmpty ps) = dropFinalEmpty (linesOf ps) := by
  rcases List.eq_nil_or_concat' ps with rfl | ⟨qs,p,rfl⟩
  · rfl
  · have hp := (closed_append.mp h).2 p List.mem_cons_self
    cases p with
    | line text =>
      by_cases ht : text = ""
      · subst ht
        simp [withoutFinalEmpty, dropFinalEmpty, Piece.lines]
      · simp [withoutFinalEmpty, dropFinalEmpty, Piece.lines, ht]
    | block start label content stop =>
      have hne : stop ≠ "" := by
        rintro rfl
        exact Bool.false_ne_true (isEnd_empty.symm.trans hp.2.2)
      have hl : linesOf (qs ++ [.block start label content stop]) =
          linesOf qs ++ start :: content ++ [stop] := by
        simp [Piece.lines]
      rw [withoutFinalEmpty, dropFinalEmpty, hl, List.getLast?_concat, List.getLast?_concat,
        if_neg (by simp), if_neg (by simp [hne]), hl]
    | unclosed start content => exact hp.elim

/-- A block as it is appended, with its identity for a label. -/
def appended (b : UserBlock) : Piece :=
  .block (startLine (some b.id) "") (some b.id) b.content (endLine "")

/-- The parts with blocks appended to them, and an empty line at the end. -/
def withAppended (ps : List Piece) : List UserBlock → List Piece
  | [] => ps
  | b :: bs => withoutFinalEmpty ps ++ (b :: bs).map appended ++ [.line ""]

/-- Only identities and contents of appended blocks count. -/
lemma withAppended_congr (ps : List Piece) {bs cs : List UserBlock}
    (h : bs.map appended = cs.map appended) : withAppended ps bs = withAppended ps cs := by
  cases bs with
  | nil =>
    rw [List.map_eq_nil_iff.mp h.symm]
  | cons b bs =>
    cases cs with
    | nil => contradiction
    | cons c cs => rw [withAppended, withAppended, h]

lemma withAppended_eq_nil {ps : List Piece} {bs : List UserBlock} (h : withAppended ps bs = []) :
    ps = [] := by
  cases bs with
  | nil => exact h
  | cons b bs => simp [withAppended] at h

lemma appendBlock_eq (ls : List String) (b : UserBlock) :
    appendBlock ls b = (dropFinalEmpty ls ++ (appended b).lines) ++ [""] := by
  simp [appendBlock, appended, Piece.lines]

lemma foldl_appendBlock (ls : List String) (bs : List UserBlock) :
    bs.foldl appendBlock (ls ++ [""]) = ls ++ linesOf (bs.map appended) ++ [""] := by
  induction bs generalizing ls with
  | nil => simp
  | cons b bs ih =>
    have hd : dropFinalEmpty (ls ++ [""]) = ls := by simp [dropFinalEmpty]
    rw [List.foldl_cons, appendBlock_eq, hd, ih, List.map_cons, linesOf_cons]
    simp only [List.append_assoc]

theorem linesOf_withAppended {ps : List Piece} (h : Closed ps) (bs : List UserBlock) :
    linesOf (withAppended ps bs) = bs.foldl appendBlock (linesOf ps) := by
  cases bs with
  | nil => rfl
  | cons b bs =>
    rw [List.foldl_cons, appendBlock_eq, foldl_appendBlock, ← linesOf_withoutFinalEmpty h,
      withAppended]
    simp [Piece.lines]

theorem blockParts_withAppended (ps : List Piece) (bs : List UserBlock) :
    blockParts (withAppended ps bs) = blockParts ps ++ bs.map appended := by
  have ha : blockParts (bs.map appended) = bs.map appended := by
    apply List.filter_eq_self.mpr
    intro p hp
    obtain ⟨b,-,rfl⟩ := List.mem_map.mp hp
    rfl
  cases bs with
  | nil => simp [withAppended]
  | cons b bs =>
    rw [withAppended, blockParts_append, blockParts_append, blockParts_withoutFinalEmpty, ha]
    simp

/-- Appending adds at most an empty line at the end to the lines outside of blocks. -/
theorem plainLines_withAppended (ps : List Piece) (bs : List UserBlock) :
    plainLines (withAppended ps bs) = plainLines ps ∨
      plainLines (withAppended ps bs) = plainLines ps ++ [""] := by
  have ha : plainLines (bs.map appended) = [] := by
    apply List.filterMap_eq_nil_iff.mpr
    intro p hp
    obtain ⟨b,-,rfl⟩ := List.mem_map.mp hp
    rfl
  cases bs with
  | nil => exact .inl rfl
  | cons b bs =>
    rw [withAppended, plainLines_append, plainLines_append, ha, List.append_nil]
    rcases withoutFinalEmpty_cases ps with h | h
    · left
      conv_rhs => rw [← h, plainLines_append]
    · right
      rw [h]
      rfl

theorem sound_withAppended {ps : List Piece} (h : Sound ps) {bs : List UserBlock}
    (hid : ∀ b ∈ bs, IsLabel b.id)
    (hc : ∀ b ∈ bs, ∀ l ∈ b.content, isEnd l = false ∧ Text.OneLine l) :
    Sound (withAppended ps bs) := by
  have ha : Sound (bs.map appended) := by
    intro p hp
    obtain ⟨b,hb,rfl⟩ := List.mem_map.mp hp
    have hlabel : ∀ l ∈ some b.id, IsLabel l := by
      rintro l ⟨⟩
      exact hid b hb
    refine ⟨⟨parseStart_startLine rfl hlabel,fun l hl => (hc b hb l hl).1,isEnd_endLine rfl⟩,?_⟩
    intro l hl
    rcases List.mem_cons.mp hl with rfl | hl
    · exact oneLine_startLine Text.oneLine_empty fun l hl => (hlabel l hl).oneLine
    · rcases List.mem_append.mp hl with hl | hl
      · exact (hc b hb l hl).2
      · rw [List.mem_singleton.mp hl]
        exact oneLine_endLine Text.oneLine_empty
  have he : Sound [.line ""] := by
    refine sound_cons.mpr ⟨⟨parseStart_empty,?_⟩,sound_nil⟩
    intro l hl
    rw [List.mem_singleton.mp hl]
    exact Text.oneLine_empty
  cases bs with
  | nil => exact h
  | cons b bs =>
    exact sound_append.mpr ⟨sound_append.mpr ⟨sound_withoutFinalEmpty h,ha⟩,he⟩

end DesignCompiler.UserBlocks
