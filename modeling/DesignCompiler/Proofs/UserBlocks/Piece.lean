import DesignCompiler.Proofs.UserBlocks.Marker
import DesignCompiler.UserBlocks.Piece

/-! Which lists of parts a text is cut into. Cutting is the inverse of putting such parts together,
so a list of parts with proper markers is known from its lines alone. -/
namespace DesignCompiler.UserBlocks

namespace Piece

/-- A plain line, or a closed block whose marker lines are read as such. -/
def Proper : Piece → Prop
  | line text => parseStart text = none
  | block start label content stop =>
    parseStart start = some label ∧ (∀ l ∈ content, isEnd l = false) ∧ isEnd stop = true
  | unclosed _ _ => False

def isBlock : Piece → Bool
  | block _ _ _ _ => true
  | _ => false

def plain? : Piece → Option String
  | line text => some text
  | _ => none

end Piece

/-- Parts of a text in which every block is closed. -/
def Closed (ps : List Piece) : Prop := ∀ p ∈ ps, p.Proper

/-- What a text is cut into: proper parts, and at the end perhaps a block that is never closed. -/
inductive Cut : List Piece → Prop
  | nil : Cut []
  | cons {p : Piece} {ps : List Piece} (proper : p.Proper) (rest : Cut ps) : Cut (p :: ps)
  | unclosed {start : String} {label : Option String} {content : List String}
    (opened : parseStart start = some label) (inner : ∀ l ∈ content, isEnd l = false) :
    Cut [.unclosed start content]

/-- The number of closed blocks. -/
def blockCount (ps : List Piece) : Nat := ps.countP Piece.isBlock

/-- The lines outside of closed blocks and before the block that is never closed. -/
def plainLines (ps : List Piece) : List String := ps.filterMap Piece.plain?

/-- The closed blocks among the parts. -/
def blockParts (ps : List Piece) : List Piece := ps.filter Piece.isBlock

/-- Closed parts whose lines hold no line feed, so that they can be written into a text. -/
def Sound (ps : List Piece) : Prop := ∀ p ∈ ps, p.Proper ∧ ∀ l ∈ p.lines, Text.OneLine l

@[simp] lemma closed_nil : Closed [] := by simp [Closed]

@[simp] lemma closed_cons {p : Piece} {ps : List Piece} :
    Closed (p :: ps) ↔ p.Proper ∧ Closed ps := List.forall_mem_cons

@[simp] lemma closed_append {ps qs : List Piece} :
    Closed (ps ++ qs) ↔ Closed ps ∧ Closed qs := List.forall_mem_append

@[simp] lemma linesOf_nil : linesOf [] = [] := rfl
@[simp] lemma linesOf_cons (p : Piece) (ps : List Piece) :
    linesOf (p :: ps) = p.lines ++ linesOf ps := rfl
@[simp] lemma linesOf_append (ps qs : List Piece) :
    linesOf (ps ++ qs) = linesOf ps ++ linesOf qs := List.flatMap_append

lemma linesOf_eq_nil {ps : List Piece} : linesOf ps = [] ↔ ps = [] := by
  constructor
  · intro h
    cases ps with
    | nil => rfl
    | cons p ps => cases p <;> simp [Piece.lines] at h
  · rintro rfl
    rfl

lemma linesOf_split (before : List Piece) (start : String) (label : Option String)
    (content : List String) (stop : String) (after : List Piece) :
    linesOf (before ++ .block start label content stop :: after) =
      linesOf before ++ (start :: (content ++ stop :: linesOf after)) := by
  simp [Piece.lines]

/-- A line number that counts on from the lines of some parts. -/
lemma getElem?_linesOf_append (before : List Piece) (ls : List String) (i : ℕ) :
    (linesOf before ++ ls)[(linesOf before).length + i]? = ls[i]? := by
  rw [List.getElem?_append_right (Nat.le_add_right _ _), Nat.add_sub_cancel_left]

lemma length_linesOf_line (text : String) (ps : List Piece) :
    (linesOf (.line text :: ps)).length = 1 + (linesOf ps).length := by
  rw [linesOf_cons, List.length_append]
  rfl
lemma length_linesOf_block (start : String) (label : Option String) (content : List String)
    (stop : String) (ps : List Piece) :
    (linesOf (.block start label content stop :: ps)).length =
      content.length + 2 + (linesOf ps).length := by
  rw [linesOf_cons, List.length_append]
  simp [Piece.lines]

@[simp] lemma blockCount_line (text : String) (ps : List Piece) :
    blockCount (.line text :: ps) = blockCount ps :=
  List.countP_cons_of_neg Bool.false_ne_true
@[simp] lemma blockCount_block (start : String) (label : Option String) (content : List String)
    (stop : String) (ps : List Piece) :
    blockCount (.block start label content stop :: ps) = blockCount ps + 1 :=
  List.countP_cons_of_pos rfl

@[simp] lemma blockParts_nil : blockParts [] = [] := rfl
@[simp] lemma blockParts_append (ps qs : List Piece) :
    blockParts (ps ++ qs) = blockParts ps ++ blockParts qs := List.filter_append _ _
@[simp] lemma blockParts_line (text : String) (ps : List Piece) :
    blockParts (.line text :: ps) = blockParts ps :=
  List.filter_cons_of_neg Bool.false_ne_true
@[simp] lemma blockParts_block (start : String) (label : Option String) (content : List String)
    (stop : String) (ps : List Piece) :
    blockParts (.block start label content stop :: ps) =
      .block start label content stop :: blockParts ps := List.filter_cons_of_pos rfl
@[simp] lemma length_blockParts (ps : List Piece) : (blockParts ps).length = blockCount ps :=
  List.countP_eq_length_filter.symm
@[simp] lemma plainLines_line (text : String) (ps : List Piece) :
    plainLines (.line text :: ps) = text :: plainLines ps := rfl
@[simp] lemma plainLines_block (start : String) (label : Option String) (content : List String)
    (stop : String) (ps : List Piece) :
    plainLines (.block start label content stop :: ps) = plainLines ps := rfl
@[simp] lemma plainLines_append (ps qs : List Piece) :
    plainLines (ps ++ qs) = plainLines ps ++ plainLines qs := List.filterMap_append

@[simp] lemma sound_nil : Sound [] := by simp [Sound]

@[simp] lemma sound_cons {p : Piece} {ps : List Piece} :
    Sound (p :: ps) ↔ (p.Proper ∧ ∀ l ∈ p.lines, Text.OneLine l) ∧ Sound ps := List.forall_mem_cons

@[simp] lemma sound_append {ps qs : List Piece} :
    Sound (ps ++ qs) ↔ Sound ps ∧ Sound qs := List.forall_mem_append

lemma Sound.closed {ps : List Piece} (h : Sound ps) : Closed ps := fun p hp => (h p hp).1

lemma Sound.oneLine {ps : List Piece} (h : Sound ps) : ∀ l ∈ linesOf ps, Text.OneLine l := by
  intro l hl
  obtain ⟨p,hp,hlp⟩ := List.mem_flatMap.mp hl
  exact (h p hp).2 l hlp

lemma Closed.sound {ps : List Piece} (h : Closed ps) (hl : ∀ l ∈ linesOf ps, Text.OneLine l) :
    Sound ps :=
  fun p hp => ⟨h p hp,fun l hlp => hl l (List.mem_flatMap.mpr ⟨p,hp,hlp⟩)⟩

theorem Closed.cut {ps : List Piece} (h : Closed ps) : Cut ps := by
  induction ps with
  | nil => exact .nil
  | cons p ps ih =>
    obtain ⟨hp,hps⟩ := closed_cons.mp h
    exact .cons hp (ih hps)

/-- Only the last part can be a block that is never closed. -/
theorem Cut.closed_or_open {ps : List Piece} (h : Cut ps) :
    Closed ps ∨ ∃ before start label content, ps = before ++ [.unclosed start content] ∧
      Closed before ∧ parseStart start = some label ∧ ∀ l ∈ content, isEnd l = false := by
  induction h with
  | nil => exact .inl closed_nil
  | @unclosed start label content hs hc =>
    exact .inr ⟨[],start,label,content,rfl,closed_nil,hs,hc⟩
  | @cons p ps hp hr ih =>
    rcases ih with hc | ⟨before,start,label,content,rfl,hb,hs,hc⟩
    · exact .inl (closed_cons.mpr ⟨hp,hc⟩)
    · exact .inr ⟨p :: before,start,label,content,rfl,closed_cons.mpr ⟨hp,hb⟩,hs,hc⟩

lemma piecesFrom_inside_append (start : String) (label : Option String)
    (content more ls : List String) (h : ∀ l ∈ more, isEnd l = false) :
    piecesFrom (.inside start label content) (more ++ ls) =
      piecesFrom (.inside start label (content ++ more)) ls := by
  induction more generalizing content with
  | nil => simp
  | cons l more ih =>
    obtain ⟨hl,hm⟩ := List.forall_mem_cons.mp h
    rw [List.cons_append, piecesFrom, if_neg (by simp [hl]), ih _ hm, List.append_assoc]
    rfl

/-- The lines of a proper part are cut off as that part. -/
theorem pieces_lines_append {p : Piece} (hp : p.Proper) (ls : List String) :
    pieces (p.lines ++ ls) = p :: pieces ls := by
  cases p with
  | line text =>
    change piecesFrom .outside (text :: ls) = _
    rw [piecesFrom, show parseStart text = none from hp]
    rfl
  | block start label content stop =>
    obtain ⟨hs,hc,he⟩ := hp
    change piecesFrom .outside (start :: (content ++ [stop] ++ ls)) = _
    rw [piecesFrom, hs, List.append_assoc]
    change piecesFrom (.inside start label []) _ = _
    rw [piecesFrom_inside_append _ _ _ _ _ hc, List.nil_append, List.singleton_append, piecesFrom,
      if_pos he]
    rfl
  | unclosed start content => exact hp.elim

theorem pieces_linesOf_append {ps : List Piece} (h : Closed ps) (ls : List String) :
    pieces (linesOf ps ++ ls) = ps ++ pieces ls := by
  induction ps with
  | nil => rfl
  | cons p ps ih =>
    obtain ⟨hp,hps⟩ := closed_cons.mp h
    rw [linesOf_cons, List.append_assoc, pieces_lines_append hp, ih hps]
    rfl

/-- Closed parts are found again in their lines. -/
theorem pieces_linesOf {ps : List Piece} (h : Closed ps) : pieces (linesOf ps) = ps := by
  have hp := pieces_linesOf_append h []
  rwa [List.append_nil, show pieces [] = [] from rfl, List.append_nil] at hp

/-- A position that a reader of lines can be in. -/
def Position.Reached : Position → Prop
  | .outside => True
  | .inside start label content =>
    parseStart start = some label ∧ ∀ l ∈ content, isEnd l = false

theorem cut_piecesFrom {p : Position} (hp : p.Reached) (ls : List String) :
    Cut (piecesFrom p ls) := by
  induction ls generalizing p with
  | nil =>
    cases p with
    | outside => exact .nil
    | inside start label content => exact .unclosed hp.1 hp.2
  | cons l ls ih =>
    cases p with
    | outside =>
      rw [piecesFrom]
      split
      · next label hl => exact ih ⟨hl,by simp⟩
      · next hl => exact .cons hl (ih trivial)
    | inside start label content =>
      rw [piecesFrom]
      split
      · next he => exact .cons ⟨hp.1,hp.2,he⟩ (ih trivial)
      · next he =>
        refine ih ⟨hp.1,?_⟩
        intro c hc
        rcases List.mem_append.mp hc with hc | hc
        · exact hp.2 c hc
        · rw [List.mem_singleton.mp hc]
          exact eq_false_of_ne_true he

/-- Whatever the lines are, this is the form of their parts. -/
theorem cut_pieces (ls : List String) : Cut (pieces ls) :=
  cut_piecesFrom (p := .outside) trivial ls

end DesignCompiler.UserBlocks
