import DesignCompiler.UserBlocks.Marker

/-! A text cut into plain lines and user blocks. Inside a block only the end marker counts, so a
second start marker is a line of the block. -/

namespace DesignCompiler.UserBlocks

/-- A part of a text. Both marker lines of a block are kept as they stand; a block that is never
closed takes all lines to the end of the text. -/
inductive Piece where
  | line (text : String)
  | block (start : String) (label : Option String) (content : List String) (stop : String)
  | unclosed (start : String) (content : List String)
  deriving DecidableEq, Repr

namespace Piece

/-- The lines of a part. -/
def lines : Piece → List String
  | line text => [text]
  | block start _ content stop => start :: content ++ [stop]
  | unclosed start content => start :: content

end Piece

/-- Where a reader of lines stands: outside of blocks, or after a start marker with the lines of
the block so far. -/
inductive Position where
  | outside
  | inside (start : String) (label : Option String) (content : List String)

/-- Cut lines into parts. -/
def piecesFrom : Position → List String → List Piece
  | .outside, [] => []
  | .inside start _ content, [] => [.unclosed start content]
  | .outside, l :: ls =>
    match parseStart l with
    | some label => piecesFrom (.inside l label []) ls
    | none => .line l :: piecesFrom .outside ls
  | .inside start label content, l :: ls =>
    if isEnd l then .block start label content l :: piecesFrom .outside ls
    else piecesFrom (.inside start label (content ++ [l])) ls

/-- Cut the lines of a text into parts. -/
def pieces (ls : List String) : List Piece := piecesFrom .outside ls

/-- The lines of the parts. -/
def linesOf (ps : List Piece) : List String := ps.flatMap Piece.lines

/-- The lines that a position has already taken. -/
def Position.taken : Position → List String
  | .outside => []
  | .inside start _ content => start :: content

theorem linesOf_piecesFrom (p : Position) (ls : List String) :
    linesOf (piecesFrom p ls) = p.taken ++ ls := by
  fun_induction piecesFrom p ls <;>
    simp_all [linesOf, Piece.lines, Position.taken]

/-- Cutting a text into parts loses nothing. -/
@[simp] theorem linesOf_pieces (ls : List String) : linesOf (pieces ls) = ls := by
  simp [pieces, linesOf_piecesFrom, Position.taken]

end DesignCompiler.UserBlocks
