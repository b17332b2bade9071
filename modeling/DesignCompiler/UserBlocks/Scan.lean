import DesignCompiler.Text.Lines
import DesignCompiler.UserBlocks.Piece

/-! The user blocks of a text, each with an identity and its place. -/

namespace DesignCompiler.UserBlocks

/-- A closed user block. Its identity is its label, or `block_N` for the block number `N` of the
text, counted from zero. `start` and `stop` are the line numbers of the markers. -/
structure UserBlock where
  id : String
  label : Option String
  content : List String
  start : Nat
  stop : Nat
  deriving DecidableEq, Repr

/-- A block with blank lines only. -/
def UserBlock.isBlank (b : UserBlock) : Bool := b.content.all Text.isBlankText

/-- The blocks of a text, and the line of the start marker that is never closed. -/
structure Scan where
  blocks : List UserBlock
  unterminated : Option Nat
  deriving DecidableEq, Repr

namespace Scan

/-- The first block with an identity. -/
def get? (s : Scan) (id : String) : Option UserBlock := s.blocks.find? (·.id == id)

def hasBlocks (s : Scan) : Bool := !s.blocks.isEmpty

end Scan

/-- The identity of a block with a number. -/
def blockId (label : Option String) (number : Nat) : String :=
  label.getD ("block_" ++ toString number)

/-- The blocks of the parts that follow `number` blocks and start on a given line. -/
def scanPieces (number line : Nat) : List Piece → Scan
  | [] => ⟨[], none⟩
  | .line _ :: ps => scanPieces number (line + 1) ps
  | .block _ label content _ :: ps =>
    let stop := line + content.length + 1
    let rest := scanPieces (number + 1) (stop + 1) ps
    ⟨⟨blockId label number, label, content, line, stop⟩ :: rest.blocks, rest.unterminated⟩
  | .unclosed _ _ :: _ => ⟨[], some line⟩

/-- The user blocks of a text. -/
def scan (text : String) : Scan := scanPieces 0 0 (pieces (Text.lines text))

end DesignCompiler.UserBlocks
