import DesignCompiler.Diagnostics
import DesignCompiler.UserBlocks.Scan

/-! Regeneration that keeps what was written by hand. The user blocks of the previous text go into
the fresh text, matched by identity and then by number; blocks that find no place are appended, and
a previous text with a block that is never closed stays as it is. -/

namespace DesignCompiler.UserBlocks

/-- The merged text and what became of the previous blocks. -/
structure MergeReport where
  text : String
  /-- Fresh blocks that took the content of a previous block. -/
  preserved : Nat
  /-- Previous blocks that found no place and were appended. -/
  appended : Nat
  diagnostics : Diagnostics
  deriving DecidableEq, Repr

/-- The warning about a block that is never closed. -/
def unterminatedWarning (which : String) (s : Scan) : Diagnostics :=
  match s.unterminated with
  | none => []
  | some line =>
    [.warning .unterminatedBlock none
      ("user block opened on line " ++ toString (line + 1) ++ " of the " ++ which ++
        " text is never closed")]

/-- For each fresh block the previous block with the same identity. -/
def sourcesById (previous fresh : List UserBlock) : List (Option Nat) :=
  fresh.map fun b => previous.findIdx? (·.id == b.id)

/-- For each fresh block the previous block that it takes: the first one with its identity, or else
the one with its number when no block takes that by identity. -/
def sources (previous fresh : List UserBlock) : List (Option Nat) :=
  let byId := sourcesById previous fresh
  byId.mapIdx fun i s =>
    match s with
    | some j => some j
    | none => if i < previous.length && !byId.contains (some i) then some i else none

/-- Give the blocks new contents, in order; a block without one keeps its own. -/
def fill : List (Option (List String)) → List Piece → List Piece
  | _, [] => []
  | c :: cs, .block start label content stop :: ps =>
    .block start label (c.getD content) stop :: fill cs ps
  | cs, p :: ps => p :: fill cs ps

/-- The lines without an empty last one. -/
def dropFinalEmpty (ls : List String) : List String :=
  if ls.getLast? == some "" then ls.dropLast else ls

/-- Append a block, with its identity for a label so that it is found again. -/
def appendBlock (ls : List String) (b : UserBlock) : List String :=
  dropFinalEmpty ls ++ startLine (some b.id) "" :: b.content ++ [endLine "", ""]

/-- The previous blocks that no fresh block took and that are not blank. -/
def orphans (previous : List UserBlock) (taken : List (Option Nat)) : List UserBlock :=
  ((previous.zipIdx.filter fun (b, i) => !taken.contains (some i) && !b.isBlank)).map (·.1)

/-- Merge a previous text into a fresh one, with a report. -/
def mergeReport (previous fresh : String) : MergeReport :=
  let prev := scan previous
  let next := scan fresh
  if prev.unterminated.isSome then
    ⟨previous, 0, 0, unterminatedWarning "previous" prev⟩
  else if !prev.hasBlocks then ⟨fresh, 0, 0, []⟩
  else
    let taken := sources prev.blocks next.blocks
    let contents := taken.map fun s => (s.bind (prev.blocks[·]?)).map (·.content)
    let filled := linesOf (fill contents (pieces (Text.lines fresh)))
    let left := orphans prev.blocks taken
    { text := Text.ofLines (left.foldl appendBlock filled)
      preserved := taken.countP (·.isSome)
      appended := left.length
      diagnostics := unterminatedWarning "generated" next }

/-- Merge a previous text into a fresh one. -/
def merge (previous fresh : String) : String := (mergeReport previous fresh).text

end DesignCompiler.UserBlocks
