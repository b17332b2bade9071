import DesignCompiler.Text.Blank
import DesignCompiler.Text.Search

/-! Markers of user blocks. A user block is what stands between two whole lines, a start marker with
an optional label and an end marker; both may be indented. -/

namespace DesignCompiler.UserBlocks

/-- The start marker without its label. -/
def startMarker : String := "// @canopy-user-start"

/-- The end marker. -/
def endMarker : String := "// @canopy-user-end"

/-- The label in the rest of a start marker line; blanks around it do not belong to it. -/
def labelOf (rest : List Char) : Option String :=
  let label := Text.trimChars rest
  if label.isEmpty then none else some (String.ofList label)

/-- Read a start marker line. The result is `none` for any other line and `some none` for a marker
without a label. A label is set off by a blank. -/
def parseStart (line : String) : Option (Option String) :=
  match Text.afterPrefix? startMarker.toList (Text.trimChars line.toList) with
  | none => none
  | some [] => some none
  | some (c :: rest) => if Text.isBlank c then some (labelOf (c :: rest)) else none

/-- Whether a line is an end marker. -/
def isEnd (line : String) : Bool := Text.trim line == endMarker

/-- A start marker line. -/
def startLine (label : Option String) (indent : String) : String :=
  match label with
  | some label => indent ++ startMarker ++ " " ++ label
  | none => indent ++ startMarker

/-- An end marker line. -/
def endLine (indent : String) : String := indent ++ endMarker

/-- An empty block with a label, as text of two lines. -/
def emptyBlock (label indent : String) : String :=
  startLine (some label) indent ++ "\n" ++ endLine indent

end DesignCompiler.UserBlocks
