import DesignCompiler.UserBlocks.Merge

/-! What happens to one file when it is generated again. -/

namespace DesignCompiler.UserBlocks

/-- What to do with a file. -/
inductive UpdateAction where
  /-- There is no previous file. -/
  | create
  /-- The previous file says the same, or holds a block that is never closed. -/
  | skip
  /-- The previous file has user blocks to carry over. -/
  | merge
  /-- The previous file is replaced. -/
  | overwrite
  deriving DecidableEq, Repr

namespace UpdateAction

def name : UpdateAction → String
  | create => "create"
  | skip => "skip"
  | merge => "merge"
  | overwrite => "overwrite"

def all : List UpdateAction := [create, skip, merge, overwrite]

end UpdateAction

/-- A comment line that holds the mark of generated files, whatever else it says. -/
def isGeneratedHeader (line : List Char) : Bool :=
  match Text.afterPrefix? ['/', '/'] (line.dropWhile fun c => c == ' ' || c == '\t') with
  | none => false
  | some rest => Text.hasInfix "@generated".toList rest

/-- The text that stands for all such comment lines. -/
def headerMark : String := "// @generated"

/-- A text with what may differ between equivalent files taken out: comment lines that mark a
generated file say nothing else, and every run of blanks is one space. -/
def normalize (text : String) : String :=
  let lines := (text.toList.splitOn '\n').map fun l =>
    if isGeneratedHeader l then headerMark.toList else l
  String.ofList (Text.collapseBlanks (['\n'].intercalate lines))

/-- Decide about a file from its previous content, if it exists, and the fresh content. -/
def decideUpdate (previous : Option String) (fresh : String) : UpdateAction :=
  match previous with
  | none => .create
  | some previous =>
    let s := scan previous
    if normalize previous == normalize fresh || s.unterminated.isSome then .skip
    else if s.hasBlocks then .merge
    else .overwrite

/-- The decision about a file, what to write, if anything, and what to report. -/
structure UpdatePlan where
  action : UpdateAction
  content : Option String
  diagnostics : Diagnostics
  deriving DecidableEq, Repr

/-- Plan the update of a file. -/
def planUpdate (previous : Option String) (fresh : String) : UpdatePlan :=
  let action := decideUpdate previous fresh
  match action, previous with
  | .skip, some previous =>
    ⟨action, none, unterminatedWarning "previous" (scan previous)⟩
  | .merge, some previous =>
    let report := mergeReport previous fresh
    ⟨action, some report.text, report.diagnostics⟩
  | _, _ => ⟨action, some fresh, []⟩

end DesignCompiler.UserBlocks
