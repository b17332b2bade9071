import DesignCompiler.Json.Value

/-! Generated files. -/

namespace DesignCompiler.Output

/-- What a generated file is for. -/
inductive FileKind where
  | component
  | types
  | stylesheet
  | index
  | theme
  deriving DecidableEq, Repr

def FileKind.name : FileKind → String
  | component => "component"
  | types => "types"
  | stylesheet => "stylesheet"
  | index => "index"
  | theme => "theme"

/-- A generated file; the path is relative to the output folder. -/
structure GeneratedFile where
  path : String
  content : String
  kind : FileKind
  deriving DecidableEq, Repr

/-- The file as data. -/
def GeneratedFile.toJson (f : GeneratedFile) : Json.Value :=
  .object [("path", .string f.path), ("content", .string f.content), ("kind", .string f.kind.name)]

end DesignCompiler.Output
