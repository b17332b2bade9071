import DesignCompiler.Output.File
import DesignCompiler.UserBlocks.Update

/-! Writing generated files to a store. Every file is planned against what the store holds, and a
failure concerns its own file only. -/

namespace DesignCompiler.Output

open UserBlocks

/-- Why a file could not be read or written. -/
inductive StoreError where
  | readFailed (path reason : String)
  | writeFailed (path reason : String)
  deriving DecidableEq, Repr

namespace StoreError

/-- The error without the store's own reason. -/
def head : StoreError → String
  | readFailed path _ => "Failed to read " ++ path ++ ":"
  | writeFailed path _ => "Failed to write " ++ path ++ ":"

def reason : StoreError → String
  | readFailed _ reason => reason
  | writeFailed _ reason => reason

/-- The error in words. -/
def message (e : StoreError) : String := e.head ++ " " ++ e.reason

end StoreError

/-- A place where files are read and written. -/
class FileStore (σ : Type) where
  /-- The content of a file, `none` when there is no file. -/
  read : σ → String → Except StoreError (Option String)
  /-- The store after the attempt, and the error when it failed. -/
  write : σ → String → String → σ × Option StoreError

/-- What became of one file. -/
structure FileOutcome where
  path : String
  action : UpdateAction
  error : Option StoreError
  deriving DecidableEq, Repr

/-- What became of a list of files. -/
structure WriteReport where
  outcomes : List FileOutcome
  diagnostics : Diagnostics
  deriving DecidableEq, Repr

namespace WriteReport

/-- How many files were treated in one way without an error. -/
def count (r : WriteReport) (action : UpdateAction) : Nat :=
  r.outcomes.countP fun o => o.action == action && o.error.isNone

/-- How many files failed. -/
def failed (r : WriteReport) : Nat := r.outcomes.countP (·.error.isSome)

def toJson (r : WriteReport) : Json.Value :=
  .object [
    ("outcomes", .ofList (fun o => .object [("path", .string o.path),
      ("action", .string o.action.name),
      ("error", .ofString? (o.error.map StoreError.message))]) r.outcomes),
    ("diagnostics", r.diagnostics.toJson)]

end WriteReport

/-- The outcome of one file and what it reports. -/
def outcome (path : String) (action : UpdateAction) (reported : Diagnostics) :
    Option StoreError → WriteReport
  | none => ⟨[⟨path, action, none⟩], reported⟩
  | some e =>
    ⟨[⟨path, action, some e⟩], reported ++ [.error .outputWriteFailed none e.message]⟩

/-- Plan one file and write what the plan says. -/
def applyUpdate {σ : Type} [FileStore σ] (store : σ) (path content : String) : σ × WriteReport :=
  match FileStore.read store path with
  | .error e => (store, outcome path .overwrite [] (some e))
  | .ok previous =>
    let plan := planUpdate previous content
    match plan.content with
    | none => (store, outcome path plan.action plan.diagnostics none)
    | some text =>
      let (store, error) := FileStore.write store path text
      (store, outcome path plan.action plan.diagnostics error)

/-- Plan and write files given by path and content, one after the other. -/
def applyUpdates {σ : Type} [FileStore σ] (store : σ) :
    List (String × String) → σ × WriteReport
  | [] => (store, ⟨[], []⟩)
  | (path, content) :: files =>
    let (store, first) := applyUpdate store path content
    let (store, rest) := applyUpdates store files
    (store, ⟨first.outcomes ++ rest.outcomes, first.diagnostics ++ rest.diagnostics⟩)

end DesignCompiler.Output
