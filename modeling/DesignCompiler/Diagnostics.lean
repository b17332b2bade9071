import DesignCompiler.Json.Value

/-! Diagnostics: what a run has to say about its input besides the files it makes. -/

namespace DesignCompiler

/-- How serious a diagnostic is. -/
inductive Severity where
  | warning
  | error
  deriving DecidableEq, Repr

def Severity.name : Severity → String
  | .warning => "warning"
  | .error => "error"

/-- What a diagnostic is about. -/
inductive DiagnosticCode where
  /-- A node or component that is referred to cannot be found. -/
  | nodeNotFound
  /-- A source node cannot be read; a placeholder stands for it. -/
  | nodeParseFailure
  /-- A style feature has no direct counterpart; something else stands for it. -/
  | unsupportedStyle
  /-- A container positions its children manually. -/
  | noAutoLayout
  /-- A node probably needs behaviour that is wired by hand. -/
  | interactionHint
  /-- A user block is opened and never closed. -/
  | unterminatedBlock
  /-- A generated file could not be written. -/
  | outputWriteFailed
  /-- A whole component could not be generated. -/
  | componentFailed
  deriving DecidableEq, Repr

namespace DiagnosticCode

/-- The words of the name. -/
def words : DiagnosticCode → List String
  | nodeNotFound => ["node", "not", "found"]
  | nodeParseFailure => ["node", "parse", "failure"]
  | unsupportedStyle => ["unsupported", "style"]
  | noAutoLayout => ["no", "auto", "layout"]
  | interactionHint => ["interaction", "hint"]
  | unterminatedBlock => ["unterminated", "block"]
  | outputWriteFailed => ["output", "write", "failed"]
  | componentFailed => ["component", "failed"]

def all : List DiagnosticCode :=
  [nodeNotFound, nodeParseFailure, unsupportedStyle, noAutoLayout, interactionHint,
    unterminatedBlock, outputWriteFailed, componentFailed]

/-- The name in a message. -/
def label (c : DiagnosticCode) : String := "-".intercalate c.words

/-- The name in data. -/
def key (c : DiagnosticCode) : String := "_".intercalate c.words

/-- The code with a given name in data. -/
def ofKey? (s : String) : Option DiagnosticCode := all.find? (·.key == s)

end DiagnosticCode

/-- One diagnostic, about a node or about the whole run. -/
structure Diagnostic where
  severity : Severity
  code : DiagnosticCode
  node : Option String
  message : String
  deriving DecidableEq, Repr

namespace Diagnostic

/-- A warning about a node, or about none. -/
def warning (code : DiagnosticCode) (node : Option String) (message : String) : Diagnostic :=
  ⟨.warning, code, node, message⟩

/-- An error about a node, or about none. -/
def error (code : DiagnosticCode) (node : Option String) (message : String) : Diagnostic :=
  ⟨.error, code, node, message⟩

/-- The diagnostic as one line. -/
def line (d : Diagnostic) : String :=
  d.severity.name ++ "[" ++ d.code.label ++ "]" ++
    (match d.node with
      | some id => " " ++ id
      | none => "") ++ ": " ++ d.message

/-- The diagnostic as data. -/
def toJson (d : Diagnostic) : Json.Value :=
  .object [("severity", .string d.severity.name), ("code", .string d.code.key),
    ("node_id", .ofString? d.node), ("message", .string d.message)]

end Diagnostic

/-- Diagnostics in the order in which they arose. -/
abbrev Diagnostics := List Diagnostic

namespace Diagnostics

/-- How many diagnostics have a given code. -/
def count (ds : Diagnostics) (code : DiagnosticCode) : Nat := ds.countP (·.code == code)

def warnings (ds : Diagnostics) : Diagnostics := ds.filter (·.severity == .warning)

def errors (ds : Diagnostics) : Diagnostics := ds.filter (·.severity == .error)

/-- The diagnostics as data. -/
def toJson (ds : Diagnostics) : Json.Value :=
  .object [("entries", .ofList Diagnostic.toJson ds)]

end Diagnostics

end DesignCompiler
