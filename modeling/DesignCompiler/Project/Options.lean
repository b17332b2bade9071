import DesignCompiler.Styling.Backend
import DesignCompiler.Tokens.Reading

/-! The options of a conversion. -/

namespace DesignCompiler.Project

open Tokens Styling

structure ConvertOptions where
  backend : Backend
  /-- Whether tokens refer to a theme. -/
  themed : Bool
  /-- The number of spaces for each level of markup. -/
  indent : Nat
  /-- Whether types are written. -/
  typescript : Bool
  /-- The time that generated files name. -/
  timestamp : Option String
  /-- The nodes to convert; all components when the list is empty. -/
  targets : List String
  /-- The folder of components, relative to the output folder. -/
  componentsDir : String
  /-- The address below which assets are found. -/
  assetBase : String
  /-- Asset files by node or image. -/
  assets : List (String × String)
  /-- The project's own tokens. -/
  tokens : Option TokenTable

namespace ConvertOptions

/-- The options when none are given. -/
def standard : ConvertOptions where
  backend := Backend.standard
  themed := false
  indent := 2
  typescript := true
  timestamp := none
  targets := []
  componentsDir := "components"
  assetBase := "/assets"
  assets := []
  tokens := none

/-- An option that has a value it cannot have. -/
structure BadOption where
  field : String
  reason : String
  deriving DecidableEq, Repr

/-- The fault in words. -/
def BadOption.message (b : BadOption) : String :=
  "Invalid value for '" ++ b.field ++ "': " ++ b.reason

/-- The most spaces for a level. -/
def maxIndent : Nat := 8

/-- The first option with a bad value. -/
def bad? (o : ConvertOptions) : Option BadOption :=
  if o.indent == 0 || maxIndent < o.indent then
    some ⟨"indent", "expected 1 to 8 spaces, got " ++ toString o.indent⟩
  else if Text.isBlankText o.componentsDir then some ⟨"componentsDir", "must not be empty"⟩
  else
    (o.tokens.bind TokenTable.badColor?).map fun b =>
      ⟨"tokens", b.message⟩

/-- Whether all options have values that they can have. -/
def isValid (o : ConvertOptions) : Bool := o.bad?.isNone

/-- One level of indentation. -/
def indentUnit (o : ConvertOptions) : String := String.ofList (List.replicate o.indent ' ')

/-- The extension of a component's file. -/
def componentExt (o : ConvertOptions) : String := if o.typescript then "tsx" else "jsx"

/-- The extension of a script without markup. -/
def moduleExt (o : ConvertOptions) : String := if o.typescript then "ts" else "js"

def isSlash (c : Char) : Bool := c == '/'

/-- A path without slashes at its end. -/
def withoutFinalSlashes (s : String) : String :=
  String.ofList (Text.dropEndWhile isSlash s.toList)

/-- The address of an asset file: one slash between the base and the file. -/
def assetUrl (o : ConvertOptions) (file : String) : String :=
  withoutFinalSlashes o.assetBase ++ "/" ++ String.ofList (file.toList.dropWhile isSlash)

/-- The asset file for a node or an image. -/
def asset? (o : ConvertOptions) (key : String) : Option String :=
  (o.assets.find? (·.1 == key)).map (·.2)

/-- The tokens of the project. -/
def tokenTable (o : ConvertOptions) : TokenTable := o.tokens.getD TokenTable.standard

/-- The options as data. -/
def toJson (o : ConvertOptions) : Json.Value :=
  .object [
    ("backend", .string o.backend.name),
    ("themed", .bool o.themed),
    ("indent", .ofNat o.indent),
    ("typescript", .bool o.typescript),
    ("timestamp", .ofString? o.timestamp),
    ("targets", .ofList .string o.targets),
    ("componentsDir", .string o.componentsDir),
    ("assetBase", .string o.assetBase),
    ("assets", TokenTable.textsJson o.assets),
    ("tokens", .ofOption TokenTable.toJson o.tokens)]

end ConvertOptions

/-- Why a text does not hold options. -/
inductive OptionsError where
  | unreadable (f : Json.Fault)
  | badOption (b : ConvertOptions.BadOption)

/-- The error in words. -/
def OptionsError.message : OptionsError → String
  | unreadable f => "Invalid configuration: " ++ f.text
  | badOption b => b.message

namespace ConvertOptions

open Json Json.Decoder Json.Fields

def decoder : Decoder ConvertOptions :=
  let d := standard
  record "ConvertOptions" <|
    ConvertOptions.mk
      <$> withDefault "backend" d.backend (oneOf (Backend.all.map fun b => (b.name, b)) none)
      <*> withDefault "themed" d.themed bool
      <*> withDefault "indent" d.indent (natBelow UInt64.size "usize")
      <*> withDefault "typescript" d.typescript bool
      <*> optional "timestamp" string
      <*> withDefault "targets" d.targets (list string)
      <*> withDefault "componentsDir" d.componentsDir string
      <*> withDefault "assetBase" d.assetBase string
      <*> withDefault "assets" d.assets (table string)
      <*> optional "tokens" Tokens.Read.tokenTable

/-- Check options. -/
def check (o : ConvertOptions) : Except OptionsError ConvertOptions :=
  match o.bad? with
  | some b => .error (.badOption b)
  | none => .ok o

/-- Read options from JSON text and check them. -/
def read (s : String) : Except OptionsError ConvertOptions :=
  match decodeText decoder s with
  | .error f => .error (.unreadable f)
  | .ok o => o.check

end ConvertOptions

end DesignCompiler.Project
