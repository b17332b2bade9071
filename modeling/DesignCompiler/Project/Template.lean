import DesignCompiler.Json.Value
import DesignCompiler.Text.Blank

/-! Templates: texts with fields that are filled in. A field that has no value is an error. -/

namespace DesignCompiler.Project

/-- A part of a template. -/
inductive TemplatePart where
  | text (s : String)
  | field (name : String)
  deriving DecidableEq, Repr

/-- A template. -/
abbrev Template := List TemplatePart

namespace Template

/-- The template filled in, if every field has a value. -/
def render? (value? : String → Option String) : Template → Option String
  | [] => some ""
  | .text s :: rest => (render? value? rest).map (s ++ ·)
  | .field name :: rest =>
    match value? name, render? value? rest with
    | some v, some more => some (v ++ more)
    | _, _ => none

mutual

/-- The value of a field as it is filled in. -/
def valueText : Json.Value → String
  | .string s => s
  | .null => ""
  | .bool b => if b then "true" else "false"
  | .number n => n.text
  | .array items => "[" ++ ", ".intercalate (valueTexts items) ++ "]"
  | .object _ => "[object]"

def valueTexts : List Json.Value → List String
  | [] => []
  | v :: vs => valueText v :: valueTexts vs

end

/-- Characters of a field's name: letters, digits and a few signs, and all that is not ASCII. -/
def isFieldChar (c : Char) : Bool :=
  c.isAlphanum || c == '_' || c == '-' || c == '$' || 128 ≤ c.toNat

/-- The name of a field from what stands between its braces. -/
def fieldName? (cs : List Char) : Option String :=
  let name := Text.trimChars cs
  if name.isEmpty || !name.all isFieldChar then none else some (String.ofList name)

/-- Where a reader of a template stands: in plain text, or between the braces of a field, in either
case with the characters since it began, the last one first. -/
inductive Position where
  | inText (read : List Char)
  | inField (read : List Char)

/-- Read the rest of a template. -/
def parseFrom : Position → List Char → Option Template
  | .inText read, [] => some [.text (String.ofList read.reverse)]
  | .inField _, [] => none
  | .inText read, '\x7b' :: '\x7b' :: cs =>
    (parseFrom (.inField []) cs).map (.text (String.ofList read.reverse) :: ·)
  | .inText read, c :: cs => parseFrom (.inText (c :: read)) cs
  | .inField read, '\x7d' :: '\x7d' :: cs =>
    match fieldName? read.reverse with
    | none => none
    | some name => (parseFrom (.inText []) cs).map (.field name :: ·)
  | .inField read, c :: cs => parseFrom (.inField (c :: read)) cs

/-- Read a template, in which fields stand in double braces. -/
def parse? (s : String) : Option Template := parseFrom (.inText []) s.toList

/-- The file of a component. -/
def component : Template := [
  .field "header", .text "\n", .field "imports", .text "\n\n", .field "user_imports", .text "\n",
  .field "definitions", .text "export function ", .field "name", .text "(", .field "params",
  .text ") \x7b\n", .field "user_logic", .text "\n", .field "notes", .text "  return (\n",
  .field "jsx", .text "\n  );\n\x7d\n\nexport default ", .field "name", .text ";\n"]

/-- The file of a component's types. -/
def types : Template := [
  .field "header", .text "\n", .field "react_import", .text "export interface ", .field "name",
  .text "Props ", .field "body", .text "\n"]

/-- The file that exports all components. -/
def index : Template := [.field "header", .text "\n", .field "exports"]

/-- The templates of generated files, by name. -/
def builtIn : List (String × Template) := [
  ("component", component), ("types", types), ("index", index)]

end Template

end DesignCompiler.Project
