import DesignCompiler.Document.Node
import DesignCompiler.Element.Basic
import DesignCompiler.Json.Decoder
import DesignCompiler.Naming.Identifier
import DesignCompiler.Text.Blank
import DesignCompiler.Text.Letter
import DesignCompiler.Text.Lines

/-! Variants of a component and the props that they make. Every variant has a value for each of some
keys, as a table or written in its name as `Key=Value, Key2=Value2`. -/

namespace DesignCompiler.FromDesign

open Document

/-- Values by key, each key once. -/
abbrev VariantCase := List (String × String)

/-- The key before an equals sign: the text without blanks at its ends, or the last blank when
there is nothing else. -/
def variantKey? (cs : List Char) : Option (List Char) :=
  match Text.trimChars cs with
  | [] => cs.getLast?.map ([·])
  | key => some key

/-- One `Key=Value` part of a name. The value may be empty, but it is on one line. -/
def variantPair? (part : List Char) : Option (String × String) :=
  match Text.cutAt '=' part with
  | none => none
  | some (before, after) =>
    let value := Text.trimChars after
    match variantKey? before with
    | some key => if value.contains '\n' then none else some (String.ofList key, String.ofList value)
    | none => none

/-- A table from pairs: a key keeps its first position and has its last value. -/
def tableOf {α : Type} (pairs : List (String × α)) : List (String × α) :=
  pairs.foldl (fun acc p => Json.Decoder.putEntry p.1 p.2 acc) []

/-- The values that a name spells. Parts between commas without an equals sign are passed over. -/
def parseVariantName (name : String) : VariantCase :=
  tableOf ((name.toList.splitOn ',').filterMap variantPair?)

/-- The values of a variant: its table, or what its name spells when that is empty. -/
def variantValues (a : Attributes) : VariantCase :=
  match a.variantProperties with
  | some (p :: ps) => p :: ps
  | _ => parseVariantName a.name

/-- Add a value to those of its key, once. -/
def addValue (key value : String) : List (String × List String) → List (String × List String)
  | [] => [(key, [value])]
  | (k, vs) :: rest =>
    if k == key then (k, if vs.contains value then vs else vs ++ [value]) :: rest
    else (k, vs) :: addValue key value rest

/-- The distinct values of each key, keys and values in the order of first appearance. -/
def collectValues (cases : List VariantCase) : List (String × List String) :=
  cases.flatten.foldl (fun acc p => addValue p.1 p.2 acc) []

/-- Whether values are truth values of which both occur. -/
def areTruthValues (values : List String) : Bool :=
  let isTrue := Text.sameIgnoringAsciiCase "true"
  let isFalse := Text.sameIgnoringAsciiCase "false"
  values.all (fun v => isTrue v || isFalse v) && values.any isTrue && values.any isFalse

/-- The prop for a key with its distinct values: a boolean for truth values, a string for one value,
an enum for several. The first value is the default. -/
def inferProp (name : String) (values : List String) : Option PropDef :=
  if areTruthValues values then some (.boolean name (values.head?.map Text.asciiLower))
  else if values.length == 1 then some (.string name values.head?)
  else PropDef.enumeration name values values.head?

/-- The props that variants make. -/
def propsOfCases (cases : List VariantCase) : List PropDef :=
  (collectValues cases).filterMap fun (key, values) => inferProp key values

/-- The props of a component set. -/
def propsOfSet (set : Node) : List PropDef :=
  propsOfCases (set.nodes.map fun n => variantValues n.attrs)

end DesignCompiler.FromDesign
