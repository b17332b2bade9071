import DesignCompiler.Markup.Escape
import DesignCompiler.Styling.Styler

/-! The markup of a component as a tree, the text that it is written as, and what it refers to. -/

namespace DesignCompiler.Markup

open Styling

/-- The import of an icon. -/
structure IconImport where
  ident : String
  url : String
  deriving DecidableEq, Repr

/-- A collection over which a repeating container runs, with the number of members in the design. -/
structure Collection where
  name : String
  count : Nat
  deriving DecidableEq, Repr

/-- What stands inside a text element. -/
inductive TextContent where
  | literal (s : String)
  | prop (name : String)
  deriving DecidableEq, Repr

/-- The opening of an element: its tag, its style, whether it has a key because it is repeated, and
further attributes with text values. -/
structure Opening where
  tag : String
  style : StyleUse
  keyed : Bool
  texts : List (String × String)
  deriving DecidableEq, Repr

/-- Markup. -/
inductive Jsx where
  | comment (text : String)
  | icon (i : IconImport) (keyed : Bool)
  /-- A component with values for its props. -/
  | component (tag : String) (overrides : List (String × OverrideValue)) (keyed : Bool)
  /-- An element without content. -/
  | void (o : Opening)
  | text (o : Opening) (content : TextContent)
  /-- An element that stands on one line with its only child. -/
  | inlined (o : Opening) (child : Jsx)
  | block (o : Opening) (children : List Jsx)
  /-- One template for every member of a collection. -/
  | each (c : Collection) (template : Jsx)

/-! ## Text -/

/-- An attribute with what sets it off. -/
def attributeText (name value : String) : String := " " ++ name ++ "=" ++ value

/-- The key of a repeated element. -/
def keyText (keyed : Bool) : String := if keyed then attributeText "key" "\x7bindex\x7d" else ""

/-- The value that an instance gives to a prop. -/
def overrideText (name : String) : OverrideValue → String
  | .text s => attributeText name (attributeValue s)
  | .bool true => " " ++ name
  | .bool false => attributeText name "\x7bfalse\x7d"

namespace Opening

/-- The tag as it is written: the one that the style puts in its place, or the element's own. -/
def name (o : Opening) : String := o.style.tag?.getD o.tag

/-- The tag and the attributes. -/
def inner (o : Opening) : String :=
  o.name ++ keyText o.keyed ++
    String.join (o.style.attributes.map fun (name, value) => attributeText name value) ++
    String.join (o.texts.map fun (name, value) => attributeText name (attributeValue value))

end Opening

def TextContent.text : TextContent → String
  | literal s => escapeText s
  | prop name => "\x7b" ++ name ++ "\x7d"

/-- A comment. -/
def commentMarkup (text : String) : String := "\x7b/* " ++ commentText text ++ " */\x7d"

/-- Indentation of so many levels. -/
def indentation (unit : String) (depth : Nat) : String := String.join (List.replicate depth unit)

namespace Jsx

mutual

/-- The lines of markup at a depth. -/
def lines (unit : String) (depth : Nat) : Jsx → List String
  | comment remark => [indentation unit depth ++ commentMarkup remark]
  | icon i keyed => [indentation unit depth ++ "<" ++ i.ident ++ keyText keyed ++ " />"]
  | component tag overrides keyed =>
    [indentation unit depth ++ "<" ++ tag ++ keyText keyed ++
      String.join (overrides.map fun (name, value) => overrideText name value) ++ " />"]
  | void o => [indentation unit depth ++ "<" ++ o.inner ++ " />"]
  | text o content =>
    [indentation unit depth ++ "<" ++ o.inner ++ ">" ++ content.text ++ "</" ++ o.name ++ ">"]
  | inlined o child =>
    [indentation unit depth ++ "<" ++ o.inner ++ ">" ++ String.join (child.lines unit 0) ++ "</" ++
      o.name ++ ">"]
  | block o children =>
    [indentation unit depth ++ "<" ++ o.inner ++ ">"] ++ allLines unit (depth + 1) children ++
      [indentation unit depth ++ "</" ++ o.name ++ ">"]
  | each c template =>
    [indentation unit depth ++ "\x7b" ++ c.name ++ ".map((item, index) => ("] ++
      template.lines unit (depth + 1) ++ [indentation unit depth ++ "))\x7d"]

def allLines (unit : String) (depth : Nat) : List Jsx → List String
  | [] => []
  | j :: js => j.lines unit depth ++ allLines unit depth js

end

/-! ## References -/

/-- The parts of markup, each before those inside it. -/
inductive Part where
  | comment (text : String)
  | icon (i : IconImport)
  | component (tag : String)
  | opening (o : Opening)
  | content (c : TextContent)
  | collection (c : Collection)
  deriving DecidableEq, Repr

mutual

/-- The parts of markup in the order of the text. -/
def parts : Jsx → List Part
  | comment remark => [.comment remark]
  | icon i _ => [.icon i]
  | component tag _ _ => [.component tag]
  | void o => [.opening o]
  | text o content => [.opening o, .content content]
  | inlined o child => .opening o :: child.parts
  | block o children => .opening o :: allParts children
  | each c template => .collection c :: template.parts

def allParts : List Jsx → List Part
  | [] => []
  | j :: js => j.parts ++ allParts js

end

end Jsx

/-- The list with only the first of those that have one key. -/
def firstByKey {α : Type} (key : α → String) (seen : List String) : List α → List α
  | [] => []
  | a :: as =>
    if seen.contains (key a) then firstByKey key seen as
    else a :: firstByKey key (key a :: seen) as

end DesignCompiler.Markup

namespace DesignCompiler

open Markup Styling

/-- The markup of a component, and remarks about its root, which no comment can precede. -/
structure Markup where
  component : String
  root : Jsx
  notes : List String

namespace Markup

/-- The style definitions that the markup refers to. -/
def definitions (m : Markup) : List StyleDefinition :=
  firstByKey (·.name) [] (m.root.parts.filterMap fun
    | .opening o => o.style.definition?
    | _ => none)

/-- The other components that the markup refers to. -/
def components (m : Markup) : List String :=
  firstByKey id [] (m.root.parts.filterMap fun
    | .component tag => if tag == m.component then none else some tag
    | _ => none)

/-- The icons that the markup refers to. -/
def icons (m : Markup) : List IconImport :=
  firstByKey (·.ident) [] (m.root.parts.filterMap fun
    | .icon i => some i
    | _ => none)

/-- The collections that the markup refers to. -/
def collections (m : Markup) : List Collection :=
  m.root.parts.filterMap fun
    | .collection c => some c
    | _ => none

/-- The text of the markup at a depth. -/
def text (m : Markup) (unit : String) (depth : Nat) : String :=
  "\n".intercalate (m.root.lines unit depth)

end Markup

end DesignCompiler
