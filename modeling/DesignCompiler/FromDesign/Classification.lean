import DesignCompiler.Document.Node
import DesignCompiler.Element.Basic
import DesignCompiler.Naming.Words

/-! What kind of element a node becomes, and under which tag. The node's kind decides about the
element's kind, and the words of its name refine the tag. -/

namespace DesignCompiler.FromDesign

open Document Naming

/-- The kind and the tag of an element. -/
structure Classification where
  kind : ElementKind
  tag : String
  deriving DecidableEq, Repr

/-- Tags inside which only phrases may stand. -/
def phraseParents : List String := ["button", "a", "label", "span"]

/-- Words that tell of behaviour, most telling first. -/
def interactionWords : List String := [
  "hover", "pressed", "open", "closed", "expanded", "dropdown", "modal", "toggle", "tab",
  "accordion"]

/-- Tags with the words that select them, most telling first. -/
def semanticTags : List (String × List String) := [
  ("button", ["button", "btn", "cta"]),
  ("a", ["link"]),
  ("nav", ["nav", "navbar", "navigation"]),
  ("header", ["header", "topbar", "appbar"]),
  ("footer", ["footer"]),
  ("aside", ["aside", "sidebar"]),
  ("main", ["main"]),
  ("form", ["form"]),
  ("article", ["article"]),
  ("section", ["section"])]

/-- Heading tags with the words that select them. -/
def headingTags : List (String × List String) := [
  ("h1", ["h1", "display"]),
  ("h2", ["h2", "heading", "title", "headline"]),
  ("h3", ["h3", "subtitle", "subheading"]),
  ("h4", ["h4"]),
  ("h5", ["h5"]),
  ("h6", ["h6"])]

/-- Heading tags with the least font size that selects them, largest first. -/
def headingSizes : List (Float × String) := [(32.0, "h1"), (24.0, "h2"), (20.0, "h3")]

/-- The tag that a name suggests. -/
def semanticTag (name : String) : Option String := firstWithWord? semanticTags name

/-- The word of a name that tells of behaviour. -/
def interactionHint (name : String) : Option String :=
  let words := nameWords name
  interactionWords.find? words.contains

/-- The tag of a text: a heading by its name, a phrase inside a phrase, else by its size. -/
def textTag (a : Attributes) (parentTag : Option String) : String :=
  match firstWithWord? headingTags a.name with
  | some tag => tag
  | none =>
    if parentTag.any phraseParents.contains then "span"
    else
      let size := (a.typeStyle.bind (·.fontSize)).getD 0.0
      ((headingSizes.find? fun e => e.1 ≤ size).map (·.2)).getD "p"

/-- A frame that is named as an icon and has vector shapes for its only children. -/
def isIconFrame (n : Node) : Bool :=
  hasWord n.attrs.name ["icon"] && !n.nodes.isEmpty && n.nodes.all (·.attrs.kind.isVector)

/-- A container, with the tag that its name suggests. -/
def named (kind : ElementKind) (name : String) : Classification :=
  ⟨kind, (semanticTag name).getD "div"⟩

/-- Classify a node, given the tag of its parent. -/
def classify (n : Node) (parentTag : Option String) : Classification :=
  let a := n.attrs
  let shape : Classification :=
    if a.hasVisibleImageFill then ⟨.image, "img"⟩
    else if a.kind == .rectangle && hasWord a.name ["divider", "separator"] then ⟨.divider, "hr"⟩
    else ⟨.container, "div"⟩
  match a.kind with
  | .text => ⟨.text, textTag a parentTag⟩
  | .component | .componentSet => named .component a.name
  | .componentInstance => ⟨.componentInstance, "div"⟩
  | .rectangle | .ellipse => shape
  | .line => ⟨.divider, "hr"⟩
  | .vector | .booleanOperation | .star | .polygon => ⟨.icon, "svg"⟩
  | .frame | .group => if isIconFrame n then ⟨.icon, "svg"⟩ else named .container a.name
  | .pageSection => named .container a.name
  | .document | .canvas | .other => ⟨.container, "div"⟩

end DesignCompiler.FromDesign
