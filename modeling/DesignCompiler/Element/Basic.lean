import DesignCompiler.Element.Layout
import DesignCompiler.Element.Style

/-! The tree of elements that a design becomes before it is written in any styling scheme. -/

namespace DesignCompiler

/-- What an element is. -/
inductive ElementKind where
  | container
  | text
  | image
  | icon
  | component
  | componentInstance
  | divider
  deriving DecidableEq, Repr

/-- The type of a component's prop. -/
inductive PropType where
  | string
  | boolean
  | enum
  | node
  deriving DecidableEq, Repr

/-- A prop of a component. An enum lists its values. -/
structure PropDef where
  name : String
  type : PropType
  values : List String
  default : Option String
  deriving DecidableEq, Repr

namespace PropDef

def string (name : String) (default : Option String) : PropDef := ⟨name, .string, [], default⟩

def boolean (name : String) (default : Option String) : PropDef := ⟨name, .boolean, [], default⟩

/-- An enum; there is none without values. -/
def enumeration (name : String) (values : List String) (default : Option String) :
    Option PropDef :=
  if values.isEmpty then none else some ⟨name, .enum, values, default⟩

def node (name : String) : PropDef := ⟨name, .node, [], none⟩

end PropDef

/-- The value that an instance gives to a prop. -/
inductive OverrideValue where
  | text (s : String)
  | bool (b : Bool)
  deriving DecidableEq, Repr

/-- Which component an instance shows, and the values it gives to props, by prop name. -/
structure InstanceRef where
  componentId : String
  overrides : List (String × OverrideValue)
  deriving DecidableEq, Repr

/-- Children of a container that repeat: the number of the one that serves as template, and the
numbers of all of them. -/
structure Repeat where
  template : Nat
  members : List Nat
  deriving DecidableEq, Repr

/-- Remarks about an element. -/
structure Remarks where
  isComponentRoot : Bool
  isVariantContainer : Bool
  isRepeating : Bool
  repetition : Option Repeat
  hasAbsoluteChildren : Bool
  warnings : List String
  /-- Shared styles by what they style. -/
  styleRefs : List (String × String)
  /-- The prop that supplies the content of a text. -/
  propBinding : Option String
  /-- Why the element probably needs behaviour that is wired by hand. -/
  interactionHint : Option String
  deriving DecidableEq, Repr

def Remarks.none : Remarks := ⟨false, false, false, .none, false, [], [], .none, .none⟩

/-- An element apart from its children. -/
structure ElementHead where
  id : String
  sourceId : String
  kind : ElementKind
  tag : String
  name : String
  layout : Layout
  style : Style
  content : Option String
  /-- The props of a component, at its root. -/
  props : List PropDef
  /-- The component that an instance shows. -/
  instanceOf : Option InstanceRef
  remarks : Remarks

/-- An element with its children in the order of rendering. -/
inductive Element where
  | mk (head : ElementHead) (children : List Element)

/-- The identity of an element: the letter `n` and the source's identity, in which every character
that is no ASCII letter or digit is an underscore. -/
def elementId (sourceId : String) : String :=
  String.ofList ('n' :: sourceId.toList.map fun c => if c.isAlphanum then c else '_')

namespace ElementHead

/-- An element of which only the kind, the tag and the name are known. -/
def bare (sourceId : String) (kind : ElementKind) (tag name : String) : ElementHead where
  id := elementId sourceId
  sourceId := sourceId
  kind := kind
  tag := tag
  name := name
  layout := Layout.plain
  style := Style.plain
  content := none
  props := []
  instanceOf := none
  remarks := Remarks.none

end ElementHead

namespace Element

def head : Element → ElementHead
  | mk head _ => head

def children : Element → List Element
  | mk _ children => children

/-- An element without children. -/
def leaf (head : ElementHead) : Element := mk head []

/-- A text, named after its content. -/
def text (sourceId tag content : String) : Element :=
  leaf { ElementHead.bare sourceId .text tag content with content := some content }

/-- Change the head. -/
def mapHead (f : ElementHead → ElementHead) : Element → Element
  | mk head children => mk (f head) children

/-- Add a child after the others. -/
def addChild (e child : Element) : Element := mk e.head (e.children ++ [child])

mutual

/-- The heads of all elements, parents before their children. -/
def walk : Element → List ElementHead
  | mk head children => head :: walkAll children

def walkAll : List Element → List ElementHead
  | [] => []
  | e :: es => e.walk ++ walkAll es

end

/-- The first element with an identity, parents before their children. -/
def find? (e : Element) (id : String) : Option ElementHead := e.walk.find? (·.id == id)

/-- The number of elements. -/
def count (e : Element) : Nat := e.walk.length

end Element

end DesignCompiler
