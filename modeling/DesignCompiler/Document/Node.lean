import DesignCompiler.Document.Attributes

/-! The tree of a document. A child that cannot be read keeps its slot, with what is known of it. -/

namespace DesignCompiler.Document

/-- What is known about a child that cannot be read. -/
structure InvalidChild where
  id : Option String
  name : Option String
  reason : String
  deriving DecidableEq, Repr

/-- A slot among the children of a node. -/
inductive Child where
  | node (attrs : Attributes) (children : List Child)
  | invalid (i : InvalidChild)

/-- A node with its children. -/
structure Node where
  attrs : Attributes
  children : List Child

namespace Child

/-- The node in a slot. -/
def node? : Child → Option Node
  | node attrs children => some ⟨attrs, children⟩
  | invalid _ => none

mutual

/-- The first node with an identity in a slot, parents before their children. -/
def find? (id : String) : Child → Option Node
  | node attrs children =>
    if attrs.id == id then some ⟨attrs, children⟩ else findIn? id children
  | invalid _ => none

def findIn? (id : String) : List Child → Option Node
  | [] => none
  | c :: cs =>
    match c.find? id with
    | some n => some n
    | none => findIn? id cs

end

end Child

namespace Node

/-- The children that could be read. -/
def nodes (n : Node) : List Node := n.children.filterMap Child.node?

/-- The slot that holds a node. -/
def toChild (n : Node) : Child := .node n.attrs n.children

/-- The first node with an identity, parents before their children. -/
def find? (n : Node) (id : String) : Option Node := n.toChild.find? id

end Node

/-- What the document says about a published component or component set. -/
structure ComponentMeta where
  name : String
  description : String
  setId : Option String
  deriving DecidableEq, Repr

/-- What the document says about a shared style. -/
structure StyleMeta where
  name : String
  styleKind : Option String
  deriving DecidableEq, Repr

end DesignCompiler.Document

namespace DesignCompiler

open Document

/-- A document: a tree and tables by identity, each in the order of the text. -/
structure Document where
  name : String
  root : Node
  components : List (String × ComponentMeta)
  componentSets : List (String × ComponentMeta)
  styles : List (String × StyleMeta)

/-- A document that consists of a tree only. -/
def Document.ofRoot (root : Node) : Document := ⟨root.attrs.name, root, [], [], []⟩

end DesignCompiler
