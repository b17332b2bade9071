import DesignCompiler.Document.Node
import DesignCompiler.Element.Registry

/-! The components of a document: those in its tree, and those that it lists as published. -/

namespace DesignCompiler.FromDesign

open Document

/-- The entry of a node that is a component; in a component set it is a variant of the set. -/
def entryOf (parent : Option Attributes) (a : Attributes) : List ComponentEntry :=
  if a.kind == .component then
    [⟨a.id, a.name, (parent.filter (·.kind == .componentSet)).map (·.name)⟩]
  else []

mutual

/-- The entries of all components in a tree, parents before their children. -/
def entriesIn (parent : Option Attributes) : Child → List ComponentEntry
  | .node a children => entryOf parent a ++ entriesInAll a children
  | .invalid _ => []

def entriesInAll (parent : Attributes) : List Child → List ComponentEntry
  | [] => []
  | c :: cs => entriesIn (some parent) c ++ entriesInAll parent cs

end

/-- The entry of a published component. -/
def publishedEntry (d : Document) (id : String) (m : ComponentMeta) : ComponentEntry :=
  let set := m.setId.bind fun setId => (d.componentSets.find? (·.1 == setId)).map (·.2)
  ⟨id, m.name, set.map (·.name)⟩

/-- All components of a document; of two with one identity the first remains. -/
def registryOf (d : Document) : ComponentRegistry :=
  let entries := entriesIn none d.root.toChild ++
    d.components.map fun (id, m) => publishedEntry d id m
  entries.foldl ComponentRegistry.register .empty

end DesignCompiler.FromDesign
