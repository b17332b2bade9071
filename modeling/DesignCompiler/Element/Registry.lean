/-! The components that are known to a run, by identity. -/

namespace DesignCompiler

/-- A component; a variant also has the name of its set. -/
structure ComponentEntry where
  id : String
  name : String
  setName : Option String
  deriving DecidableEq, Repr

/-- The name under which instances show the component: that of the set for a variant. -/
def ComponentEntry.displayName (e : ComponentEntry) : String := e.setName.getD e.name

/-- Components in the order in which they became known, each identity once. -/
structure ComponentRegistry where
  entries : List ComponentEntry
  deriving DecidableEq, Repr

namespace ComponentRegistry

def empty : ComponentRegistry := ⟨[]⟩

def get? (r : ComponentRegistry) (id : String) : Option ComponentEntry :=
  r.entries.find? (·.id == id)

def contains (r : ComponentRegistry) (id : String) : Bool := (r.get? id).isSome

/-- Add a component, unless one with its identity is known. -/
def register (r : ComponentRegistry) (e : ComponentEntry) : ComponentRegistry :=
  if r.contains e.id then r else ⟨r.entries ++ [e]⟩

end ComponentRegistry

end DesignCompiler
