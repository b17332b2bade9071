import DesignCompiler.Json.Decoder
import DesignCompiler.Naming.Fresh

/-! The named style definitions of a component, and the name that each element has. -/

namespace DesignCompiler.Styling

/-- Definitions by name, in the order of their first insertion, and the names of elements by
identity. -/
structure StyleCollector where
  definitions : List (String × String)
  assigned : List (String × String)
  deriving DecidableEq, Repr

namespace StyleCollector

def empty : StyleCollector := ⟨[], []⟩

/-- The name of an element. -/
def nameFor? (c : StyleCollector) (id : String) : Option String :=
  (c.assigned.find? (·.1 == id)).map (·.2)

/-- The definition with a name. -/
def get? (c : StyleCollector) (name : String) : Option String :=
  (c.definitions.find? (·.1 == name)).map (·.2)

/-- All names in use. -/
def usedNames (c : StyleCollector) : List String :=
  c.definitions.map (·.1) ++ c.assigned.map (·.2)

/-- The name of an element, which is found on the first call and kept. -/
def reserve (c : StyleCollector) (id wanted : String) : StyleCollector × String :=
  match c.nameFor? id with
  | some name => (c, name)
  | none =>
    let name := Naming.fresh c.usedNames wanted
    ({ c with assigned := c.assigned ++ [(id, name)] }, name)

/-- Set the definition with a name. -/
def insert (c : StyleCollector) (name source : String) : StyleCollector :=
  { c with definitions := Json.Decoder.putEntry name source c.definitions }

end StyleCollector

end DesignCompiler.Styling
