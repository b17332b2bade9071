import DesignCompiler.FromDesign.Variants

/-! Props of a component from the properties that it declares, and the values that instances give
to them. -/

namespace DesignCompiler.FromDesign

open Document

/-- The prop names of the text properties, by property key. -/
def textPropNames (defs : List (String × PropertyDefinition)) : List (String × String) :=
  (defs.filter (·.2.kind == .text)).map fun (key, _) => (key, Naming.propIdentifier key)

def jsonBool? : Json.Value → Option Bool
  | .bool b => some b
  | _ => none

/-- The prop for a declared property. Variant properties make one only where the component is no
set, whose variants make them. -/
def propOf (withVariants : Bool) (name : String) (d : PropertyDefinition) : Option PropDef :=
  match d.kind with
  | .text => some (.string name d.default.string?)
  | .boolean => some (.boolean name ((jsonBool? d.default).map fun b => if b then "true" else "false"))
  | .instanceSwap => some (.node name)
  | .variant => if withVariants then PropDef.enumeration name d.options d.default.string? else none

/-- Add the prop for a property unless its name is taken. -/
def addProp (withVariants : Bool) (props : List PropDef) (entry : String × PropertyDefinition) :
    List PropDef :=
  let name := Naming.propIdentifier entry.1
  if props.any (·.name == name) then props
  else props ++ (propOf withVariants name entry.2).toList

/-- The props for declared properties; of two with one name the first remains. -/
def declaredProps (withVariants : Bool) (defs : List (String × PropertyDefinition)) :
    List PropDef :=
  defs.foldl (addProp withVariants) []

/-- The props of a component set: those of its variants, and the declared ones that have other
names. -/
def setProps (set : Node) : List PropDef :=
  let props := (propsOfSet set).map fun p => { p with name := Naming.propIdentifier p.name }
  (declaredProps false set.attrs.propertyDefinitions).foldl
    (fun acc p => if acc.any (·.name == p.name) then acc else acc ++ [p]) props

/-- The value that an instance gives to a prop. -/
def overrideOf (p : PropertyValue) : Option OverrideValue :=
  match p.kind with
  | .variant | .text => p.value.string?.map .text
  | .boolean => (jsonBool? p.value).map .bool
  | .instanceSwap => none

/-- The values that an instance gives, by prop name; of two for one name the last counts. -/
def overridesOf (a : Attributes) : List (String × OverrideValue) :=
  tableOf (a.componentProperties.filterMap fun (key, p) =>
    (overrideOf p).map fun v => (Naming.propIdentifier key, v))

end DesignCompiler.FromDesign
