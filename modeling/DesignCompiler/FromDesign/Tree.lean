import DesignCompiler.FromDesign.Classification
import DesignCompiler.FromDesign.Layout
import DesignCompiler.FromDesign.Props
import DesignCompiler.FromDesign.Registry
import DesignCompiler.FromDesign.Repetition
import DesignCompiler.FromDesign.Style

/-! The tree of elements of one component. Every visible node becomes an element, in order; a child
that could not be read leaves a placeholder. -/

namespace DesignCompiler.FromDesign

open Document

/-- What is known while a tree is built: the components, the shared styles if their names are
wanted, and the text props of the component, by property key. -/
structure Surroundings where
  registry : ComponentRegistry
  styles : Option (List (String × StyleMeta))
  textProps : List (String × String)

/-- The remark about behaviour. -/
def hintWarning (hint : String) : String :=
  "interactive behavior likely needed (" ++ hint ++ ")"

/-- Remark that an element probably needs behaviour. -/
def addHint (nodeId hint : String) (h : ElementHead) : Reported ElementHead :=
  ({ h with remarks := { h.remarks with
      interactionHint := some hint
      warnings := h.remarks.warnings ++ [hintWarning hint] } },
    [.warning .interactionHint (some nodeId)
      (h.name ++ " suggests interactive behavior (" ++ hint ++ ")")])

/-- Add a remark to an element. -/
def addWarning (warning : String) (h : ElementHead) : ElementHead :=
  { h with remarks := { h.remarks with warnings := h.remarks.warnings ++ [warning] } }

/-- The head of an element before anything is done that its kind asks for. -/
def startHead (s : Surroundings) (c : Classification) (a : Attributes) : Reported ElementHead :=
  let (style, reported) := styleOf a
  let style := match s.styles with
    | some styles => nameStyleColors styles style
    | none => style
  let base := ElementHead.bare a.id c.kind c.tag a.name
  let head := { base with
    layout := layoutOf a
    style := style
    remarks := { base.remarks with styleRefs := a.sharedStyles } }
  match interactionHint a.name with
  | some hint =>
    let (head, hinted) := addHint a.id hint head
    (head, reported ++ hinted)
  | none => (head, reported)

/-- Give a text its content and the prop that supplies it. -/
def withContent (s : Surroundings) (a : Attributes) (h : ElementHead) : ElementHead :=
  let key := (a.propertyReferences.find? (·.1 == "characters")).map (·.2)
  let binding := key.bind fun k => (s.textProps.find? (·.1 == k)).map (·.2)
  { h with
    content := some (a.characters.getD "")
    remarks := { h.remarks with propBinding := binding } }

/-- Give an instance its component and the values of its props. -/
def withComponent (s : Surroundings) (a : Attributes) (h : ElementHead) : Reported ElementHead :=
  match a.componentId with
  | none =>
    (addWarning "instance without a component reference" h,
      [.warning .nodeNotFound (some a.id) "instance has no component id"])
  | some id =>
    let h := { h with instanceOf := some ⟨id, overridesOf a⟩ }
    match s.registry.get? id with
    | some entry => ({ h with tag := Naming.componentIdentifier entry.displayName }, [])
    | none =>
      (addWarning ("component " ++ id ++ " not found") h,
        [.warning .nodeNotFound (some a.id) ("instance refers to unknown component " ++ id)])

/-- Whether a slot takes part: a node does when it is visible, and an invalid child does. -/
def isShown : Child → Bool
  | .node a _ => a.visible
  | .invalid _ => true

/-- Whether a slot holds a node that has opted out of the arrangement. -/
def isOptedOut : Child → Bool
  | .node a _ => isExplicitlyAbsolute a
  | .invalid _ => false

/-- Make a container the origin of the absolute positions below it, and remark that it positions its
children by hand. -/
def withShownChildren (a : Attributes) (shown : List Child) (h : ElementHead) :
    Reported ElementHead :=
  let manual := !a.hasAutoLayout
  let h :=
    if manual || shown.any isOptedOut then
      { h with
        layout := { h.layout with position := .relative }
        remarks := { h.remarks with hasAbsoluteChildren := true } }
    else h
  if manual then
    (addWarning noAutoLayoutWarning h,
      [.warning .noAutoLayout (some a.id) (a.name ++ " positions its children manually")])
  else (h, [])

/-- An element from its node and the elements of its children, which only a container or a component
has. -/
def assemble (s : Surroundings) (c : Classification) (a : Attributes) (children : List Child)
    (built : Reported (List Element)) : Reported Element :=
  let (head, reported) := startHead s c a
  match c.kind with
  | .text => (.leaf (withContent s a head), reported)
  | .componentInstance =>
    let (head, more) := withComponent s a head
    (.leaf head, reported ++ more)
  | .image | .icon | .divider => (.leaf head, reported)
  | .container | .component =>
    match children.filter isShown with
    | [] => (.leaf head, reported)
    | shown =>
      let (head, more) := withShownChildren a shown head
      (.mk head built.1, reported ++ more ++ built.2)

/-- The element that stands for a child that could not be read; `index` is its number among the
children that are shown. -/
def placeholder (parent : Attributes) (index : Nat) (bad : InvalidChild) : Reported Element :=
  let sourceId := bad.id.getD (parent.id ++ "-" ++ toString index)
  let head := ElementHead.bare sourceId .container "div" (bad.name.getD "Unparsed node")
  (.leaf (addWarning ("source node could not be parsed: " ++ bad.reason) head),
    [.warning .nodeParseFailure (some sourceId) bad.reason])

/-- Place an element inside its parent, if the parent does not arrange it. -/
def place (parent a : Attributes) (e : Element) : Element :=
  if !parent.hasAutoLayout || isExplicitlyAbsolute a then
    e.mapHead fun h =>
      { h with layout := { h.layout with position := absolutePosition a parent.bounds } }
  else e

mutual

/-- The element for a child of a node. -/
def buildChild (s : Surroundings) (parent : Attributes) (parentTag : String) (index : Nat) :
    Child → Reported Element
  | .invalid bad => placeholder parent index bad
  | .node a children =>
    let c := classify ⟨a, children⟩ (some parentTag)
    let (e, reported) := assemble s c a children (buildChildren s a c.tag 0 children)
    (place parent a e, reported)

/-- The elements for the children of a node; those that are shown are numbered from `index` on. -/
def buildChildren (s : Surroundings) (parent : Attributes) (parentTag : String) (index : Nat) :
    List Child → Reported (List Element)
  | [] => ([], [])
  | c :: cs =>
    if isShown c then
      let (e, reported) := buildChild s parent parentTag index c
      let (es, more) := buildChildren s parent parentTag (index + 1) cs
      (e :: es, reported ++ more)
    else buildChildren s parent parentTag index cs

end

/-- The element for a node with a given classification. -/
def buildAs (s : Surroundings) (c : Classification) (n : Node) : Reported Element :=
  assemble s c n.attrs n.children (buildChildren s n.attrs c.tag 0 n.children)

/-- The element for a component set: its first variant under the identity of the set, with the props
of all variants. The values of the props may tell of behaviour when the variant's name does not. -/
def buildSet (s : Surroundings) (set : Node) : Reported Element :=
  let shown := (set.nodes.head?).getD set
  let (e, reported) := buildAs s (named .component set.attrs.name) shown
  let props := setProps set
  let head := { e.head with
    id := elementId set.attrs.id
    sourceId := set.attrs.id
    name := set.attrs.name
    props := props
    remarks := { e.head.remarks with isVariantContainer := true } }
  let hint := if head.remarks.interactionHint.isSome then none
    else (props.flatMap (·.values)).findSome? interactionHint
  match hint with
  | some hint =>
    let (head, hinted) := addHint set.attrs.id hint head
    (.mk head e.children, reported ++ hinted)
  | none => (.mk head e.children, reported)

/-- The tree of a component, a component set or any other node taken as a component. -/
def build (registry : ComponentRegistry) (styles : Option (List (String × StyleMeta))) (n : Node) :
    Reported Element :=
  let s : Surroundings := ⟨registry, styles, textPropNames n.attrs.propertyDefinitions⟩
  let (e, reported) :=
    if n.attrs.kind == .componentSet then buildSet s n
    else
      let (e, reported) := buildAs s (classify n none) n
      (e.mapHead fun h => { h with props := declaredProps true n.attrs.propertyDefinitions },
        reported)
  let root := e.mapHead fun h => { h with remarks := { h.remarks with isComponentRoot := true } }
  (markRepetitions root, reported)

end DesignCompiler.FromDesign
