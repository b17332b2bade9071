import DesignCompiler.Document.Reading
import DesignCompiler.FromDesign.Tree
import DesignCompiler.Project.Files

/-! The conversion of a document into the files of a project. -/

namespace DesignCompiler.Project

open Document FromDesign Styling Output

mutual

/-- The components that a tree shows: visible ones that lie in no other component, parents before
their children. -/
def shownComponents : Child → List Node
  | .node a children =>
    if !a.visible then []
    else if a.kind == .component || a.kind == .componentSet then [⟨a, children⟩]
    else shownComponentsIn children
  | .invalid _ => []

def shownComponentsIn : List Child → List Node
  | [] => []
  | c :: cs => shownComponents c ++ shownComponentsIn cs

end

/-- The nodes with given identities, and warnings about those that the document does not have. -/
def findTargets (d : Document) : List String → Reported (List Node)
  | [] => ([], [])
  | id :: ids =>
    let (nodes, reported) := findTargets d ids
    match d.root.find? id with
    | some n => (n :: nodes, reported)
    | none => (nodes, .warning .nodeNotFound (some id) "target node not found" :: reported)

/-- The nodes to convert: those that are asked for, or all components. -/
def targetNodes (o : ConvertOptions) (d : Document) : Reported (List Node) :=
  if o.targets.isEmpty then (shownComponents d.root.toChild, []) else findTargets d o.targets

/-- A node to convert and the name of its component. -/
structure Target where
  node : Node
  name : String

/-- Name the components, each differently. -/
def nameTargets (used : List String) : List Node → List Target
  | [] => []
  | n :: ns =>
    let name := Naming.fresh used (Naming.componentIdentifier n.attrs.name)
    ⟨n, name⟩ :: nameTargets (used ++ [name]) ns

/-- What the conversion of one component comes to. -/
structure ComponentOutput where
  files : List GeneratedFile
  diagnostics : Diagnostics
  tally : Tally

/-- Convert one component. -/
def convertComponent (o : ConvertOptions) (d : Document) (registry : ComponentRegistry)
    (t : Target) : ComponentOutput :=
  let scheme : Scheme := ⟨o.backend, o.themed, o.tokenTable⟩
  let (tree, reported) := FromDesign.build registry (some d.styles) t.node
  let (p, m) := Markup.build ⟨scheme, registry, o⟩ (Progress.start.beginComponent t.name) t.name tree
  let (p, sheet) := styleSheet scheme p [tree]
  let imports := (styleImports scheme p).filter fun line =>
    sheet.isSome || !Text.contains line ".module.css"
  { files :=
      componentFile o t.name tree.head.props m markupDepth imports ::
        (typesFile o t.name tree.head.props m).toList ++
        (sheet.map (styleSheetOf o t.name)).toList
    diagnostics := reported
    tally := p.tally }

/-- What a conversion comes to. -/
structure ConversionOutput where
  files : List GeneratedFile
  diagnostics : Diagnostics
  tally : Tally
  /-- The names of the components. -/
  components : List String

/-- Why there is no conversion. -/
inductive ConversionError where
  /-- The document cannot be read. -/
  | document (e : DocumentError)
  /-- A color of the token table is cut inside a character when it is read. -/
  | unreadableToken

/-- Convert a document. -/
def convert (o : ConvertOptions) (d : Document) :
    Except ConversionError ConversionOutput :=
  let (nodes, reported) := targetNodes o d
  let targets := nameTargets [] nodes
  let registry := registryOf d
  let outputs := targets.map (convertComponent o d registry)
  let components := targets.map (·.name)
  let shared := if components.isEmpty then []
    else indexFile o components :: (themeFile o o.tokenTable).toList
  let tally := Tally.sum (outputs.map (·.tally))
  if tally.unreadable then .error .unreadableToken
  else .ok
    { files := outputs.flatMap (·.files) ++ shared
      diagnostics := reported ++ outputs.flatMap (·.diagnostics)
      tally := tally
      components := components }

/-- Convert a document from JSON text. -/
def convertText (o : ConvertOptions) (s : String) : Except ConversionError ConversionOutput :=
  match Document.read s with
  | .error e => .error (.document e)
  | .ok d => convert o d

end DesignCompiler.Project
