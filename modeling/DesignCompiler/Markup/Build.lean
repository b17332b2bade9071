import DesignCompiler.Element.Registry
import DesignCompiler.FromDesign.Repetition
import DesignCompiler.Markup.Jsx
import DesignCompiler.Project.Options

/-! The markup of a tree of elements. -/

namespace DesignCompiler.Markup

open Styling

/-- What markup is built with. -/
structure Setting where
  scheme : Scheme
  registry : ComponentRegistry
  options : Project.ConvertOptions

/-- How far the building has come: the styling, and the names of the collections so far. -/
structure Building where
  progress : Progress
  collections : List String
  deriving DecidableEq, Repr

/-- The opening of an element, which takes its style. -/
def openElement (s : Setting) (b : Building) (keyed : Bool) (h : ElementHead)
    (texts : List (String × String)) : Building × Opening :=
  let (progress, style) := styleElement s.scheme b.progress h
  ({ b with progress := progress }, ⟨h.tag, style, keyed, texts⟩)

/-- The content of a text: the prop that supplies it, or its text. -/
def contentOf (h : ElementHead) : TextContent :=
  match h.remarks.propBinding with
  | some prop => .prop prop
  | none => .literal (h.content.getD "")

/-- The markup of a text. -/
def textMarkup (o : Opening) (c : TextContent) : Jsx :=
  if c = .literal "" then .void o else .text o c

/-- The image that an element shows as its background. -/
def imageRef? (h : ElementHead) : Option String :=
  match h.style.background with
  | some (.image i) => i.imageRef
  | _ => none

/-- The file of an image: the asset for its node or for the image, or a file named after it. -/
def imageFile (o : Project.ConvertOptions) (h : ElementHead) : String :=
  match o.asset? h.sourceId with
  | some file => file
  | none =>
    match (imageRef? h).bind o.asset? with
    | some file => file
    | none => Naming.identifier .kebab h.name ++ ".png"

/-- The attributes of an image. -/
def imageTexts (o : Project.ConvertOptions) (h : ElementHead) : List (String × String) :=
  [("src", o.assetUrl (imageFile o h)), ("alt", altText h.name)]

/-- The identifier of an icon, which ends in `Icon`. -/
def iconIdentifier (name : String) : String :=
  let ident := Naming.componentIdentifier name
  if "Icon".toList.isSuffixOf ident.toList then ident else ident ++ "Icon"

/-- The markup of an icon: its asset, or a comment when there is none. -/
def iconMarkup (o : Project.ConvertOptions) (keyed : Bool) (h : ElementHead) : Jsx :=
  match o.asset? h.sourceId with
  | some file => .icon ⟨iconIdentifier h.name, o.assetUrl file⟩ keyed
  | none => .comment ("icon: " ++ h.name)

/-- The markup of an instance: its component, or a comment when that is not known. -/
def instanceMarkup (r : ComponentRegistry) (keyed : Bool) (h : ElementHead) : Jsx :=
  match h.instanceOf.filter fun i => r.contains i.componentId with
  | some i => .component h.tag i.overrides keyed
  | none => .comment ("missing component: " ++ h.name)

/-- The comments for the remarks about an element. -/
def comments (h : ElementHead) : List Jsx := h.remarks.warnings.map .comment

/-- The name that is wanted for the collection of a template. -/
def collectionName (template : ElementHead) : String :=
  Naming.identifier .camel (FromDesign.baseName template.name) ++ "Items"

/-- The repetition of a container. -/
def repetition? (h : ElementHead) : Option Repeat :=
  if h.remarks.isRepeating then h.remarks.repetition else none

/-- Whether a container stands on one line with its children: when these are one text without
remarks. -/
def standsOnOneLine : List Element → Bool
  | [.mk h _] => h.kind == .text && h.remarks.warnings.isEmpty
  | _ => false

mutual

/-- The markup of an element. -/
def markup (s : Setting) (b : Building) (keyed : Bool) : Element → Building × Jsx
  | .mk h children =>
    match h.kind with
    | .text =>
      let (b, o) := openElement s b keyed h []
      (b, textMarkup o (contentOf h))
    | .image =>
      let (b, o) := openElement s b keyed h (imageTexts s.options h)
      (b, .void o)
    | .divider =>
      let (b, o) := openElement s b keyed h []
      (b, .void o)
    | .icon => (b, iconMarkup s.options keyed h)
    | .componentInstance => (b, instanceMarkup s.registry keyed h)
    | .container | .component =>
      let (b, o) := openElement s b keyed h []
      if children.isEmpty then (b, .void o)
      else if standsOnOneLine children then
        let (b, js) := onlyMarkup s b children
        (b, .inlined o js)
      else
        let (b, js) := childrenMarkup s b (repetition? h) 0 children
        (b, .block o js)

/-- The markup of the first of some children. -/
def onlyMarkup (s : Setting) (b : Building) : List Element → Building × Jsx
  | [] => (b, .comment "")
  | e :: _ => markup s b false e

/-- The markup of children that are numbered from `i` on. A template stands for all members of a
repetition. -/
def childrenMarkup (s : Setting) (b : Building) (r : Option Repeat) (i : Nat) :
    List Element → Building × List Jsx
  | [] => (b, [])
  | .mk h children :: es =>
    let (b, js) :=
      match r with
      | some r =>
        if i == r.template then
          let name := Naming.fresh b.collections (collectionName h)
          let (b, j) := markup s { b with collections := b.collections ++ [name] } true (.mk h children)
          (b, comments h ++ [.each ⟨name, r.members.length⟩ j])
        else if r.members.contains i then (b, [])
        else
          let (b, j) := markup s b false (.mk h children)
          (b, comments h ++ [j])
      | none =>
        let (b, j) := markup s b false (.mk h children)
        (b, comments h ++ [j])
    let (b, rest) := childrenMarkup s b r (i + 1) es
    (b, js ++ rest)

end

/-- The markup of a component, and the styling after it. -/
def build (s : Setting) (p : Progress) (component : String) (root : Element) :
    Progress × Markup :=
  let (b, j) := markup s ⟨p, []⟩ false root
  (b.progress, ⟨component, j, root.head.remarks.warnings⟩)

end DesignCompiler.Markup
