import DesignCompiler.Element.Basic
import DesignCompiler.Json.Decoder

/-! Elements as JSON data, written in full and read with defaults for what is left out. -/

namespace DesignCompiler

open Json (Value)

/-- Words for the cases of a type. -/
abbrev Words (α : Type) := List (String × α)

namespace Words

def ofKind : Words ElementKind := [
  ("container", .container), ("text", .text), ("image", .image), ("icon", .icon),
  ("component", .component), ("instance", .componentInstance), ("divider", .divider)]

def ofDisplay : Words Display := [("flex", .flex), ("block", .block), ("none", .none)]

def ofDirection : Words FlexDirection := [("row", .row), ("column", .column)]

def ofJustify : Words Justify := [
  ("flex_start", .flexStart), ("center", .center), ("flex_end", .flexEnd),
  ("space_between", .spaceBetween)]

def ofAlign : Words Align := [
  ("flex_start", .flexStart), ("center", .center), ("flex_end", .flexEnd),
  ("baseline", .baseline)]

def ofGradient : Words GradientKind := [
  ("linear", .linear), ("radial", .radial), ("angular", .angular)]

def ofBorderStyle : Words BorderStyle := [("solid", .solid), ("dashed", .dashed)]

def ofBorderPosition : Words BorderPosition := [
  ("inside", .inside), ("outside", .outside), ("center", .center)]

def ofOverflow : Words Overflow := [("visible", .visible), ("hidden", .hidden)]

def ofTextAlign : Words TextAlign := [
  ("left", .left), ("right", .right), ("center", .center), ("justify", .justify)]

def ofTransform : Words TextTransform := [
  ("uppercase", .uppercase), ("lowercase", .lowercase), ("capitalize", .capitalize)]

def ofDecoration : Words TextDecorationLine := [
  ("underline", .underline), ("line_through", .lineThrough)]

def ofPropType : Words PropType := [
  ("string", .string), ("boolean", .boolean), ("enum", .enum), ("node", .node)]

/-- The word of a case. -/
def word {α : Type} [BEq α] (ws : Words α) (a : α) : Value :=
  .string (((ws.find? (·.2 == a)).map (·.1)).getD "")

end Words

open Words Json.Value

namespace Inset

def toJson (i : Inset) : Value :=
  .object [("top", ofOption ofFloat i.top), ("right", ofOption ofFloat i.right),
    ("bottom", ofOption ofFloat i.bottom), ("left", ofOption ofFloat i.left)]

end Inset

namespace Position

def toJson : Position → Value
  | absolute i => .object [("absolute", i.toJson)]
  | p => .string p.css

end Position

namespace Extent

def toJson : Extent → Value
  | fixed v => .object [("type", .string "fixed"), ("value", ofFloat v)]
  | fill => .object [("type", .string "fill")]
  | hug => .object [("type", .string "hug")]
  | auto => .object [("type", .string "auto")]

end Extent

namespace Layout

def toJson (l : Layout) : Value :=
  .object [
    ("display", ofDisplay.word l.display),
    ("position", l.position.toJson),
    ("direction", ofOption ofDirection.word l.direction),
    ("wrap", .bool l.wrap),
    ("gap", ofOption ofFloat l.gap),
    ("row_gap", ofOption ofFloat l.rowGap),
    ("column_gap", ofOption ofFloat l.columnGap),
    ("padding", ofOption (fun s : Sides => ofList ofFloat s.toList) l.padding),
    ("justify", ofOption ofJustify.word l.justify),
    ("align", ofOption ofAlign.word l.align),
    ("width", l.width.toJson),
    ("height", l.height.toJson)]

end Layout

/-- An entry that is left out when there is nothing to say. -/
def optionalEntry (key : String) (v : Option Value) : List (String × Value) :=
  match v with
  | some v => [(key, v)]
  | none => []

namespace Color

def toJson (c : Color) : Value :=
  .object ([("r", ofNat c.r.toNat), ("g", ofNat c.g.toNat), ("b", ofNat c.b.toNat),
    ("a", ofFloat c.a)] ++ optionalEntry "token_ref" (c.tokenRef.map .string))

end Color

namespace Gradient

def toJson (g : Gradient) : Value :=
  .object [("kind", ofGradient.word g.kind), ("angle", ofOption ofFloat g.angle),
    ("stops", ofList (fun s => .object [("color", s.color.toJson),
      ("position", ofFloat s.position)]) g.stops)]

end Gradient

namespace Background

def toJson : Background → Value
  | solid c => .object [("solid", c.toJson)]
  | gradient g => .object [("gradient", g.toJson)]
  | image i => .object [("image", .object [("image_ref", ofString? i.imageRef),
      ("scale_mode", ofString? i.scaleMode)])]

end Background

namespace Border

def toJson (b : Border) : Value :=
  .object [("width", ofFloat b.width), ("style", ofBorderStyle.word b.style),
    ("color", b.color.toJson), ("position", ofBorderPosition.word b.position)]

end Border

namespace Radius

def toJson : Radius → Value
  | uniform r => ofFloat r
  | corners c => ofList ofFloat c.toList

end Radius

namespace Shadow

def toJson (s : Shadow) : Value :=
  .object [("inset", .bool s.inset), ("x", ofFloat s.x), ("y", ofFloat s.y),
    ("blur", ofFloat s.blur), ("spread", ofFloat s.spread), ("color", s.color.toJson)]

end Shadow

namespace Font

def toJson (f : Font) : Value :=
  .object [
    ("family", ofString? f.family),
    ("size", ofFloat f.size),
    ("weight", ofNat f.weight),
    ("italic", .bool f.italic),
    ("line_height", ofOption ofFloat f.lineHeight),
    ("letter_spacing", ofOption ofFloat f.letterSpacing),
    ("align", ofOption ofTextAlign.word f.align),
    ("transform", ofOption ofTransform.word f.transform),
    ("decoration", ofOption ofDecoration.word f.decoration),
    ("color", ofOption Color.toJson f.color)]

end Font

namespace Style

def toJson (s : Style) : Value :=
  .object [
    ("background", ofOption Background.toJson s.background),
    ("border", ofOption Border.toJson s.border),
    ("border_radius", ofOption Radius.toJson s.borderRadius),
    ("shadows", ofList Shadow.toJson s.shadows),
    ("opacity", ofOption ofFloat s.opacity),
    ("overflow", ofOption ofOverflow.word s.overflow),
    ("font", ofOption Font.toJson s.font)]

end Style

namespace PropDef

def toJson (p : PropDef) : Value :=
  .object ([("name", .string p.name), ("type", ofPropType.word p.type)] ++
    optionalEntry "values" (if p.values.isEmpty then none else some (ofList .string p.values)) ++
    optionalEntry "default_value" (p.default.map .string))

end PropDef

namespace OverrideValue

def toJson : OverrideValue → Value
  | text s => .string s
  | bool b => .bool b

end OverrideValue

namespace InstanceRef

def toJson (i : InstanceRef) : Value :=
  .object [("component_id", .string i.componentId),
    ("overrides", .object (i.overrides.map fun (k, v) => (k, v.toJson)))]

end InstanceRef

namespace Repeat

def toJson (r : Repeat) : Value :=
  .object [("template", ofNat r.template), ("members", ofList ofNat r.members)]

end Repeat

namespace Remarks

def toJson (m : Remarks) : Value :=
  .object [
    ("is_component_root", .bool m.isComponentRoot),
    ("is_variant_container", .bool m.isVariantContainer),
    ("is_repeating", .bool m.isRepeating),
    ("repeat", ofOption Repeat.toJson m.repetition),
    ("has_absolute_children", .bool m.hasAbsoluteChildren),
    ("warnings", ofList .string m.warnings),
    ("style_refs", .object (m.styleRefs.map fun (k, v) => (k, .string v))),
    ("prop_binding", ofString? m.propBinding),
    ("interaction_hint", ofString? m.interactionHint)]

end Remarks

namespace Element

mutual

def toJson : Element → Value
  | mk h children =>
    .object ([
      ("id", .string h.id),
      ("source_id", .string h.sourceId),
      ("kind", ofKind.word h.kind),
      ("tag", .string h.tag),
      ("name", .string h.name),
      ("layout", h.layout.toJson),
      ("style", h.style.toJson),
      ("content", ofString? h.content),
      ("children", .array (toJsonAll children))] ++
      optionalEntry "props"
        (if h.props.isEmpty then none else some (ofList PropDef.toJson h.props)) ++
      optionalEntry "instance" (h.instanceOf.map InstanceRef.toJson) ++
      [("meta", h.remarks.toJson)])

def toJsonAll : List Element → List Value
  | [] => []
  | e :: es => e.toJson :: toJsonAll es

end

end Element

/-! ## Reading -/

namespace ReadElement

open Json Json.Decoder Json.Fields

def inset : Decoder Inset := record "Inset" <|
  Inset.mk <$> nullable "top" float <*> nullable "right" float <*> nullable "bottom" float
    <*> nullable "left" float

def position : Decoder Position := cases [("static", .static), ("relative", .relative)]
  [("absolute", inset.map .absolute)]

/-- The value of a size that has none. -/
def noValue (name : String) (e : Extent) : Decoder Extent := fun _ d =>
  match d with
  | .null => .ok e
  | d => .error (.wrongType ("unit variant IrSize::" ++ name) d)

/-- The cases of a size, each with its value. -/
def extents : Words (Fields Extent) := [
  ("fixed", required "value" (float.map .fixed)),
  ("fill", withDefault "value" .fill (noValue "Fill" .fill)),
  ("hug", withDefault "value" .hug (noValue "Hug" .hug)),
  ("auto", withDefault "value" .auto (noValue "Auto" .auto))]

/-- A size: the word for its case, and a value if it is fixed. -/
def extent : Decoder Extent := fun p d =>
  let form := "adjacently tagged enum IrSize"
  match recordAs form (required "type" (oneOf extents none)) p d with
  | .error e => .error e
  | .ok fields => recordAs form fields p d

def sides : Decoder Sides :=
  (exactly 4 float).map fun xs => (Sides.ofList? xs).getD ⟨0.0, 0.0, 0.0, 0.0⟩

def layout : Decoder Layout := record "IrLayout" <|
  Layout.mk <$> withDefault "display" .block (oneOf ofDisplay none)
    <*> withDefault "position" .static position
    <*> optional "direction" (oneOf ofDirection none) <*> withDefault "wrap" false Decoder.bool
    <*> optional "gap" float <*> optional "row_gap" float <*> optional "column_gap" float
    <*> optional "padding" sides <*> optional "justify" (oneOf ofJustify none)
    <*> optional "align" (oneOf ofAlign none) <*> withDefault "width" .auto extent
    <*> withDefault "height" .auto extent

def byte : Decoder UInt8 := (natBelow 256 "u8").map Nat.toUInt8

def color : Decoder Color := record "IrColor" <|
  Color.mk <$> required "r" byte <*> required "g" byte <*> required "b" byte
    <*> required "a" float <*> optional "token_ref" Decoder.string

def stop : Decoder GradientStop := record "GradientStop" <|
  GradientStop.mk <$> required "color" color <*> required "position" float

def gradient : Decoder Gradient := record "IrGradient" <|
  Gradient.mk <$> required "kind" (oneOf ofGradient none) <*> nullable "angle" float
    <*> required "stops" (list stop)

def imageFill : Decoder ImageFill := record "ImageFill" <|
  ImageFill.mk <$> nullable "image_ref" Decoder.string <*> nullable "scale_mode" Decoder.string

def background : Decoder Background := cases [] [
  ("solid", color.map .solid), ("gradient", gradient.map .gradient),
  ("image", imageFill.map .image)]

def border : Decoder Border := record "IrBorder" <|
  Border.mk <$> required "width" float <*> required "style" (oneOf ofBorderStyle none)
    <*> required "color" color <*> required "position" (oneOf ofBorderPosition none)

/-- Four numbers among known values. -/
def numbers? (vs : List Value) : List Float :=
  vs.filterMap fun | .number n => some n.toFloat | _ => none

def radius : Decoder Radius := untagged "Radius" fun
  | .number n => some (.uniform n.toFloat)
  | .array vs =>
    if vs.length == 4 then (Corners.ofList? (numbers? vs)).map .corners else none
  | _ => none

def shadow : Decoder Shadow := record "IrShadow" <|
  Shadow.mk <$> required "inset" Decoder.bool <*> required "x" float <*> required "y" float
    <*> required "blur" float <*> required "spread" float <*> required "color" color

def font : Decoder Font := record "IrFont" <|
  Font.mk <$> optional "family" Decoder.string <*> withDefault "size" 16.0 float
    <*> withDefault "weight" 400 (natBelow UInt16.size "u16")
    <*> withDefault "italic" false Decoder.bool <*> optional "line_height" float
    <*> optional "letter_spacing" float <*> optional "align" (oneOf ofTextAlign none)
    <*> optional "transform" (oneOf ofTransform none)
    <*> optional "decoration" (oneOf ofDecoration none) <*> optional "color" color

def style : Decoder Style := record "IrStyle" <|
  Style.mk <$> optional "background" background <*> optional "border" border
    <*> optional "border_radius" radius <*> withDefault "shadows" [] (list shadow)
    <*> optional "opacity" float <*> optional "overflow" (oneOf ofOverflow none)
    <*> optional "font" font

def prop : Decoder PropDef := record "IrPropDef" <|
  PropDef.mk <$> required "name" Decoder.string <*> required "type" (oneOf ofPropType none)
    <*> withDefault "values" [] (list Decoder.string) <*> optional "default_value" Decoder.string

def override : Decoder OverrideValue := untagged "OverrideValue" fun
  | .string s => some (.text s)
  | .bool b => some (.bool b)
  | _ => none

def instanceOf : Decoder InstanceRef := record "InstanceRef" <|
  InstanceRef.mk <$> required "component_id" Decoder.string <*> required "overrides" (table override)

def index : Decoder Nat := natBelow UInt64.size "usize"

def repetition : Decoder Repeat := record "RepeatInfo" <|
  Repeat.mk <$> required "template" index <*> required "members" (list index)

def remarks : Decoder Remarks := record "IrMeta" <|
  Remarks.mk <$> withDefault "is_component_root" false Decoder.bool
    <*> withDefault "is_variant_container" false Decoder.bool
    <*> withDefault "is_repeating" false Decoder.bool <*> optional "repeat" repetition
    <*> withDefault "has_absolute_children" false Decoder.bool
    <*> withDefault "warnings" [] (list Decoder.string)
    <*> withDefault "style_refs" [] (table Decoder.string)
    <*> optional "prop_binding" Decoder.string <*> optional "interaction_hint" Decoder.string

/-- An element from its fields; one without an identity gets that of its source. -/
def assemble (id : Option String) (sourceId : String) (kind : ElementKind) (tag name : String)
    (layout : Layout) (style : Style) (content : Option String) (children : List Element)
    (props : List PropDef) (instanceOf : Option InstanceRef) (remarks : Remarks) : Element :=
  .mk ⟨id.getD (elementId sourceId), sourceId, kind, tag, name, layout, style, content, props,
    instanceOf, remarks⟩ children

/-- An element with at most so many levels. -/
def element : Nat → Decoder Element
  | 0 => fun _ _ => .error .malformed
  | levels + 1 => record "IrNode" <|
    assemble <$> withDefault "id" none (Decoder.string.map some)
      <*> withDefault "source_id" "0:0" Decoder.string
      <*> withDefault "kind" .container (oneOf ofKind none)
      <*> withDefault "tag" "div" Decoder.string <*> withDefault "name" "" Decoder.string
      <*> withDefault "layout" Layout.plain layout <*> withDefault "style" Style.plain style
      <*> optional "content" Decoder.string
      <*> withDefault "children" [] (list (element levels))
      <*> withDefault "props" [] (list prop) <*> optional "instance" instanceOf
      <*> withDefault "meta" Remarks.none remarks

/-- An element whose JSON value is nested no deeper than JSON text may be. -/
def whole : Decoder Element := element Json.maxDepth

end ReadElement

end DesignCompiler
