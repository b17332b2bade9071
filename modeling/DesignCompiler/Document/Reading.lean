import DesignCompiler.Document.Node
import DesignCompiler.Json.Decoder

/-! Reading a document from JSON text. Every child is read on its own: one that does not fit leaves
an invalid slot, and the rest of the document is as it would be without it. -/

namespace DesignCompiler.Document

open Json Json.Decoder Json.Fields

namespace Read

def nodeKind : Decoder NodeKind := oneOf [
  ("DOCUMENT", .document), ("CANVAS", .canvas), ("FRAME", .frame), ("GROUP", .group),
  ("SECTION", .pageSection), ("COMPONENT", .component), ("COMPONENT_SET", .componentSet),
  ("INSTANCE", .componentInstance), ("TEXT", .text), ("RECTANGLE", .rectangle), ("ELLIPSE", .ellipse),
  ("LINE", .line), ("VECTOR", .vector), ("BOOLEAN_OPERATION", .booleanOperation), ("STAR", .star),
  ("POLYGON", .polygon)] (some .other)

def layoutMode : Decoder LayoutMode := oneOf [
  ("NONE", .none), ("HORIZONTAL", .horizontal), ("VERTICAL", .vertical)] (some .other)

def layoutWrap : Decoder LayoutWrap :=
  oneOf [("NO_WRAP", .noWrap), ("WRAP", .wrap)] (some .other)

def axisAlign : Decoder AxisAlign := oneOf [
  ("MIN", .min), ("CENTER", .center), ("MAX", .max), ("SPACE_BETWEEN", .spaceBetween),
  ("BASELINE", .baseline)] (some .other)

def sizingMode : Decoder SizingMode :=
  oneOf [("FIXED", .fixed), ("FILL", .fill), ("HUG", .hug)] (some .other)

def positioning : Decoder LayoutPositioning :=
  oneOf [("AUTO", .auto), ("ABSOLUTE", .absolute)] (some .other)

def vertical : Decoder VerticalConstraint := oneOf [
  ("TOP", .top), ("BOTTOM", .bottom), ("CENTER", .center), ("TOP_BOTTOM", .topBottom),
  ("SCALE", .scale)] none

def horizontal : Decoder HorizontalConstraint := oneOf [
  ("LEFT", .left), ("RIGHT", .right), ("CENTER", .center), ("LEFT_RIGHT", .leftRight),
  ("SCALE", .scale)] none

def constraints : Decoder Constraints := record "Constraints" <|
  Constraints.mk <$> required "vertical" vertical <*> required "horizontal" horizontal

def rect : Decoder Rect := record "Rect" <|
  Rect.mk <$> required "x" float <*> required "y" float <*> required "width" float
    <*> required "height" float

def point : Decoder Point := record "Vector2" <|
  Point.mk <$> required "x" float <*> required "y" float

/-- Four numbers, one for each corner. -/
def corners : Decoder Corners :=
  (exactly 4 float).map fun xs => (Corners.ofList? xs).getD ⟨0.0, 0.0, 0.0, 0.0⟩

def unitColor : Decoder UnitColor := record "Rgba" <|
  UnitColor.mk <$> required "r" float <*> required "g" float <*> required "b" float
    <*> withDefault "a" 1.0 float

def paintKind : Decoder PaintKind := oneOf [
  ("SOLID", .solid), ("GRADIENT_LINEAR", .gradientLinear), ("GRADIENT_RADIAL", .gradientRadial),
  ("GRADIENT_ANGULAR", .gradientAngular), ("GRADIENT_DIAMOND", .gradientDiamond),
  ("IMAGE", .image)] (some .other)

def colorStop : Decoder ColorStop := record "ColorStop" <|
  ColorStop.mk <$> required "position" float <*> required "color" unitColor

def paint : Decoder Paint := record "Paint" <|
  Paint.mk <$> required "type" paintKind <*> withDefault "visible" true bool
    <*> withDefault "opacity" 1.0 float <*> optional "color" unitColor
    <*> withDefault "gradientHandlePositions" [] (list point)
    <*> withDefault "gradientStops" [] (list colorStop) <*> optional "imageRef" string
    <*> optional "scaleMode" string

def effectKind : Decoder EffectKind := oneOf [
  ("DROP_SHADOW", .dropShadow), ("INNER_SHADOW", .innerShadow), ("LAYER_BLUR", .layerBlur),
  ("BACKGROUND_BLUR", .backgroundBlur)] (some .other)

def effect : Decoder Effect := record "Effect" <|
  Effect.mk <$> required "type" effectKind <*> withDefault "visible" true bool
    <*> optional "color" unitColor <*> optional "offset" point
    <*> withDefault "radius" 0.0 float <*> withDefault "spread" 0.0 float

def lineHeightUnit : Decoder LineHeightUnit := oneOf [
  ("PIXELS", .pixels), ("FONT_SIZE_%", .fontSizePercent), ("INTRINSIC_%", .intrinsicPercent)] none

def textAlign : Decoder TextAlign := oneOf [
  ("LEFT", .left), ("RIGHT", .right), ("CENTER", .center), ("JUSTIFIED", .justified)] none

def textCase : Decoder TextCase := oneOf [
  ("ORIGINAL", .asTyped), ("UPPER", .upper), ("LOWER", .lower), ("TITLE", .title),
  ("SMALL_CAPS", .smallCaps), ("SMALL_CAPS_FORCED", .smallCapsForced)] (some .other)

def textDecoration : Decoder TextDecoration := oneOf [
  ("NONE", .none), ("UNDERLINE", .underline), ("STRIKETHROUGH", .strikethrough)] none

def typeStyle : Decoder TypeStyle := record "TypeStyle" <|
  TypeStyle.mk <$> optional "fontFamily" string <*> optional "fontWeight" float
    <*> optional "fontSize" float <*> withDefault "italic" false bool
    <*> optional "lineHeightPx" float <*> optional "lineHeightPercentFontSize" float
    <*> optional "lineHeightUnit" lineHeightUnit <*> optional "letterSpacing" float
    <*> optional "textAlignHorizontal" textAlign <*> optional "textCase" textCase
    <*> optional "textDecoration" textDecoration

def propertyKind : Decoder PropertyKind := oneOf [
  ("BOOLEAN", .boolean), ("TEXT", .text), ("INSTANCE_SWAP", .instanceSwap),
  ("VARIANT", .variant)] none

def propertyValue : Decoder PropertyValue := record "ComponentProperty" <|
  PropertyValue.mk <$> required "type" propertyKind <*> required "value" any

def propertyDefinition : Decoder PropertyDefinition := record "ComponentPropertyDefinition" <|
  PropertyDefinition.mk <$> required "type" propertyKind <*> withDefault "defaultValue" .null any
    <*> withDefault "variantOptions" [] (list string)

def strokeAlign : Decoder StrokeAlign := oneOf [
  ("INSIDE", .inside), ("OUTSIDE", .outside), ("CENTER", .center)] (some .other)

/-- All attributes of a node, in the order in which they are declared. -/
def attributes : Fields Attributes :=
  Attributes.mk <$> required "id" string <*> withDefault "name" "" string
    <*> withDefault "visible" true bool <*> required "type" nodeKind
    <*> optional "layoutMode" layoutMode <*> optional "layoutWrap" layoutWrap
    <*> optional "primaryAxisAlignItems" axisAlign <*> optional "counterAxisAlignItems" axisAlign
    <*> optional "itemSpacing" float <*> optional "counterAxisSpacing" float
    <*> optional "paddingTop" float <*> optional "paddingRight" float
    <*> optional "paddingBottom" float <*> optional "paddingLeft" float
    <*> optional "layoutSizingHorizontal" sizingMode <*> optional "layoutSizingVertical" sizingMode
    <*> optional "layoutPositioning" positioning <*> optional "constraints" constraints
    <*> optional "absoluteBoundingBox" rect <*> withDefault "fills" [] (list paint)
    <*> withDefault "strokes" [] (list paint) <*> optional "strokeWeight" float
    <*> optional "strokeAlign" strokeAlign <*> withDefault "strokeDashes" [] (list float)
    <*> optional "cornerRadius" float <*> optional "rectangleCornerRadii" corners
    <*> withDefault "effects" [] (list effect) <*> optional "opacity" float
    <*> withDefault "clipsContent" false bool <*> optional "characters" string
    <*> optional "style" typeStyle <*> optional "componentId" string
    <*> withDefault "componentProperties" [] (table propertyValue)
    <*> withDefault "componentPropertyDefinitions" [] (table propertyDefinition)
    <*> withDefault "componentPropertyReferences" [] (table string)
    <*> optional "variantProperties" (table string) <*> withDefault "styles" [] (table string)

/-- The name of the field that holds the children. -/
def childrenField : String := "children"

/-- The attributes of a node and its children as they stand in the text. -/
def parts : Decoder (Attributes × List Value) := record "SourceNode" <|
  Prod.mk <$> attributes <*> withDefault childrenField [] (list any)

/-- The slot for a value whose children have been read. -/
def slot (v : Value) (children : List Child) : Child :=
  match decodeValue parts v with
  | .ok (attrs, _) => .node attrs children
  | .error m =>
    .invalid ⟨(v.get? "id").bind Value.string?, (v.get? "name").bind Value.string?, m.text⟩

mutual

/-- The slot for a value. -/
def child : Value → Child
  | .object es => slot (.object es) (childrenOfEntries es)
  | .array vs => slot (.array vs) (childrenAt attributes.names.length vs)
  | v => slot v []

/-- The children among the entries of an object. -/
def childrenOfEntries : List (String × Value) → List Child
  | [] => []
  | (k, v) :: rest => if k == childrenField then childrenOf v else childrenOfEntries rest

/-- The children at a position of a list. -/
def childrenAt : Nat → List Value → List Child
  | _, [] => []
  | 0, v :: _ => childrenOf v
  | i + 1, _ :: vs => childrenAt i vs

/-- The children that a value lists. -/
def childrenOf : Value → List Child
  | .array vs => children vs
  | _ => []

/-- One slot for each value. -/
def children : List Value → List Child
  | [] => []
  | v :: vs => child v :: children vs

end

/-- A node. -/
def node : Decoder Node := parts.map fun (attrs, values) => ⟨attrs, children values⟩

def componentMeta : Decoder ComponentMeta := record "ComponentMeta" <|
  ComponentMeta.mk <$> required "name" string <*> withDefault "description" "" string
    <*> optional "componentSetId" string

def styleMeta : Decoder StyleMeta := record "StyleMeta" <|
  StyleMeta.mk <$> required "name" string <*> optional "styleType" string

/-- A document. -/
def document : Decoder Document := record "SourceDocument" <|
  Document.mk <$> withDefault "name" "" string <*> required "document" node
    <*> withDefault "components" [] (table componentMeta)
    <*> withDefault "componentSets" [] (table componentMeta)
    <*> withDefault "styles" [] (table styleMeta)

end Read

/-- Why a document or one of its nodes cannot be had. -/
inductive DocumentError where
  | unreadable (f : Fault)
  | nodeNotFound (id : String)

/-- The error in words. -/
def DocumentError.message : DocumentError → String
  | unreadable f => "Invalid source document: " ++ f.text
  | nodeNotFound id => "Node not found: " ++ id

/-- Read a document from JSON text. -/
def read (s : String) : Except DocumentError Document :=
  (decodeText Read.document s).mapError .unreadable

end DesignCompiler.Document
