import DesignCompiler.Geometry
import DesignCompiler.Json.Value

/-! What a design tool says about one node of a document, apart from its children. -/

namespace DesignCompiler.Document

/-- The kind of a node. -/
inductive NodeKind where
  | document
  | canvas
  | frame
  | group
  | pageSection
  | component
  | componentSet
  | componentInstance
  | text
  | rectangle
  | ellipse
  | line
  | vector
  | booleanOperation
  | star
  | polygon
  | other
  deriving DecidableEq, Repr

/-- Shapes that are drawn as icons. -/
def NodeKind.isVector : NodeKind → Bool
  | vector | booleanOperation | star | polygon | line | ellipse => true
  | _ => false

/-- How a frame arranges its children. -/
inductive LayoutMode where
  | none
  | horizontal
  | vertical
  | other
  deriving DecidableEq, Repr

inductive LayoutWrap where
  | noWrap
  | wrap
  | other
  deriving DecidableEq, Repr

/-- Alignment along one axis of a frame. -/
inductive AxisAlign where
  | min
  | center
  | max
  | spaceBetween
  | baseline
  | other
  deriving DecidableEq, Repr

/-- How a node gets its size along one axis. -/
inductive SizingMode where
  | fixed
  | fill
  | hug
  | other
  deriving DecidableEq, Repr

/-- Whether a child takes part in the arrangement of its frame. -/
inductive LayoutPositioning where
  | auto
  | absolute
  | other
  deriving DecidableEq, Repr

inductive VerticalConstraint where
  | top
  | bottom
  | center
  | topBottom
  | scale
  deriving DecidableEq, Repr

inductive HorizontalConstraint where
  | left
  | right
  | center
  | leftRight
  | scale
  deriving DecidableEq, Repr

/-- How a manually placed node follows the size of its parent. -/
structure Constraints where
  vertical : VerticalConstraint
  horizontal : HorizontalConstraint
  deriving DecidableEq, Repr

/-- A color with channels from zero to one. -/
structure UnitColor where
  r : Float
  g : Float
  b : Float
  a : Float

inductive PaintKind where
  | solid
  | gradientLinear
  | gradientRadial
  | gradientAngular
  | gradientDiamond
  | image
  | other
  deriving DecidableEq, Repr

/-- A color at a position between zero and one along a gradient. -/
structure ColorStop where
  position : Float
  color : UnitColor

/-- One entry of a list of fills or strokes. -/
structure Paint where
  kind : PaintKind
  visible : Bool
  opacity : Float
  color : Option UnitColor
  handles : List Point
  stops : List ColorStop
  imageRef : Option String
  scaleMode : Option String

namespace Paint

/-- A visible paint of one color. -/
def solid (color : UnitColor) : Paint := ⟨.solid, true, 1.0, some color, [], [], none, none⟩

/-- A visible image that fills its box. -/
def image (imageRef : String) : Paint :=
  ⟨.image, true, 1.0, none, [], [], some imageRef, some "FILL"⟩

/-- The paint made invisible. -/
def hidden (p : Paint) : Paint := { p with visible := false }

end Paint

inductive EffectKind where
  | dropShadow
  | innerShadow
  | layerBlur
  | backgroundBlur
  | other
  deriving DecidableEq, Repr

/-- A shadow or a blur. -/
structure Effect where
  kind : EffectKind
  visible : Bool
  color : Option UnitColor
  offset : Option Point
  radius : Float
  spread : Float

inductive LineHeightUnit where
  | pixels
  | fontSizePercent
  | intrinsicPercent
  deriving DecidableEq, Repr

inductive TextAlign where
  | left
  | right
  | center
  | justified
  deriving DecidableEq, Repr

inductive TextCase where
  | asTyped
  | upper
  | lower
  | title
  | smallCaps
  | smallCapsForced
  | other
  deriving DecidableEq, Repr

inductive TextDecoration where
  | none
  | underline
  | strikethrough
  deriving DecidableEq, Repr

/-- The type style of a text. -/
structure TypeStyle where
  fontFamily : Option String
  fontWeight : Option Float
  fontSize : Option Float
  italic : Bool
  lineHeightPx : Option Float
  lineHeightPercent : Option Float
  lineHeightUnit : Option LineHeightUnit
  letterSpacing : Option Float
  textAlign : Option TextAlign
  textCase : Option TextCase
  textDecoration : Option TextDecoration

/-- The kind of a component property. -/
inductive PropertyKind where
  | boolean
  | text
  | instanceSwap
  | variant
  deriving DecidableEq, Repr

/-- A property as an instance sets it. -/
structure PropertyValue where
  kind : PropertyKind
  value : Json.Value

/-- A property as a component declares it. -/
structure PropertyDefinition where
  kind : PropertyKind
  default : Json.Value
  options : List String

inductive StrokeAlign where
  | inside
  | outside
  | center
  | other
  deriving DecidableEq, Repr

/-- The attributes of a node. -/
structure Attributes where
  id : String
  name : String
  visible : Bool
  kind : NodeKind
  layoutMode : Option LayoutMode
  layoutWrap : Option LayoutWrap
  primaryAlign : Option AxisAlign
  counterAlign : Option AxisAlign
  itemSpacing : Option Float
  counterSpacing : Option Float
  paddingTop : Option Float
  paddingRight : Option Float
  paddingBottom : Option Float
  paddingLeft : Option Float
  sizingHorizontal : Option SizingMode
  sizingVertical : Option SizingMode
  positioning : Option LayoutPositioning
  constraints : Option Constraints
  bounds : Option Rect
  fills : List Paint
  strokes : List Paint
  strokeWeight : Option Float
  strokeAlign : Option StrokeAlign
  strokeDashes : List Float
  cornerRadius : Option Float
  cornerRadii : Option Corners
  effects : List Effect
  opacity : Option Float
  clipsContent : Bool
  characters : Option String
  typeStyle : Option TypeStyle
  componentId : Option String
  componentProperties : List (String × PropertyValue)
  propertyDefinitions : List (String × PropertyDefinition)
  propertyReferences : List (String × String)
  variantProperties : Option (List (String × String))
  /-- Shared styles by what they style: fill, text or effect. -/
  sharedStyles : List (String × String)

namespace Attributes

/-- A visible node about which nothing else is known. -/
def bare (id name : String) (kind : NodeKind) : Attributes where
  id := id
  name := name
  visible := true
  kind := kind
  layoutMode := none
  layoutWrap := none
  primaryAlign := none
  counterAlign := none
  itemSpacing := none
  counterSpacing := none
  paddingTop := none
  paddingRight := none
  paddingBottom := none
  paddingLeft := none
  sizingHorizontal := none
  sizingVertical := none
  positioning := none
  constraints := none
  bounds := none
  fills := []
  strokes := []
  strokeWeight := none
  strokeAlign := none
  strokeDashes := []
  cornerRadius := none
  cornerRadii := none
  effects := []
  opacity := none
  clipsContent := false
  characters := none
  typeStyle := none
  componentId := none
  componentProperties := []
  propertyDefinitions := []
  propertyReferences := []
  variantProperties := none
  sharedStyles := []

/-- Whether the node arranges its children along an axis. -/
def hasAutoLayout (a : Attributes) : Bool :=
  a.layoutMode == some .horizontal || a.layoutMode == some .vertical

/-- Whether a visible fill is an image. -/
def hasVisibleImageFill (a : Attributes) : Bool :=
  a.fills.any fun p => p.visible && p.kind == .image

end Attributes

end DesignCompiler.Document
