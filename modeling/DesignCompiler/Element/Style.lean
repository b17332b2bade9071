import DesignCompiler.Element.Color
import DesignCompiler.Geometry

/-! How an element looks, apart from any way to write it. -/

namespace DesignCompiler

inductive GradientKind where
  | linear
  | radial
  | angular
  deriving DecidableEq, Repr

/-- A color at a position between zero and one. -/
structure GradientStop where
  color : Color
  position : Float

/-- A gradient. The angle, in degrees clockwise from the top, is known for linear ones only. -/
structure Gradient where
  kind : GradientKind
  angle : Option Float
  stops : List GradientStop

structure ImageFill where
  imageRef : Option String
  scaleMode : Option String
  deriving DecidableEq, Repr

inductive Background where
  | solid (c : Color)
  | gradient (g : Gradient)
  | image (i : ImageFill)

inductive BorderStyle where
  | solid
  | dashed
  deriving DecidableEq, Repr

/-- Where a border lies relative to the edge. -/
inductive BorderPosition where
  | inside
  | outside
  | center
  deriving DecidableEq, Repr

structure Border where
  width : Float
  style : BorderStyle
  color : Color
  position : BorderPosition

/-- The radius of the corners, the same for all or one for each. -/
inductive Radius where
  | uniform (r : Float)
  | corners (c : Corners)

structure Shadow where
  inset : Bool
  x : Float
  y : Float
  blur : Float
  spread : Float
  color : Color

inductive Overflow where
  | visible
  | hidden
  deriving DecidableEq, Repr

def Overflow.css : Overflow → String
  | visible => "visible"
  | hidden => "hidden"

inductive TextAlign where
  | left
  | right
  | center
  | justify
  deriving DecidableEq, Repr

def TextAlign.css : TextAlign → String
  | left => "left"
  | right => "right"
  | center => "center"
  | justify => "justify"

inductive TextTransform where
  | uppercase
  | lowercase
  | capitalize
  deriving DecidableEq, Repr

def TextTransform.css : TextTransform → String
  | uppercase => "uppercase"
  | lowercase => "lowercase"
  | capitalize => "capitalize"

inductive TextDecorationLine where
  | underline
  | lineThrough
  deriving DecidableEq, Repr

def TextDecorationLine.css : TextDecorationLine → String
  | underline => "underline"
  | lineThrough => "line-through"

/-- The font of a text; lengths are in pixels. -/
structure Font where
  family : Option String
  size : Float
  weight : Nat
  italic : Bool
  lineHeight : Option Float
  letterSpacing : Option Float
  align : Option TextAlign
  transform : Option TextTransform
  decoration : Option TextDecorationLine
  color : Option Color

/-- The font of a text about which nothing is said. -/
def Font.plain : Font where
  family := none
  size := 16.0
  weight := 400
  italic := false
  lineHeight := none
  letterSpacing := none
  align := none
  transform := none
  decoration := none
  color := none

/-- The look of an element. -/
structure Style where
  background : Option Background
  border : Option Border
  borderRadius : Option Radius
  shadows : List Shadow
  opacity : Option Float
  overflow : Option Overflow
  font : Option Font

namespace Style

/-- The look about which nothing is said. -/
def plain : Style := ⟨none, none, none, [], none, none, none⟩

def isPlain (s : Style) : Bool :=
  s.background.isNone && s.border.isNone && s.borderRadius.isNone && s.shadows.isEmpty &&
    s.opacity.isNone && s.overflow.isNone && s.font.isNone

end Style

end DesignCompiler
