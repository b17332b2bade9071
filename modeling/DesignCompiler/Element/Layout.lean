import DesignCompiler.Geometry

/-! How an element is placed and how it arranges its children, apart from any way to write it. -/

namespace DesignCompiler

inductive Display where
  | flex
  | block
  | none
  deriving DecidableEq, Repr

/-- Distances from the sides of the nearest positioned element around. -/
structure Inset where
  top : Option Float
  right : Option Float
  bottom : Option Float
  left : Option Float

/-- How an element is positioned; only an absolute position has distances. -/
inductive Position where
  | static
  | relative
  | absolute (inset : Inset)

namespace Position

def isAbsolute : Position → Bool
  | absolute _ => true
  | _ => false

def isStatic : Position → Bool
  | static => true
  | _ => false

def css : Position → String
  | static => "static"
  | relative => "relative"
  | absolute _ => "absolute"

def inset? : Position → Option Inset
  | absolute i => some i
  | _ => none

end Position

inductive FlexDirection where
  | row
  | column
  deriving DecidableEq, Repr

def FlexDirection.css : FlexDirection → String
  | row => "row"
  | column => "column"

/-- Distribution along the main axis. -/
inductive Justify where
  | flexStart
  | center
  | flexEnd
  | spaceBetween
  deriving DecidableEq, Repr

def Justify.css : Justify → String
  | flexStart => "flex-start"
  | center => "center"
  | flexEnd => "flex-end"
  | spaceBetween => "space-between"

/-- Alignment across the main axis. -/
inductive Align where
  | flexStart
  | center
  | flexEnd
  | baseline
  deriving DecidableEq, Repr

def Align.css : Align → String
  | flexStart => "flex-start"
  | center => "center"
  | flexEnd => "flex-end"
  | baseline => "baseline"

/-- How an element gets its size along one axis; only a fixed size has a value. -/
inductive Extent where
  | fixed (value : Float)
  | fill
  | hug
  | auto

namespace Extent

def value? : Extent → Option Float
  | fixed v => some v
  | _ => none

def isFixed (e : Extent) : Bool := e.value?.isSome

end Extent

/-- The box of an element. -/
structure Layout where
  display : Display
  position : Position
  direction : Option FlexDirection
  wrap : Bool
  gap : Option Float
  rowGap : Option Float
  columnGap : Option Float
  padding : Option Sides
  justify : Option Justify
  align : Option Align
  width : Extent
  height : Extent

namespace Layout

/-- A block about which nothing is said. -/
def plain : Layout where
  display := .block
  position := .static
  direction := none
  wrap := false
  gap := none
  rowGap := none
  columnGap := none
  padding := none
  justify := none
  align := none
  width := .auto
  height := .auto

/-- A container that arranges its children along an axis. -/
def flex (direction : FlexDirection) : Layout :=
  { plain with display := .flex, direction := some direction }

end Layout

end DesignCompiler
