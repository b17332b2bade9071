/-! Points, boxes and values at the four sides or corners of a box. -/

namespace DesignCompiler

structure Point where
  x : Float
  y : Float

/-- A box in document coordinates. -/
structure Rect where
  x : Float
  y : Float
  width : Float
  height : Float

/-- A value for each side of a box. -/
structure Sides where
  top : Float
  right : Float
  bottom : Float
  left : Float

/-- A value for each corner of a box. -/
structure Corners where
  topLeft : Float
  topRight : Float
  bottomRight : Float
  bottomLeft : Float

namespace Sides

/-- The values clockwise from the top. -/
def toList (s : Sides) : List Float := [s.top, s.right, s.bottom, s.left]

def ofList? : List Float → Option Sides
  | [a, b, c, d] => some ⟨a, b, c, d⟩
  | _ => none

end Sides

namespace Corners

/-- The values clockwise from the top left. -/
def toList (c : Corners) : List Float := [c.topLeft, c.topRight, c.bottomRight, c.bottomLeft]

def ofList? : List Float → Option Corners
  | [a, b, c, d] => some ⟨a, b, c, d⟩
  | _ => none

end Corners

end DesignCompiler
