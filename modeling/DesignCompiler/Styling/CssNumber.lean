import DesignCompiler.Element.Color
import DesignCompiler.Element.Style
import DesignCompiler.Geometry

/-! Numbers, lengths, shadows and gradients as they stand in style sheets. -/

namespace DesignCompiler.Styling

/-- A number with at most two places and no zeros at the end; zero has no sign. -/
def formatNumber (x : Float) : String :=
  let s := dropZeroPlaces (Decimal.twoPlaces (roundHundredths x))
  if s == "-0" then "0" else s

/-- A length in pixels. -/
def px (x : Float) : String := formatNumber x ++ "px"

/-- Values for four sides with no more than are needed: one for all sides, one for the vertical and
one for the horizontal sides, or four. -/
inductive BoxShorthand where
  | one (x : Float)
  | pair (vertical horizontal : Float)
  | four (s : Sides)

def collapseBox (s : Sides) : BoxShorthand :=
  if s.top == s.right && s.right == s.bottom && s.bottom == s.left then .one s.top
  else if s.top == s.bottom && s.left == s.right then .pair s.top s.right
  else .four s

/-- The values in the order in which they are written. -/
def BoxShorthand.toList : BoxShorthand → List Float
  | one x => [x]
  | pair vertical horizontal => [vertical, horizontal]
  | four s => s.toList

/-- One shadow. -/
def shadowText (s : Shadow) : String :=
  (if s.inset then "inset " else "") ++
    " ".intercalate [px s.x, px s.y, px s.blur, px s.spread, s.color.toCss]

/-- A list of shadows. -/
def shadowsText (shadows : List Shadow) : String := ", ".intercalate (shadows.map shadowText)

/-- A gradient, given the texts of its colors. -/
def gradientText (g : Gradient) (colors : List String) : String :=
  let stops := ", ".intercalate ((g.stops.zip colors).map fun (stop, color) =>
    color ++ " " ++ formatNumber (stop.position * 100.0) ++ "%")
  match g.kind with
  | .linear => "linear-gradient(" ++ formatNumber (g.angle.getD 180.0) ++ "deg, " ++ stops ++ ")"
  | .radial => "radial-gradient(circle, " ++ stops ++ ")"
  | .angular => "conic-gradient(" ++ stops ++ ")"

end DesignCompiler.Styling
