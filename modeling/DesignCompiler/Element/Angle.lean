import DesignCompiler.Decimal.Binary

/-! Angles in degrees and the eight principal directions. -/

namespace DesignCompiler

/-- Half a turn over its arc length. -/
def degreesPerRadian : Float := 180.0 / 3.14159265358979323846264338327950288

/-- The exact remainder of a magnitude by a whole number. -/
def magnitudeMod (b : Decimal.Binary) (n : Nat) : Float :=
  if 0 ≤ b.exponent then (b.mantissa * Nat.pow 2 b.exponent.toNat % n).toFloat
  else (b.mantissa % (n * Nat.pow 2 (-b.exponent).toNat)).toFloat.scaleB b.exponent

/-- The remainder of a finite angle by a full turn, from zero on. -/
def withinTurn (x : Float) : Float :=
  match Decimal.Magnitude.ofFloat x with
  | .finite b =>
    let m := magnitudeMod b 360
    if b.negative && m != 0.0 then 360.0 - m else if b.negative then -m else m
  | _ => x

/-- A principal direction of a gradient. -/
inductive Direction where
  | top
  | topRight
  | right
  | bottomRight
  | bottom
  | bottomLeft
  | left
  | topLeft
  deriving DecidableEq, Repr

namespace Direction

/-- All directions clockwise from the top. -/
def all : List Direction :=
  [top, topRight, right, bottomRight, bottom, bottomLeft, left, topLeft]

/-- The short name: the first letters. -/
def short : Direction → String
  | top => "t"
  | topRight => "tr"
  | right => "r"
  | bottomRight => "br"
  | bottom => "b"
  | bottomLeft => "bl"
  | left => "l"
  | topLeft => "tl"

/-- The words in a style sheet. -/
def keyword : Direction → String
  | top => "to top"
  | topRight => "to top right"
  | right => "to right"
  | bottomRight => "to bottom right"
  | bottom => "to bottom"
  | bottomLeft => "to bottom left"
  | left => "to left"
  | topLeft => "to top left"

/-- The direction nearest to an angle; an angle that is not finite has none. -/
def ofAngle? (angle : Float) : Option Direction :=
  if angle.isFinite then
    all[(withinTurn angle / 45.0).round.toUInt64.toNat % 8]?
  else none

end Direction

end DesignCompiler
