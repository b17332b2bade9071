import DesignCompiler.Document.Node
import DesignCompiler.Element.Color
import DesignCompiler.Element.Layout

/-! The box of an element from the attributes of its node. -/

namespace DesignCompiler.FromDesign

open Document

/-- The remark about a container that positions its children by hand. -/
def noAutoLayoutWarning : String := "no auto-layout, review responsiveness"

/-- A length that is not zero. -/
def nonzero (x : Option Float) : Option Float := x.filter (· != 0.0)

def justifyOf : AxisAlign → Option Justify
  | .min => some .flexStart
  | .center => some .center
  | .max => some .flexEnd
  | .spaceBetween => some .spaceBetween
  | .baseline | .other => none

def alignOf : AxisAlign → Option Align
  | .min => some .flexStart
  | .center => some .center
  | .max => some .flexEnd
  | .baseline => some .baseline
  | .spaceBetween | .other => none

/-- The size along one axis: fixed by the bounds unless the node fills or hugs. -/
def extentOf (mode : Option SizingMode) (length : Option Float) : Extent :=
  match mode, length with
  | some .fill, _ => .fill
  | some .hug, _ => .hug
  | _, some x => .fixed (roundHundredths x)
  | _, none => .auto

/-- The gaps of a frame. A frame that wraps has two of them where they differ. -/
structure Gaps where
  gap : Option Float
  rowGap : Option Float
  columnGap : Option Float

def gapsOf (a : Attributes) : Gaps :=
  let spacing := nonzero a.itemSpacing
  if a.layoutWrap == some .wrap then
    match nonzero a.counterSpacing with
    | none => ⟨spacing, none, none⟩
    | some row =>
      if spacing.any (· == row) then ⟨spacing, none, none⟩ else ⟨none, some row, spacing⟩
  else ⟨spacing, none, none⟩

/-- The padding of a frame, unless it is zero on all sides. -/
def paddingOf (a : Attributes) : Option Sides :=
  let p : Sides := ⟨a.paddingTop.getD 0.0, a.paddingRight.getD 0.0, a.paddingBottom.getD 0.0,
    a.paddingLeft.getD 0.0⟩
  if p.toList.any (· != 0.0) then some p else none

/-- The box of a node, apart from its place among its siblings. -/
def layoutOf (a : Attributes) : Layout :=
  let sized := { Layout.plain with
    width := extentOf a.sizingHorizontal (a.bounds.map (·.width))
    height := extentOf a.sizingVertical (a.bounds.map (·.height)) }
  if a.hasAutoLayout then
    let gaps := gapsOf a
    { sized with
      display := .flex
      direction := some (if a.layoutMode == some .vertical then .column else .row)
      wrap := a.layoutWrap == some .wrap
      gap := gaps.gap
      rowGap := gaps.rowGap
      columnGap := gaps.columnGap
      padding := paddingOf a
      justify := a.primaryAlign.bind justifyOf
      align := a.counterAlign.bind alignOf }
  else sized

/-- Whether a child of a frame has opted out of its arrangement. -/
def isExplicitlyAbsolute (a : Attributes) : Bool := a.positioning == some .absolute

/-- The absolute position of a node in a box. Constraints tell to which sides it holds; without any
it holds to the left and the top, and it stands in that corner when a box is not known. -/
def absolutePosition (a : Attributes) (origin : Option Rect) : Position :=
  match a.bounds, origin with
  | some box, some o =>
    let left := roundHundredths (box.x - o.x)
    let top := roundHundredths (box.y - o.y)
    let right := roundHundredths (o.x + o.width - (box.x + box.width))
    let bottom := roundHundredths (o.y + o.height - (box.y + box.height))
    let (l, r) := match a.constraints.map (·.horizontal) with
      | some .right => (none, some right)
      | some .leftRight => (some left, some right)
      | _ => (some left, none)
    let (t, b) := match a.constraints.map (·.vertical) with
      | some .bottom => (none, some bottom)
      | some .topBottom => (some top, some bottom)
      | _ => (some top, none)
    .absolute ⟨t, r, b, l⟩
  | _, _ => .absolute ⟨some 0.0, none, none, some 0.0⟩

end DesignCompiler.FromDesign
