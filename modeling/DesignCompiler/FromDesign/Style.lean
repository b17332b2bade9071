import DesignCompiler.Diagnostics
import DesignCompiler.Document.Node
import DesignCompiler.Element.Angle
import DesignCompiler.Element.Style

/-! The look of an element from the attributes of its node. Of the visible fills the last one is
painted on top and counts; of the visible strokes the first one is the border. What has no direct
counterpart is replaced by what comes nearest and reported. -/

namespace DesignCompiler.FromDesign

open Document

/-- A value and what there is to report about it. -/
abbrev Reported (α : Type) := α × Diagnostics

/-- A warning about a style feature of a node. -/
def unsupported (a : Attributes) (message : String) : Diagnostics :=
  [.warning .unsupportedStyle (some a.id) message]

/-- The fill that is seen. -/
def topFill (fills : List Paint) : Option Paint := fills.reverse.find? (·.visible)

/-- The stroke that is the border. -/
def borderStroke (strokes : List Paint) : Option Paint := strokes.find? (·.visible)

/-- A color, its opacity multiplied by that of the paint. -/
def colorOf (c : UnitColor) (opacity : Float) : Color :=
  Color.ofUnit c.r c.g c.b (roundHundredths (c.a * opacity))

/-- The angle of a gradient, clockwise from the top, from its first two handles. Coordinates grow
downwards, so a gradient straight down has 180 degrees; that is also the angle without handles. -/
def gradientAngle (p : Paint) : Float :=
  match p.handles with
  | start :: stop :: _ =>
    let dx := stop.x - start.x
    let dy := stop.y - start.y
    if dx == 0.0 && dy == 0.0 then 180.0
    else
      let degrees := Float.atan2 dy dx * degreesPerRadian + 90.0
      roundHundredths (if degrees < 0.0 then degrees + 360.0 else degrees)
  | _ => 180.0

def gradientOf (p : Paint) (kind : GradientKind) : Gradient where
  kind := kind
  angle := if kind == .linear then some (gradientAngle p) else none
  stops := p.stops.map fun s => ⟨colorOf s.color p.opacity, roundHundredths s.position⟩

/-- The background that a paint makes. -/
def backgroundOf (a : Attributes) (p : Paint) : Reported (Option Background) :=
  match p.kind with
  | .solid => (p.color.map fun c => .solid (colorOf c p.opacity), [])
  | .gradientLinear => (some (.gradient (gradientOf p .linear)), [])
  | .gradientRadial => (some (.gradient (gradientOf p .radial)), [])
  | .gradientAngular => (some (.gradient (gradientOf p .angular)), [])
  | .gradientDiamond =>
    (some (.gradient (gradientOf p .radial)), unsupported a "diamond gradient rendered as radial")
  | .image => (some (.image ⟨p.imageRef, p.scaleMode⟩), [])
  | .other => (none, [])

/-- The color of a border: that of a solid stroke, or else the first one of a gradient. -/
def borderColorOf (a : Attributes) (p : Paint) : Reported (Option Color) :=
  match p.kind, p.color, p.stops with
  | .solid, some c, _ => (some (colorOf c p.opacity), [])
  | _, _, s :: _ =>
    (some (colorOf s.color p.opacity),
      unsupported a "non-solid stroke rendered with its first color")
  | _, _, [] => (none, [])

def borderPositionOf : Option StrokeAlign → BorderPosition
  | some .outside => .outside
  | some .center => .center
  | some .inside | some .other | none => .inside

/-- The border of a node; a stroke without a width makes none. -/
def borderOf (a : Attributes) : Reported (Option Border) :=
  match borderStroke a.strokes with
  | none => (none, [])
  | some p =>
    let (color, reported) := borderColorOf a p
    let width := a.strokeWeight.getD 1.0
    (color.bind fun c =>
      if width ≤ 0.0 then none
      else some ⟨roundHundredths width, if a.strokeDashes.isEmpty then .solid else .dashed, c,
        borderPositionOf a.strokeAlign⟩, reported)

/-- The radius of the corners; four equal ones are one. -/
def radiusOf (a : Attributes) : Option Radius :=
  match a.cornerRadii with
  | some c =>
    let c : Corners := ⟨roundHundredths c.topLeft, roundHundredths c.topRight,
      roundHundredths c.bottomRight, roundHundredths c.bottomLeft⟩
    if c.toList.all (· == c.topLeft) then
      if 0.0 < c.topLeft then some (.uniform c.topLeft) else none
    else some (.corners c)
  | none => (a.cornerRadius.filter (0.0 < ·)).map fun r => .uniform (roundHundredths r)

/-- The color of a shadow that has none. -/
def defaultShadowColor : Color := Color.rgba 0 0 0 0.25

def shadowOf (e : Effect) (inset : Bool) : Shadow :=
  let offset := e.offset.getD ⟨0.0, 0.0⟩
  { inset := inset
    x := roundHundredths offset.x
    y := roundHundredths offset.y
    blur := roundHundredths e.radius
    spread := roundHundredths e.spread
    color := (e.color.map (colorOf · 1.0)).getD defaultShadowColor }

/-- The shadows among the effects; blurs are dropped. -/
def shadowsOf (a : Attributes) : List Effect → Reported (List Shadow)
  | [] => ([], [])
  | e :: es =>
    let (shadows, reported) := shadowsOf a es
    if !e.visible then (shadows, reported)
    else
      match e.kind with
      | .dropShadow => (shadowOf e false :: shadows, reported)
      | .innerShadow => (shadowOf e true :: shadows, reported)
      | .layerBlur | .backgroundBlur =>
        (shadows, unsupported a "blur effects are not supported and were dropped" ++ reported)
      | .other => (shadows, reported)

/-- The kind of a paint in a message. -/
def paintLabel : PaintKind → String
  | .solid => "Solid"
  | .gradientLinear => "GradientLinear"
  | .gradientRadial => "GradientRadial"
  | .gradientAngular => "GradientAngular"
  | .gradientDiamond => "GradientDiamond"
  | .image => "Image"
  | .other => "Other"

/-- The color of a text, which only a solid fill gives. -/
def textColorOf (a : Attributes) : Reported (Option Color) :=
  match topFill a.fills with
  | none => (none, [])
  | some p =>
    match p.kind, p.color with
    | .solid, some c => (some (colorOf c p.opacity), [])
    | kind, _ => (none, unsupported a (paintLabel kind ++ " text fill rendered with the default color"))

def textAlignOf : Option Document.TextAlign → Option DesignCompiler.TextAlign
  | some .center => some .center
  | some .right => some .right
  | some .justified => some .justify
  | some .left | none => none

def transformOf : Option TextCase → Option TextTransform
  | some .upper => some .uppercase
  | some .lower => some .lowercase
  | some .title => some .capitalize
  | _ => none

def decorationOf : Option TextDecoration → Option TextDecorationLine
  | some .underline => some .underline
  | some .strikethrough => some .lineThrough
  | some .none | none => none

/-- A font weight limited to the range from 1 to 1000. -/
def weightOf (w : Float) : Nat :=
  let w := w.round
  (if w < 1.0 then 1.0 else if 1000.0 < w then 1000.0 else w).toUInt64.toNat

def lineHeightOf (t : TypeStyle) (size : Float) : Option Float :=
  match t.lineHeightUnit with
  | some .intrinsicPercent => none
  | some .fontSizePercent => t.lineHeightPercent.map fun p => roundHundredths (size * p / 100.0)
  | some .pixels | none => t.lineHeightPx.map roundHundredths

/-- The font of a text. -/
def fontOf (a : Attributes) : Reported Font :=
  let (color, reported) := textColorOf a
  match a.typeStyle with
  | none => ({ Font.plain with color := color }, reported)
  | some t =>
    let size := (t.fontSize.map roundHundredths).getD Font.plain.size
    ({ family := t.fontFamily
       size := size
       weight := (t.fontWeight.map weightOf).getD Font.plain.weight
       italic := t.italic
       lineHeight := lineHeightOf t size
       letterSpacing := (t.letterSpacing.filter (· != 0.0)).map roundHundredths
       align := textAlignOf t.textAlign
       transform := transformOf t.textCase
       decoration := decorationOf t.textDecoration
       color := color }, reported)

/-- The shared style that a node names for a kind of paint, in the singular or the plural. -/
def sharedStyle? (a : Attributes) (kind : String) : Option String :=
  let find (k : String) := (a.sharedStyles.find? (·.1 == k)).map (·.2)
  (find kind).orElse fun _ => find (kind ++ "s")

/-- Give a color the shared style it comes from. -/
def markColor (style : Option String) (c : Color) : Color :=
  match style with
  | some s => { c with tokenRef := some s }
  | none => c

/-- Change the colors that may come from a shared style: a solid background, the color of a text,
and the color of a border. -/
def mapStyleColors (fill stroke : Color → Color) (s : Style) : Style :=
  { s with
    background := match s.background with
      | some (.solid c) => some (.solid (fill c))
      | b => b
    font := s.font.map fun f => { f with color := f.color.map fill }
    border := s.border.map fun b => { b with color := stroke b.color } }

/-- The look of a node. -/
def styleOf (a : Attributes) : Reported Style :=
  let (font, fontReported) : Reported (Option Font) :=
    if a.kind == .text then let (f, r) := fontOf a; (some f, r) else (none, [])
  let (background, backgroundReported) : Reported (Option Background) :=
    if a.kind == .text then (none, [])
    else match topFill a.fills with
      | some p => backgroundOf a p
      | none => (none, [])
  let (border, borderReported) := borderOf a
  let (shadows, effectsReported) := shadowsOf a a.effects
  let style : Style :=
    { background := background
      border := border
      borderRadius := radiusOf a
      shadows := shadows
      opacity := (a.opacity.filter (· < 1.0)).map roundHundredths
      overflow := if a.clipsContent then some .hidden else none
      font := font }
  (mapStyleColors (markColor (sharedStyle? a "fill")) (markColor (sharedStyle? a "stroke")) style,
    fontReported ++ backgroundReported ++ borderReported ++ effectsReported)

/-- Name the shared style of a color, if the document has it. -/
def nameColor (styles : List (String × StyleMeta)) (c : Color) : Color :=
  match c.tokenRef.bind fun id => (styles.find? (·.1 == id)).map (·.2) with
  | some m => { c with tokenRef := some m.name }
  | none => c

/-- Replace identities of shared styles by their names. -/
def nameStyleColors (styles : List (String × StyleMeta)) (s : Style) : Style :=
  mapStyleColors (nameColor styles) (nameColor styles) s

end DesignCompiler.FromDesign
