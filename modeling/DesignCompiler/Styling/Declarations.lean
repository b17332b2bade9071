import DesignCompiler.Element.Basic
import DesignCompiler.Styling.TokenMatch

/-! The declarations that an element needs in a style sheet. -/

namespace DesignCompiler.Styling

open Tokens

/-- How a token is written into a style sheet. -/
inductive TokenStyle where
  /-- The value of the token. -/
  | literal
  /-- A function of the props from which it takes the theme. -/
  | themeProps
  /-- A reference to a theme in scope. -/
  | themeScope
  /-- A custom property. -/
  | cssVar
  deriving DecidableEq, Repr

namespace TokenStyle

/-- Write a value. Values that hit no token are the same in every style. -/
def render (s : TokenStyle) : TokenValue → String
  | .raw css => css
  | .token path css =>
    match s with
    | literal => css
    | themeProps => "$\x7b(\x7b theme \x7d) => " ++ path.accessor "theme" ++ "\x7d"
    | themeScope => "$\x7b" ++ path.accessor "theme" ++ "\x7d"
    | cssVar => path.cssVar

def isThemed (s : TokenStyle) : Bool := s != literal

end TokenStyle

/-- A part of a value. -/
inductive ValuePart where
  | text (s : String)
  | token (v : TokenValue)
  deriving DecidableEq, Repr

def ValuePart.render (s : TokenStyle) : ValuePart → String
  | text t => t
  | token v => s.render v

/-- A property with its value. -/
structure Declaration where
  property : String
  parts : List ValuePart
  deriving DecidableEq, Repr

namespace Declaration

/-- A declaration without tokens. -/
def plain (property value : String) : Declaration := ⟨property, [.text value]⟩

/-- The value as text. -/
def value (s : TokenStyle) (d : Declaration) : String :=
  String.join (d.parts.map (ValuePart.render s))

end Declaration

/-- Declarations with what was counted. -/
abbrev Sheet := Counted (List Declaration)

namespace Sheet

def none : Sheet := ([], .zero)

def append (a b : Sheet) : Sheet := (a.1 ++ b.1, a.2 + b.2)

/-- Sheets one after the other. -/
def join (sheets : List Sheet) : Sheet := sheets.foldl append none

/-- Declarations in which no token can stand. -/
def plain (ds : List Declaration) : Sheet := (ds, .zero)

/-- A declaration whose value is matched with a token. -/
def matched (property : String) (v : Counted TokenValue) : Sheet :=
  ([⟨property, [.token v.1]⟩], v.2)

/-- A declaration of several matched values with blanks between them. -/
def matchedList (property : String) (vs : List (Counted TokenValue)) : Sheet :=
  ([⟨property, (vs.map fun v => ValuePart.token v.1).intersperse (.text " ")⟩],
    Tally.sum (vs.map (·.2)))

/-- What stands for an attribute that may be absent. -/
def optional {α : Type} (a : Option α) (f : α → Sheet) : Sheet :=
  match a with
  | some a => f a
  | Option.none => none

/-- Declarations of attributes that may be absent. -/
def texts (entries : List (String × Option String)) : Sheet :=
  plain (entries.filterMap fun (property, value) => value.map (Declaration.plain property))

end Sheet

/-- The text of a size. -/
def extentText : Extent → Option String
  | .fixed v => some (px v)
  | .fill => some "100%"
  | .hug => some "fit-content"
  | .auto => none

/-- The declarations for the box of an element. -/
def layoutSheet (t : TokenTable) (l : Layout) : Sheet :=
  let inset := l.position.inset?
  let distance (side : Inset → Option Float) := (inset.bind side).map px
  let spacing (property : String) (x : Option Float) :=
    Sheet.optional x fun x => .matched property (matchSpacing t x)
  .join [
    .texts [
      ("display", match l.display with
        | .flex => some "flex"
        | .none => some "none"
        | .block => none),
      ("position", if l.position.isStatic then none else some l.position.css),
      ("top", distance (·.top)), ("right", distance (·.right)),
      ("bottom", distance (·.bottom)), ("left", distance (·.left)),
      ("flex-direction", l.direction.map FlexDirection.css),
      ("flex-wrap", if l.wrap then some "wrap" else none)],
    spacing "gap" l.gap, spacing "row-gap" l.rowGap, spacing "column-gap" l.columnGap,
    .optional l.padding fun p =>
      .matchedList "padding" ((collapseBox p).toList.map (matchSpacing t)),
    .texts [
      ("justify-content", l.justify.map Justify.css),
      ("align-items", l.align.map Align.css),
      ("width", extentText l.width), ("height", extentText l.height)]]

/-- The declarations for a background. -/
def backgroundSheet (t : TokenTable) : Background → Sheet
  | .solid c => .matched "background-color" (matchColor t c)
  | .gradient g =>
    match matchGradient t g with
    | (.directional d start stop, tally) =>
      ([⟨"background", [.text ("linear-gradient(" ++ d.keyword ++ ", "), .token start, .text ", ",
        .token stop, .text ")"]⟩], tally)
    | (.raw css, tally) => ([.plain "background" css], tally)
  | .image i => .texts [
      ("background-image", i.imageRef.map fun r => "url(\"" ++ r ++ "\")"),
      ("background-size", some "cover"), ("background-position", some "center")]

def borderLine : BorderStyle → String
  | .solid => "solid"
  | .dashed => "dashed"

/-- The declarations for a border. -/
def borderSheet (t : TokenTable) (b : Border) : Sheet :=
  let (color, tally) := matchColor t b.color
  ([⟨"border", [.text (px b.width ++ " " ++ borderLine b.style ++ " "), .token color]⟩], tally)

/-- The declarations for the radius of the corners. -/
def radiusSheet (t : TokenTable) : Radius → Sheet
  | .uniform r => .matched "border-radius" (matchRadius t r)
  | .corners c => .texts [("border-radius", some (" ".intercalate (c.toList.map px)))]

/-- The declarations for a font. -/
def fontSheet (t : TokenTable) (f : Font) : Sheet :=
  .join [
    .texts [("font-family", f.family.map fun name => "'" ++ name ++ "', sans-serif")],
    .matched "font-size" (matchFontSize t f.size),
    .texts [
      ("font-weight", if f.weight == 400 then none else some (toString f.weight)),
      ("font-style", if f.italic then some "italic" else none),
      ("line-height", f.lineHeight.map px), ("letter-spacing", f.letterSpacing.map px),
      ("text-align", f.align.map TextAlign.css),
      ("text-transform", f.transform.map TextTransform.css),
      ("text-decoration", f.decoration.map TextDecorationLine.css)],
    .optional f.color fun c => .matched "color" (matchColor t c)]

/-- The declarations for the look of an element. -/
def lookSheet (t : TokenTable) (s : Style) : Sheet :=
  .join [
    .optional s.background (backgroundSheet t),
    .optional s.border (borderSheet t),
    .optional s.borderRadius (radiusSheet t),
    if s.shadows.isEmpty then .none else .matched "box-shadow" (matchShadows t s.shadows),
    .texts [("opacity", s.opacity.map formatNumber), ("overflow", s.overflow.map Overflow.css)],
    .optional s.font (fontSheet t)]

/-- The declarations of an element, in a fixed order. -/
def declarations (t : TokenTable) (h : ElementHead) : Sheet :=
  .append (layoutSheet t h.layout) (lookSheet t h.style)

/-- Declarations as lines, each with an indent and a line feed. -/
def blockBody (s : TokenStyle) (indent : String) (ds : List Declaration) : String :=
  String.join (ds.map fun d => indent ++ d.property ++ ": " ++ d.value s ++ ";\n")

end DesignCompiler.Styling
