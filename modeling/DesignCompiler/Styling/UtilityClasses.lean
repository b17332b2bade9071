import DesignCompiler.Element.Basic
import DesignCompiler.Styling.TokenMatch

/-! Utility classes that style an element without a style sheet of its own. -/

namespace DesignCompiler.Styling

open Tokens

/-- Classes with what was counted. -/
abbrev Classes := Counted (List String)

namespace Classes

def none : Classes := ([], .zero)

def append (a b : Classes) : Classes := (a.1 ++ b.1, a.2 + b.2)

/-- Classes one after the other. -/
def join (cs : List Classes) : Classes := cs.foldl append none

/-- Classes that no token stands for. -/
def plain (cs : List String) : Classes := (cs, .zero)

/-- Classes that may be absent. -/
def texts (cs : List (Option String)) : Classes := plain (cs.filterMap id)

/-- A class made from a matched value. -/
def matched {α : Type} (f : α → String) (v : Counted α) : Classes := ([f v.1], v.2)

def optional {α : Type} (a : Option α) (f : α → Classes) : Classes :=
  match a with
  | some a => f a
  | Option.none => none

end Classes

/-- Drop the blank after each comma. -/
def joinCommas : List Char → List Char
  | ',' :: ' ' :: cs => ',' :: joinCommas cs
  | c :: cs => c :: joinCommas cs
  | [] => []

/-- A value as part of a class: commas stand alone, and other blanks are underscores. -/
def arbitrary (css : String) : String :=
  String.ofList ((joinCommas css.toList).map fun c => if c == ' ' then '_' else c)

def bracketed (css : String) : String := "[" ++ arbitrary css ++ "]"

/-- The key of a token, or the value in brackets. -/
def keySuffix : TokenValue → String
  | .token path _ => path.key
  | .raw css => bracketed css

/-- The group and the shade of a color token, or the value in brackets. The shade named `DEFAULT`
is left out. -/
def colorSuffix : TokenValue → String
  | .token path _ =>
    match path.segments with
    | [_, group, shade] => if shade == "DEFAULT" then group else group ++ "-" ++ shade
    | _ => path.key
  | .raw css => bracketed css

/-- A class with the key of a token, which is left out when it is `DEFAULT`. -/
def keyedClass (stem : String) : TokenValue → String
  | .token path _ => if path.key == "DEFAULT" then stem else stem ++ "-" ++ path.key
  | .raw css => stem ++ "-" ++ bracketed css

/-- A class for a length. -/
def lengthClass (t : TokenTable) (stem : String) (x : Float) : Classes :=
  .matched (fun v => stem ++ "-" ++ keySuffix v) (matchSpacing t x)

/-- A class for a color. -/
def colorClass (t : TokenTable) (stem : String) (c : Color) : Classes :=
  .matched (fun v => stem ++ "-" ++ colorSuffix v) (matchColor t c)

def justifyClass : Justify → String
  | .flexStart => "justify-start"
  | .center => "justify-center"
  | .flexEnd => "justify-end"
  | .spaceBetween => "justify-between"

def alignClass : Align → String
  | .flexStart => "items-start"
  | .center => "items-center"
  | .flexEnd => "items-end"
  | .baseline => "items-baseline"

/-- The class for a size. -/
def extentClass (t : TokenTable) (stem : String) : Extent → Classes
  | .fixed x => lengthClass t stem x
  | .fill => .plain [stem ++ "-full"]
  | .hug => .plain [stem ++ "-fit"]
  | .auto => .none

/-- The classes for a padding. -/
def paddingClasses (t : TokenTable) (p : Sides) : Classes :=
  let sides := match collapseBox p with
    | .one x => [("p", x)]
    | .pair vertical horizontal => [("py", vertical), ("px", horizontal)]
    | .four s => [("pt", s.top), ("pr", s.right), ("pb", s.bottom), ("pl", s.left)]
  .join (sides.map fun (stem, x) => lengthClass t stem x)

/-- The classes for the box of an element. -/
def layoutClasses (t : TokenTable) (l : Layout) : Classes :=
  let length (stem : String) (x : Option Float) := Classes.optional x (lengthClass t stem)
  let inset := l.position.inset?
  .join [
    .texts [
      match l.display with
        | .flex => some "flex"
        | .none => some "hidden"
        | .block => none,
      if l.position.isStatic then none else some l.position.css],
    length "top" (inset.bind (·.top)), length "right" (inset.bind (·.right)),
    length "bottom" (inset.bind (·.bottom)), length "left" (inset.bind (·.left)),
    .texts [
      if l.direction == some .column then some "flex-col" else none,
      if l.wrap then some "flex-wrap" else none],
    length "gap" l.gap, length "gap-y" l.rowGap, length "gap-x" l.columnGap,
    .optional l.padding (paddingClasses t),
    .texts [l.justify.map justifyClass, l.align.map alignClass],
    extentClass t "w" l.width, extentClass t "h" l.height]

/-- The classes for a background. -/
def backgroundClasses (t : TokenTable) : Background → Classes
  | .solid c => colorClass t "bg" c
  | .gradient g =>
    match matchGradient t g with
    | (.directional d start stop, tally) =>
      (["bg-gradient-to-" ++ d.short, "from-" ++ colorSuffix start, "to-" ++ colorSuffix stop],
        tally)
    | (.raw css, tally) => (["bg-" ++ bracketed css], tally)
  | .image i => .texts [i.imageRef.map fun r => "bg-[url(" ++ arbitrary r ++ ")]", some "bg-cover",
      some "bg-center"]

/-- The class for the width of a border; some widths have a class of their own. -/
def borderWidthClass (w : Float) : String :=
  if w == 1.0 then "border"
  else if [0.0, 2.0, 4.0, 8.0].any (· == w) then "border-" ++ formatNumber w
  else "border-[" ++ formatNumber w ++ "px]"

/-- The classes for a border. -/
def borderClasses (t : TokenTable) (b : Border) : Classes :=
  .append
    (.texts [some (borderWidthClass b.width),
      if b.style == .dashed then some "border-dashed" else none])
    (colorClass t "border" b.color)

/-- The classes for the radius of the corners. -/
def radiusClasses (t : TokenTable) : Radius → Classes
  | .uniform r => .matched (keyedClass "rounded") (matchRadius t r)
  | .corners c =>
    .join ((["tl", "tr", "br", "bl"].zip c.toList).map fun (corner, r) =>
      .matched (keyedClass ("rounded-" ++ corner)) (matchRadius t r))

/-- Whether a number is a multiple of five. -/
def isMultipleOfFive (x : Float) : Bool :=
  match Decimal.Magnitude.ofFloat x with
  | .finite b => magnitudeMod b 5 == 0.0
  | _ => false

/-- The class for an opacity: a percentage where it is a multiple of five. -/
def opacityClass (opacity : Float) : String :=
  let percent := (opacity * 100.0).round
  if isMultipleOfFive percent then "opacity-" ++ Decimal.plain.write percent
  else "opacity-[" ++ formatNumber opacity ++ "]"

/-- Names of font weights. -/
def weightNames : List (Nat × String) := [
  (100, "thin"), (200, "extralight"), (300, "light"), (400, "normal"), (500, "medium"),
  (600, "semibold"), (700, "bold"), (800, "extrabold"), (900, "black")]

def weightClass (weight : Nat) : String :=
  match (weightNames.find? (·.1 == weight)).map (·.2) with
  | some name => "font-" ++ name
  | none => "font-[" ++ toString weight ++ "]"

def textAlignClass : TextAlign → Option String
  | .left => none
  | .center => some "text-center"
  | .right => some "text-right"
  | .justify => some "text-justify"

/-- The classes for a font. -/
def fontClasses (t : TokenTable) (f : Font) : Classes :=
  .join [
    .texts [f.family.map fun name => "font-['" ++ arbitrary name ++ "']"],
    .matched (fun v => "text-" ++ keySuffix v) (matchFontSize t f.size),
    .texts [
      if f.weight == 400 then none else some (weightClass f.weight),
      if f.italic then some "italic" else none,
      f.lineHeight.map fun x => "leading-[" ++ formatNumber x ++ "px]",
      f.letterSpacing.map fun x => "tracking-[" ++ formatNumber x ++ "px]",
      f.align.bind textAlignClass,
      f.transform.map TextTransform.css,
      f.decoration.map TextDecorationLine.css],
    .optional f.color (colorClass t "text")]

/-- The classes for the look of an element, its font apart. -/
def lookClasses (t : TokenTable) (s : Style) : Classes :=
  .join [
    .optional s.background (backgroundClasses t),
    .optional s.border (borderClasses t),
    .optional s.borderRadius (radiusClasses t),
    if s.shadows.isEmpty then .none
    else .matched (keyedClass "shadow") (matchShadows t s.shadows),
    .texts [s.opacity.map opacityClass,
      if s.overflow == some .hidden then some "overflow-hidden" else none]]

/-- The classes of an element, in a fixed order. -/
def utilityClasses (t : TokenTable) (h : ElementHead) : Classes :=
  .join [layoutClasses t h.layout, lookClasses t h.style,
    .optional h.style.font (fontClasses t)]

end DesignCompiler.Styling
