import DesignCompiler.Element.Angle
import DesignCompiler.Styling.CssNumber
import DesignCompiler.Styling.CssText
import DesignCompiler.Tokens.Table

/-! Values of a design matched with design tokens. A value either hits a token or stays a literal,
and both are counted. -/

namespace DesignCompiler.Styling

open Tokens
open Color (HexFault)

/-- How many values hit a token and how many stayed literals. A table may also hold a color that is
cut inside a character when it is read; a run that meets one has no result. -/
structure Tally where
  hits : Nat
  fallbacks : Nat
  unreadable : Bool
  deriving DecidableEq, Repr

namespace Tally

def zero : Tally := ⟨0, 0, false⟩

def add (a b : Tally) : Tally :=
  ⟨a.hits + b.hits, a.fallbacks + b.fallbacks, a.unreadable || b.unreadable⟩

instance : Add Tally := ⟨add⟩

def hit : Tally := ⟨1, 0, false⟩
def fallback : Tally := ⟨0, 1, false⟩
def unreadableEntry : Tally := ⟨0, 0, true⟩

/-- The sum of a list. -/
def sum (ts : List Tally) : Tally := ts.foldl (· + ·) zero

end Tally

/-- A value and what was counted to find it. -/
abbrev Counted (α : Type) := α × Tally

/-- A value matched with the token table. -/
inductive TokenValue where
  /-- A token, with the value it has in a style sheet. -/
  | token (path : TokenPath) (css : String)
  /-- The value itself. -/
  | raw (css : String)
  deriving DecidableEq, Repr

namespace TokenValue

/-- The text in a style sheet, whether it comes from a token or not. -/
def css : TokenValue → String
  | token _ css => css
  | raw css => css

def path? : TokenValue → Option TokenPath
  | token path _ => some path
  | raw _ => none

end TokenValue

/-- A gradient matched with the token table. -/
inductive GradientValue where
  /-- Two colors along a principal direction. -/
  | directional (direction : Direction) (start stop : TokenValue)
  /-- Any other gradient, as text. -/
  | raw (css : String)
  deriving DecidableEq, Repr

/-- A token that was found, or the literal that stays. -/
def counted (found : Option (TokenPath × String)) (literal : String) : Counted TokenValue :=
  match found with
  | some (path, css) => (.token path css, .hit)
  | none => (.raw literal, .fallback)

/-- The lowercase words of a style name; words that only say that it is a color are left out at the
beginning. -/
def styleNameWords (name : String) : List String :=
  (((name.toList.splitOnP (!·.isAlphanum)).filter (!·.isEmpty)).map fun w =>
    String.ofList (w.map Char.toLower)).dropWhile fun w => w == "color" || w == "colors"

/-- The words that a color's path spells: its group and its shade, in lowercase. -/
def pathWords (path : TokenPath) : List String :=
  ((path.segments.drop 1).filter (· != "DEFAULT")).map Text.lower

/-- The first color whose path spells a style name. -/
def namedColor? (t : TokenTable) (name : String) : Option (TokenPath × String) :=
  let wanted := styleNameWords name
  if wanted.isEmpty then none
  else
    (t.colorEntries.find? fun e => pathWords e.1 == wanted).map fun (path, value) =>
      (path, Text.lower value)

/-- The first color with given hexadecimal digits, read from the beginning of the table. -/
def colorWithHex (hex : String) : List (TokenPath × String) →
    Except HexFault (Option (TokenPath × String))
  | [] => .ok none
  | (path, value) :: rest =>
    match Color.readHex value with
    | .ok c => if c.toHex == hex then .ok (some (path, Text.lower value)) else colorWithHex hex rest
    | .error .notAColor => colorWithHex hex rest
    | .error .cutsCharacter => .error .cutsCharacter

/-- Match a color: by the name of its shared style, or else by its digits. Only opaque colors match
a token. -/
def matchColor (t : TokenTable) (c : Color) : Counted TokenValue :=
  if c.isOpaque then
    match c.tokenRef.bind (namedColor? t) with
    | some found => counted (some found) c.toCss
    | none =>
      match colorWithHex c.toHex t.colorEntries with
      | .ok found => counted found c.toCss
      | .error _ => (.raw c.toCss, .unreadableEntry)
  else counted none c.toCss

/-- The distance within which a length matches a token, in pixels. -/
def lengthTolerance : Float := 2.0

/-- The nearest entry of a table and its distance; of equally near ones the first. -/
def nearest (value : Float) (table : List (String × Float)) : Option (String × Float × Float) :=
  table.foldl (fun best (key, token) =>
    let distance := (token - value).abs
    match best with
    | some (_, _, d) => if distance < d then some (key, token, distance) else best
    | none => some (key, token, distance)) none

/-- The nearest entry of a table of lengths, if it is near enough. -/
def matchLength (table : String) (entries : List (String × Float)) (value : Float) :
    Counted TokenValue :=
  let found := (nearest value entries).filter fun e => e.2.2 ≤ lengthTolerance
  counted (found.map fun (key, token, _) => (⟨[table, key]⟩, px token)) (px value)

def matchSpacing (t : TokenTable) (value : Float) : Counted TokenValue :=
  matchLength "spacing" t.spacing value

def matchRadius (t : TokenTable) (value : Float) : Counted TokenValue :=
  matchLength "borderRadius" t.borderRadius value

/-- The first text style with a given size. -/
def matchFontSize (t : TokenTable) (size : Float) : Counted TokenValue :=
  let found := t.typography.find? fun e => (e.2.fontSize - size).abs < 0.5
  counted (found.map fun (key, style) => (⟨["typography", key]⟩, px style.fontSize)) (px size)

/-- Numbers that cannot be told apart in a style sheet. -/
def isClose (x y : Float) : Bool := (x - y).abs < 0.005

def sameColor (a b : Color) : Bool :=
  a.r == b.r && a.g == b.g && a.b == b.b && isClose a.a b.a

def sameShadow (a b : Shadow) : Bool :=
  a.inset == b.inset && isClose a.x b.x && isClose a.y b.y && isClose a.blur b.blur &&
    isClose a.spread b.spread && sameColor a.color b.color

/-- The first preset equal to a shadow. -/
def presetShadow (s : Shadow) : List (String × String) →
    Except HexFault (Option (TokenPath × String))
  | [] => .ok none
  | (key, css) :: rest =>
    match readShadow css with
    | .ok preset =>
      if sameShadow preset s then .ok (some (⟨["shadows", key]⟩, css)) else presetShadow s rest
    | .error .notAColor => presetShadow s rest
    | .error .cutsCharacter => .error .cutsCharacter

/-- Match shadows: a single one may be a preset. -/
def matchShadows (t : TokenTable) (shadows : List Shadow) : Counted TokenValue :=
  match shadows with
  | [s] =>
    match presetShadow s t.shadows with
    | .ok found => counted found (shadowsText shadows)
    | .error _ => (.raw (shadowsText shadows), .unreadableEntry)
  | _ => counted none (shadowsText shadows)

/-- Match a gradient: a linear one with two colors goes along the nearest principal direction. -/
def matchGradient (t : TokenTable) (g : Gradient) : Counted GradientValue :=
  let direction := if g.kind == .linear then g.angle.bind Direction.ofAngle? else none
  match direction, g.stops with
  | some d, [a, b] =>
    let (start, startTally) := matchColor t a.color
    let (stop, stopTally) := matchColor t b.color
    (.directional d start stop, Tally.hit + startTally + stopTally)
  | _, _ => (.raw (gradientText g (g.stops.map (·.color.toCss))), .fallback)

end DesignCompiler.Styling
