import DesignCompiler.Json.Value
import DesignCompiler.Tokens.Path

/-! The table of design tokens. -/

namespace DesignCompiler.Tokens

/-- A named text style; sizes are in pixels. -/
structure Typography where
  fontFamily : String
  fontSize : Float
  fontWeight : Nat
  lineHeight : Option Float
  letterSpacing : Option Float

/-- Named values by kind, each in the order of the text. Colors have a group and a shade. -/
structure TokenTable where
  colors : List (String × List (String × String))
  spacing : List (String × Float)
  borderRadius : List (String × Float)
  shadows : List (String × String)
  breakpoints : List (String × Float)
  typography : List (String × Typography)

namespace TokenTable

/-- The table without tokens. -/
def empty : TokenTable := ⟨[], [], [], [], [], []⟩

/-- All colors with their paths. -/
def colorEntries (t : TokenTable) : List (TokenPath × String) :=
  t.colors.flatMap fun (group, shades) =>
    shades.map fun (shade, value) => (⟨["colors", group, shade]⟩, value)

/-- A color value is a hash sign with digits or a color function. -/
def isColorText (value : String) : Bool :=
  ['#'].isPrefixOf value.toList || ['r', 'g', 'b'].isPrefixOf value.toList

/-- What is wrong with a table: the first color that is neither a hash sign with digits nor a color
function. -/
structure BadColor where
  group : String
  shade : String
  value : String
  deriving DecidableEq, Repr

/-- The fault in words. -/
def BadColor.reason (b : BadColor) : String :=
  "color " ++ b.group ++ "." ++ b.shade ++ " is not a hex or rgb value: " ++ b.value

/-- The bad table in words. -/
def BadColor.message (b : BadColor) : String := "Invalid token table: " ++ b.reason

/-- The first bad color of a table. -/
def badColor? (t : TokenTable) : Option BadColor :=
  (t.colors.flatMap fun (group, shades) =>
    shades.map fun (shade, value) => BadColor.mk group shade value).find?
    fun b => !isColorText b.value

/-- A table of texts as data. -/
def textsJson (entries : List (String × String)) : Json.Value :=
  .object (entries.map fun (k, v) => (k, .string v))

/-- A table of lengths as data. -/
def lengthsJson (entries : List (String × Float)) : Json.Value :=
  .object (entries.map fun (k, v) => (k, .ofFloat v))

/-- A text style as data. -/
def typographyJson (t : Typography) : Json.Value :=
  .object [("fontFamily", .string t.fontFamily), ("fontSize", .ofFloat t.fontSize),
    ("fontWeight", .ofNat t.fontWeight), ("lineHeight", .ofOption .ofFloat t.lineHeight),
    ("letterSpacing", .ofOption .ofFloat t.letterSpacing)]

/-- The table as data. -/
def toJson (t : TokenTable) : Json.Value :=
  .object [
    ("colors", .object (t.colors.map fun (group, shades) => (group, textsJson shades))),
    ("spacing", lengthsJson t.spacing),
    ("borderRadius", lengthsJson t.borderRadius),
    ("shadows", textsJson t.shadows),
    ("breakpoints", lengthsJson t.breakpoints),
    ("typography", .object (t.typography.map fun (k, v) => (k, typographyJson v)))]

end TokenTable

end DesignCompiler.Tokens
