/-! Paths into the token table, and how they are written in scripts and style sheets. -/

namespace DesignCompiler.Tokens

/-- A path into the token table: the table's name and the keys below it. -/
structure TokenPath where
  segments : List String
  deriving DecidableEq, Repr

def isIdentifierStart (c : Char) : Bool := c.isAlpha || c == '_' || c == '$'

def isIdentifierChar (c : Char) : Bool := c.isAlphanum || c == '_' || c == '$'

/-- A name that may follow a dot. -/
def isScriptIdentifier : List Char → Bool
  | [] => false
  | c :: cs => isIdentifierStart c && cs.all isIdentifierChar

namespace TokenPath

/-- The segments with dots between them. -/
def dotted (p : TokenPath) : String := ".".intercalate p.segments

/-- The last segment, the key within its table. -/
def key (p : TokenPath) : String := p.segments.getLast?.getD ""

/-- The access to one segment: after a dot, as a bracketed number, or as a bracketed text. -/
def access (s : String) : String :=
  if isScriptIdentifier s.toList then "." ++ s
  else if s.toList.all Char.isDigit then "[" ++ s ++ "]"
  else "['" ++ s ++ "']"

/-- The property access that follows the path from a root. -/
def accessor (p : TokenPath) (root : String) : String := root ++ String.join (p.segments.map access)

/-- The name of the custom property of a token: the segments joined by hyphens, with an underscore
for each dot. -/
def propertyName (p : TokenPath) : String :=
  "--" ++ "-".intercalate
    (p.segments.map fun s => String.ofList (s.toList.map fun c => if c == '.' then '_' else c))

/-- The reference to the custom property of a token. -/
def cssVar (p : TokenPath) : String := "var(" ++ p.propertyName ++ ")"

end TokenPath

end DesignCompiler.Tokens
