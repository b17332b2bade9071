import DesignCompiler.Json.Value
import DesignCompiler.Text.Letter

/-! Texts inside markup: as content, as attribute values, in comments and as script strings. -/

namespace DesignCompiler.Markup

/-- The markup for one character of a text. -/
def escapeChar (c : Char) : List Char :=
  if c == '\x7b' then "\x7b'\x7b'\x7d".toList
  else if c == '\x7d' then "\x7b'\x7d'\x7d".toList
  else if c == '<' then "&lt;".toList
  else if c == '>' then "&gt;".toList
  else if c == '&' then "&amp;".toList
  else if c == '\n' then "<br />".toList
  else [c]

/-- A text as content of an element. -/
def escapeText (s : String) : String := String.ofList (s.toList.flatMap escapeChar)

/-- Characters that a plain attribute value cannot hold. -/
def needsExpression (c : Char) : Bool :=
  c == '"' || c == '\\' || c == '\n' || c == '\x7b' || c == '\x7d'

/-- The characters of an attribute value: the text in quotes where that is possible, and a script
string in braces otherwise. -/
def attributeChars (cs : List Char) : List Char :=
  if cs.any needsExpression then '\x7b' :: Json.quoteChars cs ++ ['\x7d']
  else '"' :: cs ++ ['"']

/-- A text as an attribute value. -/
def attributeValue (s : String) : String := String.ofList (attributeChars s.toList)

/-- The characters of a comment, in which nothing ends it. -/
def commentChars : List Char → List Char
  | '*' :: '/' :: cs => '*' :: ' ' :: '/' :: commentChars cs
  | c :: cs => c :: commentChars cs
  | [] => []

/-- A text inside a comment. -/
def commentText (s : String) : String := String.ofList (commentChars s.toList)

/-- The characters that stand for one character of a script string in single quotes. -/
def scriptChar (c : Char) : List Char :=
  if c == '\\' then ['\\', '\\']
  else if c == '\'' then ['\\', '\'']
  else if c == '\n' then ['\\', 'n']
  else [c]

/-- The characters of a script string in single quotes. -/
def scriptStringChars (cs : List Char) : List Char := '\'' :: cs.flatMap scriptChar ++ ['\'']

/-- A text as a script string in single quotes. -/
def scriptString (s : String) : String := String.ofList (scriptStringChars s.toList)

/-- The words of a layer name as they stand, for readers who do not see the image. -/
def altText (name : String) : String :=
  " ".intercalate (((name.toList.splitOnP (!Text.isWordChar ·)).filter (!·.isEmpty)).map String.ofList)

end DesignCompiler.Markup
