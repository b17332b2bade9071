import DesignCompiler.Decimal.Reading
import DesignCompiler.Text.Blank

/-! Lengths written as text: a number of pixels, or of root ems of 16 pixels. -/

namespace DesignCompiler.Tokens

/-- The text before a given ending. -/
def beforeSuffix? (w cs : List Char) : Option (List Char) :=
  if w.isSuffixOf cs then some (cs.take (cs.length - w.length)) else none

/-- A number with blanks around it. -/
def trimmedNumber? (cs : List Char) : Option Float :=
  Decimal.float? (String.ofList (Text.trimChars cs))

/-- The pixels of a root em. -/
def rootEm : Float := 16.0

/-- The pixels of a length such as `12`, `12px` or `0.75rem`. -/
def lengthPx? (s : String) : Option Float :=
  let cs := Text.trimChars s.toList
  match beforeSuffix? ['r', 'e', 'm'] cs with
  | some number => (trimmedNumber? number).map (· * rootEm)
  | none => trimmedNumber? ((beforeSuffix? ['p', 'x'] cs).getD cs)

end DesignCompiler.Tokens
