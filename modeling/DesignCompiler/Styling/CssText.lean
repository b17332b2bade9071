import DesignCompiler.Decimal.Reading
import DesignCompiler.Element.Style
import DesignCompiler.Text.Letter
import DesignCompiler.Text.Search

/-! Colors and shadows read from the texts of style sheets. -/

namespace DesignCompiler.Styling

open Color (HexFault)

def skipBlanks (cs : List Char) : List Char := cs.dropWhile Text.isBlank

/-- Decimal digits of any script, at least one, and the text after them. -/
def digits? (cs : List Char) : Option (List Char × List Char) :=
  match cs.takeWhile Text.isDecimalDigit with
  | [] => none
  | ds => some (ds, cs.dropWhile Text.isDecimalDigit)

def isDigitOrPoint (c : Char) : Bool := Text.isDecimalDigit c || c == '.'

/-- The text after a comma with blanks around it. -/
def afterComma? (cs : List Char) : Option (List Char) :=
  match skipBlanks cs with
  | ',' :: rest => some (skipBlanks rest)
  | _ => none

/-- A channel of a color function: ASCII digits for a number of eight bits. -/
def channel? (ds : List Char) : Option UInt8 :=
  if ds.all Char.isDigit then
    let n := Decimal.natOfDigits ds
    if n < 256 then some n.toUInt8 else none
  else none

/-- The opacity and the closing parenthesis of a color function. -/
def opacity? (cs : List Char) : Option Float :=
  match skipBlanks cs with
  | [')'] => some 1.0
  | _ =>
    match afterComma? cs with
    | none => none
    | some rest =>
      match rest.takeWhile isDigitOrPoint, skipBlanks (rest.dropWhile isDigitOrPoint) with
      | [], _ => none
      | number, [')'] => Decimal.float? (String.ofList number)
      | _, _ => none

/-- A color function with three channels and possibly an opacity. -/
def colorFunction? (cs : List Char) : Option Color :=
  match Text.afterPrefix? ['r', 'g', 'b'] cs with
  | none => none
  | some rest =>
    let rest := match rest with
      | 'a' :: r => r
      | r => r
    match rest with
    | '(' :: rest => do
      let (r, rest) ← digits? (skipBlanks rest)
      let (g, rest) ← digits? (← afterComma? rest)
      let (b, rest) ← digits? (← afterComma? rest)
      let a ← opacity? rest
      return Color.rgba (← channel? r) (← channel? g) (← channel? b) a
    | _ => none

/-- A color: a hash sign with digits, or a color function. -/
def readColor (css : String) : Except HexFault Color :=
  match Text.trimChars css.toList with
  | '#' :: rest => Color.readHex (String.ofList ('#' :: rest))
  | cs =>
    match colorFunction? cs with
    | some c => .ok c
    | none => .error .notAColor

/-- A length of a shadow, possibly in pixels, with blanks after it: the text of its number and the
text that follows. -/
def shadowLength? (cs : List Char) : Option (List Char × List Char) :=
  let (sign, rest) := match cs with
    | '-' :: r => (['-'], r)
    | r => ([], r)
  match rest.takeWhile isDigitOrPoint with
  | [] => none
  | number =>
    let rest := rest.dropWhile isDigitOrPoint
    let rest := (Text.afterPrefix? ['p', 'x'] rest).getD rest
    match rest with
    | c :: _ => if Text.isBlank c then some (sign ++ number, skipBlanks rest) else none
    | [] => none

/-- The texts of four lengths and of a color. -/
def shadowParts? (cs : List Char) :
    Option (List Char × List Char × List Char × List Char × List Char) := do
  let (x, rest) ← shadowLength? (skipBlanks cs)
  let (y, rest) ← shadowLength? rest
  let (blur, rest) ← shadowLength? rest
  let (spread, rest) ← shadowLength? rest
  let color := Text.dropEndWhile Text.isBlank rest
  if color.isEmpty || color.contains '\n' then none else return (x, y, blur, spread, color)

/-- A single shadow such as `0 4px 6px -1px rgba(0, 0, 0, 0.1)`. -/
def readShadow (css : String) : Except HexFault Shadow :=
  let number? (cs : List Char) := Decimal.float? (String.ofList cs)
  match shadowParts? css.toList with
  | none => .error .notAColor
  | some (x, y, blur, spread, color) =>
    match number? x, number? y, number? blur, number? spread with
    | some x, some y, some blur, some spread =>
      (readColor (String.ofList color)).map fun c => ⟨false, x, y, blur, spread, c⟩
    | _, _, _, _ => .error .notAColor

end DesignCompiler.Styling
