import DesignCompiler.Decimal.Form
import DesignCompiler.Text.Blank

/-! Colors with channels of eight bits, their hexadecimal form and their form in style sheets. -/

namespace DesignCompiler

/-- Limit a number to the range from zero to one. -/
def clampUnit (x : Float) : Float := if x < 0.0 then 0.0 else if 1.0 < x then 1.0 else x

/-- The text without the zeros at its end, and without the points that then end it. -/
def dropZeroPlaces (s : String) : String :=
  String.ofList (Text.dropEndWhile (· == '.') (Text.dropEndWhile (· == '0') s.toList))

/-- The nearest multiple of a hundredth, a half going away from zero. -/
def roundHundredths (x : Float) : Float := (x * 100.0).round / 100.0

/-- A color. The shared style that it comes from is named when it is known, and else given by its
identity. -/
structure Color where
  r : UInt8
  g : UInt8
  b : UInt8
  a : Float
  tokenRef : Option String

namespace Color

/-- An opaque color. -/
def rgb (r g b : UInt8) : Color := ⟨r, g, b, 1.0, none⟩

def rgba (r g b : UInt8) (a : Float) : Color := ⟨r, g, b, clampUnit a, none⟩

/-- A channel from zero to one as eight bits. -/
def channel (x : Float) : UInt8 := ((clampUnit x) * 255.0).round.toUInt8

/-- A color from channels between zero and one. -/
def ofUnit (r g b a : Float) : Color := rgba (channel r) (channel g) (channel b) a

def isOpaque (c : Color) : Bool := 1.0 ≤ c.a

/-- Two hexadecimal digits. -/
def hexByte (n : UInt8) : List Char :=
  [Nat.digitChar (n.toNat / 16), Nat.digitChar (n.toNat % 16)]

/-- A hash sign and six digits; the opacity is left out. -/
def toHex (c : Color) : String :=
  String.ofList ('#' :: hexByte c.r ++ hexByte c.g ++ hexByte c.b)

/-- The form in style sheets: digits for an opaque color, a color function otherwise. -/
def toCss (c : Color) : String :=
  if c.isOpaque then c.toHex
  else
    "rgba(" ++ toString c.r ++ ", " ++ toString c.g ++ ", " ++ toString c.b ++ ", " ++
      dropZeroPlaces (Decimal.twoPlaces (roundHundredths c.a)) ++ ")"

/-- Why a text is not a color in hexadecimal form. -/
inductive HexFault where
  | notAColor
  /-- A pair of digits begins or ends inside a character, as the text is cut by bytes. -/
  | cutsCharacter
  deriving DecidableEq, Repr

def hexDigit? (c : Char) : Option Nat :=
  if c.isDigit then some (c.toNat - '0'.toNat)
  else if 'a' ≤ c && c ≤ 'f' then some (c.toNat - 'a'.toNat + 10)
  else if 'A' ≤ c && c ≤ 'F' then some (c.toNat - 'A'.toNat + 10)
  else none

/-- Two hexadecimal digits; a plus sign may stand for the first. -/
def pair? : List Char → Option UInt8
  | [c, d] =>
    match hexDigit? c, hexDigit? d with
    | some m, some n => some (m * 16 + n).toUInt8
    | none, some n => if c == '+' then some n.toUInt8 else none
    | _, none => none
  | _ => none

/-- The characters of a text in a range of bytes, if both ends of the range lie between two
characters. -/
def bytes? (pos start stop : Nat) : List Char → Option (List Char)
  | [] => if start == pos && stop == pos then some [] else none
  | c :: cs =>
    if pos < start then
      if pos + c.utf8Size ≤ start then bytes? (pos + c.utf8Size) start stop cs else none
    else if pos == stop then some []
    else if pos + c.utf8Size ≤ stop then
      (bytes? (pos + c.utf8Size) (pos + c.utf8Size) stop cs).map (c :: ·)
    else none

/-- The channel in the bytes `i` and `i + 1`. -/
def channelAt (cs : List Char) (i : Nat) : Except HexFault UInt8 :=
  match bytes? 0 i (i + 2) cs with
  | none => .error .cutsCharacter
  | some pair =>
    match pair? pair with
    | some n => .ok n
    | none => .error .notAColor

/-- The number of bytes of a text. -/
def byteCount (cs : List Char) : Nat := cs.foldr (fun c n => c.utf8Size + n) 0

/-- Read a color in hexadecimal form: one or two digits for each channel, and with two digits
possibly the opacity. Hash signs before the digits are passed over. -/
def readHex (s : String) : Except HexFault Color :=
  let cs := (Text.trimChars s.toList).dropWhile (· == '#')
  match byteCount cs with
  | 3 =>
    match cs.map fun c => pair? [c, c] with
    | [some r, some g, some b] => .ok (rgb r g b)
    | _ => .error .notAColor
  | 6 => do
    let r ← channelAt cs 0
    let g ← channelAt cs 2
    let b ← channelAt cs 4
    return rgb r g b
  | 8 => do
    let a ← channelAt cs 6
    let r ← channelAt cs 0
    let g ← channelAt cs 2
    let b ← channelAt cs 4
    return rgba r g b (a.toNat.toFloat / 255.0)
  | _ => .error .notAColor

end Color

end DesignCompiler
