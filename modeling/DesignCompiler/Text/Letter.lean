import DesignCompiler.Text.LetterTable
import DesignCompiler.Text.CaseTable

/-! Letters, digits and letter case, as the Unicode properties define them. ASCII characters are
decided without a table. -/

namespace DesignCompiler.Text

/-- Membership of a code point in a list of closed ranges. -/
def inRanges (table : List (Nat × Nat)) (n : Nat) : Bool :=
  table.any fun r => r.1 ≤ n && n ≤ r.2

/-- Membership of a code point in a list of stepped ranges. -/
def inSteps (table : List (Nat × Nat × Nat)) (n : Nat) : Bool :=
  table.any fun r => r.1 ≤ n && n ≤ r.2.1 && (n - r.1) % r.2.2 == 0

/-- Letters: the property Alphabetic. -/
def isLetter (c : Char) : Bool :=
  if c.toNat < 128 then c.isAlpha else inRanges LetterTable.alphabetic c.toNat

/-- Numbers of any script: decimal digits, letter numbers and other numbers. -/
def isNumeral (c : Char) : Bool :=
  if c.toNat < 128 then c.isDigit else inRanges LetterTable.numeric c.toNat

/-- Characters that may stand inside a word. -/
def isWordChar (c : Char) : Bool := isLetter c || isNumeral c

/-- Decimal digits of any script. -/
def isDecimalDigit (c : Char) : Bool :=
  if c.toNat < 128 then c.isDigit else inRanges LetterTable.decimalDigit c.toNat

/-- Uppercase letters. -/
def isUpper (c : Char) : Bool :=
  if c.toNat < 128 then c.isUpper else inSteps CaseTable.uppercase c.toNat

/-- Lowercase letters. -/
def isLower (c : Char) : Bool :=
  if c.toNat < 128 then c.isLower else inSteps CaseTable.lowercase c.toNat

/-- Characters that have a case, titlecase included. -/
def isCased (c : Char) : Bool :=
  if c.toNat < 128 then c.isAlpha else inRanges CaseTable.cased c.toNat

/-- Characters that are skipped when the case of their surroundings is looked at. -/
def isCaseIgnorable (c : Char) : Bool :=
  if c.toNat < 128 then c == '\'' || c == '.' || c == ':' || c == '^' || c.toNat == 0x60
  else inRanges CaseTable.caseIgnorable c.toNat

/-- The lowercase of one character; only U+0130 has two characters for it. -/
def lowerChar (c : Char) : List Char :=
  if c.toNat < 128 then [c.toLower]
  else if c.toNat == 0x130 then ['i', '\u0307']
  else match CaseTable.toLower.find? fun r =>
      r.1 ≤ c.toNat && c.toNat ≤ r.2.1 && (c.toNat - r.1) % r.2.2.1 == 0 with
    | some r => [Char.ofNat (r.2.2.2 + (c.toNat - r.1))]
    | none => [c]

/-- Whether the first character that is not ignorable has a case. -/
def startsCased (cs : List Char) : Bool := (cs.dropWhile isCaseIgnorable).head?.any isCased

/-- Lowercase, with the characters before the present one in reverse: a capital sigma that ends a
word becomes the final sigma. -/
def lowerAfter (before : List Char) : List Char → List Char
  | [] => []
  | c :: rest =>
    (if c == 'Σ' then [if startsCased before && !startsCased rest then 'ς' else 'σ']
      else lowerChar c) ++ lowerAfter (c :: before) rest

/-- The lowercase of a text. -/
def lower (s : String) : String := String.ofList (lowerAfter [] s.toList)

/-- Lowercase of the ASCII letters alone. -/
def asciiLower (s : String) : String := String.ofList (s.toList.map Char.toLower)

/-- Equality up to the case of ASCII letters. -/
def sameIgnoringAsciiCase (s t : String) : Bool := asciiLower s == asciiLower t

end DesignCompiler.Text
