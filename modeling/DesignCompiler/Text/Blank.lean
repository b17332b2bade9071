/-! White space in the sense of Unicode: which characters are blank, and texts trimmed of them. -/

namespace DesignCompiler.Text

/-- Characters with the property White_Space. -/
def isBlank (c : Char) : Bool :=
  (9 ≤ c.toNat && c.toNat ≤ 13) || c.toNat == 0x20 || c.toNat == 0x85 || c.toNat == 0xA0 ||
  c.toNat == 0x1680 || (0x2000 ≤ c.toNat && c.toNat ≤ 0x200A) || c.toNat == 0x2028 ||
  c.toNat == 0x2029 || c.toNat == 0x202F || c.toNat == 0x205F || c.toNat == 0x3000

/-- All characters of the list are blank. -/
def allBlank (cs : List Char) : Bool := cs.all isBlank

/-- Drop the characters at the end that satisfy a test. -/
def dropEndWhile (p : Char → Bool) (cs : List Char) : List Char :=
  (cs.reverse.dropWhile p).reverse

/-- Drop the blank characters at both ends. -/
def trimChars (cs : List Char) : List Char := dropEndWhile isBlank (cs.dropWhile isBlank)

/-- Drop the blank characters at both ends of a text. -/
def trim (s : String) : String := String.ofList (trimChars s.toList)

@[simp] theorem toList_trim (s : String) : (trim s).toList = trimChars s.toList := by simp [trim]

/-- A text of blank characters only. -/
def isBlankText (s : String) : Bool := allBlank s.toList

/-- The runs of characters that are not blank. -/
def blankSeparated (cs : List Char) : List (List Char) :=
  (cs.splitOnP isBlank).filter (!·.isEmpty)

/-- Every run of blank characters becomes one space, and none is left at the ends. -/
def collapseBlanks (cs : List Char) : List Char := [' '].intercalate (blankSeparated cs)

end DesignCompiler.Text
