import DesignCompiler.Text.GlyphTable
import DesignCompiler.Text.Letter

/-! Texts quoted in an error message. Whatever would not be seen as itself on a page is written by
number, so that two different texts never look alike. -/

namespace DesignCompiler.Text.Quoted

/-- Characters that are written by number: those without a glyph and those that combine with the
character before them. -/
def isHidden (c : Char) : Bool :=
  if c.toNat < 128 then c.toNat < 32 || c.toNat == 127
  else inRanges GlyphTable.combining c.toNat || inRanges GlyphTable.blankOrUnassigned c.toNat

/-- Hexadecimal digits in lowercase, without leading zeros. -/
def hex (n : Nat) : List Char := Nat.toDigits 16 n

/-- The characters that stand for one character between the quotes. -/
def encodeChar (c : Char) : List Char :=
  if c == '"' then ['\\', '"']
  else if c == '\\' then ['\\', '\\']
  else if c == '\n' then ['\\', 'n']
  else if c == '\r' then ['\\', 'r']
  else if c == '\t' then ['\\', 't']
  else if c.toNat == 0 then ['\\', '0']
  else if isHidden c then "\\u\x7b".toList ++ hex c.toNat ++ ['}']
  else [c]

/-- The text in double quotes. -/
def encode (s : String) : String :=
  String.ofList (['"'] ++ s.toList.flatMap encodeChar ++ ['"'])

end DesignCompiler.Text.Quoted
