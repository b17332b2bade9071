/-! Texts as lists of lines. A line feed separates two lines, so a text that ends with one has an
empty last line, and the empty text is one empty line. -/

namespace DesignCompiler.Text

/-- The lines of a text. -/
def lines (s : String) : List String := (s.toList.splitOn '\n').map String.ofList

/-- The text with the given lines. -/
def ofLines (ls : List String) : String := "\n".intercalate ls

theorem ofLines_lines (s : String) : ofLines (lines s) = s := by
  apply String.toList_inj.1
  simp [ofLines, lines, Function.comp_def, List.intercalate_splitOn]

theorem lines_ofLines (ls : List String) (hne : ls ≠ []) (h : ∀ l ∈ ls, '\n' ∉ l.toList) :
    lines (ofLines ls) = ls := by
  simp only [lines, ofLines, String.toList_intercalate]
  rw [show "\n".toList = ['\n'] from rfl, List.splitOn_intercalate]
  · simp [Function.comp_def]
  · simpa using h
  · simpa using hne

/-- The parts of a text between the occurrences of a character. -/
def splitAt (c : Char) (s : String) : List String := (s.toList.splitOn c).map String.ofList

/-- The text before and the text after the first occurrence of a character. -/
def cutAt (c : Char) (cs : List Char) : Option (List Char × List Char) :=
  match cs.dropWhile (· != c) with
  | [] => none
  | _ :: rest => some (cs.takeWhile (· != c), rest)

end DesignCompiler.Text
