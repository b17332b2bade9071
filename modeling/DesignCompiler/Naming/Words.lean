import DesignCompiler.Text.Letter

/-! The words of a layer name. `NavBar`, `nav-bar` and `Nav Bar` all have the words `nav` and
`bar`. -/

namespace DesignCompiler.Naming

/-- Words from characters: the word under way, whether it ends in a lowercase letter or a digit,
and the text that follows. A character that is no letter or digit ends a word, and so does a capital
after a lowercase letter or a digit. -/
def wordsFrom (current : List Char) (afterLower : Bool) : List Char → List (List Char)
  | [] => if current.isEmpty then [] else [current]
  | c :: cs =>
    if !Text.isWordChar c then
      if current.isEmpty then wordsFrom [] false cs else current :: wordsFrom [] false cs
    else
      let lower := Text.isLower c || c.isDigit
      if Text.isUpper c && afterLower && !current.isEmpty then
        current :: wordsFrom (Text.lowerChar c) lower cs
      else wordsFrom (current ++ Text.lowerChar c) lower cs

/-- The lowercase words of a name. Digits stay with the word before them. -/
def nameWords (name : String) : List String := (wordsFrom [] false name.toList).map String.ofList

/-- Whether a name has one of the given words. -/
def hasWord (name : String) (keywords : List String) : Bool :=
  (nameWords name).any keywords.contains

/-- The first entry of a table one of whose keywords is among the words of a name. -/
def firstWithWord? {α : Type} (table : List (α × List String)) (name : String) : Option α :=
  let words := nameWords name
  (table.find? fun e => e.2.any words.contains).map (·.1)

end DesignCompiler.Naming
