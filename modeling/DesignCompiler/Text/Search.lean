/-! Occurrences of one text inside another. -/

namespace DesignCompiler.Text

/-- Whether one list occurs in another as a run. -/
def hasInfix (w : List Char) : List Char → Bool
  | [] => w.isEmpty
  | c :: cs => w.isPrefixOf (c :: cs) || hasInfix w cs

/-- Whether a text contains another one. -/
def contains (s w : String) : Bool := hasInfix w.toList s.toList

/-- The rest of a text after a given beginning. -/
def afterPrefix? (w cs : List Char) : Option (List Char) :=
  if w.isPrefixOf cs then some (cs.drop w.length) else none

end DesignCompiler.Text
