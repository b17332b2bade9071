/-! Identifiers from names that are written freely. Only ASCII letters and digits count; every other
character is a break between words. -/

namespace DesignCompiler.Naming

/-- How the words of an identifier are joined. -/
inductive Joining where
  | camel
  | pascal
  | kebab
  deriving DecidableEq, Repr

/-- Whether a word ends between two characters, given the character after them: where a lowercase
letter meets a capital, where a letter meets a digit, and before the last capital of several when a
lowercase letter follows. -/
def breaksBetween (a b : Char) (next : Option Char) : Bool :=
  (a.isLower && b.isUpper) || (a.isUpper && b.isDigit) || (a.isDigit && b.isUpper) ||
  (a.isDigit && b.isLower) || (a.isLower && b.isDigit) ||
  (a.isUpper && b.isUpper && next.any Char.isLower)

/-- Put a character in front of the first word. -/
def consFirst (c : Char) : List (List Char) → List (List Char)
  | [] => [[c]]
  | w :: ws => (c :: w) :: ws

/-- The words of a text, possibly empty ones among them. -/
def rawParts : List Char → List (List Char)
  | [] => []
  | [c] => if c.isAlphanum then [[c]] else [[], []]
  | a :: b :: rest =>
    let parts := rawParts (b :: rest)
    if !a.isAlphanum then [] :: parts
    else if b.isAlphanum && breaksBetween a b rest.head? then [a] :: parts
    else consFirst a parts

/-- The words of a text. -/
def identifierParts (cs : List Char) : List (List Char) := (rawParts cs).filter (!·.isEmpty)

def lowerWord (w : List Char) : List Char := w.map Char.toLower

/-- A capital, then lowercase letters. -/
def capitalWord : List Char → List Char
  | [] => []
  | c :: cs => c.toUpper :: lowerWord cs

/-- The words joined. -/
def joinWords (j : Joining) (ws : List (List Char)) : List Char :=
  match j with
  | .pascal => ws.flatMap capitalWord
  | .camel =>
    match ws with
    | [] => []
    | w :: ws => lowerWord w ++ ws.flatMap capitalWord
  | .kebab => ['-'].intercalate (ws.map lowerWord)

/-- The characters of an identifier for a text. It is never empty and never starts with a digit. -/
def identifierChars (j : Joining) (cs : List Char) : List Char :=
  match joinWords j (identifierParts cs) with
  | [] => joinWords j ["unnamed".toList]
  | c :: rest => if c.isDigit then '_' :: c :: rest else c :: rest

/-- An identifier for a name. -/
def identifier (j : Joining) (name : String) : String :=
  String.ofList (identifierChars j name.toList)

/-- The identifier of a component: an identifier that starts with a capital. -/
def componentIdentifier (name : String) : String :=
  match identifierChars .pascal name.toList with
  | '_' :: rest => String.ofList ("Component_".toList ++ rest)
  | cs => String.ofList cs

/-- The identifier of a prop: that of the key without the mark that a hash sign sets off. -/
def propIdentifier (key : String) : String :=
  String.ofList (identifierChars .camel (key.toList.takeWhile (· != '#')))

end DesignCompiler.Naming
