import DesignCompiler.Json.Number

/-! JSON values and their compact and indented texts. Objects keep the order of their entries. -/

namespace DesignCompiler.Json

/-- A JSON value. -/
inductive Value where
  | null
  | bool (b : Bool)
  | number (n : Number)
  | string (s : String)
  | array (items : List Value)
  | object (entries : List (String × Value))

instance : Inhabited Value := ⟨.null⟩

/-- The characters that stand for one character inside a JSON string: the quote, the backslash and
the control characters below U+0020 are escaped, all others are themselves. -/
def escapeChar (c : Char) : List Char :=
  if c == '"' then ['\\', '"']
  else if c == '\\' then ['\\', '\\']
  else if c == '\n' then ['\\', 'n']
  else if c == '\r' then ['\\', 'r']
  else if c == '\t' then ['\\', 't']
  else if c.toNat == 8 then ['\\', 'b']
  else if c.toNat == 12 then ['\\', 'f']
  else if c.toNat < 32 then
    ['\\', 'u', '0', '0', Nat.digitChar (c.toNat / 16), Nat.digitChar (c.toNat % 16)]
  else [c]

/-- A string as a JSON literal. -/
def quoteChars (cs : List Char) : List Char := '"' :: cs.flatMap escapeChar ++ ['"']

/-- A string as a JSON literal. -/
def quote (s : String) : String := String.ofList (quoteChars s.toList)

namespace Value

/-- A natural number. -/
def ofNat (n : Nat) : Value := .number (.natural n)

/-- A float. -/
def ofFloat (x : Float) : Value := .number (.float x)

/-- A value that may be absent. -/
def ofOption {α : Type} (f : α → Value) : Option α → Value
  | none => .null
  | some a => f a

/-- A list of values. -/
def ofList {α : Type} (f : α → Value) (xs : List α) : Value := .array (xs.map f)

/-- An optional string. -/
def ofString? (s : Option String) : Value := ofOption .string s

/-- The value of an object's first entry with a key. -/
def get? (key : String) : Value → Option Value
  | .object entries => (entries.find? (·.1 == key)).map (·.2)
  | _ => none

/-- The text of a string value. -/
def string? : Value → Option String
  | .string s => some s
  | _ => none

mutual

/-- The text without blanks. -/
def compact : Value → String
  | .null => "null"
  | .bool b => if b then "true" else "false"
  | .number n => n.text
  | .string s => quote s
  | .array items => "[" ++ ",".intercalate (compactItems items) ++ "]"
  | .object entries => "\x7b" ++ ",".intercalate (compactEntries entries) ++ "\x7d"

def compactItems : List Value → List String
  | [] => []
  | v :: vs => v.compact :: compactItems vs

def compactEntries : List (String × Value) → List String
  | [] => []
  | (k, v) :: rest => (quote k ++ ":" ++ v.compact) :: compactEntries rest

end

/-- Lines between an opening and a closing bracket, one item a line; an empty list is the two
brackets alone. -/
def bracketed (opening closing indent : String) (items : List String) : String :=
  if items.isEmpty then opening ++ closing
  else
    let inner := indent ++ "  "
    opening ++ "\n" ++ ",\n".intercalate (items.map (inner ++ ·)) ++ "\n" ++ indent ++ closing

mutual

/-- The text with one item a line, nested by two spaces. -/
def indented (indent : String) : Value → String
  | .array items => bracketed "[" "]" indent (indentedItems (indent ++ "  ") items)
  | .object entries => bracketed "\x7b" "\x7d" indent (indentedEntries (indent ++ "  ") entries)
  | .null => "null"
  | .bool b => if b then "true" else "false"
  | .number n => n.text
  | .string s => quote s

def indentedItems (indent : String) : List Value → List String
  | [] => []
  | v :: vs => v.indented indent :: indentedItems indent vs

def indentedEntries (indent : String) : List (String × Value) → List String
  | [] => []
  | (k, v) :: rest => (quote k ++ ": " ++ v.indented indent) :: indentedEntries indent rest

end

end Value

end DesignCompiler.Json
