import DesignCompiler.Json.Draft

/-! Reading JSON text. The reader never fails: it returns what it has understood and where the text
goes on, and the text goes on nowhere once it is malformed. -/

namespace DesignCompiler.Json.Reader

/-- A part that was read, and the text after it; `none` after a malformed place. -/
abbrev Step (α : Type) := α × Option (List Char)

def isSpace (c : Char) : Bool := c == ' ' || c == '\n' || c == '\t' || c == '\r'

def skipSpace (cs : List Char) : List Char := cs.dropWhile isSpace

def hexValue? (c : Char) : Option Nat :=
  if c.isDigit then some (c.toNat - '0'.toNat)
  else if 'a' ≤ c && c ≤ 'f' then some (c.toNat - 'a'.toNat + 10)
  else if 'A' ≤ c && c ≤ 'F' then some (c.toNat - 'A'.toNat + 10)
  else none

/-- Four hexadecimal digits. -/
def hex4? : List Char → Option (Nat × List Char)
  | a :: b :: c :: d :: rest =>
    match hexValue? a, hexValue? b, hexValue? c, hexValue? d with
    | some a, some b, some c, some d => some (((a * 16 + b) * 16 + c) * 16 + d, rest)
    | _, _, _, _ => none
  | _ => none

/-- The character of a one-letter escape. -/
def escape? (c : Char) : Option Char :=
  match c with
  | '"' => some '"'
  | '\\' => some '\\'
  | '/' => some '/'
  | 'b' => some (Char.ofNat 8)
  | 'f' => some (Char.ofNat 12)
  | 'n' => some '\n'
  | 'r' => some '\r'
  | 't' => some '\t'
  | _ => none

/-- The 16-bit units of a string up to its closing quote, a character outside escapes being one
unit of its own value. `none` when the string is not closed or holds a bad escape or a control
character. -/
def units : Nat → List Char → List (Nat ⊕ Char) → Option (List (Nat ⊕ Char) × List Char)
  | 0, _, _ => none
  | _ + 1, [], _ => none
  | fuel + 1, c :: rest, acc =>
    if c == '"' then some (acc.reverse, rest)
    else if c == '\\' then
      match rest with
      | [] => none
      | e :: rest =>
        if e == 'u' then
          match hex4? rest with
          | some (n, rest) => units fuel rest (.inl n :: acc)
          | none => none
        else
          match escape? e with
          | some x => units fuel rest (.inr x :: acc)
          | none => none
    else if c.toNat < 32 then none
    else units fuel rest (.inr c :: acc)

def isHighHalf (n : Nat) : Bool := 0xD800 ≤ n && n < 0xDC00
def isLowHalf (n : Nat) : Bool := 0xDC00 ≤ n && n < 0xE000

/-- Join the halves of surrogate pairs; a half without its partner denotes nothing. -/
def joinHalves : List (Nat ⊕ Char) → Option (List Char)
  | [] => some []
  | .inr c :: rest => (joinHalves rest).map (c :: ·)
  | .inl n :: .inl m :: rest =>
    if isHighHalf n then
      if isLowHalf m then
        (joinHalves rest).map (Char.ofNat (0x10000 + (n - 0xD800) * 0x400 + (m - 0xDC00)) :: ·)
      else none
    else if isLowHalf n then none
    else (joinHalves (.inl m :: rest)).map (Char.ofNat n :: ·)
  | .inl n :: rest =>
    if isHighHalf n || isLowHalf n then none else (joinHalves rest).map (Char.ofNat n :: ·)
  termination_by l => l.length

/-- The rest of a string after its opening quote. -/
def string? (cs : List Char) : Option (Option String × List Char) :=
  (units (cs.length + 1) cs []).map fun (us, rest) => ((joinHalves us).map String.ofList, rest)

def digits (cs : List Char) : List Char × List Char :=
  (cs.takeWhile Decimal.isAsciiDigit, cs.dropWhile Decimal.isAsciiDigit)

/-- The point and at least one digit, if there is a point. -/
def places? : List Char → Option (Option (List Char) × List Char)
  | '.' :: rest =>
    let (ds, rest) := digits rest
    if ds.isEmpty then none else some (some ds, rest)
  | rest => some (none, rest)

/-- The exponent, if there is one. -/
def power? : List Char → Option (Option (Bool × List Char) × List Char)
  | [] => some (none, [])
  | c :: rest =>
    if c != 'e' && c != 'E' then some (none, c :: rest)
    else
      let (down, rest) := match rest with
        | '-' :: r => (true, r)
        | '+' :: r => (false, r)
        | r => (false, r)
      let (ds, rest) := digits rest
      if ds.isEmpty then none else some (some (down, ds), rest)

/-- A number. Its whole part is a single zero or starts with another digit. -/
def number? (cs : List Char) : Option (NumberText × List Char) :=
  let (negative, cs) := match cs with
    | '-' :: r => (true, r)
    | r => (false, r)
  let (whole, rest) := digits cs
  if whole.isEmpty || (whole.head? == some '0' && whole.length != 1) then none
  else
    match places? rest with
    | none => none
    | some (places, rest) =>
      match power? rest with
      | none => none
      | some (power, rest) => some (⟨negative, whole, places, power⟩, rest)

/-- The text after a fixed word. -/
def word? (w : List Char) (cs : List Char) : Option (List Char) :=
  if w.isPrefixOf cs then some (cs.drop w.length) else none

def wordStep (w : List Char) (d : Draft) (cs : List Char) : Step Draft :=
  match word? w cs with
  | some rest => (d, some rest)
  | none => (.broken, none)

mutual

/-- One value, after blanks. -/
def value : Nat → List Char → Step Draft
  | 0, _ => (.broken, none)
  | fuel + 1, cs =>
    match skipSpace cs with
    | [] => (.broken, none)
    | c :: rest =>
      if c == '[' then
        match skipSpace rest with
        | ']' :: rest => (.array [] true, some rest)
        | rest =>
          let (items, rest) := items fuel rest
          (.array items rest.isSome, rest)
      else if c == '\x7b' then
        match skipSpace rest with
        | '\x7d' :: rest => (.object [] true, some rest)
        | rest =>
          let (entries, rest) := entries fuel rest
          (.object entries rest.isSome, rest)
      else if c == '"' then
        match string? rest with
        | some (s, rest) => (.string s, some rest)
        | none => (.broken, none)
      else if c == 'n' then wordStep ['n', 'u', 'l', 'l'] .null (c :: rest)
      else if c == 't' then wordStep ['t', 'r', 'u', 'e'] (.bool true) (c :: rest)
      else if c == 'f' then wordStep ['f', 'a', 'l', 's', 'e'] (.bool false) (c :: rest)
      else
        match number? (c :: rest) with
        | some (n, rest) => (.number n.value?, some rest)
        | none => (.broken, none)

/-- The items of an array up to its closing bracket, at least one. -/
def items : Nat → List Char → Step (List Draft)
  | 0, _ => ([], none)
  | fuel + 1, cs =>
    match skipSpace cs with
    | [] => ([], none)
    | cs =>
      let (d, rest) := value fuel cs
      match rest with
      | none => ([d], none)
      | some rest =>
        match skipSpace rest with
        | ']' :: rest => ([d], some rest)
        | ',' :: rest =>
          match skipSpace rest with
          | ']' :: _ => ([d], none)
          | rest =>
            let (ds, rest) := items fuel rest
            (d :: ds, rest)
        | _ => ([d], none)

/-- The entries of an object up to its closing brace, at least one. -/
def entries : Nat → List Char → Step (List (Option String × Draft))
  | 0, _ => ([], none)
  | fuel + 1, cs =>
    match skipSpace cs with
    | '"' :: rest =>
      match string? rest with
      | none => ([], none)
      | some (key, rest) =>
        match skipSpace rest with
        | ':' :: rest =>
          let (d, rest) := value fuel rest
          match rest with
          | none => ([(key, d)], none)
          | some rest =>
            match skipSpace rest with
            | '\x7d' :: rest => ([(key, d)], some rest)
            | ',' :: rest =>
              let (es, rest) := entries fuel rest
              ((key, d) :: es, rest)
            | _ => ([(key, d)], none)
        | _ => ([(key, .broken)], none)
    | _ => ([], none)

end

/-- A whole text: its value as far as it could be read, and whether nothing but blanks follows. -/
structure Reading where
  value : Draft
  ended : Bool

/-- Read a text. -/
def read (s : String) : Reading :=
  let cs := s.toList
  let (d, rest) := value (2 * cs.length + 4) cs
  ⟨d, match rest with
    | none => false
    | some rest => (skipSpace rest).isEmpty⟩

end DesignCompiler.Json.Reader
