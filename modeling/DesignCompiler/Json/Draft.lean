import DesignCompiler.Json.Value

/-! What has been understood of a JSON text up to the first place where it is malformed. A reader
that looks for the fields of a record can so find a fault of the data before a later fault of the
text. -/

namespace DesignCompiler.Json

/-- A JSON text as far as it could be read. A number or string without a value is well formed but
denotes none: it is out of range or holds half a surrogate pair. A list that is not closed was cut
off where the text is malformed, and `broken` stands for a value that cannot be read at all. -/
inductive Draft where
  | null
  | bool (b : Bool)
  | number (n : Option Number)
  | string (s : Option String)
  | array (items : List Draft) (closed : Bool)
  | object (entries : List (Option String × Draft)) (closed : Bool)
  | broken

namespace Draft

instance : Inhabited Draft := ⟨.broken⟩

mutual

/-- Whether the text of the value has the form of JSON. -/
def isWhole : Draft → Bool
  | .broken => false
  | .array items closed => closed && allWhole items
  | .object entries closed => closed && allWholeEntries entries
  | _ => true

def allWhole : List Draft → Bool
  | [] => true
  | d :: ds => d.isWhole && allWhole ds

def allWholeEntries : List (Option String × Draft) → Bool
  | [] => true
  | (_, d) :: rest => d.isWhole && allWholeEntries rest

end

mutual

/-- A value that is known in full. -/
def ofValue : Value → Draft
  | .null => .null
  | .bool b => .bool b
  | .number n => .number (some n)
  | .string s => .string (some s)
  | .array items => .array (ofValues items) true
  | .object entries => .object (ofEntries entries) true

def ofValues : List Value → List Draft
  | [] => []
  | v :: vs => ofValue v :: ofValues vs

def ofEntries : List (String × Value) → List (Option String × Draft)
  | [] => []
  | (k, v) :: rest => (some k, ofValue v) :: ofEntries rest

end

/-- Put an entry into a list sorted by key; an entry with the same key is replaced. -/
def insertEntry {α : Type} (k : String) (v : α) : List (String × α) → List (String × α)
  | [] => [(k, v)]
  | (k', v') :: rest =>
    if k == k' then (k, v) :: rest
    else if k < k' then (k, v) :: (k', v') :: rest
    else (k', v') :: insertEntry k v rest

/-- Entries in ascending order of their keys; of those with one key the last remains. -/
def sortEntries {α : Type} (entries : List (String × α)) : List (String × α) :=
  entries.foldl (fun sorted e => insertEntry e.1 e.2 sorted) []

mutual

/-- The value, with the entries of its objects sorted by key, if the text is well formed and is
nested less than `depth` deep. -/
def value? (depth : Nat) : Draft → Option Value
  | .null => some .null
  | .bool b => some (.bool b)
  | .number n => n.map .number
  | .string s => s.map .string
  | .array items closed =>
    if 1 < depth then
      match values? (depth - 1) items with
      | some vs => if closed then some (.array vs) else none
      | none => none
    else none
  | .object entries closed =>
    if 1 < depth then
      match entries? (depth - 1) entries with
      | some es => if closed then some (.object (sortEntries es)) else none
      | none => none
    else none
  | .broken => none

def values? (depth : Nat) : List Draft → Option (List Value)
  | [] => some []
  | d :: ds =>
    match d.value? depth, values? depth ds with
    | some v, some vs => some (v :: vs)
    | _, _ => none

def entries? (depth : Nat) : List (Option String × Draft) → Option (List (String × Value))
  | [] => some []
  | (k, d) :: rest =>
    match k, d.value? depth, entries? depth rest with
    | some k, some v, some es => some ((k, v) :: es)
    | _, _, _ => none

end

end Draft

end DesignCompiler.Json
