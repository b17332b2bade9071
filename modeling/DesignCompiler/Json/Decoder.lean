import DesignCompiler.Json.Fault
import DesignCompiler.Json.Reader

/-! Decoders: how a JSON text is read as a value of the domain. Of several faults the one that comes
first in the text is reported, and a missing field only after all that is present. -/

namespace DesignCompiler.Json

/-- Where a value stands: in a text, with the nesting that is still allowed, or among values that
are already known in full. -/
inductive Place where
  | text (depth : Nat)
  | known
  deriving DecidableEq

/-- The place one level deeper. -/
def Place.enter : Place → Except Fault Place
  | .known => .ok .known
  | .text depth => if 1 < depth then .ok (.text (depth - 1)) else .error .malformed

/-- The nesting that a text may have. -/
def maxDepth : Nat := 128

/-- A way to read a value. -/
def Decoder (α : Type) := Place → Draft → Except Fault α

namespace Decoder

def map {α β : Type} (f : α → β) (d : Decoder α) : Decoder β := fun p x => (d p x).map f

def string : Decoder String := fun _ d =>
  match d with
  | .string (some s) => .ok s
  | d => .error (.wrongType "a string" d)

def bool : Decoder Bool := fun _ d =>
  match d with
  | .bool b => .ok b
  | d => .error (.wrongType "a boolean" d)

/-- A number of any kind. -/
def float : Decoder Float := fun _ d =>
  match d with
  | .number (some n) => .ok n.toFloat
  | d => .error (.wrongType "f64" d)

/-- A natural number below a bound; the type's name stands in the reason. -/
def natBelow (bound : Nat) (name : String) : Decoder Nat := fun _ d =>
  match d with
  | .number (some (.natural n)) =>
    if n < bound then .ok n else .error (.misfit (.wrongValue (.number (.natural n)) name))
  | .number (some (.negative n)) => .error (.misfit (.wrongValue (.number (.negative n)) name))
  | d => .error (.wrongType name d)

/-- A value or `null`. -/
def option {α : Type} (dec : Decoder α) : Decoder (Option α) := fun p d =>
  match d with
  | .null => .ok none
  | d => (dec p d).map some

/-- Any value at all. -/
def any : Decoder Value := fun p d =>
  match d.value? (match p with | .text depth => depth | .known => UInt64.size) with
  | some v => .ok v
  | none => .error .malformed

/-- A value in one of several forms, which is first read in full. -/
def untagged {α : Type} (name : String) (alternative? : Value → Option α) : Decoder α := fun p d =>
  match any p d with
  | .error e => .error e
  | .ok v =>
    match alternative? v with
    | some a => .ok a
    | none => .error (.misfit (.noAlternative name))

def items {α : Type} (dec : Decoder α) (p : Place) : List Draft → Except Fault (List α)
  | [] => .ok []
  | d :: ds =>
    match dec p d with
    | .error e => .error e
    | .ok a => (items dec p ds).map (a :: ·)

/-- A list of values. -/
def list {α : Type} (dec : Decoder α) : Decoder (List α) := fun p d =>
  match d with
  | .array ds closed =>
    match p.enter with
    | .error e => .error e
    | .ok p =>
      match items dec p ds with
      | .error e => .error e
      | .ok as => if closed then .ok as else .error .malformed
  | d => .error (.wrongType "a sequence" d)

/-- The fault of items that are left over. -/
def surplus (p : Place) (length : Nat) : Fault :=
  match p with
  | .text _ => .malformed
  | .known => .misfit (.wrongLength length "fewer elements in array")

/-- A list of a fixed length. -/
def exactly {α : Type} (n : Nat) (dec : Decoder α) : Decoder (List α) := fun p d =>
  let wanted := "an array of length " ++ toString n
  match d with
  | .array ds closed =>
    match p.enter with
    | .error e => .error e
    | .ok p =>
      match items dec p (ds.take n) with
      | .error e => .error e
      | .ok as =>
        if n < ds.length then .error (surplus p ds.length)
        else if !closed then .error .malformed
        else if ds.length < n then .error (.misfit (.wrongLength ds.length wanted))
        else .ok as
  | d => .error (.wrongType wanted d)

/-- Put a value under a key: a key that is known keeps its position, a new one comes last. -/
def putEntry {α : Type} (k : String) (v : α) : List (String × α) → List (String × α)
  | [] => [(k, v)]
  | (k', v') :: rest => if k == k' then (k, v) :: rest else (k', v') :: putEntry k v rest

def entries {α : Type} (dec : Decoder α) (p : Place) (acc : List (String × α)) :
    List (Option String × Draft) → Except Fault (List (String × α))
  | [] => .ok acc
  | (none, _) :: _ => .error .malformed
  | (some k, d) :: rest =>
    match dec p d with
    | .error e => .error e
    | .ok a => entries dec p (putEntry k a acc) rest

/-- A table in the order of first appearance, the last value of a key standing. -/
def table {α : Type} (dec : Decoder α) : Decoder (List (String × α)) := fun p d =>
  match d with
  | .object es closed =>
    match p.enter with
    | .error e => .error e
    | .ok p =>
      match entries dec p [] es with
      | .error e => .error e
      | .ok as => if closed then .ok as else .error .malformed
  | d => .error (.wrongType "a map" d)

/-- One of several words. -/
def word? {α : Type} (variants : List (String × α)) (other : Option α) (s : String) :
    Except Fault α :=
  match (variants.find? (·.1 == s)).map (·.2), other with
  | some a, _ => .ok a
  | none, some a => .ok a
  | none, none => .error (.misfit (.unknownVariant s (variants.map (·.1))))

/-- A word may be followed by the empty content `null`. -/
def emptyContent (d : Draft) : Except Fault Unit :=
  match d with
  | .null => .ok ()
  | d => .error (.wrongType "unit" d)

/-- One of several words, each standing for a value; `other` stands for all words that are not
listed. A word may also be the only key of a map, with `null` as its content. -/
def oneOf {α : Type} (variants : List (String × α)) (other : Option α) : Decoder α := fun p d =>
  match p, d with
  | _, .string (some s) => word? variants other s
  | .text depth, .object ((some k, content) :: more) closed =>
    if depth ≤ 1 then .error .malformed
    else
      match word? variants other k, emptyContent content with
      | .error e, _ => .error e
      | _, .error e => .error e
      | .ok a, _ => if more.isEmpty && closed then .ok a else .error .malformed
  | .text _, _ => .error .malformed
  | .known, .object [(some k, content)] _ =>
    match word? variants other k, emptyContent content with
    | .error e, _ => .error e
    | _, .error e => .error e
    | .ok a, _ => .ok a
  | .known, .object _ _ => .error (.misfit (.wrongValue .map "map with a single key"))
  | .known, d => .error (.wrongType "string or map" d)

end Decoder

namespace Decoder

/-- One of several cases among known values: a word for a case without content, or a map with the
word of a case as its only key. -/
def cases {α : Type} (words : List (String × α)) (contents : List (String × Decoder α)) :
    Decoder α := fun p d =>
  let known := words.map (·.1) ++ contents.map (·.1)
  match d with
  | .string (some s) =>
    match (words.find? (·.1 == s)).map (·.2) with
    | some a => .ok a
    | none =>
      .error (.misfit (if known.contains s then .wrongType .bareCase "newtype variant"
        else .unknownVariant s known))
  | .object [(some k, content)] _ =>
    match (contents.find? (·.1 == k)).map (·.2), (words.find? (·.1 == k)).map (·.2) with
    | some dec, _ => dec p content
    | none, some a => (emptyContent content).map fun _ => a
    | none, none => .error (.misfit (.unknownVariant k known))
  | .object _ _ => .error (.misfit (.wrongValue .map "map with a single key"))
  | d => .error (.wrongType "string or map" d)

end Decoder

/-- The entries from which a record is read: those with a known name, each with its position, and
the fault of a field that is absent. -/
structure Present where
  place : Place
  entries : List (Nat × String × Draft)
  /-- The fault of a field without which there is no record. -/
  absent : String → Fault
  /-- The fault of a field that may be absent where fields have names. -/
  absentOption : String → Option Fault

/-- Faults are ranked by position; those of absent fields come last. -/
def Present.last (e : Present) : Nat :=
  (e.entries.map (·.1)).foldl max 0 + 4

def Present.find? (e : Present) (name : String) : Option (Nat × Draft) :=
  (e.entries.find? (·.2.1 == name)).map fun (pos, _, d) => (pos, d)

/-- A reader of some of the fields of a record. Its faults carry their position. -/
structure Fields (α : Type) where
  names : List String
  read : Present → Except (Nat × Fault) α

namespace Fields

/-- The fault that comes first in the text. -/
def both {α β : Type} (f : Except (Nat × Fault) (α → β)) (x : Except (Nat × Fault) α) :
    Except (Nat × Fault) β :=
  match f, x with
  | .ok f, .ok x => .ok (f x)
  | .error e, .ok _ => .error e
  | .ok _, .error e => .error e
  | .error e, .error e' => .error (if e'.1 < e.1 then e' else e)

instance : Applicative Fields where
  pure a := ⟨[], fun _ => .ok a⟩
  seq f x := ⟨f.names ++ (x ()).names, fun e => both (f.read e) ((x ()).read e)⟩

/-- What one field holds. -/
def field {α : Type} (name : String) (dec : Decoder α) (absent : Present → Except Fault α) :
    Fields α where
  names := [name]
  read e :=
    match e.find? name with
    | some (pos, d) => (dec e.place d).mapError (pos, ·)
    | none => (absent e).mapError (e.last, ·)

/-- A field that every record has. -/
def required {α : Type} (name : String) (dec : Decoder α) : Fields α :=
  field name dec fun e => .error (e.absent name)

/-- A field with a value for the case that it is absent. -/
def withDefault {α : Type} (name : String) (default : α) (dec : Decoder α) : Fields α :=
  field name dec fun _ => .ok default

/-- A field that may be absent or `null`. -/
def optional {α : Type} (name : String) (dec : Decoder α) : Fields (Option α) :=
  withDefault name none dec.option

/-- A field that may be `null`, and absent only where fields have names. -/
def nullable {α : Type} (name : String) (dec : Decoder α) : Fields (Option α) :=
  field name dec.option fun e =>
    match e.absentOption name with
    | none => .ok none
    | some f => .error f

end Fields

namespace Decoder

/-- Faults of the entries themselves: a key that denotes nothing, a known key for the second time,
and the value of an unknown key that is malformed. -/
def entryFaults (names seen : List String) (i : Nat) :
    List (Option String × Draft) → List (Nat × Fault)
  | [] => []
  | (none, _) :: _ => [(2 * i, .malformed)]
  | (some k, d) :: rest =>
    if names.contains k then
      if seen.contains k then [(2 * i, .misfit (.duplicateField k))]
      else entryFaults names (k :: seen) (i + 1) rest
    else if d.isWhole then entryFaults names seen (i + 1) rest
    else [(2 * i + 1, .malformed)]

/-- The entries that have a known name, numbered. -/
def knownEntries (names : List String) (i : Nat) :
    List (Option String × Draft) → List (Nat × String × Draft)
  | [] => []
  | (none, _) :: _ => []
  | (some k, d) :: rest =>
    if names.contains k then (2 * i + 1, k, d) :: knownEntries names (i + 1) rest
    else knownEntries names (i + 1) rest

/-- Entries by position in a list. -/
def positional (i : Nat) : List String → List Draft → List (Nat × String × Draft)
  | name :: names, d :: ds => (2 * i + 1, name, d) :: positional (i + 1) names ds
  | _, _ => []

/-- The result of the fields, or a fault among the entries that comes before theirs. -/
def firstFault {α : Type} (faults : List (Nat × Fault)) (r : Except (Nat × Fault) α) :
    Except Fault α :=
  match faults, r with
  | [], .ok a => .ok a
  | [], .error (_, f) => .error f
  | (_, f) :: _, .ok _ => .error f
  | (pos, f) :: _, .error (pos', f') => .error (if pos < pos' then f else f')

/-- A map with the names of the fields, or a list with their values in order. Unknown names are
passed over. The form stands in the reasons. -/
def recordAs {α : Type} (form : String) (fields : Fields α) : Decoder α := fun p d =>
  match d with
  | .object es closed =>
    match p.enter with
    | .error e => .error e
    | .ok p =>
      let faults := entryFaults fields.names [] 0 es ++
        if closed then [] else [(2 * es.length, .malformed)]
      let result := fields.read
        { place := p
          entries := knownEntries fields.names 0 es ++ [(2 * es.length, "", .null)]
          absent := fun n => .misfit (.missingField n)
          absentOption := fun _ => none }
      firstFault faults result
  | .array ds closed =>
    match p.enter with
    | .error e => .error e
    | .ok p =>
      let count := fields.names.length
      let wanted := form ++ " with " ++ toString count ++
        if count == 1 then " element" else " elements"
      let faults :=
        if count < ds.length then [(2 * count, surplus p ds.length)]
        else if closed then [] else [(2 * ds.length, .malformed)]
      let absent (n : String) : Fault := .misfit (.wrongLength (fields.names.idxOf n) wanted)
      let result := fields.read
        { place := p
          entries := positional 0 fields.names ds ++ [(2 * ds.length, "", .null)]
          absent := absent
          absentOption := fun n => some (absent n) }
      firstFault faults result
  | d => .error (.wrongType form d)

/-- A record with a name. -/
def record {α : Type} (name : String) (fields : Fields α) : Decoder α :=
  recordAs ("struct " ++ name) fields

end Decoder

/-- Read a text that holds one value. -/
def decodeText {α : Type} (dec : Decoder α) (s : String) : Except Fault α :=
  let r := Reader.read s
  match dec (.text maxDepth) r.value with
  | .error e => .error e
  | .ok a => if r.ended then .ok a else .error .malformed

/-- Read a value that is known in full. -/
def decodeValue {α : Type} (dec : Decoder α) (v : Value) : Except Misfit α :=
  match dec .known (Draft.ofValue v) with
  | .ok a => .ok a
  | .error (.misfit m) => .error m
  | .error .malformed => .error (.other "malformed")

end DesignCompiler.Json
