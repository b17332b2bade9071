import DesignCompiler.Json.Draft
import DesignCompiler.Text.Quoted

/-! Why a JSON text does not hold the value that is asked for. -/

namespace DesignCompiler.Json

/-- What was found in place of the wanted value. -/
inductive Found where
  | null
  | bool (b : Bool)
  | number (n : Number)
  | string (s : String)
  | sequence
  | map
  /-- The word of a case alone, without its content. -/
  | bareCase

/-- The reasons why well-formed text does not fit. -/
inductive Misfit where
  | missingField (name : String)
  | duplicateField (name : String)
  | unknownVariant (name : String) (known : List String)
  | wrongType (found : Found) (wanted : String)
  | wrongValue (found : Found) (wanted : String)
  | wrongLength (n : Nat) (wanted : String)
  | noAlternative (name : String)
  | other (text : String)

/-- A text is malformed, or it is well formed and does not fit. -/
inductive Fault where
  | malformed
  | misfit (m : Misfit)

/-- What was found, in words. -/
def Found.text : Found → String
  | .null => "null"
  | .bool b => "boolean \x60" ++ (if b then "true" else "false") ++ "\x60"
  | .number (.float x) => "floating point \x60" ++ (Number.float x).text ++ "\x60"
  | .number n => "integer \x60" ++ n.text ++ "\x60"
  | .string s => "string " ++ Text.Quoted.encode s
  | .sequence => "sequence"
  | .map => "map"
  | .bareCase => "unit variant"

/-- A name between grave accents. -/
def ticked (s : String) : String := "\x60" ++ s ++ "\x60"

/-- A list of names to choose from. -/
def choice : List String → String
  | [] => "there are no variants"
  | [a] => "expected " ++ ticked a
  | [a, b] => "expected " ++ ticked a ++ " or " ++ ticked b
  | names => "expected one of " ++ ", ".intercalate (names.map ticked)

/-- The reason in words. -/
def Misfit.text : Misfit → String
  | missingField name => "missing field " ++ ticked name
  | duplicateField name => "duplicate field " ++ ticked name
  | unknownVariant name [] => "unknown variant " ++ ticked name ++ ", there are no variants"
  | unknownVariant name known => "unknown variant " ++ ticked name ++ ", " ++ choice known
  | wrongType found wanted => "invalid type: " ++ found.text ++ ", expected " ++ wanted
  | wrongValue found wanted => "invalid value: " ++ found.text ++ ", expected " ++ wanted
  | wrongLength n wanted => "invalid length " ++ toString n ++ ", expected " ++ wanted
  | noAlternative name => "data did not match any variant of untagged enum " ++ name
  | other text => text

/-- The fault in words. -/
def Fault.text : Fault → String
  | malformed => "malformed JSON"
  | misfit m => m.text

/-- What a draft is found to be when something else is wanted. Scalars that denote nothing are
malformed; a list or map is recognised by its bracket, whatever it holds. -/
def Found.ofDraft? : Draft → Option Found
  | .null => some .null
  | .bool b => some (.bool b)
  | .number n => n.map .number
  | .string s => s.map .string
  | .array _ _ => some .sequence
  | .object _ _ => some .map
  | .broken => none

/-- The fault of a draft where another kind of value is wanted. -/
def Fault.wrongType (wanted : String) (d : Draft) : Fault :=
  match Found.ofDraft? d with
  | some f => .misfit (.wrongType f wanted)
  | none => .malformed

end DesignCompiler.Json
