import DesignCompiler.Json.Decoder
import DesignCompiler.Tokens.Length
import DesignCompiler.Tokens.Standard

/-! Reading a token table from JSON text. -/

namespace DesignCompiler.Tokens

open Json Json.Decoder Json.Fields

/-- Why a text is not a token table. -/
inductive TableError where
  | unreadable (f : Fault)
  | badColor (b : TokenTable.BadColor)

/-- The error in words. -/
def TableError.message : TableError → String
  | unreadable f => "Invalid source document: " ++ f.text
  | badColor b => b.message

namespace Read

/-- A length as it is written: a number of pixels, or a text. -/
def rawLength : Decoder (Float ⊕ String) := untagged "RawLength" fun
  | .number n => some (.inl n.toFloat)
  | .string s => some (.inr s)
  | _ => none

/-- The pixels of a length as it is written. -/
def toPx? : Float ⊕ String → Option Float
  | .inl x => some x
  | .inr s => lengthPx? s

def badLength : Fault := .misfit (.other "expected a number, px or rem length")

/-- A length in pixels. -/
def px : Decoder Float := fun p d =>
  match rawLength p d with
  | .error e => .error e
  | .ok raw =>
    match toPx? raw with
    | some x => .ok x
    | none => .error badLength

/-- The pixels of a table of lengths, if all can be read. -/
def allPx : List (String × (Float ⊕ String)) → Except Fault (List (String × Float))
  | [] => .ok []
  | (k, raw) :: rest =>
    match toPx? raw with
    | none => .error (.misfit (.other ("invalid length for token '" ++ k ++ "'")))
    | some x => (allPx rest).map ((k, x) :: ·)

/-- A table of lengths. -/
def lengths : Decoder (List (String × Float)) := fun p d =>
  match table rawLength p d with
  | .error e => .error e
  | .ok raw => allPx raw

def typography : Decoder Typography := record "TypographyToken" <|
  Typography.mk <$> required "fontFamily" string <*> required "fontSize" px
    <*> required "fontWeight" (natBelow UInt16.size "u16") <*> optional "lineHeight" px
    <*> optional "letterSpacing" px

def tokenTable : Decoder TokenTable := record "DesignTokens" <|
  TokenTable.mk <$> withDefault "colors" [] (table (table string))
    <*> withDefault "spacing" [] lengths <*> withDefault "borderRadius" [] lengths
    <*> withDefault "shadows" [] (table string) <*> withDefault "breakpoints" [] lengths
    <*> withDefault "typography" [] (table typography)

end Read

/-- Read a table and check its colors. -/
def TokenTable.read (s : String) : Except TableError TokenTable :=
  match decodeText Read.tokenTable s with
  | .error f => .error (.unreadable f)
  | .ok t =>
    match t.badColor? with
    | some b => .error (.badColor b)
    | none => .ok t

end DesignCompiler.Tokens
