import DesignCompiler.Decimal.Shortest

/-! Written forms of numbers: the shortest form with its choices as data, and a fixed number of
places. -/

namespace DesignCompiler.Decimal

/-- The choices of a shortest written form. -/
structure ShortForm where
  /-- Decimal exponents from the first up to the second, exclusive, are written positionally. -/
  positional : Option (Int × Int)
  /-- Whether an integral number keeps `.0` in positional writing. -/
  keepsPoint : Bool
  deriving Repr, DecidableEq

def digitChars (n : Nat) : List Char := Nat.toDigits 10 n

/-- Digits with a point so many places from their end, padded with zeros. -/
def positionalChars (digits : List Char) (exponent : Int) (keepsPoint : Bool) : List Char :=
  if 0 ≤ exponent then
    digits ++ List.replicate exponent.toNat '0' ++ if keepsPoint then ['.', '0'] else []
  else
    let places := (-exponent).toNat
    if digits.length ≤ places then
      ['0', '.'] ++ List.replicate (places - digits.length) '0' ++ digits
    else
      digits.take (digits.length - places) ++ ['.'] ++ digits.drop (digits.length - places)

/-- One digit, the others after a point, and the exponent with its sign. -/
def exponentChars (digits : List Char) (exponent : Int) : List Char :=
  (match digits with
    | [] => []
    | [d] => [d]
    | d :: rest => d :: '.' :: rest) ++
  ['e', if exponent < 0 then '-' else '+'] ++ digitChars exponent.natAbs

/-- The magnitude of a float in a shortest form. -/
def ShortForm.magnitudeChars (f : ShortForm) (b : Binary) : List Char :=
  let d := shortest b
  let digits := digitChars d.digits
  let leading := d.exponent + digits.length - 1
  match f.positional with
  | none => positionalChars digits d.exponent f.keepsPoint
  | some (lo, hi) =>
    if lo ≤ leading && leading < hi then positionalChars digits d.exponent f.keepsPoint
    else exponentChars digits leading

/-- A float in a shortest form; the sign of a negative zero is written. -/
def ShortForm.write (f : ShortForm) (x : Float) : String :=
  match Magnitude.ofFloat x with
  | .undefined => "NaN"
  | .infinite negative => if negative then "-inf" else "inf"
  | .finite b => String.ofList ((if b.negative then ['-'] else []) ++ f.magnitudeChars b)

/-- Positional at every magnitude, with no point in an integral number. -/
def plain : ShortForm := ⟨none, false⟩

/-- A float with two places, a half going to the even neighbour. -/
def twoPlaces (x : Float) : String :=
  match Magnitude.ofFloat x with
  | .undefined => "NaN"
  | .infinite negative => if negative then "-inf" else "inf"
  | .finite b =>
    let n := (b.ratio.shift 2).roundEven
    let rest := digitChars (n % 100)
    String.ofList ((if b.negative then ['-'] else []) ++ digitChars (n / 100) ++ ['.'] ++
      List.replicate (2 - rest.length) '0' ++ rest)

end DesignCompiler.Decimal
