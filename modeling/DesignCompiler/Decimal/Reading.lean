/-! Decimal text read as a float: the nearest float, for lengths that a table of values holds. -/

namespace DesignCompiler.Decimal

/-- The value of a run of ASCII digits. -/
def natOfDigits (ds : List Char) : Nat := ds.foldl (fun n d => 10 * n + (d.toNat - '0'.toNat)) 0

def isAsciiDigit (c : Char) : Bool := c.isDigit

def infinity : Float := 1.0 / 0.0
def notANumber : Float := 0.0 / 0.0

/-- The float nearest to `n · 10^e`. Beyond four hundred places the answer is zero or infinite
without any computation. -/
def nearest (n : Nat) (e : Int) : Float :=
  if n == 0 then 0.0
  else
    let leading := e + (Nat.toDigits 10 n).length
    if leading < -400 then 0.0
    else if 400 < leading then infinity
    else if 0 ≤ e then Float.ofScientific n false e.toNat
    else Float.ofScientific n true (-e).toNat

/-- The exponent part `e`, an optional sign and at least one digit; absent it is zero. -/
def exponent? : List Char → Option Int
  | [] => some 0
  | c :: rest =>
    if c != 'e' && c != 'E' then none
    else
      let (negative, digits) := match rest with
        | '-' :: r => (true, r)
        | '+' :: r => (false, r)
        | r => (false, r)
      if digits.isEmpty || !digits.all isAsciiDigit then none
      else
        let n : Int := natOfDigits digits
        some (if negative then -n else n)

/-- Digits with an optional point among them, at least one digit in all, and an optional exponent.
-/
def unsigned? (cs : List Char) : Option Float :=
  let whole := cs.takeWhile isAsciiDigit
  let rest := cs.dropWhile isAsciiDigit
  let (places, rest) := match rest with
    | '.' :: r => (r.takeWhile isAsciiDigit, r.dropWhile isAsciiDigit)
    | r => ([], r)
  if whole.isEmpty && places.isEmpty then none
  else (exponent? rest).map fun e => nearest (natOfDigits (whole ++ places)) (e - places.length)

/-- A float in decimal: an optional sign, then a number, or `inf`, `infinity` or `nan` in any
case. -/
def float? (s : String) : Option Float :=
  let (negative, cs) := match s.toList with
    | '-' :: r => (true, r)
    | '+' :: r => (false, r)
    | r => (false, r)
  let name := String.ofList (cs.map Char.toLower)
  let magnitude :=
    if name == "inf" || name == "infinity" then some infinity
    else if name == "nan" then some notANumber
    else unsigned? cs
  magnitude.map fun x => if negative then -x else x

end DesignCompiler.Decimal
