import DesignCompiler.Decimal.Form
import DesignCompiler.Decimal.Reading

/-! Numbers of JSON text: whole numbers of up to 64 bits are kept exactly, all others as floats. -/

namespace DesignCompiler.Json

/-- A number as it is held: a natural number below `2^64`, a negative whole number down to
`-2^63`, or a float. -/
inductive Number where
  | natural (n : Nat)
  | negative (n : Nat)
  | float (x : Float)

namespace Number

/-- The float nearest to a natural number below `2^64`. -/
def floatOfNat (n : Nat) : Float := n.toUInt64.toFloat

/-- The number as a float. -/
def toFloat : Number → Float
  | natural n => floatOfNat n
  | negative n => -floatOfNat n
  | float x => x

/-- Numbers are written positionally for decimal exponents from -5 up to 15, and an integral float
keeps `.0`. -/
def form : Decimal.ShortForm := ⟨some (-5, 16), true⟩

/-- The written form; a float that is not finite has none and is written `null`. -/
def text : Number → String
  | natural n => toString n
  | negative n => "-" ++ toString n
  | float x => if x.isFinite then form.write x else "null"

/-- Numbers are equal when they are held alike; a float that is not a number differs from itself. -/
def beq : Number → Number → Bool
  | natural a, natural b => a == b
  | negative a, negative b => a == b
  | float a, float b => a == b
  | _, _ => false

instance : BEq Number := ⟨beq⟩

end Number

/-- The parts of a number in JSON text. `places` is absent without a point, `power` without an
exponent, and its flag tells a negative exponent. -/
structure NumberText where
  negative : Bool
  whole : List Char
  places : Option (List Char)
  power : Option (Bool × List Char)

namespace NumberText

/-- Take digits into a 64-bit significand for as long as it does not overflow; what is left over is
the rest of the digits. -/
def gather (significand : Nat) : List Char → Nat × List Char
  | [] => (significand, [])
  | d :: ds =>
    let next := significand * 10 + (d.toNat - '0'.toNat)
    if next < UInt64.size then gather next ds else (significand, d :: ds)

/-- Scaling by a power of ten, in one rounding up to `10^308` and in steps of that size below.
A value that overflows has no result. -/
def scale (x : Float) (e : Int) : Nat → Option Float
  | 0 => some x
  | fuel + 1 =>
    if e.natAbs ≤ 308 then
      let power := Decimal.nearest 1 e.natAbs
      if 0 ≤ e then
        let y := x * power
        if y.isFinite then some y else none
      else some (x / power)
    else if x == 0.0 then some x
    else if 0 ≤ e then none
    else scale (x / 1e308) (e + 308) fuel

def signed (negative : Bool) (x : Float) : Float := if negative then -x else x

/-- The float for a significand and a power of ten with a written exponent added. An exponent that
does not fit 32 bits overflows, or vanishes when it is negative or the significand is zero. -/
def withPower (t : NumberText) (significand : Nat) (places : Int) : Option Float :=
  let finish (e : Int) := (scale (Number.floatOfNat significand) e 10).map (signed t.negative)
  match t.power with
  | none => finish places
  | some (down, digits) =>
    let p := Decimal.natOfDigits digits
    if p < Nat.pow 2 31 then finish (places + if down then -(p : Int) else p)
    else if significand != 0 && !down then none
    else some (signed t.negative 0.0)

/-- The number denoted; none when it is out of range. -/
def value? (t : NumberText) : Option Number :=
  let (s, more) := gather 0 t.whole
  match more, t.places, t.power with
  | [], none, none =>
    if !t.negative then some (.natural s)
    else if s == 0 || Nat.pow 2 63 < s then some (.float (-Number.floatOfNat s))
    else some (.negative s)
  | _, _, _ =>
    let (s', unread) := gather s (t.places.getD [])
    let read := (t.places.getD []).length - unread.length
    (t.withPower s' (more.length - read)).map .float

end NumberText

end DesignCompiler.Json
