/-! Finite floating-point numbers taken apart into sign, mantissa and binary exponent, so that
decimal texts are found with exact natural-number arithmetic. -/

namespace DesignCompiler.Decimal

/-- The number `(-1)^negative · mantissa · 2^exponent`. `narrowBelow` tells that the next smaller
magnitude is only half as far away as the next larger one. -/
structure Binary where
  negative : Bool
  mantissa : Nat
  exponent : Int
  narrowBelow : Bool
  deriving Repr, DecidableEq

/-- What the bits of a float denote. -/
inductive Magnitude where
  | finite (b : Binary)
  | infinite (negative : Bool)
  | undefined
  deriving Repr, DecidableEq

/-- The parts of a float in the 64-bit format: 1 sign bit, 11 exponent bits, 52 fraction bits. -/
def Magnitude.ofFloat (x : Float) : Magnitude :=
  let bits := x.toBits.toNat
  let negative := bits / Nat.pow 2 63 == 1
  let e : Nat := bits / Nat.pow 2 52 % Nat.pow 2 11
  let f := bits % Nat.pow 2 52
  if e == 2047 then if f == 0 then .infinite negative else .undefined
  else if e == 0 then .finite ⟨negative, f, -1074, false⟩
  else .finite ⟨negative, f + Nat.pow 2 52, (e : Int) - 1075, f == 0 && e != 1⟩

/-- A nonnegative rational number; `den` is positive wherever one is made here. -/
structure Ratio where
  num : Nat
  den : Nat
  deriving Repr, DecidableEq

namespace Ratio

/-- The number `n · base^e`. -/
def scaled (n base : Nat) (e : Int) : Ratio :=
  if 0 ≤ e then ⟨n * Nat.pow base e.toNat, 1⟩ else ⟨n, Nat.pow base (-e).toNat⟩

def le (a b : Ratio) : Bool := a.num * b.den ≤ b.num * a.den
def lt (a b : Ratio) : Bool := a.num * b.den < b.num * a.den

/-- The distance of two numbers. -/
def dist (a b : Ratio) : Ratio :=
  ⟨a.num * b.den - b.num * a.den + (b.num * a.den - a.num * b.den), a.den * b.den⟩

/-- The product with `10^e`. -/
def shift (a : Ratio) (e : Int) : Ratio :=
  if 0 ≤ e then ⟨a.num * Nat.pow 10 e.toNat, a.den⟩
  else ⟨a.num, a.den * Nat.pow 10 (-e).toNat⟩

/-- The greatest whole number that is not larger. -/
def floor (a : Ratio) : Nat := a.num / a.den

/-- The nearest whole number, of two equally near ones the even one. -/
def roundEven (a : Ratio) : Nat :=
  let q := a.num / a.den
  let r := a.num % a.den
  if 2 * r < a.den then q else if a.den < 2 * r then q + 1 else q + q % 2

end Ratio

namespace Binary

def isZero (b : Binary) : Bool := b.mantissa == 0

/-- The magnitude as a rational number. -/
def ratio (b : Binary) : Ratio := Ratio.scaled b.mantissa 2 b.exponent

/-- The least and the greatest magnitude that round to this number. -/
def interval (b : Binary) : Ratio × Ratio :=
  (Ratio.scaled (4 * b.mantissa - if b.narrowBelow then 1 else 2) 2 (b.exponent - 2),
   Ratio.scaled (4 * b.mantissa + 2) 2 (b.exponent - 2))

/-- Whether a magnitude rounds to this number. The ends of the interval do exactly when the
mantissa is even. -/
def admits (b : Binary) (r : Ratio) : Bool :=
  let (lo, hi) := b.interval
  if b.mantissa % 2 == 0 then lo.le r && r.le hi else lo.lt r && r.lt hi

end Binary

end DesignCompiler.Decimal
