import DesignCompiler.Decimal.Binary

/-! The decimal number with the fewest digits that reads back as a given float, and among those the
one nearest to it. -/

namespace DesignCompiler

/-- The number `digits · 10^exponent`. -/
structure Decimal where
  digits : Nat
  exponent : Int
  deriving Repr, DecidableEq

end DesignCompiler

namespace DesignCompiler.Decimal

/-- How many decimal digits a natural number has; zero has one. -/
def digitCount (n : Nat) : Nat := (Nat.toDigits 10 n).length

/-- The exponent `e` with `10^(e-1) ≤ r < 10^e`, for a positive number `r`. -/
def pointPosition (r : Ratio) : Int :=
  if r.den ≤ r.num then digitCount r.floor
  else
    let d := digitCount (r.den / r.num)
    if r.den ≤ r.num * Nat.pow 10 (d - 1) then 2 - (d : Int) else 1 - (d : Int)

/-- The two neighbours of a float on the grid of numbers with a given last place: the nearer one
that reads back, and of two equally near ones the even one. -/
def onGrid? (b : Binary) (place : Int) : Option Decimal :=
  let v := b.ratio
  let low := (v.shift (-place)).floor
  let point (n : Nat) : Ratio := (Ratio.mk n 1).shift place
  match b.admits (point low), b.admits (point (low + 1)) with
  | false, false => none
  | true, false => some ⟨low, place⟩
  | false, true => some ⟨low + 1, place⟩
  | true, true =>
    let below := v.dist (point low)
    let above := v.dist (point (low + 1))
    some ⟨if below.lt above || (below.le above && low % 2 == 0) then low else low + 1, place⟩

/-- The first grid with a number that reads back, from `count` more digits on. -/
def search (b : Binary) (point : Int) (digits : Nat) : Nat → Decimal
  | 0 => ⟨(b.ratio.shift (digits - point)).roundEven, point - digits⟩
  | more + 1 =>
    match onGrid? b (point - digits) with
    | some d => d
    | none => search b point (digits + 1) more

/-- The digits without the zeros at their end. -/
def dropZeros (n : Nat) (exponent : Int) : Nat → Decimal
  | 0 => ⟨n, exponent⟩
  | fuel + 1 => if n % 10 == 0 && n != 0 then dropZeros (n / 10) (exponent + 1) fuel else ⟨n, exponent⟩

/-- Seventeen digits always suffice. -/
def shortest (b : Binary) : Decimal :=
  if b.isZero then ⟨0, 0⟩
  else
    let d := search b (pointPosition b.ratio) 1 16
    dropZeros d.digits d.exponent 20

end DesignCompiler.Decimal
