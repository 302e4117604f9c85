import Switchboard.Number.Double

/-!
# The shortest decimal that reads back

Many decimals round to one double. `Double.shortest` picks the one with the fewest digits, and
among those the one nearest to the double; of two equally near, the one whose last digit is even.

The decimals that round to `m · 2 ^ e` are those between the midpoints to its two neighbours; the
midpoints belong to them when `m` is even. For one digit, two digits, and so on, the search looks
at the two points of that decimal grid that lie on either side of the double: if any point of the
grid lies between the midpoints then one of these two does. Seventeen digits always suffice. All
comparisons are between natural numbers.
-/

namespace Switchboard

/-- A positive decimal number: `digits` are its digits, and the point stands `point` places after
the start of them (before the start when `point` is negative). -/
structure Decimal where
  digits : List Char
  point : Int
  deriving DecidableEq, Repr

namespace Double

/-- The interval of the numbers that round to a double, in units of a quarter of its last place. -/
structure Interval where
  low : Nat
  mid : Nat
  high : Nat
  closed : Bool

/-- The interval of a double that is not zero. Below a power of two the neighbour is nearer. -/
def interval (x : Double) : Interval :=
  let narrow := x.mantissa == Nat.pow 2 52 && x.exponent != -1074
  { low := 4 * x.mantissa - (if narrow then 1 else 2)
    mid := 4 * x.mantissa
    high := 4 * x.mantissa + 2
    closed := x.mantissa % 2 == 0 }

/-- The value lies between the ends, scaled alike. -/
def Interval.holds (closed : Bool) (low high value : Nat) : Bool :=
  if closed then low ≤ value && value ≤ high else low < value && value < high

/-- The power of ten just above the number: the least `k` with `x < 10 ^ k`, for `x` not zero. -/
def magnitude (x : Double) : Int :=
  let (a, b) := x.ratio
  (decimalLength (a * Nat.pow 10 400 / b) : Int) - 400

/-- The point nearest to the double on the grid of the multiples of `10 ^ k`, if it rounds to the
double; of two equally near, the even one. -/
def nearestOnGrid (x : Double) (k : Int) : Option Nat :=
  let i := x.interval
  let unit := x.exponent - 2
  let up := Nat.pow 10 k.toNat * Nat.pow 2 (-unit).toNat
  let down := Nat.pow 10 (-k).toNat * Nat.pow 2 unit.toNat
  let below := i.mid * down / up
  let above := below + 1
  let holds := fun c => Interval.holds i.closed (i.low * down) (i.high * down) (c * up)
  match holds below, holds above with
  | true, true =>
    let under := i.mid * down - below * up
    let beyond := above * up - i.mid * down
    if under < beyond then some below
    else if beyond < under then some above
    else if below % 2 = 0 then some below
    else some above
  | true, false => some below
  | false, true => some above
  | false, false => none

/-- The digits without the zeros at their end. -/
def dropEndZeros (digits : List Char) : List Char :=
  (digits.reverse.dropWhile (· == '0')).reverse

/-- Searches the grids of `17 - rest` digits and more. -/
def searchGrids (x : Double) (top : Int) : Nat → Decimal
  | 0 => ⟨['0'], 0⟩
  | rest + 1 =>
    let count : Nat := 17 - rest
    let k := top - count
    match x.nearestOnGrid k with
    | some c =>
      let digits := Nat.toDigits 10 c
      ⟨dropEndZeros digits, digits.length + k⟩
    | none => searchGrids x top rest

/-- The shortest decimal that rounds to the magnitude of a double that is not zero. -/
def shortest (x : Double) : Decimal := searchGrids x x.magnitude 17

end Double

end Switchboard
