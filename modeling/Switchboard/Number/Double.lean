/-!
# Binary floating-point numbers of 64 bits

A `Double` is a finite number of the 64-bit binary format, kept as the sign, mantissa and exponent
that the format stores: its value is `± mantissa · 2 ^ exponent`. All arithmetic is exact
arithmetic on natural numbers followed by one rounding, so that nothing here depends on a
machine's floating-point unit.

* `Double.roundRatio` rounds a fraction of natural numbers to the nearest double, a tie to the even
  mantissa; `Double.ofDecimal` rounds a decimal numeral.
* The result of a rounding is `Rounded`: a double, or a magnitude past the largest one.
-/

namespace Switchboard

/--
The mantissas and exponents of the format: 53 binary digits, the leading one set unless the
exponent is the least.
-/
def Double.IsCanonical (mantissa : Nat) (exponent : Int) : Prop :=
  mantissa < Nat.pow 2 53 ∧ -1074 ≤ exponent ∧ exponent ≤ 971
    ∧ (Nat.pow 2 52 ≤ mantissa ∨ exponent = -1074)

instance (m : Nat) (e : Int) : Decidable (Double.IsCanonical m e) := by
  unfold Double.IsCanonical; infer_instance

/-- A finite 64-bit binary floating-point number, `± mantissa · 2 ^ exponent`. -/
structure Double where
  negative : Bool
  mantissa : Nat
  exponent : Int
  canonical : Double.IsCanonical mantissa exponent
  deriving DecidableEq

/-- A rounded number: a double, or a magnitude past the largest double. -/
inductive Rounded where
  | finite (x : Double)
  | infinite (negative : Bool)
  deriving DecidableEq

namespace Double

/-- Zero; the format keeps its sign. -/
def zero (negative : Bool) : Double := ⟨negative, 0, -1074, by decide⟩

instance : Inhabited Double := ⟨zero false⟩

/-- The number is zero of either sign. -/
def isZero (x : Double) : Bool := x.mantissa == 0

/-- The number with the other sign. -/
def neg (x : Double) : Double := { x with negative := !x.negative }

/-- The natural number nearest to `n / d`; of two equally near, the even one. -/
def roundDiv (n d : Nat) : Nat :=
  let q := n / d
  let twice := 2 * (n % d)
  if twice < d then q else if d < twice then q + 1 else q + q % 2

/-- The fraction `n / d` divided by `2 ^ e`. -/
def inUnits (n d : Nat) (e : Int) : Nat × Nat :=
  if 0 ≤ e then (n, d * Nat.pow 2 e.toNat) else (n * Nat.pow 2 (-e).toNat, d)

/-- The exponent at which the fraction `n / d` has 53 binary digits, or the least exponent. -/
def exponentOf (n d : Nat) : Int :=
  let guess : Int := (n.log2 : Int) - d.log2
  let (a, b) := inUnits n d guess
  let top := if a < b then guess - 1 else guess
  max (top - 52) (-1074)

/-- The double of the given parts, or a magnitude past the largest when they are out of range. -/
def ofParts (negative : Bool) (mantissa : Nat) (exponent : Int) : Rounded :=
  if h : IsCanonical mantissa exponent then .finite ⟨negative, mantissa, exponent, h⟩
  else .infinite negative

/-- The double nearest to `± n / d`; of two equally near, the one of even mantissa. -/
def roundRatio (negative : Bool) (n d : Nat) : Rounded :=
  if n = 0 then .finite (zero negative)
  else
    let e := exponentOf n d
    let (a, b) := inUnits n d e
    let m := roundDiv a b
    if m = Nat.pow 2 53 then ofParts negative (Nat.pow 2 52) (e + 1) else ofParts negative m e

/-- The double nearest to a natural number. -/
def ofNat (n : Nat) : Rounded := roundRatio false n 1

/-- The double nearest to an integer. -/
def ofInt (n : Int) : Rounded := roundRatio (n < 0) n.natAbs 1

/-- The number of decimal digits of `n`. -/
def decimalLength (n : Nat) : Nat := (Nat.toDigits 10 n).length

/--
The double nearest to `± digits · 10 ^ scale`. Numbers above `10 ^ 310` and below `10 ^ (-330)` are
decided by their size alone, so that a numeral with a huge exponent costs nothing.
-/
def ofDecimal (negative : Bool) (digits : Nat) (scale : Int) : Rounded :=
  let size := (decimalLength digits : Int) + scale
  if digits = 0 then .finite (zero negative)
  else if 311 < size then .infinite negative
  else if size < -330 then .finite (zero negative)
  else if 0 ≤ scale then roundRatio negative (digits * Nat.pow 10 scale.toNat) 1
  else roundRatio negative digits (Nat.pow 10 (-scale).toNat)

/-- The magnitude as a fraction of natural numbers. -/
def ratio (x : Double) : Nat × Nat :=
  if 0 ≤ x.exponent then (x.mantissa * Nat.pow 2 x.exponent.toNat, 1)
  else (x.mantissa, Nat.pow 2 (-x.exponent).toNat)

/-- The product, rounded. -/
def mul (x y : Double) : Rounded :=
  let (a, b) := x.ratio
  let (c, d) := y.ratio
  roundRatio (x.negative != y.negative) (a * c) (b * d)

/-- The quotient by a number that is not zero, rounded. -/
def div (x y : Double) : Rounded :=
  let (a, b) := x.ratio
  let (c, d) := y.ratio
  roundRatio (x.negative != y.negative) (a * d) (b * c)

/-- The magnitude without its fraction. -/
def wholePart (x : Double) : Nat :=
  let (a, b) := x.ratio
  a / b

/-- The number has no fraction. -/
def isWhole (x : Double) : Bool :=
  let (a, b) := x.ratio
  a % b == 0

/-- The number without its fraction, as an integer: rounded toward zero. -/
def truncate (x : Double) : Int :=
  if x.negative then -(x.wholePart : Int) else x.wholePart

end Double

namespace Rounded

/-- The number with the other sign. -/
def neg : Rounded → Rounded
  | finite x => finite x.neg
  | infinite negative => infinite (!negative)

/-- The double, if the number did not grow past the largest one. -/
def finite? : Rounded → Option Double
  | finite x => some x
  | infinite _ => none

end Rounded

end Switchboard
