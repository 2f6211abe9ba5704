import SqlShape.Double.Basic

/-!
# The shortest decimal of a double

Among the decimals that read back as a given double, the ones with the fewest digits are wanted, and of
those the nearest to the double. The search goes through the grids `g * 10 ^ u` of one digit, two digits
and so on. On each grid only the two neighbours of the double can be the answer: if any grid point lies in
the interval of reals that round to the double, so does one of these two. The first grid with a hit wins;
of two hits the nearer is taken, and a `Tie` decides between two that are equally near.

All comparisons are between natural numbers: the double is `4 * m` and its interval `lower` to `upper` in
units of `2 ^ (q - 2)`, and both sides of a comparison are multiplied out.
-/

namespace SqlShape

/-- The decimal number `digits * 10 ^ exponent`. -/
structure Decimal where
  digits : Nat
  exponent : Int
deriving DecidableEq, Repr

/-- Which of two equally near neighbours is taken. -/
inductive Tie where
  | up
  /-- The one whose last digit is even. -/
  | even
deriving DecidableEq, Repr

namespace Decimal

/-- The digits as characters, most significant first. -/
def digitChars (d : Decimal) : List Char :=
  Nat.toDigits 10 d.digits

/-- The exponent in scientific form: the power of ten of the leading digit. -/
def leadingExponent (d : Decimal) : Int :=
  d.digitChars.length + d.exponent - 1

end Decimal

namespace Double

/-- The factor `10 ^ e`, as a pair of numerator and denominator. -/
def powerOfTen (e : Int) : Nat × Nat :=
  if 0 ≤ e then (Nat.pow 10 e.toNat, 1) else (1, Nat.pow 10 (-e).toNat)

/-- The lower end of the interval that rounds to `m * 2 ^ q`, in units of `2 ^ (q - 2)`. Just above a power
of two the neighbour below is half as far away. -/
def lowerBound (d : Double) : Nat :=
  if d.fraction = 0 ∧ 1 < d.exponentField then 4 * d.significand - 1 else 4 * d.significand - 2

/-- The upper end of the interval, in units of `2 ^ (q - 2)`. -/
def upperBound (d : Double) : Nat :=
  4 * d.significand + 2

/-- The power of ten just below or at the magnitude of a finite nonzero double. -/
def decimalExponent (d : Double) : Int :=
  let (up, down) := powerOfTwo d.scale
  let num := d.significand * up
  let guess : Int := ((Nat.toDigits 10 num).length : Int) - ((Nat.toDigits 10 down).length : Int)
  let (tenUp, tenDown) := powerOfTen guess
  if down * tenUp ≤ num * tenDown then guess else guess - 1

/-- The nearest grid point with exponent `u` that reads back as `d`, if one of the two neighbours does. -/
def gridPoint? (tie : Tie) (d : Double) (u : Int) : Option Nat :=
  let (twoUp, twoDown) := powerOfTwo (d.scale - 2)
  let (tenUp, tenDown) := powerOfTen u
  let unit := twoUp * tenDown
  let step := tenUp * twoDown
  let value := 4 * d.significand * unit
  let below := value / step
  let inclusive := d.significand % 2 = 0
  let lower := d.lowerBound * unit
  let upper := d.upperBound * unit
  let hitBelow := lower < below * step ∨ (inclusive ∧ lower = below * step)
  let hitAbove := (below + 1) * step < upper ∨ (inclusive ∧ (below + 1) * step = upper)
  if hitBelow ∧ hitAbove then
    let toBelow := value - below * step
    let toAbove := (below + 1) * step - value
    let tieBelow := toBelow = toAbove ∧ tie = .even ∧ below % 2 = 0
    some (if toBelow < toAbove ∨ tieBelow then below else below + 1)
  else if hitBelow then some below
  else if hitAbove then some (below + 1)
  else none

/-- Tries the grids from `u` downwards, at most `tries` of them. -/
def firstGridPoint (tie : Tie) (d : Double) : Nat → Int → Decimal
  | 0, u => ⟨d.significand, u⟩
  | tries + 1, u =>
    match d.gridPoint? tie u with
    | some g => ⟨g, u⟩
    | none => d.firstGridPoint tie tries (u - 1)

/-- The shortest decimal of the magnitude of a finite double. Seventeen digits always suffice. A grid point
that is a power of ten is written with its one digit. -/
def shortest (tie : Tie) (d : Double) : Decimal :=
  if d.significand = 0 then ⟨0, 0⟩
  else
    let found := d.firstGridPoint tie 17 d.decimalExponent
    match found.digitChars with
    | '1' :: zeros => if zeros.all (· == '0') then ⟨1, found.exponent + zeros.length⟩ else found
    | _ => found

end Double

end SqlShape
