/-!
# Binary64 numbers as bit patterns

A `Double` is its sixty-four bits. Equality is therefore equality of bit patterns: the two zeros differ
and a NaN equals itself, which is what lets a double stand inside a key. A finite double reads as
`significand * 2 ^ scale`, both exact, and every operation below is exact arithmetic on that pair
followed by one rounding.

`Double.ofRatio` is that rounding: the double nearest to a quotient of naturals, a half going to the
even neighbour, and infinity beyond the largest finite double.
-/

namespace SqlShape

/-- A binary64 number, kept as its bit pattern. -/
structure Double where
  bits : UInt64
deriving DecidableEq, Repr

namespace Double

/-- The value of the sign bit, the highest of the sixty-four. -/
def signUnit : Nat :=
  9223372036854775808

/-- The value of the lowest exponent bit: the number of fractions. -/
def exponentUnit : Nat :=
  4503599627370496

/-- The sign bit: set for negative numbers and for the negative zero. -/
def negative (d : Double) : Bool :=
  decide (signUnit ≤ d.bits.toNat)

/-- The bits below the sign, as a natural number. They order the magnitudes. -/
def magnitude (d : Double) : Nat :=
  d.bits.toNat % signUnit

/-- The eleven exponent bits. -/
def exponentField (d : Double) : Nat :=
  d.magnitude / exponentUnit

/-- The fifty-two fraction bits. -/
def fraction (d : Double) : Nat :=
  d.magnitude % exponentUnit

/-- Neither infinite nor a NaN. -/
def isFinite (d : Double) : Bool :=
  decide (d.exponentField < 2047)

/-- All exponent bits set and some fraction bit set. -/
def isNaN (d : Double) : Bool :=
  decide (d.exponentField = 2047) && decide (d.fraction ≠ 0)

/-- The integer `m` of `|d| = m * 2 ^ d.scale`, for finite `d`. -/
def significand (d : Double) : Nat :=
  if d.exponentField = 0 then d.fraction else exponentUnit + d.fraction

/-- The exponent `q` of `|d| = d.significand * 2 ^ q`, for finite `d`. -/
def scale (d : Double) : Int :=
  (max d.exponentField 1 : Nat) - 1075

/-- The bits of a sign and a magnitude. -/
def ofMagnitude (negative : Bool) (magnitude : Nat) : Double :=
  ⟨UInt64.ofNat (if negative then signUnit + magnitude else magnitude)⟩

/-- The magnitude of both infinities. -/
def infinityMagnitude : Nat :=
  2047 * exponentUnit

/-! ## Rounding a quotient -/

/-- The integer nearest to `num / den`, a half going to the even neighbour. -/
def divHalfEven (num den : Nat) : Nat :=
  let q := num / den
  let r := num % den
  if 2 * r < den then q
  else if den < 2 * r then q + 1
  else if q % 2 = 0 then q else q + 1

/-- The factor `2 ^ e`, as a pair of numerator and denominator. -/
def powerOfTwo (e : Int) : Nat × Nat :=
  if 0 ≤ e then (Nat.pow 2 e.toNat, 1) else (1, Nat.pow 2 (-e).toNat)

/-- The exponent at which `num / den` has a significand of fifty-three bits, or the least exponent of a
binary64 number where that lies above. -/
def ratioScale (num den : Nat) : Int :=
  let guess : Int := (Nat.log2 num : Int) - (Nat.log2 den : Int) - 52
  let (up, down) := powerOfTwo (-guess)
  let q := if num * up < exponentUnit * (den * down) then guess - 1 else guess
  max q (-1074)

/-- The magnitude bits of the double nearest to `num / den`. A significand that rounds up to the next
power of two carries into the exponent by itself. -/
def ratioMagnitude (num den : Nat) : Nat :=
  if num = 0 then 0
  else
    let q := ratioScale num den
    let (up, down) := powerOfTwo (-q)
    let m := divHalfEven (num * up) (den * down)
    min ((q + 1074).toNat * exponentUnit + m) infinityMagnitude

/-- The double nearest to `num / den` with the given sign, for a positive `den`. -/
def ofRatio (negative : Bool) (num den : Nat) : Double :=
  ofMagnitude negative (ratioMagnitude num den)

/-- The double nearest to an integer. -/
def ofInt (i : Int) : Double :=
  ofRatio (decide (i < 0)) i.natAbs 1

/-- The double nearest to `± digits * 10 ^ exponent`. Exponents that can only give zero or infinity are
answered without forming the power. -/
def ofDecimal (negative : Bool) (digits : Nat) (exponent : Int) : Double :=
  let size : Int := (Nat.toDigits 10 digits).length + exponent
  if digits = 0 ∨ size < -400 then ofMagnitude negative 0
  else if 400 < size then ofMagnitude negative infinityMagnitude
  else if 0 ≤ exponent then ofRatio negative (digits * Nat.pow 10 exponent.toNat) 1
  else ofRatio negative digits (Nat.pow 10 (-exponent).toNat)

/-! ## Order and arithmetic -/

/-- The position of a number on the line; both zeros are at `0`. -/
def rank (d : Double) : Int :=
  if d.negative then -(d.magnitude : Int) else d.magnitude

/-- The numeric order: false when either side is a NaN. -/
def le (x y : Double) : Bool :=
  !x.isNaN && !y.isNaN && decide (x.rank ≤ y.rank)

/-- The number without its sign. -/
def abs (d : Double) : Double :=
  ofMagnitude false d.magnitude

/-- A finite number whose magnitude is sent through `f`, which gets the significand and scale as a
quotient; infinities and NaNs stay as they are. The sign is kept, also on a zero. -/
def mapMagnitude (f : Nat → Nat → Nat × Nat) (d : Double) : Double :=
  if d.isFinite then
    let (up, down) := powerOfTwo d.scale
    let (num, den) := f (d.significand * up) down
    ofRatio d.negative num den
  else d

/-- The largest integer not above the number. -/
def floor (d : Double) : Double :=
  d.mapMagnitude fun num den =>
    (if d.negative && decide (num % den ≠ 0) then num / den + 1 else num / den, 1)

/-- The smallest integer not below the number. -/
def ceil (d : Double) : Double :=
  d.mapMagnitude fun num den =>
    (if d.negative || decide (num % den = 0) then num / den else num / den + 1, 1)

/-- The nearest integer, a half going to the even neighbour. -/
def roundEven (d : Double) : Double :=
  d.mapMagnitude fun num den => (divHalfEven num den, 1)

/-- The product with a natural number, rounded. -/
def mulNat (d : Double) (n : Nat) : Double :=
  d.mapMagnitude fun num den => (num * n, den)

/-- The quotient by a positive natural number, rounded. -/
def divNat (d : Double) (n : Nat) : Double :=
  d.mapMagnitude fun num den => (num, den * n)

end Double

end SqlShape
