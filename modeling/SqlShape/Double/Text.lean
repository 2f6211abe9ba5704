import SqlShape.Double.Shortest

/-!
# Written doubles

A finite double is written with the digits of its shortest decimal, positionally where the leading digit
stands in a given range of powers of ten and in scientific form elsewhere. Both forms keep a digit on
each side of a point that is written; scientific form writes no point after a single digit.

`Double.literal` and `Double.jsonText` differ in how small a number is still written positionally, in which of two
equally near shortest decimals is written, and in the sign of a positive exponent.
-/

namespace SqlShape

/-- The range of leading exponents that are written positionally, the choice between two shortest decimals that
are equally near, and whether a positive exponent has a plus sign. -/
structure DecimalStyle where
  least : Int
  most : Int
  tie : Tie
  plus : Bool

namespace Decimal

/-- Positional form of `digits * 10 ^ exponent`: zeros fill up to the point, and `.0` ends an integer. -/
def positional (d : Decimal) : List Char :=
  let digits := d.digitChars
  let point : Int := digits.length + d.exponent
  if 0 ≤ d.exponent then digits ++ List.replicate d.exponent.toNat '0' ++ ['.', '0']
  else if 0 < point then digits.take point.toNat ++ '.' :: digits.drop point.toNat
  else '0' :: '.' :: (List.replicate (-point).toNat '0' ++ digits)

/-- Scientific form: one digit, the rest after a point if there is any, and the exponent. -/
def scientific (plus : Bool) (d : Decimal) : List Char :=
  let mantissa := match d.digitChars with
    | [] => []
    | [c] => [c]
    | c :: rest => c :: '.' :: rest
  let sign := if plus && decide (0 ≤ d.leadingExponent) then ['+'] else []
  mantissa ++ 'e' :: (sign ++ (toString d.leadingExponent).toList)

/-- The form that the style picks. -/
def write (style : DecimalStyle) (d : Decimal) : List Char :=
  if style.least ≤ d.leadingExponent ∧ d.leadingExponent ≤ style.most then d.positional
  else d.scientific style.plus

end Decimal

namespace Double

/-- The text of a double in a style; the negative zero keeps its sign. -/
def write (style : DecimalStyle) (d : Double) : String :=
  if d.isNaN then "NaN"
  else
    let body := if d.isFinite then String.ofList ((d.shortest style.tie).write style) else "inf"
    if d.negative then "-" ++ body else body

/-- Doubles in command text: positional from `1e-4` up to but not including `1e16`, ties up, no plus sign. -/
def literal (d : Double) : String :=
  d.write ⟨-4, 15, .up, false⟩

/-- Doubles in JSON text: positional from `1e-5` up to but not including `1e16`, ties to the even digit, with a plus
sign. -/
def jsonText (d : Double) : String :=
  d.write ⟨-5, 15, .even, true⟩

end Double

end SqlShape
