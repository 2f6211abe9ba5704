import SqlShape.Builder
import SqlShape.Dialect.Basic

/-!
# Functions of a dialect

The names under which the two databases offer the functions that method calls lower to, and how each escapes a
text inside a pattern.
-/

namespace SqlShape.Dialect

/-- The names and habits of a dialect's functions. -/
structure Functions where
  /-- The position of one text in another, counted from one; zero where it does not occur. -/
  position : String
  /-- The position function takes the sought text first. -/
  soughtFirst : Bool
  textLength : String
  byteLength : String
  substring : String
  upper : String
  lower : String
  trim : String
  abs : String
  ceiling : String
  floor : String
  round : String
  /-- Rounding wants its number of digits even when it is zero. -/
  roundWantsDigits : Bool
  greatest : String
  least : String
  /-- The character that takes the meaning from a wildcard. -/
  patternEscape : Char
  /-- The characters with a meaning in patterns. -/
  wildcards : List Char

/-- The functions of a dialect. -/
def functions : Dialect → Functions
  | sqlServer => {
      position := "CHARINDEX"
      soughtFirst := true
      textLength := "LEN"
      byteLength := "DATALENGTH"
      substring := "SUBSTRING"
      upper := "UPPER"
      lower := "LOWER"
      trim := "TRIM"
      abs := "ABS"
      ceiling := "CEILING"
      floor := "FLOOR"
      round := "ROUND"
      roundWantsDigits := true
      greatest := "GREATEST"
      least := "LEAST"
      patternEscape := '\\'
      wildcards := ['%', '_', '['] }
  | sqlite => {
      position := "instr"
      soughtFirst := false
      textLength := "length"
      byteLength := "length"
      substring := "substr"
      upper := "upper"
      lower := "lower"
      trim := "trim"
      abs := "abs"
      ceiling := "ceil"
      floor := "floor"
      round := "round"
      roundWantsDigits := false
      greatest := "max"
      least := "min"
      patternEscape := '\\'
      wildcards := ['%', '_'] }

/-- A text as a pattern that matches only itself: wildcards and the escape character are escaped. -/
def escapePattern (d : Dialect) : List Char → List Char
  | [] => []
  | c :: rest =>
    if c = d.functions.patternEscape ∨ c ∈ d.functions.wildcards then
      d.functions.patternEscape :: c :: d.escapePattern rest
    else c :: d.escapePattern rest

/-- The position of `sought` in `source`. -/
def position {ρ : Type} (d : Dialect) (b : Builder) (sought source : Expr ρ) : Except QueryError (Expr ρ) :=
  b.function d.functions.position
    (if d.functions.soughtFirst then [sought, source] else [source, sought]) .int32

end SqlShape.Dialect
