/-!
# Logical types

The type of a value or of an expression, independent of any database. Scalars are numbers, texts, bytes and
truth values; a sequence is only good for membership tests.

Two relations matter. `comparableWith`: numbers compare with numbers, every other scalar with its own type
only, and sequences never. `widensTo`: every value of the first type has an image in the second.
-/

namespace SqlShape

/-- Logical type of a value or an expression. -/
inductive LogicalType where
  | bool
  | byte
  | int32
  | int64
  | double
  | text
  | bytes
  | sequence (element : LogicalType)
deriving DecidableEq, Repr

namespace LogicalType

/-- The name shown in messages. -/
def name : LogicalType → String
  | bool => "bool"
  | byte => "byte"
  | int32 => "int32"
  | int64 => "int64"
  | double => "double"
  | text => "string"
  | bytes => "bytes"
  | sequence element => "sequence<" ++ element.name ++ ">"

/-- Types whose values are numbers. -/
def isNumeric : LogicalType → Bool
  | byte | int32 | int64 | double => true
  | _ => false

/-- The type of the elements of a sequence. -/
def element? : LogicalType → Option LogicalType
  | sequence element => some element
  | _ => none

/-- A sequence type. -/
def isSequence (t : LogicalType) : Bool :=
  t.element?.isSome

/-- Values of the two types may be compared. -/
def comparableWith (s t : LogicalType) : Bool :=
  if s.isSequence || t.isSequence then false
  else if s.isNumeric && t.isNumeric then true
  else decide (s = t)

/-- Every value of `s` can be given as a value of `t`. A byte also widens to the sequence of that one byte. -/
def widensTo (s t : LogicalType) : Bool :=
  decide (s = t) ||
    match s, t with
    | byte, int32 | byte, int64 | byte, double | byte, bytes => true
    | int32, int64 | int32, double => true
    | int64, double => true
    | _, _ => false

/-- The wider of two numeric types: the left one if the right one widens to it. -/
def wider (s t : LogicalType) : LogicalType :=
  if t.widensTo s then s else t

end LogicalType

end SqlShape
