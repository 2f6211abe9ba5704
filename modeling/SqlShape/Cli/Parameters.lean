import SqlShape.Bindings
import SqlShape.Json.Writer
import SqlShape.Query.Shape

/-!
# Parameter values in plain JSON

A parameter file gives plain JSON values by name. The type under which a value is read is the one that the
query declares: null is null of every type, bytes are an array of numbers or a text of hexadecimal pairs behind
`0x`, and a sequence is an array. Values for parameters that the query does not have are ignored.
-/

namespace SqlShape

/-- Why a JSON value is none of the type that was asked for. -/
inductive PlainFault where
  | unexpected (json : Json)
  | tooLarge
  | tooSmall
  | noHexMark
  | noHexPairs (digits : String)
  | badHexPair (pair : String)

/-- The words for a fault, and for its cause. -/
def PlainFault.causes : PlainFault → List String
  | unexpected json => ["unexpected JSON value " ++ json.compact]
  | tooLarge => ["number too large to fit in target type"]
  | tooSmall => ["number too small to fit in target type"]
  | noHexMark => ["binary strings must start with 0x"]
  | noHexPairs digits => ["'" ++ digits ++ "' is not a sequence of hex byte pairs"]
  | badHexPair pair => ["invalid hex byte '" ++ pair ++ "'", "invalid digit found in string"]

/-- A fault in the value of a parameter. -/
structure ParameterError where
  name : String
  type : LogicalType
  fault : PlainFault

/-- The words for an error, then for its causes. -/
def ParameterError.causes (e : ParameterError) : List String :=
  ("parameter '" ++ e.name ++ "' as " ++ e.type.name) :: e.fault.causes

namespace Json

/-- An integer that a signed word of 64 bits holds. -/
def plainInteger (j : Json) : Except PlainFault Int :=
  match j.integerIn? Int64.minValue.toInt Int64.maxValue.toInt with
  | some i => .ok i
  | none => .error (.unexpected j)

/-- An integer from `lo` to `hi`. -/
def plainIntegerIn (lo hi : Int) (j : Json) : Except PlainFault Int := do
  let i ← j.plainInteger
  if hi < i then throw .tooLarge
  if i < lo then throw .tooSmall
  return i

/-- What a read of one kind yields, or the fault that the value is of another. -/
def plain {α : Type} (j : Json) (read : Json → Option α) : Except PlainFault α :=
  match read j with
  | some a => .ok a
  | none => .error (.unexpected j)

/-- The value of a hexadecimal digit. -/
def hexDigitValue? (c : Char) : Option Nat :=
  if c.isDigit then some (c.toNat - '0'.toNat)
  else if 'a' ≤ c ∧ c ≤ 'f' then some (c.toNat - 'a'.toNat + 10)
  else if 'A' ≤ c ∧ c ≤ 'F' then some (c.toNat - 'A'.toNat + 10)
  else none

/-- The byte of two characters: two hexadecimal digits, or a plus and one. -/
def hexPair? (a b : Char) : Option UInt8 := do
  if a = '+' then return UInt8.ofNat (← hexDigitValue? b)
  return UInt8.ofNat ((← hexDigitValue? a) * 16 + (← hexDigitValue? b))

/-- The bytes of pairs. -/
def hexPairs : List Char → Except PlainFault (List UInt8)
  | a :: b :: rest =>
    match hexPair? a b with
    | some byte => do return byte :: (← hexPairs rest)
    | none => .error (.badHexPair (String.ofList [a, b]))
  | _ => .ok []

/-- The bytes of a text of hexadecimal pairs. -/
def hexBytes (text : String) : Except PlainFault (List UInt8) :=
  match text.toList with
  | '0' :: 'x' :: digits =>
    if !digits.all (·.toNat < 128) || digits.length % 2 != 0 then .error (.noHexPairs (String.ofList digits))
    else hexPairs digits
  | _ => .error .noHexMark

/-- Bytes. -/
def plainBytes : Json → Except PlainFault (List UInt8)
  | arr items => items.mapM fun j => do return UInt8.ofNat (← j.plainIntegerIn 0 255).toNat
  | str text => hexBytes text
  | j => .error (.unexpected j)

/-- A value of a type that is not null. -/
def plainValue : LogicalType → Json → Except PlainFault Value
  | _, null => .ok .null
  | .bool, j => do return .bool (← j.plain bool?)
  | .byte, j => do return .byte (UInt8.ofNat (← j.plainIntegerIn 0 255).toNat)
  | .int32, j => do return .int (Int32.ofInt (← j.plainIntegerIn Int32.minValue.toInt Int32.maxValue.toInt))
  | .int64, j => do return .long (Int64.ofInt (← j.plainInteger))
  | .double, j => do return .double (← j.plain double?)
  | .text, j => do return .text (← j.plain str?)
  | .bytes, j => do return .bytes (← j.plainBytes)
  | .sequence element, j => do return .list (← (← j.plain items?).mapM (plainValue element))

end Json

mutual
/-- A value in plain JSON. A double without a decimal form is null. -/
def Value.toPlainJson : Value → Json
  | .null => .null
  | .bool b => .bool b
  | .byte b => .integer b.toNat
  | .int i => .integer i.toInt
  | .long i => .integer i.toInt
  | .double d => if d.isFinite then .double d else .null
  | .text s => .str s
  | .bytes bs => .arr (bs.map fun b => .integer b.toNat)
  | .list items => .arr (Value.toPlainItems items)
/-- Values in a row in plain JSON. -/
def Value.toPlainItems : List Value → List Json
  | [] => []
  | v :: vs => v.toPlainJson :: Value.toPlainItems vs
end

/-- Binds the parameters of a shape to plain JSON values by name, which are taken in the order given. -/
def Shape.bindPlain (s : Shape) (given : List (String × Json)) : Except ParameterError Bindings := do
  let declared := s.parameters
  let entries ← given.filterMapM fun (name, json) =>
    match declared.lookup name with
    | none => return none
    | some type =>
      match json.plainValue type with
      | .ok value => return some (name, value)
      | .error fault => throw ⟨name, type, fault⟩
  return ⟨entries⟩

end SqlShape
