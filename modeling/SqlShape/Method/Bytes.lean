import SqlShape.Dialect.Functions
import SqlShape.Method.Rule

/-!
# Methods on bytes

Whether bytes hold a byte is asked by the position function: the byte becomes a sequence of one, at once if it
is a constant and by a conversion otherwise. The first byte and the length of a constant are computed here.
The rule stands before the general membership rule, whose method it shares.
-/

namespace SqlShape.MethodRule

/-- `Contains` on bytes. -/
def bytesContain (d : Dialect) (b : Builder) (c : MethodCall) : Except QueryError (Option (Expr String)) := do
  let (source, element) ← c.twoArguments
  if source.type ≠ .bytes then return none
  if element.type ≠ .byte then c.invalid (.byteSearch element.type)
  let sought ← match element.constant? with
    | some (.byte value) => pure (.constant (.bytes [value]) source.mapping)
    | _ => b.convert element .bytes
  let position ← d.position b sought source
  let zero ← b.constant (.int 0)
  return some (← b.comparison .greater position zero)

/-- `First` on bytes. -/
def bytesFirst (d : Dialect) (b : Builder) (c : MethodCall) : Except QueryError (Option (Expr String)) := do
  let source ← c.oneArgument
  if source.type ≠ .bytes then return none
  match source.constant? with
  | some (.bytes (first :: _)) => return some (← b.constant (.byte first))
  | _ =>
    let one ← b.constant (.int 1)
    let head := Builder.call d.functions.substring [source, one, one] source.mapping
    return some (← b.convert head .byte)

/-- `Length` on bytes. -/
def bytesLength (d : Dialect) (b : Builder) (c : MethodCall) : Except QueryError (Option (Expr String)) := do
  let source ← c.requireReceiver
  c.requireArguments 0
  if source.type ≠ .bytes then return none
  match source.constant? with
  | some (.bytes bs) =>
    if Int32.maxValue.toInt < bs.length then c.invalid .constantTooLong
    return some (← b.constant (.int (Int32.ofInt bs.length)))
  | _ => return some (← b.function d.functions.byteLength [source] .int32)

/-- The methods on bytes. -/
def bytes (d : Dialect) : MethodRule where
  name := "byte_array"
  priority := 60
  accepts m :=
    match m.declaringType with
    | .enumerable => decide (m.arity = 1) && (m.name == "Contains" || m.name == "First")
    | .array => m.name == "Length"
    | _ => false
  apply b c :=
    match c.method.declaringType with
    | .array => bytesLength d b c
    | _ => if c.method.name = "Contains" then bytesContain d b c else bytesFirst d b c

end SqlShape.MethodRule
