import SqlShape.Method.Rule

/-!
# Equality as a method

`Equals` takes its two operands as receiver and argument or as two arguments. Operands that do not compare are
never equal, so the call is false and not refused. Two constants are compared at once: they are equal as they
stand or after one is taken in the type of the other.
-/

namespace SqlShape.MethodRule

/-- The operands of an equality. -/
def equalityOperands (c : MethodCall) : Except QueryError (Expr String × Expr String) := do
  match c.receiver with
  | some left => return (left, ← c.oneArgument)
  | none => c.twoArguments

/-- Two constants of the given types are equal, as they stand or after a conversion. -/
def constantsEqual (left right : Value) (leftType rightType : LogicalType) : Bool :=
  decide (left = right) || decide (left.convertTo? rightType = some right)
    || decide (right.convertTo? leftType = some left)

/-- Equality as a method. -/
def equality : MethodRule where
  name := "equals"
  priority := defaultPriority
  accepts m := decide (m.declaringType = .object) && m.name == "Equals"
  apply b c := do
    let (left, right) ← equalityOperands c
    if !left.type.comparableWith right.type then return some (b.truth false)
    match left.constant?, right.constant? with
    | some x, some y => return some (b.truth (constantsEqual x y left.type right.type))
    | _, _ => return some (← b.comparison .equal left right)

end SqlShape.MethodRule
