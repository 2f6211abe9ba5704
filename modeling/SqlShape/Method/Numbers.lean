import SqlShape.Dialect.Functions
import SqlShape.Method.Rule

/-!
# Methods on numbers

Absolute value, rounding and the greater or smaller of two. Constants are computed here where the result has
the operand's type: an absolute value that overflows its word is left to the database, and so is a rounding to
a number of digits outside 0 to 15.
-/

namespace SqlShape.MethodRule

/-- The absolute value of a constant, where its word can hold it. -/
def absConstant? : Value → Option Value
  | .byte b => some (.byte b)
  | .int i => if i = Int32.minValue then none else some (.int (Int32.ofInt i.toInt.natAbs))
  | .long i => if i = Int64.minValue then none else some (.long (Int64.ofInt i.toInt.natAbs))
  | .double d => some (.double d.abs)
  | _ => none

/-- `Abs`. -/
def numberAbs (d : Dialect) (operand : Expr String) : Expr String :=
  match operand.constant?.bind absConstant? with
  | some value => .constant value operand.mapping
  | none => Builder.call d.functions.abs [operand] operand.mapping

/-- `Ceiling` and `Floor`, by a function of the dialect and the same function on doubles. -/
def wholeNumber (name : String) (compute : Double → Double) (operand : Expr String) : Expr String :=
  match operand.constant? with
  | some (.double d) => .constant (.double (compute d)) operand.mapping
  | _ => Builder.call name [operand] operand.mapping

/-- A double rounded to `digits` places after the point, a half going to the even neighbour. -/
def roundTo (digits : Nat) (d : Double) : Double :=
  (d.mulNat (Nat.pow 10 digits)).roundEven.divNat (Nat.pow 10 digits)

/-- The number of digits that a rounding asks for, if it is known. -/
def knownDigits? : Option (Expr String) → Option Int
  | none => some 0
  | some e =>
    match e.constant? with
    | some (.int n) => some n.toInt
    | _ => none

/-- The rounded constant, where the operand is one and the digits are known and within 0 to 15. -/
def roundConstant? (operand : Expr String) (digits : Option (Expr String)) : Option Value :=
  match operand.constant?, knownDigits? digits with
  | some (.double d), some n => if 0 ≤ n ∧ n ≤ 15 then some (.double (roundTo n.toNat d)) else none
  | _, _ => none

/-- `Round`, with or without a number of digits. -/
def numberRound (d : Dialect) (b : Builder) (operand : Expr String) (digits : Option (Expr String)) :
    Except QueryError (Expr String) := do
  match roundConstant? operand digits with
  | some value => return .constant value operand.mapping
  | none =>
    let more ← match digits with
      | some e => pure [e]
      | none => if d.functions.roundWantsDigits then pure [← b.constant (.int 0)] else pure []
    return Builder.call d.functions.round (operand :: more) operand.mapping

/-- The chosen one of two constants, in the wider type. Numbers are compared as doubles, and of two that compare
equal the left one is chosen. -/
def extremumConstant? (greatest : Bool) (left right : Value) (type : LogicalType) : Option Value :=
  match left.toDouble?, right.toDouble? with
  | some x, some y =>
    let pickLeft := if greatest then y.le x else x.le y
    (if pickLeft then left else right).convertTo? type
  | _, _ => none

/-- `Max` and `Min`. -/
def numberExtremum (d : Dialect) (b : Builder) (greatest : Bool) (left right : Expr String) :
    Except QueryError (Expr String) :=
  let type := left.type.wider right.type
  let computed := match left.constant?, right.constant? with
    | some x, some y => extremumConstant? greatest x y type
    | _, _ => none
  match computed with
  | some value => b.constantOf value type
  | none => b.function (if greatest then d.functions.greatest else d.functions.least) [left, right] type

/-- Lowers a call on a numeric first operand. -/
def lowerNumber (d : Dialect) (b : Builder) (c : MethodCall) (operand : Expr String) :
    Except QueryError (Option (Expr String)) := do
  match c.method.name with
  | "Abs" =>
    c.requireArguments 1
    return some (numberAbs d operand)
  | "Ceiling" =>
    c.requireArguments 1
    if operand.type ≠ .double then return none
    return some (wholeNumber d.functions.ceiling Double.ceil operand)
  | "Floor" =>
    c.requireArguments 1
    if operand.type ≠ .double then return none
    return some (wholeNumber d.functions.floor Double.floor operand)
  | "Round" =>
    if 2 < c.arguments.length then c.invalid (.argumentCount 2 c.arguments.length)
    if operand.type ≠ .double then return none
    let digits := c.arguments[1]?
    if digits.any fun e => decide (e.type ≠ .int32) then return none
    return some (← numberRound d b operand digits)
  | "Max" | "Min" =>
    let (left, right) ← c.twoArguments
    if !right.type.isNumeric then return none
    return some (← numberExtremum d b (c.method.name = "Max") left right)
  | _ => return none

/-- The methods on numbers. -/
def numbers (d : Dialect) : MethodRule where
  name := "math"
  priority := defaultPriority
  accepts m :=
    decide (m.declaringType = .math) && ["Abs", "Ceiling", "Floor", "Round", "Max", "Min"].contains m.name
  apply b c :=
    match c.arguments with
    | [] => c.invalid .missingOperand
    | operand :: _ => if operand.type.isNumeric then lowerNumber d b c operand else .ok none

end SqlShape.MethodRule
