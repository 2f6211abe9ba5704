import SqlShape.Specialization.Pass

/-!
# Nullness before execution

Whether an expression is null is known for constants, for scalar parameters, whose values are given, and for
columns that hold no null. Reading a parameter's nullness records the parameter, since the result then depends
on it. `mayBeNull` bounds the rest: an operation may be null only where one of its operands may be.
-/

namespace SqlShape.Specialization

/-- Whether an expression is null, where that is known. -/
def knownNullness (s : Setting) : Expr String → Pass (Option Bool)
  | .constant value _ => return some value.isNull
  | .parameter name type _ => do
    if type.isSequence then return none
    let value ← s.bindings.get name
    consult name
    return some value.isNull
  | .column _ _ _ nullable => return if nullable then none else some false
  | .convert operand _ => knownNullness s operand
  | _ => return none

mutual
/-- Whether an expression may be null when the command runs. -/
def mayBeNull (s : Setting) : Expr String → Pass Bool
  | .constant value m => do return (← knownNullness s (.constant value m)).getD true
  | .parameter name type m => do return (← knownNullness s (.parameter name type m)).getD true
  | .column _ _ _ nullable => return nullable
  | .nullTest _ _ _ => return false
  | .function _ arguments _ nullable => if nullable then return true else anyMayBeNull s arguments
  | .binary _ left right _ => do if ← mayBeNull s left then return true else mayBeNull s right
  | .negation operand _ => mayBeNull s operand
  | .convert operand _ => mayBeNull s operand
  | .inList item values _ _ => do if ← mayBeNull s item then return true else anyMayBeNull s values
  | .inParameter item source _ _ => do if ← mayBeNull s item then return true else mayBeNull s source
  | .like subject pattern escape _ => do
    if ← mayBeNull s subject then return true
    else if ← mayBeNull s pattern then return true
    else escapeMayBeNull s escape
/-- Whether one of several expressions may be null. -/
def anyMayBeNull (s : Setting) : List (Expr String) → Pass Bool
  | [] => return false
  | e :: es => do if ← mayBeNull s e then return true else anyMayBeNull s es
/-- Whether an escape character may be null. -/
def escapeMayBeNull (s : Setting) : Option (Expr String) → Pass Bool
  | none => return false
  | some e => mayBeNull s e
end

end SqlShape.Specialization
