/-!
# Binary operators

Six comparisons, two connectives and two arithmetic operators, with their symbols and how tightly they bind.
-/

namespace SqlShape

/-- Binary operators of expressions. -/
inductive BinaryOp where
  | equal
  | notEqual
  | greater
  | greaterEqual
  | less
  | lessEqual
  | and
  | or
  | add
  | subtract
deriving DecidableEq, Repr

namespace BinaryOp

/-- The operator as it is written. -/
def symbol : BinaryOp → String
  | equal => "="
  | notEqual => "<>"
  | greater => ">"
  | greaterEqual => ">="
  | less => "<"
  | lessEqual => "<="
  | and => "AND"
  | or => "OR"
  | add => "+"
  | subtract => "-"

/-- Compares two values. -/
def isComparison : BinaryOp → Bool
  | equal | notEqual | greater | greaterEqual | less | lessEqual => true
  | _ => false

/-- Connects two conditions. -/
def isLogical : BinaryOp → Bool
  | and | or => true
  | _ => false

/-- The comparison that holds of two values exactly when this one does not. -/
def negated? : BinaryOp → Option BinaryOp
  | equal => some notEqual
  | notEqual => some equal
  | greater => some lessEqual
  | greaterEqual => some less
  | less => some greaterEqual
  | lessEqual => some greater
  | _ => none

/-- Binding strength; a higher one binds tighter. -/
def precedence : BinaryOp → Nat
  | or => 1
  | and => 2
  | equal | notEqual | greater | greaterEqual | less | lessEqual => 4
  | add | subtract => 5

end BinaryOp

end SqlShape
