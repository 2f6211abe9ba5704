import SqlShape.Operator
import SqlShape.Query.Method
import SqlShape.Value.Text

/-!
# Query expressions

The expressions of a query before it is lowered for a database: constants, named parameters, columns, binary
operators, negation, conversion and method calls. Two expressions can be told apart (`DecidableEq`), which lets
a query be the key of a cache.
-/

namespace SqlShape

/-- An expression of a query. The type of a constant must be stated where the value shows none. -/
inductive QueryExpr where
  | constant (value : Value) (type : Option LogicalType)
  | parameter (name : String) (type : LogicalType)
  | column (table name : String) (type : LogicalType) (nullable : Bool)
  | binary (op : BinaryOp) (left right : QueryExpr)
  | not (operand : QueryExpr)
  | convert (operand : QueryExpr) (target : LogicalType)
  | call (receiver : Option QueryExpr) (method : MethodId) (arguments : List QueryExpr)
deriving Repr

namespace QueryExpr

mutual
/-- Structural equality as a check. -/
def same : QueryExpr → QueryExpr → Bool
  | constant v t, constant v' t' => decide (v = v') && decide (t = t')
  | parameter n t, parameter n' t' => decide (n = n') && decide (t = t')
  | column a n t b, column a' n' t' b' => decide (a = a') && decide (n = n') && decide (t = t') && decide (b = b')
  | binary op l r, binary op' l' r' => decide (op = op') && same l l' && same r r'
  | not e, not e' => same e e'
  | convert e t, convert e' t' => same e e' && decide (t = t')
  | call r m as, call r' m' as' => sameReceiver r r' && decide (m = m') && sameList as as'
  | _, _ => false
/-- Structural equality of receivers. -/
def sameReceiver : Option QueryExpr → Option QueryExpr → Bool
  | none, none => true
  | some e, some e' => same e e'
  | _, _ => false
/-- Structural equality of expressions in a row. -/
def sameList : List QueryExpr → List QueryExpr → Bool
  | [], [] => true
  | e :: es, e' :: es' => same e e' && sameList es es'
  | _, _ => false
end

mutual
theorem same_iff_eq : ∀ a b : QueryExpr, same a b = true ↔ a = b
  | constant _ _, b | parameter _ _, b | column _ _ _ _, b => by
    cases b <;> simp [same, and_assoc]
  | binary _ l r, b => by cases b <;> simp [same, same_iff_eq l, same_iff_eq r, and_assoc]
  | not e, b => by cases b <;> simp [same, same_iff_eq e]
  | convert e _, b => by cases b <;> simp [same, same_iff_eq e]
  | call r _ as, b => by cases b <;> simp [same, sameReceiver_iff_eq r, sameList_iff_eq as, and_assoc]
theorem sameReceiver_iff_eq : ∀ a b : Option QueryExpr, sameReceiver a b = true ↔ a = b
  | none, b => by cases b <;> simp [sameReceiver]
  | some e, b => by cases b <;> simp [sameReceiver, same_iff_eq e]
theorem sameList_iff_eq : ∀ a b : List QueryExpr, sameList a b = true ↔ a = b
  | [], b => by cases b <;> simp [sameList]
  | e :: es, b => by cases b <;> simp [sameList, same_iff_eq e, sameList_iff_eq es]
end

instance : DecidableEq QueryExpr := fun a b => decidable_of_iff (same a b = true) (same_iff_eq a b)

mutual
/-- The expression in messages. -/
def describe : QueryExpr → String
  | constant v _ => v.describe
  | parameter n _ => "@" ++ n
  | column t n _ _ => t ++ "." ++ n
  | binary op l r => "(" ++ l.describe ++ " " ++ op.symbol ++ " " ++ r.describe ++ ")"
  | not e => "NOT " ++ e.describe
  | convert e t => "CONVERT(" ++ e.describe ++ ", " ++ t.name ++ ")"
  | call r m as => describeReceiver r ++ m.describe ++ "(" ++ ", ".intercalate (describeList as) ++ ")"
/-- The receiver of a call, with its dot. -/
def describeReceiver : Option QueryExpr → String
  | none => ""
  | some e => e.describe ++ "."
/-- The expressions of a row in messages. -/
def describeList : List QueryExpr → List String
  | [] => []
  | e :: es => e.describe :: describeList es
end

mutual
/-- The parameters of an expression with their types, in the order in which they occur. -/
def parameters : QueryExpr → List (String × LogicalType)
  | parameter n t => [(n, t)]
  | constant _ _ | column _ _ _ _ => []
  | binary _ l r => l.parameters ++ r.parameters
  | not e | convert e _ => e.parameters
  | call r _ as => parametersReceiver r ++ parametersList as
/-- The parameters of a receiver. -/
def parametersReceiver : Option QueryExpr → List (String × LogicalType)
  | none => []
  | some e => e.parameters
/-- The parameters of expressions in a row. -/
def parametersList : List QueryExpr → List (String × LogicalType)
  | [] => []
  | e :: es => e.parameters ++ parametersList es
end

end QueryExpr

end SqlShape
