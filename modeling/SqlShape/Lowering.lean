import SqlShape.Expr.Select
import SqlShape.Method.Standard
import SqlShape.Query.Shape

/-!
# Lowering

A query is lowered to SQL expressions before any value is known. Every node is built by the `Builder`, so its
types are checked; a method call is handed to the rules. A call that all rules decline has no SQL form, and
neither has anything around it: `lower` then yields `none`, and a whole shape is refused with the text of the
expression.
-/

namespace SqlShape

/-- What lowering needs of a database: how to build typed nodes and how to lower method calls. -/
structure Lowering where
  builder : Builder
  rules : MethodRules

/-- The lowering of a dialect over a catalog. -/
def Dialect.loweringOver (d : Dialect) (catalog : Catalog) : Except QueryError Lowering := do
  return ⟨← Builder.ofCatalog catalog, d.rules⟩

/-- The lowering of a dialect. -/
def Dialect.lowering (d : Dialect) : Except QueryError Lowering :=
  d.loweringOver d.catalog

namespace Lowering

mutual
/-- Lowers an expression; `none` where a call in it has no SQL form. -/
def lower (l : Lowering) : QueryExpr → OptionT (Except QueryError) (Expr String)
  | .constant value (some type) => l.builder.constantOf value type
  | .constant value none => l.builder.constant value
  | .parameter name type => l.builder.parameter name type
  | .column table name type nullable => l.builder.column table name type nullable
  | .binary op left right => do
    let left ← l.lower left
    let right ← l.lower right
    l.builder.binary op left right
  | .not operand => do l.builder.not (← l.lower operand)
  | .convert operand target => do l.builder.convert (← l.lower operand) target
  | .call receiver method arguments => do
    let receiver ← l.lowerReceiver receiver
    let arguments ← l.lowerAll arguments
    l.rules.lower l.builder ⟨receiver, method, arguments⟩
/-- Lowers the receiver of a call. -/
def lowerReceiver (l : Lowering) : Option QueryExpr → OptionT (Except QueryError) (Option (Expr String))
  | none => pure none
  | some e => some <$> l.lower e
/-- Lowers expressions in a row. -/
def lowerAll (l : Lowering) : List QueryExpr → OptionT (Except QueryError) (List (Expr String))
  | [] => pure []
  | e :: es => do return (← l.lower e) :: (← l.lowerAll es)
end

/-- Lowers an expression that must have an SQL form. -/
def lowerRequired (l : Lowering) (e : QueryExpr) : Except QueryError (Expr String) := do
  match ← (l.lower e).run with
  | some lowered => return lowered
  | none => throw (.noSqlForm e.describe)

/-- Lowers a predicate, which must yield a truth value. -/
def lowerPredicate (l : Lowering) (e : QueryExpr) : Except QueryError (Expr String) := do
  let lowered ← l.lowerRequired e
  if lowered.type ≠ .bool then throw (.typeMismatch .filter .bool lowered.type)
  return lowered

/-- Lowers a row limit, which must be an integer. -/
def lowerLimit (l : Lowering) (e : QueryExpr) : Except QueryError (Expr String) := do
  let lowered ← l.lowerRequired e
  match lowered.type with
  | .byte | .int32 | .int64 => return lowered
  | type => throw (.typeMismatch .limit .int32 type)

/-- Lowers a shape: projections, predicate, orderings, limit. -/
def lowerShape (l : Lowering) (s : Shape) : Except QueryError (Select String) := do
  let projections ← s.projections.mapM fun p => do return ⟨p.label, ← l.lowerRequired p.expression⟩
  let predicate ← s.predicate.mapM l.lowerPredicate
  let orderings ← s.orderings.mapM fun o => do return ⟨← l.lowerRequired o.expression, o.ascending⟩
  let limit ← s.limit.mapM l.lowerLimit
  return { table := s.table, tableAlias := s.tableAlias, projections, predicate, orderings, limit }

end Lowering

end SqlShape
