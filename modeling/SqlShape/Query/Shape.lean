import SqlShape.Query.Expr

/-!
# Shapes

A shape is a query over one table without the values of its parameters: what is lowered once and kept in a
cache. `Shape.parameters` lists the parameters by name, each once, with the type of its first occurrence.
-/

namespace SqlShape

/-- A query expression under a column alias. -/
structure QueryProjection where
  label : String
  expression : QueryExpr
deriving DecidableEq, Repr

/-- A sort key of a query. -/
structure QueryOrdering where
  expression : QueryExpr
  ascending : Bool
deriving DecidableEq, Repr

/-- A query over one table. -/
structure Shape where
  table : String
  tableAlias : String
  projections : List QueryProjection
  predicate : Option QueryExpr
  orderings : List QueryOrdering
  limit : Option QueryExpr
deriving DecidableEq, Repr

/-- Puts a key with its value into a list in key order. A key that is there keeps its value. -/
def insertNew {α : Type} (key : String) (value : α) : List (String × α) → List (String × α)
  | [] => [(key, value)]
  | (k, v) :: rest =>
    if key = k then (k, v) :: rest
    else if key < k then (key, value) :: (k, v) :: rest
    else (k, v) :: insertNew key value rest

namespace Shape

/-- The whole table, without projections. -/
def ofTable (table tableAlias : String) : Shape :=
  ⟨table, tableAlias, [], none, [], none⟩

/-- Adds a projection. -/
def project (s : Shape) (label : String) (e : QueryExpr) : Shape :=
  { s with projections := s.projections ++ [⟨label, e⟩] }

/-- Adds a filter; a second filter is connected to the first by a conjunction. -/
def filter (s : Shape) (e : QueryExpr) : Shape :=
  { s with predicate := some (match s.predicate with
      | some existing => .binary .and existing e
      | none => e) }

/-- Adds a sort key. -/
def orderBy (s : Shape) (e : QueryExpr) (ascending : Bool) : Shape :=
  { s with orderings := s.orderings ++ [⟨e, ascending⟩] }

/-- Sets the row limit. -/
def take (s : Shape) (e : QueryExpr) : Shape :=
  { s with limit := some e }

/-- The expressions in their fixed order: projections, predicate, orderings, limit. -/
def expressions (s : Shape) : List QueryExpr :=
  s.projections.map QueryProjection.expression ++ s.predicate.toList
    ++ s.orderings.map QueryOrdering.expression ++ s.limit.toList

/-- The parameters in name order, each with the type of its first occurrence. -/
def parameters (s : Shape) : List (String × LogicalType) :=
  (s.expressions.flatMap QueryExpr.parameters).foldl (fun found (n, t) => insertNew n t found) []

end Shape

end SqlShape
