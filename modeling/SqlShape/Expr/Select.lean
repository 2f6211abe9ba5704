import SqlShape.Expr.Basic

/-!
# Select statements

Projections over one table with an optional predicate, orderings and an optional row limit. The parts come in
one fixed order everywhere: projections, predicate, orderings, limit.
-/

namespace SqlShape

/-- An expression under a column alias. -/
structure Projection (ρ : Type) where
  label : String
  expr : Expr ρ

/-- A sort key with its direction. -/
structure SortKey (ρ : Type) where
  expr : Expr ρ
  ascending : Bool

/-- A select statement over one table. -/
structure Select (ρ : Type) where
  table : String
  tableAlias : String
  projections : List (Projection ρ)
  predicate : Option (Expr ρ)
  orderings : List (SortKey ρ)
  limit : Option (Expr ρ)

namespace Select

variable {ρ σ : Type}

/-- The expressions of a statement in their fixed order. -/
def expressions (s : Select ρ) : List (Expr ρ) :=
  s.projections.map Projection.expr ++ s.predicate.toList ++ s.orderings.map SortKey.expr ++ s.limit.toList

/-- Rebuilds a statement by an action on each expression, in the fixed order. -/
def traverse {m : Type → Type} [Monad m] (f : Expr ρ → m (Expr σ)) (s : Select ρ) : m (Select σ) := do
  let projections ← s.projections.mapM fun p => do return ⟨p.label, ← f p.expr⟩
  let predicate ← s.predicate.mapM f
  let orderings ← s.orderings.mapM fun o => do return ⟨← f o.expr, o.ascending⟩
  let limit ← s.limit.mapM f
  return { s with projections, predicate, orderings, limit }

/-- Rebuilds a statement by a function on each expression. -/
def map (f : Expr ρ → Expr σ) (s : Select ρ) : Select σ where
  table := s.table
  tableAlias := s.tableAlias
  projections := s.projections.map fun p => ⟨p.label, f p.expr⟩
  predicate := s.predicate.map f
  orderings := s.orderings.map fun o => ⟨f o.expr, o.ascending⟩
  limit := s.limit.map f

end Select

end SqlShape
