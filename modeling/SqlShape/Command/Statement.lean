import SqlShape.Command.Expression
import SqlShape.Expr.Select

/-!
# Statements in a command

The clauses of a statement in order. SQL Server writes the row limit before the projections, SQLite at the end;
a statement without projections yields a one.
-/

namespace SqlShape.Dialect

/-- The row limit before the projections. -/
def topClause (d : Dialect) (s : Select String) : Written :=
  match d, s.limit with
  | .sqlServer, some limit => do return [.plain "TOP("] ++ (← d.writeValue limit) ++ [.plain ") "]
  | _, _ => .ok []

/-- The row limit at the end. -/
def limitClause (d : Dialect) (s : Select String) : Written :=
  match d, s.limit with
  | .sqlite, some limit => do return [.plain " LIMIT "] ++ (← d.writeValue limit)
  | _, _ => .ok []

/-- A projection under its alias. -/
def projection (d : Dialect) (p : Projection String) : Written := do
  return (← d.writeValue p.expr) ++ [.plain " AS ", .identifier p.label]

/-- The projections. -/
def projections (d : Dialect) (s : Select String) : Written :=
  match s.projections with
  | [] => .ok [.plain "1"]
  | ps => do return Lexeme.commaSeparated (← ps.mapM d.projection)

/-- The table under its alias. -/
def fromClause (s : Select String) : List Lexeme :=
  [.plain " FROM ", .identifier s.table, .plain " AS ", .identifier s.tableAlias]

/-- The predicate. -/
def whereClause (d : Dialect) (s : Select String) : Written :=
  match s.predicate with
  | some predicate => do return [.plain " WHERE "] ++ (← d.writeCondition predicate)
  | none => .ok []

/-- A sort key; ascending is the default. -/
def sortKey (d : Dialect) (k : SortKey String) : Written := do
  return (← d.writeValue k.expr) ++ (if k.ascending then [] else [.plain " DESC"])

/-- The sort keys. -/
def orderClause (d : Dialect) (s : Select String) : Written :=
  match s.orderings with
  | [] => .ok []
  | ks => do return [.plain " ORDER BY "] ++ Lexeme.commaSeparated (← ks.mapM d.sortKey)

/-- The lexemes of a statement. -/
def statement (d : Dialect) (s : Select String) : Written := do
  let top ← d.topClause s
  let projections ← d.projections s
  let condition ← d.whereClause s
  let order ← d.orderClause s
  let limit ← d.limitClause s
  return [.plain "SELECT "] ++ top ++ projections ++ fromClause s ++ condition ++ order ++ limit

/-- The command text of a statement. -/
def commandText (d : Dialect) (s : Select String) : Except QueryError String := do
  return Lexeme.text d (← d.statement s)

end SqlShape.Dialect
