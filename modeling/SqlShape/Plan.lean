import SqlShape.Cacheability
import SqlShape.Placeholder

/-!
# Plans

A plan is a finished command whose placeholders are not bound yet. Binding it gives the command to run.
-/

namespace SqlShape

/-- A finished command whose placeholders are not bound. -/
structure Plan where
  select : Select String
  commandText : String
  placeholders : List Placeholder
  cacheability : Cacheability

/-- A command with the values to send. -/
structure Command where
  text : String
  parameters : List BoundParameter
  cacheability : Cacheability
deriving DecidableEq, Repr

namespace Plan

/-- The values of the placeholders, in their order. -/
def bind (p : Plan) (b : Bindings) : Except QueryError (List BoundParameter) :=
  p.placeholders.mapM (Placeholder.bind b)

/-- The command for given values. -/
def command (p : Plan) (b : Bindings) : Except QueryError Command := do
  return ⟨p.commandText, ← p.bind b, p.cacheability⟩

end Plan

end SqlShape
