import SqlShape.Specialization.Reading

/-!
# Specialization

A lowered statement is specialized for the values of one run: `specialize` reads every expression for these
values, drops a predicate that always holds, and numbers the placeholders that are left. The outcome also says
for which other values it may be used.
-/

namespace SqlShape

/-- How statements are specialized. -/
structure SpecializationOptions where
  namePrefix : String
  relationalNulls : Bool
deriving DecidableEq, Repr

/-- A statement for given values. -/
structure Specialized where
  select : Select String
  placeholders : List Placeholder
  cacheability : Cacheability

namespace Select

/-- The statement without a predicate that always holds. -/
def withoutTrivialPredicate {ρ : Type} (s : Select ρ) : Select ρ :=
  if s.predicate.bind Expr.truth? = some true then { s with predicate := none } else s

/-- Specializes a statement. -/
def specialize (b : Builder) (options : SpecializationOptions) (bindings : Bindings) (s : Select String) :
    Except QueryError Specialized := do
  let setting : Specialization.Setting := ⟨b, options.relationalNulls, bindings⟩
  let visit (e : Expr String) : Specialization.Pass (Expr Slot) := do
    return (← (Specialization.read setting e).asIs).expr
  let (read, progress) ← (s.traverse visit).run .start
  let kept := read.withoutTrivialPredicate
  return { select := kept.named options.namePrefix
           placeholders := kept.placeholders options.namePrefix
           cacheability := progress.cacheability }

end Select

end SqlShape
