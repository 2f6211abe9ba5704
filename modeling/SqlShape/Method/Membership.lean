import SqlShape.Method.Rule

/-!
# Membership in a sequence

`Contains` over a parameter that holds a sequence becomes a membership test. The parameter stands for its
elements until their number is known.
-/

namespace SqlShape.MethodRule

/-- Membership in a parameter that holds a sequence. -/
def membership : MethodRule where
  name := "enumerable_contains"
  priority := defaultPriority
  accepts m := decide (m.declaringType = .enumerable) && m.name == "Contains" && decide (m.arity = 1)
  apply b c := do
    let (source, item) ← c.twoArguments
    match source with
    | .parameter _ (.sequence _) _ => return some (← b.inParameter item source false)
    | _ => return none

end SqlShape.MethodRule
