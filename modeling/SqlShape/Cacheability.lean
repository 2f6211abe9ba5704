import SqlShape.Bindings

/-!
# Reuse of a plan

What of the bindings a finished plan depends on. The key of a plan among the plans of its shape is the list of
null flags that it depends on; a plan that depends on the values themselves has none.
-/

namespace SqlShape

/-- How far a plan can be reused for other values. -/
inductive Cacheability where
  /-- For all values. -/
  | byShape
  /-- For values that are null for the same ones of these parameters. -/
  | byNullness (parameters : List String)
  /-- For the same values only. -/
  | perValues
deriving DecidableEq, Repr

namespace Cacheability

/-- Reusable for all values. -/
def isByShape : Cacheability → Bool
  | byShape => true
  | _ => false

/-- The null flags that tell plans apart. A parameter without a value counts as null. -/
def key? (c : Cacheability) (b : Bindings) : Option (List Bool) :=
  match c with
  | byShape => some []
  | byNullness names => some (names.map b.isNull)
  | perValues => none

end Cacheability

end SqlShape
