import SqlShape.Error
import SqlShape.Value.Basic

/-!
# Bindings

The values of a query's parameters by name.
-/

namespace SqlShape

/-- Values by parameter name. The first entry of a name counts. -/
structure Bindings where
  entries : List (String × Value)
deriving DecidableEq, Repr

namespace Bindings

/-- No values. -/
def empty : Bindings :=
  ⟨[]⟩

/-- The value of a parameter. -/
def get? (b : Bindings) (name : String) : Option Value :=
  b.entries.lookup name

/-- The value of a parameter that must have one. -/
def get (b : Bindings) (name : String) : Except QueryError Value :=
  match b.get? name with
  | some value => .ok value
  | none => .error (.missingParameter name)

/-- A parameter is null or has no value. -/
def isNull (b : Bindings) (name : String) : Bool :=
  (b.get? name).all Value.isNull

/-- The value of a scalar parameter of a declared type: no list, and within the type. -/
def getScalar (b : Bindings) (name : String) (type : LogicalType) : Except QueryError Value := do
  let value ← b.get name
  if value.isList then throw (.unsupportedBinding name .listForScalar)
  unless value.fits type do throw (.typeMismatch (.binding name) type (value.typeOr type))
  return value

end Bindings

end SqlShape
