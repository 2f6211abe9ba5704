/-!
# Methods

A method is identified by the capability that declares it, its name and its number of type arguments.
-/

namespace SqlShape

/-- The capability that declares a method. -/
inductive DeclaringType where
  | enumerable
  | string
  | math
  | object
  | array
deriving DecidableEq, Repr

namespace DeclaringType

/-- The name of a capability. -/
def name : DeclaringType → String
  | enumerable => "Enumerable"
  | string => "String"
  | math => "Math"
  | object => "Object"
  | array => "Array"

/-- All capabilities. -/
def all : List DeclaringType :=
  [enumerable, string, math, object, array]

end DeclaringType

/-- The identity of a method. -/
structure MethodId where
  declaringType : DeclaringType
  name : String
  arity : UInt8
deriving DecidableEq, Repr

namespace MethodId

/-- The method as messages name it; type arguments are shown by their number. -/
def describe (m : MethodId) : String :=
  m.declaringType.name ++ "." ++ m.name ++ (if m.arity = 0 then "" else "`" ++ toString m.arity.toNat)

end MethodId

end SqlShape
