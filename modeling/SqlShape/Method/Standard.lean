import SqlShape.Method.Bytes
import SqlShape.Method.Equality
import SqlShape.Method.Membership
import SqlShape.Method.Numbers
import SqlShape.Method.Strings

/-!
# The rules of a dialect
-/

namespace SqlShape.Dialect

/-- The rules that every query of a dialect is lowered by. -/
def rules (d : Dialect) : MethodRules :=
  MethodRules.empty.registerAll
    [.bytes d, .membership, .strings d, .numbers d, .equality]

end SqlShape.Dialect
