import SqlShape.Double.Text
import SqlShape.Text.Quoted
import SqlShape.Value.Basic

/-!
# Values in messages

The text of a value names its kind and then shows its content: `Int(3)`, `Text("a")`, `List([Null])`.
-/

namespace SqlShape.Value

mutual
/-- The text of a value. -/
def describe : Value → String
  | null => "Null"
  | bool b => "Bool(" ++ (if b then "true" else "false") ++ ")"
  | byte b => "Byte(" ++ toString b.toNat ++ ")"
  | int i => "Int(" ++ toString i.toInt ++ ")"
  | long i => "Long(" ++ toString i.toInt ++ ")"
  | double d => "Double(" ++ d.literal ++ ")"
  | text s => "Text(" ++ Text.quoted s ++ ")"
  | bytes bs => "Bytes([" ++ ", ".intercalate (bs.map fun b => toString b.toNat) ++ "])"
  | list items => "List([" ++ ", ".intercalate (describeItems items) ++ "])"
/-- The texts of the items of a list. -/
def describeItems : List Value → List String
  | [] => []
  | v :: vs => v.describe :: describeItems vs
end

end SqlShape.Value
