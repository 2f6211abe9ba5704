import SqlShape.Cli.Arguments
import SqlShape.Cli.Parameters
import SqlShape.Cli.Table
import SqlShape.Plan

/-!
# Printing a command

A compiled command as text, with a table of its parameters, or as one JSON document with its keys in order.
-/

namespace SqlShape

/-- The reuse of a plan in words. -/
def Cacheability.describe : Cacheability → String
  | byShape => "by shape"
  | byNullness names => "by shape and nullness of " ++ ", ".intercalate names
  | perValues => "per values (not cached)"

/-- The reuse of a plan in JSON. -/
def Cacheability.toJson : Cacheability → Json
  | byShape => .obj [("kind", .str "by_shape")]
  | byNullness names => .obj [("kind", .str "by_nullness"), ("parameters", .arr (names.map .str))]
  | perValues => .obj [("kind", .str "per_values")]

namespace Command

/-- A command as one JSON document. -/
def toJson (c : Command) : Json :=
  .obj [
    ("cacheability", c.cacheability.toJson),
    ("command_text", .str c.text),
    ("parameters", .arr (c.parameters.map fun p =>
      .obj [("name", .str p.name), ("store_type", .str p.storeType), ("value", p.value.toPlainJson)]))]

/-- A command as text. -/
def toText (c : Command) : String :=
  let rows := c.parameters.map fun p => ["@" ++ p.name, p.storeType, p.value.toPlainJson.compact]
  let table := if rows.isEmpty then "" else "\n" ++ Cli.drawTable ["Parameter", "Store type", "Value"] rows ++ "\n"
  c.text ++ "\n" ++ table ++ "\nCacheability: " ++ c.cacheability.describe ++ "\n"

/-- A command in a format. -/
def print (c : Command) : Cli.Format → String
  | .text => c.toText
  | .json => c.toJson.pretty

end Command

end SqlShape
