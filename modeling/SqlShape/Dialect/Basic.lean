import SqlShape.TypeMapping

/-!
# Dialects

The two databases that commands are written for, with their names, their store types and how they quote an
identifier. Reading a name is more lenient than writing one: case does not matter and SQL Server has a short
name.
-/

namespace SqlShape

/-- The database that a command is written for. -/
inductive Dialect where
  | sqlServer
  | sqlite
deriving DecidableEq, Repr

namespace Dialect

/-- The name of a dialect. -/
def name : Dialect → String
  | sqlServer => "sqlserver"
  | sqlite => "sqlite"

/-- The dialect of exactly this name. -/
def ofName? (name : String) : Option Dialect :=
  if name = "sqlserver" then some sqlServer
  else if name = "sqlite" then some sqlite
  else none

/-- The letters A to Z in lower case; every other character stays. -/
def foldAscii (text : String) : String :=
  String.ofList (text.toList.map Char.toLower)

/-- The dialect that a user names, or the folded name that none has. -/
def read (text : String) : Except String Dialect :=
  let folded := foldAscii text
  if folded = "sqlserver" ∨ folded = "mssql" then .ok sqlServer
  else if folded = "sqlite" then .ok sqlite
  else .error folded

/-- The words for a dialect name that none has. -/
def unknownMessage (folded : String) : String :=
  "unknown provider '" ++ folded ++ "'"

/-- The store type of a scalar type. -/
def storeType? : Dialect → LogicalType → Option String
  | sqlServer, .bool => some "bit"
  | sqlServer, .byte => some "tinyint"
  | sqlServer, .int32 => some "int"
  | sqlServer, .int64 => some "bigint"
  | sqlServer, .double => some "float"
  | sqlServer, .text => some "nvarchar(max)"
  | sqlServer, .bytes => some "varbinary(max)"
  | sqlite, .bool | sqlite, .byte | sqlite, .int32 | sqlite, .int64 => some "INTEGER"
  | sqlite, .double => some "REAL"
  | sqlite, .text => some "TEXT"
  | sqlite, .bytes => some "BLOB"
  | _, .sequence _ => none

/-- The catalog of a dialect. -/
def catalog (d : Dialect) : Catalog where
  provider := d.name
  find? type := (d.storeType? type).map fun storeType => ⟨storeType, type⟩

/-- Truth values are not conditions in this dialect, nor conditions values: a stored boolean is compared with
one where a condition is wanted, and a condition is wrapped in a case where a value is wanted. -/
def separatesConditions : Dialect → Bool
  | sqlServer => true
  | sqlite => false

/-! ## Quoting -/

/-- The text with every `mark` written twice. -/
def doubled (mark : Char) : List Char → List Char
  | [] => []
  | c :: rest => if c = mark then mark :: mark :: doubled mark rest else c :: doubled mark rest

/-- The text between quotes, the closing quote doubled inside. -/
def quoted (opening closing : Char) (text : List Char) : List Char :=
  opening :: (doubled closing text ++ [closing])

/-- The characters around a quoted identifier. -/
def identifierQuotes : Dialect → Char × Char
  | sqlServer => ('[', ']')
  | sqlite => ('"', '"')

/-- An identifier between its quotes. -/
def quoteIdentifier (d : Dialect) (identifier : String) : String :=
  String.ofList (quoted d.identifierQuotes.1 d.identifierQuotes.2 identifier.toList)

end Dialect

end SqlShape
