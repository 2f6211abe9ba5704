import SqlShape.Dialect.Lexeme
import SqlShape.Double.Text
import SqlShape.Value.Basic

/-!
# Literals

How a value stands in a command. SQL Server marks the store type of bytes and long integers by a cast, and
national text by a leading `N`; SQLite writes plain literals. A list is its items separated by commas.
-/

namespace SqlShape.Dialect

/-- Text of this store type is national on SQL Server. -/
def isNational (storeType : String) : Bool :=
  match storeType.toList with
  | 'n' :: _ => true
  | _ => false

mutual
/-- The literal of a value in a SQL Server command. -/
def sqlServerLiteral (mapping : TypeMapping) : Value → List Lexeme
  | .null => [.plain "NULL"]
  | .bool b => [.plain ("CAST(" ++ (if b then "1" else "0") ++ " AS bit)")]
  | .byte b => [.plain ("CAST(" ++ toString b.toNat ++ " AS " ++ mapping.storeType ++ ")")]
  | .int i => [.plain (toString i.toInt)]
  | .long i => [.plain ("CAST(" ++ toString i.toInt ++ " AS bigint)")]
  | .double d => [.plain d.literal]
  | .text s => [.string (isNational mapping.storeType) s]
  | .bytes bs => [.binary bs]
  | .list items => Lexeme.commaSeparated (sqlServerLiterals mapping items)
/-- The literals of values in a row. -/
def sqlServerLiterals (mapping : TypeMapping) : List Value → List (List Lexeme)
  | [] => []
  | v :: vs => sqlServerLiteral mapping v :: sqlServerLiterals mapping vs
end

mutual
/-- The literal of a value in a SQLite command. -/
def sqliteLiteral : Value → List Lexeme
  | .null => [.plain "NULL"]
  | .bool b => [.plain (if b then "1" else "0")]
  | .byte b => [.plain (toString b.toNat)]
  | .int i => [.plain (toString i.toInt)]
  | .long i => [.plain (toString i.toInt)]
  | .double d => [.plain d.literal]
  | .text s => [.string false s]
  | .bytes bs => [.binary bs]
  | .list items => Lexeme.commaSeparated (sqliteLiterals items)
/-- The literals of values in a row. -/
def sqliteLiterals : List Value → List (List Lexeme)
  | [] => []
  | v :: vs => sqliteLiteral v :: sqliteLiterals vs
end

/-- The literal of a value that is stored under a mapping. -/
def literal (d : Dialect) (mapping : TypeMapping) (value : Value) : List Lexeme :=
  match d with
  | .sqlServer => sqlServerLiteral mapping value
  | .sqlite => sqliteLiteral value

end SqlShape.Dialect
