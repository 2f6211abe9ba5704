import SqlShape.Dialect.Basic

/-!
# Configuration

The settings of a compiler, with defaults for all of them. Settings can be out of range; `Config.check` says
what is wrong with them.
-/

namespace SqlShape

/-- The settings of the plan cache. -/
structure CacheConfig where
  enabled : Bool := true
  /-- The largest number of shapes, and of plans, that are kept. -/
  maxEntries : Nat := 1024
deriving DecidableEq, Repr

/-- The settings of a compiler. -/
structure Config where
  dialect : Dialect := .sqlServer
  /-- What the names of placeholders start with. -/
  namePrefix : String := "p"
  /-- Comparisons keep the database's treatment of null. -/
  relationalNulls : Bool := false
  cache : CacheConfig := {}
deriving DecidableEq, Repr

/-- What is wrong with settings. -/
inductive ConfigFault where
  | namePrefix (text : String)
  | emptyCache
deriving DecidableEq, Repr

/-- The words for a fault. -/
def ConfigFault.message : ConfigFault → String
  | namePrefix text => "parameter_prefix '" ++ text ++ "' is not a valid identifier"
  | emptyCache => "plan_cache.max_entries must be positive when the cache is enabled"

namespace Config

/-- A letter of A to Z in either case or an underscore. -/
def isIdentifierStart (c : Char) : Bool :=
  c.isAlpha || c == '_'

/-- An identifier: a letter or underscore, then letters, digits and underscores, all ASCII. -/
def isIdentifier (text : String) : Bool :=
  match text.toList with
  | [] => false
  | c :: rest => isIdentifierStart c && rest.all fun c => isIdentifierStart c || c.isDigit

/-- Finds the first fault of the settings. -/
def check (c : Config) : Except ConfigFault Unit :=
  if !isIdentifier c.namePrefix then .error (.namePrefix c.namePrefix)
  else if c.cache.enabled && c.cache.maxEntries == 0 then .error .emptyCache
  else .ok ()

end Config

end SqlShape
