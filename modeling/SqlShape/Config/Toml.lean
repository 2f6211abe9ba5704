import SqlShape.Config.Json
import SqlShape.Toml.Reader

/-!
# Configuration in TOML

A configuration file is a TOML document of settings. Missing settings have their defaults and unknown ones are
ignored. Settings that were read are checked.
-/

namespace SqlShape

/-- Why a configuration was refused. -/
inductive ConfigError where
  /-- The text is no document, or a setting has the wrong type. -/
  | unreadable
  | invalid (fault : ConfigFault)
deriving DecidableEq, Repr

/-- The words for a refusal. -/
def ConfigError.message : ConfigError → String
  | unreadable => "TOML parse error"
  | invalid fault => "invalid configuration: " ++ fault.message

/-- The name of an alternative without data in a document: the name alone, or over an empty table or array. -/
def Toml.alternative? : Json → Option String
  | .str s => some s
  | .obj [(k, .obj [])] => some k
  | .obj [(k, .arr [])] => some k
  | _ => none

/-- Reads and checks settings. -/
def Config.ofToml (source : String) : Except ConfigError Config :=
  match (Toml.parse? source).bind (Config.read? Toml.alternative?) with
  | none => .error .unreadable
  | some c =>
    match c.check with
    | .error fault => .error (.invalid fault)
    | .ok () => .ok c

end SqlShape
