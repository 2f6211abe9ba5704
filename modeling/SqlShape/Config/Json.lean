import SqlShape.Config
import SqlShape.Query.Json

/-!
# Configuration in JSON

Settings as a record with defaults. A setting that is given must have the right type. How the name of a dialect
may be written depends on the format that the record was read from, so `Config.read?` takes a reader of names.
-/

namespace SqlShape

/-- The settings of the plan cache. -/
def CacheConfig.ofJson? (j : Json) : Option CacheConfig := do
  let standard : CacheConfig := {}
  match ← j.parts? ["enabled", "max_entries"] with
  | [enabled, maxEntries] =>
    let enabled ← Json.orElse enabled standard.enabled Json.bool?
    let maxEntries ← Json.orElse maxEntries (standard.maxEntries : Int) (Json.integerIn? 0 (UInt64.size - 1))
    return ⟨enabled, maxEntries.toNat⟩
  | _ => none

/-- The settings of a compiler. The dialect has its exact name, which `name?` reads. -/
def Config.read? (name? : Json → Option String) (j : Json) : Option Config := do
  let standard : Config := {}
  match ← j.parts? ["provider", "parameter_prefix", "use_relational_nulls", "plan_cache"] with
  | [dialect, namePrefix, relationalNulls, cache] =>
    let dialect ← Json.orElse dialect standard.dialect fun j => (name? j).bind Dialect.ofName?
    let namePrefix ← Json.orElse namePrefix standard.namePrefix Json.str?
    let relationalNulls ← Json.orElse relationalNulls standard.relationalNulls Json.bool?
    let cache ← Json.orElse cache standard.cache CacheConfig.ofJson?
    return { dialect, namePrefix, relationalNulls, cache }
  | _ => none

/-- The settings in a JSON record. -/
def Config.ofJson? (j : Json) : Option Config :=
  Config.read? (Json.alternative? false) j

end SqlShape
