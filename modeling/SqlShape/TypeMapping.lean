import SqlShape.LogicalType

/-!
# Store types

A type mapping says under which store type a database keeps the values of a logical type. A catalog is what
one provider knows: at most one mapping for a logical type, and the name under which the provider appears in
messages.
-/

namespace SqlShape

/-- How values of one logical type are stored. -/
structure TypeMapping where
  storeType : String
  type : LogicalType
deriving DecidableEq, Repr

/-- The mappings that a provider knows. -/
structure Catalog where
  provider : String
  find? : LogicalType → Option TypeMapping

namespace Catalog

/-- The catalog of the listed types; of two entries for one type the first counts. -/
def ofList (provider : String) (entries : List (LogicalType × String)) : Catalog where
  provider := provider
  find? type := (entries.lookup type).map fun storeType => ⟨storeType, type⟩

end Catalog

end SqlShape
