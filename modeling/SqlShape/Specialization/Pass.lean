import SqlShape.Builder
import SqlShape.Cacheability
import SqlShape.Placeholder

/-!
# A pass over a query

A pass carries what it has gathered so far: the slots in the order of their first use, the parameters whose
nullness shaped the result, and whether a sequence was expanded. A slot is registered under its key; a later
use of the same key yields the slot that was registered first.
-/

namespace SqlShape.Specialization

/-- What a pass is given. -/
structure Setting where
  builder : Builder
  /-- Comparisons keep the database's treatment of null. -/
  relationalNulls : Bool
  bindings : Bindings

/-- What a pass has gathered. -/
structure Progress where
  slots : List Slot
  /-- In name order, each once. -/
  consulted : List String
  expanded : Bool

/-- Nothing gathered. -/
def Progress.start : Progress :=
  ⟨[], [], false⟩

/-- How far the result of a pass can be reused. -/
def Progress.cacheability (p : Progress) : Cacheability :=
  if p.expanded then .perValues
  else if p.consulted.isEmpty then .byShape
  else .byNullness p.consulted

/-- A step that gathers and may be refused. -/
abbrev Pass :=
  StateT Progress (Except QueryError)

/-- Puts a name into a list in name order. -/
def insertName (name : String) : List String → List String
  | [] => [name]
  | n :: rest =>
    if name = n then n :: rest
    else if name < n then name :: n :: rest
    else n :: insertName name rest

/-- Records that the nullness of a parameter shaped the result. -/
def consult (name : String) : Pass Unit :=
  modify fun p => { p with consulted := insertName name p.consulted }

/-- Records that a sequence was expanded. -/
def expand : Pass Unit :=
  modify fun p => { p with expanded := true }

/-- The slot under the key of a new one: the one that is there, or the new one. -/
def register (slot : Slot) : Pass Slot := do
  match (← get).slots.find? (·.key = slot.key) with
  | some registered => return registered
  | none =>
    modify fun p => { p with slots := p.slots ++ [slot] }
    return slot

/-- The leaf for a slot. -/
def placeholder (mapping : TypeMapping) (source : Source) : Pass (Expr Slot) := do
  return .parameter (← register ⟨mapping, source⟩) mapping.type mapping

end SqlShape.Specialization
