import SqlShape.Bindings
import SqlShape.Expr.Select

/-!
# Placeholders

A placeholder stands in a command for a value that is supplied when the command runs. It says where the value
comes from, not what it is: `Source.resolve` takes it from the bindings of a run, so one command serves many.

While a query is specialized a placeholder is a `Slot` without a name. Slots with the same key are one
placeholder. Names are given at the end, to the slots that are left, in the order in which they occur.

A slot holds its mapping and its source itself, so there is no provisional name under which they are looked up and none
that could be missing: only the expressions of the query are read, and each parameter that comes out of them was put
there as a slot. Giving names therefore refuses nothing.
-/

namespace SqlShape

/-- Where the value of a placeholder comes from. -/
inductive Source where
  /-- A parameter of a declared type, converted where a type is given. -/
  | value (parameter : String) (type : LogicalType) (convertTo : Option LogicalType)
  /-- One element of a parameter that holds a sequence. -/
  | element (parameter : String) (index : Nat) (type : LogicalType)
deriving DecidableEq, Repr

namespace Source

/-- The parameter that is read. -/
def parameter : Source → String
  | value p _ _ | element p _ _ => p

/-- A value of a parameter in another type. -/
def converted (parameter : String) (v : Value) (target : LogicalType) : Except QueryError Value :=
  match v.convertTo? target with
  | some image => .ok image
  | none => .error (.typeMismatch (.binding parameter) target (v.typeOr target))

/-- The value to send. -/
def resolve (b : Bindings) : Source → Except QueryError Value
  | value parameter type convertTo => do
    let v ← b.getScalar parameter type
    converted parameter v (convertTo.getD type)
  | element parameter index type => do
    let v ← b.get parameter
    let found := match v with
      | .list vs => vs[index]?
      | _ => none
    match found with
    | some v => converted parameter v type
    | none => throw (.unsupportedBinding parameter (.noElement index))

end Source

/-- A placeholder without a name. -/
structure Slot where
  mapping : TypeMapping
  source : Source
deriving DecidableEq, Repr

/-- What tells slots apart: all but the declared type of the parameter. -/
inductive SlotKey where
  | value (parameter : String) (mapping : TypeMapping) (convertTo : Option LogicalType)
  | element (parameter : String) (index : Nat) (mapping : TypeMapping)
deriving DecidableEq, Repr

/-- The key of a slot. -/
def Slot.key (s : Slot) : SlotKey :=
  match s.source with
  | .value parameter _ convertTo => .value parameter s.mapping convertTo
  | .element parameter index _ => .element parameter index s.mapping

/-- A placeholder of a finished command. -/
structure Placeholder where
  name : String
  mapping : TypeMapping
  source : Source
deriving DecidableEq, Repr

/-- A placeholder with the value to send. -/
structure BoundParameter where
  name : String
  storeType : String
  value : Value
deriving DecidableEq, Repr

/-- A placeholder with its value. -/
def Placeholder.bind (b : Bindings) (p : Placeholder) : Except QueryError BoundParameter := do
  return ⟨p.name, p.mapping.storeType, ← p.source.resolve b⟩

/-- The name of the placeholder with number `index`. -/
def placeholderName (namePrefix : String) (index : Nat) : String :=
  namePrefix ++ toString index

namespace Select

/-- The slots of a statement, each once, in the order in which they occur. -/
def slots (s : Select Slot) : List Slot :=
  (s.expressions.flatMap Expr.refs).eraseDups

/-- The statement with its slots numbered. Each slot of the statement is among `slots`, so each has a number. -/
def named (namePrefix : String) (s : Select Slot) : Select String :=
  let slots := s.slots
  s.map (Expr.mapRef fun slot => placeholderName namePrefix (slots.idxOf slot))

/-- The placeholders of a statement in number order, each with the mapping and the source of its slot. -/
def placeholders (namePrefix : String) (s : Select Slot) : List Placeholder :=
  s.slots.zipIdx.map fun (slot, index) => ⟨placeholderName namePrefix index, slot.mapping, slot.source⟩

end Select

end SqlShape
