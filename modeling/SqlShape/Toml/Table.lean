import SqlShape.Json.Basic

/-!
# Tables in TOML

A document is a table of tables. How a table came to be decides what may be added to it later: a table that is
implied by the header of an inner one may be given its own header once; a table that stands under a header may
not be extended through a dotted key; a table made by dotted keys may not get a header. A value, be it an array
or a table within braces, is closed.
-/

namespace SqlShape.Toml

/-- How a table came to be. -/
inductive Origin where
  /-- Implied by the header of an inner table. -/
  | implied
  /-- By its own header, or the document itself. -/
  | header
  /-- By a dotted key. -/
  | dotted
deriving DecidableEq

/-- What stands under a key. -/
inductive Node where
  | leaf (value : Json)
  | table (origin : Origin) (fields : List (String × Node))
  /-- Tables under one repeated header, the last one first. -/
  | tables (items : List (List (String × Node)))

/-- A table under construction. -/
structure Table where
  origin : Origin
  fields : List (String × Node)

namespace Table

/-- An empty table. -/
def empty (origin : Origin) : Table :=
  ⟨origin, []⟩

/-- What stands under a key. -/
def find? (t : Table) (key : String) : Option Node :=
  t.fields.lookup key

/-- Puts a node under a key, in place of the one that is there. -/
def put (t : Table) (key : String) (node : Node) : Table :=
  if t.fields.any fun (k, _) => k == key then
    { t with fields := t.fields.map fun (k, n) => if k == key then (k, node) else (k, n) }
  else { t with fields := t.fields ++ [(key, node)] }

/-- Changes the table at the end of a path. Tables that are missing on the way are made, with the given origin;
a dotted path does not lead through a table under a header. The last of repeated tables is meant. -/
def within (origin : Origin) (change : Table → Option Table) : List String → Table → Option Table
  | [], t => change t
  | key :: path, t =>
    match t.find? key with
    | none => do
      let inner ← within origin change path (empty origin)
      return t.put key (.table inner.origin inner.fields)
    | some (.table o fields) =>
      if origin = .dotted ∧ o = .header then none
      else do
        let inner ← within origin change path ⟨o, fields⟩
        return t.put key (.table inner.origin inner.fields)
    | some (.tables (last :: before)) => do
      let inner ← within origin change path ⟨.header, last⟩
      return t.put key (.tables (inner.fields :: before))
    | some (.tables []) | some (.leaf _) => none

/-- Adds a value under a new key. A dotted key may only add to a table made by dotted keys. -/
def addValue (path : List String) (key : String) (value : Json) : Table → Option Table :=
  within .dotted (fun t =>
    if path.isEmpty = decide (t.origin = .dotted) ∨ (t.find? key).isSome then none
    else some (t.put key (.leaf value))) path

/-- Opens a table by its header. -/
def openHeader (path : List String) (key : String) : Table → Option Table :=
  within .implied (fun t =>
    match t.find? key with
    | none => some (t.put key (.table .header []))
    | some (.table .implied fields) => some (t.put key (.table .header fields))
    | some _ => none) path

/-- Opens another of repeated tables by their header. -/
def openRepeated (path : List String) (key : String) : Table → Option Table :=
  within .implied (fun t =>
    match t.find? key with
    | none => some (t.put key (.tables [[]]))
    | some (.tables items) => some (t.put key (.tables ([] :: items)))
    | some _ => none) path

/-- Adds a value to the table that a header opened. -/
def addUnder (header : List String) (path : List String) (key : String) (value : Json) : Table → Option Table :=
  within .implied (addValue path key value) header

end Table

mutual
/-- A node as JSON. -/
def Node.toJson : Node → Json
  | .leaf value => value
  | .table _ fields => .obj (fieldsToJson fields)
  | .tables items => .arr (tablesToJson items).reverse
/-- The fields of a table as JSON. -/
def fieldsToJson : List (String × Node) → List (String × Json)
  | [] => []
  | (k, n) :: rest => (k, n.toJson) :: fieldsToJson rest
/-- Repeated tables as JSON. -/
def tablesToJson : List (List (String × Node)) → List Json
  | [] => []
  | fields :: rest => .obj (fieldsToJson fields) :: tablesToJson rest
end

/-- A table as JSON. -/
def Table.toJson (t : Table) : Json :=
  .obj (fieldsToJson t.fields)

end SqlShape.Toml
