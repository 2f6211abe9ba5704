import SqlShape.Double.Basic

/-!
# JSON

JSON documents. Integers that a word of 64 bits holds, signed or unsigned, are kept apart from doubles. An
object keeps its fields as they were written; `Json.normalized` puts them in key order and lets the last of
equal keys win.
-/

namespace SqlShape

/-- A JSON document. -/
inductive Json where
  | null
  | bool (b : Bool)
  | integer (i : Int)
  | double (d : Double)
  | str (s : String)
  | arr (items : List Json)
  | obj (fields : List (String × Json))
deriving Repr, Inhabited

namespace Json

/-- Puts a field into fields in key order. A field of the same key is replaced. -/
def setField {α : Type} (key : String) (value : α) : List (String × α) → List (String × α)
  | [] => [(key, value)]
  | (k, v) :: rest =>
    if key = k then (key, value) :: rest
    else if key < k then (key, value) :: (k, v) :: rest
    else (k, v) :: setField key value rest

/-- Fields in key order; the last of equal keys wins. -/
def sortFields {α : Type} (fields : List (String × α)) : List (String × α) :=
  fields.foldl (fun sorted (k, v) => setField k v sorted) []

mutual
/-- The document with the fields of every object in key order, each key once. -/
def normalized : Json → Json
  | arr items => arr (normalizedItems items)
  | obj fields => obj (sortFields (normalizedFields fields))
  | j => j
/-- The items of an array, normalized. -/
def normalizedItems : List Json → List Json
  | [] => []
  | j :: js => normalized j :: normalizedItems js
/-- The fields of an object, normalized in place. -/
def normalizedFields : List (String × Json) → List (String × Json)
  | [] => []
  | (k, j) :: rest => (k, normalized j) :: normalizedFields rest
end

/-- The value of a field. -/
def get? (j : Json) (key : String) : Option Json :=
  match j with
  | obj fields => fields.lookup key
  | _ => none

/-- A text. -/
def str? : Json → Option String
  | str s => some s
  | _ => none

/-- A truth value. -/
def bool? : Json → Option Bool
  | bool b => some b
  | _ => none

/-- An integer. -/
def integer? : Json → Option Int
  | integer i => some i
  | _ => none

/-- An integer from `lo` to `hi`. -/
def integerIn? (lo hi : Int) (j : Json) : Option Int := do
  let i ← j.integer?
  if lo ≤ i ∧ i ≤ hi then some i else none

/-- A number as the nearest double. -/
def double? : Json → Option Double
  | integer i => some (Double.ofInt i)
  | double d => some d
  | _ => none

/-- The items of an array. -/
def items? : Json → Option (List Json)
  | arr items => some items
  | _ => none

/-- The fields of an object. -/
def fields? : Json → Option (List (String × Json))
  | obj fields => some fields
  | _ => none

end Json

end SqlShape
