import SqlShape.Json.Basic
import SqlShape.Query.Shape

/-!
# Queries in JSON

The JSON form of types, values, methods, expressions and shapes. An alternative with data is an object of one
field; one without is its name, or that name over null. A record is an object, whose unknown fields are
ignored, or an array of its fields in order. A field that may be missing has a default; a field that is given
twice is refused.

Inside an expression the rules are wider (`lenient`): an alternative without data may stand over an empty
object, and the kind of an expression may be given by its number. The kind of an outermost expression must be
named.
-/

namespace SqlShape

namespace Json

/-- The name of an alternative without data. -/
def alternative? (lenient : Bool) : Json → Option String
  | str s => some s
  | obj [(k, null)] => some k
  | obj [(k, obj [])] => if lenient then some k else none
  | _ => none

/-- The named fields of a record, in the order of the names; `none` inside for a field that is missing. -/
def fieldParts? {α : Type} (fields : List (String × α)) (names : List String) : Option (List (Option α)) :=
  names.mapM fun name =>
    match fields.filter fun (k, _) => k = name with
    | [] => some none
    | [(_, value)] => some (some value)
    | _ => none

/-- The fields of a record that is written as an array. -/
def itemParts? {α : Type} (items : List α) (names : List String) : Option (List (Option α)) :=
  if items.length ≤ names.length then
    some (items.map some ++ List.replicate (names.length - items.length) none)
  else none

/-- The named fields of a record. -/
def parts? (j : Json) (names : List String) : Option (List (Option Json)) :=
  match j with
  | obj fields => fieldParts? fields names
  | arr items => itemParts? items names
  | _ => none

/-- A field with a default. -/
def orElse {α : Type} (part : Option Json) (fallback : α) (read : Json → Option α) : Option α :=
  match part with
  | none => some fallback
  | some j => read j

/-- A field that may be missing or null. -/
def optional {α : Type} (part : Option Json) (read : Json → Option α) : Option (Option α) :=
  match part with
  | none | some null => some none
  | some j => (read j).map some

end Json

/-! ## Types, operators and methods -/

/-- The JSON name of a scalar type. -/
def LogicalType.jsonName? : LogicalType → Option String
  | .bool => some "Bool"
  | .byte => some "Byte"
  | .int32 => some "Int32"
  | .int64 => some "Int64"
  | .double => some "Double"
  | .text => some "String"
  | .bytes => some "Bytes"
  | .sequence _ => none

/-- The scalar type of a JSON name. -/
def LogicalType.ofJsonName? (name : String) : Option LogicalType :=
  [bool, byte, int32, int64, double, text, bytes].find? fun t => t.jsonName? = some name

/-- A type. -/
def LogicalType.ofJson? (lenient : Bool) : Json → Option LogicalType
  | .obj [(k, j)] =>
    if k = "Sequence" then (ofJson? lenient j).map sequence
    else ((Json.obj [(k, j)]).alternative? lenient).bind ofJsonName?
  | j => (j.alternative? lenient).bind ofJsonName?

/-- The JSON name of an operator. -/
def BinaryOp.jsonName : BinaryOp → String
  | equal => "Equal"
  | notEqual => "NotEqual"
  | greater => "GreaterThan"
  | greaterEqual => "GreaterThanOrEqual"
  | less => "LessThan"
  | lessEqual => "LessThanOrEqual"
  | and => "AndAlso"
  | or => "OrElse"
  | add => "Add"
  | subtract => "Subtract"

/-- All operators. -/
def BinaryOp.all : List BinaryOp :=
  [equal, notEqual, greater, greaterEqual, less, lessEqual, and, or, add, subtract]

/-- An operator. -/
def BinaryOp.ofJson? (lenient : Bool) (j : Json) : Option BinaryOp := do
  let name ← j.alternative? lenient
  all.find? fun op => op.jsonName = name

/-- A capability. -/
def DeclaringType.ofJson? (lenient : Bool) (j : Json) : Option DeclaringType := do
  let name ← j.alternative? lenient
  all.find? fun t => t.name = name

/-- A method; without a number of type arguments it has none. -/
def MethodId.ofJson? (lenient : Bool) (j : Json) : Option MethodId := do
  match ← j.parts? ["declaring_type", "name", "generic_arity"] with
  | [some declaringType, some name, arity] =>
    let declaringType ← DeclaringType.ofJson? lenient declaringType
    let name ← name.str?
    let arity ← Json.orElse arity 0 (Json.integerIn? 0 255)
    return ⟨declaringType, name, UInt8.ofNat arity.toNat⟩
  | _ => none

/-! ## Values -/

/-- Bytes as an array of numbers. -/
def Json.bytes? (j : Json) : Option (List UInt8) := do
  (← j.items?).mapM fun i => (i.integerIn? 0 255).map fun n => UInt8.ofNat n.toNat

mutual
/-- A value. -/
def Value.ofJson? (lenient : Bool) : Json → Option Value
  | .str s => if s = "Null" then some .null else none
  | .obj [(k, j)] =>
    match k with
    | "Null" => ((Json.obj [(k, j)]).alternative? lenient).map fun _ => .null
    | "Bool" => j.bool?.map .bool
    | "Byte" => (j.integerIn? 0 255).map fun n => .byte (UInt8.ofNat n.toNat)
    | "Int" => (j.integerIn? Int32.minValue.toInt Int32.maxValue.toInt).map fun n => .int (Int32.ofInt n)
    | "Long" => (j.integerIn? Int64.minValue.toInt Int64.maxValue.toInt).map fun n => .long (Int64.ofInt n)
    | "Double" => j.double?.map .double
    | "Text" => j.str?.map .text
    | "Bytes" => j.bytes?.map .bytes
    | "List" => (Value.ofJsonArray? lenient j).map .list
    | _ => none
  | _ => none
/-- The values of an array. -/
def Value.ofJsonArray? (lenient : Bool) : Json → Option (List Value)
  | .arr items => Value.ofJsonItems? lenient items
  | _ => none
/-- Values in a row. -/
def Value.ofJsonItems? (lenient : Bool) : List Json → Option (List Value)
  | [] => some []
  | j :: js => do return (← Value.ofJson? lenient j) :: (← Value.ofJsonItems? lenient js)
end

/-! ## Expressions -/

namespace QueryExpr

/-- A part of a document, with what it is read as an expression and as expressions in a row. -/
structure Part where
  json : Json
  expr? : Option QueryExpr
  exprs? : Option (List QueryExpr)

/-- The kinds of expressions in the order of their numbers. -/
def kinds : List String :=
  ["constant", "parameter", "column", "binary", "not", "convert", "method_call"]

/-- The kind of an expression, by name or number. -/
def kind? : Json → Option String
  | .str s => some s
  | .integer i => if 0 ≤ i then kinds[i.toNat]? else none
  | _ => none

/-- The expression of a kind, whose fields are found by their names. -/
def ofParts? (kind : String) (parts? : List String → Option (List (Option Part))) : Option QueryExpr := do
  match kind with
  | "constant" =>
    match ← parts? ["value", "value_type"] with
    | [some value, type] =>
      let value ← Value.ofJson? true value.json
      let type ← Json.optional (type.map Part.json) (LogicalType.ofJson? true)
      return .constant value type
    | _ => none
  | "parameter" =>
    match ← parts? ["name", "value_type"] with
    | [some name, some type] => return .parameter (← name.json.str?) (← LogicalType.ofJson? true type.json)
    | _ => none
  | "column" =>
    match ← parts? ["table", "name", "value_type", "nullable"] with
    | [some table, some name, some type, nullable] =>
      let table ← table.json.str?
      let name ← name.json.str?
      let type ← LogicalType.ofJson? true type.json
      let nullable ← Json.orElse (nullable.map Part.json) false Json.bool?
      return .column table name type nullable
    | _ => none
  | "binary" =>
    match ← parts? ["op", "left", "right"] with
    | [some op, some left, some right] =>
      return .binary (← BinaryOp.ofJson? true op.json) (← left.expr?) (← right.expr?)
    | _ => none
  | "not" =>
    match ← parts? ["operand"] with
    | [some operand] => return .not (← operand.expr?)
    | _ => none
  | "convert" =>
    match ← parts? ["operand", "target"] with
    | [some operand, some target] => return .convert (← operand.expr?) (← LogicalType.ofJson? true target.json)
    | _ => none
  | "method_call" =>
    match ← parts? ["instance", "method", "arguments"] with
    | [receiver, some method, arguments] =>
      let receiver ← match receiver with
        | none | some ⟨.null, _, _⟩ => some none
        | some part => part.expr?.map some
      let method ← MethodId.ofJson? true method.json
      let arguments ← match arguments with
        | none => some []
        | some part => part.exprs?
      return .call receiver method arguments
    | _ => none
  | _ => none

/-- The expression of an object. -/
def ofFields? (fields : List (String × Part)) : Option QueryExpr := do
  match ← Json.fieldParts? fields ["kind"] with
  | [some kind] => ofParts? (← kind? kind.json) (Json.fieldParts? fields)
  | _ => none

/-- The expression of an array, whose first item is the kind. -/
def ofItems? (items : List Part) : Option QueryExpr := do
  match items with
  | kind :: rest => ofParts? (← kind? kind.json) (Json.itemParts? rest)
  | [] => none

mutual
/-- A part of a document. -/
def partOf : Json → Part
  | .arr items =>
    let parts := partsOfItems items
    ⟨.arr items, ofItems? parts, parts.mapM Part.expr?⟩
  | .obj fields => ⟨.obj fields, ofFields? (partsOfFields fields), none⟩
  | j => ⟨j, none, none⟩
/-- The parts of an array. -/
def partsOfItems : List Json → List Part
  | [] => []
  | j :: js => partOf j :: partsOfItems js
/-- The parts of an object. -/
def partsOfFields : List (String × Json) → List (String × Part)
  | [] => []
  | (k, j) :: rest => (k, partOf j) :: partsOfFields rest
end

/-- The kind of an expression is given by name. -/
def hasNamedKind : Json → Bool
  | .obj fields => fields.any fun (k, j) => k == "kind" && j.str?.isSome
  | .arr (.str _ :: _) => true
  | _ => false

/-- An expression. -/
def ofJson? (j : Json) : Option QueryExpr :=
  if hasNamedKind j then (partOf j).expr? else none

end QueryExpr

/-! ## Shapes -/

/-- A projection. -/
def QueryProjection.ofJson? (j : Json) : Option QueryProjection := do
  match ← j.parts? ["alias", "expression"] with
  | [some label, some expression] => return ⟨← label.str?, ← QueryExpr.ofJson? expression⟩
  | _ => none

/-- A sort key; without a direction it is ascending. -/
def QueryOrdering.ofJson? (j : Json) : Option QueryOrdering := do
  match ← j.parts? ["expression", "ascending"] with
  | [some expression, ascending] =>
    return ⟨← QueryExpr.ofJson? expression, ← Json.orElse ascending true Json.bool?⟩
  | _ => none

/-- The records of an array. -/
def Json.records? {α : Type} (read : Json → Option α) (j : Json) : Option (List α) := do
  (← j.items?).mapM read

/-- A shape. -/
def Shape.ofJson? (j : Json) : Option Shape := do
  match ← j.parts? ["table", "alias", "projections", "predicate", "orderings", "limit"] with
  | [some table, some tableAlias, some projections, predicate, orderings, limit] =>
    let table ← table.str?
    let tableAlias ← tableAlias.str?
    let projections ← projections.records? QueryProjection.ofJson?
    let predicate ← Json.optional predicate QueryExpr.ofJson?
    let orderings ← Json.orElse orderings [] (Json.records? QueryOrdering.ofJson?)
    let limit ← Json.optional limit QueryExpr.ofJson?
    return { table, tableAlias, projections, predicate, orderings, limit }
  | _ => none

/-- Values by name. -/
def Json.valuesByName? (j : Json) : Option (List (String × Value)) := do
  (← j.fields?).mapM fun (k, v) => (Value.ofJson? false v).map (k, ·)

end SqlShape
