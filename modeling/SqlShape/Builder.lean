import SqlShape.Error
import SqlShape.Expr.Basic
import SqlShape.Value.Text

/-!
# Building typed expressions

Expressions are built here for one catalog. A node that is built has a mapping of the catalog, and operands
that the database could not combine are refused: comparisons want comparable types, connectives want truth
values, arithmetic wants numbers and patterns want texts. The type of truth values must be in the catalog,
because every comparison yields one; `Builder.ofCatalog` checks that once.

A constant or a parameter beside any other operand takes that operand's mapping where its value has an image
in it (`retype`), so that both sides are sent with one store type.
-/

namespace SqlShape

/-- A catalog together with its mapping of truth values. -/
structure Builder where
  catalog : Catalog
  boolMapping : TypeMapping

namespace Builder

variable {ρ : Type}

/-- The builder of a catalog that can store truth values. -/
def ofCatalog (catalog : Catalog) : Except QueryError Builder :=
  match catalog.find? .bool with
  | some boolMapping => .ok ⟨catalog, boolMapping⟩
  | none => .error (.unmappableType .bool catalog.provider)

/-- The mapping of a type, or the refusal that there is none. -/
def findMapping (b : Builder) (type : LogicalType) : Except QueryError TypeMapping :=
  match b.catalog.find? type with
  | some mapping => .ok mapping
  | none => .error (.unmappableType type b.catalog.provider)

/-! ## Leaves -/

/-- A constant of a stated type. The value is kept in that type. A double without a literal is refused. -/
def constantOf (b : Builder) (value : Value) (type : LogicalType) : Except QueryError (Expr ρ) := do
  let mapping ← b.findMapping type
  if let .double d := value then
    unless d.isFinite do throw (.unrepresentableConstant d.literal)
  unless value.fits type do throw (.typeMismatch .constant type (value.typeOr type))
  return .constant (value.convertedTo type) mapping

/-- A constant of the type that its value shows. -/
def constant (b : Builder) (value : Value) : Except QueryError (Expr ρ) :=
  match value.type? with
  | some type => b.constantOf value type
  | none => .error (.unknownType ("constant " ++ value.describe))

/-- A truth value. -/
def truth (b : Builder) (value : Bool) : Expr ρ :=
  .constant (.bool value) b.boolMapping

/-- A parameter. A sequence is mapped by its element, which must be a scalar. -/
def parameter (b : Builder) (ref : ρ) (type : LogicalType) : Except QueryError (Expr ρ) := do
  match type with
  | .sequence (.sequence _) => throw (.unmappableType type b.catalog.provider)
  | .sequence element => return .parameter ref type (← b.findMapping element)
  | scalar => return .parameter ref type (← b.findMapping scalar)

/-- A column with the provider's default store type. -/
def column (b : Builder) (table name : String) (type : LogicalType) (nullable : Bool) :
    Except QueryError (Expr ρ) := do
  return .column table name (← b.findMapping type) nullable

/-! ## Functions and conversions -/

/-- A function call with a given mapping, null only where an argument is null. -/
def call (name : String) (arguments : List (Expr ρ)) (mapping : TypeMapping) : Expr ρ :=
  .function name arguments mapping false

/-- A function call that yields a given type. -/
def function (b : Builder) (name : String) (arguments : List (Expr ρ)) (type : LogicalType) :
    Except QueryError (Expr ρ) := do
  return call name arguments (← b.findMapping type)

/-- A conversion; an operand that has the type already is returned as it is. -/
def convert (b : Builder) (operand : Expr ρ) (target : LogicalType) : Except QueryError (Expr ρ) := do
  if operand.type = target then return operand
  return .convert operand (← b.findMapping target)

/-- A constant or parameter under another mapping, where its value has an image in the mapping's type. Every
other expression keeps its own mapping. -/
def retype (e : Expr ρ) (mapping : TypeMapping) : Expr ρ :=
  if e.mapping = mapping then e
  else
    match e with
    | .constant value _ =>
      if value.fits mapping.type then .constant (value.convertedTo mapping.type) mapping else e
    | .parameter ref type _ =>
      if type.widensTo mapping.type then .parameter ref mapping.type mapping else e
    | _ => e

/-! ## Comparisons -/

/-- Refuses operands whose types do not compare. -/
def requireComparable (operation : Operation) (left right : LogicalType) : Except QueryError Unit :=
  if left.comparableWith right then .ok () else .error (.typeMismatch operation left right)

/-- Refuses an operand that is not of the expected type. -/
def requireType (operation : Operation) (expected : LogicalType) (e : Expr ρ) : Except QueryError Unit :=
  if e.type = expected then .ok () else .error (.typeMismatch operation expected e.type)

/-- Where one side of a comparison is a constant or parameter and the other is not, the first takes the
mapping of the second. -/
def alignOperands (left right : Expr ρ) : Expr ρ × Expr ρ :=
  match left.isSupplied, right.isSupplied with
  | true, false => (retype left right.mapping, right)
  | false, true => (left, retype right left.mapping)
  | _, _ => (left, right)

/-- A comparison. -/
def comparison (b : Builder) (op : BinaryOp) (left right : Expr ρ) : Except QueryError (Expr ρ) := do
  requireComparable (.operator op) left.type right.type
  let (left, right) := alignOperands left right
  return .binary op left right b.boolMapping

/-! ## Conditions -/

/-- A connective over two truth values. -/
def logical (b : Builder) (op : BinaryOp) (left right : Expr ρ) : Except QueryError (Expr ρ) := do
  requireType (.operator op) .bool left
  requireType (.operator op) .bool right
  return .binary op left right b.boolMapping

/-- Both conditions. -/
def and (b : Builder) (left right : Expr ρ) : Except QueryError (Expr ρ) :=
  b.logical .and left right

/-- Either condition. -/
def or (b : Builder) (left right : Expr ρ) : Except QueryError (Expr ρ) :=
  b.logical .or left right

/-- The test whether an expression is null. -/
def isNull (b : Builder) (e : Expr ρ) : Expr ρ :=
  .nullTest e false b.boolMapping

/-- The test whether an expression is not null. -/
def isNotNull (b : Builder) (e : Expr ρ) : Expr ρ :=
  .nullTest e true b.boolMapping

/-- The negation of a condition. Truth values, negations and null tests are turned around in place. -/
def not (b : Builder) (operand : Expr ρ) : Except QueryError (Expr ρ) := do
  requireType .negation .bool operand
  match operand with
  | .constant (.bool value) _ => return b.truth (!value)
  | .negation inner _ => return inner
  | .nullTest inner negated _ => return .nullTest inner (!negated) b.boolMapping
  | _ => return .negation operand b.boolMapping

/-! ## Arithmetic -/

/-- A sum or difference, in the wider of the two types. -/
def arithmetic (b : Builder) (op : BinaryOp) (left right : Expr ρ) : Except QueryError (Expr ρ) := do
  unless left.type.isNumeric && right.type.isNumeric do
    throw (.typeMismatch (.operator op) left.type right.type)
  return .binary op left right (← b.findMapping (left.type.wider right.type))

/-- Any binary operator. -/
def binary (b : Builder) (op : BinaryOp) (left right : Expr ρ) : Except QueryError (Expr ρ) :=
  if op.isLogical then b.logical op left right
  else if op.isComparison then b.comparison op left right
  else b.arithmetic op left right

/-! ## Membership and patterns -/

/-- Membership in a list of expressions, each under the mapping of the item. -/
def inList (b : Builder) (item : Expr ρ) (values : List (Expr ρ)) (negated : Bool) :
    Except QueryError (Expr ρ) := do
  values.forM fun value => requireComparable .membership item.type value.type
  return .inList item (values.map fun value => retype value item.mapping) negated b.boolMapping

/-- Membership in a parameter that holds a sequence. -/
def inParameter (b : Builder) (item source : Expr ρ) (negated : Bool) : Except QueryError (Expr ρ) := do
  match source with
  | .parameter _ (.sequence element) _ =>
    requireComparable .membership item.type element
    return .inParameter item source negated b.boolMapping
  | other => throw (.typeMismatch .membership (.sequence item.type) other.type)

/-- A pattern match; the pattern is taken under the mapping of the subject. -/
def like (b : Builder) (subject pattern : Expr ρ) (escape : Option (Expr ρ)) : Except QueryError (Expr ρ) := do
  requireType .pattern .text subject
  requireType .pattern .text pattern
  escape.forM (requireType .pattern .text)
  return .like subject (retype pattern subject.mapping) escape b.boolMapping

end Builder

end SqlShape
