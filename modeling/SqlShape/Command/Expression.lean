import SqlShape.Dialect.Literal
import SqlShape.Error
import SqlShape.Expr.Basic

/-!
# Expressions in a command

An expression is written for a place that wants a condition or a value. SQL Server keeps the two apart: there a
stored boolean is compared with one where a condition is wanted, and a condition is wrapped in a case where a
value is wanted. A constant truth value in the place of a condition is a comparison of numbers in both dialects.

An operand of a binary operator is put into parentheses where it would otherwise be read differently. Sequence
parameters have no written form; they must be expanded before.
-/

namespace SqlShape

/-- What a place in a command wants. -/
inductive Place where
  | condition
  | value
deriving DecidableEq, Repr

/-- Lexemes, or the refusal to write an expression. -/
abbrev Written :=
  Except QueryError (List Lexeme)

namespace Dialect

/-- A truth value in the place of a condition. -/
def truthCondition (value : Bool) : List Lexeme :=
  [.plain (if value then "1 = 1" else "0 = 1")]

/-- The written node of an expression, fitted into a place. -/
def fitted (d : Dialect) (place : Place) (e : Expr String) (node : Written) : Written :=
  match place with
  | .condition =>
    if !e.isCondition && decide (e.type = .bool) then
      match e.truth? with
      | some value => .ok (truthCondition value)
      | none => do
        let lexemes ← node
        return if d.separatesConditions then lexemes ++ [.plain " = CAST(1 AS bit)"] else lexemes
    else node
  | .value =>
    if e.isCondition && d.separatesConditions then do
      return [.plain "CASE WHEN "] ++ (← node) ++ [.plain " THEN CAST(1 AS bit) ELSE CAST(0 AS bit) END"]
    else node

/-- An operand of `parent` that has to stand in parentheses. -/
def needsParentheses (d : Dialect) (e : Expr String) (parent : BinaryOp) (isRight : Bool) (place : Place) : Bool :=
  match e with
  | .binary op _ _ _ =>
    let wrapped := decide (place = .value) && e.isCondition && d.separatesConditions
    !wrapped
      && (decide (op.precedence < parent.precedence)
        || (op.isLogical && parent.isLogical && decide (op ≠ parent))
        || (op.isComparison && parent.isComparison)
        || (isRight && decide (op.precedence = parent.precedence) && !parent.isLogical))
  | _ => false

/-- Lexemes in parentheses. -/
def parenthesized (lexemes : List Lexeme) : List Lexeme :=
  [.plain "("] ++ lexemes ++ [.plain ")"]

/-- The written node of an operand of `parent`, fitted into its place. -/
def operand (d : Dialect) (parent : BinaryOp) (isRight : Bool) (e : Expr String) (node : Written) : Written := do
  let place : Place := if parent.isLogical then .condition else .value
  let lexemes ← d.fitted place e node
  return if d.needsParentheses e parent isRight place then parenthesized lexemes else lexemes

/-- A constant. A double without a literal is refused. -/
def writeConstant (d : Dialect) (value : Value) (mapping : TypeMapping) : Written := do
  if let .double x := value then
    unless x.isFinite do throw (.unrepresentableConstant x.literal)
  return d.literal mapping value

/-- A membership in a list, written from its parts. An empty list has no members. -/
def writeInList (item : Written) (values : Except QueryError (List (List Lexeme))) (isEmpty negated : Bool) :
    Written := do
  if isEmpty then return truthCondition negated
  let item ← item
  let values ← values
  return item ++ [.plain (if negated then " NOT IN (" else " IN (")] ++ Lexeme.commaSeparated values ++ [.plain ")"]

/-- A binary expression. -/
def isBinary : Expr String → Bool
  | .binary _ _ _ _ => true
  | _ => false

mutual
/-- The node of an expression, whatever the place. -/
def node (d : Dialect) : Expr String → Written
  | .constant value mapping => d.writeConstant value mapping
  | .parameter name type _ =>
    if type.isSequence then .error (.unsupportedBinding name .notExpanded) else .ok [.plain ("@" ++ name)]
  | .column table name _ _ => .ok [.identifier table, .plain ".", .identifier name]
  | .function name arguments _ _ => do
    return [.plain (name ++ "(")] ++ Lexeme.commaSeparated (← d.values arguments) ++ [.plain ")"]
  | .binary op left right _ => do
    let l ← d.operand op false left (d.node left)
    let r ← d.operand op true right (d.node right)
    return l ++ [.plain (" " ++ op.symbol ++ " ")] ++ r
  | .negation e _ => do
    return [.plain "NOT ("] ++ (← d.fitted .condition e (d.node e)) ++ [.plain ")"]
  | .nullTest e negated _ => do
    let lexemes ← d.fitted .value e (d.node e)
    return (if isBinary e then parenthesized lexemes else lexemes)
      ++ [.plain (if negated then " IS NOT NULL" else " IS NULL")]
  | .convert e mapping => do
    return [.plain "CAST("] ++ (← d.fitted .value e (d.node e)) ++ [.plain (" AS " ++ mapping.storeType ++ ")")]
  | .inList item values negated _ =>
    writeInList (d.fitted .value item (d.node item)) (d.values values) values.isEmpty negated
  | .inParameter _ source _ _ => .error (.unsupportedBinding (source.ref?.getD "<expression>") .notExpanded)
  | .like subject pattern escape _ => do
    let s ← d.fitted .value subject (d.node subject)
    let p ← d.fitted .value pattern (d.node pattern)
    let e ← d.escapeClause escape
    return s ++ [.plain " LIKE "] ++ p ++ e
/-- Expressions in a row, each as a value. -/
def values (d : Dialect) : List (Expr String) → Except QueryError (List (List Lexeme))
  | [] => .ok []
  | e :: es => do
    let lexemes ← d.fitted .value e (d.node e)
    return lexemes :: (← d.values es)
/-- The escape clause of a pattern match. -/
def escapeClause (d : Dialect) : Option (Expr String) → Written
  | none => .ok []
  | some e => do return [.plain " ESCAPE "] ++ (← d.fitted .value e (d.node e))
end

/-- An expression as a value. -/
def writeValue (d : Dialect) (e : Expr String) : Written :=
  d.fitted .value e (d.node e)

/-- An expression as a condition. -/
def writeCondition (d : Dialect) (e : Expr String) : Written :=
  d.fitted .condition e (d.node e)

end Dialect

end SqlShape
