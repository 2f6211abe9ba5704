import SqlShape.Operator
import SqlShape.TypeMapping

/-!
# Refusals

Why a query could not be compiled. Each refusal is a cause with its data; `QueryError.message` alone knows the
words. An operation that found two types apart, a bound value of the wrong shape and a call that contradicts
its own method are causes of their own.
-/

namespace SqlShape

/-- What was being done when two types did not go together. -/
inductive Operation where
  | operator (op : BinaryOp)
  | negation
  | membership
  | pattern
  | filter
  | limit
  | constant
  | binding (parameter : String)
deriving DecidableEq, Repr

namespace Operation

/-- The operation as messages name it. -/
def describe : Operation → String
  | operator op => op.symbol
  | negation => "NOT"
  | membership => "IN"
  | pattern => "LIKE"
  | filter => "WHERE"
  | limit => "LIMIT"
  | constant => "constant"
  | binding parameter => "binding of '" ++ parameter ++ "'"

end Operation

/-- What is wrong with the value bound to a parameter, or with the place of the parameter. -/
inductive BindingFault where
  | listForScalar
  | notAList
  | nestedElement (index : Nat)
  | elementType (index : Nat) (expected : LogicalType)
  | noElement (index : Nat)
  | outsideMembership
  | notExpanded
deriving DecidableEq, Repr

namespace BindingFault

/-- The words for a fault. -/
def message : BindingFault → String
  | listForScalar => "a list cannot be bound to a scalar parameter"
  | notAList => "a sequence parameter must be bound to a list"
  | nestedElement index => "element " ++ toString index ++ " is a nested list"
  | elementType index expected =>
    "element " ++ toString index ++ " does not match the sequence element type " ++ expected.name
  | noElement index => "no element " ++ toString index ++ " in the bound sequence"
  | outsideMembership => "sequence parameter used outside of a membership test"
  | notExpanded => "sequence parameter must be expanded before rendering"

end BindingFault

/-- How a call contradicts its method. -/
inductive CallFault where
  | argumentCount (expected got : Nat)
  | substringArguments (got : Nat)
  | noReceiver
  | missingOperand
  | byteSearch (element : LogicalType)
  | constantTooLong
  | stated (text : String)
deriving DecidableEq, Repr

namespace CallFault

/-- The words for a fault. -/
def message : CallFault → String
  | argumentCount expected got => "expected " ++ toString expected ++ " argument(s), got " ++ toString got
  | substringArguments got => "expected 1 or 2 arguments, got " ++ toString got
  | noReceiver => "instance method called without a receiver"
  | missingOperand => "missing operand"
  | byteSearch element => "byte sequence searched for a " ++ element.name
  | constantTooLong => "byte constant longer than i32::MAX"
  | stated text => text

end CallFault

/-- Why a query could not be compiled. -/
inductive QueryError where
  | unmappableType (type : LogicalType) (provider : String)
  | unknownType (what : String)
  | unrepresentableConstant (value : String)
  | typeMismatch (operation : Operation) (left right : LogicalType)
  | unsupportedBinding (parameter : String) (fault : BindingFault)
  | invalidCall (method : String) (fault : CallFault)
  | noSqlForm (expression : String)
  | missingParameter (name : String)
  | invalidConfiguration (reason : String)
deriving DecidableEq, Repr

namespace QueryError

/-- The words for a refusal. -/
def message : QueryError → String
  | unmappableType type provider => "No type mapping for " ++ type.name ++ " in provider '" ++ provider ++ "'"
  | unknownType what => "Cannot infer a logical type for " ++ what
  | unrepresentableConstant value => "Constant " ++ value ++ " cannot be written as a SQL literal"
  | typeMismatch operation left right =>
    "Type mismatch in " ++ operation.describe ++ ": " ++ left.name ++ " vs " ++ right.name
  | unsupportedBinding parameter fault =>
    "Unsupported value shape for parameter '" ++ parameter ++ "': " ++ fault.message
  | invalidCall method fault => "Invalid call to " ++ method ++ ": " ++ fault.message
  | noSqlForm expression => "Expression could not be translated: " ++ expression
  | missingParameter name => "No value bound for parameter '" ++ name ++ "'"
  | invalidConfiguration reason => "Invalid configuration: " ++ reason

end QueryError

end SqlShape
