import SqlShape.Builder
import SqlShape.Query.Method

/-!
# Rules for method calls

A rule says which methods it knows and lowers a call to SQL. It may decline a call, which is no refusal: the
next rule is asked. A refusal ends the search.

Rules are tried from the highest priority to the lowest, and among equal priorities in the order in which they
were registered. `MethodRules.register` keeps the list in that order by putting a rule behind every rule of the
same or a higher priority.
-/

namespace SqlShape

/-- A call whose receiver and arguments are lowered already. -/
structure MethodCall where
  receiver : Option (Expr String)
  method : MethodId
  arguments : List (Expr String)

namespace MethodCall

/-- The refusal of a call. -/
def invalid {α : Type} (c : MethodCall) (fault : CallFault) : Except QueryError α :=
  .error (.invalidCall c.method.describe fault)

/-- Refuses a call without exactly `expected` arguments. -/
def requireArguments (c : MethodCall) (expected : Nat) : Except QueryError Unit :=
  if c.arguments.length = expected then .ok ()
  else c.invalid (.argumentCount expected c.arguments.length)

/-- The only argument. -/
def oneArgument (c : MethodCall) : Except QueryError (Expr String) :=
  match c.arguments with
  | [a] => .ok a
  | as => c.invalid (.argumentCount 1 as.length)

/-- Both arguments. -/
def twoArguments (c : MethodCall) : Except QueryError (Expr String × Expr String) :=
  match c.arguments with
  | [a, b] => .ok (a, b)
  | as => c.invalid (.argumentCount 2 as.length)

/-- The receiver of a call that needs one. -/
def requireReceiver (c : MethodCall) : Except QueryError (Expr String) :=
  match c.receiver with
  | some e => .ok e
  | none => c.invalid .noReceiver

end MethodCall

/-- A way to lower the calls of some methods. -/
structure MethodRule where
  name : String
  priority : Nat
  accepts : MethodId → Bool
  apply : Builder → MethodCall → Except QueryError (Option (Expr String))

/-- The priority of a rule that states none. -/
def MethodRule.defaultPriority : Nat :=
  50

/-- Rules in the order in which they are tried. -/
structure MethodRules where
  trial : List MethodRule

namespace MethodRules

/-- No rules. -/
def empty : MethodRules :=
  ⟨[]⟩

/-- The list with a rule put behind every rule of the same or a higher priority. -/
def insertRule (rule : MethodRule) : List MethodRule → List MethodRule
  | [] => [rule]
  | r :: rest => if rule.priority ≤ r.priority then r :: insertRule rule rest else rule :: r :: rest

/-- Adds a rule. -/
def register (rules : MethodRules) (rule : MethodRule) : MethodRules :=
  ⟨insertRule rule rules.trial⟩

/-- Adds rules in a row. -/
def registerAll (rules : MethodRules) (added : List MethodRule) : MethodRules :=
  added.foldl register rules

/-- Starts anew from rules that are there: theirs in trial order and then the added ones, all registered in a row. -/
def rebuilt (rules : MethodRules) (added : List MethodRule) : MethodRules :=
  empty.registerAll (rules.trial ++ added)

/-- The names of the rules in trial order. -/
def names (rules : MethodRules) : List String :=
  rules.trial.map MethodRule.name

/-- The outcome of the first rule in a list that accepts the method and does not decline the call. -/
def firstOutcome (b : Builder) (c : MethodCall) : List MethodRule → Except QueryError (Option (Expr String))
  | [] => .ok none
  | r :: rest =>
    if r.accepts c.method then
      match r.apply b c with
      | .ok none => firstOutcome b c rest
      | outcome => outcome
    else firstOutcome b c rest

/-- Lowers a call by the first rule that does not decline it; `none` where all decline. -/
def lower (rules : MethodRules) (b : Builder) (c : MethodCall) : Except QueryError (Option (Expr String)) :=
  firstOutcome b c rules.trial

end MethodRules

end SqlShape
