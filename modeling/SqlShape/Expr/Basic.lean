import SqlShape.TypeMapping
import SqlShape.Operator
import SqlShape.Value.Basic

/-!
# SQL expressions

The tree between a query and its text. Every node carries the store type of what it yields. The tree is
parametric in `ρ`, what a parameter leaf refers to: a name in a lowered query, a slot while placeholders are
being gathered, and the final placeholder name afterwards. A parameter leaf carries its own logical type
beside the mapping, since a parameter that holds a sequence is mapped by its element.
-/

namespace SqlShape

/-- An SQL expression whose parameters refer to `ρ`. -/
inductive Expr (ρ : Type) where
  | constant (value : Value) (mapping : TypeMapping)
  | parameter (ref : ρ) (type : LogicalType) (mapping : TypeMapping)
  | column (table name : String) (mapping : TypeMapping) (nullable : Bool)
  | function (name : String) (arguments : List (Expr ρ)) (mapping : TypeMapping) (nullable : Bool)
  | binary (op : BinaryOp) (left right : Expr ρ) (mapping : TypeMapping)
  | negation (operand : Expr ρ) (mapping : TypeMapping)
  | nullTest (operand : Expr ρ) (negated : Bool) (mapping : TypeMapping)
  | convert (operand : Expr ρ) (mapping : TypeMapping)
  | inList (item : Expr ρ) (values : List (Expr ρ)) (negated : Bool) (mapping : TypeMapping)
  | inParameter (item source : Expr ρ) (negated : Bool) (mapping : TypeMapping)
  | like (subject pattern : Expr ρ) (escape : Option (Expr ρ)) (mapping : TypeMapping)
deriving Repr

namespace Expr

variable {ρ σ : Type}

/-- The store type of what the expression yields. -/
def mapping : Expr ρ → TypeMapping
  | constant _ m | parameter _ _ m | column _ _ m _ | function _ _ m _ | binary _ _ _ m | negation _ m
  | nullTest _ _ m | convert _ m | inList _ _ _ m | inParameter _ _ _ m | like _ _ _ m => m

/-- The logical type of what the expression yields. -/
def type : Expr ρ → LogicalType
  | parameter _ t _ => t
  | e => e.mapping.type

/-- The value of a constant. -/
def constant? : Expr ρ → Option Value
  | constant v _ => some v
  | _ => none

/-- The truth value of a boolean constant. -/
def truth? : Expr ρ → Option Bool
  | constant (.bool b) _ => some b
  | _ => none

/-- What a parameter leaf refers to. -/
def ref? : Expr ρ → Option ρ
  | parameter r _ _ => some r
  | _ => none

/-- A constant or a parameter: a leaf that takes the mapping of what it is compared with. -/
def isSupplied : Expr ρ → Bool
  | constant _ _ | parameter _ _ _ => true
  | _ => false

/-- Yields a truth value by a predicate or a connective, not as a stored boolean. -/
def isCondition : Expr ρ → Bool
  | binary op _ _ _ => op.isComparison || op.isLogical
  | negation _ _ | nullTest _ _ _ | inList _ _ _ _ | inParameter _ _ _ _ | like _ _ _ _ => true
  | _ => false

mutual
/-- The expression and everything below it, each node before its children. -/
def nodes : Expr ρ → List (Expr ρ)
  | constant v m => [constant v m]
  | parameter r t m => [parameter r t m]
  | column t n m b => [column t n m b]
  | function n as m b => function n as m b :: nodesList as
  | binary op l r m => binary op l r m :: (l.nodes ++ r.nodes)
  | negation e m => negation e m :: e.nodes
  | nullTest e b m => nullTest e b m :: e.nodes
  | convert e m => convert e m :: e.nodes
  | inList e vs b m => inList e vs b m :: (e.nodes ++ nodesList vs)
  | inParameter e s b m => inParameter e s b m :: (e.nodes ++ s.nodes)
  | like s p e m => like s p e m :: (s.nodes ++ p.nodes ++ nodesOption e)
/-- The nodes of expressions in a row. -/
def nodesList : List (Expr ρ) → List (Expr ρ)
  | [] => []
  | e :: es => e.nodes ++ nodesList es
/-- The nodes of an expression that may be absent. -/
def nodesOption : Option (Expr ρ) → List (Expr ρ)
  | none => []
  | some e => e.nodes
end

/-- What the parameters refer to, in the order of `nodes`, with repetitions. -/
def refs (e : Expr ρ) : List ρ :=
  e.nodes.filterMap ref?

mutual
/-- The expression with other references in its parameters. -/
def mapRef (f : ρ → σ) : Expr ρ → Expr σ
  | constant v m => constant v m
  | parameter r t m => parameter (f r) t m
  | column t n m b => column t n m b
  | function n as m b => function n (mapRefList f as) m b
  | binary op l r m => binary op (l.mapRef f) (r.mapRef f) m
  | negation e m => negation (e.mapRef f) m
  | nullTest e b m => nullTest (e.mapRef f) b m
  | convert e m => convert (e.mapRef f) m
  | inList e vs b m => inList (e.mapRef f) (mapRefList f vs) b m
  | inParameter e s b m => inParameter (e.mapRef f) (s.mapRef f) b m
  | like s p e m => like (s.mapRef f) (p.mapRef f) (mapRefOption f e) m
/-- `mapRef` on expressions in a row. -/
def mapRefList (f : ρ → σ) : List (Expr ρ) → List (Expr σ)
  | [] => []
  | e :: es => e.mapRef f :: mapRefList f es
/-- `mapRef` on an expression that may be absent. -/
def mapRefOption (f : ρ → σ) : Option (Expr ρ) → Option (Expr σ)
  | none => none
  | some e => some (e.mapRef f)
end

end Expr

end SqlShape
