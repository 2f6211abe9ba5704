import SqlShape.Expr.Basic

/-!
# The nodes of an expression

An expression is met node by node. `Expr.memInduction` is the induction that the other modules use: the operands
in a list or an option are met as members. `Everywhere` says that all nodes of an expression have a property. It
opens one level at a time, at the node and at its `children` (`everywhere_iff`); `refs` opens the same way.
-/

namespace SqlShape.Expr

/-- Induction over expressions, with the operands in a list or an option met as members. -/
@[elab_as_elim, induction_eliminator]
theorem memInduction {ρ : Type} {motive : Expr ρ → Prop}
    (constant : ∀ value mapping, motive (.constant value mapping))
    (parameter : ∀ ref type mapping, motive (.parameter ref type mapping))
    (column : ∀ table name mapping nullable, motive (.column table name mapping nullable))
    (function : ∀ name arguments mapping nullable, (∀ a ∈ arguments, motive a) →
      motive (.function name arguments mapping nullable))
    (binary : ∀ op left right mapping, motive left → motive right → motive (.binary op left right mapping))
    (negation : ∀ operand mapping, motive operand → motive (.negation operand mapping))
    (nullTest : ∀ operand negated mapping, motive operand → motive (.nullTest operand negated mapping))
    (convert : ∀ operand mapping, motive operand → motive (.convert operand mapping))
    (inList : ∀ item values negated mapping, motive item → (∀ v ∈ values, motive v) →
      motive (.inList item values negated mapping))
    (inParameter : ∀ item source negated mapping, motive item → motive source →
      motive (.inParameter item source negated mapping))
    (like : ∀ subject pattern escape mapping, motive subject → motive pattern →
      (∀ e ∈ escape, motive e) → motive (.like subject pattern escape mapping))
    (e : Expr ρ) : motive e := by
  refine @Expr.rec ρ motive (fun es => ∀ e ∈ es, motive e) (fun o => ∀ e ∈ o, motive e)
    constant parameter column function binary negation nullTest convert inList inParameter like
    ?_ ?_ ?_ ?_ e
  · intro e member
    cases member
  · intro head tail first rest e member
    rcases List.mem_cons.mp member with rfl | later
    · exact first
    · exact rest e later
  · intro e member
    cases member
  · intro e here e' member
    cases member
    exact here

variable {ρ : Type}

/-- The nodes of expressions in a row. -/
theorem nodesList_eq_flatMap (es : List (Expr ρ)) : nodesList es = es.flatMap nodes := by
  induction es with
  | nil => rfl
  | cons e es rest => rw [nodesList, rest, List.flatMap_cons]

/-- The nodes of an expression that may be absent. -/
theorem nodesOption_eq_flatMap (o : Option (Expr ρ)) : nodesOption o = o.toList.flatMap nodes := by
  cases o with
  | none => rfl
  | some e => rw [nodesOption, Option.toList_some, List.flatMap_singleton]

/-- The expressions right below a node, in the order of `nodes`. -/
def children : Expr ρ → List (Expr ρ)
  | constant _ _ | parameter _ _ _ | column _ _ _ _ => []
  | function _ es _ _ => es
  | binary _ l r _ | inParameter l r _ _ => [l, r]
  | negation e _ | nullTest e _ _ | convert e _ => [e]
  | inList e es _ _ => e :: es
  | like s p o _ => s :: p :: o.toList

/-- The nodes of an expression are itself and those of its children. -/
theorem nodes_eq_cons (e : Expr ρ) : e.nodes = e :: e.children.flatMap nodes := by
  cases e with
  | constant | parameter | column => rfl
  | function name es m b => exact congrArg _ (nodesList_eq_flatMap es)
  | binary op l r m => rw [children, List.flatMap_cons, List.flatMap_singleton, nodes]
  | inParameter e s b m => rw [children, List.flatMap_cons, List.flatMap_singleton, nodes]
  | negation e m | nullTest e b m | convert e m => rw [children, List.flatMap_singleton, nodes]
  | inList e es b m => rw [children, List.flatMap_cons, nodes, nodesList_eq_flatMap]
  | like s p o m =>
    rw [children, List.flatMap_cons, List.flatMap_cons, nodes, nodesOption_eq_flatMap, List.append_assoc]

/-- Induction with the children of a node met alike. -/
theorem childInduction {motive : Expr ρ → Prop} (step : ∀ e, (∀ x ∈ e.children, motive x) → motive e) (e : Expr ρ) :
    motive e := by
  induction e with
  | constant | parameter | column => exact step _ (List.forall_mem_nil _)
  | function name es m b each => exact step _ each
  | binary op l r m first second | inParameter l r b m first second =>
    exact step _ (List.forall_mem_cons.mpr ⟨first, List.forall_mem_singleton.mpr second⟩)
  | negation e m below | nullTest e b m below | convert e m below =>
    exact step _ (List.forall_mem_singleton.mpr below)
  | inList e es b m first each => exact step _ (List.forall_mem_cons.mpr ⟨first, each⟩)
  | like s p o m first second third =>
    refine step _ (List.forall_mem_cons.mpr ⟨first, List.forall_mem_cons.mpr ⟨second, fun e member => ?_⟩⟩)
    exact third e (Option.mem_toList.mp member)

/-- The nodes of a node are nodes of the expression. -/
theorem nodes_subset {n e : Expr ρ} (member : n ∈ e.nodes) : n.nodes ⊆ e.nodes := by
  induction e using childInduction with
  | step e below =>
    rw [nodes_eq_cons e] at member ⊢
    rcases List.mem_cons.mp member with rfl | inside
    · rw [nodes_eq_cons]
      exact List.Subset.refl _
    · obtain ⟨x, child, here⟩ := List.mem_flatMap.mp inside
      refine List.Subset.trans (below x child here) fun y found => List.mem_cons_of_mem e ?_
      exact List.mem_flatMap.mpr ⟨x, child, found⟩

/-! ## References -/

/-- What is no parameter refers to what its children refer to. -/
theorem refs_eq_flatMap {e : Expr ρ} (none : e.ref? = none) : e.refs = e.children.flatMap refs := by
  unfold refs
  rw [nodes_eq_cons, List.filterMap_cons_none none, List.filterMap_flatMap]

section Refs

variable (op : BinaryOp) (l r e s p : Expr ρ) (es : List (Expr ρ)) (o : Option (Expr ρ)) (m : TypeMapping)
  (name : String) (b : Bool)

@[simp]
theorem refs_constant (v : Value) : (constant v m : Expr ρ).refs = [] :=
  rfl

@[simp]
theorem refs_column (table : String) : (column table name m b : Expr ρ).refs = [] :=
  rfl

/-- The one node with a reference of its own. -/
@[simp]
theorem refs_parameter (ref : ρ) (t : LogicalType) : (parameter ref t m).refs = [ref] :=
  rfl

/-- The references of arguments come in their order. -/
@[simp]
theorem refs_function : (function name es m b).refs = es.flatMap refs :=
  refs_eq_flatMap rfl

/-- The references of the left side come first. -/
@[simp]
theorem refs_binary : (binary op l r m).refs = l.refs ++ r.refs := by
  rw [refs_eq_flatMap rfl, children, List.flatMap_cons, List.flatMap_singleton]

@[simp]
theorem refs_negation : (negation e m).refs = e.refs := by
  rw [refs_eq_flatMap rfl, children, List.flatMap_singleton]

@[simp]
theorem refs_nullTest : (nullTest e b m).refs = e.refs := by
  rw [refs_eq_flatMap rfl, children, List.flatMap_singleton]

@[simp]
theorem refs_convert : (convert e m).refs = e.refs := by
  rw [refs_eq_flatMap rfl, children, List.flatMap_singleton]

/-- The references of the item come before those of the elements. -/
@[simp]
theorem refs_inList : (inList e es b m).refs = e.refs ++ es.flatMap refs := by
  rw [refs_eq_flatMap rfl, children, List.flatMap_cons]

/-- The references of the item come before those of the source. -/
@[simp]
theorem refs_inParameter : (inParameter e s b m).refs = e.refs ++ s.refs := by
  rw [refs_eq_flatMap rfl, children, List.flatMap_cons, List.flatMap_singleton]

/-- The references of the escape come last. -/
@[simp]
theorem refs_like : (like s p o m).refs = s.refs ++ p.refs ++ o.toList.flatMap refs := by
  rw [refs_eq_flatMap rfl, children, List.flatMap_cons, List.flatMap_cons, List.append_assoc]

end Refs

/-! ## Properties of all nodes -/

/-- All nodes of an expression have a property. -/
def Everywhere (P : Expr ρ → Prop) (e : Expr ρ) : Prop :=
  ∀ n ∈ e.nodes, P n

instance (P : Expr ρ → Prop) [DecidablePred P] (e : Expr ρ) : Decidable (e.Everywhere P) :=
  inferInstanceAs (Decidable (∀ n ∈ e.nodes, P n))

section Everywhere

variable {P : Expr ρ → Prop} {op : BinaryOp} {l r e s p : Expr ρ} {es : List (Expr ρ)} {o : Option (Expr ρ)}
  {m : TypeMapping} {name : String} {b : Bool}

/-- A property holds everywhere in an expression if it holds of it and everywhere in its children. -/
theorem everywhere_iff : e.Everywhere P ↔ P e ∧ ∀ x ∈ e.children, x.Everywhere P := by
  unfold Everywhere
  rw [nodes_eq_cons, List.forall_mem_cons, List.forall_mem_flatMap]

theorem everywhere_constant {v : Value} : (constant v m : Expr ρ).Everywhere P ↔ P (constant v m) :=
  List.forall_mem_singleton

theorem everywhere_parameter {ref : ρ} {t : LogicalType} :
    (parameter ref t m).Everywhere P ↔ P (parameter ref t m) :=
  List.forall_mem_singleton

theorem everywhere_column {table : String} :
    (column table name m b : Expr ρ).Everywhere P ↔ P (column table name m b) :=
  List.forall_mem_singleton

/-- A property holds throughout a call where it holds of the call and throughout its arguments. -/
theorem everywhere_function :
    (function name es m b).Everywhere P ↔ P (function name es m b) ∧ ∀ e ∈ es, e.Everywhere P :=
  everywhere_iff

/-- A property holds throughout a binary node where it holds of the node and throughout its sides. -/
theorem everywhere_binary : (binary op l r m).Everywhere P ↔
    P (binary op l r m) ∧ l.Everywhere P ∧ r.Everywhere P := by
  rw [everywhere_iff, children, List.forall_mem_cons, List.forall_mem_singleton]

theorem everywhere_negation : (negation e m).Everywhere P ↔ P (negation e m) ∧ e.Everywhere P := by
  rw [everywhere_iff, children, List.forall_mem_singleton]

theorem everywhere_nullTest : (nullTest e b m).Everywhere P ↔ P (nullTest e b m) ∧ e.Everywhere P := by
  rw [everywhere_iff, children, List.forall_mem_singleton]

theorem everywhere_convert : (convert e m).Everywhere P ↔ P (convert e m) ∧ e.Everywhere P := by
  rw [everywhere_iff, children, List.forall_mem_singleton]

/-- A property holds throughout a list where it holds of the list, its item and its elements. -/
theorem everywhere_inList : (inList e es b m).Everywhere P ↔
    P (inList e es b m) ∧ e.Everywhere P ∧ ∀ v ∈ es, v.Everywhere P := by
  rw [everywhere_iff, children, List.forall_mem_cons]

/-- A property holds throughout a membership where it holds of the node, its item and its source. -/
theorem everywhere_inParameter : (inParameter e s b m).Everywhere P ↔
    P (inParameter e s b m) ∧ e.Everywhere P ∧ s.Everywhere P := by
  rw [everywhere_iff, children, List.forall_mem_cons, List.forall_mem_singleton]

/-- A property holds throughout a pattern match where it holds of the node and its operands, if they are there. -/
theorem everywhere_like : (like s p o m).Everywhere P ↔
    P (like s p o m) ∧ s.Everywhere P ∧ p.Everywhere P ∧ ∀ e ∈ o, e.Everywhere P := by
  simp only [@everywhere_iff _ _ (like s p o m), children, List.forall_mem_cons, Option.mem_toList, Option.mem_def]

/-- An expression with a property everywhere has it itself. -/
theorem Everywhere.here (all : e.Everywhere P) : P e :=
  (everywhere_iff.mp all).1

/-- What holds everywhere in an expression holds everywhere in its nodes. -/
theorem Everywhere.of_mem {n : Expr ρ} (all : e.Everywhere P) (member : n ∈ e.nodes) : n.Everywhere P :=
  fun x inside => all x (nodes_subset member inside)

end Everywhere

end SqlShape.Expr
