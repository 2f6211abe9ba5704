import SqlShape.Command.Statement
import SqlShape.Proofs.Structural

/-!
# Which statements can be written

A statement has a written form unless a sequence is left in it or a constant has no literal. Specializing leaves no
sequence: a membership in a parameter is expanded, and every other parameter that is left is a scalar
(`Select.specialize_expanded`). So of what was specialized only a constant can be refused when it is written
(`Dialect.commandText_refusedOnly`), and specializing brings in no constants but truth values
(`Select.specialize_constants`): it is a double of the lowered statement that is not finite. Lowering refuses such
doubles where they are stated, but computes one where the rounding of a large number overflows.
-/

namespace SqlShape

namespace Expr

/-- A node without a sequence that is still to be expanded. -/
def IsExpanded {ρ : Type} : Expr ρ → Prop
  | parameter _ t _ => t.isSequence = false
  | inParameter _ _ _ _ => False
  | _ => True

/-- A node that is written, or is a constant whose refusal is of some kind. -/
def Writes (P : QueryError → Prop) : Expr String → Prop
  | constant (.double x) _ => x.isFinite = false → P (.unrepresentableConstant x.literal)
  | e => e.IsExpanded

/-- A constant has a property. -/
def ConstantIs {ρ : Type} (P : Value → TypeMapping → Prop) : Expr ρ → Prop
  | constant value m => P value m
  | _ => True

theorem IsExpanded.writes {P : QueryError → Prop} {e : Expr String} (expanded : e.IsExpanded)
    (allowed : ∀ x m, e = .constant (.double x) m → x.isFinite = false → P (.unrepresentableConstant x.literal)) :
    e.Writes P := by
  cases e with
  | constant value m =>
    cases value with
    | double x => exact allowed x m rfl
    | _ => trivial
  | _ => exact expanded

end Expr

/-! ## Writing -/

namespace Dialect

open RefusedOnly (ok error)

variable {P : QueryError → Prop} (d : Dialect)

theorem fitted_refusedOnly (place : Place) (e : Expr String) {node : Written} (written : RefusedOnly P node) :
    RefusedOnly P (d.fitted place e node) := by
  unfold fitted
  split
  · split
    · split
      · exact ok _
      · exact written.bind fun _ _ => ok _
    · exact written
  · split
    · exact written.bind fun _ _ => ok _
    · exact written

theorem values_refusedOnly {es : List (Expr String)} (each : ∀ e ∈ es, RefusedOnly P (d.node e)) :
    RefusedOnly P (d.values es) := by
  induction es with
  | nil => exact ok []
  | cons e es later =>
    obtain ⟨here, others⟩ := List.forall_mem_cons.mp each
    rw [values]
    exact (d.fitted_refusedOnly .value e here).bind fun _ _ => (later others).bind fun _ _ => ok _

/-- An expression of nodes that are written is refused only for its constants. -/
theorem node_refusedOnly {e : Expr String} (writes : e.Everywhere (Expr.Writes P)) : RefusedOnly P (d.node e) := by
  have fitted (place : Place) (e : Expr String) (written : RefusedOnly P (d.node e)) :
      RefusedOnly P (d.fitted place e (d.node e)) := d.fitted_refusedOnly place e written
  induction e with
  | constant value m =>
    have here := writes.here
    rw [node]
    cases value with
    | double x =>
      unfold writeConstant
      dsimp only
      split
      · exact ok _
      next infinite => exact error (here (Bool.not_eq_true _ ▸ infinite))
    | _ => exact ok _
  | parameter name t m =>
    have scalar : t.isSequence = false := writes.here
    rw [node, scalar]
    exact ok _
  | column table name m nullable => exact ok _
  | function name es m nullable each =>
    rw [node]
    refine (d.values_refusedOnly fun e member => ?_).bind fun _ _ => ok _
    exact each e member ((Expr.everywhere_function.mp writes).2 e member)
  | binary op l r m first second =>
    obtain ⟨-, left, right⟩ := Expr.everywhere_binary.mp writes
    rw [node]
    refine RefusedOnly.bind ?_ fun _ _ => RefusedOnly.bind ?_ fun _ _ => ok _
    · exact (fitted _ l (first left)).bind fun _ _ => ok _
    · exact (fitted _ r (second right)).bind fun _ _ => ok _
  | negation e m below | nullTest e negated m below | convert e m below =>
    rw [node]
    refine (fitted _ e (below fun x member => writes x ?_)).bind fun _ _ => ok _
    exact List.mem_cons_of_mem _ member
  | inList item es negated m first each =>
    obtain ⟨-, left, right⟩ := Expr.everywhere_inList.mp writes
    rw [node]
    unfold writeInList
    split
    · exact ok _
    · refine (fitted .value item (first left)).bind fun _ _ => RefusedOnly.bind ?_ fun _ _ => ok _
      exact d.values_refusedOnly fun e member => each e member (right e member)
  | inParameter item source negated m first second => exact writes.here.elim
  | like subject pattern escape m first second third =>
    obtain ⟨-, left, right, last⟩ := Expr.everywhere_like.mp writes
    have escaped : RefusedOnly P (d.escapeClause escape) := by
      cases escape with
      | none => exact ok _
      | some e =>
        rw [escapeClause]
        exact (fitted .value e (third e rfl (last e rfl))).bind fun _ _ => ok _
    rw [node]
    exact (fitted .value subject (first left)).bind fun _ _ =>
      (fitted .value pattern (second right)).bind fun _ _ => escaped.bind fun _ _ => ok _

/-- A statement of nodes that are written is refused only for its constants. -/
theorem commandText_refusedOnly {s : Select String} (writes : ∀ e ∈ s.expressions, e.Everywhere (Expr.Writes P)) :
    RefusedOnly P (d.commandText s) := by
  have value : ∀ e ∈ s.expressions, RefusedOnly P (d.writeValue e) := fun e member =>
    d.fitted_refusedOnly .value e (d.node_refusedOnly (writes e member))
  have limit : ∀ e ∈ s.limit, RefusedOnly P (d.writeValue e) := fun e present =>
    value e (Select.mem_expressions.mpr (.inr (.inr (.inr present))))
  have top : RefusedOnly P (d.topClause s) := by
    unfold topClause
    split
    next e present => exact (limit e present).bind fun _ _ => ok _
    next => exact ok _
  have projections : RefusedOnly P (d.projections s) := by
    unfold Dialect.projections
    split
    · exact ok _
    · refine (RefusedOnly.mapM fun p member => ?_).bind fun _ _ => ok _
      exact (value p.expr (Select.mem_expressions.mpr (.inl ⟨p, member, rfl⟩))).bind fun _ _ => ok _
  have condition : RefusedOnly P (d.whereClause s) := by
    unfold whereClause
    split
    next e present =>
      refine (d.fitted_refusedOnly .condition e (d.node_refusedOnly (writes e ?_))).bind fun _ _ => ok _
      exact Select.mem_expressions.mpr (.inr (.inl present))
    next => exact ok _
  have order : RefusedOnly P (d.orderClause s) := by
    unfold orderClause
    split
    · exact ok _
    · refine (RefusedOnly.mapM fun k member => ?_).bind fun _ _ => ok _
      exact (value k.expr (Select.mem_expressions.mpr (.inr (.inr (.inl ⟨k, member, rfl⟩))))).bind fun _ _ => ok _
  have bottom : RefusedOnly P (d.limitClause s) := by
    unfold limitClause
    split
    next e present => exact (limit e present).bind fun _ _ => ok _
    next => exact ok _
  refine RefusedOnly.bind ?_ fun _ _ => ok _
  exact top.bind fun _ _ => projections.bind fun _ _ => condition.bind fun _ _ => order.bind fun _ _ =>
    bottom.bind fun _ _ => ok _

end Dialect

/-! ## Specialized statements -/

/-- A well-typed leaf whose type is that of its mapping is a scalar, so no sequence is left. -/
theorem Expr.isExpanded_of_placed {S : List Slot} {names : List String} {x : Expr Slot} (typed : x.WellTyped)
    (placed : x.Everywhere (Expr.Placed S names)) : x.Everywhere IsExpanded := by
  intro n member
  cases n with
  | parameter slot t m =>
    obtain ⟨-, -, (same : t = m.type), -⟩ := placed _ member
    exact same ▸ (typed _ member).1
  | inParameter item source negated m =>
    obtain ⟨-, ⟨slot, element, sm, rfl, -⟩, -⟩ := typed _ member
    -- The leaf of a sequence has another type than its mapping.
    have leaf := (Expr.everywhere_inParameter.mp (placed.of_mem member)).2.2.here
    have scalar := (Expr.everywhere_inParameter.mp (Everywhere.of_mem typed member)).2.2.here.1
    obtain ⟨-, -, (same : .sequence element = sm.type), -⟩ := leaf
    change sm.type.isSequence = false at scalar
    rw [← same] at scalar
    cases scalar
  | _ => trivial

/-- What comes out of an expression has the constants of the expression and truth values. -/
theorem Specialization.Outcome.constants {b : Builder} {S : List Slot} {P : Value → TypeMapping → Prop}
    {e : Expr String} {x : Expr Slot} (truth : ∀ value, P (.bool value) b.boolMapping) (found : Outcome b S e x)
    (all : e.Everywhere (Expr.ConstantIs P)) : x.Everywhere (Expr.ConstantIs P) := by
  have carries : Carries b S (Expr.ConstantIs P) (Expr.ConstantIs P) := by
    constructor
    case constant => exact id
    case truth => exact truth
    case other =>
      intro x other
      cases x with
      | constant => cases other
      | _ => trivial
    all_goals
      intros
      trivial
  exact found.everywhere carries all

namespace Select

variable {d : Dialect} {b : Builder} {s : Select String} {options : SpecializationOptions} {v : Bindings}

/-- No sequence is left in a specialized statement. -/
theorem specialize_expanded (serves : b.Serves d) (typed : ∀ e ∈ s.expressions, e.WellTypedIn d)
    {outcome : Specialized} (run : s.specialize b options v = .ok outcome) :
    ∀ e ∈ outcome.select.expressions, e.Everywhere Expr.IsExpanded := by
  obtain ⟨t, progress, found, -, rfl⟩ := Specialization.specialize_outcome run
  intro e member
  obtain ⟨x, inside, f, rfl⟩ := exists_mapRef_of_mem_outcomeOf member
  obtain ⟨e, inside', comes⟩ := found.exists_mem inside
  have expanded := Expr.isExpanded_of_placed (comes.wellTypedIn serves (typed e inside')).1.wellTyped
    (comes.placed (List.Subset.refl _))
  refine Expr.everywhere_mapRef.mpr fun n node => ?_
  have here := expanded n node
  cases n with
  | parameter | inParameter => exact here
  | _ => trivial

/-- A specialized statement has the constants of the statement and truth values. -/
theorem specialize_constants {P : Value → TypeMapping → Prop} (truth : ∀ value, P (.bool value) b.boolMapping)
    (all : ∀ e ∈ s.expressions, e.Everywhere (Expr.ConstantIs P)) {outcome : Specialized}
    (run : s.specialize b options v = .ok outcome) :
    ∀ e ∈ outcome.select.expressions, e.Everywhere (Expr.ConstantIs P) := by
  obtain ⟨t, progress, found, -, rfl⟩ := Specialization.specialize_outcome run
  intro e member
  obtain ⟨x, inside, f, rfl⟩ := exists_mapRef_of_mem_outcomeOf member
  obtain ⟨e, inside', comes⟩ := found.exists_mem inside
  refine Expr.everywhere_mapRef.mpr fun n node => ?_
  have here := comes.constants truth (all e inside') n node
  cases n with
  | constant => exact here
  | _ => trivial

end Select

namespace Lowering

/-- No sequence is left in a lowered statement that was specialized, at any depth: no membership in a parameter, and no
parameter that holds a sequence. So it is written, unless a double of the lowered statement is not finite and so has no
literal; nothing else is refused. -/
theorem specialized_writes {d : Dialect} {l : Lowering} (made : d.lowering = .ok l) {shape : Shape}
    {s : Select String} (lowered : l.lowerShape shape = .ok s) (options : SpecializationOptions) (v : Bindings)
    {outcome : Specialized} (run : s.specialize l.builder options v = .ok outcome) :
    (∀ e ∈ outcome.select.expressions,
      (∀ item source negated m, .inParameter item source negated m ∉ e.nodes) ∧
      ∀ name t m, .parameter name t m ∈ e.nodes → t.isSequence = false) ∧
    ∀ refusal, d.commandText outcome.select = .error refusal → ∃ x m, refusal = .unrepresentableConstant x.literal ∧
      x.isFinite = false ∧ ∃ e ∈ s.expressions, .constant (.double x) m ∈ e.nodes := by
  have serves := serves_lowering made
  have native := lowerShape_native serves lowered
  have expanded := Select.specialize_expanded serves.builder
    (fun e inside => (native.expressions e inside).wellTypedIn) run
  have constants := Select.specialize_constants
    (P := fun value m => ∀ x, value = .double x → ∃ e ∈ s.expressions, .constant (.double x) m ∈ e.nodes) ?_ ?_ run
  · refine ⟨fun e inside => ⟨?_, ?_⟩, ?_⟩
    · intro item source negated m node
      exact expanded e inside _ node
    · intro name t m node
      exact expanded e inside _ node
    · refine d.commandText_refusedOnly fun e inside n node => (expanded e inside n node).writes ?_
      rintro x m rfl infinite
      exact ⟨x, m, rfl, infinite, constants e inside _ node x rfl⟩
  · intro value x absurd
    cases absurd
  · intro e inside n node
    cases n with
    | constant value m =>
      rintro x rfl
      exact ⟨e, inside, node⟩
    | _ => trivial

/-- Rows without some identifiers, beside the largest double rounded to fifteen places. -/
def overrounded : Shape :=
  ((Shape.ofTable "Items" "i").project "Most"
    (.call none ⟨.math, "Round", 0⟩ [.constant (.double ⟨0x7fefffffffffffff⟩) none, .constant (.int 15) none])).filter
    (.not (.call none ⟨.enumerable, "Contains", 1⟩
      [.parameter "ids" (.sequence .int32), .column "i" "Id" .int32 true]))

/-- The list of identifiers is expanded, and the rounded number is refused when the statement is written. -/
theorem specialized_writes_overrounded : ∃ l s outcome refusal, Dialect.sqlServer.lowering = .ok l ∧
    l.lowerShape overrounded = .ok s ∧
    s.specialize l.builder ⟨"p", false⟩ ⟨[("ids", .list [.int 1, .null])]⟩ = .ok outcome ∧
    (∀ e ∈ outcome.select.expressions, ∀ name t m, .parameter name t m ∈ e.nodes → t.isSequence = false) ∧
    Dialect.sqlServer.commandText outcome.select = .error refusal ∧
    ∃ x m, refusal = .unrepresentableConstant x.literal ∧ x.isFinite = false ∧
      ∃ e ∈ s.expressions, .constant (.double x) m ∈ e.nodes := by
  obtain ⟨l, made⟩ : ∃ l, Dialect.sqlServer.lowering = .ok l := ⟨_, rfl⟩
  obtain ⟨s, outcome, refusal, lowered, run, refused⟩ : ∃ s outcome refusal, l.lowerShape overrounded = .ok s ∧
      s.specialize l.builder ⟨"p", false⟩ ⟨[("ids", .list [.int 1, .null])]⟩ = .ok outcome ∧
      Dialect.sqlServer.commandText outcome.select = .error refusal := by
    cases made
    exact ⟨_, _, .unrepresentableConstant "inf", rfl, rfl, by decide +kernel⟩
  obtain ⟨expanded, writes⟩ := specialized_writes made lowered _ _ run
  exact ⟨l, s, outcome, refusal, made, lowered, run, fun e inside => (expanded e inside).2, refused,
    writes refusal refused⟩

end Lowering

end SqlShape
