import SqlShape.Proofs.Exactness
import SqlShape.Proofs.Lowered
import SqlShape.Proofs.Uses

/-!
# Which values are refused

The rules that read an expression check values where they need them. They skip operands and drop what they have read,
depending on which values are null. Still a reading is refused only for a place that does not take its value, and where
no test for null was written it checks every place (`answered`): an operand is skipped only if it is known to be null,
and null is taken at every place that is asked. So a lowered statement is specialized for exactly the values that all
its places take.
-/

namespace SqlShape

namespace Specialization

variable {v : Bindings} {us : List ParameterUse}

/-! ## Places that are checked -/

/-- All places of an expression take their values, where no test for null was written in it. -/
def Accepted (v : Bindings) (e : Expr String) : Prop :=
  e.Everywhere Expr.IsAsked → ∀ u ∈ e.uses, u.Admits v

section Accepted

open SqlShape.Expr

variable {op : BinaryOp} {l r e item : Expr String} {es : List (Expr String)} {m sm : TypeMapping} {negated : Bool}

/-- An expression without parameters has no place to check. -/
theorem accepted_of_uses (none : e.uses = []) : Accepted v e := by
  intro _ u member
  rw [none] at member
  cases member

/-- A parameter outside of memberships is accepted with a value that its place admits. -/
theorem accepted_parameter {name : String} {t : LogicalType} (admits : (⟨name, t, false⟩ : ParameterUse).Admits v) :
    Accepted v (.parameter name t m) := by
  intro _ u member
  rcases List.mem_singleton.mp member with rfl
  exact admits

theorem accepted_function {name : String} (each : ∀ e ∈ es, Accepted v e) :
    Accepted v (.function name es m negated) := by
  intro asked
  rw [uses, usesList_eq_flatMap, List.forall_mem_flatMap]
  exact fun e member => each e member ((everywhere_function.mp asked).2 e member)

theorem accepted_binary (first : Accepted v l) (second : Accepted v r) : Accepted v (.binary op l r m) := by
  intro asked
  obtain ⟨-, left, right⟩ := everywhere_binary.mp asked
  rw [uses, List.forall_mem_append]
  exact ⟨first left, second right⟩

theorem accepted_negation (below : Accepted v e) : Accepted v (.negation e m) := by
  intro asked
  rw [uses]
  exact below (everywhere_negation.mp asked).2

theorem accepted_convert (below : Accepted v e) : Accepted v (.convert e m) := by
  intro asked
  rw [uses]
  exact below (everywhere_convert.mp asked).2

/-- A null test is written only when values are known, so none is among the places that are asked. -/
theorem accepted_nullTest : Accepted v (.nullTest e negated m) :=
  fun asked => asked.here.elim

/-- Nor is a list. -/
theorem accepted_inList : Accepted v (.inList item es negated m) :=
  fun asked => asked.here.elim

/-- The source of a membership is accepted with a sequence that its place admits. -/
theorem accepted_inParameter {name : String} {t : LogicalType} (first : Accepted v item)
    (admits : (⟨name, t, true⟩ : ParameterUse).Admits v) :
    Accepted v (.inParameter item (.parameter name t sm) negated m) := by
  intro asked
  obtain ⟨-, below, -⟩ := everywhere_inParameter.mp asked
  rw [uses, List.forall_mem_append, List.forall_mem_singleton]
  exact ⟨first below, admits⟩

theorem accepted_like {subject pattern : Expr String} {escape : Option (Expr String)} (first : Accepted v subject)
    (second : Accepted v pattern) (third : ∀ e ∈ escape, Accepted v e) :
    Accepted v (.like subject pattern escape m) := by
  intro asked
  obtain ⟨-, one, two, three⟩ := everywhere_like.mp asked
  rw [uses, usesOption_eq_flatMap, List.forall_mem_append, List.forall_mem_append, List.forall_mem_flatMap]
  refine ⟨⟨first one, second two⟩, ?_⟩
  intro e member
  have here := Option.mem_toList.mp member
  exact third e here (three e here)

end Accepted

/-! ## Questions about null -/

variable {s : Setting}

/-- What is known to be null takes its value: null is taken at every place that is asked. -/
theorem knownNullness_ends (s : Setting) (e : Expr String) :
    Ends s.bindings e.uses (knownNullness s e) fun known => known = some true → Accepted s.bindings e := by
  induction e with
  | constant | column => exact meets_pure fun _ => accepted_of_uses rfl
  | parameter name t m =>
    unfold knownNullness
    split
    · exact meets_pure fun absurd => by cases absurd
    next scalar =>
      rw [Bool.not_eq_true] at scalar
      refine Meets.bind (meets_lift (fun _ found => found) fun refusal refused => ?_) fun value got => ?_
      · exact ⟨⟨name, t, false⟩, List.mem_singleton_self _, Bindings.get_eq_error refused rfl⟩
      · refine meets_consult.bind fun _ _ => meets_pure fun known => accepted_parameter ?_
        have null := Value.isNull_iff.mp (Option.some.inj known)
        rw [ParameterUse.admits_of_get got, LogicalType.takes_scalar scalar, null]
        exact Value.suits_null t
  | convert operand m below =>
    rw [Expr.uses]
    exact below.mono fun known holds found => accepted_convert (holds found)
  | _ => exact meets_pure fun absurd => by cases absurd

/-- A parameter without a value is blamed on the place where it is used. -/
theorem blaming_admitsMissing (v : Bindings) (e : Expr String) : (Contract.blaming v e.uses).AdmitsMissing v e := by
  intro name referred refusal refused
  obtain ⟨u, member, here⟩ := Expr.exists_use_of_mem_refs referred
  exact ⟨u, member, Bindings.get_eq_error refused here⟩

/-! ## Conditions that are built -/

/-- A connective over truth values is built. -/
theorem logical_of_bool {b : Builder} {op : BinaryOp} {l r : Expr Slot} (left : l.type = .bool)
    (right : r.type = .bool) : b.logical op l r = .ok (.binary op l r b.boolMapping) := by
  unfold Builder.logical Builder.requireType
  rw [if_pos left, if_pos right]
  rfl

/-- The negation of a truth value is built. -/
theorem exists_not_of_bool {b : Builder} {e : Expr Slot} (bool : e.type = .bool) : ∃ e', b.not e = .ok e' := by
  unfold Builder.not Builder.requireType
  rw [if_pos bool]
  cases e with
  | constant value m =>
    cases value with
    | _ => exact ⟨_, rfl⟩
  | _ => exact ⟨_, rfl⟩

/-- The sides of a connective are truth values. -/
def SidesBool : Expr Slot → Prop
  | .binary op l r _ => op.isLogical = true → l.type = .bool ∧ r.type = .bool
  | _ => True

/-- A connective whose truth value is dropped is a truth value. -/
theorem type_reduced {b : Builder} (coherent : b.Coherent) {x : Visited} (bool : x.expr.type = .bool)
    (sides : SidesBool x.expr) : (x.reduced b).expr.type = .bool := by
  obtain ⟨e, changed⟩ := x
  unfold Visited.reduced
  split
  next reduced found =>
    cases reduces_of_reduce? found with
    | decided decides here => exact coherent.bool
    | left decides here => exact (sides (isLogical_of_absorbing? decides)).1
    | right decides here => exact (sides (isLogical_of_absorbing? decides)).2
  next => exact bool

/-- A negation that is built over no written negation is a truth value and no connective. -/
theorem type_not {b : Builder} (coherent : b.Coherent) {e e' : Expr Slot} (plain : IsPlain e)
    (made : b.not e = .ok e') : SidesBool e' ∧ e'.type = .bool := by
  obtain ⟨-, ⟨value, m, -, rfl⟩ | ⟨m, rfl⟩ | ⟨inner, sign, m, -, rfl⟩ | rfl⟩ := Builder.not_eq_ok made
  · exact ⟨trivial, coherent.bool⟩
  · exact plain.elim
  · exact ⟨trivial, coherent.bool⟩
  · exact ⟨trivial, coherent.bool⟩

/-- The completion of a comparison is built. -/
theorem exists_completed {b : Builder} (coherent : b.Coherent) (equal : Bool) (comparison : Visited)
    (bool : comparison.expr.type = .bool) (l r : Expr Slot) (leftNullable rightNullable : Bool) :
    ∃ x, completed b equal comparison l r leftNullable rightNullable = .ok x ∧ x.expr.type = .bool := by
  have null (e : Expr Slot) : (b.isNull e).type = .bool := coherent.bool
  have present (e : Expr Slot) : (b.isNotNull e).type = .bool := coherent.bool
  unfold completed Builder.or Builder.and
  split
  · exact ⟨_, bind_eq_ok.mpr ⟨_, logical_of_bool (null l) (null r),
      bind_eq_ok.mpr ⟨_, logical_of_bool bool coherent.bool, rfl⟩⟩, coherent.bool⟩
  · exact ⟨_, bind_eq_ok.mpr ⟨_, logical_of_bool bool (null l),
      bind_eq_ok.mpr ⟨_, logical_of_bool coherent.bool (null r),
      bind_eq_ok.mpr ⟨_, logical_of_bool (present l) (present r),
      bind_eq_ok.mpr ⟨_, logical_of_bool coherent.bool coherent.bool, rfl⟩⟩⟩⟩, coherent.bool⟩
  · exact ⟨_, bind_eq_ok.mpr ⟨_, logical_of_bool bool (null l), rfl⟩, coherent.bool⟩
  · exact ⟨_, bind_eq_ok.mpr ⟨_, logical_of_bool bool (null r), rfl⟩, coherent.bool⟩
  · exact ⟨comparison, rfl, bool⟩

/-! ## Rules at the leaves -/

/-- How the readings of an expression end. A negated reading is asked for truth values only. -/
structure EndedReading (s : Setting) (us : List ParameterUse) (e : Expr String) (reading : Reading) : Prop where
  asIs : Ends s.bindings us reading.asIs fun x => x.expr.type = e.type ∧ Accepted s.bindings e
  negated : e.type = .bool → ∀ written : Option TypeMapping, (∀ m ∈ written, m.type = .bool) →
    Ends s.bindings us (reading.negated written) fun x => x.expr.type = .bool ∧ Accepted s.bindings e

/-- How everything ends that is asked of an operand. -/
structure Answered (s : Setting) (us : List ParameterUse) (e : Expr String) : Prop
    extends EndedReading s us e (read s e) where
  known : Ends s.bindings us (knownNullness s e) fun known => known = some true → Accepted s.bindings e
  nullable : Ends s.bindings us (mayBeNull s e) (· = e.mayBeNull s.bindings)

/-- More places may be blamed. -/
theorem Answered.within {us' : List ParameterUse} {e : Expr String} (answered : Answered s us e) (more : us ⊆ us') :
    Answered s us' e where
  asIs := answered.asIs.within more
  negated bool written bools := (answered.negated bool written bools).within more
  known := answered.known.within more
  nullable := answered.nullable.within more

/-- The placeholder of a scalar parameter is refused exactly where the place does not take the value. -/
theorem readParameter_ends {name : String} {t : LogicalType} (scalar : t.isSequence = false) (m : TypeMapping)
    (converted : Option LogicalType) :
    Ends s.bindings [⟨name, t, false⟩] (readParameter s name t m converted) fun x =>
      IsPlain x.expr ∧ x.expr.type = m.type ∧ (⟨name, t, false⟩ : ParameterUse).Admits s.bindings := by
  refine Meets.bind (meets_lift (fun _ found => Bindings.getScalar_admits scalar found) ?_) fun _ admits => ?_
  · intro refusal refused
    exact ⟨_, List.mem_singleton_self _, Bindings.getScalar_eq_error scalar refused⟩
  · refine placeholder_ends.bind fun e placed => ?_
    obtain ⟨slot, rfl⟩ := placed
    exact meets_pure ⟨trivial, rfl, admits⟩

/-- A null test is answered beforehand or asks its operand. -/
theorem nullTest_ends {operand : Expr String} (negated : Bool) {m : TypeMapping} (below : Answered s us operand)
    (bool : m.type = .bool) (coherent : s.builder.Coherent) :
    Ends s.bindings us (nullTest s operand (read s operand).asIs negated m) fun x => x.expr.type = .bool := by
  refine below.known.bind fun known _ => ?_
  cases known with
  | some null => exact meets_pure coherent.bool
  | none => exact below.asIs.bind fun x _ => meets_pure bool

/-- A negation from outside is never refused. -/
theorem negateVisited_ends (coherent : s.builder.Coherent) {visit : Pass Visited} {P : Prop}
    {written : Option TypeMapping} (bools : ∀ m ∈ written, m.type = .bool)
    (visits : Ends v us visit fun x => IsPlain x.expr ∧ x.expr.type = .bool ∧ P) :
    Ends v us (negateVisited s visit written) fun x => SidesBool x.expr ∧ x.expr.type = .bool ∧ P := by
  refine visits.bind fun x holds => ?_
  obtain ⟨plain, bool, kept⟩ := holds
  split
  next m _ => exact meets_pure ⟨trivial, bools m rfl, kept⟩
  next =>
    obtain ⟨e, made⟩ := exists_not_of_bool (b := s.builder) bool
    obtain ⟨sides, bool'⟩ := type_not coherent plain made
    exact (meets_ok made rfl).bind fun e' same => same ▸ meets_pure ⟨sides, bool', kept⟩

/-- A plain node that is visited and then negated adds no refusal. -/
theorem EndedReading.negating (coherent : s.builder.Coherent) {e : Expr String} {visit : Pass Visited}
    (visits : Ends s.bindings us visit fun x => IsPlain x.expr ∧ x.expr.type = e.type ∧ Accepted s.bindings e) :
    EndedReading s us e ⟨visit, negateVisited s visit⟩ where
  asIs := visits.mono fun _ holds => holds.2
  negated := by
    intro bool written bools
    have visits' := visits.mono fun x holds => And.imp_right (And.imp_left (·.trans bool)) holds
    exact (negateVisited_ends coherent bools visits').mono fun _ holds => holds.2

/-- Arms for null are built, since they are connected to a truth value. -/
theorem addNullArms_ends (coherent : s.builder.Coherent) {operands : List (Expr String)}
    (each : ∀ e ∈ operands, Answered s us e) {x : Visited} (bool : x.expr.type = .bool) (sides : SidesBool x.expr) :
    Ends s.bindings us (addNullArms s x (operands.map fun e => (e, read s e))) fun y => y.expr.type = .bool := by
  induction operands generalizing x with
  | nil => exact meets_pure (type_reduced coherent bool sides)
  | cons e rest later =>
    obtain ⟨here, there⟩ := List.forall_mem_cons.mp each
    refine here.known.bind fun known _ => ?_
    split
    · exact meets_pure coherent.bool
    · exact later there bool sides
    · refine here.nullable.bind fun nullable _ => ?_
      split
      · refine here.asIs.bind fun y _ => ?_
        have null : (s.builder.isNull y.expr).type = .bool := coherent.bool
        refine (meets_ok (logical_of_bool bool null) rfl).bind fun e' same => ?_
        subst same
        exact later there coherent.bool fun _ => ⟨bool, null⟩
      · exact later there bool sides

/-- Null tests beside a condition ask each operand once more. -/
theorem withNullArms_ends (coherent : s.builder.Coherent) {operands : List (Expr String)}
    (each : ∀ e ∈ operands, Answered s us e) {x : Visited} (bool : x.expr.type = .bool) (sides : SidesBool x.expr) :
    Ends s.bindings us (withNullArms s x (operands.map fun e => (e, read s e))) fun y => y.expr.type = .bool := by
  unfold withNullArms
  split
  · exact meets_pure bool
  · exact addNullArms_ends coherent each bool sides

/-! ## Comparisons and connectives -/

section Binary

variable {l r : Expr String}

/-- Asking whether the sides of a comparison may be null refuses what the sides refuse. -/
theorem nullableOperands_ends (equal : Bool) (first : Answered s us l) (second : Answered s us r) :
    Ends s.bindings us (nullableOperands s equal l r) fun _ => True := by
  unfold nullableOperands
  split
  · exact meets_pure trivial
  · refine first.nullable.bind fun _ _ => ?_
    split
    · exact meets_pure trivial
    · exact second.nullable.bind fun _ _ => meets_pure trivial

/-- An equality checks the places of both sides: a side that is not read is known to be null. -/
theorem equality_ends (coherent : s.builder.Coherent) (equal : Bool) {m : TypeMapping} (bool : m.type = .bool)
    (first : Answered s us l) (second : Answered s us r) :
    Ends s.bindings us (equality s equal (l, read s l) (r, read s r) m) fun x =>
      x.expr.type = .bool ∧ Accepted s.bindings l ∧ Accepted s.bindings r := by
  unfold equality
  refine first.known.bind fun known left => second.known.bind fun known' right => ?_
  dsimp only
  split
  next bothLeft bothRight => exact meets_pure ⟨coherent.bool, left (eq_of_beq bothLeft), right (eq_of_beq bothRight)⟩
  next here _ => exact second.asIs.bind fun x holds => meets_pure ⟨coherent.bool, left (eq_of_beq here), holds.2⟩
  next _ here => exact first.asIs.bind fun x holds => meets_pure ⟨coherent.bool, holds.2, right (eq_of_beq here)⟩
  next =>
    refine (nullableOperands_ends equal first second).bind fun nullable _ => ?_
    refine first.asIs.bind fun x left' => second.asIs.bind fun y right' => ?_
    obtain ⟨z, made, bool'⟩ := exists_completed coherent equal
      ⟨.binary (if equal then .equal else .notEqual) x.expr y.expr m, x.changed || y.changed⟩ bool
      x.expr y.expr nullable.1 nullable.2
    exact meets_ok made ⟨bool', left'.2, right'.2⟩

/-- A comparison or a sum, visited side by side. -/
theorem visitBinary_ends {op : BinaryOp} (other : op.isLogical = false) (m : TypeMapping) (first : Answered s us l)
    (second : Answered s us r) :
    Ends s.bindings us (visitBinary s op (read s l) (read s r) m) fun x =>
      (SidesBool x.expr ∧ IsPlain x.expr ∧ x.expr.type = m.type) ∧ Accepted s.bindings l ∧ Accepted s.bindings r := by
  refine first.asIs.bind fun x left => second.asIs.bind fun y right => meets_pure ?_
  rw [reduced_binary other]
  exact ⟨⟨fun logical => absurd (other.symm.trans logical) Bool.false_ne_true, trivial, rfl⟩, left.2, right.2⟩

/-- A connective, visited side by side. -/
theorem visitConnective_ends (coherent : s.builder.Coherent) (op : BinaryOp) {m : TypeMapping} (bool : m.type = .bool)
    (first : Answered s us l) (second : Answered s us r) (left : l.type = .bool) (right : r.type = .bool) :
    Ends s.bindings us (visitBinary s op (read s l) (read s r) m) fun x =>
      x.expr.type = .bool ∧ Accepted s.bindings l ∧ Accepted s.bindings r := by
  refine first.asIs.bind fun x holds => second.asIs.bind fun y holds' => meets_pure ⟨?_, holds.2, holds'.2⟩
  exact type_reduced coherent bool fun _ => ⟨holds.1.trans left, holds'.1.trans right⟩

/-- The connective of two negated readings. -/
theorem connectNegated_ends (coherent : s.builder.Coherent) (op : BinaryOp) (first : Answered s us l)
    (second : Answered s us r) (left : l.type = .bool) (right : r.type = .bool) :
    Ends s.bindings us (do
        let x ← (read s l).negated none
        let y ← (read s r).negated none
        return (replaced (← s.builder.logical op x.expr y.expr)).reduced s.builder) fun x =>
      x.expr.type = .bool ∧ Accepted s.bindings l ∧ Accepted s.bindings r := by
  have unwritten : ∀ m ∈ (none : Option TypeMapping), m.type = .bool :=
    fun m absent => absurd absent (Option.not_mem_none m)
  refine (first.negated left none unwritten).bind fun x holds => ?_
  refine (second.negated right none unwritten).bind fun y holds' => ?_
  refine (meets_ok (logical_of_bool holds.1 holds'.1) rfl).bind fun e same => meets_pure ⟨?_, holds.2, holds'.2⟩
  subst same
  exact type_reduced coherent coherent.bool fun _ => ⟨holds.1, holds'.1⟩

/-- A binary node refuses what its sides refuse. -/
theorem EndedReading.binary (coherent : s.builder.Coherent) {op : BinaryOp} {m : TypeMapping}
    (typed : (Expr.binary op l r m).Typed) (first : Answered s us l) (second : Answered s us r) :
    EndedReading s us (.binary op l r m) (read s (.binary op l r m)) := by
  have joined {x : Visited} {t : LogicalType}
      (holds : x.expr.type = t ∧ Accepted s.bindings l ∧ Accepted s.bindings r) :
      x.expr.type = t ∧ Accepted s.bindings (.binary op l r m) :=
    ⟨holds.1, accepted_binary holds.2.1 holds.2.2⟩
  cases op with
  | and | or =>
    obtain ⟨-, left, right, bool⟩ := typed
    refine ⟨?_, fun _ _ _ => ?_⟩
    · exact (visitConnective_ends coherent _ bool first second left right).mono fun x holds =>
        joined ⟨holds.1.trans bool.symm, holds.2⟩
    · exact (connectNegated_ends coherent _ first second left right).mono fun _ => joined
  | equal | notEqual =>
    obtain ⟨-, -, bool⟩ := typed
    refine ⟨?_, fun _ _ _ => ?_⟩
    · exact (equality_ends coherent _ bool first second).mono fun x holds =>
        joined ⟨holds.1.trans bool.symm, holds.2⟩
    · exact (equality_ends coherent _ bool first second).bind fun x holds => meets_pure (joined holds)
  | add | subtract =>
    refine .negating coherent ((visitBinary_ends rfl m first second).mono fun x holds => ?_)
    exact ⟨holds.1.2.1, joined ⟨holds.1.2.2, holds.2⟩⟩
  | _ =>
    obtain ⟨-, -, bool⟩ := typed
    refine ⟨?_, fun _ _ _ => ?_⟩
    · exact (visitBinary_ends rfl m first second).mono fun x holds => joined ⟨holds.1.2.2, holds.2⟩
    · refine (visitBinary_ends rfl m first second).bind fun x holds => ?_
      have both : ∀ e ∈ [l, r], Answered s us e :=
        List.forall_mem_cons.mpr ⟨first, List.forall_mem_singleton.mpr second⟩
      refine (withNullArms_ends coherent both (holds.1.2.2.trans bool) holds.1.1).bind fun y bool' => ?_
      exact meets_pure (joined ⟨bool', holds.2⟩)

end Binary

/-! ## Sequences -/

section Sequences

variable {name : String} {t : LogicalType}

/-- The sequence of a membership is taken exactly if all its elements are. -/
theorem admits_sequence {values : List Value} (found : sequenceValues v name = .ok values) :
    (⟨name, .sequence t, true⟩ : ParameterUse).Admits v ↔ ∀ item ∈ values, item.isNull = true ∨ item.Suits t := by
  obtain ⟨value, got, later⟩ := bind_eq_ok.mp found
  rw [ParameterUse.admits_of_get got]
  split at later
  · cases later
    exact iff_of_true ⟨rfl, trivial⟩ (List.forall_mem_nil _)
  · cases later
    exact and_iff_right rfl
  · cases later

/-- A sequence with an element is a list. -/
theorem get_of_sequenceValues {values : List Value} {index : Nat} {value : Value}
    (found : sequenceValues v name = .ok values) (here : values[index]? = some value) :
    v.get name = .ok (.list values) := by
  obtain ⟨whole, got, later⟩ := bind_eq_ok.mp found
  split at later
  · cases later
    cases here
  · cases later
    exact got
  · cases later

/-- Taking the elements of a sequence is refused only where its place does not admit the value. -/
theorem sequenceValues_eq_error {refusal : QueryError} (refused : sequenceValues v name = .error refusal) :
    (⟨name, .sequence t, true⟩ : ParameterUse).Refuses v refusal := by
  rcases bind_eq_error.mp refused with missing | ⟨value, got, later⟩
  · exact Bindings.get_eq_error missing rfl
  · cases value with
    | null | list items => cases later
    | _ =>
      cases later
      exact .single rfl rfl got rfl rfl

/-- Elements are refused for one that is neither null nor a scalar that fits. -/
theorem sequenceElements_eq_error {items : List (Value × Nat)} {refusal : QueryError}
    (refused : sequenceElements name t items = .error refusal) : ∃ item ∈ items, item.1.isNull = false ∧
      (item.1.isList = true ∧ refusal = .unsupportedBinding name (.nestedElement item.2) ∨
        item.1.fits t = false ∧ refusal = .unsupportedBinding name (.elementType item.2 t)) := by
  have deeper {item : Value × Nat} {rest : List (Value × Nat)} {P : Value × Nat → Prop}
      (found : ∃ item ∈ rest, P item) : ∃ item' ∈ item :: rest, P item' := by
    obtain ⟨item', member, holds⟩ := found
    exact ⟨item', List.mem_cons_of_mem item member, holds⟩
  induction items with
  | nil => cases refused
  | cons item rest later =>
    obtain ⟨value, index⟩ := item
    unfold sequenceElements at refused
    split at refused
    · rcases bind_eq_error.mp refused with below | ⟨a, -, done⟩
      · exact deeper (later below)
      · cases done
    next present =>
      rw [Bool.not_eq_true] at present
      split at refused
      next several =>
        cases refused
        exact ⟨_, List.mem_cons_self, present, .inl ⟨several, rfl⟩⟩
      next =>
        split at refused
        · rcases bind_eq_error.mp refused with below | ⟨a, -, done⟩
          · exact deeper (later below)
          · cases done
        next misfit =>
          cases refused
          exact ⟨_, List.mem_cons_self, present, .inr ⟨Bool.not_eq_true _ ▸ misfit, rfl⟩⟩

/-- The placeholders of a sequence are refused exactly where the place does not take the sequence. -/
theorem elementPlaceholders_ends (name : String) (t : LogicalType) (element : TypeMapping) :
    Ends v [⟨name, .sequence t, true⟩] (elementPlaceholders v name t element)
      fun _ => (⟨name, .sequence t, true⟩ : ParameterUse).Admits v := by
  unfold elementPlaceholders
  refine Meets.bind (meets_lift (fun _ found => found) fun refusal refused => ?_) fun values found => ?_
  · exact ⟨_, List.mem_singleton_self _, sequenceValues_eq_error refused⟩
  · refine meets_expand.bind fun _ _ => ?_
    refine Meets.bind (meets_lift (fun _ checked => checked) fun refusal refused => ?_) fun numbered checked => ?_
    · obtain ⟨⟨value, index⟩, member, present, fault⟩ := sequenceElements_eq_error refused
      have here := List.mk_mem_zipIdx_iff_getElem?.mp member
      have bound := get_of_sequenceValues found here
      rcases fault with ⟨nested, rfl⟩ | ⟨misfit, rfl⟩
      · exact ⟨_, List.mem_singleton_self _, .nested rfl rfl bound here nested⟩
      · exact ⟨_, List.mem_singleton_self _, .element rfl rfl bound here present misfit⟩
    · obtain ⟨indices, hasNull⟩ := numbered
      obtain ⟨-, -, fitting⟩ := sequenceElements_eq_ok checked
      refine Meets.bind (Meets.mapM fun index _ => placeholder_ends.mono fun _ _ => trivial) fun _ _ => meets_pure ?_
      rw [admits_sequence found]
      intro item member
      obtain ⟨index, here⟩ := List.mem_iff_getElem?.mp member
      exact fitting (item, index) (List.mk_mem_zipIdx_iff_getElem?.mpr here)

end Sequences

/-! ## Memberships -/

/-- The completion of a membership is built. -/
theorem completedMembership_ends (coherent : s.builder.Coherent) {item : Expr String} (below : Answered s us item)
    (visited : Expr Slot) (hasNull negated : Bool) {membership : Expr Slot} (bool : membership.type = .bool)
    (sides : SidesBool membership) :
    Ends s.bindings us (completedMembership s item visited hasNull negated membership)
      fun e => e.type = .bool ∧ SidesBool e := by
  have null : (s.builder.isNull visited).type = .bool := coherent.bool
  have present : (s.builder.isNotNull visited).type = .bool := coherent.bool
  have matching : Ends s.bindings us (mayMatchNull s item hasNull) fun _ => True := by
    unfold mayMatchNull
    split
    · exact below.known.bind fun _ _ => meets_pure trivial
    · exact meets_pure trivial
  have missing : Ends s.bindings us (mayMissNull s item negated) fun _ => True := by
    unfold mayMissNull
    split
    · exact below.nullable.mono fun _ _ => trivial
    · exact meets_pure trivial
  refine matching.bind fun found _ => ?_
  split
  · split
    · exact meets_ok (logical_of_bool bool present) ⟨coherent.bool, fun _ => ⟨bool, present⟩⟩
    · exact meets_ok (logical_of_bool bool null) ⟨coherent.bool, fun _ => ⟨bool, null⟩⟩
  · refine missing.bind fun found' _ => ?_
    split
    · exact meets_ok (logical_of_bool bool null) ⟨coherent.bool, fun _ => ⟨bool, null⟩⟩
    · exact meets_pure ⟨bool, sides⟩

/-- A membership is refused for its item, or for the place of its sequence. -/
theorem expandMembership_ends (coherent : s.builder.Coherent) {item : Expr String} (name : String)
    (sm : TypeMapping) {m : TypeMapping} (negated : Bool) (bool : m.type = .bool) (below : Answered s us item)
    (here : (⟨name, .sequence sm.type, true⟩ : ParameterUse) ∈ us) :
    Ends s.bindings us (expandMembership s (item, read s item) name sm negated m) fun x =>
      x.expr.type = .bool ∧ Accepted s.bindings item ∧
        (⟨name, .sequence sm.type, true⟩ : ParameterUse).Admits s.bindings := by
  have placed := (elementPlaceholders_ends (v := s.bindings) name sm.type (elementMapping item sm)).within
    fun _ member => List.mem_singleton.mp member ▸ here
  refine placed.bind fun found admits => below.asIs.bind fun x holds => ?_
  obtain ⟨placeholders, hasNull⟩ := found
  have membership : ∀ e, e = (if placeholders.isEmpty then s.builder.truth negated
      else Expr.inList x.expr placeholders negated m) → e.type = .bool ∧ SidesBool e := by
    rintro e rfl
    split
    · exact ⟨coherent.bool, trivial⟩
    · exact ⟨bool, trivial⟩
  obtain ⟨bool', sides⟩ := membership _ rfl
  refine (completedMembership_ends coherent below x.expr hasNull negated bool' sides).bind fun e outcome => ?_
  exact meets_pure ⟨type_reduced coherent outcome.1 outcome.2, holds.2, admits⟩

/-! ## Every expression -/

/-- Operands in a row are accepted one by one. -/
theorem visitAll_ends {es : List (Expr String)} (each : ∀ e ∈ es, Answered s us e) :
    Ends s.bindings us (visitAll (readAll s es)) fun _ => ∀ e ∈ es, Accepted s.bindings e := by
  refine (visitAll_meets fun e member => (each e member).asIs).mono fun _ found => ?_
  exact forall_mem_left_of_forall₂ (found.imp fun _ _ holds => holds.2)

/-- A list has the type of its mapping. -/
theorem visitList_ends {item : Expr String} {es : List (Expr String)} (negated : Bool) (m : TypeMapping)
    (first : Answered s us item) (each : ∀ e ∈ es, Answered s us e) :
    Ends s.bindings us (visitList (read s item) (readAll s es) negated m) fun x =>
      x.expr.type = m.type ∧ SidesBool x.expr := by
  refine first.asIs.bind fun _ _ => (visitAll_ends each).bind fun _ _ => ?_
  exact meets_pure ⟨rfl, trivial⟩

theorem EndedReading.function (coherent : s.builder.Coherent) {name : String} {es : List (Expr String)}
    {m : TypeMapping} {nullable : Bool} (each : ∀ e ∈ es, Answered s us e) :
    EndedReading s us (.function name es m nullable) (read s (.function name es m nullable)) := by
  refine .negating coherent ((visitAll_ends each).bind fun xs all => ?_)
  exact meets_pure ⟨trivial, rfl, accepted_function all⟩

/-- A negation swaps the readings of its operand. -/
theorem EndedReading.negation {operand : Expr String} {m : TypeMapping}
    (below : EndedReading s us operand (read s operand)) (typed : (Expr.negation operand m).Typed) :
    EndedReading s us (.negation operand m) (read s (.negation operand m)) := by
  obtain ⟨-, bool, bool'⟩ := typed
  refine ⟨?_, fun _ _ _ => ?_⟩
  · refine (below.negated bool (some m) ?_).mono fun x holds => ?_
    · rintro m' ⟨⟩
      exact bool'
    · exact ⟨holds.1.trans bool'.symm, accepted_negation holds.2⟩
  · refine below.asIs.bind fun x holds => meets_pure ?_
    exact ⟨holds.1.trans bool, accepted_negation holds.2⟩

theorem EndedReading.nullTest (coherent : s.builder.Coherent) {operand : Expr String} {negated : Bool} {m : TypeMapping}
    (below : Answered s us operand) (bool : m.type = .bool) :
    EndedReading s us (.nullTest operand negated m) (read s (.nullTest operand negated m)) := by
  have required : Builder.requireType .negation .bool (.nullTest operand negated m) = .ok () :=
    Builder.requireType_eq_ok.mpr bool
  refine ⟨?_, fun _ _ _ => ?_⟩
  · refine (nullTest_ends negated below bool coherent).mono fun x holds => ?_
    exact ⟨holds.trans bool.symm, accepted_nullTest⟩
  · refine (meets_ok required rfl).bind fun _ _ => ?_
    refine (nullTest_ends (!negated) below coherent.bool coherent).bind fun x holds => meets_pure ?_
    exact ⟨holds, accepted_nullTest⟩

/-- A conversion. Where a placeholder takes it over, the parameter below is checked by the placeholder. -/
theorem EndedReading.convert (coherent : s.builder.Coherent) {operand : Expr String} {m : TypeMapping}
    (below : EndedReading s operand.uses operand (read s operand)) :
    EndedReading s operand.uses (.convert operand m) (read s (.convert operand m)) := by
  refine .negating coherent ?_
  split
  next name t found =>
    obtain ⟨scalar, -⟩ := widensTo_of_convertedParameter? found
    obtain ⟨m', rfl⟩ := eq_parameter_of_convertedParameter? found
    refine (readParameter_ends scalar m (some m.type)).mono fun x holds => ?_
    exact ⟨holds.1, holds.2.1, accepted_convert (accepted_parameter holds.2.2)⟩
  next =>
    refine below.asIs.bind fun x holds => meets_pure ?_
    exact ⟨trivial, rfl, accepted_convert holds.2⟩

/-- A list refuses what its item and its members refuse. -/
theorem EndedReading.inList (coherent : s.builder.Coherent) {item : Expr String} {es : List (Expr String)}
    {negated : Bool} {m : TypeMapping} (bool : m.type = .bool) (first : Answered s us item)
    (each : ∀ e ∈ es, Answered s us e) :
    EndedReading s us (.inList item es negated m) (read s (.inList item es negated m)) := by
  have asked := mayHoldNull_meets negated fun e member => (each e member).nullable
  refine ⟨?_, fun _ _ _ => ?_⟩
  · exact (visitList_ends negated m first each).mono fun x holds => ⟨holds.1, accepted_inList⟩
  · refine (visitList_ends (!negated) m first each).bind fun x holds => asked.bind fun found _ => ?_
    split
    · exact meets_pure ⟨holds.1.trans bool, accepted_inList⟩
    · have one : ∀ e ∈ [item], Answered s us e := List.forall_mem_singleton.mpr first
      refine (withNullArms_ends coherent one (holds.1.trans bool) holds.2).bind fun y bool' => ?_
      exact meets_pure ⟨bool', accepted_inList⟩

/-- A membership in a parameter refuses what its expansion refuses, as it stands and negated. -/
theorem EndedReading.inParameter (coherent : s.builder.Coherent) {item : Expr String} {name : String}
    {negated : Bool} {m sm : TypeMapping} (bool : m.type = .bool) (first : Answered s us item)
    (here : (⟨name, .sequence sm.type, true⟩ : ParameterUse) ∈ us) :
    EndedReading s us (.inParameter item (.parameter name (.sequence sm.type) sm) negated m)
      (read s (.inParameter item (.parameter name (.sequence sm.type) sm) negated m)) := by
  have expands (negated' : Bool) := expandMembership_ends coherent name sm negated' bool first here
  refine ⟨?_, fun _ _ _ => ?_⟩
  · refine (expands negated).mono fun x holds => ?_
    exact ⟨holds.1.trans bool.symm, accepted_inParameter holds.2.1 holds.2.2⟩
  · refine (expands (!negated)).mono fun x holds => ?_
    exact ⟨holds.1, accepted_inParameter holds.2.1 holds.2.2⟩

/-- A pattern match refuses what its operands refuse. -/
theorem EndedReading.like (coherent : s.builder.Coherent) {subject pattern : Expr String}
    {escape : Option (Expr String)} {m : TypeMapping} (bool : m.type = .bool) (first : Answered s us subject)
    (second : Answered s us pattern) (third : ∀ e ∈ escape, EndedReading s us e (read s e)) :
    EndedReading s us (.like subject pattern escape m) (read s (.like subject pattern escape m)) := by
  have visits : Ends s.bindings us (read s (.like subject pattern escape m)).asIs
      fun x => IsPlain x.expr ∧ x.expr.type = .bool ∧ Accepted s.bindings (.like subject pattern escape m) := by
    refine first.asIs.bind fun u one => second.asIs.bind fun p two => ?_
    refine (readOption_meets fun e member => (third e member).asIs).bind fun o three => meets_pure ?_
    have accepted := forall_mem_left_of_rel (rel_imp (fun _ _ holds => holds.2) three)
    exact ⟨trivial, bool, accepted_like one.2 two.2 accepted⟩
  refine ⟨visits.mono fun x holds => ⟨holds.2.1.trans bool.symm, holds.2.2⟩, fun _ written bools => ?_⟩
  refine (negateVisited_ends coherent bools visits).bind fun x holds => ?_
  have both : ∀ e ∈ [subject, pattern], Answered s us e :=
    List.forall_mem_cons.mpr ⟨first, List.forall_mem_singleton.mpr second⟩
  exact (withNullArms_ends coherent both holds.2.1 holds.1).mono fun y bool' => ⟨bool', holds.2.2⟩

/-- How everything ends that is asked of an operand, given how its readings end. -/
theorem EndedReading.answered {e : Expr String} (reading : EndedReading s e.uses e (read s e)) :
    Answered s e.uses e :=
  ⟨reading, knownNullness_ends s e, mayBeNull_meets (blaming_admitsMissing s.bindings e)⟩

/-- Whatever is asked of a well-typed expression is refused only for a place that does not take its value, and a
reading that is not refused has checked all places. -/
theorem answered (coherent : s.builder.Coherent) {e : Expr String} (typed : e.WellTyped) : Answered s e.uses e := by
  refine EndedReading.answered ?_
  induction e with
  | constant value m => exact .negating coherent (meets_pure ⟨trivial, rfl, accepted_of_uses rfl⟩)
  | column table name m nullable => exact .negating coherent (meets_pure ⟨trivial, rfl, accepted_of_uses rfl⟩)
  | parameter name t m =>
    refine .negating coherent ?_
    split
    next sequence =>
      exact meets_throw ⟨⟨name, t, false⟩, List.mem_singleton_self _, .outside sequence rfl⟩
    next scalar =>
      rw [Bool.not_eq_true] at scalar
      have same : t = m.type := typed.here.type_eq scalar
      refine (readParameter_ends scalar m none).mono fun x holds => ?_
      exact ⟨holds.1, holds.2.1.trans same.symm, accepted_parameter holds.2.2⟩
  | function name es m nullable each =>
    refine .function coherent fun e member => ?_
    have typed' := (Expr.everywhere_function.mp typed).2 e member
    rw [Expr.uses, Expr.usesList_eq_flatMap]
    exact (each e member typed').answered.within (Expr.uses_subset member)
  | binary op l r m first second =>
    obtain ⟨here, left, right⟩ := Expr.everywhere_binary.mp typed
    rw [Expr.uses]
    exact .binary coherent here ((first left).answered.within (List.subset_append_left _ _))
      ((second right).answered.within (List.subset_append_right _ _))
  | negation operand m below =>
    obtain ⟨here, typed'⟩ := Expr.everywhere_negation.mp typed
    rw [Expr.uses]
    exact .negation (below typed') here
  | nullTest operand negated m below =>
    obtain ⟨here, typed'⟩ := Expr.everywhere_nullTest.mp typed
    rw [Expr.uses]
    exact .nullTest coherent (below typed').answered here.2
  | convert operand m below =>
    rw [Expr.uses]
    exact .convert coherent (below (Expr.everywhere_convert.mp typed).2)
  | inList item es negated m first each =>
    obtain ⟨⟨-, -, bool⟩, left, right⟩ := Expr.everywhere_inList.mp typed
    rw [Expr.uses, Expr.usesList_eq_flatMap]
    refine .inList coherent bool ((first left).answered.within (List.subset_append_left _ _)) fun e member => ?_
    exact ((each e member (right e member)).answered.within (Expr.uses_subset member)).within
      (List.subset_append_right _ _)
  | inParameter item source negated m first _ =>
    obtain ⟨⟨-, ⟨name, element, sm, rfl, -⟩, bool⟩, left, right⟩ := Expr.everywhere_inParameter.mp typed
    obtain rfl : element = sm.type := right.here.sequence_eq
    rw [Expr.uses]
    exact .inParameter coherent bool ((first left).answered.within (List.subset_append_left _ _))
      (List.mem_append_right _ (List.mem_singleton_self _))
  | like subject pattern escape m first second third =>
    obtain ⟨⟨-, -, -, -, bool⟩, left, right, last⟩ := Expr.everywhere_like.mp typed
    rw [Expr.uses, Expr.usesOption_eq_flatMap]
    refine .like coherent bool ?_ ?_ fun e member => ?_
    · exact (first left).answered.within
        (List.subset_append_of_subset_left _ (List.subset_append_left _ _))
    · exact (second right).answered.within
        (List.subset_append_of_subset_left _ (List.subset_append_right _ _))
    · refine ((third e member (last e member)).answered.within ?_).toEndedReading
      exact List.subset_append_of_subset_right _ (Expr.uses_subset (Option.mem_toList.mpr member))

end Specialization

/-! ## Statements -/

namespace Select

open SqlShape.Specialization

variable {b : Builder} {options : SpecializationOptions} {v : Bindings} {s : Select String}

/-- How specializing a well-typed statement ends. -/
theorem specialize_ends (coherent : b.Coherent) (typed : ∀ e ∈ s.expressions, e.WellTyped) :
    Ends v s.uses (s.traverse fun e => do return (← (read ⟨b, options.relationalNulls, v⟩ e).asIs).expr)
      fun _ => ∀ e ∈ s.expressions, Accepted v e := by
  have visits : ∀ e ∈ s.expressions, Ends v s.uses
      (do return (← (read ⟨b, options.relationalNulls, v⟩ e).asIs).expr) fun _ => Accepted v e := by
    intro e member
    have reading := (answered (s := ⟨b, options.relationalNulls, v⟩) coherent (typed e member)).within
      (Expr.uses_subset member)
    exact reading.asIs.bind fun x holds => meets_pure holds.2
  exact (traverse_meets visits).mono fun _ found => found.forall_mem_left

/-- A well-typed statement is refused only for a place that does not take its value. -/
theorem specialize_blames (coherent : b.Coherent) (typed : ∀ e ∈ s.expressions, e.WellTyped) {refusal : QueryError}
    (refused : s.specialize b options v = .error refusal) : Blames v s.uses refusal := by
  rcases bind_eq_error.mp refused with run | ⟨_, -, done⟩
  · exact (specialize_ends coherent typed).refuses trivial run
  · cases done

/-- A lowered statement that is specialized has been checked at all places. -/
theorem specialize_admits {d : Dialect} {ps : Declarations} (serves : b.Serves d) (lowered : s.Lowered d b ps)
    {outcome : Specialized} (done : s.specialize b options v = .ok outcome) : ∀ u ∈ s.uses, u.Admits v := by
  have typed : ∀ e ∈ s.expressions, e.WellTyped := fun e member =>
    ((lowered.expressions e member).native serves).wellTypedIn.wellTyped
  obtain ⟨visited, progress, run, -⟩ := specialize_eq_ok.mp done
  obtain ⟨-, accepted⟩ := (specialize_ends serves.coherent typed).yields trivial run
  intro u member
  obtain ⟨e, inside, here⟩ := List.mem_flatMap.mp member
  exact accepted e inside (lowered.expressions e inside).everywhere_isAsked u here

/-- A lowered statement is specialized for exactly the values that all its places take. -/
theorem exists_specialize_iff {d : Dialect} {ps : Declarations} (serves : b.Serves d) (lowered : s.Lowered d b ps) :
    (∃ outcome, s.specialize b options v = .ok outcome) ↔ ∀ u ∈ s.uses, u.Admits v := by
  constructor
  · rintro ⟨outcome, done⟩
    exact specialize_admits serves lowered done
  · intro admits
    cases run : s.specialize b options v with
    | ok outcome => exact ⟨outcome, rfl⟩
    | error refusal =>
      obtain ⟨u, member, refuses⟩ := specialize_blames serves.coherent
        (fun e inside => ((lowered.expressions e inside).native serves).wellTypedIn.wellTyped) run
      exact absurd (admits u member) refuses.not_admits

end Select

namespace Lowering

/-- For every dialect, a lowered statement is specialized exactly for the values that all its places take: at a place of
a scalar type a scalar that fits it, at the sequence of a membership null or a list of nulls and of scalars that fit,
and no value at all at any other place of a sequence type. -/
theorem specializes_iff_admitted {d : Dialect} {l : Lowering} (made : d.lowering = .ok l) {shape : Shape}
    {s : Select String} (lowered : l.lowerShape shape = .ok s) (options : SpecializationOptions) (v : Bindings) :
    (∃ outcome, s.specialize l.builder options v = .ok outcome) ↔ ∀ u ∈ s.uses, u.Admits v :=
  have serves := serves_lowering made
  Select.exists_specialize_iff serves.builder (lowerShape_lowered serves lowered)

/-- Rows with a listed number, or all rows where a parameter is null. -/
def listedOrAll : Shape :=
  (Shape.ofTable "Items" "i").filter (.binary .or
    (.binary .equal (.parameter "all" .int32) (.constant .null (some .int32)))
    (.call none ⟨.enumerable, "Contains", 1⟩
      [.parameter "ids" (.sequence .int32), .column "i" "Id" .int32 false]))

/-- The list is checked although the other condition holds. -/
theorem specializes_listedOrAll : ∃ l s, Dialect.sqlServer.lowering = .ok l ∧ l.lowerShape listedOrAll = .ok s ∧
    (∃ outcome, s.specialize l.builder ⟨"p", false⟩ ⟨[("all", .null), ("ids", .list [.int 1, .null])]⟩ = .ok outcome) ∧
    ¬ ∃ outcome, s.specialize l.builder ⟨"p", false⟩ ⟨[("all", .null), ("ids", .list [.text "1"])]⟩ = .ok outcome := by
  obtain ⟨l, made⟩ : ∃ l, Dialect.sqlServer.lowering = .ok l := ⟨_, rfl⟩
  obtain ⟨s, lowered, admits, refuses⟩ : ∃ s, l.lowerShape listedOrAll = .ok s ∧
      (∀ u ∈ s.uses, u.Admits ⟨[("all", .null), ("ids", .list [.int 1, .null])]⟩) ∧
      ¬ ∀ u ∈ s.uses, u.Admits ⟨[("all", .null), ("ids", .list [.text "1"])]⟩ := by
    cases made
    exact ⟨_, rfl, by decide, by decide⟩
  refine ⟨l, s, made, lowered, ?_, ?_⟩
  · exact (specializes_iff_admitted made lowered _ _).mpr admits
  · exact fun done => refuses ((specializes_iff_admitted made lowered _ _).mp done)

end Lowering

end SqlShape
