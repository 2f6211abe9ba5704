import SqlShape.Proofs.Completion
import SqlShape.Proofs.Refusals

/-!
# A predicate and its negation

Where nulls are completed, a negation is carried down to the leaves of a predicate (`Expr.leaves`). A comparison, a
membership or a pattern match is completed for the sign under which it ends up, so exactly one of it and its negation is
true. A stored truth value, such as a boolean column, is sent as it is and negated from outside: where it is null,
neither it nor its negation is true.

A predicate therefore has a verdict in three-valued logic, in which only stored truth values that are null are unknown
(`Expr.verdict`). What is sent for the predicate is true exactly where the verdict is true, and what is sent for its
negation exactly where the verdict is false. Without such nulls exactly one of the two is true.
-/

namespace SqlShape

/-! ## Leaves and verdicts -/

namespace Expr

variable {ρ : Type}

/-- The parts of a condition that are neither connectives nor negations. -/
def leaves : Expr ρ → List (Expr ρ)
  | binary .and l r _ | binary .or l r _ => l.leaves ++ r.leaves
  | negation e _ => e.leaves
  | e => [e]

/-- The leaves that are stored truth values: constants, parameters, columns, calls and conversions. -/
def flags (e : Expr ρ) : List (Expr ρ) :=
  e.leaves.filter fun leaf => !leaf.isCondition

/-- The verdict on a condition, given values for its leaves. Only a stored truth value may be unknown. -/
def verdict (worth : Expr ρ → Value) : Expr ρ → Option Bool
  | binary .and l r _ => Truth.conj (l.verdict worth) (r.verdict worth)
  | binary .or l r _ => Truth.disj (l.verdict worth) (r.verdict worth)
  | negation e _ => Truth.neg (e.verdict worth)
  | e => if e.isCondition then some (worth e).isTrue else (worth e).truth?

/-- Neither a connective nor a negation. -/
def isLeaf : Expr ρ → Bool
  | binary op _ _ _ => !op.isLogical
  | negation _ _ => false
  | _ => true

/-- A leaf has no leaves but itself. -/
theorem leaves_of_isLeaf {e : Expr ρ} (leaf : e.isLeaf = true) : e.leaves = [e] := by
  cases e with
  | binary op l r m =>
    cases op with
    | and | or => cases leaf
    | _ => rfl
  | negation => cases leaf
  | _ => rfl

/-- A leaf is judged by its own worth; a condition is never unknown. -/
theorem verdict_of_isLeaf {e : Expr ρ} (leaf : e.isLeaf = true) (worth : Expr ρ → Value) :
    e.verdict worth = if e.isCondition then some (worth e).isTrue else (worth e).truth? := by
  cases e with
  | binary op l r m =>
    cases op with
    | and | or => cases leaf
    | _ => rfl
  | negation => cases leaf
  | _ => rfl

/-- What is no condition is a leaf. -/
theorem isLeaf_of_not_isCondition {e : Expr ρ} (stored : e.isCondition = false) : e.isLeaf = true := by
  cases e with
  | binary op l r m =>
    cases op with
    | add | subtract => rfl
    | _ => cases stored
  | negation => cases stored
  | _ => rfl

/-- Of a condition it is not known beforehand whether it is null. -/
theorem nullness?_of_isCondition {v : Bindings} {e : Expr String} (condition : e.isCondition = true) :
    e.nullness? v = none := by
  cases e with
  | constant | parameter | column | convert => cases condition
  | _ => rfl

/-- The leaves of a connective are those of its sides. -/
theorem leaves_connective {op : BinaryOp} (logical : op.isLogical = true) (l r : Expr ρ) (m : TypeMapping) :
    (binary op l r m).leaves = l.leaves ++ r.leaves := by
  cases op with
  | and | or => rfl
  | _ => cases logical

/-- A connective is judged by the verdicts on its sides. -/
theorem verdict_connective {op : BinaryOp} (logical : op.isLogical = true) (worth : Expr ρ → Value) (l r : Expr ρ)
    (m : TypeMapping) : (binary op l r m).verdict worth = Truth.join op (l.verdict worth) (r.verdict worth) := by
  cases op with
  | and | or => rfl
  | _ => cases logical

/-- Induction over a condition: its connectives, its negations and its leaves. -/
@[elab_as_elim]
theorem conditionInduction {motive : Expr ρ → Prop}
    (connective : ∀ op l r m, op.isLogical = true → motive l → motive r → motive (binary op l r m))
    (negation : ∀ e m, motive e → motive (negation e m)) (leaf : ∀ e, e.isLeaf = true → motive e) (e : Expr ρ) :
    motive e := by
  induction e with
  | binary op l r m first second =>
    cases logical : op.isLogical with
    | true => exact connective op l r m logical first second
    | false => exact leaf _ (by rw [isLeaf, logical]; rfl)
  | negation e m below => exact negation e m below
  | _ => exact leaf _ rfl

/-- What holds everywhere in a condition holds everywhere in its leaves. -/
theorem Everywhere.leaves {P : Expr ρ → Prop} {e : Expr ρ} (all : e.Everywhere P) :
    ∀ leaf ∈ e.leaves, leaf.Everywhere P := by
  induction e using conditionInduction with
  | connective op l r m logical first second =>
    obtain ⟨-, left, right⟩ := everywhere_binary.mp all
    rw [leaves_connective logical, List.forall_mem_append]
    exact ⟨first left, second right⟩
  | negation e m below => exact below (everywhere_negation.mp all).2
  | leaf e leaf =>
    rw [leaves_of_isLeaf leaf, List.forall_mem_singleton]
    exact all

/-- The leaves of a condition use no other parameters. -/
theorem uses_leaf (e : Expr String) : ∀ leaf ∈ e.leaves, leaf.uses ⊆ e.uses := by
  induction e using conditionInduction with
  | connective op l r m logical first second =>
    rw [leaves_connective logical, List.forall_mem_append, uses]
    exact ⟨fun leaf member => List.subset_append_of_subset_left _ (first leaf member),
      fun leaf member => List.subset_append_of_subset_right _ (second leaf member)⟩
  | negation e m below => exact below
  | leaf e leaf =>
    rw [leaves_of_isLeaf leaf, List.forall_mem_singleton]
    exact List.Subset.refl _

/-- Without a stored truth value that is null, the verdict is known. -/
theorem verdict_ne_none {worth : Expr ρ → Value} {e : Expr ρ} (present : ∀ flag ∈ e.flags, worth flag ≠ .null) :
    e.verdict worth ≠ none := by
  unfold flags at present
  induction e using conditionInduction with
  | connective op l r m logical first second =>
    rw [leaves_connective logical, List.filter_append, List.forall_mem_append] at present
    rw [verdict_connective logical]
    intro unknown
    exact (Truth.eq_none_of_join unknown).elim (first present.1) (second present.2)
  | negation e m below =>
    intro unknown
    exact below present (Truth.eq_none_of_neg unknown)
  | leaf e leaf =>
    rw [leaves_of_isLeaf leaf] at present
    rw [verdict_of_isLeaf leaf]
    split
    · exact Option.some_ne_none _
    next stored =>
      have flagged : e ∈ [e].filter fun leaf => !leaf.isCondition :=
        List.mem_filter.mpr ⟨List.mem_singleton_self e, by rw [Bool.eq_false_iff.mpr stored]; rfl⟩
      intro unknown
      exact present e flagged (Value.eq_null_of_truth? unknown)

end Expr

namespace Specialization

variable {d : Database} {row : Row} {s : Setting}

/-! ## Judged conditions -/

/-- A verdict tells which of two truth values is true: the first where it is true, the second where it is false. -/
def Judges (verdict t u : Option Bool) : Prop :=
  (t == some true) = (verdict == some true) ∧ (u == some true) = (Truth.neg verdict == some true)

/-- Verdicts are joined as truth values are. -/
theorem Judges.connective {op : BinaryOp} (logical : op.isLogical = true) {v v' t t' u u' : Option Bool}
    (first : Judges v t u) (second : Judges v' t' u') :
    Judges (Truth.join op v v') (Truth.join op t t') (Truth.join op.dual u u') := by
  obtain ⟨left, left'⟩ := first
  obtain ⟨right, right'⟩ := second
  cases op with
  | and => simp only [Judges, Truth.join, BinaryOp.dual, Truth.isTrue_conj, Truth.isTrue_disj, Truth.neg_conj, left,
      right, left', right', and_self]
  | or => simp only [Judges, Truth.join, BinaryOp.dual, Truth.isTrue_conj, Truth.isTrue_disj, Truth.neg_disj, left,
      right, left', right', and_self]
  | _ => cases logical

theorem Judges.negation {v t u : Option Bool} (below : Judges v t u) : Judges (Truth.neg v) u t :=
  ⟨below.2, by rw [Truth.neg_neg]; exact below.1⟩

/-- The condition is true exactly where the verdict is. -/
theorem Judges.true_iff {v t u : Option Bool} (judges : Judges v t u) :
    Value.ofTruth t = .bool true ↔ v = some true := by
  rw [← Value.isTrue_iff, Value.isTrue_ofTruth, judges.1, beq_iff_eq]

/-- The negated condition is true exactly where the verdict is false. -/
theorem Judges.false_iff {v t u : Option Bool} (judges : Judges v t u) :
    Value.ofTruth u = .bool true ↔ v = some false := by
  rw [← Value.isTrue_iff, Value.isTrue_ofTruth, judges.2, beq_iff_eq]
  rcases v with _ | _ | _ <;> decide

/-- The leaves of an expression are given the values of their readings. -/
def Weighs (d : Database) (row : Row) (s : Setting) (worth : Expr String → Value) (e : Expr String) : Prop :=
  ∀ leaf ∈ e.leaves, ∀ w, Worth d row s leaf w → worth leaf = w

/-- A condition has one truth value under each sign, and the verdict tells which of them is true. -/
structure Judged (d : Database) (row : Row) (s : Setting) (e : Expr String) (t u : Option Bool) : Prop
    extends Truths d row s e t u where
  judges : ∀ worth, Weighs d row s worth e → Judges (e.verdict worth) t u

/-- What is weighed at a leaf is the worth of the leaf. -/
theorem Weighs.leaf {worth : Expr String → Value} {e : Expr String} {w : Value} (weighs : Weighs d row s worth e)
    (leaf : e.isLeaf = true) (value : Worth d row s e w) : worth e = w :=
  weighs e (by rw [Expr.leaves_of_isLeaf leaf]; exact List.mem_singleton_self e) w value

/-- A connective is judged where its sides are. -/
theorem Judged.connective {op : BinaryOp} (logical : op.isLogical = true) {l r : Expr String} {m : TypeMapping}
    {t u t' u' : Option Bool} (first : Judged d row s l t u) (second : Judged d row s r t' u') :
    Judged d row s (.binary op l r m) (Truth.join op t t') (Truth.join op.dual u u') where
  toTruths := connective_truths logical first.toTruths second.toTruths
  judges worth weighs := by
    unfold Weighs at weighs
    rw [Expr.leaves_connective logical, List.forall_mem_append] at weighs
    rw [Expr.verdict_connective logical]
    exact (first.judges worth weighs.1).connective logical (second.judges worth weighs.2)

theorem Judged.negation {e : Expr String} {m : TypeMapping} {t u : Option Bool} (below : Judged d row s e t u) :
    Judged d row s (.negation e m) u t where
  toTruths := negation_truths below.toTruths
  judges worth weighs := (below.judges worth weighs).negation

/-- What is settled is judged by its own value. -/
theorem Settled.judged {e : Expr String} {holds : Bool} (settled : Settled d row s e holds) (leaf : e.isLeaf = true)
    (condition : e.isCondition = true) (bool : e.type = .bool) : ∃ t u, Judged d row s e t u := by
  obtain ⟨t, u, truths, isTrue, isTrue'⟩ := settled
  refine ⟨t, u, truths, fun worth weighs => ?_⟩
  have value := truths.worth bool (Expr.nullness?_of_isCondition condition)
  rw [Expr.verdict_of_isLeaf leaf, if_pos condition, weighs.leaf leaf value, Value.isTrue_ofTruth, Judges, isTrue,
    isTrue']
  cases holds <;> exact ⟨rfl, rfl⟩

/-- A stored truth value is judged by its own value, null included. -/
theorem Worth.judged {e : Expr String} {w : Value} (worth : Worth d row s e w) (bool : e.type = .bool)
    (stored : e.isCondition = false) (plain : Yields s.bindings (read s e).asIs fun x => IsPlain x.expr) :
    Judged d row s e w.truth? (Truth.neg w.truth?) where
  toTruths := worth.truths bool stored plain
  judges given weighs := by
    have leaf : e.isLeaf = true := Expr.isLeaf_of_not_isCondition stored
    rw [Expr.verdict_of_isLeaf leaf, stored, weighs.leaf leaf worth]
    exact ⟨rfl, rfl⟩

/-! ## Every expression is assessed -/

/-- The reading of an expression has one value in a row, and a condition is judged. -/
structure Assessed (d : Database) (row : Row) (s : Setting) (e : Expr String) : Prop where
  worth : ∃ w, Worth d row s e w
  judged : e.type = .bool → ∃ t u, Judged d row s e t u

/-- What is no condition is assessed by its value. -/
theorem assessed_of_answers {e : Expr String} {w : Value} (stored : e.isCondition = false)
    (answers : Answers s.bindings e w) (visits : Yields s.bindings (read s e).asIs fun x =>
      IsPlain x.expr ∧ x.expr.eval (s.after d row) = w ∧ w.HasType e.type) : Assessed d row s e := by
  have worth : Worth d row s e w := ⟨answers, visits.mono fun _ holds => holds.2⟩
  refine ⟨⟨w, worth⟩, fun bool => ?_⟩
  exact ⟨_, _, worth.judged bool stored (visits.mono fun _ holds => holds.1)⟩

/-- What keeps its value is assessed. -/
theorem assessed_of_keeps {e : Expr String} (stored : e.isCondition = false) (respects : row.Respects e)
    (visits : Yields s.bindings (read s e).asIs fun x => IsPlain x.expr ∧ Keeps d row s e x.expr) :
    Assessed d row s e :=
  assessed_of_answers stored (answers_eval respects)
    (visits.mono fun _ holds => ⟨holds.1, holds.2.value, holds.2.typed⟩)

/-- A condition is assessed by its truth values. -/
theorem assessed_of_judged {e : Expr String} (condition : e.isCondition = true) (bool : e.type = .bool)
    (judged : ∃ t u, Judged d row s e t u) : Assessed d row s e := by
  obtain ⟨t, u, both⟩ := judged
  exact ⟨⟨_, both.worth bool (Expr.nullness?_of_isCondition condition)⟩, fun _ => ⟨t, u, both⟩⟩

/-- A constant is worth its value. -/
theorem constant_worth {value : Value} {m : TypeMapping} (typed : (Expr.constant value m : Expr String).Typed) :
    Worth d row s (.constant value m) value where
  known := by
    rintro null ⟨⟩
    rfl
  present absent := absent
  asIs := meets_pure ⟨rfl, typed.2⟩

/-- A parameter is assessed by the value that is bound to it; a sequence is refused. -/
theorem parameter_assessed {name : String} {t : LogicalType} {m : TypeMapping} (typed : (Expr.parameter name t m).Typed)
    (respects : row.Respects (.parameter name t m)) : Assessed d row s (.parameter name t m) := by
  cases sequence : t.isSequence with
  | true =>
    -- A sequence has no value of its own: its reading is refused.
    refine assessed_of_answers (w := .null) rfl ⟨?_, ?_⟩ ?_
    · intro null known
      rw [Expr.nullness?, if_pos sequence] at known
      cases known
    · intro absent
      rw [Expr.mayBeNull, sequence] at absent
      cases absent
    · unfold read
      dsimp only
      rw [if_pos sequence]
      exact meets_throw trivial
  | false =>
    refine assessed_of_keeps rfl respects ?_
    unfold read
    dsimp only
    rw [sequence]
    exact parameter_keeps typed sequence

/-- A call, from its arguments. -/
theorem function_assessed {name : String} {es : List (Expr String)} {m : TypeMapping} {nullable : Bool}
    (each : ∀ e ∈ es, Assessed d row s e) : Assessed d row s (.function name es m nullable) := by
  have : Nonempty Value := ⟨.null⟩
  choose! value worth using fun e member => (each e member).worth
  refine assessed_of_answers (w := (d.call name nullable (es.map value) m).1) rfl ⟨?_, fun absent => ?_⟩ ?_
  · exact fun null known => absurd known (Option.not_mem_none null)
  · rw [Expr.mayBeNull, Bool.or_eq_false_iff, Expr.anyMayBeNull_eq_any, List.any_eq_false] at absent
    obtain ⟨rfl, present⟩ := absent
    refine Bool.eq_false_iff.mpr fun null => ?_
    obtain ⟨e, member, isNull⟩ := List.mem_map.mp (d.call_null (Value.isNull_iff.mp null))
    have present' := (worth e member).present (Bool.not_eq_true _ ▸ present e member)
    rw [isNull] at present'
    cases present'
  · have visits := visitAll_yields fun e member => (worth e member).asIs.mono fun _ holds => holds.1
    refine visits.bind fun xs values => meets_pure ⟨trivial, ?_, (d.call name nullable (es.map value) m).2⟩
    rw [Expr.eval, Expr.evalAll_eq_map, values]
    rfl

/-- A conversion, from its operand. -/
theorem convert_assessed {operand : Expr String} {m : TypeMapping} (respects : row.Respects (.convert operand m))
    (below : Assessed d row s operand) : Assessed d row s (.convert operand m) := by
  obtain ⟨w, worth⟩ := below.worth
  cases taken : convertedParameter? operand m.type with
  | some found =>
    obtain ⟨name, t⟩ := found
    obtain ⟨scalar, widens⟩ := widensTo_of_convertedParameter? taken
    obtain ⟨m', rfl⟩ := eq_parameter_of_convertedParameter? taken
    refine assessed_of_keeps rfl respects ?_
    unfold read
    dsimp only
    rw [taken]
    exact convertedParameter_keeps scalar (LogicalType.widensTo_iff.mp widens)
  | none =>
    have same : (d.cast w m).1.isNull = w.isNull := by
      rw [Bool.eq_iff_iff, Value.isNull_iff, Value.isNull_iff]
      exact d.cast_null
    refine assessed_of_answers (w := (d.cast w m).1) rfl ⟨?_, ?_⟩ ?_
    · exact fun null known => same.trans (worth.known null known)
    · exact fun absent => same.trans (worth.present absent)
    · unfold read
      dsimp only
      rw [taken]
      refine worth.asIs.bind fun x holds => meets_pure ⟨trivial, ?_, (d.cast w m).2⟩
      rw [Expr.eval, holds.1]
      rfl

/-- A sum or difference, from its operands. -/
theorem arithmetic_assessed {op : BinaryOp} {l r : Expr String} {m : TypeMapping} (sum : op = .add ∨ op = .subtract)
    (first : Assessed d row s l) (second : Assessed d row s r) : Assessed d row s (.binary op l r m) := by
  obtain ⟨x, left⟩ := first.worth
  obtain ⟨y, right⟩ := second.worth
  have visits : Yields s.bindings (visitBinary s op (read s l) (read s r) m) fun z =>
      IsPlain z.expr ∧ z.expr.eval (s.after d row) = (d.arithmetic op x y m).1 ∧
        (d.arithmetic op x y m).1.HasType m.type := by
    refine left.asIs.bind fun z holds => right.asIs.bind fun z' holds' => meets_pure ?_
    rw [reduced_binary (by rcases sum with rfl | rfl <;> rfl)]
    refine ⟨trivial, ?_, (d.arithmetic op x y m).2⟩
    rw [Expr.eval, holds.1, holds'.1]
    rcases sum with rfl | rfl <;> rfl
  have answers : Answers s.bindings (.binary op l r m) (d.arithmetic op x y m).1 := by
    refine ⟨fun null known => absurd known (Option.not_mem_none null), fun absent => ?_⟩
    rw [Expr.mayBeNull, Bool.or_eq_false_iff] at absent
    refine Bool.eq_false_iff.mpr fun null => ?_
    rcases d.arithmetic_null (Value.isNull_iff.mp null) with rfl | rfl
    · exact absurd (left.present absent.1) Bool.noConfusion
    · exact absurd (right.present absent.2) Bool.noConfusion
  rcases sum with rfl | rfl
  · exact assessed_of_answers rfl answers visits
  · exact assessed_of_answers rfl answers visits

/-- A binary operation, from its operands. -/
theorem binary_assessed (completes : s.relationalNulls = false) {op : BinaryOp} {l r : Expr String} {m : TypeMapping}
    (typed : (Expr.binary op l r m).Typed) (first : Assessed d row s l) (second : Assessed d row s r) :
    Assessed d row s (.binary op l r m) := by
  cases logical : op.isLogical with
  | true =>
    obtain ⟨left, right, bool⟩ := typed.of_connective logical
    obtain ⟨t, u, judged⟩ := first.judged left
    obtain ⟨t', u', judged'⟩ := second.judged right
    refine assessed_of_judged ?_ bool ⟨_, _, judged.connective logical judged'⟩
    rw [Expr.isCondition, logical, Bool.or_true]
  | false =>
    cases compares : op.isComparison with
    | true =>
      obtain ⟨x, left⟩ := first.worth
      obtain ⟨y, right⟩ := second.worth
      have condition : (Expr.binary op l r m).isCondition = true := by rw [Expr.isCondition, compares, Bool.true_or]
      have bool := type_condition typed condition
      refine assessed_of_judged condition bool ?_
      exact (comparison_settled completes compares left right).judged (by rw [Expr.isLeaf, logical]; rfl) condition bool
    | false =>
      refine arithmetic_assessed ?_ first second
      cases op with
      | add => exact .inl rfl
      | subtract => exact .inr rfl
      | and | or => cases logical
      | _ => cases compares

/-- Where nulls are completed, every well-typed expression that a query can ask for is assessed. -/
theorem assessed (completes : s.relationalNulls = false) {e : Expr String} (typed : e.WellTyped)
    (asked : e.Everywhere Expr.IsAsked) (respects : row.Respects e) : Assessed d row s e := by
  induction e with
  | constant value m => exact assessed_of_keeps rfl respects (meets_pure ⟨trivial, constant_keeps typed.here⟩)
  | parameter name t m => exact parameter_assessed typed.here respects
  | column table name m nullable => exact assessed_of_keeps rfl respects (meets_pure ⟨trivial, column_keeps⟩)
  | function name es m nullable each =>
    obtain ⟨-, typed⟩ := Expr.everywhere_function.mp typed
    obtain ⟨-, asked⟩ := Expr.everywhere_function.mp asked
    obtain ⟨-, respects⟩ := Expr.everywhere_function.mp respects
    exact function_assessed fun e member => each e member (typed e member) (asked e member) (respects e member)
  | binary op l r m first second =>
    obtain ⟨here, typedLeft, typedRight⟩ := Expr.everywhere_binary.mp typed
    obtain ⟨-, askedLeft, askedRight⟩ := Expr.everywhere_binary.mp asked
    obtain ⟨-, respectsLeft, respectsRight⟩ := Expr.everywhere_binary.mp respects
    exact binary_assessed completes here (first typedLeft askedLeft respectsLeft)
      (second typedRight askedRight respectsRight)
  | negation operand m below =>
    obtain ⟨⟨-, bool, bool'⟩, typed⟩ := Expr.everywhere_negation.mp typed
    have operand' := below typed (Expr.everywhere_negation.mp asked).2 (Expr.everywhere_negation.mp respects).2
    obtain ⟨t, u, judged⟩ := operand'.judged bool
    exact assessed_of_judged rfl bool' ⟨u, t, judged.negation⟩
  | nullTest operand negated m => exact asked.here.elim
  | convert operand m below =>
    have operand' := below (Expr.everywhere_convert.mp typed).2 (Expr.everywhere_convert.mp asked).2
      (Expr.everywhere_convert.mp respects).2
    exact convert_assessed respects operand'
  | inList item es negated m => exact asked.here.elim
  | inParameter item source negated m below _ =>
    obtain ⟨⟨-, ⟨name, element, sm, rfl, -⟩, bool⟩, typedItem, typedSource⟩ :=
      Expr.everywhere_inParameter.mp typed
    obtain rfl : element = sm.type := typedSource.here.sequence_eq
    have item' := below typedItem (Expr.everywhere_inParameter.mp asked).2.1
      (Expr.everywhere_inParameter.mp respects).2.1
    obtain ⟨w, worth⟩ := item'.worth
    refine assessed_of_judged rfl bool ?_
    -- what is sent is compared with itself, so the type in which the elements are sent is as good as any
    exact (membership_settled completes (fun _ _ _ => rfl) worth).judged rfl rfl bool
  | like subject pattern escape m first second _ =>
    obtain ⟨⟨-, -, -, -, bool⟩, typedSubject, typedPattern, typedEscape⟩ := Expr.everywhere_like.mp typed
    obtain ⟨⟨c, cm, rfl⟩, askedSubject, askedPattern, -⟩ := Expr.everywhere_like.mp asked
    obtain ⟨-, respectsSubject, respectsPattern, -⟩ := Expr.everywhere_like.mp respects
    obtain ⟨x, left⟩ := (first typedSubject askedSubject respectsSubject).worth
    obtain ⟨y, right⟩ := (second typedPattern askedPattern respectsPattern).worth
    have escaped : Worth d row s (.constant (.text c) cm) (.text c) := constant_worth (typedEscape _ rfl).here
    refine assessed_of_judged rfl bool ?_
    exact (like_settled completes left right (.some escaped) rfl).judged rfl rfl bool

/-- What is sent for a predicate and what is sent for its negation, as built. -/
theorem judged_not (completes : s.relationalNulls = false) {e e' : Expr String} (typed : e.WellTyped)
    (asked : e.Everywhere Expr.IsAsked) (respects : row.Respects e) (made : s.builder.not e = .ok e') :
    ∃ t u : Option Bool,
      Yields s.bindings (read s e).asIs (fun x => x.expr.eval (s.after d row) = .ofTruth t) ∧
      Yields s.bindings (read s e').asIs (fun x => x.expr.eval (s.after d row) = .ofTruth u) ∧
      ∀ worth, Weighs d row s worth e → Judges (e.verdict worth) t u := by
  obtain ⟨bool, ⟨value, m, rfl, rfl⟩ | ⟨m, rfl⟩ | ⟨inner, negated, m, rfl, rfl⟩ | rfl⟩ := Builder.not_eq_ok made
  · -- A truth value is turned around in place.
    refine ⟨some value, some (!value), meets_pure rfl, meets_pure rfl, fun worth weighs => ?_⟩
    rw [Expr.verdict_of_isLeaf rfl, weighs.leaf rfl (constant_worth typed.here)]
    cases value <;> exact ⟨rfl, rfl⟩
  · -- A negation is taken off.
    obtain ⟨t, u, judged⟩ := (assessed completes (Expr.everywhere_negation.mp typed).2
      (Expr.everywhere_negation.mp asked).2 (Expr.everywhere_negation.mp respects).2).judged typed.here.2.1
    exact ⟨u, t, judged.negated (some m), judged.asIs, judged.negation.judges⟩
  · exact asked.here.elim
  · obtain ⟨t, u, judged⟩ := (assessed completes typed asked respects).judged bool
    exact ⟨t, u, judged.asIs, judged.negated _, judged.judges⟩

end Specialization

/-! ## Statements -/

namespace Select

open SqlShape.Specialization

/-- The value of the predicate that is sent for a statement, with its placeholders bound, in a row. -/
def predicateValue (b : Builder) (options : SpecializationOptions) (v : Bindings) (d : Database) (row : Row)
    (s : Select String) : Except QueryError Value := do
  let outcome ← s.specialize b options v
  let bound ← outcome.placeholders.mapM (Placeholder.bind v)
  return (outcome.select.eval (.ofBound d row bound)).predicate

/-- The value of what is sent for an expression in place of the predicate; null if nothing can be sent. -/
def sentValue (b : Builder) (options : SpecializationOptions) (v : Bindings) (d : Database) (row : Row)
    (s : Select String) (e : Expr String) : Value :=
  ({ s with predicate := some e }.predicateValue b options v d row).toOption.getD .null

variable {b : Builder} {options : SpecializationOptions} {v : Bindings} {d : Database} {row : Row}
  {s : Select String} {p : Expr String}

/-- A reading that has one value in the row gives it to the predicate that is sent. -/
theorem predicateValue_eq_ok (typed : ∀ e ∈ s.expressions, e.WellTyped) (filter : s.predicate = some p) {w : Value}
    (value : Yields v (read ⟨b, options.relationalNulls, v⟩ p).asIs fun x => x.expr.eval (.ofSlots d row v) = w)
    {outcome : Specialized} (run : s.specialize b options v = .ok outcome) :
    s.predicateValue b options v d row = .ok w := by
  have each : ∀ e ∈ s.expressions, Yields v (read ⟨b, options.relationalNulls, v⟩ e).asIs fun x =>
      e = p → x.expr.eval (.ofSlots d row v) = w := by
    intro e member
    by_cases same : e = p
    · subst same
      exact value.mono fun x holds _ => holds
    · exact (read_supplies (s := ⟨b, options.relationalNulls, v⟩) (typed e member)).asIs.mono
        fun x _ here => absurd here same
  obtain ⟨t, found, binds, values⟩ := specialize_matches (R := fun e e' => e = p → e'.eval (.ofSlots d row v) = w)
    typed each run
  have sent : (t.eval (.ofSlots d row v)).predicate = w := by
    have related := found.predicate
    rw [filter] at related
    unfold Select.eval
    generalize t.predicate = o at related
    cases related with
    | some holds => exact holds rfl
  refine bind_eq_ok.mpr ⟨outcome, run, bind_eq_ok.mpr ⟨_, binds, ?_⟩⟩
  rw [values d row, sent]
  rfl

/-- A leaf of the predicate can be sent alone, and then has the value of its reading. -/
theorem weighs_sentValue (coherent : b.Coherent) (typed : ∀ e ∈ s.expressions, e.WellTyped)
    (admits : ∀ u ∈ s.uses, u.Admits v) (filter : s.predicate = some p) :
    Weighs d row ⟨b, options.relationalNulls, v⟩ (s.sentValue b options v d row) p := by
  intro leaf inside w worth
  have own : p ∈ s.expressions := mem_expressions.mpr (.inr (.inl filter))
  have split : ∀ e ∈ expressions { s with predicate := some leaf }, e ∈ s.expressions ∨ e = leaf := by
    intro e member
    rcases mem_expressions.mp member with here | here | here | here
    · exact .inl (mem_expressions.mpr (.inl here))
    · exact .inr (Option.some.inj here).symm
    · exact .inl (mem_expressions.mpr (.inr (.inr (.inl here))))
    · exact .inl (mem_expressions.mpr (.inr (.inr (.inr here))))
  have typed' : ∀ e ∈ expressions { s with predicate := some leaf }, e.WellTyped := by
    intro e member
    rcases split e member with here | rfl
    · exact typed e here
    · exact Expr.Everywhere.leaves (typed p own) e inside
  have admits' : ∀ u ∈ uses { s with predicate := some leaf }, u.Admits v := by
    intro u member
    obtain ⟨e, place, here⟩ := List.mem_flatMap.mp member
    rcases split e place with old | rfl
    · exact admits u (List.mem_flatMap.mpr ⟨e, old, here⟩)
    · exact admits u (List.mem_flatMap.mpr ⟨p, own, p.uses_leaf e inside here⟩)
  have sent : predicateValue b options v d row { s with predicate := some leaf } = .ok w := by
    cases run : specialize b options v { s with predicate := some leaf } with
    | ok outcome => exact predicateValue_eq_ok typed' rfl (worth.asIs.mono fun _ holds => holds.1) run
    | error refusal =>
      obtain ⟨u, member, refuses⟩ := specialize_blames coherent typed' run
      exact absurd (admits' u member) refuses.not_admits
  unfold sentValue
  rw [sent]
  rfl

end Select

namespace Lowering

variable {l : Lowering} {shape : Shape} {s : Select String}

/-- The predicate of a shape is lowered to the predicate of the statement. -/
theorem lowerShape_predicate {q : QueryExpr} (lowered : l.lowerShape { shape with predicate := some q } = .ok s) :
    ∃ p, s.predicate = some p ∧ (l.lower q).run = .ok (some p) := by
  obtain ⟨projections, -, lowered⟩ := bind_eq_ok.mp lowered
  obtain ⟨predicate, found, lowered⟩ := bind_eq_ok.mp lowered
  obtain ⟨orderings, -, lowered⟩ := bind_eq_ok.mp lowered
  obtain ⟨limit, -, lowered⟩ := bind_eq_ok.mp lowered
  cases lowered
  rw [Option.mapM_some, map_eq_pure_bind] at found
  obtain ⟨p, made, found⟩ := bind_eq_ok.mp found
  cases found
  refine ⟨p, rfl, ?_⟩
  obtain ⟨x, required, made⟩ := bind_eq_ok.mp made
  obtain ⟨o, form, rest⟩ := bind_eq_ok.mp required
  dsimp only at made
  split at made
  · cases made
  · cases made
    cases o with
    | none => cases rest
    | some y =>
      cases rest
      exact form

/-- The predicate of a shape and its negation are lowered to an expression and its negation. -/
theorem lowerShape_not {q : QueryExpr} {s' : Select String} {p : Expr String}
    (lowered : l.lowerShape { shape with predicate := some q } = .ok s)
    (lowered' : l.lowerShape { shape with predicate := some (.not q) } = .ok s') (filter : s.predicate = some p) :
    ∃ p', s'.predicate = some p' ∧ l.builder.not p = .ok p' := by
  obtain ⟨p₀, filter₀, form⟩ := lowerShape_predicate lowered
  obtain ⟨p', filter', form'⟩ := lowerShape_predicate lowered'
  cases filter.symm.trans filter₀
  rw [lower] at form'
  obtain ⟨x, form'', made⟩ := optionBind_eq_ok.mp form'
  cases form.symm.trans form''
  exact ⟨p', filter', optionLift_eq_ok.mp made⟩

/-- For every dialect, where nulls are completed: what is sent for a predicate is true in a row exactly if the verdict
on the predicate is true, and what is sent for its negation exactly if the verdict is false. So exactly one of the two
is true in a row where no stored truth value among the leaves is null. -/
theorem predicate_or_negation_true {dialect : Dialect} {l : Lowering} (made : dialect.lowering = .ok l) {shape : Shape}
    {q : QueryExpr} {s s' : Select String} (lowered : l.lowerShape { shape with predicate := some q } = .ok s)
    (lowered' : l.lowerShape { shape with predicate := some (.not q) } = .ok s') {p : Expr String}
    (filter : s.predicate = some p) {options : SpecializationOptions} (completes : options.relationalNulls = false)
    {v : Bindings} {outcome outcome' : Specialized} (run : s.specialize l.builder options v = .ok outcome)
    (run' : s'.specialize l.builder options v = .ok outcome') (d : Database) {row : Row} (respects : row.Respects p) :
    ∃ x x', s.predicateValue l.builder options v d row = .ok x ∧ s'.predicateValue l.builder options v d row = .ok x' ∧
      (x = .bool true ↔ p.verdict (s.sentValue l.builder options v d row) = some true) ∧
      (x' = .bool true ↔ p.verdict (s.sentValue l.builder options v d row) = some false) ∧
      ((∀ flag ∈ p.flags, s.sentValue l.builder options v d row flag ≠ .null) → (x = .bool true ↔ x' ≠ .bool true)) := by
  have serves := serves_lowering made
  have statement := lowerShape_lowered serves lowered
  have statement' := lowerShape_lowered serves lowered'
  have typed : ∀ e ∈ s.expressions, e.WellTyped := fun e member =>
    ((statement.expressions e member).native serves.builder).wellTypedIn.wellTyped
  have typed' : ∀ e ∈ s'.expressions, e.WellTyped := fun e member =>
    ((statement'.expressions e member).native serves.builder).wellTypedIn.wellTyped
  have own : p ∈ s.expressions := Select.mem_expressions.mpr (.inr (.inl filter))
  obtain ⟨p', filter', negated⟩ := lowerShape_not lowered lowered' filter
  obtain ⟨t, u, asIs, asIs', judges⟩ := Specialization.judged_not (d := d) (s := ⟨l.builder, options.relationalNulls, v⟩)
    completes (typed p own) (statement.expressions p own).everywhere_isAsked respects negated
  have judged := judges _ (Select.weighs_sentValue serves.builder.coherent typed
    (Select.specialize_admits serves.builder statement run) filter)
  refine ⟨.ofTruth t, .ofTruth u, Select.predicateValue_eq_ok typed filter asIs run,
    Select.predicateValue_eq_ok typed' filter' asIs' run', judged.true_iff, judged.false_iff, fun present => ?_⟩
  have known := Expr.verdict_ne_none present
  rw [judged.true_iff, ne_eq, judged.false_iff]
  generalize p.verdict (s.sentValue l.builder options v d row) = verdict at known ⊢
  rcases verdict with _ | _ | _
  · exact absurd rfl known
  · decide
  · decide

/-- A low rank on display. -/
def lowOnDisplay : QueryExpr :=
  .binary .and (.binary .less (.column "i" "Rank" .int32 true) (.parameter "low" .int32))
    (.column "i" "Displayed" .bool true)

/-- A row of truth values and nulls. -/
def unranked : Row
  | _, _, .bool => ⟨.bool true, .inr rfl⟩
  | _, _, t => .nullIf t True

/-- An item without a rank has no low rank, so it is taken by the negation, although it is on display. -/
theorem negation_takes_unranked : ∃ l s s', Dialect.sqlServer.lowering = .ok l ∧
    l.lowerShape { Shape.ofTable "Items" "i" with predicate := some lowOnDisplay } = .ok s ∧
    l.lowerShape { Shape.ofTable "Items" "i" with predicate := some (.not lowOnDisplay) } = .ok s' ∧
    s.predicateValue l.builder ⟨"p", false⟩ ⟨[("low", .int 3)]⟩ .small unranked ≠ .ok (.bool true) ∧
    s'.predicateValue l.builder ⟨"p", false⟩ ⟨[("low", .int 3)]⟩ .small unranked = .ok (.bool true) := by
  obtain ⟨l, made⟩ : ∃ l, Dialect.sqlServer.lowering = .ok l := ⟨_, rfl⟩
  obtain ⟨s, s', p, outcome, outcome', lowered, lowered', filter, run, run', respects, present, other⟩ :
      ∃ s s' p outcome outcome',
        l.lowerShape { Shape.ofTable "Items" "i" with predicate := some lowOnDisplay } = .ok s ∧
        l.lowerShape { Shape.ofTable "Items" "i" with predicate := some (.not lowOnDisplay) } = .ok s' ∧
        s.predicate = some p ∧ s.specialize l.builder ⟨"p", false⟩ ⟨[("low", .int 3)]⟩ = .ok outcome ∧
        s'.specialize l.builder ⟨"p", false⟩ ⟨[("low", .int 3)]⟩ = .ok outcome' ∧ unranked.Respects p ∧
        (∀ flag ∈ p.flags,
          s.sentValue l.builder ⟨"p", false⟩ ⟨[("low", .int 3)]⟩ .small unranked flag ≠ .null) ∧
        s.predicateValue l.builder ⟨"p", false⟩ ⟨[("low", .int 3)]⟩ .small unranked ≠ .ok (.bool true) := by
    cases made
    exact ⟨_, _, _, _, _, rfl, rfl, rfl, rfl, rfl, by decide, by decide, by decide⟩
  obtain ⟨x, x', value, value', -, -, complements⟩ :=
    predicate_or_negation_true made lowered lowered' filter rfl run run' .small respects
  rw [value] at other
  have taken : x' = .bool true := by
    by_contra untrue
    exact other (congrArg Except.ok ((complements present).mpr untrue))
  exact ⟨l, s, s', made, lowered, lowered', value ▸ other, taken ▸ value'⟩

/-- A row of nulls. -/
def blank : Row :=
  fun _ _ t => .nullIf t True

/-- A boolean column that is null is not taken, and neither is its negation. -/
theorem blank_displayed_untaken : ∃ l s s' p, Dialect.sqlServer.lowering = .ok l ∧
    l.lowerShape { Shape.ofTable "Items" "i" with predicate := some (.column "i" "Displayed" .bool true) } = .ok s ∧
    l.lowerShape { Shape.ofTable "Items" "i" with predicate := some (.not (.column "i" "Displayed" .bool true)) } =
      .ok s' ∧
    s.predicate = some p ∧ blank.Respects p ∧
    ∀ d : Database, s.predicateValue l.builder ⟨"p", false⟩ ⟨[]⟩ d blank = .ok .null ∧
      s'.predicateValue l.builder ⟨"p", false⟩ ⟨[]⟩ d blank = .ok .null :=
  ⟨_, _, _, _, rfl, rfl, rfl, rfl, by decide, fun _ => ⟨rfl, rfl⟩⟩

end Lowering

end SqlShape
