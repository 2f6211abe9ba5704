import SqlShape.Proofs.Exactness

/-!
# Specialization with the database's nulls

Where comparisons keep the database's treatment of null and no null is supplied, specialization changes no value.
Every expression of a built statement has the same value before and after, unknown included, at every depth: both
readings of an expression are exact (`read_exact`), the one as it stands in its value and the negated one in the
opposite truth value.

That no null is supplied matters in two places only. A comparison with a supplied null would be turned into a null
test, and a null element would be tested for apart from the others.
-/

namespace SqlShape

/-! ## Leaves that supply no null -/

namespace Expr

/-- A leaf that supplies no null: no null constant, no scalar that is bound to null, no list with a null. -/
def SuppliesNoNull (v : Bindings) : Expr String → Prop
  | constant value _ => value ≠ .null
  | parameter name t _ => if t.isSequence then .null ∉ v.elementsOf name else v.get? name ≠ some .null
  | _ => True

instance (v : Bindings) : DecidablePred (SuppliesNoNull v)
  | constant value _ => inferInstanceAs (Decidable (value ≠ .null))
  | parameter name t _ =>
    inferInstanceAs (Decidable (if t.isSequence then .null ∉ v.elementsOf name else v.get? name ≠ some .null))
  | column .. | function .. | binary .. | negation .. | nullTest .. | convert .. | inList .. | inParameter ..
  | like .. => inferInstanceAs (Decidable True)

/-- No leaf of an expression supplies a null. -/
def NullFree (v : Bindings) (e : Expr String) : Prop :=
  e.Everywhere (SuppliesNoNull v)

instance (v : Bindings) (e : Expr String) : Decidable (e.NullFree v) :=
  inferInstanceAs (Decidable (e.Everywhere (SuppliesNoNull v)))

end Expr

namespace Database

variable {d : Database}

/-- The opposite comparison has the opposite truth value. -/
theorem comparison_negated {op opposite : BinaryOp} (found : op.negated? = some opposite) (x y : Value) :
    d.comparison opposite x y = Truth.neg (d.comparison op x y) := by
  unfold comparison
  split
  · rfl
  · rw [BinaryOp.holds_negated? found]
    rfl

/-- A conjunction fails where one side does. -/
theorem binary_and_negated (x y : Value) (m m' : TypeMapping) :
    Value.ofTruth (Truth.neg (d.binary .and x y m).truth?) =
      d.binary .or (.ofTruth (Truth.neg x.truth?)) (.ofTruth (Truth.neg y.truth?)) m' := by
  simp only [binary, Value.truth?_ofTruth, Truth.neg_conj]

/-- A disjunction fails where both sides do. -/
theorem binary_or_negated (x y : Value) (m m' : TypeMapping) :
    Value.ofTruth (Truth.neg (d.binary .or x y m).truth?) =
      d.binary .and (.ofTruth (Truth.neg x.truth?)) (.ofTruth (Truth.neg y.truth?)) m' := by
  simp only [binary, Value.truth?_ofTruth, Truth.neg_disj]

end Database

/-- The opposite comparison has the opposite truth value, in expressions. -/
theorem Expr.eval_binary_negated {ρ : Type} {c : Context ρ} {op opposite : BinaryOp} {l r : Expr ρ}
    {m : TypeMapping} (found : op.negated? = some opposite) :
    (Expr.binary opposite l r m).eval c = .ofTruth (Truth.neg ((Expr.binary op l r m).eval c).truth?) := by
  have compares (x y : Value) : c.database.binary op x y m = .ofTruth (c.database.comparison op x y) ∧
      c.database.binary opposite x y m = .ofTruth (c.database.comparison opposite x y) := by
    cases op <;> cases found <;> exact ⟨rfl, rfl⟩
  rw [Expr.eval, Expr.eval, (compares _ _).1, (compares _ _).2, Database.comparison_negated found,
    Value.truth?_ofTruth]

namespace Specialization

variable {d : Database} {row : Row} {s : Setting}

/-! ## Rules where no null is supplied -/

/-- Nothing is known to be null. -/
theorem knownNullness_ne_true {e : Expr String} (nullFree : e.NullFree s.bindings) :
    Yields s.bindings (knownNullness s e) fun known => known ≠ some true := by
  induction e with
  | constant value m =>
    refine meets_pure fun same => ?_
    exact nullFree.here (Value.isNull_iff.mp (Option.some.inj same))
  | parameter name t m =>
    unfold knownNullness
    split
    · exact meets_pure (Option.some_ne_none true).symm
    next scalar =>
      refine Meets.bind (yields_lift fun _ found => found) fun value found => ?_
      refine meets_consult.bind fun _ _ => meets_pure fun same => ?_
      have unsupplied := nullFree.here
      rw [Expr.SuppliesNoNull, if_neg scalar] at unsupplied
      refine unsupplied ?_
      unfold Bindings.get at found
      split at found
      next known =>
        cases found
        rw [known, Value.isNull_iff.mp (Option.some.inj same)]
      next => cases found
  | column table name m nullable =>
    refine meets_pure ?_
    split
    · exact (Option.some_ne_none true).symm
    · exact fun same => Bool.false_ne_true (Option.some.inj same)
  | convert operand m below => exact below (Expr.everywhere_convert.mp nullFree).2
  | _ => exact meets_pure (Option.some_ne_none true).symm

/-- An equality or inequality stays a comparison. -/
theorem equality_exact (relational : s.relationalNulls = true) (equal : Bool) {l r : Expr String} (m : TypeMapping)
    (first : Kept d row s l) (second : Kept d row s r) (nullFreeLeft : l.NullFree s.bindings)
    (nullFreeRight : r.NullFree s.bindings) :
    Yields s.bindings (equality s equal (l, read s l) (r, read s r) m) fun x =>
      x.expr.eval (s.after d row) = (Expr.binary (equalityOp equal) l r m).eval (s.before d row) := by
  refine (knownNullness_ne_true nullFreeLeft).bind fun knownLeft left => ?_
  refine (knownNullness_ne_true nullFreeRight).bind fun knownRight right => ?_
  dsimp only
  rw [beq_false_of_ne left, beq_false_of_ne right]
  have flags : nullableOperands s equal l r = pure (false, false) := by
    unfold nullableOperands
    rw [relational]
    rfl
  rw [flags]
  refine (meets_pure rfl).bind fun flags same => ?_
  subst same
  refine first.bind fun x left => second.bind fun y right => ?_
  refine yields_lift fun z made => ?_
  cases equal with
  | true | false =>
    cases made
    dsimp only
    rw [Expr.eval, Expr.eval, left.value, right.value]
    rfl

/-- The elements of a sequence without a null, in place of the sequence. -/
theorem expandMembership_exact (relational : s.relationalNulls = true) (images : d.ComparesImages)
    {item : Expr String} {name : String} (sm : TypeMapping) (negated : Bool) (m : TypeMapping) (typed : item.Typed)
    (scalar : item.type.isSequence = false) (below : Kept d row s item)
    (unsupplied : .null ∉ s.bindings.elementsOf name) :
    Yields s.bindings (expandMembership s (item, read s item) name sm negated m) fun x =>
      x.expr.eval (s.after d row) = .ofTruth (Truth.signed negated (d.membership (item.eval (s.before d row))
        ((s.bindings.elementsOf name).map (Value.convertedTo · sm.type)))) := by
  have widens := LogicalType.widensTo_iff.mp (widensTo_elementMapping item sm)
  refine (elementPlaceholders_yields widens).bind fun expanded found => ?_
  obtain ⟨placeholders, hasNull⟩ := expanded
  obtain ⟨any, values, -, elements⟩ := found
  have present : ∀ y ∈ s.bindings.elementsOf name, y.isNull = false := fun y member =>
    Bool.eq_false_iff.mpr fun null => unsupplied (Value.isNull_iff.mp null ▸ member)
  have none : hasNull = false := by
    refine any.trans (List.any_eq_false.mpr fun y member => ?_)
    rw [present y member]
    exact Bool.false_ne_true
  have all : (s.bindings.elementsOf name).filter (!·.isNull) = s.bindings.elementsOf name :=
    List.filter_eq_self.mpr fun y member => by rw [present y member]; rfl
  subst none
  refine below.bind fun x keeps => ?_
  have complete : ∀ membership, completedMembership s item x.expr false negated membership = pure membership := by
    intro membership
    simp only [completedMembership, mayMatchNull, mayMissNull, relational, Bool.false_eq_true, if_false,
      Bool.not_true, Bool.and_false, pure_bind]
  dsimp only
  rw [complete, pure_bind]
  refine meets_pure ?_
  refine (eval_reduced sidesTyped_membership).trans ?_
  dsimp only [replaced]
  rw [eval_membership, keeps.value, values d row, all]
  exact congrArg (fun t => Value.ofTruth (Truth.signed negated t))
    (membership_elements (comparesAlike_own images typed scalar) keeps.typed elements)

/-- No arms are added for null. -/
theorem withNullArms_relational (relational : s.relationalNulls = true) (x : Visited)
    (operands : List (Expr String × Reading)) : withNullArms s x operands = pure x := by
  unfold withNullArms
  rw [relational]
  rfl

/-! ## Exact readings -/

/-- Both readings of an expression are exact. -/
structure ExactReading (d : Database) (row : Row) (s : Setting) (e : Expr String) : Prop where
  asIs : Kept d row s e
  negated : ∀ written, Yields s.bindings ((read s e).negated written) fun x => Denies d row s e x.expr

/-- A reading that is negated from outside. -/
theorem ExactReading.negating {e : Expr String} (outside : (read s e).negated = negateVisited s (read s e).asIs)
    (visits : Yields s.bindings (read s e).asIs fun x => IsPlain x.expr ∧ Keeps d row s e x.expr) :
    ExactReading d row s e := by
  refine ⟨visits.mono fun _ holds => holds.2, fun written => ?_⟩
  rw [outside]
  have negated := negateVisited_yields (P := (· = e.eval (s.before d row))) written
    (visits.mono fun _ holds => ⟨holds.1, holds.2.value⟩)
  refine negated.mono fun x holds => ?_
  obtain ⟨-, value, rfl, opposite⟩ := holds
  exact opposite

/-- A negated connective is the other connective over the negated operands. -/
theorem connective_denies {op opposite : BinaryOp} {l r : Expr String} {m : TypeMapping}
    (first : ExactReading d row s l) (second : ExactReading d row s r)
    (dual : ∀ x y : Value, Value.ofTruth (Truth.neg (d.binary op x y m).truth?) =
      d.binary opposite (.ofTruth (Truth.neg x.truth?)) (.ofTruth (Truth.neg y.truth?)) s.builder.boolMapping) :
    Yields s.bindings (do
      let l ← (read s l).negated none
      let r ← (read s r).negated none
      return (replaced (← s.builder.logical opposite l.expr r.expr)).reduced s.builder) fun x =>
        Denies d row s (.binary op l r m) x.expr := by
  refine (first.negated none).bind fun x left => (second.negated none).bind fun y right => ?_
  refine Meets.bind (yields_lift fun _ made => made) fun e made => meets_pure ?_
  obtain ⟨-, -, rfl⟩ := Builder.logical_eq_ok made
  refine (eval_reduced ?_).trans ?_
  · intro _
    rw [left, right]
    exact ⟨Value.hasType_ofTruth _, Value.hasType_ofTruth _⟩
  · dsimp only [replaced]
    rw [Expr.eval, left, right]
    exact (dual _ _).symm

/-- A negated ordering is the opposite ordering. -/
theorem ordering_denies (relational : s.relationalNulls = true) {op opposite : BinaryOp} {l r : Expr String}
    {m : TypeMapping} (first : Kept d row s l) (second : Kept d row s r) (found : op.negated? = some opposite) :
    Yields s.bindings (do
      let x ← visitBinary s opposite (read s l) (read s r) m
      return replaced (← withNullArms s x [(l, read s l), (r, read s r)]).expr) fun x =>
        Denies d row s (.binary op l r m) x.expr := by
  have unconnected : opposite.isLogical = false := by cases op <;> cases found <;> rfl
  refine (visitBinary_yields opposite m first second fun logical => ?_).bind fun x same => ?_
  · rw [unconnected] at logical
    cases logical
  · rw [withNullArms_relational relational, pure_bind]
    exact meets_pure (same.trans (Expr.eval_binary_negated found))

/-- A binary operation. -/
theorem binary_exact (relational : s.relationalNulls = true) {op : BinaryOp} {l r : Expr String} {m : TypeMapping}
    (typed : (Expr.binary op l r m).Typed) (first : ExactReading d row s l) (second : ExactReading d row s r)
    (nullFreeLeft : l.NullFree s.bindings) (nullFreeRight : r.NullFree s.bindings) :
    ExactReading d row s (.binary op l r m) := by
  have compared (equal : Bool) :=
    equality_exact relational equal m first.asIs second.asIs nullFreeLeft nullFreeRight
  have kept {visit : Pass Visited} (value : Yields s.bindings visit fun x =>
      x.expr.eval (s.after d row) = (Expr.binary op l r m).eval (s.before d row)) :
      Yields s.bindings visit fun x => Keeps d row s (.binary op l r m) x.expr :=
    value.mono fun _ same => ⟨same, hasType_binary typed _ _⟩
  cases op with
  | and =>
    obtain ⟨left, right, -⟩ := typed.of_connective rfl
    refine ⟨kept (visitBinary_yields .and m first.asIs second.asIs fun _ => ⟨left, right⟩), fun _ => ?_⟩
    exact connective_denies first second fun x y => Database.binary_and_negated x y m _
  | or =>
    obtain ⟨left, right, -⟩ := typed.of_connective rfl
    refine ⟨kept (visitBinary_yields .or m first.asIs second.asIs fun _ => ⟨left, right⟩), fun _ => ?_⟩
    exact connective_denies first second fun x y => Database.binary_or_negated x y m _
  | equal =>
    refine ⟨kept (compared true), fun _ => (compared false).bind fun x same => meets_pure ?_⟩
    exact same.trans (Expr.eval_binary_negated rfl)
  | notEqual =>
    refine ⟨kept (compared false), fun _ => (compared true).bind fun x same => meets_pure ?_⟩
    exact same.trans (Expr.eval_binary_negated rfl)
  | add => exact .negating rfl (arithmetic_keeps typed (.inl rfl) first.asIs second.asIs)
  | subtract => exact .negating rfl (arithmetic_keeps typed (.inr rfl) first.asIs second.asIs)
  | _ =>
    refine ⟨kept (visitBinary_yields _ m first.asIs second.asIs fun logical => ?_), fun _ => ?_⟩
    · cases logical
    · exact ordering_denies relational first.asIs second.asIs rfl

/-- Two negations keep a truth value. -/
theorem negation_exact {operand : Expr String} {m : TypeMapping} (typed : (Expr.negation operand m).Typed)
    (below : ExactReading d row s operand) : ExactReading d row s (.negation operand m) := by
  obtain ⟨-, operandBool, bool⟩ := typed
  have same : (Expr.negation operand m).type = .bool := bool
  refine ⟨(below.negated (some m)).mono fun x denies => ⟨denies, ?_⟩, fun _ => ?_⟩
  · rw [same]
    exact Value.hasType_ofTruth _
  · refine below.asIs.bind fun x keeps => meets_pure (keeps.value.trans ?_)
    rw [Expr.eval, Value.truth?_ofTruth, Truth.neg_neg, Value.ofTruth_truth? (operandBool ▸ keeps.typed)]

theorem nullTest_exact {operand : Expr String} {negated : Bool} {m : TypeMapping}
    (typed : (Expr.nullTest operand negated m).Typed) (respects : row.Respects operand)
    (below : ExactReading d row s operand) : ExactReading d row s (.nullTest operand negated m) := by
  have bool : (Expr.nullTest operand negated m).type = .bool := typed.2
  refine ⟨(nullTest_yields negated m respects below.asIs).mono fun x same => ⟨same, ?_⟩, fun _ => ?_⟩
  · rw [bool]
    exact .inr rfl
  · refine Meets.bind (yields_lift fun _ _ => trivial) fun _ _ => ?_
    refine (nullTest_yields (!negated) _ respects below.asIs).bind fun x same => meets_pure (same.trans ?_)
    rw [Expr.eval]
    cases (operand.eval (s.before d row)).isNull <;> cases negated <;> rfl

/-- A membership in a list, visited operand by operand. -/
theorem visitList_yields {item : Expr String} {es : List (Expr String)} (negated : Bool) (m : TypeMapping)
    (below : Kept d row s item) (each : ∀ e ∈ es, Kept d row s e) :
    Yields s.bindings (visitList (read s item) (readAll s es) negated m) fun x =>
      x.expr.eval (s.after d row) = (Expr.inList item es negated m).eval (s.before d row) := by
  have values := visitAll_yields fun e member => (each e member).mono fun _ keeps => keeps.value
  refine below.bind fun x keeps => values.bind fun xs same => meets_pure ?_
  rw [Expr.eval, Expr.eval, Expr.evalAll_eq_map, Expr.evalAll_eq_map, keeps.value, same]
  rfl

theorem inList_exact (relational : s.relationalNulls = true) {item : Expr String} {es : List (Expr String)}
    {negated : Bool} {m : TypeMapping} (typed : (Expr.inList item es negated m).Typed)
    (below : ExactReading d row s item) (each : ∀ e ∈ es, ExactReading d row s e) :
    ExactReading d row s (.inList item es negated m) := by
  have bool : (Expr.inList item es negated m).type = .bool := typed.2.2
  have visits (negated : Bool) := visitList_yields negated m below.asIs fun e member => (each e member).asIs
  refine ⟨(visits negated).mono fun x same => ⟨same, ?_⟩, fun _ => ?_⟩
  · rw [bool]
    exact Value.hasType_ofTruth _
  · refine (visits !negated).bind fun x same => ?_
    have denies : Denies d row s (.inList item es negated m) x.expr := by
      refine same.trans ?_
      rw [Expr.eval, Expr.eval, Truth.signed_not, Value.truth?_ofTruth]
    refine (mayHoldNull_meets negated fun e _ => mayBeNull_yields s e).bind fun may _ => ?_
    rw [withNullArms_relational relational, pure_bind]
    split
    · exact meets_pure denies
    · exact meets_pure denies

theorem inParameter_exact (relational : s.relationalNulls = true) (images : d.ComparesImages)
    {item source : Expr String} {negated : Bool} {m : TypeMapping}
    (typed : (Expr.inParameter item source negated m).Typed) (typedItem : item.Typed) (typedSource : source.Typed)
    (nullFree : source.NullFree s.bindings) (below : ExactReading d row s item) :
    ExactReading d row s (.inParameter item source negated m) := by
  obtain ⟨-, ⟨name, element, sm, rfl, comparable⟩, bool⟩ := typed
  have same : (Expr.inParameter item (.parameter name (.sequence element) sm) negated m).type = .bool := bool
  have inner : element = sm.type := Expr.Typed.sequence_eq typedSource
  subst inner
  have visits (negated : Bool) := expandMembership_exact relational images sm negated m typedItem
    (LogicalType.scalar_of_comparableWith comparable).1 below.asIs nullFree.here
  refine ⟨(visits negated).mono fun x value => ⟨value, ?_⟩, fun _ => (visits !negated).mono fun x value => ?_⟩
  · rw [same]
    exact Value.hasType_ofTruth _
  · refine value.trans ?_
    rw [Expr.eval, Truth.signed_not, Value.truth?_ofTruth]
    rfl

theorem like_exact (relational : s.relationalNulls = true) {subject pattern : Expr String}
    {escape : Option (Expr String)} {m : TypeMapping} (typed : (Expr.like subject pattern escape m).Typed)
    (first : ExactReading d row s subject) (second : ExactReading d row s pattern)
    (third : ∀ e ∈ escape, ExactReading d row s e) : ExactReading d row s (.like subject pattern escape m) := by
  have bool : (Expr.like subject pattern escape m).type = .bool := typed.2.2.2.2
  have visits := like_yields (m := m) first.asIs second.asIs fun e here => (third e here).asIs
  refine ⟨visits.mono fun x holds => ⟨holds.2, ?_⟩, fun written => ?_⟩
  · rw [bool]
    exact Value.hasType_ofTruth _
  · refine (negateVisited_yields (P := (· = _)) written visits).bind fun x holds => ?_
    obtain ⟨-, value, rfl, opposite⟩ := holds
    rw [withNullArms_relational relational]
    exact meets_pure opposite

/-- Where comparisons keep the database's nulls and no null is supplied, both readings of a well-typed expression
are exact. -/
theorem read_exact (relational : s.relationalNulls = true) (images : d.ComparesImages) {e : Expr String}
    (typed : e.WellTyped) (respects : row.Respects e) (nullFree : e.NullFree s.bindings) : ExactReading d row s e := by
  induction e with
  | constant value m => exact .negating rfl (meets_pure ⟨trivial, constant_keeps typed.here⟩)
  | parameter name t m =>
    refine .negating rfl ?_
    unfold read
    dsimp only
    split
    · exact meets_throw trivial
    next scalar => exact parameter_keeps typed.here (Bool.eq_false_iff.mpr scalar)
  | column table name m nullable => exact .negating rfl (meets_pure ⟨trivial, column_keeps⟩)
  | function name es m nullable each =>
    obtain ⟨-, typed⟩ := Expr.everywhere_function.mp typed
    obtain ⟨-, respects⟩ := Expr.everywhere_function.mp respects
    obtain ⟨-, nullFree⟩ := Expr.everywhere_function.mp nullFree
    refine .negating rfl (function_keeps fun e member => ?_)
    exact (each e member (typed e member) (respects e member) (nullFree e member)).asIs
  | binary op l r m left right =>
    obtain ⟨typed, typedLeft, typedRight⟩ := Expr.everywhere_binary.mp typed
    obtain ⟨-, respectsLeft, respectsRight⟩ := Expr.everywhere_binary.mp respects
    obtain ⟨-, nullFreeLeft, nullFreeRight⟩ := Expr.everywhere_binary.mp nullFree
    exact binary_exact relational typed (left typedLeft respectsLeft nullFreeLeft)
      (right typedRight respectsRight nullFreeRight) nullFreeLeft nullFreeRight
  | negation e m below =>
    obtain ⟨typed, typedBelow⟩ := Expr.everywhere_negation.mp typed
    exact negation_exact typed
      (below typedBelow (Expr.everywhere_negation.mp respects).2 (Expr.everywhere_negation.mp nullFree).2)
  | nullTest e negated m below =>
    obtain ⟨typed, typedBelow⟩ := Expr.everywhere_nullTest.mp typed
    obtain ⟨-, respects⟩ := Expr.everywhere_nullTest.mp respects
    exact nullTest_exact typed respects (below typedBelow respects (Expr.everywhere_nullTest.mp nullFree).2)
  | convert e m below =>
    obtain ⟨-, typed⟩ := Expr.everywhere_convert.mp typed
    refine .negating rfl (convert_keeps ?_)
    exact (below typed (Expr.everywhere_convert.mp respects).2 (Expr.everywhere_convert.mp nullFree).2).asIs
  | inList item es negated m below each =>
    obtain ⟨typed, typedItem, typedValues⟩ := Expr.everywhere_inList.mp typed
    obtain ⟨-, respectsItem, respectsValues⟩ := Expr.everywhere_inList.mp respects
    obtain ⟨-, nullFreeItem, nullFreeValues⟩ := Expr.everywhere_inList.mp nullFree
    exact inList_exact relational typed (below typedItem respectsItem nullFreeItem) fun e member =>
      each e member (typedValues e member) (respectsValues e member) (nullFreeValues e member)
  | inParameter item source negated m below =>
    obtain ⟨typed, typedItem, typedSource⟩ := Expr.everywhere_inParameter.mp typed
    obtain ⟨-, respectsItem, -⟩ := Expr.everywhere_inParameter.mp respects
    obtain ⟨-, nullFreeItem, nullFreeSource⟩ := Expr.everywhere_inParameter.mp nullFree
    exact inParameter_exact relational images typed typedItem.here typedSource.here nullFreeSource
      (below typedItem respectsItem nullFreeItem)
  | like subject pattern escape m first second third =>
    obtain ⟨typed, typedSubject, typedPattern, typedEscape⟩ := Expr.everywhere_like.mp typed
    obtain ⟨-, respectsSubject, respectsPattern, respectsEscape⟩ := Expr.everywhere_like.mp respects
    obtain ⟨-, nullFreeSubject, nullFreePattern, nullFreeEscape⟩ := Expr.everywhere_like.mp nullFree
    exact like_exact relational typed (first typedSubject respectsSubject nullFreeSubject)
      (second typedPattern respectsPattern nullFreePattern) fun e here =>
        third e here (typedEscape e here) (respectsEscape e here) (nullFreeEscape e here)

end Specialization

/-- Where comparisons keep the database's nulls and no null is supplied, the parts of a built statement have the
values in every row that they had before it was specialized, with the placeholders bound. The catalog must map each
type to itself, as those of the dialects do (`Builder.coherent_ofCatalog`), and the database must compare with an
element of a sequence as with its image in the type of the item. -/
theorem Select.specialize_keeps_values {b : Builder} (coherent : b.Coherent) {options : SpecializationOptions}
    (relational : options.relationalNulls = true) {s : Select String} (built : ∀ e ∈ s.expressions, b.Built e)
    {v : Bindings} (nullFree : ∀ e ∈ s.expressions, e.NullFree v) {d : Database} (images : d.ComparesImages)
    {row : Row} (respects : ∀ e ∈ s.expressions, row.Respects e) {outcome : Specialized}
    (run : s.specialize b options v = .ok outcome) :
    ∃ bound, outcome.placeholders.mapM (Placeholder.bind v) = .ok bound ∧
      outcome.select.eval (.ofBound d row bound) = s.eval (.ofBindings d row v) := by
  have typed : ∀ e ∈ s.expressions, e.WellTyped := fun e member => (built e member).wellTyped coherent
  have each : ∀ e ∈ s.expressions,
      Specialization.Yields v (Specialization.read ⟨b, options.relationalNulls, v⟩ e).asIs fun x =>
        x.expr.eval (.ofSlots d row v) = e.eval (.ofBindings d row v) := fun e member =>
    (Specialization.read_exact (s := ⟨b, options.relationalNulls, v⟩) relational images (typed e member)
      (respects e member) (nullFree e member)).asIs.mono fun _ keeps => keeps.value
  obtain ⟨t, same, binds, values⟩ := Specialization.specialize_matches
    (R := fun e e' => e'.eval (.ofSlots d row v) = e.eval (.ofBindings d row v)) typed each run
  exact ⟨_, binds, (values d row).trans (eval_eq_of_matches same)⟩

/-- Values for all parameters, none of them null. -/
def Blogs.given : Bindings :=
  ⟨[("name", .text "a"), ("score", .int 3), ("ranks", .list [.int 1, .int 2]), ("take", .int 5)]⟩

/-- The name of a blog is null, so it is unknown whether the statement takes it; the specialized statement leaves it
unknown. -/
theorem Select.specialize_others_unknown :
    ∃ outcome bound, Blogs.others.specialize Blogs.builder ⟨"p", true⟩ Blogs.given = .ok outcome ∧
      outcome.placeholders.mapM (Placeholder.bind Blogs.given) = .ok bound ∧
      outcome.select.eval (.ofBound .small Blogs.nameless bound) =
        Blogs.others.eval (.ofBindings .small Blogs.nameless Blogs.given) ∧
      (outcome.select.eval (.ofBound .small Blogs.nameless bound)).predicate = .null := by
  obtain ⟨outcome, run⟩ : ∃ outcome, Blogs.others.specialize Blogs.builder ⟨"p", true⟩ Blogs.given = .ok outcome :=
    ⟨_, rfl⟩
  obtain ⟨bound, binds, same⟩ := specialize_keeps_values Blogs.coherent_builder rfl Blogs.built_others
    (by decide) Database.small_comparesImages
    (show ∀ e ∈ Blogs.others.expressions, Blogs.nameless.Respects e by decide) run
  refine ⟨outcome, bound, run, binds, same, ?_⟩
  rw [same]
  decide

end SqlShape
