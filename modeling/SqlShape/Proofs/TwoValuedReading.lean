import SqlShape.Proofs.Completion

/-!
# Specialization where null equals null

In a query a condition is true or false. Null equals null, nothing else is equal to null, and an ordering or a
pattern match with a null is false (`Expr.holds`). In the database the same condition may be unknown. A condition
that is specialized is true in the database exactly in the rows where it holds in the query, and so is its negation
(`read_decides`). Each reading is only right for the sign under which it is read: the comparison that completes an
equality is not the one that completes its negation.

The conditions are the connectives over comparisons, memberships in a parameter, pattern matches and null tests of
scalars, and over boolean scalars that are not null in the row (`Expr.IsCondition`).
-/

namespace SqlShape

/-- A connective in a query. -/
def BinaryOp.joins (op : BinaryOp) (p q : Bool) : Bool :=
  match op with
  | and => p && q
  | _ => p || q

/-- A connective is true by the sides that are true. -/
theorem Truth.isTrue_join {op : BinaryOp} (logical : op.isLogical = true) (s t : Option Bool) :
    (join op s t == some true) = op.joins (s == some true) (t == some true) := by
  cases op with
  | and => exact isTrue_conj s t
  | or => exact isTrue_disj s t
  | _ => cases logical

namespace Expr

variable {ρ : Type}

/-- An expression holds in a query. An ordering or a pattern match with a null operand does not. -/
def holds (c : Context ρ) : Expr ρ → Bool
  | binary .and l r _ => l.holds c && r.holds c
  | binary .or l r _ => l.holds c || r.holds c
  | binary .equal l r _ => c.database.same (l.eval c) (r.eval c)
  | binary .notEqual l r _ => !c.database.same (l.eval c) (r.eval c)
  | negation e _ => !e.holds c
  | inParameter item source negated _ => (source.elements c).any (c.database.same (item.eval c)) != negated
  | e => (e.eval c).isTrue

/-- Constants, scalar parameters and columns, and calls, conversions, sums and differences of such. -/
inductive IsScalar : Expr ρ → Prop
  | constant {v : Value} {m : TypeMapping} : IsScalar (constant v m)
  | parameter {ref : ρ} {t : LogicalType} {m : TypeMapping} (scalar : t.isSequence = false) :
      IsScalar (parameter ref t m)
  | column {table name : String} {m : TypeMapping} {nullable : Bool} : IsScalar (column table name m nullable)
  | function {name : String} {es : List (Expr ρ)} {m : TypeMapping} {nullable : Bool}
      (operands : ∀ e ∈ es, IsScalar e) : IsScalar (function name es m nullable)
  | convert {e : Expr ρ} {m : TypeMapping} (operand : IsScalar e) : IsScalar (convert e m)
  | arithmetic {op : BinaryOp} {l r : Expr ρ} {m : TypeMapping} (sum : op = .add ∨ op = .subtract)
      (first : IsScalar l) (second : IsScalar r) : IsScalar (binary op l r m)

/-- The conditions that a query asks, in one row. -/
inductive IsCondition (c : Context ρ) : Expr ρ → Prop
  | connective {op : BinaryOp} {l r : Expr ρ} {m : TypeMapping} (logical : op.isLogical = true)
      (first : IsCondition c l) (second : IsCondition c r) : IsCondition c (binary op l r m)
  | negation {e : Expr ρ} {m : TypeMapping} (operand : IsCondition c e) : IsCondition c (negation e m)
  | comparison {op : BinaryOp} {l r : Expr ρ} {m : TypeMapping} (compares : op.isComparison = true)
      (first : IsScalar l) (second : IsScalar r) : IsCondition c (binary op l r m)
  | membership {item source : Expr ρ} {negated : Bool} {m : TypeMapping} (scalar : IsScalar item) :
      IsCondition c (inParameter item source negated m)
  | like {subject pattern : Expr ρ} {escape : Option (Expr ρ)} {m : TypeMapping} (first : IsScalar subject)
      (second : IsScalar pattern) (third : ∀ e ∈ escape, IsScalar e ∧ e.eval c ≠ .null) :
      IsCondition c (like subject pattern escape m)
  | nullTest {e : Expr ρ} {negated : Bool} {m : TypeMapping} (operand : IsScalar e) :
      IsCondition c (nullTest e negated m)
  | boolean {e : Expr ρ} (scalar : IsScalar e) (bool : e.type = .bool) (present : e.eval c ≠ .null) :
      IsCondition c e

end Expr

namespace Expr

variable {ρ : Type} {c : Context ρ}

theorem holds_nullTest {e : Expr ρ} {negated : Bool} {m : TypeMapping} :
    (nullTest e negated m).holds c = ((e.eval c).isNull != negated) :=
  Value.isTrue_bool _

theorem holds_like {subject pattern : Expr ρ} {escape : Option (Expr ρ)} {m : TypeMapping} :
    (like subject pattern escape m).holds c =
      (c.database.like (subject.eval c) (pattern.eval c) (escape.map (eval c)) == some true) := by
  rw [← evalOption_eq_map]
  exact Value.isTrue_ofTruth _

/-- A comparison holds where the database finds its sides related. -/
theorem holds_comparison {op : BinaryOp} (compares : op.isComparison = true) {l r : Expr ρ} {m : TypeMapping} :
    (binary op l r m).holds c = c.database.relates op (l.eval c) (r.eval c) := by
  cases op with
  | and | or | add | subtract => cases compares
  | equal | notEqual => rfl
  | _ => exact (Value.isTrue_ofTruth _).trans (Database.comparison_isTrue _ _ _)

/-- A scalar is no condition. -/
theorem IsScalar.isCondition {e : Expr ρ} (scalar : e.IsScalar) : e.isCondition = false := by
  cases scalar with
  | arithmetic sum first second =>
    rcases sum with rfl | rfl
    · rfl
    · rfl
  | _ => rfl

/-- A scalar holds where its value is true. -/
theorem holds_scalar {e : Expr ρ} (scalar : e.IsScalar) : e.holds c = (e.eval c).isTrue := by
  cases scalar with
  | arithmetic sum first second =>
    rcases sum with rfl | rfl
    · rfl
    · rfl
  | _ => rfl

end Expr

/-- A query takes a row where its predicate holds, and every row without one. -/
def Select.takes {ρ : Type} (c : Context ρ) (s : Select ρ) : Bool :=
  s.predicate.all (Expr.holds c)

namespace Specialization

variable {d : Database} {row : Row} {s : Setting}

/-! ## Expressions that decide a condition -/

/-- An expression with a truth value, which is true exactly where a condition holds. -/
structure Decides (c : Context Slot) (e : Expr Slot) (truth : Bool) : Prop where
  typed : (e.eval c).HasType .bool
  value : (e.eval c).isTrue = truth

namespace Decides

variable {c : Context Slot} {e l r : Expr Slot} {p q : Bool}

/-- An expression decides whether its truth value is true. -/
theorem ofTruth {t : Option Bool} (value : e.eval c = .ofTruth t) : Decides c e (t == some true) := by
  refine ⟨?_, ?_⟩
  · rw [value]
    exact Value.hasType_ofTruth t
  · rw [value, Value.isTrue_ofTruth]

theorem of_eq (decides : Decides c e p) (same : p = q) : Decides c e q :=
  same ▸ decides

end Decides

/-! ## Scalars -/

/-- Scalars keep their values, nulls included. -/
theorem scalar_keeps {e : Expr String} (scalar : e.IsScalar) (typed : e.WellTyped) :
    Yields s.bindings (read s e).asIs fun x => IsPlain x.expr ∧ Keeps d row s e x.expr := by
  induction scalar with
  | constant => exact meets_pure ⟨trivial, constant_keeps typed.here⟩
  | parameter single =>
    unfold read
    dsimp only
    rw [single]
    exact parameter_keeps typed.here single
  | column => exact meets_pure ⟨trivial, column_keeps⟩
  | function operands each =>
    obtain ⟨-, typed⟩ := Expr.everywhere_function.mp typed
    exact function_keeps fun e member => (each e member (typed e member)).mono fun _ holds => holds.2
  | convert operand below =>
    obtain ⟨-, typed⟩ := Expr.everywhere_convert.mp typed
    exact convert_keeps ((below typed).mono fun _ holds => holds.2)
  | arithmetic sum first second left right =>
    obtain ⟨here, typedLeft, typedRight⟩ := Expr.everywhere_binary.mp typed
    exact arithmetic_keeps here sum ((left typedLeft).mono fun _ holds => holds.2)
      ((right typedRight).mono fun _ holds => holds.2)

/-- In a row that respects its columns, a scalar has one value. -/
theorem scalar_worth {e : Expr String} (scalar : e.IsScalar) (typed : e.WellTyped) (respects : row.Respects e) :
    Worth d row s e (e.eval (s.before d row)) where
  toAnswers := answers_eval respects
  asIs := (scalar_keeps scalar typed).mono fun _ holds => ⟨holds.2.value, holds.2.typed⟩

/-! ## Settled conditions -/

/-- A connective. -/
theorem connective_settled {op : BinaryOp} (logical : op.isLogical = true) {l r : Expr String} {m : TypeMapping}
    {p q : Bool} (first : Settled d row s l p) (second : Settled d row s r q) :
    Settled d row s (.binary op l r m) (op.joins p q) := by
  obtain ⟨t, u, truths, left, left'⟩ := first
  obtain ⟨t', u', truths', right, right'⟩ := second
  refine ⟨_, _, connective_truths logical truths truths', ?_, ?_⟩
  · rw [Truth.isTrue_join logical, left, right]
  · cases op with
    | and =>
      refine (Truth.isTrue_disj u u').trans ?_
      rw [left', right']
      exact (Bool.not_and p q).symm
    | or =>
      refine (Truth.isTrue_conj u u').trans ?_
      rw [left', right']
      exact (Bool.not_or p q).symm
    | _ => cases logical

/-- A negation. -/
theorem negation_settled {e : Expr String} {m : TypeMapping} {p : Bool} (below : Settled d row s e p) :
    Settled d row s (.negation e m) (!p) := by
  obtain ⟨t, u, truths, isTrue, isTrue'⟩ := below
  exact ⟨u, t, negation_truths truths, isTrue', isTrue.trans (Bool.not_not p).symm⟩

/-- A test for null. -/
theorem nullTest_settled {operand : Expr String} {negated : Bool} {m : TypeMapping}
    (respects : row.Respects operand) (below : Kept d row s operand) :
    Settled d row s (.nullTest operand negated m) ((operand.eval (s.before d row)).isNull != negated) := by
  have tests (negated : Bool) (m : TypeMapping) := nullTest_yields negated m respects below
  refine ⟨some ((operand.eval (s.before d row)).isNull != negated),
    some ((operand.eval (s.before d row)).isNull != !negated),
    ⟨tests negated m, fun _ => ?_, fun _ => ⟨Option.some_ne_none _, Option.some_ne_none _⟩⟩, ?_, ?_⟩
  · refine Meets.bind (yields_lift fun _ _ => trivial) fun _ _ => ?_
    exact (tests (!negated) _).bind fun x value => meets_pure value
  · cases (operand.eval (s.before d row)).isNull <;> cases negated <;> rfl
  · cases (operand.eval (s.before d row)).isNull <;> cases negated <;> rfl

/-- A boolean scalar that is not null. -/
theorem boolean_settled {e : Expr String} (scalar : e.IsScalar) (typed : e.WellTyped) (bool : e.type = .bool)
    (respects : row.Respects e) (present : e.eval (s.before d row) ≠ .null) :
    Settled d row s e (e.eval (s.before d row)).isTrue := by
  have worth : Worth d row s e (e.eval (s.before d row)) := scalar_worth scalar typed respects
  have keeps : Yields s.bindings (read s e).asIs fun x => IsPlain x.expr ∧ Keeps d row s e x.expr :=
    scalar_keeps scalar typed
  refine ⟨_, _, worth.truths bool scalar.isCondition (keeps.mono fun _ holds => holds.1), ?_, ?_⟩
  · rw [Value.truth?_of_ne_null present]
    cases (e.eval (s.before d row)).isTrue <;> rfl
  · rw [Value.truth?_of_ne_null present]
    cases (e.eval (s.before d row)).isTrue <;> rfl

/-- Where nulls are completed, both readings of a well-typed condition are true exactly under their signs. -/
theorem read_settled (completes : s.relationalNulls = false) (images : d.ComparesImages) {e : Expr String}
    (condition : e.IsCondition (s.before d row)) (typed : e.WellTyped) (respects : row.Respects e) :
    Settled d row s e (e.holds (s.before d row)) := by
  induction condition with
  | @connective op l r m logical first second left right =>
    obtain ⟨-, typedLeft, typedRight⟩ := Expr.everywhere_binary.mp typed
    obtain ⟨-, respectsLeft, respectsRight⟩ := Expr.everywhere_binary.mp respects
    have joined : (Expr.binary op l r m).holds (s.before d row) =
        op.joins (l.holds (s.before d row)) (r.holds (s.before d row)) := by
      cases op with
      | and | or => rfl
      | _ => cases logical
    rw [joined]
    exact connective_settled logical (left typedLeft respectsLeft) (right typedRight respectsRight)
  | negation operand below =>
    obtain ⟨-, typed⟩ := Expr.everywhere_negation.mp typed
    obtain ⟨-, respects⟩ := Expr.everywhere_negation.mp respects
    exact negation_settled (below typed respects)
  | comparison compares first second =>
    obtain ⟨-, typedLeft, typedRight⟩ := Expr.everywhere_binary.mp typed
    obtain ⟨-, respectsLeft, respectsRight⟩ := Expr.everywhere_binary.mp respects
    rw [Expr.holds_comparison compares]
    exact comparison_settled completes compares (scalar_worth first typedLeft respectsLeft)
      (scalar_worth second typedRight respectsRight)
  | membership scalar =>
    obtain ⟨⟨-, ⟨name, element, sm, rfl, comparable⟩, -⟩, typedItem, typedSource⟩ :=
      Expr.everywhere_inParameter.mp typed
    obtain ⟨-, respectsItem, -⟩ := Expr.everywhere_inParameter.mp respects
    obtain rfl : element = sm.type := typedSource.here.sequence_eq
    have single := (LogicalType.scalar_of_comparableWith comparable).1
    exact membership_settled completes (comparesAlike_own images typedItem.here single)
      (scalar_worth scalar typedItem respectsItem)
  | @like subject pattern escape m first second third =>
    obtain ⟨-, typedSubject, typedPattern, typedEscape⟩ := Expr.everywhere_like.mp typed
    obtain ⟨-, respectsSubject, respectsPattern, respectsEscape⟩ := Expr.everywhere_like.mp respects
    have escaped : Option.Rel (Worth d row s) escape (escape.map (Expr.eval (s.before d row))) ∧
        (escape.map (Expr.eval (s.before d row))).any Value.isNull = false := by
      cases escape with
      | none => exact ⟨.none, rfl⟩
      | some e =>
        obtain ⟨scalar, present⟩ := third e rfl
        refine ⟨.some (scalar_worth scalar (typedEscape e rfl) (respectsEscape e rfl)), ?_⟩
        exact Bool.eq_false_iff.mpr fun null => present (Value.isNull_iff.mp null)
    rw [Expr.holds_like]
    exact like_settled completes (scalar_worth first typedSubject respectsSubject)
      (scalar_worth second typedPattern respectsPattern) escaped.1 escaped.2
  | nullTest operand =>
    obtain ⟨-, typed⟩ := Expr.everywhere_nullTest.mp typed
    obtain ⟨-, respects⟩ := Expr.everywhere_nullTest.mp respects
    rw [Expr.holds_nullTest]
    exact nullTest_settled respects ((scalar_keeps operand typed).mono fun _ holds => holds.2)
  | boolean scalar bool present =>
    rw [Expr.holds_scalar scalar]
    exact boolean_settled scalar typed bool respects present

/-- Both readings of a condition decide it, each under its sign. -/
structure DecidedReading (d : Database) (row : Row) (s : Setting) (e : Expr String) : Prop where
  asIs : Yields s.bindings (read s e).asIs fun x => Decides (s.after d row) x.expr (e.holds (s.before d row))
  negated : ∀ written, Yields s.bindings ((read s e).negated written) fun x =>
    Decides (s.after d row) x.expr (!e.holds (s.before d row))

/-- Where nulls are completed, both readings of a well-typed condition decide it. -/
theorem read_decides (completes : s.relationalNulls = false) (images : d.ComparesImages) {e : Expr String}
    (condition : e.IsCondition (s.before d row)) (typed : e.WellTyped) (respects : row.Respects e) :
    DecidedReading d row s e := by
  obtain ⟨t, u, truths, isTrue, isTrue'⟩ := read_settled completes images condition typed respects
  refine ⟨truths.asIs.mono fun x value => (Decides.ofTruth value).of_eq isTrue, fun written => ?_⟩
  exact (truths.negated written).mono fun x value => (Decides.ofTruth value).of_eq isTrue'

end Specialization

/-- A predicate that is decided, or an absent one. -/
theorem Specialization.isTrue_of_rel {c : Context String} {c' : Context Slot} {o : Option (Expr String)}
    {o' : Option (Expr Slot)} (related : Option.Rel (fun e e' => e ∈ o → Decides c' e' (e.holds c)) o o') :
    ((o'.map (Expr.eval c')).getD (.bool true)).isTrue = o.all (Expr.holds c) := by
  cases related with
  | none => rfl
  | some decides => exact (decides rfl).value

/-- Where nulls are completed, the predicate of a specialized statement is true in the database, with the
placeholders bound, exactly in the rows that the query takes. The catalog must map each type to itself, as those of
the dialects do (`Builder.coherent_ofCatalog`). An element of a sequence is sent in the type of the item, so the
database must compare with it as with the element itself. -/
theorem Select.specialize_takes_same_rows {b : Builder} (coherent : b.Coherent) {options : SpecializationOptions}
    (completes : options.relationalNulls = false) {s : Select String} (built : ∀ e ∈ s.expressions, b.Built e)
    {v : Bindings} {d : Database} (images : d.ComparesImages) {row : Row}
    (condition : ∀ p ∈ s.predicate, p.IsCondition (.ofBindings d row v))
    (respects : ∀ p ∈ s.predicate, row.Respects p) {outcome : Specialized}
    (run : s.specialize b options v = .ok outcome) :
    ∃ bound, outcome.placeholders.mapM (Placeholder.bind v) = .ok bound ∧
      ((outcome.select.eval (.ofBound d row bound)).predicate = .bool true ↔
        s.takes (.ofBindings d row v) = true) := by
  have typed : ∀ e ∈ s.expressions, e.WellTyped := fun e member => (built e member).wellTyped coherent
  -- Only the predicate is read for its truth value; of the other parts nothing is asked here.
  have each : ∀ e ∈ s.expressions,
      Specialization.Yields v (Specialization.read ⟨b, options.relationalNulls, v⟩ e).asIs fun x =>
        e ∈ s.predicate → Specialization.Decides (.ofSlots d row v) x.expr (e.holds (.ofBindings d row v)) := by
    intro e member
    by_cases asked : e ∈ s.predicate
    · have decided : Specialization.DecidedReading d row ⟨b, options.relationalNulls, v⟩ e :=
        Specialization.read_decides completes images (condition e asked) (typed e member) (respects e asked)
      exact decided.asIs.mono fun x decides _ => decides
    · exact (Specialization.read_supplies (s := ⟨b, options.relationalNulls, v⟩) (typed e member)).asIs.mono
        fun x _ here => absurd here asked
  obtain ⟨t, same, binds, values⟩ := Specialization.specialize_matches (R := fun e e' => e ∈ s.predicate →
    Specialization.Decides (.ofSlots d row v) e' (e.holds (.ofBindings d row v))) typed each run
  refine ⟨_, binds, ?_⟩
  rw [values d row, ← Value.isTrue_iff]
  exact iff_of_eq (congrArg (· = true) (Specialization.isTrue_of_rel same.predicate))

/-- Values with a null for the name and one among the ranks. -/
def Blogs.partlyNull : Bindings :=
  ⟨[("name", .null), ("score", .int 0), ("ranks", .list [.int 1, .null]), ("take", .int 5)]⟩

/-- A blog without a name has the name that is null. Its score is not low and its rank is not listed, so the
statement takes it, in the database as in the query. -/
theorem Select.specialize_others_true :
    ∃ outcome bound, Blogs.others.specialize Blogs.builder ⟨"p", false⟩ Blogs.partlyNull = .ok outcome ∧
      outcome.placeholders.mapM (Placeholder.bind Blogs.partlyNull) = .ok bound ∧
      Blogs.others.takes (.ofBindings .small Blogs.nameless Blogs.partlyNull) = true ∧
      (outcome.select.eval (.ofBound .small Blogs.nameless bound)).predicate = .bool true := by
  obtain ⟨outcome, run⟩ : ∃ outcome,
      Blogs.others.specialize Blogs.builder ⟨"p", false⟩ Blogs.partlyNull = .ok outcome := ⟨_, rfl⟩
  have condition : ∀ p ∈ Blogs.others.predicate,
      p.IsCondition (.ofBindings .small Blogs.nameless Blogs.partlyNull) := by
    rintro p ⟨⟩
    refine .negation (.connective rfl (.connective rfl ?_ ?_) (.membership .column))
    · exact .comparison rfl .column (.parameter rfl)
    · exact .comparison rfl .column (.parameter rfl)
  have respects : ∀ p ∈ Blogs.others.predicate, Blogs.nameless.Respects p := by
    rintro p ⟨⟩
    decide
  have takes : Blogs.others.takes (.ofBindings .small Blogs.nameless Blogs.partlyNull) = true := by
    decide
  obtain ⟨bound, binds, same⟩ := specialize_takes_same_rows Blogs.coherent_builder rfl Blogs.built_others
    Database.small_comparesImages condition respects run
  exact ⟨outcome, bound, run, binds, takes, same.mpr takes⟩

end SqlShape
