import SqlShape.Proofs.Refusals
import SqlShape.Proofs.Searches
import SqlShape.Proofs.TwoValuedReading

/-!
# The rows that a search selects

A search of a column for a pattern and its negation are lowered, specialized and evaluated in the reference semantics
(`Lowering.takes`, `Lowering.predicateValue`). A comparison, a pattern match or a disjunction that is sent is true
exactly where its condition is, and its negation where the condition is false or, if nulls are completed, where it is
not true (`Sent`). So it is enough to compare the truth values of the two forms of a search: by a constant
(`Search.constantTruth`) and by a parameter (`Search.parameterTruth`).

They are the same but in one case (`Search.Misses`). SQLite takes the end of a text from a negative place, and the place
for an empty pattern is zero, from which all of the text is taken.
-/

namespace SqlShape

/-! ## Reference values -/

namespace Datum

/-- A reference value is null where the value is. -/
@[simp]
theorem isNull_ofValue (v : Value) : (ofValue v).isNull = v.isNull := by
  cases v <;> rfl

/-- A null or a text. -/
def Textual (x : Datum) : Prop :=
  x = .null ∨ ∃ characters, x = .text characters

theorem textual_ofValue {v : Value} (typed : v.HasType .text) : (ofValue v).Textual := by
  rcases typed with rfl | same
  · exact .inl rfl
  · cases v with
    | text s => exact .inr ⟨s.toList, rfl⟩
    | list items => simp only [Value.type?, Option.map_eq_some_iff, reduceCtorEq, and_false, exists_false] at same
    | _ => cases same

/-- A text that is not empty. -/
theorem exists_text_iff {v : Value} (typed : v.HasType .text) :
    (∃ s, s ≠ "" ∧ v = .text s) ↔ ofValue v ≠ .null ∧ ofValue v ≠ .text [] := by
  constructor
  · rintro ⟨s, nonempty, rfl⟩
    constructor
    · intro null
      cases null
    · intro empty
      exact nonempty (String.toList_eq_nil_iff.mp (text.inj empty))
  · rintro ⟨present, nonempty⟩
    rcases typed with rfl | same
    · exact absurd rfl present
    · cases v with
      | text s => exact ⟨s, fun empty => nonempty (congrArg text (String.toList_eq_nil_iff.mpr empty)), rfl⟩
      | list items => simp only [Value.type?, Option.map_eq_some_iff, reduceCtorEq, and_false, exists_false] at same
      | _ => cases same

/-- The opposite comparison is the negation. -/
theorem comparison_negated {op opposite : BinaryOp} (found : op.negated? = some opposite) (x y : Datum) :
    comparison opposite x y = Truth.neg (comparison op x y) := by
  unfold comparison
  split
  · rfl
  · rw [BinaryOp.holds_negated? found]
    rfl

/-- A comparison with a known value is unknown where the other side is null. -/
theorem isNone_comparison (op : BinaryOp) (x : Datum) {y : Datum} (present : y.isNull = false) :
    (comparison op x y).isNone = x.isNull := by
  unfold comparison
  rw [present]
  cases x.isNull <;> rfl

/-- Texts are equal where their characters are. -/
theorem comparison_text (s s' : List Char) : comparison .equal (text s) (text s') = some (decide (s = s')) := by
  unfold comparison order
  by_cases same : s = s'
  · simp [same, isNull, BinaryOp.holds]
  · simp [same, isNull, BinaryOp.holds]

theorem comparison_pos (n : Nat) : comparison .greater (number n) (number 0) = some (decide (0 < n)) := by
  have order : (compare (n : Int) 0).isGT = decide (0 < n) := by
    rw [Bool.eq_iff_iff, Ordering.isGT_iff_eq_gt, Int.compare_eq_gt, decide_eq_true_iff]
    omega
  exact congrArg some order

end Datum

/-- With other references an expression means the same, if these stand for the same values. -/
theorem Expr.denote_mapRef {ρ σ : Type} {d : Dialect} {row : Row} {f : ρ → σ} {before : ρ → LogicalType → Value}
    {after : σ → LogicalType → Value} (e : Expr ρ) (same : ∀ r ∈ e.refs, ∀ t, after (f r) t = before r t) :
    (e.mapRef f).denote d row after = e.denote d row before := by
  induction e with
  | constant | column => rfl
  | parameter ref t m => exact congrArg Datum.ofValue (same ref List.mem_cons_self t)
  | function name es m nullable each =>
    rw [refs_function] at same
    have values : es.map (fun e => (e.mapRef f).denote d row after) = es.map (denote d row before) :=
      List.map_congr_left fun e member =>
        each e member fun r inside => same r (List.mem_flatMap.mpr ⟨e, member, inside⟩)
    rw [mapRef, denote, denote, denoteAll_eq_map, denoteAll_eq_map, mapRefList_eq_map, List.map_map]
    exact congrArg (d.called name) values
  | binary op l r m left right =>
    rw [refs_binary] at same
    rw [mapRef, denote, denote, left fun r inside => same r (List.mem_append_left _ inside),
      right fun r inside => same r (List.mem_append_right _ inside)]
  | negation e m below => rw [mapRef, denote, denote, below (refs_negation e m ▸ same)]
  | nullTest e negated m below => rw [mapRef, denote, denote, below (refs_nullTest e m negated ▸ same)]
  | convert | inList | inParameter => rfl
  | like s p o m first second each =>
    rw [refs_like] at same
    have escape : denoteOption d row after (mapRefOption f o) = denoteOption d row before o := by
      cases o with
      | none => rfl
      | some e =>
        refine congrArg some (each e rfl fun r inside => same r (List.mem_append_right _ ?_))
        exact List.mem_flatMap.mpr ⟨e, List.mem_cons_self, inside⟩
    rw [mapRef, denote, denote, escape,
      first fun r inside => same r (List.mem_append_left _ (List.mem_append_left _ inside)),
      second fun r inside => same r (List.mem_append_left _ (List.mem_append_right _ inside))]

/-! ## Conditions that are sent -/

/-- The negation of a condition is sent such that it is true: where the condition is false, or where it is not true. -/
def Truth.denied (relational : Bool) (t : Option Bool) : Bool :=
  if relational then t == some false else t != some true

namespace Truth

/-- Where a condition is unknown exactly for a null, its opposite with an arm for that null. -/
theorem neg_or_isNull (relational : Bool) {t : Option Bool} {null : Bool} (unknown : t.isNone = null) :
    ((neg t == some true) || !relational && null) = denied relational t := by
  subst unknown
  cases relational <;> rcases t with _ | _ | _ <;> rfl

theorem denied_some (relational value : Bool) : denied relational (some value) = (some (!value) == some true) := by
  cases relational <;> cases value <;> rfl

/-- A disjunction is denied where both sides are. -/
theorem denied_disj (relational : Bool) (t u : Option Bool) :
    denied relational (disj t u) = (denied relational t && denied relational u) := by
  cases relational <;> rcases t with _ | _ | _ <;> rcases u with _ | _ | _ <;> rfl

end Truth

/-- The value of a slot. -/
def Bindings.ofSlot (v : Bindings) (slot : Slot) (_ : LogicalType) : Value :=
  slot.key.valueIn v

namespace Specialization

variable {d : Dialect} {row : Row} {s : Setting}

/-- The reading of an expression as it stands means one value in a row, and what is answered about its nullness is
right. -/
structure Operand (d : Dialect) (row : Row) (s : Setting) (e : Expr String) (x : Datum) : Prop where
  asIs : Yields s.bindings (read s e).asIs fun z => z.expr.denote d row s.bindings.ofSlot = x
  known : ∀ null ∈ e.nullness? s.bindings, x.isNull = null
  present : e.mayBeNull s.bindings = false → x.isNull = false

/-! ### Operands -/

/-- A constant is worth its value. -/
theorem operand_constant (value : Value) (m : TypeMapping) :
    Operand d row s (.constant value m) (.ofValue value) where
  asIs := meets_pure rfl
  known null known := by
    cases known
    exact Datum.isNull_ofValue value
  present absent := (Datum.isNull_ofValue value).trans absent

/-- A column is worth its cell; one that is declared not to be null must not be. -/
theorem operand_column {table name : String} {m : TypeMapping} {type : LogicalType} {nullable : Bool}
    (typed : m.type = type) (filled : nullable = false → (row table name type).1 ≠ .null) :
    Operand d row s (.column table name m nullable) (.ofValue (row table name type).1) := by
  subst typed
  have present (declared : nullable = false) : (Datum.ofValue (row table name m.type).1).isNull = false := by
    rw [Datum.isNull_ofValue]
    exact Bool.eq_false_iff.mpr fun null => filled declared (Value.isNull_iff.mp null)
  refine ⟨meets_pure rfl, fun null known => ?_, present⟩
  cases nullable with
  | true => cases known
  | false =>
    cases known
    exact present rfl

/-- A parameter whose value needs no conversion. -/
theorem operand_bound {name : String} {type : LogicalType} {m : TypeMapping} {value : Value}
    (scalar : type.isSequence = false) (typed : m.type = type) (bound : s.bindings.get? name = some value)
    (same : value.convertedTo type = value) : Operand d row s (.parameter name type m) (.ofValue value) := by
  have found : s.bindings.valueOf name = value := by
    rw [Bindings.valueOf, bound]
    rfl
  refine ⟨?_, fun null known => ?_, fun absent => ?_⟩
  · rw [read, if_neg (Bool.eq_false_iff.mp scalar)]
    refine Meets.mono (readParameter_yields s (typed ▸ .refl type) typed.symm) fun z placed => ?_
    obtain ⟨-, -, slot, placed, -, held⟩ := placed
    rw [placed, Expr.denote, Bindings.ofSlot, held, found, typed, same]
  · rw [Expr.nullness?, if_neg (Bool.eq_false_iff.mp scalar), found] at known
    cases known
    exact Datum.isNull_ofValue value
  · rw [Expr.mayBeNull, Bool.or_eq_false_iff, found] at absent
    exact (Datum.isNull_ofValue value).trans absent.2

/-- A parameter is worth the text that is bound to it. -/
theorem operand_parameter {name p : String} {m : TypeMapping} (text : m.type = .text)
    (bound : s.bindings.get? name = some (.text p)) :
    Operand d row s (.parameter name .text m) (.text p.toList) :=
  operand_bound rfl text bound rfl

/-- Operands that cannot be null are worth no null. -/
theorem isNull_of_operands {es : List (Expr String)} {xs : List Datum} (each : List.Forall₂ (Operand d row s) es xs)
    (absent : Expr.anyMayBeNull s.bindings es = false) : ∀ x ∈ xs, x.isNull = false := by
  induction each with
  | nil => exact List.forall_mem_nil _
  | cons first _ later =>
    rw [Expr.anyMayBeNull, Bool.or_eq_false_iff] at absent
    exact List.forall_mem_cons.mpr ⟨first.present absent.1, later absent.2⟩

/-- A call that is null only where an argument is. -/
theorem operand_function {name : String} {es : List (Expr String)} {xs : List Datum} {x : Datum} {m : TypeMapping}
    (each : List.Forall₂ (Operand d row s) es xs) (called : d.called name xs = x)
    (strict : (∀ y ∈ xs, y.isNull = false) → x.isNull = false) : Operand d row s (.function name es m false) x := by
  have values : Yields s.bindings (visitAll (readAll s es)) fun zs =>
      (zs.map Visited.expr).map (Expr.denote d row s.bindings.ofSlot) = xs := by
    clear called strict
    induction each with
    | nil => exact meets_pure rfl
    | cons first _ later =>
      unfold visitAll readAll
      rw [List.mapM_cons]
      refine first.asIs.bind fun z value => later.bind fun zs values => meets_pure ?_
      rw [List.map_cons, List.map_cons, value, values]
  refine ⟨values.bind fun zs same => meets_pure ?_, fun null known => ?_, fun absent => ?_⟩
  · rw [Expr.denote, Expr.denoteAll_eq_map, same, called]
  · cases known
  · exact strict (isNull_of_operands each absent)

/-- A difference is worth the difference of its sides. -/
theorem operand_subtract {l r : Expr String} {i j : Int} {m : TypeMapping} (first : Operand d row s l (.number i))
    (second : Operand d row s r (.number j)) : Operand d row s (.binary .subtract l r m) (.number (i - j)) := by
  refine ⟨first.asIs.bind fun x left => second.asIs.bind fun y right => meets_pure ?_, fun null known => ?_,
    fun _ => rfl⟩
  · rw [reduced_binary rfl, Expr.denote, left, right]
    rfl
  · cases known

/-! ### Truth values -/

/-- An expression over slots has a truth value in a row, which is true or not. -/
def Shows (d : Dialect) (row : Row) (v : Bindings) (e : Expr Slot) (holds : Bool) : Prop :=
  ∃ t, e.denote d row v.ofSlot = .ofTruth t ∧ (t == some true) = holds

/-- What is sent for a condition and for its negation. -/
structure Sent (d : Dialect) (row : Row) (s : Setting) (e : Expr String) (t : Option Bool) : Prop where
  asIs : Yields s.bindings (read s e).asIs fun z => Shows d row s.bindings z.expr (t == some true)
  negated : ∀ written, Yields s.bindings ((read s e).negated written) fun z =>
    Shows d row s.bindings z.expr (Truth.denied s.relationalNulls t)

/-- A truth value shows itself. -/
theorem Shows.of_truth? {v : Bindings} {e : Expr Slot} {holds value : Bool} (shown : Shows d row v e holds)
    (found : e.truth? = some value) : holds = value := by
  obtain ⟨t, means, rfl⟩ := shown
  unfold Expr.truth? at found
  split at found
  · cases found
    cases t with
    | none => cases means
    | some b =>
      cases means
      cases value <;> rfl
  · cases found

/-- A connective shows what its sides show, joined. -/
theorem shows_join {v : Bindings} {op : BinaryOp} (logical : op.isLogical = true) {l r : Expr Slot} {p q : Bool}
    (left : Shows d row v l p) (right : Shows d row v r q) (m : TypeMapping) :
    Shows d row v (.binary op l r m) (op.joins p q) := by
  obtain ⟨t, means, rfl⟩ := left
  obtain ⟨u, means', rfl⟩ := right
  refine ⟨Truth.join op t u, ?_, Truth.isTrue_join logical t u⟩
  rw [Expr.denote, means, means']
  cases op with
  | and | or => simp only [Datum.binary, Datum.truth?_ofTruth, Truth.join]
  | _ => cases logical

/-- A connective, with a truth value in it dropped. -/
theorem shows_connective {v : Bindings} {b : Builder} {op : BinaryOp} (logical : op.isLogical = true) {l r : Expr Slot}
    {p q : Bool} (left : Shows d row v l p) (right : Shows d row v r q) (m : TypeMapping) (changed : Bool) :
    Shows d row v (Visited.reduced b ⟨.binary op l r m, changed⟩).expr (op.joins p q) := by
  unfold Visited.reduced
  split
  next reduced found =>
    cases reduces_of_reduce? found with
    | decided decides here =>
      refine ⟨some _, rfl, ?_⟩
      rcases here with here | here
      · rw [left.of_truth? here]
        cases op <;> cases decides <;> rfl
      · rw [right.of_truth? here]
        cases op <;> cases decides <;> cases p <;> rfl
    | left decides here =>
      rw [right.of_truth? here]
      cases op <;> cases decides <;> cases p <;> exact left
    | right decides here =>
      rw [left.of_truth? here]
      cases op <;> cases decides <;> exact right
  next => exact shows_join logical left right m

/-- A null test shows whether its operand is null. -/
theorem shows_isNull {v : Bindings} {b : Builder} {e : Expr Slot} {x : Datum}
    (value : e.denote d row v.ofSlot = x) : Shows d row v (b.isNull e) x.isNull := by
  refine ⟨some x.isNull, ?_, by cases x.isNull <;> rfl⟩
  rw [Builder.isNull, Expr.denote, value, Bool.bne_false]
  rfl

/-- The arm of an operand beside one that is not null. -/
theorem withNullArms_shows {l r : Expr String} {x : Datum} (first : Operand d row s l x)
    (known : r.nullness? s.bindings = some false) {z : Visited} {holds : Bool}
    (shown : Shows d row s.bindings z.expr holds) (whole : z.reduced s.builder = z) :
    Yields s.bindings (withNullArms s z [(l, read s l), (r, read s r)]) fun z' =>
      Shows d row s.bindings z'.expr (holds || !s.relationalNulls && x.isNull) := by
  -- The second operand adds no arm, so only the first one can change what is shown.
  have rest {z : Visited} {holds : Bool} (shown : Shows d row s.bindings (z.reduced s.builder).expr holds) :
      Yields s.bindings (addNullArms s z [(r, read s r)]) fun z' => Shows d row s.bindings z'.expr holds := by
    refine (knownNullness_yields s r).bind fun answer same => ?_
    rw [known] at same
    subst same
    exact meets_pure shown
  rw [← whole] at shown
  unfold withNullArms
  split
  next relational =>
    rw [relational, Bool.not_true, Bool.false_and, Bool.or_false]
    exact meets_pure (whole ▸ shown)
  next completes =>
    rw [Bool.eq_false_iff.mpr completes, Bool.not_false, Bool.true_and]
    refine (knownNullness_yields s l).bind fun answer same => ?_
    subst same
    split
    next null =>
      rw [first.known true null, Bool.or_true]
      exact meets_pure ⟨some true, rfl, rfl⟩
    next present =>
      rw [first.known false present, Bool.or_false]
      exact rest shown
    next =>
      refine (mayBeNull_yields s l).bind fun may same => ?_
      subst same
      split
      next =>
        refine first.asIs.bind fun o value => Meets.bind (yields_lift fun _ made => made) fun e made => ?_
        obtain ⟨-, -, rfl⟩ := Builder.logical_eq_ok made
        exact rest (shows_connective rfl (whole ▸ shown) (shows_isNull value) _ _)
      next absent =>
        rw [first.present (Bool.eq_false_iff.mpr absent), Bool.or_false]
        exact rest shown

/-! ### Conditions -/

/-- A truth value is sent as it is and negated as the other. -/
theorem sent_truth (value : Bool) (m : TypeMapping) : Sent d row s (.constant (.bool value) m) (some value) := by
  refine ⟨meets_pure ⟨some value, rfl, rfl⟩, fun written => ?_⟩
  rw [Truth.denied_some]
  refine (meets_pure rfl).bind fun z same => ?_
  subst same
  split
  · exact meets_pure ⟨some (!value), rfl, rfl⟩
  · refine Meets.bind (yields_lift fun _ made => made) fun e made => meets_pure ?_
    obtain ⟨-, ⟨_, _, same, rfl⟩ | ⟨_, same⟩ | ⟨_, _, _, same, -⟩ | rfl⟩ := Builder.not_eq_ok made
    · cases same
      exact ⟨some (!value), rfl, rfl⟩
    · cases same
    · cases same
    · exact ⟨some (!value), rfl, rfl⟩

/-- A comparison with a side that is known not to be null: it is unknown exactly where the other side is null. -/
theorem sent_greater {l r : Expr String} {x y : Datum} {m : TypeMapping} (first : Operand d row s l x)
    (second : Operand d row s r y) (known : r.nullness? s.bindings = some false) :
    Sent d row s (.binary .greater l r m) (Datum.comparison .greater x y) := by
  have present : y.isNull = false := second.known false known
  have visits {op : BinaryOp} (other : op.isLogical = false)
      (compares : Datum.binary op x y = .ofTruth (Datum.comparison op x y)) :
      Yields s.bindings (visitBinary s op (read s l) (read s r) m) fun z =>
        Shows d row s.bindings z.expr (Datum.comparison op x y == some true) ∧ z.reduced s.builder = z := by
    refine first.asIs.bind fun z left => second.asIs.bind fun z' right => meets_pure ?_
    rw [reduced_binary other]
    refine ⟨⟨_, ?_, rfl⟩, reduced_binary other⟩
    rw [Expr.denote, left, right, compares]
  refine ⟨(visits rfl rfl).mono fun _ holds => holds.1, fun written => ?_⟩
  rw [← Truth.neg_or_isNull s.relationalNulls (Datum.isNone_comparison .greater x present),
    ← Datum.comparison_negated (show BinaryOp.greater.negated? = some .lessEqual from rfl)]
  refine (visits (show BinaryOp.lessEqual.isLogical = false from rfl) rfl).bind fun z holds => ?_
  exact (withNullArms_shows first known holds.1 holds.2).bind fun z' shown => meets_pure shown

/-- An equality or inequality with an operand that is not null. -/
theorem equality_shows (equal : Bool) {l r : Expr String} {x y : Datum} {m : TypeMapping} (first : Operand d row s l x)
    (second : Operand d row s r y) (unknown : l.nullness? s.bindings ≠ some true)
    (known : r.nullness? s.bindings = some false) :
    Yields s.bindings (equality s equal (l, read s l) (r, read s r) m) fun z => Shows d row s.bindings z.expr
      ((Datum.comparison (equalityOp equal) x y == some true) || !equal && (!s.relationalNulls && x.isNull)) := by
  refine (knownNullness_yields s l).bind fun answer same => (knownNullness_yields s r).bind fun answer' same' => ?_
  subst same same'
  dsimp only
  rw [beq_false_of_ne unknown, known]
  refine (nullableOperands_yields s equal l r).bind fun flags same => ?_
  refine first.asIs.bind fun z left => second.asIs.bind fun z' right => yields_lift fun made completes => ?_
  have compared : Shows d row s.bindings (.binary (equalityOp equal) z.expr z'.expr m)
      (Datum.comparison (equalityOp equal) x y == some true) := by
    refine ⟨_, ?_, rfl⟩
    rw [Expr.denote, left, right]
    cases equal <;> rfl
  rw [Expr.mayBeNull_of_mem known] at same
  cases equal with
  | true =>
    -- An equality is completed only where both operands may be null.
    rw [Bool.not_true, Bool.false_and, Bool.or_false]
    obtain ⟨leftNullable, rightNullable⟩ := flags
    obtain rfl : rightNullable = false := by
      split at same <;> cases same <;> rfl
    cases leftNullable <;> cases completes <;> exact compared
  | false =>
    rw [Bool.false_and, Bool.or_false] at same
    rw [Bool.not_false, Bool.true_and]
    split at same
    next relational =>
      subst same
      cases completes
      rw [relational, Bool.not_true, Bool.false_and, Bool.or_false]
      exact compared
    next relational =>
      subst same
      rw [Bool.eq_false_iff.mpr relational, Bool.not_false, Bool.true_and]
      cases may : l.mayBeNull s.bindings with
      | true =>
        rw [may] at completes
        obtain ⟨e, built, rest⟩ := bind_eq_ok.mp completes
        cases rest
        obtain ⟨-, -, rfl⟩ := Builder.logical_eq_ok built
        exact shows_join rfl compared (shows_isNull left) s.builder.boolMapping
      | false =>
        rw [may] at completes
        cases completes
        rw [first.present may, Bool.or_false]
        exact compared

/-- An equation of a side that is not known to be null with one that is known not to be. -/
theorem sent_equal {l r : Expr String} {x y : Datum} {m : TypeMapping} (first : Operand d row s l x)
    (second : Operand d row s r y) (unknown : l.nullness? s.bindings ≠ some true)
    (known : r.nullness? s.bindings = some false) :
    Sent d row s (.binary .equal l r m) (Datum.comparison .equal x y) := by
  have present : y.isNull = false := second.known false known
  constructor
  · refine (equality_shows true first second unknown known).mono fun z shown => ?_
    rwa [Bool.not_true, Bool.false_and, Bool.or_false] at shown
  · intro written
    rw [← Truth.neg_or_isNull s.relationalNulls (Datum.isNone_comparison .equal x present),
      ← Datum.comparison_negated (show BinaryOp.equal.negated? = some .notEqual from rfl)]
    exact (equality_shows false first second unknown known).bind fun z shown => meets_pure shown

/-- A pattern match that is unknown exactly where its subject is null. -/
theorem sent_like {subject pattern escape : Expr String} {x y c : Datum} {t : Option Bool} {m : TypeMapping}
    (first : Operand d row s subject x) (second : Operand d row s pattern y) (third : Operand d row s escape c)
    (known : pattern.nullness? s.bindings = some false) (matched : d.likened x y (some c) = .ofTruth t)
    (unknown : t.isNone = x.isNull) : Sent d row s (.like subject pattern (some escape) m) t := by
  have visits : Yields s.bindings (read s (.like subject pattern (some escape) m)).asIs fun z =>
      (∃ u p o m, z.expr = .like u p o m) ∧ z.expr.denote d row s.bindings.ofSlot = .ofTruth t := by
    have escapes : Yields s.bindings ((readOption s (some escape)).mapM Reading.asIs) fun o =>
        Expr.denoteOption d row s.bindings.ofSlot (o.map Visited.expr) = some c := by
      rw [readOption, Option.mapM_some, map_eq_pure_bind]
      exact third.asIs.bind fun z value => meets_pure (congrArg some value)
    refine first.asIs.bind fun u subject => second.asIs.bind fun p pattern => escapes.bind fun o escape => ?_
    refine meets_pure ⟨⟨_, _, _, _, rfl⟩, ?_⟩
    rw [Expr.denote, subject, pattern, escape, matched]
  refine ⟨visits.mono fun z holds => ⟨t, holds.2, rfl⟩, fun written => ?_⟩
  have negates : Yields s.bindings (negateVisited s (read s (.like subject pattern (some escape) m)).asIs written)
      fun z => (∃ e m, z.expr = .negation e m) ∧ z.expr.denote d row s.bindings.ofSlot = .ofTruth (Truth.neg t) := by
    have opposite {e : Expr Slot} {m : TypeMapping} (value : e.denote d row s.bindings.ofSlot = .ofTruth t) :
        (Expr.negation e m).denote d row s.bindings.ofSlot = .ofTruth (Truth.neg t) := by
      rw [Expr.denote, value, Datum.truth?_ofTruth]
    refine visits.bind fun z holds => ?_
    obtain ⟨⟨u, p, o, m', like⟩, value⟩ := holds
    split
    · exact meets_pure ⟨⟨_, _, rfl⟩, opposite value⟩
    · refine Meets.bind (yields_lift fun _ made => made) fun e made => meets_pure ?_
      rw [like] at made value
      obtain ⟨-, ⟨_, _, same, -⟩ | ⟨_, same⟩ | ⟨_, _, _, same, -⟩ | rfl⟩ := Builder.not_eq_ok made
      · cases same
      · cases same
      · cases same
      · exact ⟨⟨_, _, rfl⟩, opposite value⟩
  rw [← Truth.neg_or_isNull s.relationalNulls unknown]
  refine negates.bind fun z holds => ?_
  obtain ⟨⟨e, m', negation⟩, value⟩ := holds
  have whole : z.reduced s.builder = z := by
    unfold Visited.reduced
    rw [negation]
    rfl
  exact withNullArms_shows first known ⟨_, value, rfl⟩ whole

/-- A disjunction is sent as one, and negated as a conjunction. -/
theorem sent_or {l r : Expr String} {t u : Option Bool} {m : TypeMapping} (first : Sent d row s l t)
    (second : Sent d row s r u) : Sent d row s (.binary .or l r m) (Truth.disj t u) := by
  constructor
  · rw [Truth.isTrue_disj]
    exact first.asIs.bind fun z left => second.asIs.bind fun z' right =>
      meets_pure (shows_connective rfl left right m _)
  · intro written
    rw [Truth.denied_disj]
    refine (first.negated none).bind fun z left => (second.negated none).bind fun z' right => ?_
    refine Meets.bind (yields_lift fun _ made => made) fun e made => meets_pure ?_
    obtain ⟨-, -, rfl⟩ := Builder.logical_eq_ok made
    exact shows_connective rfl left right _ _

end Specialization

/-! ## Places in a text -/

namespace Text

/-- A text occurs in another where it starts one of its tails. -/
theorem occursIn_eq_any (sought source : List Char) :
    MethodRule.occursIn sought source = source.tails.any sought.isPrefixOf := by
  induction source with
  | nil => cases sought <;> rfl
  | cons c rest later => rw [MethodRule.occursIn, later, List.tails_cons, List.any_cons]

/-- A sequence has a place exactly where it starts what is left at some place. -/
theorem place_pos_any {α : Type} [BEq α] (sought source : List α) :
    0 < place sought source ↔ source.tails.any sought.isPrefixOf = true := by
  rw [← List.findIdx?_isSome]
  unfold place
  cases source.tails.findIdx? sought.isPrefixOf with
  | none => simp
  | some index => simp

/-- A text has a place exactly where it occurs. -/
theorem place_pos (sought source : List Char) : 0 < place sought source ↔ MethodRule.occursIn sought source = true := by
  rw [occursIn_eq_any, place_pos_any]

/-- A text starts with what as many of its first characters are. -/
theorem decide_take (p s : List Char) : decide (s.take p.length = p) = p.isPrefixOf s := by
  rw [Bool.eq_iff_iff, decide_eq_true_iff, List.isPrefixOf_iff_prefix, List.prefix_iff_eq_take, eq_comm]

/-- A text ends with what as many of its last characters are. -/
theorem decide_last (p s : List Char) : decide (last p.length s = p) = p.isSuffixOf s := by
  rw [Bool.eq_iff_iff, decide_eq_true_iff, List.isSuffixOf_iff_suffix, List.suffix_iff_eq_drop, eq_comm]
  rfl

end Text

/-! ## The two forms of a search -/

namespace Search

open SqlShape.Specialization

/-- The truth value of a search for a constant. An empty pattern occurs anywhere, whatever is searched. -/
def constantTruth (search : Search) (p : List Char) (cell : Datum) : Option Bool :=
  if search = anywhere ∧ p = [] then some true else search.answer p cell

/-- The truth value of a search for a parameter. -/
def parameterTruth (d : Dialect) (search : Search) (p : List Char) (cell : Datum) : Option Bool :=
  match search with
  | anywhere => Truth.disj (anywhere.answer p cell) (some (decide (p = [])))
  | atStart => atStart.answer p cell
  | atEnd => if d = .sqlite ∧ p = [] then Datum.comparison .equal cell (.text []) else atEnd.answer p cell

variable {d : Dialect} {row : Row} {s : Setting} {subject pattern : Expr String} {cell : Datum} {p : List Char}

/-- The place that the position function of a dialect yields. -/
theorem operand_place {x y z : Datum} (first : Operand d row s subject x) (second : Operand d row s pattern y)
    (called : d.called d.functions.position (if d.functions.soughtFirst then [y, x] else [x, y]) = z)
    (strict : x.isNull = false → z.isNull = false) :
    Operand d row s (.function d.functions.position
      (if d.functions.soughtFirst then [pattern, subject] else [subject, pattern]) (d.stored .int32) false) z := by
  cases d with
  | sqlServer =>
    exact operand_function (.cons second (.cons first .nil)) called fun present => strict (present x (.tail _ (.head _)))
  | sqlite => exact operand_function (.cons first (.cons second .nil)) called fun present => strict (present x (.head _))

/-- The place of a pattern in a text. -/
theorem operand_position (textual : cell.Textual) (first : Operand d row s subject cell)
    (second : Operand d row s pattern (.text p)) :
    ∃ x, Operand d row s (.function d.functions.position
        (if d.functions.soughtFirst then [pattern, subject] else [subject, pattern]) (d.stored .int32) false) x ∧
      Datum.comparison .greater x (.number 0) = anywhere.answer p cell := by
  rcases textual with rfl | ⟨characters, rfl⟩
  · refine ⟨.null, operand_place first second ?_ id, rfl⟩
    cases d <;> rfl
  · refine ⟨.number (Text.place p characters), operand_place first second ?_ fun _ => rfl, ?_⟩
    · cases d <;> rfl
    · rw [Datum.comparison_pos]
      refine congrArg some ?_
      rw [Bool.eq_iff_iff, decide_eq_true_iff]
      exact Text.place_pos p characters

/-- The test that a pattern has a place in a text. -/
theorem sent_located (textual : cell.Textual) (first : Operand d row s subject cell)
    (second : Operand d row s pattern (.text p)) :
    Sent d row s (located d subject pattern) (anywhere.answer p cell) := by
  have zero : Operand d row s (.constant (.int 0) (d.stored .int32)) (.number 0) := operand_constant (.int 0) _
  obtain ⟨x, position, answers⟩ := operand_position textual first second
  rw [← answers]
  exact sent_greater position zero rfl

/-- A search of a text has an answer; only a null has none. -/
theorem isNone_answer (search : Search) (textual : cell.Textual) : (search.answer p cell).isNone = cell.isNull := by
  rcases textual with rfl | ⟨characters, rfl⟩
  · rfl
  · rfl

/-- What is sent for a search for a constant. -/
theorem sent_byConstant (search : Search) (p : String) (textual : cell.Textual)
    (first : Operand d row s subject cell) :
    Sent d row s (search.byConstant d subject p) (search.constantTruth p.toList cell) := by
  have text (p : String) : Operand d row s (.constant (.text p) (d.stored .text)) (.text p.toList) :=
    operand_constant (.text p) _
  have anchored (other : search ≠ anywhere) : Sent d row s
      (.like subject (.constant (.text (search.fragment d p)) (d.stored .text))
        (some (.constant (.text (String.ofList [d.functions.patternEscape])) (d.stored .text))) (d.stored .bool))
      (search.constantTruth p.toList cell) := by
    rw [constantTruth, if_neg fun both => other both.1]
    refine sent_like first (text _) (text _) rfl ?_ (isNone_answer search textual)
    rw [String.toList_ofList]
    exact likened_fragment other p cell
  cases search with
  | anywhere =>
    unfold byConstant constantTruth
    by_cases empty : p = ""
    · subst empty
      exact sent_truth true _
    · have nonempty : ¬(anywhere = anywhere ∧ p.toList = []) := fun both => empty (String.toList_eq_nil_iff.mp both.2)
      rw [if_neg empty, if_neg nonempty]
      exact sent_located textual first (text p)
  | atStart => exact anchored (by decide)
  | atEnd => exact anchored (by decide)

/-- As many characters at the start of a text as the pattern has. -/
theorem operand_head {length : Expr String} (textual : cell.Textual) (first : Operand d row s subject cell)
    (counted : Operand d row s length (.number p.length)) :
    ∃ x, Operand d row s (.function d.functions.substring
        [subject, .constant (.int 1) (d.stored .int32), length] (d.stored .text) false) x ∧
      Datum.comparison .equal x (.text p) = atStart.answer p cell := by
  have one : Operand d row s (.constant (.int 1) (d.stored .int32)) (.number 1) := operand_constant (.int 1) _
  have each : List.Forall₂ (Operand d row s) [subject, .constant (.int 1) (d.stored .int32), length]
      [cell, .number 1, .number p.length] := .cons first (.cons one (.cons counted .nil))
  rcases textual with rfl | ⟨characters, rfl⟩
  · refine ⟨.null, operand_function each ?_ fun present => present _ List.mem_cons_self, rfl⟩
    cases d <;> rfl
  · refine ⟨.text (characters.take p.length), operand_function each ?_ fun _ => rfl, ?_⟩
    · cases d <;> rfl
    · rw [Datum.comparison_text, Text.decide_take]
      rfl

/-- The end of a text from which a pattern is compared. All of it is compared with an empty pattern in SQLite. -/
theorem operand_tail {length : Expr String} (textual : cell.Textual) (first : Operand d row s subject cell)
    (counted : Operand d row s length (.number p.length)) :
    ∃ x, Operand d row s (tail d subject length) x ∧
      Datum.comparison .equal x (.text p) = atEnd.parameterTruth d p cell := by
  have suffix (characters : List Char) : Datum.comparison .equal (.text (Text.last p.length characters)) (.text p) =
      atEnd.answer p (.text characters) := by
    rw [Datum.comparison_text, Text.decide_last]
    rfl
  cases d with
  | sqlServer =>
    have each : List.Forall₂ (Operand .sqlServer row s) [subject, length] [cell, .number p.length] :=
      .cons first (.cons counted .nil)
    rcases textual with rfl | ⟨characters, rfl⟩
    · exact ⟨.null, operand_function each rfl fun present => present _ List.mem_cons_self, rfl⟩
    · exact ⟨.text (Text.last p.length characters), operand_function each rfl fun _ => rfl, suffix characters⟩
  | sqlite =>
    have start : Operand .sqlite row s (.binary .subtract (.constant (.int 0) (Dialect.sqlite.stored .int32)) length
        (Dialect.sqlite.stored .int32)) (.number (0 - p.length)) :=
      operand_subtract (operand_constant (.int 0) _) counted
    have each := List.Forall₂.cons first (.cons start .nil)
    have truth : atEnd.parameterTruth .sqlite p cell =
        if p = [] then Datum.comparison .equal cell (.text []) else atEnd.answer p cell :=
      if_congr (and_iff_right rfl) rfl rfl
    rw [truth]
    rcases textual with rfl | ⟨characters, rfl⟩
    · refine ⟨.null, operand_function each rfl fun present => present _ List.mem_cons_self, ?_⟩
      split <;> rfl
    · by_cases empty : p = []
      · -- The place is zero, which is not counted from the end: nothing is cut off.
        subst empty
        exact ⟨.text characters, operand_function each rfl fun _ => rfl, rfl⟩
      · have negative : (0 - p.length : Int) < 0 := by
          have := List.length_pos_iff.mpr empty
          omega
        have count : (0 - p.length : Int).natAbs = p.length := by omega
        have cut : Dialect.sqlite.called "substr" [.text characters, .number (0 - p.length)] =
            .text (Text.last p.length characters) := by
          rw [Dialect.called_substr, if_pos negative, count]
        rw [if_neg empty, ← suffix characters]
        exact ⟨.text (Text.last p.length characters), operand_function each cut fun _ => rfl, rfl⟩

/-- What is sent for a search for a parameter. -/
theorem sent_byParameter (search : Search) {name p : String} (textual : cell.Textual)
    (first : Operand d row s subject cell) (bound : s.bindings.get? name = some (.text p)) :
    Sent d row s (search.byParameter d subject name) (search.parameterTruth d p.toList cell) := by
  have second : Operand d row s (.parameter name .text (d.stored .text)) (.text p.toList) :=
    operand_parameter d.type_stored_text bound
  have known : (Expr.parameter name .text (d.stored .text)).nullness? s.bindings = some false := by
    rw [Expr.nullness?, Bindings.valueOf, bound]
    rfl
  have counted : Operand d row s (.function d.functions.textLength [.parameter name .text (d.stored .text)]
      (d.stored .int32) false) (.number p.toList.length) := by
    refine operand_function (.cons second .nil) ?_ fun _ => rfl
    cases d <;> rfl
  cases search with
  | anywhere =>
    have empty : Sent d row s (.binary .equal (.parameter name .text (d.stored .text))
        (.constant (.text "") (d.stored .text)) (d.stored .bool)) (some (decide (p.toList = []))) := by
      rw [← Datum.comparison_text]
      refine sent_equal second (operand_constant (.text "") _) ?_ rfl
      rw [known]
      decide
    exact sent_or (sent_located textual first second) empty
  | atStart =>
    obtain ⟨x, head, answers⟩ := operand_head textual first counted
    change Sent d row s _ (atStart.answer p.toList cell)
    rw [← answers]
    exact sent_equal head second (Option.some_ne_none true).symm known
  | atEnd =>
    obtain ⟨x, tail, answers⟩ := operand_tail textual first counted
    have unknown (length : Expr String) : (Search.tail d subject length).nullness? s.bindings ≠ some true := by
      cases d <;> exact (Option.some_ne_none true).symm
    rw [← answers]
    exact sent_equal tail second (unknown _) known

/-- In SQLite a text that is not empty is searched at its end for nothing. -/
def Misses (d : Dialect) (search : Search) (p : List Char) (cell : Datum) : Prop :=
  d = .sqlite ∧ search = atEnd ∧ p = [] ∧ cell ≠ .null ∧ cell ≠ .text []

/-- There a constant is found and a parameter is not. -/
theorem truths_of_misses {search : Search} (textual : cell.Textual) (misses : search.Misses d p cell) :
    search.constantTruth p cell = some true ∧ search.parameterTruth d p cell = some false := by
  obtain ⟨rfl, rfl, rfl, present, nonempty⟩ := misses
  rcases textual with rfl | ⟨characters, rfl⟩
  · exact absurd rfl present
  · cases characters with
    | nil => exact absurd rfl nonempty
    | cons c rest => exact ⟨rfl, rfl⟩

/-- Elsewhere both forms of a search have one truth value. -/
theorem parameterTruth_eq {search : Search} (textual : cell.Textual) (finds : ¬search.Misses d p cell) :
    search.parameterTruth d p cell = search.constantTruth p cell := by
  unfold constantTruth parameterTruth
  cases search with
  | anywhere =>
    by_cases empty : p = []
    · simp only [empty, decide_true, true_and, if_true]
      rcases anywhere.answer [] cell with _ | _ | _ <;> rfl
    · simp only [empty, decide_false, and_false, if_false]
      rcases anywhere.answer p cell with _ | _ | _ <;> rfl
  | atStart => exact (if_neg (by rintro ⟨⟨⟩, -⟩)).symm
  | atEnd =>
    have anchored : ¬(atEnd = anywhere ∧ p = []) := by
      rintro ⟨⟨⟩, -⟩
    rw [if_neg anchored]
    by_cases special : d = .sqlite ∧ p = []
    · obtain ⟨rfl, rfl⟩ := special
      rcases textual with rfl | ⟨characters, rfl⟩
      · rfl
      · cases characters with
        | nil => rfl
        | cons c rest =>
          refine absurd ⟨rfl, rfl, rfl, ?_, ?_⟩ finds
          · intro null
            cases null
          · intro empty
            cases empty
    · rw [if_neg special]

end Search

/-! ## Statements that take a row -/

/-- The value that is sent for a placeholder. -/
def BoundParameter.sent (bound : List BoundParameter) (name : String) (_ : LogicalType) : Value :=
  ((bound.find? (·.name = name)).map BoundParameter.value).getD .null

/-- With its slots numbered and bound, an expression of a statement means what it means over slots. -/
theorem Select.denote_named {d : Dialect} {row : Row} {namePrefix : String} {v : Bindings} {t : Select Slot}
    {e : Expr Slot} (member : e ∈ t.expressions) :
    (e.mapRef fun slot => placeholderName namePrefix (t.slots.idxOf slot)).denote d row
      (BoundParameter.sent (t.bound namePrefix v)) = e.denote d row v.ofSlot :=
  e.denote_mapRef fun _ referred type =>
    parameter_bound .small row (Select.mem_slots.mpr ⟨e, member, referred⟩) type

namespace Lowering

/-- Whether the statement that is sent for a shape takes a row. -/
def takes (l : Lowering) (d : Dialect) (options : SpecializationOptions) (v : Bindings) (row : Row) (shape : Shape) :
    Except QueryError Bool := do
  let s ← l.lowerShape shape
  let outcome ← s.specialize l.builder options v
  let bound ← outcome.placeholders.mapM (Placeholder.bind v)
  return outcome.select.predicate.all fun p => decide (p.denote d row (BoundParameter.sent bound) = .truth true)

/-- The value in a row of the predicate that is sent for a shape; `none` where none is sent. -/
def predicateValue (l : Lowering) (d : Dialect) (options : SpecializationOptions) (v : Bindings) (row : Row)
    (shape : Shape) : Except QueryError (Option Datum) := do
  let s ← l.lowerShape shape
  let outcome ← s.specialize l.builder options v
  let bound ← outcome.placeholders.mapM (Placeholder.bind v)
  return outcome.select.predicate.map fun p => p.denote d row (BoundParameter.sent bound)

variable {d : Dialect} {l : Lowering} {q : QueryExpr} {e : Expr String} {options : SpecializationOptions} {v : Bindings}
  {row : Row} {holds : Bool}

/-- A predicate is lowered to the only expression of its statement. -/
theorem lowerShape_filter (table tableAlias : String) (lowered : (l.lower q).run = .ok (some e))
    (bool : e.type = .bool) : l.lowerShape ((Shape.ofTable table tableAlias).filter q) =
      .ok ⟨table, tableAlias, [], some e, [], none⟩ := by
  have predicate : l.lowerPredicate q = .ok e := by
    refine bind_eq_ok.mpr ⟨e, bind_eq_ok.mpr ⟨some e, lowered, rfl⟩, ?_⟩
    rw [if_neg (not_not_intro bool)]
    rfl
  refine bind_eq_ok.mpr ⟨[], rfl, bind_eq_ok.mpr ⟨some e, ?_, rfl⟩⟩
  exact (congrArg (Functor.map some) predicate :)

/-- A statement takes a row where its predicate is true or left out. -/
theorem takes_eq_all (shape : Shape) :
    l.takes d options v row shape =
      (fun value : Option Datum => value.all fun x => decide (x = .truth true)) <$>
        l.predicateValue d options v row shape := by
  unfold takes predicateValue
  simp only [map_eq_pure_bind, bind_assoc, pure_bind, Option.all_map]

/-- A predicate over slots means the same with its placeholders named and bound, unless it is left out because it always
holds. -/
theorem map_named {t : Select Slot} {x : Expr Slot} (present : t.predicate = some x) (namePrefix : String) :
    (t.withoutTrivialPredicate.named namePrefix).predicate.map (fun p => p.denote d row
      (BoundParameter.sent (t.withoutTrivialPredicate.bound namePrefix v))) =
      if x.truth? = some true then none else some (x.denote d row v.ofSlot) := by
  by_cases always : x.truth? = some true
  · have dropped : (t.withoutTrivialPredicate.named namePrefix).predicate = none := by
      rw [Select.withoutTrivialPredicate, if_pos (by rw [present]; exact always)]
      rfl
    rw [dropped, if_pos always]
    rfl
  · have kept : t.withoutTrivialPredicate = t := if_neg (by rw [present]; exact always)
    have member : x ∈ t.expressions := Select.mem_expressions.mpr (.inr (.inl present))
    have named : (t.named namePrefix).predicate =
        some (x.mapRef fun slot => placeholderName namePrefix (t.slots.idxOf slot)) := congrArg (Option.map _) present
    rw [kept, named, if_neg always, Option.map_some, Select.denote_named member]

/-- What holds of the reading of a predicate holds of the predicate that is sent. -/
theorem predicateValue_of_yields (made : d.lowering = .ok l) (table tableAlias : String)
    (lowered : (l.lower q).run = .ok (some e)) (bool : e.type = .bool) (admits : ∀ u ∈ e.uses, u.Admits v)
    {R : Expr Slot → Prop}
    (reads : Specialization.Yields v (Specialization.read ⟨l.builder, options.relationalNulls, v⟩ e).asIs fun z =>
      R z.expr) :
    ∃ x, R x ∧ l.predicateValue d options v row ((Shape.ofTable table tableAlias).filter q) =
      .ok (if x.truth? = some true then none else some (x.denote d row v.ofSlot)) := by
  have serves := serves_lowering made
  have typed : e.WellTyped := ((lower_lowered serves q e lowered).native serves.builder).typed
  let s : Select String := ⟨table, tableAlias, [], some e, [], none⟩
  have only : ∀ {P : Expr String → Prop}, P e → ∀ x ∈ s.expressions, P x := List.forall_mem_singleton.mpr
  have uses : s.uses = e.uses := List.flatMap_singleton ..
  have filtered : l.lowerShape ((Shape.ofTable table tableAlias).filter q) = .ok s :=
    lowerShape_filter table tableAlias lowered bool
  obtain ⟨outcome, run⟩ : ∃ outcome, s.specialize l.builder options v = .ok outcome :=
    (Select.exists_specialize_iff serves.builder (lowerShape_lowered serves filtered)).mpr (uses ▸ admits)
  obtain ⟨t, found, same, binds⟩ := Specialization.specialize_reads
    (R := fun _ x => R x) (only typed) (only reads) run
  obtain ⟨x, present, holds⟩ : ∃ x, t.predicate = some x ∧ R x := by
    have related := found.predicate
    generalize t.predicate = o at related
    cases related with
    | some holds => exact ⟨_, rfl, holds⟩
  refine ⟨x, holds, bind_eq_ok.mpr ⟨s, filtered, bind_eq_ok.mpr ⟨outcome, run, ?_⟩⟩⟩
  refine bind_eq_ok.mpr ⟨_, binds, congrArg Except.ok ?_⟩
  rw [same]
  exact map_named present _

/-- A predicate that is not decided is sent with the value of its reading. -/
theorem predicateValue_of_means (made : d.lowering = .ok l) (table tableAlias : String)
    (lowered : (l.lower q).run = .ok (some e)) (bool : e.type = .bool) (admits : ∀ u ∈ e.uses, u.Admits v) {y : Datum}
    (means : Specialization.Yields v (Specialization.read ⟨l.builder, options.relationalNulls, v⟩ e).asIs fun z =>
      z.expr.denote d row v.ofSlot = y ∧ z.expr.truth? = none) :
    l.predicateValue d options v row ((Shape.ofTable table tableAlias).filter q) = .ok (some y) := by
  obtain ⟨x, ⟨value, undecided⟩, sent⟩ : ∃ x : Expr Slot, (x.denote d row v.ofSlot = y ∧ x.truth? = none) ∧
      l.predicateValue d options v row ((Shape.ofTable table tableAlias).filter q) =
        .ok (if x.truth? = some true then none else some (x.denote d row v.ofSlot)) :=
    predicateValue_of_yields made table tableAlias lowered bool admits means
  rw [sent, if_neg (undecided ▸ (Option.some_ne_none true).symm), value]

/-- Where its reading shows whether a predicate holds, the statement takes the row where it does. -/
theorem takes_of_shows (made : d.lowering = .ok l) (table tableAlias : String)
    (lowered : (l.lower q).run = .ok (some e)) (bool : e.type = .bool) (admits : ∀ u ∈ e.uses, u.Admits v)
    (shown : Specialization.Yields v (Specialization.read ⟨l.builder, options.relationalNulls, v⟩ e).asIs fun z =>
      Specialization.Shows d row v z.expr holds) :
    l.takes d options v row ((Shape.ofTable table tableAlias).filter q) = .ok holds := by
  obtain ⟨x, shows, value⟩ : ∃ x, Specialization.Shows d row v x holds ∧
      l.predicateValue d options v row ((Shape.ofTable table tableAlias).filter q) =
        .ok (if x.truth? = some true then none else some (x.denote d row v.ofSlot)) :=
    predicateValue_of_yields made table tableAlias lowered bool admits shown
  rw [takes_eq_all, value]
  refine congrArg Except.ok ?_
  split
  next always => exact (shows.of_truth? always).symm
  next =>
    obtain ⟨truth, means, isTrue⟩ := shows
    rw [means, ← isTrue]
    rcases truth with _ | _ | _ <;> rfl

/-- A condition and its negation take the row by the truth value of the condition. A negation is written, or the
condition is a truth value. -/
theorem takes_sent (made : d.lowering = .ok l) (table tableAlias : String) (lowered : (l.lower q).run = .ok (some e))
    (bool : e.type = .bool) (admits : ∀ u ∈ e.uses, u.Admits v) {t : Option Bool}
    (sent : Specialization.Sent d row ⟨l.builder, options.relationalNulls, v⟩ e t)
    (negates : l.builder.not e = .ok (.negation e l.builder.boolMapping) ∨
      ∃ value m, e = .constant (.bool value) m ∧ t = some value) :
    l.takes d options v row ((Shape.ofTable table tableAlias).filter q) = .ok (t == some true) ∧
      l.takes d options v row ((Shape.ofTable table tableAlias).filter (.not q)) =
        .ok (Truth.denied options.relationalNulls t) := by
  have coherent := (serves_lowering made).builder.coherent
  have opposite {e' : Expr String} (built : l.builder.not e = .ok e') : (l.lower (.not q)).run = .ok (some e') :=
    optionBind_eq_ok.mpr ⟨e, lowered, optionLift_eq_ok.mpr built⟩
  refine ⟨takes_of_shows made table tableAlias lowered bool admits sent.asIs, ?_⟩
  rcases negates with written | ⟨value, m, rfl, rfl⟩
  · exact takes_of_shows made table tableAlias (opposite written) coherent.bool admits (sent.negated _)
  · have built : l.builder.not (.constant (.bool value) m) = .ok (l.builder.truth !value) :=
      bind_eq_ok.mpr ⟨(), Builder.requireType_eq_ok.mpr bool, rfl⟩
    rw [Truth.denied_some]
    exact takes_of_shows made table tableAlias (opposite built) coherent.bool (List.forall_mem_nil _)
      (Specialization.sent_truth (s := ⟨l.builder, options.relationalNulls, v⟩) (!value) _).asIs

/-- The rows that a search for a constant takes, and its negation. -/
theorem takes_byConstant (made : d.lowering = .ok l) (search : Search) (table tableAlias t c p : String)
    {nullable : Bool} (stated : Bool) (filled : nullable = false → (row t c .text).1 ≠ .null) :
    let q := search.query (.column t c .text nullable) (.ofText stated p)
    let truth := search.constantTruth p.toList (.ofValue (row t c .text).1)
    l.takes d options v row ((Shape.ofTable table tableAlias).filter q) = .ok (truth == some true) ∧
      l.takes d options v row ((Shape.ofTable table tableAlias).filter (.not q)) =
        .ok (Truth.denied options.relationalNulls truth) := by
  have lowered := Search.lower_byConstant made search t c p nullable stated
  have sent : Specialization.Sent d row ⟨l.builder, options.relationalNulls, v⟩ _ _ :=
    Search.sent_byConstant search p (Datum.textual_ofValue (row t c .text).2)
      (Specialization.operand_column d.type_stored_text filled)
  generalize form : search.byConstant d (.column t c (d.stored .text) nullable) p = e at lowered sent
  by_cases always : search = .anywhere ∧ p = ""
  · -- The search is decided when it is lowered, so its negation is a truth value as well.
    obtain ⟨rfl, rfl⟩ := always
    subst form
    refine takes_sent made table tableAlias lowered ?_ (List.forall_mem_nil _) sent (.inr ⟨true, _, rfl, rfl⟩)
    cases d <;> rfl
  · have plain : e.uses = [] ∧ e.type = .bool ∧ l.builder.not e = .ok (.negation e l.builder.boolMapping) := by
      subst form
      cases search with
      | anywhere =>
        unfold Search.byConstant
        rw [if_neg fun empty => always ⟨rfl, empty⟩]
        cases d <;> cases made <;> exact ⟨rfl, rfl, rfl⟩
      | _ => cases d <;> cases made <;> exact ⟨rfl, rfl, rfl⟩
    obtain ⟨unused, bool, negates⟩ := plain
    refine takes_sent made table tableAlias lowered bool ?_ sent (.inl negates)
    rw [unused]
    exact List.forall_mem_nil _

/-- The rows that a search for a parameter takes, and its negation. -/
theorem takes_byParameter (made : d.lowering = .ok l) (search : Search) (table tableAlias t c : String)
    {name p : String} {nullable : Bool} (filled : nullable = false → (row t c .text).1 ≠ .null)
    (bound : v.get? name = some (.text p)) :
    let q := search.query (.column t c .text nullable) (.parameter name .text)
    let truth := search.parameterTruth d p.toList (.ofValue (row t c .text).1)
    l.takes d options v row ((Shape.ofTable table tableAlias).filter q) = .ok (truth == some true) ∧
      l.takes d options v row ((Shape.ofTable table tableAlias).filter (.not q)) =
        .ok (Truth.denied options.relationalNulls truth) := by
  have lowered := Search.lower_byParameter made search t c name nullable
  have sent : Specialization.Sent d row ⟨l.builder, options.relationalNulls, v⟩ _ _ :=
    Search.sent_byParameter search (Datum.textual_ofValue (row t c .text).2)
      (Specialization.operand_column d.type_stored_text filled) bound
  generalize form : search.byParameter d (.column t c (d.stored .text) nullable) name = e at lowered sent
  have plain : e.uses = [⟨name, .text, false⟩, ⟨name, .text, false⟩] ∧ e.type = .bool ∧
      l.builder.not e = .ok (.negation e l.builder.boolMapping) := by
    subst form
    cases search <;> cases d <;> cases made <;> exact ⟨rfl, rfl, rfl⟩
  obtain ⟨used, bool, negates⟩ := plain
  have admits : (⟨name, .text, false⟩ : ParameterUse).Admits v := ⟨.text p, bound, rfl, rfl⟩
  refine takes_sent made table tableAlias lowered bool ?_ sent (.inl negates)
  rw [used]
  exact List.forall_mem_cons.mpr ⟨admits, List.forall_mem_singleton.mpr admits⟩

/-- A search of a column takes the same rows for a text as a constant and as the value of a parameter, and so does its
negation, with one exception: as the value of a parameter, SQLite does not find the empty text at the end of a text that
is not empty itself. -/
theorem searches_take_same_rows_iff {d : Dialect} {l : Lowering} (made : d.lowering = .ok l)
    (options : SpecializationOptions) (search : Search) (table tableAlias t c p : String) {name : String}
    {nullable : Bool} (stated : Bool) {v : Bindings} (bound : v.get? name = some (.text p)) {row : Row}
    (filled : nullable = false → (row t c .text).1 ≠ .null) :
    let constant := search.query (.column t c .text nullable) (.ofText stated p)
    let parameter := search.query (.column t c .text nullable) (.parameter name .text)
    let takes (q : QueryExpr) := l.takes d options v row ((Shape.ofTable table tableAlias).filter q)
    ∃ x x' y y', takes constant = .ok x ∧ takes (.not constant) = .ok x' ∧ takes parameter = .ok y ∧
      takes (.not parameter) = .ok y' ∧
      (x = y ∧ x' = y' ↔
        ¬(d = .sqlite ∧ search = .atEnd ∧ p = "" ∧ ∃ s, s ≠ "" ∧ (row t c .text).1 = .text s)) := by
  have typed := (row t c .text).2
  obtain ⟨first, first'⟩ := takes_byConstant made search table tableAlias t c p stated filled
  obtain ⟨second, second'⟩ := takes_byParameter made search table tableAlias t c filled bound
  refine ⟨_, _, _, _, first, first', second, second', ?_⟩
  have textual := Datum.textual_ofValue typed
  have same : search.Misses d p.toList (.ofValue (row t c .text).1) ↔
      d = .sqlite ∧ search = .atEnd ∧ p = "" ∧ ∃ s, s ≠ "" ∧ (row t c .text).1 = .text s := by
    rw [Datum.exists_text_iff typed, ← String.toList_eq_nil_iff]
    rfl
  rw [← same]
  by_cases misses : search.Misses d p.toList (.ofValue (row t c .text).1)
  · obtain ⟨found, lost⟩ := Search.truths_of_misses textual misses
    rw [found, lost]
    exact iff_of_false (fun alike => Bool.noConfusion alike.1) (not_not_intro misses)
  · rw [Search.parameterTruth_eq textual misses]
    exact iff_of_true ⟨rfl, rfl⟩ misses

/-- The items whose label ends with a pattern. -/
def endingIn (pattern : QueryExpr) : QueryExpr :=
  Search.atEnd.query (.column "i" "Label" .text false) pattern

/-- A label that ends with a text is found by the text and by a parameter, and left out by both negations. -/
theorem searches_take_same_rows_ending : ∃ l x x', Dialect.sqlite.lowering = .ok l ∧
    Bindings.get? ⟨[("ending", .text "_b")]⟩ "ending" = some (.text "_b") ∧
    (labelled "a_b" "i" "Label" .text).1 ≠ .null ∧
    l.takes .sqlite ⟨"p", false⟩ ⟨[("ending", .text "_b")]⟩ (labelled "a_b")
      ((Shape.ofTable "Items" "i").filter (endingIn (.ofText true "_b"))) = .ok x ∧
    l.takes .sqlite ⟨"p", false⟩ ⟨[("ending", .text "_b")]⟩ (labelled "a_b")
      ((Shape.ofTable "Items" "i").filter (endingIn (.parameter "ending" .text))) = .ok x ∧
    l.takes .sqlite ⟨"p", false⟩ ⟨[("ending", .text "_b")]⟩ (labelled "a_b")
      ((Shape.ofTable "Items" "i").filter (.not (endingIn (.ofText true "_b")))) = .ok x' ∧
    l.takes .sqlite ⟨"p", false⟩ ⟨[("ending", .text "_b")]⟩ (labelled "a_b")
      ((Shape.ofTable "Items" "i").filter (.not (endingIn (.parameter "ending" .text)))) = .ok x' := by
  obtain ⟨l, made⟩ : ∃ l, Dialect.sqlite.lowering = .ok l := ⟨_, rfl⟩
  have present : (labelled "a_b" "i" "Label" .text).1 ≠ .null := by
    intro null
    cases null
  have bound : Bindings.get? ⟨[("ending", .text "_b")]⟩ "ending" = some (.text "_b") := rfl
  obtain ⟨x, x', y, y', first, first', second, second', agree⟩ := searches_take_same_rows_iff made ⟨"p", false⟩
    .atEnd "Items" "i" "i" "Label" "_b" true bound fun _ => present
  obtain ⟨rfl, rfl⟩ := agree.mpr fun lost => absurd lost.2.2.1 (by decide)
  exact ⟨l, x, x', made, bound, present, first, second, first', second'⟩

/-- Every label ends with the empty text, but in SQLite a parameter with that value is not found at the end of one. -/
theorem empty_ending_missed : ∃ l, Dialect.sqlite.lowering = .ok l ∧
    l.takes .sqlite ⟨"p", false⟩ ⟨[("ending", .text "")]⟩ (labelled "a")
      ((Shape.ofTable "Items" "i").filter (endingIn (.ofText true ""))) = .ok true ∧
    l.takes .sqlite ⟨"p", false⟩ ⟨[("ending", .text "")]⟩ (labelled "a")
      ((Shape.ofTable "Items" "i").filter (endingIn (.parameter "ending" .text))) = .ok false := by
  obtain ⟨l, made⟩ : ∃ l, Dialect.sqlite.lowering = .ok l := ⟨_, rfl⟩
  have present : (labelled "a" "i" "Label" .text).1 ≠ .null := by
    intro null
    cases null
  have bound : Bindings.get? ⟨[("ending", .text "")]⟩ "ending" = some (.text "") := rfl
  exact ⟨l, made, (takes_byConstant made .atEnd "Items" "i" "i" "Label" "" true fun _ => present).1,
    (takes_byParameter made .atEnd "Items" "i" "i" "Label" (fun _ => present) bound).1⟩

end Lowering

end SqlShape
