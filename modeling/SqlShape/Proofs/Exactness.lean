import SqlShape.Proofs.Statement

/-!
# Readings that keep a value

A reading keeps an expression when it has the same value over slots as the expression has over bindings, and that
value is of the expression's type. This module has the rules that keep values whatever becomes of nulls: leaves,
calls, conversions, arithmetic, connectives with a truth value dropped, decided null tests and the placeholders of
a sequence. The two treatments of null build on them.
-/

namespace SqlShape

namespace Specialization

/-- What an expression is evaluated in before it is read. -/
abbrev Setting.before (s : Setting) (d : Database) (row : Row) : Context String :=
  .ofBindings d row s.bindings

/-- What the outcome of a reading is evaluated in. -/
abbrev Setting.after (s : Setting) (d : Database) (row : Row) : Context Slot :=
  .ofSlots d row s.bindings

/-- An expression and its reading have the same value, of the expression's type. -/
structure Keeps (d : Database) (row : Row) (s : Setting) (e : Expr String) (e' : Expr Slot) : Prop where
  value : e'.eval (s.after d row) = e.eval (s.before d row)
  typed : (e.eval (s.before d row)).HasType e.type

/-- A reading has the opposite truth value. -/
def Denies (d : Database) (row : Row) (s : Setting) (e : Expr String) (e' : Expr Slot) : Prop :=
  e'.eval (s.after d row) = .ofTruth (Truth.neg (e.eval (s.before d row)).truth?)

/-- No written negation. -/
def IsPlain : Expr Slot → Prop
  | .negation _ _ => False
  | _ => True

variable {d : Database} {row : Row} {s : Setting}

/-! ## Truth values in connectives -/

/-- A truth value has itself as its value. -/
theorem eval_of_truth? {c : Context Slot} {e : Expr Slot} {value : Bool} (found : e.truth? = some value) :
    e.eval c = .bool value := by
  unfold Expr.truth? at found
  split at found
  · cases found
    rfl
  · cases found

/-- The deciding truth value decides. -/
theorem binary_decided {op : BinaryOp} {value : Bool} (decides : absorbing? op = some value) {x y : Value}
    (m : TypeMapping) (found : x = .bool value ∨ y = .bool value) : d.binary op x y m = .bool value := by
  cases op with
  | and | or =>
    cases decides
    rcases found with rfl | rfl
    · rfl
    · unfold Database.binary
      rcases x.truth? with _ | _ | _ <;> rfl
  | _ => cases decides

/-- Beside the other truth value, a connective is its left side. -/
theorem binary_left {op : BinaryOp} {value : Bool} (decides : absorbing? op = some value) {x : Value}
    (m : TypeMapping) (typed : x.HasType .bool) : d.binary op x (.bool !value) m = x := by
  refine Eq.trans ?_ (Value.ofTruth_truth? typed)
  cases op with
  | and | or =>
    cases decides
    unfold Database.binary
    rcases x.truth? with _ | _ | _ <;> rfl
  | _ => cases decides

/-- Beside the other truth value, a connective is its right side. -/
theorem binary_right {op : BinaryOp} {value : Bool} (decides : absorbing? op = some value) {y : Value}
    (m : TypeMapping) (typed : y.HasType .bool) : d.binary op (.bool !value) y m = y := by
  refine Eq.trans ?_ (Value.ofTruth_truth? typed)
  cases op with
  | and | or =>
    cases decides
    unfold Database.binary
    rcases y.truth? with _ | _ | _ <;> rfl
  | _ => cases decides

theorem isLogical_of_absorbing? {op : BinaryOp} {value : Bool} (decides : absorbing? op = some value) :
    op.isLogical = true := by
  cases op with
  | and | or => rfl
  | _ => cases decides

/-- The sides of a connective have truth values. -/
def SidesTyped (c : Context Slot) : Expr Slot → Prop
  | .binary op l r _ => op.isLogical = true → (l.eval c).HasType .bool ∧ (r.eval c).HasType .bool
  | _ => True

/-- A connective whose truth value is dropped keeps its value. -/
theorem eval_reduced {c : Context Slot} {b : Builder} {x : Visited} (typed : SidesTyped c x.expr) :
    (x.reduced b).expr.eval c = x.expr.eval c := by
  obtain ⟨e, changed⟩ := x
  unfold Visited.reduced
  split
  next reduced found =>
    cases reduces_of_reduce? found with
    | @decided op _ l r m decides here =>
      exact (binary_decided decides m (here.imp eval_of_truth? eval_of_truth?)).symm
    | @left op _ l r m decides here =>
      have logical := isLogical_of_absorbing? decides
      dsimp only
      rw [Expr.eval, eval_of_truth? here]
      exact (binary_left decides m (typed logical).1).symm
    | @right op _ l r m decides here =>
      have logical := isLogical_of_absorbing? decides
      dsimp only
      rw [Expr.eval, eval_of_truth? here]
      exact (binary_right decides m (typed logical).2).symm
  next => rfl

/-- Only a connective is reduced. -/
theorem reduced_binary {b : Builder} {op : BinaryOp} (other : op.isLogical = false) {l r : Expr Slot}
    {m : TypeMapping} {changed : Bool} :
    Visited.reduced b ⟨.binary op l r m, changed⟩ = ⟨.binary op l r m, changed⟩ := by
  cases op with
  | and | or => cases other
  | _ => rfl

/-! ## Negation -/

/-- A negation that is built has the opposite truth value. -/
theorem eval_not {c : Context Slot} {e e' : Expr Slot} (plain : IsPlain e) (made : s.builder.not e = .ok e') :
    e'.eval c = .ofTruth (Truth.neg (e.eval c).truth?) := by
  obtain ⟨-, made⟩ := Builder.not_eq_ok made
  rcases made with ⟨value, m, rfl, rfl⟩ | ⟨m, rfl⟩ | ⟨inner, negated, m, rfl, rfl⟩ | rfl
  · cases value <;> rfl
  · exact plain.elim
  · rw [Expr.eval, Expr.eval]
    cases (inner.eval c).isNull <;> cases negated <;> rfl
  · rfl

/-- A negation from outside has the opposite truth value and is no connective. -/
theorem negateVisited_yields {visit : Pass Visited} {P : Value → Prop} (written : Option TypeMapping)
    (visits : Yields s.bindings visit fun x => IsPlain x.expr ∧ P (x.expr.eval (s.after d row))) :
    Yields s.bindings (negateVisited s visit written) fun x => SidesTyped (s.after d row) x.expr ∧
      ∃ value, P value ∧ x.expr.eval (s.after d row) = .ofTruth (Truth.neg value.truth?) := by
  refine visits.bind fun x holds => ?_
  split
  · exact meets_pure ⟨trivial, _, holds.2, rfl⟩
  · refine Meets.bind (yields_lift fun _ made => made) fun e made => meets_pure ?_
    refine ⟨?_, _, holds.2, eval_not holds.1 made⟩
    obtain ⟨-, ⟨value, m, -, rfl⟩ | ⟨m, same⟩ | ⟨inner, sign, m, -, rfl⟩ | rfl⟩ := Builder.not_eq_ok made
    · exact trivial
    · rw [same] at holds
      exact holds.1.elim
    · exact trivial
    · exact trivial

/-! ## Leaves -/

theorem constant_keeps {value : Value} {m : TypeMapping} (typed : (Expr.constant value m : Expr String).Typed) :
    Keeps d row s (.constant value m) (.constant value m) :=
  ⟨rfl, typed.2⟩

theorem column_keeps {table name : String} {m : TypeMapping} {nullable : Bool} :
    Keeps d row s (.column table name m nullable) (.column table name m nullable) :=
  ⟨rfl, (row table name m.type).2⟩

/-- The placeholder of a scalar parameter. -/
theorem parameter_keeps {name : String} {t : LogicalType} {m : TypeMapping}
    (typed : (Expr.parameter name t m).Typed) (scalar : t.isSequence = false) :
    Yields s.bindings (readParameter s name t m none) fun x =>
      IsPlain x.expr ∧ Keeps d row s (.parameter name t m) x.expr := by
  have same : t = m.type := typed.type_eq scalar
  refine Meets.mono (readParameter_yields s (same ▸ .refl t) same) fun x found => ?_
  obtain ⟨-, fits, slot, placed, -, value⟩ := found
  have bound := Context.ofBindings_scalar d row s.bindings name scalar
  rw [placed]
  refine ⟨trivial, ?_, ?_⟩
  · rw [Expr.eval, Expr.eval, bound, same]
    exact value
  · rw [Expr.eval, bound]
    exact Value.hasType_convertedTo fits scalar

/-- The placeholder of a parameter that takes over a conversion. -/
theorem convertedParameter_keeps {name : String} {t : LogicalType} {m m' : TypeMapping}
    (scalar : t.isSequence = false) (widens : t.Widens m.type) :
    Yields s.bindings (readParameter s name t m (some m.type)) fun x =>
      IsPlain x.expr ∧ Keeps d row s (.convert (.parameter name t m') m) x.expr := by
  refine Meets.mono (readParameter_yields s widens rfl) fun x found => ?_
  obtain ⟨single, fits, slot, placed, -, value⟩ := found
  have bound := Context.ofBindings_scalar d row s.bindings name scalar
  obtain ⟨near, image⟩ := Value.convertTo?_of_fits fits single (.refl t)
  obtain ⟨far, image'⟩ := Value.convertTo?_of_fits fits single widens
  rw [placed]
  refine ⟨trivial, ?_, (d.cast _ m).2⟩
  have step : near.convertTo? m.type = some far := (Value.convertTo?_convertTo? image widens).trans image'
  rw [Expr.eval, Expr.eval, Expr.eval, bound]
  calc slot.key.valueIn s.bindings = far := by rw [value, Value.convertedTo, image', Option.getD_some]
    _ = (d.cast near m).1 := (d.cast_image step).symm
    _ = (d.cast ((s.bindings.valueOf name).convertedTo t) m).1 := by
      rw [Value.convertedTo, image, Option.getD_some]

/-! ## Compound expressions -/

/-- The reading of an expression as it stands keeps it. -/
abbrev Kept (d : Database) (row : Row) (s : Setting) (e : Expr String) : Prop :=
  Yields s.bindings (read s e).asIs fun x => Keeps d row s e x.expr

theorem visitAll_yields {es : List (Expr String)} {value : Expr String → Value}
    (each : ∀ e ∈ es, Yields s.bindings (read s e).asIs fun x => x.expr.eval (s.after d row) = value e) :
    Yields s.bindings (visitAll (readAll s es)) fun xs =>
      (xs.map Visited.expr).map (Expr.eval (s.after d row)) = es.map value := by
  refine (visitAll_meets each).mono fun xs found => ?_
  rw [List.map_map]
  exact map_eq_map_of_forall₂ found

theorem function_keeps {name : String} {es : List (Expr String)} {m : TypeMapping} {nullable : Bool}
    (each : ∀ e ∈ es, Kept d row s e) :
    Yields s.bindings (read s (.function name es m nullable)).asIs fun x =>
      IsPlain x.expr ∧ Keeps d row s (.function name es m nullable) x.expr := by
  have values := visitAll_yields fun e member => (each e member).mono fun _ keeps => keeps.value
  refine values.bind fun xs same => meets_pure ⟨trivial, ?_, ?_⟩
  · rw [Expr.eval, Expr.eval, Expr.evalAll_eq_map, Expr.evalAll_eq_map, same]
    rfl
  · exact (d.call name nullable _ m).2

/-- A conversion is taken over by the parameter below it. -/
theorem eq_parameter_of_convertedParameter? {operand : Expr String} {target : LogicalType}
    {found : String × LogicalType} (taken : convertedParameter? operand target = some found) :
    ∃ m, operand = .parameter found.1 found.2 m := by
  unfold convertedParameter? at taken
  split at taken
  next name type m =>
    split at taken
    · cases taken
      exact ⟨m, rfl⟩
    · cases taken
  next => cases taken

theorem convert_keeps {operand : Expr String} {m : TypeMapping} (below : Kept d row s operand) :
    Yields s.bindings (read s (.convert operand m)).asIs fun x =>
      IsPlain x.expr ∧ Keeps d row s (.convert operand m) x.expr := by
  unfold read
  dsimp only
  split
  next name type found =>
    obtain ⟨scalar, widens⟩ := widensTo_of_convertedParameter? found
    obtain ⟨m', rfl⟩ := eq_parameter_of_convertedParameter? found
    exact convertedParameter_keeps scalar (LogicalType.widensTo_iff.mp widens)
  next =>
    refine below.bind fun x keeps => meets_pure ⟨trivial, ?_, ?_⟩
    · rw [Expr.eval, Expr.eval, keeps.value]
      rfl
    · exact (d.cast _ m).2

/-- The value of a well-typed binary operation is of the type of its mapping. -/
theorem hasType_binary {op : BinaryOp} {l r : Expr String} {m : TypeMapping}
    (typed : (Expr.binary op l r m).Typed) (x y : Value) : (d.binary op x y m).HasType m.type := by
  obtain ⟨-, shape⟩ := typed
  cases op with
  | and | or =>
    rw [show m.type = .bool from shape.2.2]
    exact Value.hasType_ofTruth _
  | add | subtract => exact (d.arithmetic _ x y m).2
  | _ =>
    rw [show m.type = .bool from shape.2]
    exact Value.hasType_ofTruth _

theorem visitBinary_yields (op : BinaryOp) {l r : Expr String} (m : TypeMapping) (first : Kept d row s l)
    (second : Kept d row s r) (bools : op.isLogical = true → l.type = .bool ∧ r.type = .bool) :
    Yields s.bindings (visitBinary s op (read s l) (read s r) m) fun x =>
      x.expr.eval (s.after d row) = (Expr.binary op l r m).eval (s.before d row) := by
  refine first.bind fun x left => second.bind fun y right => meets_pure ?_
  refine (eval_reduced ?_).trans ?_
  · intro logical
    obtain ⟨left', right'⟩ := bools logical
    rw [left.value, right.value]
    exact ⟨left' ▸ left.typed, right' ▸ right.typed⟩
  · dsimp only
    rw [Expr.eval, Expr.eval, left.value, right.value]
    rfl

/-- A sum or difference. -/
theorem arithmetic_keeps {op : BinaryOp} {l r : Expr String} {m : TypeMapping}
    (typed : (Expr.binary op l r m).Typed) (sum : op = .add ∨ op = .subtract) (first : Kept d row s l)
    (second : Kept d row s r) :
    Yields s.bindings (read s (.binary op l r m)).asIs fun x =>
      IsPlain x.expr ∧ Keeps d row s (.binary op l r m) x.expr := by
  have visits : Yields s.bindings (visitBinary s op (read s l) (read s r) m) fun x =>
      IsPlain x.expr ∧ Keeps d row s (.binary op l r m) x.expr := by
    refine first.bind fun x left => second.bind fun y right => meets_pure ?_
    rw [reduced_binary (by rcases sum with rfl | rfl <;> rfl)]
    refine ⟨trivial, ?_, hasType_binary typed _ _⟩
    rw [Expr.eval, Expr.eval, left.value, right.value]
    rfl
  rcases sum with rfl | rfl
  · exact visits
  · exact visits

/-- A test for null, decided or not, says whether the operand is null. -/
theorem nullTest_yields {operand : Expr String} (negated : Bool) (m : TypeMapping)
    (respects : row.Respects operand) (below : Kept d row s operand) :
    Yields s.bindings (nullTest s operand (read s operand).asIs negated m) fun x =>
      x.expr.eval (s.after d row) = .bool ((operand.eval (s.before d row)).isNull != negated) := by
  refine (knownNullness_yields s operand).bind fun known same => ?_
  subst same
  cases known : operand.nullness? s.bindings with
  | some null =>
    refine meets_pure ?_
    rw [Expr.nullnessIs_of_mem known d row respects]
    rfl
  | none =>
    refine below.bind fun x keeps => meets_pure ?_
    rw [Expr.eval, keeps.value]

/-- A pattern match, visited operand by operand. -/
theorem like_yields {subject pattern : Expr String} {escape : Option (Expr String)} {m : TypeMapping}
    (first : Kept d row s subject) (second : Kept d row s pattern) (third : ∀ e ∈ escape, Kept d row s e) :
    Yields s.bindings (read s (.like subject pattern escape m)).asIs fun x =>
      IsPlain x.expr ∧
        x.expr.eval (s.after d row) = (Expr.like subject pattern escape m).eval (s.before d row) := by
  have escapes : Yields s.bindings ((readOption s escape).mapM Reading.asIs) fun o =>
      (o.map Visited.expr).map (Expr.eval (s.after d row)) = escape.map (Expr.eval (s.before d row)) := by
    refine (readOption_meets third).mono fun o found => ?_
    cases found with
    | none => rfl
    | some keeps => exact congrArg some keeps.value
  refine first.bind fun u subject' => second.bind fun p pattern' => escapes.bind fun o escape' => ?_
  refine meets_pure ⟨trivial, ?_⟩
  rw [Expr.eval, Expr.eval, Expr.evalOption_eq_map, Expr.evalOption_eq_map, subject'.value, pattern'.value, escape']
  rfl

/-- The operator of an equality or inequality. -/
def equalityOp (equal : Bool) : BinaryOp :=
  if equal then .equal else .notEqual

/-! ## Elements of a sequence -/

/-- Membership among values that compare alike is the same. -/
theorem membership_congr {x : Value} {ys : List Value} {f g : Value → Value}
    (alike : ∀ y ∈ ys, d.comparison .equal x (f y) = d.comparison .equal x (g y)) :
    d.membership x (ys.map f) = d.membership x (ys.map g) := by
  induction ys with
  | nil => rfl
  | cons y rest later =>
    obtain ⟨head, tail⟩ := List.forall_mem_cons.mp alike
    rw [List.map_cons, List.map_cons, Database.membership, Database.membership, List.foldr_cons, List.foldr_cons,
      head]
    exact congrArg (Truth.disj _) (later tail)

/-- The elements of a sequence compare with a value of the item in one type as in the type in which they are sent. -/
def ComparesAlike (d : Database) (item : Expr String) (sm : TypeMapping) (x : Value) (t : LogicalType) : Prop :=
  x.HasType item.type → ∀ y : Value, (y.isNull = true ∨ y.isList = false ∧ y.fits sm.type = true) →
    d.comparison .equal x (y.convertedTo (elementMapping item sm).type) = d.comparison .equal x (y.convertedTo t)

/-- Where comparing with a value is comparing with its image, the elements compare as in their own type. -/
theorem comparesAlike_own (images : d.ComparesImages) {item : Expr String} {sm : TypeMapping} {x : Value}
    (typed : item.Typed) (scalar : item.type.isSequence = false) : ComparesAlike d item sm x sm.type := by
  intro here y element
  unfold elementMapping
  split
  next taken =>
    rw [Bool.and_eq_true, Bool.not_eq_true'] at taken
    obtain ⟨-, widens⟩ := taken
    rw [← typed.type_eq scalar] at widens ⊢
    have widens' := LogicalType.widensTo_iff.mp widens
    unfold Database.comparison
    rw [Value.isNull_convertedTo, Value.isNull_convertedTo]
    split
    · rfl
    next present =>
      rw [Bool.or_eq_true, not_or] at present
      obtain ⟨single, fits⟩ := element.resolve_left present.2
      obtain ⟨near, image⟩ := Value.convertTo?_of_fits fits single (.refl sm.type)
      obtain ⟨far, image'⟩ := Value.convertTo?_of_fits fits single widens'
      have shown : x.type? = some item.type := here.resolve_left fun null => present.1 (Value.isNull_iff.mpr null)
      have step : near.convertTo? item.type = some far := (Value.convertTo?_convertTo? image widens').trans image'
      rw [Value.convertedTo, Value.convertedTo, image, image', Option.getD_some, Option.getD_some,
        images shown step]
  next => rfl

/-- Membership among the elements that are sent is membership among elements that compare alike. -/
theorem membership_elements {item : Expr String} {sm : TypeMapping} {x : Value} {t : LogicalType} {ys : List Value}
    (alike : ComparesAlike d item sm x t) (here : x.HasType item.type)
    (elements : ∀ y ∈ ys, y.isNull = true ∨ y.isList = false ∧ y.fits sm.type = true) :
    d.membership x (ys.map (Value.convertedTo · (elementMapping item sm).type)) =
      d.membership x (ys.map (Value.convertedTo · t)) :=
  membership_congr fun y member => alike here y (elements y member)

/-- Membership among placeholders; a truth value where there are none. -/
theorem eval_membership {c : Context Slot} {item : Expr Slot} {placeholders : List (Expr Slot)} {negated : Bool}
    {m : TypeMapping} :
    (if placeholders.isEmpty then s.builder.truth negated else .inList item placeholders negated m).eval c =
      .ofTruth (Truth.signed negated (c.database.membership (item.eval c) (placeholders.map (Expr.eval c)))) := by
  split
  next none =>
    rw [List.isEmpty_iff.mp none]
    cases negated <;> rfl
  next => rw [Expr.eval, Expr.evalAll_eq_map]

/-- Membership among placeholders is no connective. -/
theorem sidesTyped_membership {c : Context Slot} {item : Expr Slot} {placeholders : List (Expr Slot)}
    {negated : Bool} {m : TypeMapping} : SidesTyped c
      (if placeholders.isEmpty then s.builder.truth negated else .inList item placeholders negated m) := by
  split
  · exact trivial
  · exact trivial

end Specialization

end SqlShape
