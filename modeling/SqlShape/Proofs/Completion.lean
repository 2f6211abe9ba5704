import SqlShape.Proofs.Exactness

/-!
# Conditions completed for null

The rules at the leaves complete a condition for the operands that may be null. What they ask is answered alike in all
runs, so a completed condition has one truth value in a row, which is computed here from the values of its operands:
`armed`, `equation` and `inclusion` follow the rules in three-valued logic. Where the answers are right of the
operands (`Answers`), a completed condition is true exactly where it holds in a query, in which null equals null, and it
is known where no operand may be null.

An operand is any expression whose reading has one value in the row (`Worth`): a scalar, but also a condition, which
was completed itself.
-/

namespace SqlShape

/-! ## Conditions in a query -/

namespace Value

/-- The truth value that a condition must have to take a row. -/
def isTrue (v : Value) : Bool :=
  decide (v = .bool true)

@[simp]
theorem isTrue_bool (b : Bool) : (bool b).isTrue = b := by
  cases b <;> rfl

@[simp]
theorem isTrue_ofTruth (t : Option Bool) : (ofTruth t).isTrue = (t == some true) := by
  rcases t with _ | _ | _ <;> rfl

theorem isTrue_iff {v : Value} : v.isTrue = true ↔ v = .bool true :=
  decide_eq_true_iff

theorem truth?_of_ne_null {v : Value} (present : v ≠ .null) : v.truth? = some v.isTrue := by
  cases v with
  | null => exact absurd rfl present
  | _ => rfl

end Value

namespace Database

variable (d : Database)

/-- Equality in a query: null equals null and nothing else. -/
def same (x y : Value) : Bool :=
  if x.isNull || y.isNull then x.isNull && y.isNull else (d.compare x y).isEq

/-- A comparison that null fails. -/
def compares (op : BinaryOp) (x y : Value) : Bool :=
  !x.isNull && !y.isNull && op.holds (d.compare x y)

/-- A comparison in a query. -/
def relates (op : BinaryOp) (x y : Value) : Bool :=
  match op with
  | .equal => d.same x y
  | .notEqual => !d.same x y
  | _ => d.compares op x y

variable {d}
theorem same_eq (x y : Value) :
    d.same x y = (x.isNull && y.isNull || !x.isNull && !y.isNull && (d.compare x y).isEq) := by
  unfold same
  cases x.isNull <;> cases y.isNull <;> rfl

theorem comparison_isTrue (op : BinaryOp) (x y : Value) :
    (d.comparison op x y == some true) = d.compares op x y := by
  unfold comparison compares
  cases x.isNull <;> cases y.isNull <;> cases op.holds (d.compare x y) <;> rfl

/-- The opposite comparison holds, or an operand is null. -/
theorem compares_negated {op opposite : BinaryOp} (found : op.negated? = some opposite) (x y : Value) :
    (d.compares opposite x y || (x.isNull || y.isNull)) = !d.compares op x y := by
  unfold compares
  rw [BinaryOp.holds_negated? found]
  cases x.isNull <;> cases y.isNull <;> cases op.holds (d.compare x y) <;> rfl

/-- A pattern match fails, or an operand is null. -/
theorem like_negated {subject pattern : Value} {escape : Option Value} (present : escape.any Value.isNull = false) :
    ((Truth.neg (d.like subject pattern escape) == some true) || (subject.isNull || pattern.isNull)) =
      !(d.like subject pattern escape == some true) := by
  unfold like
  rw [present]
  cases subject.isNull <;> cases pattern.isNull <;> cases d.isLike subject pattern escape <;> rfl

/-- Membership among values that are not null: unknown for null, unless there are none. -/
theorem membership_present {x : Value} {ys : List Value} (present : ∀ y ∈ ys, y.isNull = false) :
    d.membership x ys = if x.isNull then (if ys.isEmpty then some false else none)
      else some (ys.any fun y => (d.compare x y).isEq) := by
  induction ys with
  | nil => cases x.isNull <;> rfl
  | cons y rest later =>
    obtain ⟨here, after⟩ := List.forall_mem_cons.mp present
    rw [membership, List.foldr_cons, ← membership, later after, comparison, here, List.any_cons]
    cases x.isNull with
    | true => cases rest <;> rfl
    | false =>
      dsimp only [BinaryOp.holds]
      cases (d.compare x y).isEq <;> cases rest.any fun y => (d.compare x y).isEq <;> rfl

/-- Membership in a query: null is among elements with a null, another value among those that it equals. -/
theorem any_same (x : Value) (ys : List Value) : ys.any (d.same x) =
    if x.isNull then ys.any Value.isNull else (ys.filter (!·.isNull)).any fun y => (d.compare x y).isEq := by
  rw [List.any_filter]
  cases null : x.isNull with
  | true => exact congrArg ys.any (funext fun y => by rw [same_eq, null]; cases y.isNull <;> rfl)
  | false => exact congrArg ys.any (funext fun y => by rw [same_eq, null]; cases y.isNull <;> rfl)

end Database

/-! ## Connectives -/

/-- The connective that a connective becomes under a negation. -/
def BinaryOp.dual : BinaryOp → BinaryOp
  | and => or
  | _ => and

namespace Truth

/-- A connective. -/
def join (op : BinaryOp) (s t : Option Bool) : Option Bool :=
  match op with
  | .and => conj s t
  | _ => disj s t

theorem eq_none_of_join {op : BinaryOp} {s t : Option Bool} (unknown : join op s t = none) : s = none ∨ t = none := by
  unfold join at unknown
  split at unknown
  · exact eq_none_of_conj unknown
  · exact eq_none_of_disj unknown

@[simp]
theorem isTrue_conj (s t : Option Bool) : (conj s t == some true) = ((s == some true) && (t == some true)) := by
  rcases s with _ | _ | _ <;> rcases t with _ | _ | _ <;> rfl

@[simp]
theorem isTrue_disj (s t : Option Bool) : (disj s t == some true) = ((s == some true) || (t == some true)) := by
  rcases s with _ | _ | _ <;> rcases t with _ | _ | _ <;> rfl

end Truth

namespace Specialization

variable {d : Database} {row : Row} {s : Setting}

section Connectives

variable {c : Context Slot} {b : Builder} {op : BinaryOp} {l r e : Expr Slot} {t u : Option Bool}

/-- The truth value of a connective. -/
theorem eval_connective (logical : op.isLogical = true) (left : l.eval c = .ofTruth t) (right : r.eval c = .ofTruth u)
    (m : TypeMapping) :
    (Expr.binary op l r m).eval c = .ofTruth (Truth.join op t u) ∧ SidesTyped c (.binary op l r m) := by
  refine ⟨?_, fun _ => ?_⟩
  · rw [Expr.eval, left, right]
    cases op with
    | and | or =>
      unfold Database.binary Truth.join
      rw [Value.truth?_ofTruth, Value.truth?_ofTruth]
    | _ => cases logical
  · rw [left, right]
    exact ⟨Value.hasType_ofTruth t, Value.hasType_ofTruth u⟩

/-- The truth value of a connective that is built. -/
theorem eval_logical (logical : op.isLogical = true) (built : b.logical op l r = .ok e) (left : l.eval c = .ofTruth t)
    (right : r.eval c = .ofTruth u) : e.eval c = .ofTruth (Truth.join op t u) ∧ SidesTyped c e := by
  obtain ⟨-, -, rfl⟩ := Builder.logical_eq_ok built
  exact eval_connective logical left right b.boolMapping

theorem eval_isNull (c : Context Slot) (b : Builder) (e : Expr Slot) :
    (b.isNull e).eval c = .ofTruth (some (e.eval c).isNull) :=
  congrArg Value.bool (Bool.bne_false _)

theorem eval_isNotNull (c : Context Slot) (b : Builder) (e : Expr Slot) :
    (b.isNotNull e).eval c = .ofTruth (some !(e.eval c).isNull) :=
  congrArg Value.bool (Bool.bne_true _)

end Connectives

/-! ## Operands -/

/-- What is answered about the nullness of an expression is right of a value. -/
structure Answers (v : Bindings) (e : Expr String) (w : Value) : Prop where
  known : ∀ null ∈ e.nullness? v, w.isNull = null
  present : e.mayBeNull v = false → w.isNull = false

/-- The reading of an expression as it stands has one value in a row, of the expression's type, and what is answered
about its nullness is right. -/
structure Worth (d : Database) (row : Row) (s : Setting) (e : Expr String) (w : Value) : Prop
    extends Answers s.bindings e w where
  asIs : Yields s.bindings (read s e).asIs fun x => x.expr.eval (s.after d row) = w ∧ w.HasType e.type

/-- What is answered about an expression is right of its value in a row that respects its columns. -/
theorem answers_eval {e : Expr String} (respects : row.Respects e) :
    Answers s.bindings e (e.eval (s.before d row)) where
  known _ known := Expr.nullnessIs_of_mem known d row respects
  present absent := (Expr.neverNull absent).isNull_eq_false respects

/-! ## Arms for null -/

/-- The truth value of a condition with the arms of its operands. -/
def armed (v : Bindings) (t : Option Bool) : List (Expr String × Value) → Option Bool
  | [] => t
  | (e, w) :: rest =>
    match e.nullness? v with
    | some true => some true
    | some false => armed v t rest
    | none => armed v (if e.mayBeNull v then Truth.disj t (some w.isNull) else t) rest

theorem addNullArms_yields {operands : List (Expr String × Value)} (each : ∀ o ∈ operands, Worth d row s o.1 o.2)
    {x : Visited} {t : Option Bool} (value : x.expr.eval (s.after d row) = .ofTruth t)
    (sides : SidesTyped (s.after d row) x.expr) :
    Yields s.bindings (addNullArms s x (operands.map fun o => (o.1, read s o.1))) fun y =>
      y.expr.eval (s.after d row) = .ofTruth (armed s.bindings t operands) := by
  -- The condition grows arm by arm, so the induction is on the operands for any condition.
  induction operands generalizing x t with
  | nil => exact meets_pure ((eval_reduced sides).trans value)
  | cons o rest later =>
    obtain ⟨e, w⟩ := o
    obtain ⟨here, others⟩ := List.forall_mem_cons.mp each
    refine (knownNullness_yields s e).bind fun known same => ?_
    subst same
    split
    next known =>
      simp only [armed, known]
      exact meets_pure rfl
    next known =>
      simp only [armed, known]
      exact later others value sides
    next known =>
      refine (mayBeNull_yields s e).bind fun may same => ?_
      subst same
      split
      next may =>
        refine here.asIs.bind fun y worth => Meets.bind (yields_lift fun _ made => made) fun z made => ?_
        have arm := eval_isNull (s.after d row) s.builder y.expr
        rw [worth.1] at arm
        obtain ⟨either, sides'⟩ := eval_logical rfl made value arm
        simp only [armed, known, if_pos may]
        exact later (x := replaced z) others either sides'
      next no =>
        simp only [armed, known, if_neg no]
        exact later others value sides

/-- With its arms a condition is also true where an operand is null. -/
theorem isTrue_armed {v : Bindings} {operands : List (Expr String × Value)} (each : ∀ o ∈ operands, Answers v o.1 o.2)
    (t : Option Bool) :
    (armed v t operands == some true) = ((t == some true) || operands.any fun o => o.2.isNull) := by
  induction operands generalizing t with
  | nil => rw [armed, List.any_nil, Bool.or_false]
  | cons o rest later =>
    obtain ⟨e, w⟩ := o
    obtain ⟨here, others⟩ := List.forall_mem_cons.mp each
    rw [List.any_cons]
    unfold armed
    split
    next known => rw [here.known true known, Bool.true_or, Bool.or_true, beq_self_eq_true]
    next known => rw [here.known false known, Bool.false_or, later others]
    next =>
      rw [later others]
      split
      next =>
        rw [Truth.isTrue_disj, Bool.or_assoc]
        cases w.isNull <;> rfl
      next no => rw [here.present (Bool.eq_false_iff.mpr no), Bool.false_or]

/-- A condition that is known is known with its arms. -/
theorem eq_none_of_armed {v : Bindings} {operands : List (Expr String × Value)} {t : Option Bool}
    (unknown : armed v t operands = none) : t = none := by
  induction operands generalizing t with
  | nil => exact unknown
  | cons o rest later =>
    unfold armed at unknown
    split at unknown
    · cases unknown
    · exact later unknown
    · have unknown' := later unknown
      split at unknown'
      · exact (Truth.eq_none_of_disj unknown').resolve_right (Option.some_ne_none _)
      · exact unknown'

/-- The arms of two operands. -/
theorem withNullArms_yields (completes : s.relationalNulls = false) {l r : Expr String} {x y : Value}
    (first : Worth d row s l x) (second : Worth d row s r y) {z : Visited} {t : Option Bool}
    (value : z.expr.eval (s.after d row) = .ofTruth t) (sides : SidesTyped (s.after d row) z.expr) :
    Yields s.bindings (withNullArms s z [(l, read s l), (r, read s r)]) fun z' =>
      z'.expr.eval (s.after d row) = .ofTruth (armed s.bindings t [(l, x), (r, y)]) := by
  unfold withNullArms
  rw [completes]
  have each : ∀ o ∈ [(l, x), (r, y)], Worth d row s o.1 o.2 :=
    List.forall_mem_cons.mpr ⟨first, List.forall_mem_singleton.mpr second⟩
  exact addNullArms_yields each value sides

/-- With the arms of two operands a condition is also true where one of them is null. -/
theorem isTrue_armed_two {v : Bindings} {l r : Expr String} {x y : Value} (first : Answers v l x)
    (second : Answers v r y) (t : Option Bool) :
    (armed v t [(l, x), (r, y)] == some true) = ((t == some true) || (x.isNull || y.isNull)) := by
  have each : ∀ o ∈ [(l, x), (r, y)], Answers v o.1 o.2 :=
    List.forall_mem_cons.mpr ⟨first, List.forall_mem_singleton.mpr second⟩
  rw [isTrue_armed each, List.any_cons, List.any_cons, List.any_nil, Bool.or_false]

/-! ## Equality -/

/-- The truth value of a completed comparison, from that of the comparison and the nullness of its operands. -/
def completion (equal leftNullable rightNullable : Bool) (t : Option Bool) (leftNull rightNull : Bool) : Option Bool :=
  match equal, leftNullable, rightNullable with
  | true, true, true => Truth.disj t (some (leftNull && rightNull))
  | false, true, true =>
    Truth.conj (Truth.disj (Truth.disj t (some leftNull)) (some rightNull)) (some (!leftNull || !rightNull))
  | false, true, false => Truth.disj t (some leftNull)
  | false, false, true => Truth.disj t (some rightNull)
  | _, _, _ => t

theorem eval_completed {c : Context Slot} {b : Builder} {equal leftNullable rightNullable : Bool} {t : Option Bool}
    {comparison z : Visited} {l r : Expr Slot} (value : comparison.expr.eval c = .ofTruth t)
    (made : completed b equal comparison l r leftNullable rightNullable = .ok z) :
    z.expr.eval c =
      .ofTruth (completion equal leftNullable rightNullable t (l.eval c).isNull (r.eval c).isNull) := by
  have isNull := eval_isNull c b
  have isNotNull := eval_isNotNull c b
  cases equal with
  | true =>
    cases leftNullable with
    | false =>
      cases made
      exact value
    | true =>
      cases rightNullable with
      | false =>
        cases made
        exact value
      | true =>
        obtain ⟨both, made₁, later⟩ := bind_eq_ok.mp made
        obtain ⟨e, made₂, rest⟩ := bind_eq_ok.mp later
        cases rest
        have bothNull := (eval_logical rfl made₁ (isNull l) (isNull r)).1
        refine (eval_logical rfl made₂ value bothNull).1.trans ?_
        cases (l.eval c).isNull <;> cases (r.eval c).isNull <;> rfl
  | false =>
    cases leftNullable with
    | false =>
      cases rightNullable with
      | false =>
        cases made
        exact value
      | true =>
        obtain ⟨e, made₁, rest⟩ := bind_eq_ok.mp made
        cases rest
        exact (eval_logical rfl made₁ value (isNull r)).1
    | true =>
      cases rightNullable with
      | false =>
        obtain ⟨e, made₁, rest⟩ := bind_eq_ok.mp made
        cases rest
        exact (eval_logical rfl made₁ value (isNull l)).1
      | true =>
        obtain ⟨first, made₁, later⟩ := bind_eq_ok.mp made
        obtain ⟨differs, made₂, later⟩ := bind_eq_ok.mp later
        obtain ⟨notBoth, made₃, later⟩ := bind_eq_ok.mp later
        obtain ⟨e, made₄, rest⟩ := bind_eq_ok.mp later
        cases rest
        have apart := (eval_logical rfl made₂ (eval_logical rfl made₁ value (isNull l)).1 (isNull r)).1
        have onePresent := (eval_logical rfl made₃ (isNotNull l) (isNotNull r)).1
        refine (eval_logical rfl made₄ apart onePresent).1.trans ?_
        cases (l.eval c).isNull <;> cases (r.eval c).isNull <;> rfl

/-- A comparison that is known is known when it is completed. -/
theorem eq_none_of_completion {equal leftNullable rightNullable leftNull rightNull : Bool} {t : Option Bool}
    (unknown : completion equal leftNullable rightNullable t leftNull rightNull = none) : t = none := by
  have arm {u : Option Bool} {null : Bool} (unknown : Truth.disj u (some null) = none) : u = none :=
    (Truth.eq_none_of_disj unknown).resolve_right (Option.some_ne_none _)
  unfold completion at unknown
  split at unknown
  · exact arm unknown
  · exact arm (arm ((Truth.eq_none_of_conj unknown).resolve_right (Option.some_ne_none _)))
  · exact arm unknown
  · exact arm unknown
  · exact unknown

/-- A comparison that is completed for the operands that may be null is equality in the query. -/
theorem isTrue_completion : ∀ equal leftNullable rightNullable leftNull rightNull alike : Bool,
    (leftNullable = false → leftNull = false) →
    (rightNullable = false → rightNull = false ∨ equal = true ∧ leftNull = false) →
    (completion equal leftNullable rightNullable (if leftNull || rightNull then none else some (alike == equal))
      leftNull rightNull == some true) = ((leftNull && rightNull || !leftNull && !rightNull && alike) == equal) := by
  decide

theorem holds_equalityOp (equal : Bool) (o : Ordering) : (equalityOp equal).holds o = (o.isEq == equal) := by
  cases equal <;> cases o <;> rfl

/-- The truth value of an equality or inequality, from that of the plain comparison and the nullness of its operands. -/
def equation (v : Bindings) (equal : Bool) (l r : Expr String) (t : Option Bool) (leftNull rightNull : Bool) :
    Option Bool :=
  match l.nullness? v == some true, r.nullness? v == some true with
  | true, true => some equal
  | true, false => some (rightNull == equal)
  | false, true => some (leftNull == equal)
  | false, false =>
    if equal && !l.mayBeNull v then t
    else completion equal (l.mayBeNull v) (r.mayBeNull v) t leftNull rightNull

theorem equality_yields (completes : s.relationalNulls = false) (equal : Bool) {l r : Expr String} {x y : Value}
    (m : TypeMapping) (first : Worth d row s l x) (second : Worth d row s r y) :
    Yields s.bindings (equality s equal (l, read s l) (r, read s r) m) fun z =>
      z.expr.eval (s.after d row) =
        .ofTruth (equation s.bindings equal l r (d.comparison (equalityOp equal) x y) x.isNull y.isNull) := by
  refine (knownNullness_yields s l).bind fun known same => (knownNullness_yields s r).bind fun known' same' => ?_
  subst same same'
  dsimp only
  split
  next left right =>
    simp only [equation, left, right]
    exact meets_pure rfl
  next left right =>
    simp only [equation, left, right]
    refine second.asIs.bind fun z worth => meets_pure ?_
    rw [replaced, Expr.eval, worth.1]
    cases y.isNull <;> cases equal <;> rfl
  next left right =>
    simp only [equation, left, right]
    refine first.asIs.bind fun z worth => meets_pure ?_
    rw [replaced, Expr.eval, worth.1]
    cases x.isNull <;> cases equal <;> rfl
  next left right =>
    simp only [equation, left, right]
    refine (nullableOperands_yields s equal l r).bind fun flags same => ?_
    refine first.asIs.bind fun z worth => second.asIs.bind fun z' worth' => yields_lift fun z'' made => ?_
    have compared : (Expr.binary (equalityOp equal) z.expr z'.expr m).eval (s.after d row) =
        .ofTruth (d.comparison (equalityOp equal) x y) := by
      rw [Expr.eval, worth.1, worth'.1]
      cases equal <;> rfl
    rw [eval_completed compared made, worth.1, worth'.1, same, completes, Bool.false_or]
    split
    · cases equal <;> rfl
    · rfl

/-- An equality or inequality is true where its operands are the same or not, null among them. -/
theorem isTrue_equation {v : Bindings} (equal : Bool) {l r : Expr String} {x y : Value} (first : Answers v l x)
    (second : Answers v r y) :
    (equation v equal l r (d.comparison (equalityOp equal) x y) x.isNull y.isNull == some true) =
      (d.same x y == equal) := by
  rw [Database.same_eq, Database.comparison, holds_equalityOp]
  unfold equation
  split
  next left right =>
    rw [first.known true (beq_iff_eq.mp left), second.known true (beq_iff_eq.mp right)]
    cases equal <;> rfl
  next left right =>
    rw [first.known true (beq_iff_eq.mp left)]
    cases y.isNull <;> cases equal <;> rfl
  next left right =>
    rw [second.known true (beq_iff_eq.mp right)]
    cases x.isNull <;> cases equal <;> rfl
  next left right =>
    split
    next plain =>
      rw [Bool.and_eq_true, Bool.not_eq_true'] at plain
      obtain ⟨rfl, absent⟩ := plain
      exact isTrue_completion true false false _ _ _ (fun _ => first.present absent)
        fun _ => .inr ⟨rfl, first.present absent⟩
    next => exact isTrue_completion _ _ _ _ _ _ first.present fun absent => .inl (second.present absent)

/-- An equality or inequality is known unless the plain comparison is not. -/
theorem eq_none_of_equation {v : Bindings} {equal leftNull rightNull : Bool} {l r : Expr String} {t : Option Bool}
    (unknown : equation v equal l r t leftNull rightNull = none) : t = none := by
  unfold equation at unknown
  split at unknown
  · cases unknown
  · cases unknown
  · cases unknown
  · split at unknown
    · exact unknown
    · exact eq_none_of_completion unknown

/-! ## Membership in a sequence -/

/-- The truth value of a completed membership, from that of the membership and the nullness of the item. -/
def inclusion (negated mayMatch mayMiss : Bool) (t : Option Bool) (null : Bool) : Option Bool :=
  match mayMatch, negated, mayMiss with
  | true, true, _ => Truth.conj t (some !null)
  | true, false, _ => Truth.disj t (some null)
  | false, _, true => Truth.disj t (some null)
  | false, _, false => t

/-- A membership among the elements that are not null, completed for a null item or element, is membership in the
query. -/
theorem isTrue_inclusion : ∀ negated mayMatch mayMiss null hasNull alike empty : Bool,
    (mayMatch = true → hasNull = true) → (mayMatch = false → hasNull = false ∨ null = false) →
    (mayMiss = false → negated = false ∨ null = false) → (mayMiss = true → negated = true) →
    (inclusion negated mayMatch mayMiss
      (Truth.signed negated (if null then (if empty then some false else none) else some alike)) null == some true) =
      ((if null then hasNull else alike) != negated) := by
  decide

theorem completedMembership_yields {item : Expr String} {visited membership : Expr Slot} (hasNull negated : Bool)
    {t : Option Bool} (value : membership.eval (s.after d row) = .ofTruth t)
    (sides : SidesTyped (s.after d row) membership) :
    Yields s.bindings (completedMembership s item visited hasNull negated membership) fun e =>
      e.eval (s.after d row) = .ofTruth (inclusion negated (hasNull && item.nullness? s.bindings != some false)
        (negated && !s.relationalNulls && item.mayBeNull s.bindings) t (visited.eval (s.after d row)).isNull) ∧
      SidesTyped (s.after d row) e := by
  have isNull := eval_isNull (s.after d row) s.builder visited
  have isNotNull := eval_isNotNull (s.after d row) s.builder visited
  refine (mayMatchNull_yields s item hasNull).bind fun mayMatch same => ?_
  rw [← same]
  cases mayMatch with
  | true =>
    cases negated with
    | true => exact yields_lift fun e made => eval_logical rfl made value isNotNull
    | false => exact yields_lift fun e made => eval_logical rfl made value isNull
  | false =>
    refine (mayMissNull_yields s item negated).bind fun mayMiss same' => ?_
    rw [← same']
    cases mayMiss with
    | true => exact yields_lift fun e made => eval_logical rfl made value isNull
    | false => exact meets_pure ⟨value, sides⟩

/-- The elements of a sequence, in place of the sequence: true where the item is the same as one of them, in a type in
which they compare alike, or where it is not. -/
theorem expandMembership_yields (completes : s.relationalNulls = false) {item : Expr String} {w : Value} (name : String)
    {sm : TypeMapping} (negated : Bool) (m : TypeMapping) {type : LogicalType} (alike : ComparesAlike d item sm w type)
    (below : Worth d row s item w) :
    ∃ t : Option Bool, (t == some true) =
        (((s.bindings.elementsOf name).map (Value.convertedTo · type)).any (d.same w) != negated) ∧
      Yields s.bindings (expandMembership s (item, read s item) name sm negated m) fun x =>
        x.expr.eval (s.after d row) = .ofTruth t := by
  have widens := LogicalType.widensTo_iff.mp (widensTo_elementMapping item sm)
  have present : ∀ y ∈ ((s.bindings.elementsOf name).filter (!·.isNull)).map (Value.convertedTo · type),
      y.isNull = false := by
    intro y member
    obtain ⟨value, kept, rfl⟩ := List.mem_map.mp member
    rw [Value.isNull_convertedTo]
    exact Bool.not_eq_true' _ ▸ (List.mem_filter.mp kept).2
  have nulls : ((s.bindings.elementsOf name).map (Value.convertedTo · type)).any Value.isNull =
      (s.bindings.elementsOf name).any Value.isNull :=
    List.any_map.trans (congrArg _ (funext fun y => Value.isNull_convertedTo y type))
  have others : (!·.isNull) ∘ (Value.convertedTo · type) = fun y : Value => !y.isNull :=
    funext fun y => congrArg not (Value.isNull_convertedTo y type)
  refine ⟨inclusion negated
    ((s.bindings.elementsOf name).any Value.isNull && item.nullness? s.bindings != some false)
    (negated && !s.relationalNulls && item.mayBeNull s.bindings)
    (Truth.signed negated (d.membership w
      (((s.bindings.elementsOf name).filter (!·.isNull)).map (Value.convertedTo · type)))) w.isNull, ?_, ?_⟩
  · rw [Database.any_same, List.filter_map, others, nulls, Database.membership_present present, completes]
    refine isTrue_inclusion _ _ _ _ _ _ _ ?_ ?_ ?_ ?_
    · exact fun may => (Bool.and_eq_true_iff.mp may).1
    · intro no
      rcases Bool.and_eq_false_iff.mp no with none | known
      · exact .inl none
      · exact .inr (below.known false (bne_eq_false_iff_eq.mp known))
    · intro no
      rw [Bool.not_false, Bool.and_true] at no
      exact (Bool.and_eq_false_iff.mp no).imp_right below.present
    · exact fun may => (Bool.and_eq_true_iff.mp (Bool.and_eq_true_iff.mp may).1).1
  · refine (elementPlaceholders_yields widens).bind fun expanded found => ?_
    obtain ⟨placeholders, hasNull⟩ := expanded
    obtain ⟨any, values, -, elements⟩ := found
    refine below.asIs.bind fun x worth => ?_
    have member : (if placeholders.isEmpty then s.builder.truth negated
        else .inList x.expr placeholders negated m).eval (s.after d row) =
          .ofTruth (Truth.signed negated (d.membership _ _)) :=
      eval_membership
    rw [worth.1, values d row, membership_elements alike worth.2
      fun y kept => elements y (List.mem_filter.mp kept).1] at member
    refine (completedMembership_yields hasNull negated member sidesTyped_membership).bind fun e completed =>
      meets_pure ?_
    refine (eval_reduced (x := replaced e) completed.2).trans (completed.1.trans ?_)
    rw [worth.1, show hasNull = _ from any]

/-! ## Both readings of a condition -/

/-- The truth values of a condition in a row, as it stands and negated. They are known where nothing may be null. -/
structure Truths (d : Database) (row : Row) (s : Setting) (e : Expr String) (t u : Option Bool) : Prop where
  asIs : Yields s.bindings (read s e).asIs fun x => x.expr.eval (s.after d row) = .ofTruth t
  negated : ∀ written, Yields s.bindings ((read s e).negated written) fun x => x.expr.eval (s.after d row) = .ofTruth u
  known : e.mayBeNull s.bindings = false → t ≠ none ∧ u ≠ none

/-- As it stands a condition is true exactly where it holds, and negated exactly where it does not. -/
def Settled (d : Database) (row : Row) (s : Setting) (e : Expr String) (holds : Bool) : Prop :=
  ∃ t u : Option Bool, Truths d row s e t u ∧ (t == some true) = holds ∧ (u == some true) = !holds

/-- A condition of which nothing is known beforehand has its truth value. -/
theorem Truths.worth {e : Expr String} {t u : Option Bool} (truths : Truths d row s e t u) (bool : e.type = .bool)
    (unasked : e.nullness? s.bindings = none) : Worth d row s e (.ofTruth t) where
  known null known := by
    rw [unasked] at known
    cases known
  present absent := by
    cases t with
    | none => exact absurd rfl (truths.known absent).1
    | some holds => rfl
  asIs := truths.asIs.mono fun x value => ⟨value, bool ▸ Value.hasType_ofTruth t⟩

/-- A connective; negated, it is the other connective over the negated sides. -/
theorem connective_truths {op : BinaryOp} (logical : op.isLogical = true) {l r : Expr String} {m : TypeMapping}
    {t u t' u' : Option Bool} (first : Truths d row s l t u) (second : Truths d row s r t' u') :
    Truths d row s (.binary op l r m) (Truth.join op t t') (Truth.join op.dual u u') := by
  have plain : Yields s.bindings (visitBinary s op (read s l) (read s r) m) fun z =>
      z.expr.eval (s.after d row) = .ofTruth (Truth.join op t t') := by
    refine first.asIs.bind fun x left => second.asIs.bind fun y right => meets_pure ?_
    obtain ⟨value, sides⟩ := eval_connective logical left right m
    exact (eval_reduced sides).trans value
  have opposed (dual : op.dual.isLogical = true) : Yields s.bindings (do
      let x ← (read s l).negated none
      let y ← (read s r).negated none
      return (replaced (← s.builder.logical op.dual x.expr y.expr)).reduced s.builder) fun z =>
        z.expr.eval (s.after d row) = .ofTruth (Truth.join op.dual u u') := by
    refine (first.negated none).bind fun x left => (second.negated none).bind fun y right => ?_
    refine Meets.bind (yields_lift fun _ made => made) fun e made => meets_pure ?_
    obtain ⟨value, sides⟩ := eval_logical dual made left right
    exact (eval_reduced (x := replaced e) sides).trans value
  have known (absent : (Expr.binary op l r m).mayBeNull s.bindings = false) :
      Truth.join op t t' ≠ none ∧ Truth.join op.dual u u' ≠ none := by
    rw [Expr.mayBeNull, Bool.or_eq_false_iff] at absent
    obtain ⟨left, left'⟩ := first.known absent.1
    obtain ⟨right, right'⟩ := second.known absent.2
    exact ⟨fun unknown => (Truth.eq_none_of_join unknown).elim left right,
      fun unknown => (Truth.eq_none_of_join unknown).elim left' right'⟩
  cases op with
  | and => exact ⟨plain, fun _ => opposed rfl, known⟩
  | or => exact ⟨plain, fun _ => opposed rfl, known⟩
  | _ => cases logical

/-- A negation turns the readings around. -/
theorem negation_truths {e : Expr String} {m : TypeMapping} {t u : Option Bool} (below : Truths d row s e t u) :
    Truths d row s (.negation e m) u t where
  asIs := below.negated (some m)
  negated _ := below.asIs.bind fun _ value => meets_pure value
  known absent := (below.known absent).symm

/-- What is no condition is negated from outside. -/
theorem negated_of_not_isCondition {e : Expr String} (stored : e.isCondition = false) :
    (read s e).negated = negateVisited s (read s e).asIs := by
  cases e with
  | binary op l r m =>
    cases op with
    | add | subtract => rfl
    | _ => cases stored
  | negation | nullTest | inList | inParameter | like => cases stored
  | _ => rfl

/-- A stored truth value; negated, it has the opposite truth value, and none where it is null. -/
theorem Worth.truths {e : Expr String} {w : Value} (worth : Worth d row s e w) (bool : e.type = .bool)
    (stored : e.isCondition = false) (plain : Yields s.bindings (read s e).asIs fun x => IsPlain x.expr) :
    Truths d row s e w.truth? (Truth.neg w.truth?) where
  asIs := worth.asIs.mono fun x value => value.1.trans (Value.ofTruth_truth? (bool ▸ value.2)).symm
  negated written := by
    rw [negated_of_not_isCondition stored]
    have visits := (plain.and worth.asIs).mono fun x holds => And.imp_right And.left holds
    refine (negateVisited_yields (P := (· = w)) written visits).mono fun x holds => ?_
    obtain ⟨-, _, rfl, opposite⟩ := holds
    exact opposite
  known absent := by
    have present : w.truth? ≠ none := by
      intro unknown
      have null := worth.present absent
      rw [Value.eq_null_of_truth? unknown] at null
      cases null
    exact ⟨present, fun unknown => present (Truth.eq_none_of_neg unknown)⟩

/-- A comparison, visited operand by operand. -/
theorem visitComparison_yields {op : BinaryOp} (compares : op.isComparison = true) {l r : Expr String} {x y : Value}
    (m : TypeMapping) (first : Worth d row s l x) (second : Worth d row s r y) :
    Yields s.bindings (visitBinary s op (read s l) (read s r) m) fun z =>
      z.expr.eval (s.after d row) = .ofTruth (d.comparison op x y) ∧ SidesTyped (s.after d row) z.expr := by
  have other : op.isLogical = false := by
    cases op with
    | and | or => cases compares
    | _ => rfl
  refine first.asIs.bind fun z worth => second.asIs.bind fun z' worth' => meets_pure ?_
  rw [reduced_binary other]
  refine ⟨?_, fun logical => absurd (other.symm.trans logical) Bool.false_ne_true⟩
  rw [Expr.eval, worth.1, worth'.1]
  cases op with
  | and | or | add | subtract => cases compares
  | _ => rfl

/-- A comparison of operands that cannot be null is known. -/
theorem comparison_ne_none {op : BinaryOp} {v : Bindings} {l r : Expr String} {x y : Value} (first : Answers v l x)
    (second : Answers v r y) (absent : (l.mayBeNull v || r.mayBeNull v) = false) : d.comparison op x y ≠ none := by
  intro unknown
  obtain ⟨left, right⟩ := Bool.or_eq_false_iff.mp absent
  rcases Database.eq_null_of_comparison unknown with rfl | rfl
  · exact absurd (first.present left) Bool.noConfusion
  · exact absurd (second.present right) Bool.noConfusion

/-- An ordering is negated to the opposite ordering with the arms of its operands. -/
theorem read_ordering {op opposite : BinaryOp} (found : op.negated? = some opposite)
    (ordering : op ≠ .equal ∧ op ≠ .notEqual) {l r : Expr String} {m : TypeMapping} :
    read s (.binary op l r m) = ⟨visitBinary s op (read s l) (read s r) m, fun _ => do
      let z ← visitBinary s opposite (read s l) (read s r) m
      return replaced (← withNullArms s z [(l, read s l), (r, read s r)]).expr⟩ := by
  cases op with
  | and | or | add | subtract => cases found
  | equal => exact absurd rfl ordering.1
  | notEqual => exact absurd rfl ordering.2
  | _ =>
    cases found
    rfl

/-- An ordering; negated, it is the opposite ordering, or an operand is null. -/
theorem ordering_settled (completes : s.relationalNulls = false) {op opposite : BinaryOp}
    (found : op.negated? = some opposite) (ordering : op ≠ .equal ∧ op ≠ .notEqual) {l r : Expr String} {x y : Value}
    {m : TypeMapping} (first : Worth d row s l x) (second : Worth d row s r y) :
    Settled d row s (.binary op l r m) (d.compares op x y) := by
  have compares : op.isComparison = true ∧ opposite.isComparison = true := by
    cases op <;> cases found <;> exact ⟨rfl, rfl⟩
  have known {op : BinaryOp} (absent : (l.mayBeNull s.bindings || r.mayBeNull s.bindings) = false) :
      d.comparison op x y ≠ none :=
    comparison_ne_none first.toAnswers second.toAnswers absent
  refine ⟨d.comparison op x y, armed s.bindings (d.comparison opposite x y) [(l, x), (r, y)], ⟨?_, ?_, ?_⟩, ?_, ?_⟩
  · rw [read_ordering found ordering]
    exact (visitComparison_yields compares.1 m first second).mono fun z holds => holds.1
  · intro written
    rw [read_ordering found ordering]
    refine (visitComparison_yields compares.2 m first second).bind fun z holds => ?_
    exact (withNullArms_yields completes first second holds.1 holds.2).bind fun z' value => meets_pure value
  · exact fun absent => ⟨known absent, fun unknown => known absent (eq_none_of_armed unknown)⟩
  · exact Database.comparison_isTrue op x y
  · rw [isTrue_armed_two first.toAnswers second.toAnswers, Database.comparison_isTrue]
    exact Database.compares_negated found x y

/-- A comparison. -/
theorem comparison_settled (completes : s.relationalNulls = false) {op : BinaryOp}
    (compares : op.isComparison = true) {l r : Expr String} {x y : Value} {m : TypeMapping}
    (first : Worth d row s l x) (second : Worth d row s r y) :
    Settled d row s (.binary op l r m) (d.relates op x y) := by
  have equality (equal : Bool) := equality_yields completes equal m first second
  have isTrue (equal : Bool) := isTrue_equation (d := d) equal first.toAnswers second.toAnswers
  have known (equal : Bool) (absent : (l.mayBeNull s.bindings || r.mayBeNull s.bindings) = false) :
      equation s.bindings equal l r (d.comparison (equalityOp equal) x y) x.isNull y.isNull ≠ none :=
    fun unknown => comparison_ne_none first.toAnswers second.toAnswers absent (eq_none_of_equation unknown)
  cases op with
  | and | or | add | subtract => cases compares
  | equal =>
    refine ⟨_, _, ⟨equality true, fun _ => ?_, fun absent => ⟨known true absent, known false absent⟩⟩,
      (isTrue true).trans (beq_true _), (isTrue false).trans (beq_false _)⟩
    exact (equality false).bind fun z value => meets_pure value
  | notEqual =>
    refine ⟨_, _, ⟨equality false, fun _ => ?_, fun absent => ⟨known false absent, known true absent⟩⟩,
      (isTrue false).trans (beq_false _), (isTrue true).trans ((beq_true _).trans (Bool.not_not _).symm)⟩
    exact (equality true).bind fun z value => meets_pure value
  | _ => exact ordering_settled completes rfl (by decide) first second

/-- A membership in a sequence parameter. It may be null in any case. -/
theorem membership_settled (completes : s.relationalNulls = false) {item : Expr String} {name : String}
    {sm : TypeMapping} {negated : Bool} {m : TypeMapping} {w : Value} {type : LogicalType}
    (alike : ComparesAlike d item sm w type) (below : Worth d row s item w) :
    Settled d row s (.inParameter item (.parameter name (.sequence sm.type) sm) negated m)
      (((s.bindings.elementsOf name).map (Value.convertedTo · type)).any (d.same w) != negated) := by
  obtain ⟨t, isTrue, asIs⟩ := expandMembership_yields completes name negated m alike below
  obtain ⟨u, isTrue', opposed⟩ := expandMembership_yields completes name (!negated) m alike below
  refine ⟨t, u, ⟨asIs, fun _ => opposed, fun absent => ?_⟩, isTrue, isTrue'.trans (Bool.bne_not _ _)⟩
  rw [Expr.mayBeNull, Bool.or_eq_false_iff] at absent
  cases absent.2

/-- The escape character of a pattern. -/
theorem readOption_yields {escape : Option (Expr String)} {z : Option Value}
    (each : Option.Rel (Worth d row s) escape z) :
    Yields s.bindings ((readOption s escape).mapM Reading.asIs) fun o =>
      (o.map Visited.expr).map (Expr.eval (s.after d row)) = z := by
  cases each with
  | none => exact meets_pure rfl
  | some worth =>
    rw [readOption, Option.mapM_some, map_eq_pure_bind]
    exact worth.asIs.bind fun x value => meets_pure (congrArg some value.1)

/-- A pattern match with an escape character that is not null; negated, it fails, or an operand is null. -/
theorem like_settled (completes : s.relationalNulls = false) {subject pattern : Expr String}
    {escape : Option (Expr String)} {m : TypeMapping} {x y : Value} {z : Option Value}
    (first : Worth d row s subject x) (second : Worth d row s pattern y)
    (third : Option.Rel (Worth d row s) escape z) (present : z.any Value.isNull = false) :
    Settled d row s (.like subject pattern escape m) (d.like x y z == some true) := by
  have visits : Yields s.bindings (read s (.like subject pattern escape m)).asIs fun e =>
      IsPlain e.expr ∧ e.expr.eval (s.after d row) = .ofTruth (d.like x y z) := by
    refine first.asIs.bind fun u subject' => second.asIs.bind fun p pattern' => ?_
    refine (readOption_yields third).bind fun o escape' => meets_pure ⟨trivial, ?_⟩
    rw [Expr.eval, Expr.evalOption_eq_map, subject'.1, pattern'.1, escape']
    rfl
  have known (absent : (Expr.like subject pattern escape m).mayBeNull s.bindings = false) : d.like x y z ≠ none := by
    intro unknown
    rw [Expr.mayBeNull, Bool.or_eq_false_iff, Bool.or_eq_false_iff] at absent
    rcases Database.eq_null_of_like unknown with rfl | rfl | rfl
    · exact absurd (first.present absent.1) Bool.noConfusion
    · exact absurd (second.present absent.2.1) Bool.noConfusion
    · cases present
  refine ⟨d.like x y z, armed s.bindings (Truth.neg (d.like x y z)) [(subject, x), (pattern, y)], ⟨?_, ?_, ?_⟩, rfl, ?_⟩
  · exact visits.mono fun e holds => holds.2
  · intro written
    refine (negateVisited_yields (P := (· = .ofTruth (d.like x y z))) written visits).bind fun e holds => ?_
    obtain ⟨sides, _, rfl, opposite⟩ := holds
    rw [Value.truth?_ofTruth] at opposite
    exact withNullArms_yields completes first second opposite sides
  · exact fun absent => ⟨known absent, fun unknown => known absent (Truth.eq_none_of_neg (eq_none_of_armed unknown))⟩
  · rw [isTrue_armed_two first.toAnswers second.toAnswers]
    exact Database.like_negated present

end Specialization

end SqlShape
