import SqlShape.Proofs.Slots

/-!
# Nullness before execution is right

What is asked about null before a command runs depends on the expression and on the values alone, whatever was asked
before, and is refused only where a parameter has no value (`knownNullness_meets`, `mayBeNull_meets`). So the answers
are functions of the expression and the values, `Expr.nullness?` and `Expr.mayBeNull`, and the second is the first where
that is known (`Expr.mayBeNull_of_mem`). They hold when the command runs: an expression that is known to be null, or not
to be, is so in every row (`Expr.nullnessIs_of_mem`), and one that cannot be null is not (`Expr.neverNull`). The second
rests on the operators: each is null only where an operand is.
-/

namespace SqlShape

/-! ## Operators are null only where an operand is -/

namespace Truth

/-- A conjunction is unknown only where a side is. -/
theorem eq_none_of_conj {s t : Option Bool} (unknown : conj s t = none) : s = none ∨ t = none := by
  rcases s with _ | _ | _ <;> rcases t with _ | _ | _ <;> first | exact .inl rfl | exact .inr rfl | cases unknown

/-- A disjunction is unknown only where a side is. -/
theorem eq_none_of_disj {s t : Option Bool} (unknown : disj s t = none) : s = none ∨ t = none := by
  rcases s with _ | _ | _ <;> rcases t with _ | _ | _ <;> first | exact .inl rfl | exact .inr rfl | cases unknown

theorem eq_none_of_neg {t : Option Bool} (unknown : neg t = none) : t = none :=
  Option.map_eq_none_iff.mp unknown

/-- A sign in front makes nothing unknown. -/
theorem eq_none_of_signed {negated : Bool} {t : Option Bool} (unknown : signed negated t = none) : t = none := by
  cases negated with
  | false => exact unknown
  | true => exact eq_none_of_neg unknown

end Truth

/-- Null alone has no truth value. -/
theorem Value.eq_null_of_truth? {v : Value} (unknown : v.truth? = none) : v = .null := by
  cases v with
  | null => rfl
  | _ => cases unknown

theorem Value.eq_none_of_ofTruth {t : Option Bool} (null : Value.ofTruth t = .null) : t = none := by
  cases t with
  | none => rfl
  | some b => cases null

namespace Database

variable {d : Database}

/-- A comparison is unknown only where a side is null. -/
theorem eq_null_of_comparison {op : BinaryOp} {x y : Value} (unknown : d.comparison op x y = none) :
    x = .null ∨ y = .null := by
  unfold comparison at unknown
  split at unknown
  next null => exact (Bool.or_eq_true_iff.mp null).imp Value.isNull_iff.mp Value.isNull_iff.mp
  next => cases unknown

/-- An operator yields null only where a side is null, whether it compares, joins or computes. -/
theorem eq_null_of_binary {op : BinaryOp} {x y : Value} {m : TypeMapping} (null : d.binary op x y m = .null) :
    x = .null ∨ y = .null := by
  cases op with
  | and =>
    exact (Truth.eq_none_of_conj (Value.eq_none_of_ofTruth null)).imp Value.eq_null_of_truth?
      Value.eq_null_of_truth?
  | or =>
    exact (Truth.eq_none_of_disj (Value.eq_none_of_ofTruth null)).imp Value.eq_null_of_truth?
      Value.eq_null_of_truth?
  | add | subtract => exact d.arithmetic_null null
  | _ => exact eq_null_of_comparison (Value.eq_none_of_ofTruth null)

/-- A membership is unknown only where the item or an element is null. -/
theorem eq_null_of_membership {item : Value} {elements : List Value}
    (unknown : d.membership item elements = none) : item = .null ∨ .null ∈ elements := by
  induction elements with
  | nil => cases unknown
  | cons first rest later =>
    rcases Truth.eq_none_of_disj unknown with here | after
    · rcases eq_null_of_comparison here with null | null
      · exact .inl null
      · exact .inr (List.mem_cons.mpr (.inl null.symm))
    · exact (later after).imp_right (List.mem_cons_of_mem first)

/-- A pattern match is unknown only where the subject, the pattern or the escape is null. -/
theorem eq_null_of_like {subject pattern : Value} {escape : Option Value}
    (unknown : d.like subject pattern escape = none) :
    subject = .null ∨ pattern = .null ∨ escape = some .null := by
  unfold like at unknown
  split at unknown
  next null =>
    rcases Bool.or_eq_true_iff.mp null with operand | escaped
    · rcases Bool.or_eq_true_iff.mp operand with null | null
      · exact .inl (Value.isNull_iff.mp null)
      · exact .inr (.inl (Value.isNull_iff.mp null))
    · cases escape with
      | none => cases escaped
      | some c => exact .inr (.inr (congrArg some (Value.isNull_iff.mp escaped)))
  next => cases unknown

end Database

/-! ## Answers about null -/

namespace Expr

/-- Whether an expression is null for given values, where that is known. -/
def nullness? (v : Bindings) : Expr String → Option Bool
  | constant value _ => some value.isNull
  | parameter name t _ => if t.isSequence then none else some (v.valueOf name).isNull
  | column _ _ _ nullable => if nullable then none else some false
  | convert e _ => e.nullness? v
  | _ => none

mutual
/-- Whether an expression may be null for given values. -/
def mayBeNull (v : Bindings) : Expr String → Bool
  | constant value _ => value.isNull
  | parameter name t _ => t.isSequence || (v.valueOf name).isNull
  | column _ _ _ nullable => nullable
  | function _ es _ nullable => nullable || anyMayBeNull v es
  | binary _ l r _ => l.mayBeNull v || r.mayBeNull v
  | negation e _ | convert e _ => e.mayBeNull v
  | nullTest _ _ _ => false
  | inList item values _ _ => item.mayBeNull v || anyMayBeNull v values
  | inParameter item source _ _ => item.mayBeNull v || source.mayBeNull v
  | like subject pattern escape _ => subject.mayBeNull v || (pattern.mayBeNull v || optionMayBeNull v escape)
/-- Whether one of several expressions may be null. -/
def anyMayBeNull (v : Bindings) : List (Expr String) → Bool
  | [] => false
  | e :: es => e.mayBeNull v || anyMayBeNull v es
/-- Whether an expression that may be absent may be null. -/
def optionMayBeNull (v : Bindings) : Option (Expr String) → Bool
  | none => false
  | some e => e.mayBeNull v
end

/-- The mutual recursion over operands is a search. -/
theorem anyMayBeNull_eq_any (v : Bindings) (es : List (Expr String)) : anyMayBeNull v es = es.any (mayBeNull v) := by
  induction es with
  | nil => rfl
  | cons e es rest => rw [anyMayBeNull, rest, List.any_cons]

theorem optionMayBeNull_eq_any (v : Bindings) (o : Option (Expr String)) :
    optionMayBeNull v o = o.any (mayBeNull v) := by
  cases o with
  | none => rfl
  | some e => rfl

end Expr

namespace Specialization

/-- A contract admits that a parameter of an expression has no value. -/
def Contract.AdmitsMissing (c : Contract) (v : Bindings) (e : Expr String) : Prop :=
  ∀ name ∈ e.refs, ∀ refusal, v.get name = .error refusal → c.admits refusal

section Questions

variable {c : Contract} {s : Setting}

/-- Whether an expression is null is answered as far as it is known, unless a parameter has no value. -/
theorem knownNullness_meets {e : Expr String} (missing : c.AdmitsMissing s.bindings e) :
    Meets c (knownNullness s e) (· = e.nullness? s.bindings) := by
  induction e with
  | parameter name t m =>
    unfold knownNullness Expr.nullness?
    split
    · exact meets_pure rfl
    · refine Meets.bind (meets_lift (fun _ found => found) (missing name (List.mem_singleton_self name)))
        fun value found => ?_
      refine meets_consult.bind fun _ _ => meets_pure ?_
      rw [Bindings.valueOf_of_get found]
  | convert operand m below =>
    rw [Contract.AdmitsMissing, Expr.refs_convert] at missing
    exact below missing
  | _ => exact meets_pure rfl

/-- Whether one of several expressions may be null is answered, if it is for each of them. -/
theorem anyMayBeNull_meets {es : List (Expr String)}
    (each : ∀ e ∈ es, Meets c (mayBeNull s e) (· = e.mayBeNull s.bindings)) :
    Meets c (anyMayBeNull s es) (· = Expr.anyMayBeNull s.bindings es) := by
  induction es with
  | nil => exact meets_pure rfl
  | cons e es rest =>
    obtain ⟨head, tail⟩ := List.forall_mem_cons.mp each
    exact head.orElse (rest tail)

/-- Whether an expression may be null is answered, unless a parameter has no value. -/
theorem mayBeNull_meets {e : Expr String} (missing : c.AdmitsMissing s.bindings e) :
    Meets c (mayBeNull s e) (· = e.mayBeNull s.bindings) := by
  induction e with
  | parameter name t m =>
    refine (knownNullness_meets missing).bind fun known same => meets_pure ?_
    subst same
    rw [Expr.nullness?, Expr.mayBeNull]
    cases t.isSequence <;> rfl
  | function name es m nullable each =>
    rw [Contract.AdmitsMissing, Expr.refs_function, List.forall_mem_flatMap] at missing
    unfold mayBeNull Expr.mayBeNull
    cases nullable with
    | true => exact meets_pure rfl
    | false => exact anyMayBeNull_meets fun e member => each e member (missing e member)
  | binary op l r m left right =>
    rw [Contract.AdmitsMissing, Expr.refs_binary, List.forall_mem_append] at missing
    exact (left missing.1).orElse (right missing.2)
  | negation operand m below =>
    rw [Contract.AdmitsMissing, Expr.refs_negation] at missing
    exact below missing
  | convert operand m below =>
    rw [Contract.AdmitsMissing, Expr.refs_convert] at missing
    exact below missing
  | inList item es negated m below each =>
    rw [Contract.AdmitsMissing, Expr.refs_inList, List.forall_mem_append, List.forall_mem_flatMap] at missing
    exact (below missing.1).orElse (anyMayBeNull_meets fun e member => each e member (missing.2 e member))
  | inParameter item source negated m below supplied =>
    rw [Contract.AdmitsMissing, Expr.refs_inParameter, List.forall_mem_append] at missing
    exact (below missing.1).orElse (supplied missing.2)
  | like subject pattern escape m first second third =>
    rw [Contract.AdmitsMissing, Expr.refs_like, List.forall_mem_append, List.forall_mem_append,
      List.forall_mem_flatMap] at missing
    obtain ⟨⟨missingSubject, missingPattern⟩, missingEscape⟩ := missing
    have escaped : Meets c (escapeMayBeNull s escape) (· = Expr.optionMayBeNull s.bindings escape) := by
      cases escape with
      | none => exact meets_pure rfl
      | some e => exact third e rfl (missingEscape e (List.mem_singleton_self e))
    exact (first missingSubject).orElse ((second missingPattern).orElse escaped)
  | _ => exact meets_pure rfl

/-- Whether a member may be null is asked only where the membership is not negated. -/
theorem mayHoldNull_meets (negated : Bool) {es : List (Expr String)}
    (each : ∀ e ∈ es, Meets c (mayBeNull s e) (· = e.mayBeNull s.bindings)) :
    Meets c (if negated then return true else anyMayBeNull s es)
      (· = (negated || Expr.anyMayBeNull s.bindings es)) := by
  cases negated with
  | true => exact meets_pure rfl
  | false => exact anyMayBeNull_meets each

end Questions

/-- Where all refusals are admitted, whether an expression is null is answered as far as it is known. -/
theorem knownNullness_yields (s : Setting) (e : Expr String) :
    Yields s.bindings (knownNullness s e) (· = e.nullness? s.bindings) :=
  knownNullness_meets fun _ _ _ _ => trivial

/-- Where all refusals are admitted, whether an expression may be null is answered. -/
theorem mayBeNull_yields (s : Setting) (e : Expr String) :
    Yields s.bindings (mayBeNull s e) (· = e.mayBeNull s.bindings) :=
  mayBeNull_meets fun _ _ _ _ => trivial

/-- The operands that are completed for null: those that may be null, and of an equality none unless the left one
may be. -/
theorem nullableOperands_yields (s : Setting) (equal : Bool) (left right : Expr String) :
    Yields s.bindings (nullableOperands s equal left right)
      (· = if s.relationalNulls || equal && !left.mayBeNull s.bindings then (false, false)
        else (left.mayBeNull s.bindings, right.mayBeNull s.bindings)) := by
  unfold nullableOperands
  cases s.relationalNulls with
  | true => exact meets_pure rfl
  | false =>
    refine (mayBeNull_yields s left).bind fun l same => ?_
    subst same
    rw [Bool.false_or]
    split
    · exact meets_pure rfl
    · refine (mayBeNull_yields s right).bind fun r same => meets_pure ?_
      subst same
      rfl

/-- Whether the item of a list with a null may be null itself, as far as is known beforehand. -/
theorem mayMatchNull_yields (s : Setting) (item : Expr String) (hasNull : Bool) :
    Yields s.bindings (mayMatchNull s item hasNull)
      (· = (hasNull && item.nullness? s.bindings != some false)) := by
  cases hasNull with
  | true =>
    refine (knownNullness_yields s item).bind fun known same => meets_pure ?_
    subst same
    rfl
  | false => exact meets_pure rfl

/-- Whether a negated list needs a null test of its item. -/
theorem mayMissNull_yields (s : Setting) (item : Expr String) (negated : Bool) :
    Yields s.bindings (mayMissNull s item negated)
      (· = (negated && !s.relationalNulls && item.mayBeNull s.bindings)) := by
  unfold mayMissNull
  cases negated && !s.relationalNulls with
  | true => exact mayBeNull_yields s item
  | false => exact meets_pure rfl

end Specialization

/-! ## The answers hold -/

namespace Context

/-- A scalar parameter is its value in the type of the leaf. -/
theorem ofBindings_scalar (d : Database) (row : Row) (v : Bindings) (name : String) {t : LogicalType}
    (scalar : t.isSequence = false) :
    (ofBindings d row v).parameter name t = (v.valueOf name).convertedTo t := by
  cases t with
  | sequence element => cases scalar
  | _ => rfl

end Context

namespace Expr

/-- The nullness of an expression in every row that respects its columns. -/
def NullnessIs (v : Bindings) (null : Bool) (e : Expr String) : Prop :=
  ∀ (d : Database) (row : Row), row.Respects e → (e.eval (.ofBindings d row v)).isNull = null

/-- An expression is not null in any row that respects its columns. -/
def NeverNull (v : Bindings) (e : Expr String) : Prop :=
  ∀ (d : Database) (row : Row), row.Respects e → e.eval (.ofBindings d row v) ≠ .null

/-- What is never null is not null in a row that respects it. -/
theorem NeverNull.isNull_eq_false {v : Bindings} {e : Expr String} (never : e.NeverNull v) {d : Database}
    {row : Row} (respects : row.Respects e) : (e.eval (.ofBindings d row v)).isNull = false :=
  Bool.eq_false_iff.mpr fun null => never d row respects (Value.isNull_iff.mp null)

variable {v : Bindings} {e : Expr String}

/-- What is known about the nullness of an expression is so. -/
theorem nullnessIs_of_mem {null : Bool} (known : null ∈ e.nullness? v) : e.NullnessIs v null := by
  intro d row respects
  induction e with
  | constant value m =>
    cases known
    rfl
  | parameter name t m =>
    rw [nullness?] at known
    split at known
    · exact absurd known (Option.not_mem_none null)
    next scalar =>
      cases known
      rw [eval, Context.ofBindings_scalar d row v name (Bool.not_eq_true _ ▸ scalar), Value.isNull_convertedTo]
  | column table name m nullable =>
    cases nullable with
    | true => exact absurd known (Option.not_mem_none null)
    | false =>
      cases known
      exact Bool.eq_false_iff.mpr fun null => respects.here (Value.isNull_iff.mp null)
  | convert operand m below =>
    rw [← below known (everywhere_convert.mp respects).2, Bool.eq_iff_iff, Value.isNull_iff, Value.isNull_iff]
    exact d.cast_null
  | _ => exact absurd known (Option.not_mem_none null)

/-- What is known about the nullness of an expression is also the answer to whether it may be null. -/
theorem mayBeNull_of_mem {null : Bool} (known : null ∈ e.nullness? v) :
    e.mayBeNull v = null := by
  induction e with
  | constant value m =>
    cases known
    rfl
  | parameter name t m =>
    rw [nullness?] at known
    split at known
    · exact absurd known (Option.not_mem_none null)
    next scalar =>
      cases known
      rw [Bool.not_eq_true] at scalar
      rw [mayBeNull, scalar, Bool.false_or]
  | column table name m nullable =>
    cases nullable with
    | true => exact absurd known (Option.not_mem_none null)
    | false =>
      cases known
      rfl
  | convert operand m below => exact below known
  | _ => exact absurd known (Option.not_mem_none null)

/-- Nothing but a parameter that holds a sequence has elements, and such a parameter always may be null. -/
theorem elements_of_mayBeNull (d : Database) (row : Row) (absent : e.mayBeNull v = false) :
    e.elements (.ofBindings d row v) = [] := by
  cases e with
  | parameter name t m =>
    cases t with
    | sequence element => cases absent
    | _ => rfl
  | _ => rfl

/-- An expression that cannot be null is not null. -/
theorem neverNull (absent : e.mayBeNull v = false) : e.NeverNull v := by
  intro d row respects null
  induction e with
  | constant value m =>
    rw [eval] at null
    rw [mayBeNull, null] at absent
    cases absent
  | parameter name t m =>
    rw [mayBeNull, Bool.or_eq_false_iff] at absent
    rw [eval, Context.ofBindings_scalar d row v name absent.1, ← Value.isNull_iff, Value.isNull_convertedTo,
      absent.2] at null
    cases null
  | column table name m nullable =>
    cases absent
    exact respects.here null
  | nullTest operand negated m => cases null
  | function name es m nullable each =>
    rw [mayBeNull, Bool.or_eq_false_iff, anyMayBeNull_eq_any, List.any_eq_false] at absent
    obtain ⟨rfl, present⟩ := absent
    rw [eval, evalAll_eq_map] at null
    obtain ⟨e, member, null⟩ := List.mem_map.mp (d.call_null null)
    exact each e member (Bool.not_eq_true _ ▸ present e member) ((everywhere_function.mp respects).2 e member) null
  | binary op l r m left right =>
    rw [mayBeNull, Bool.or_eq_false_iff] at absent
    obtain ⟨-, respectsLeft, respectsRight⟩ := everywhere_binary.mp respects
    rcases d.eq_null_of_binary null with null | null
    · exact left absent.1 respectsLeft null
    · exact right absent.2 respectsRight null
  | negation operand m below =>
    have null := Value.eq_null_of_truth? (Truth.eq_none_of_neg (Value.eq_none_of_ofTruth null))
    exact below absent (everywhere_negation.mp respects).2 null
  | convert operand m below => exact below absent (everywhere_convert.mp respects).2 (d.cast_null.mp null)
  | inList item es negated m below each =>
    rw [mayBeNull, Bool.or_eq_false_iff, anyMayBeNull_eq_any, List.any_eq_false] at absent
    obtain ⟨-, respectsItem, respectsValues⟩ := everywhere_inList.mp respects
    rw [eval, evalAll_eq_map] at null
    rcases d.eq_null_of_membership (Truth.eq_none_of_signed (Value.eq_none_of_ofTruth null)) with null | null
    · exact below absent.1 respectsItem null
    · obtain ⟨e, member, null⟩ := List.mem_map.mp null
      exact each e member (Bool.not_eq_true _ ▸ absent.2 e member) (respectsValues e member) null
  | inParameter item source negated m below _ =>
    rw [mayBeNull, Bool.or_eq_false_iff] at absent
    rw [eval, elements_of_mayBeNull d row absent.2] at null
    rcases d.eq_null_of_membership (Truth.eq_none_of_signed (Value.eq_none_of_ofTruth null)) with null | null
    · exact below absent.1 (everywhere_inParameter.mp respects).2.1 null
    · cases null
  | like subject pattern escape m first second third =>
    rw [mayBeNull, Bool.or_eq_false_iff, Bool.or_eq_false_iff, optionMayBeNull_eq_any] at absent
    obtain ⟨-, respectsSubject, respectsPattern, respectsEscape⟩ := everywhere_like.mp respects
    rw [eval, evalOption_eq_map] at null
    rcases d.eq_null_of_like (Value.eq_none_of_ofTruth null) with null | null | null
    · exact first absent.1 respectsSubject null
    · exact second absent.2.1 respectsPattern null
    · obtain ⟨e, rfl, isNull⟩ := Option.map_eq_some_iff.mp null
      exact third e rfl absent.2.2 (respectsEscape e rfl) isNull

end Expr

end SqlShape
