import SqlShape.Proofs.Nullness
import SqlShape.Proofs.Typing

/-!
# The slots of a reading resolve

Every slot in the reading of a well-typed expression resolves (`read_supplies`), for all values on which the
reading is not refused. The rules are taken one by one: each puts together what its operands gave, and a new slot
comes from a parameter leaf or from the elements of a sequence only. From this, all placeholders of a specialized
statement can be bound to the values at hand, and the values bound are those for which the slots stand
(`Select.eval_named`).
-/

namespace SqlShape

/-! ## Slots of compound expressions -/

namespace Expr

variable {v : Bindings} {op : BinaryOp} {l r e s p : Expr Slot} {es : List (Expr Slot)} {o : Option (Expr Slot)}
  {m : TypeMapping} {name : String} {negated : Bool}

theorem supplied_constant {value : Value} : (constant value m).Supplied v := by
  simp only [Supplied, refs_constant, List.not_mem_nil, false_imp_iff, implies_true]

theorem supplied_column {table : String} : (column table name m negated).Supplied v := by
  simp only [Supplied, refs_column, List.not_mem_nil, false_imp_iff, implies_true]

/-- The one node that needs a value: its slot must resolve. -/
theorem supplied_parameter {slot : Slot} {t : LogicalType} :
    (parameter slot t m).Supplied v ↔ slot.Resolves v := by
  simp only [Supplied, refs_parameter, List.forall_mem_singleton]

/-- A call is supplied where its arguments are. -/
theorem supplied_function : (function name es m negated).Supplied v ↔ ∀ e ∈ es, e.Supplied v := by
  simp only [Supplied, refs_function, List.forall_mem_flatMap]

/-- A binary node is supplied where both sides are. -/
theorem supplied_binary : (binary op l r m).Supplied v ↔ l.Supplied v ∧ r.Supplied v := by
  simp only [Supplied, refs_binary, List.forall_mem_append]

theorem supplied_negation : (negation e m).Supplied v ↔ e.Supplied v := by
  simp only [Supplied, refs_negation]

theorem supplied_nullTest : (nullTest e negated m).Supplied v ↔ e.Supplied v := by
  simp only [Supplied, refs_nullTest]

theorem supplied_convert : (convert e m).Supplied v ↔ e.Supplied v := by
  simp only [Supplied, refs_convert]

/-- A list is supplied with its item and all its elements. -/
theorem supplied_inList : (inList e es negated m).Supplied v ↔ e.Supplied v ∧ ∀ e ∈ es, e.Supplied v := by
  simp only [Supplied, refs_inList, List.forall_mem_append, List.forall_mem_flatMap]

/-- A membership is supplied with its item and the source of its elements. -/
theorem supplied_inParameter : (inParameter e s negated m).Supplied v ↔ e.Supplied v ∧ s.Supplied v := by
  simp only [Supplied, refs_inParameter, List.forall_mem_append]

/-- A pattern match is supplied with its subject, its pattern and the escape, if there is one. -/
theorem supplied_like :
    (like s p o m).Supplied v ↔ s.Supplied v ∧ p.Supplied v ∧ ∀ e ∈ o, e.Supplied v := by
  simp only [Supplied, refs_like, List.forall_mem_append, List.forall_mem_flatMap, Option.mem_toList,
    Option.mem_def, and_assoc]

end Expr

namespace Builder

variable {b : Builder} {v : Bindings} {left right operand e : Expr Slot}

/-- Joining two conditions adds no slot. -/
theorem supplied_logical {op : BinaryOp} (made : b.logical op left right = .ok e) (first : left.Supplied v)
    (second : right.Supplied v) : e.Supplied v := by
  obtain ⟨-, -, rfl⟩ := logical_eq_ok made
  exact Expr.supplied_binary.mpr ⟨first, second⟩

/-- Negating a condition adds no slot: it turns the node over, takes a negation away or stands above the node. -/
theorem supplied_not (made : b.not operand = .ok e) (below : operand.Supplied v) : e.Supplied v := by
  obtain ⟨-, made⟩ := not_eq_ok made
  rcases made with ⟨value, m, -, rfl⟩ | ⟨m, rfl⟩ | ⟨inner, negated, m, rfl, rfl⟩ | rfl
  · exact Expr.supplied_constant
  · exact Expr.supplied_negation.mp below
  · exact Expr.supplied_nullTest.mpr (Expr.supplied_nullTest.mp below)
  · exact Expr.supplied_negation.mpr below

end Builder

namespace Specialization

/-- The truth value that decides a connective; the other one leaves it to the other side. -/
def absorbing? : BinaryOp → Option Bool
  | .and => some false
  | .or => some true
  | _ => none

/-- What a connective over a truth value reduces to. -/
inductive Reduces (b : Builder) : Expr Slot → Expr Slot → Prop
  | decided {op : BinaryOp} {value : Bool} {l r : Expr Slot} {m : TypeMapping}
      (decides : absorbing? op = some value) (found : l.truth? = some value ∨ r.truth? = some value) :
      Reduces b (.binary op l r m) (b.truth value)
  | left {op : BinaryOp} {value : Bool} {l r : Expr Slot} {m : TypeMapping} (decides : absorbing? op = some value)
      (found : r.truth? = some (!value)) : Reduces b (.binary op l r m) l
  | right {op : BinaryOp} {value : Bool} {l r : Expr Slot} {m : TypeMapping} (decides : absorbing? op = some value)
      (found : l.truth? = some (!value)) : Reduces b (.binary op l r m) r

/-- A node is reduced in no other way. Both connectives are split alike, by the truth values of their sides. -/
theorem reduces_of_reduce? {b : Builder} {e reduced : Expr Slot} (found : reduce? b e = some reduced) :
    Reduces b e reduced := by
  unfold reduce? at found
  split at found
  next l r m =>
    split at found
    next here =>
      cases found
      exact .decided rfl (.inl here)
    next here _ =>
      cases found
      exact .decided rfl (.inr here)
    next here _ =>
      cases found
      exact .right rfl here
    next here _ _ =>
      cases found
      exact .left rfl here
    next => cases found
  next l r m =>
    split at found
    next here =>
      cases found
      exact .decided rfl (.inl here)
    next here _ =>
      cases found
      exact .decided rfl (.inr here)
    next here _ =>
      cases found
      exact .right rfl here
    next here _ _ =>
      cases found
      exact .left rfl here
    next => cases found
  next => cases found

/-- A step whose outcome has slots that resolve. -/
abbrev Supplies (s : Setting) (f : Pass Visited) : Prop :=
  Yields s.bindings f fun x => x.expr.Supplied s.bindings

/-- Both readings have slots that resolve. -/
structure SuppliedReading (s : Setting) (reading : Reading) : Prop where
  asIs : Supplies s reading.asIs
  negated : ∀ written, Supplies s (reading.negated written)

variable {s : Setting}

/-- Reducing a node only drops slots. -/
theorem supplied_reduced {v : Bindings} {x : Visited} (below : x.expr.Supplied v) :
    (x.reduced s.builder).expr.Supplied v := by
  unfold Visited.reduced
  split
  next reduced found =>
    have reduces := reduces_of_reduce? found
    generalize x.expr = e at below reduces
    cases reduces with
    | decided => exact Expr.supplied_constant
    | left => exact (Expr.supplied_binary.mp below).1
    | right => exact (Expr.supplied_binary.mp below).2
  next => exact below

/-! ## Rules at the leaves -/

/-- A parameter that is read is checked against its bound value, so the slot that stands for it resolves. -/
theorem readParameter_supplies {name : String} {type : LogicalType} {mapping : TypeMapping}
    {convertTo : Option LogicalType} (widens : type.Widens mapping.type)
    (target : convertTo.getD type = mapping.type) : Supplies s (readParameter s name type mapping convertTo) := by
  refine (readParameter_yields s widens target).mono fun x found => ?_
  obtain ⟨-, -, slot, same, resolves, -⟩ := found
  rw [same]
  exact Expr.supplied_parameter.mpr resolves

/-- A null test is answered beforehand or stands above its operand. -/
theorem nullTest_supplies (operand : Expr String) {visit : Pass Visited} (negated : Bool) (mapping : TypeMapping)
    (visits : Supplies s visit) : Supplies s (nullTest s operand visit negated mapping) := by
  refine (knownNullness_yields s operand).bind fun known _ => ?_
  cases known with
  | some isNull => exact meets_pure Expr.supplied_constant
  | none => exact visits.bind fun x below => meets_pure (Expr.supplied_nullTest.mpr below)

/-- Negating what was visited puts nothing below it. -/
theorem negateVisited_supplies {visit : Pass Visited} (written : Option TypeMapping) (visits : Supplies s visit) :
    Supplies s (negateVisited s visit written) := by
  refine visits.bind fun x below => ?_
  split
  · exact meets_pure (Expr.supplied_negation.mpr below)
  · refine Meets.bind (yields_lift fun _ made => made) fun e made => meets_pure ?_
    exact Builder.supplied_not made below

/-- The null tests beside a condition are above operands that are visited once more. -/
theorem addNullArms_supplies {x : Visited} {operands : List (Expr String × Reading)}
    (below : x.expr.Supplied s.bindings) (each : ∀ o ∈ operands, Supplies s o.2.asIs) :
    Supplies s (addNullArms s x operands) := by
  induction operands generalizing x with
  | nil => exact meets_pure (supplied_reduced below)
  | cons o rest later =>
    obtain ⟨operand, reading⟩ := o
    have rest' : ∀ o ∈ rest, Supplies s o.2.asIs := fun o member => each o (List.mem_cons_of_mem _ member)
    refine (knownNullness_yields s operand).bind fun known _ => ?_
    rcases known with _ | _ | _
    · refine (mayBeNull_yields s operand).bind fun may _ => ?_
      cases may with
      | false => exact later below rest'
      | true =>
        refine (each _ List.mem_cons_self).bind fun o supplied => ?_
        refine Meets.bind (yields_lift fun _ made => made) fun e made => ?_
        exact later (Builder.supplied_logical made below (Expr.supplied_nullTest.mpr supplied)) rest'
    · exact later below rest'
    · exact meets_pure Expr.supplied_constant

/-- Null tests are added or left away, as the setting says. -/
theorem withNullArms_supplies {x : Visited} {operands : List (Expr String × Reading)}
    (below : x.expr.Supplied s.bindings) (each : ∀ o ∈ operands, Supplies s o.2.asIs) :
    Supplies s (withNullArms s x operands) := by
  unfold withNullArms
  split
  · exact meets_pure below
  · exact addNullArms_supplies below each

/-- A completed comparison consists of the comparison and null tests of its sides. -/
theorem supplied_completed {b : Builder} {v : Bindings} {equal : Bool} {comparison x : Visited}
    {left right : Expr Slot} {leftNullable rightNullable : Bool}
    (made : completed b equal comparison left right leftNullable rightNullable = .ok x)
    (below : comparison.expr.Supplied v) (first : left.Supplied v) (second : right.Supplied v) :
    x.expr.Supplied v := by
  have left' : ∀ negated, (Expr.nullTest left negated b.boolMapping).Supplied v :=
    fun _ => Expr.supplied_nullTest.mpr first
  have right' : ∀ negated, (Expr.nullTest right negated b.boolMapping).Supplied v :=
    fun _ => Expr.supplied_nullTest.mpr second
  unfold completed at made
  split at made
  · obtain ⟨both, bothNull, later⟩ := bind_eq_ok.mp made
    obtain ⟨e, either, rest⟩ := bind_eq_ok.mp later
    cases rest
    exact Builder.supplied_logical either below (Builder.supplied_logical bothNull (left' _) (right' _))
  · obtain ⟨e₁, first', later⟩ := bind_eq_ok.mp made
    obtain ⟨e₂, second', later⟩ := bind_eq_ok.mp later
    obtain ⟨e₃, third', later⟩ := bind_eq_ok.mp later
    obtain ⟨e₄, fourth', rest⟩ := bind_eq_ok.mp later
    cases rest
    refine Builder.supplied_logical fourth' ?_ (Builder.supplied_logical third' (left' _) (right' _))
    exact Builder.supplied_logical second' (Builder.supplied_logical first' below (left' _)) (right' _)
  · obtain ⟨e, either, rest⟩ := bind_eq_ok.mp made
    cases rest
    exact Builder.supplied_logical either below (left' _)
  · obtain ⟨e, either, rest⟩ := bind_eq_ok.mp made
    cases rest
    exact Builder.supplied_logical either below (right' _)
  · cases made
    exact below

/-- An equation with a null side is a null test; any other is a completed comparison. -/
theorem equality_supplies (equal : Bool) {left right : Expr String × Reading} (mapping : TypeMapping)
    (first : Supplies s left.2.asIs) (second : Supplies s right.2.asIs) :
    Supplies s (equality s equal left right mapping) := by
  refine (knownNullness_yields s left.1).bind fun knownLeft _ => ?_
  refine (knownNullness_yields s right.1).bind fun knownRight _ => ?_
  dsimp only
  split
  · exact meets_pure Expr.supplied_constant
  · exact second.bind fun x below => meets_pure (Expr.supplied_nullTest.mpr below)
  · exact first.bind fun x below => meets_pure (Expr.supplied_nullTest.mpr below)
  · refine (nullableOperands_yields s equal left.1 right.1).bind fun flags _ => ?_
    refine first.bind fun l left' => second.bind fun r right' => ?_
    refine yields_lift fun x made => ?_
    exact supplied_completed made (Expr.supplied_binary.mpr ⟨left', right'⟩) left' right'

/-- A completed membership consists of the membership and a null test of its item. -/
theorem completedMembership_supplies (item : Expr String) {visited membership : Expr Slot} (hasNull negated : Bool)
    (below : visited.Supplied s.bindings) (found : membership.Supplied s.bindings) :
    Yields s.bindings (completedMembership s item visited hasNull negated membership) fun e =>
      e.Supplied s.bindings := by
  have tested : ∀ turned, (Expr.nullTest visited turned s.builder.boolMapping).Supplied s.bindings :=
    fun _ => Expr.supplied_nullTest.mpr below
  refine (mayMatchNull_yields s item hasNull).bind fun mayMatch _ => ?_
  cases mayMatch with
  | true =>
    cases negated with
    | true => exact yields_lift fun e made => Builder.supplied_logical made found (tested _)
    | false => exact yields_lift fun e made => Builder.supplied_logical made found (tested _)
  | false =>
    refine (mayMissNull_yields s item negated).bind fun mayMiss _ => ?_
    cases mayMiss with
    | true => exact yields_lift fun e made => Builder.supplied_logical made found (tested _)
    | false => exact meets_pure found

/-- Each element of a sequence is checked when its slot is made, so all placeholders of an expanded membership
resolve. -/
theorem expandMembership_supplies {item : Expr String × Reading} (name : String)
    (sequenceMapping : TypeMapping) (negated : Bool) (mapping : TypeMapping) (below : Supplies s item.2.asIs) :
    Supplies s (expandMembership s item name sequenceMapping negated mapping) := by
  have widens := LogicalType.widensTo_iff.mp (widensTo_elementMapping item.1 sequenceMapping)
  refine (elementPlaceholders_yields widens).bind fun expanded found => ?_
  obtain ⟨placeholders, hasNull⟩ := expanded
  obtain ⟨-, -, placed, -⟩ := found
  refine below.bind fun x visited => ?_
  have membership : (if placeholders.isEmpty then s.builder.truth negated
      else .inList x.expr placeholders negated mapping).Supplied s.bindings := by
    split
    · exact Expr.supplied_constant
    · exact Expr.supplied_inList.mpr ⟨visited, placed⟩
  refine (completedMembership_supplies item.1 hasNull negated visited membership).bind fun e supplied => ?_
  exact meets_pure (supplied_reduced (x := replaced e) supplied)

/-! ## Readings -/

/-- A reading that negates what it visits is supplied where the visit is. -/
theorem SuppliedReading.negating {visit : Pass Visited} (visits : Supplies s visit) :
    SuppliedReading s ⟨visit, negateVisited s visit⟩ :=
  ⟨visits, fun written => negateVisited_supplies written visits⟩

/-- Operands in a row are supplied one by one. -/
theorem visitAll_supplies {es : List (Expr String)} (each : ∀ e ∈ es, SuppliedReading s (read s e)) :
    Yields s.bindings (visitAll (readAll s es)) fun xs => ∀ x ∈ xs, x.expr.Supplied s.bindings := by
  refine (visitAll_meets fun e member => (each e member).asIs).mono fun _ found => ?_
  exact forall_mem_of_forall₂ found

/-- A list is visited with its item first. -/
theorem visitList_supplies {item : Reading} {es : List (Expr String)} (negated : Bool) (mapping : TypeMapping)
    (below : SuppliedReading s item) (each : ∀ e ∈ es, SuppliedReading s (read s e)) :
    Supplies s (visitList item (readAll s es) negated mapping) := by
  refine below.asIs.bind fun i visited => (visitAll_supplies each).bind fun xs all => meets_pure ?_
  refine Expr.supplied_inList.mpr ⟨visited, fun e member => ?_⟩
  obtain ⟨x, member', rfl⟩ := List.mem_map.mp member
  exact all x member'

/-- Both sides of a binary node are visited in order. -/
theorem visitBinary_supplies (op : BinaryOp) {left right : Reading} (mapping : TypeMapping)
    (first : SuppliedReading s left) (second : SuppliedReading s right) :
    Supplies s (visitBinary s op left right mapping) := by
  refine first.asIs.bind fun l left' => second.asIs.bind fun r right' => meets_pure ?_
  exact supplied_reduced (x := ⟨.binary op l.expr r.expr mapping, l.changed || r.changed⟩)
    (Expr.supplied_binary.mpr ⟨left', right'⟩)

/-- A membership in a parameter is expanded, and any other is visited as it stands. -/
theorem visitMembership_supplies {item source : Expr String × Reading} (negated : Bool) (mapping : TypeMapping)
    (first : SuppliedReading s item.2) (second : SuppliedReading s source.2) :
    Supplies s (visitMembership s item source negated mapping) := by
  unfold visitMembership
  split
  · exact expandMembership_supplies _ _ negated mapping first.asIs
  · refine first.asIs.bind fun i below => second.asIs.bind fun o supplied => meets_pure ?_
    exact Expr.supplied_inParameter.mpr ⟨below, supplied⟩

/-- Each kind of operator has its own reading, and all of them supply what they yield. -/
theorem SuppliedReading.binary (op : BinaryOp) (left right : Expr String) (mapping : TypeMapping)
    (first : SuppliedReading s (read s left)) (second : SuppliedReading s (read s right)) :
    SuppliedReading s (read s (.binary op left right mapping)) := by
  have asIs : Supplies s (readBinary s op (left, read s left) (right, read s right) mapping) := by
    cases op with
    | equal => exact equality_supplies true mapping first.asIs second.asIs
    | notEqual => exact equality_supplies false mapping first.asIs second.asIs
    | _ => exact visitBinary_supplies _ mapping first second
  refine ⟨asIs, fun written => ?_⟩
  have connected : ∀ opposite : BinaryOp, Supplies s (do
      let l ← (read s left).negated none
      let r ← (read s right).negated none
      return (replaced (← s.builder.logical opposite l.expr r.expr)).reduced s.builder) := by
    intro opposite
    refine (first.negated none).bind fun l left' => (second.negated none).bind fun r right' => ?_
    refine Meets.bind (yields_lift fun _ made => made) fun e made => meets_pure ?_
    exact supplied_reduced (x := replaced e) (Builder.supplied_logical made left' right')
  have ordered : ∀ opposite : BinaryOp, Supplies s (do
      let x ← visitBinary s opposite (read s left) (read s right) mapping
      return replaced (← withNullArms s x [(left, read s left), (right, read s right)]).expr) := by
    intro opposite
    refine (visitBinary_supplies opposite mapping first second).bind fun x below => ?_
    exact (withNullArms_supplies below
      (List.forall_mem_cons.mpr ⟨first.asIs, List.forall_mem_singleton.mpr second.asIs⟩)).bind
        fun y supplied => meets_pure supplied
  cases op with
  | and => exact connected .or
  | or => exact connected .and
  | equal => exact (equality_supplies false mapping first.asIs second.asIs).bind fun x below => meets_pure below
  | notEqual => exact (equality_supplies true mapping first.asIs second.asIs).bind fun x below => meets_pure below
  | add | subtract => exact negateVisited_supplies written asIs
  | greater => exact ordered .lessEqual
  | greaterEqual => exact ordered .less
  | less => exact ordered .greaterEqual
  | lessEqual => exact ordered .greater

/-- A pattern match, from its operands. -/
theorem SuppliedReading.like {subject pattern : Expr String} {escape : Option (Expr String)} {m : TypeMapping}
    (first : SuppliedReading s (read s subject)) (second : SuppliedReading s (read s pattern))
    (third : ∀ e ∈ escape, SuppliedReading s (read s e)) :
    SuppliedReading s (read s (.like subject pattern escape m)) := by
  have visits : Supplies s (read s (.like subject pattern escape m)).asIs := by
    refine first.asIs.bind fun u subject' => second.asIs.bind fun p pattern' => ?_
    refine (readOption_meets fun e member => (third e member).asIs).bind fun o escape' => meets_pure ?_
    refine Expr.supplied_like.mpr ⟨subject', pattern', fun e present => ?_⟩
    obtain ⟨x, present', rfl⟩ := Option.map_eq_some_iff.mp present
    exact forall_mem_of_rel escape' x present'
  refine ⟨visits, fun written => (negateVisited_supplies written visits).bind fun x supplied => ?_⟩
  exact withNullArms_supplies supplied
    (List.forall_mem_cons.mpr ⟨first.asIs, List.forall_mem_singleton.mpr second.asIs⟩)

/-- The slots in both readings of a well-typed expression resolve. -/
theorem read_supplies {e : Expr String} (typed : e.WellTyped) : SuppliedReading s (read s e) := by
  induction e with
  | constant value m => exact .negating (meets_pure Expr.supplied_constant)
  | column table name m nullable => exact .negating (meets_pure Expr.supplied_column)
  | parameter name t m =>
    refine .negating ?_
    split
    · exact meets_throw trivial
    next scalar =>
      have same := typed.here.type_eq (Bool.not_eq_true _ ▸ scalar)
      exact readParameter_supplies (same ▸ .refl t) same
  | function name es m nullable each =>
    obtain ⟨-, typed'⟩ := Expr.everywhere_function.mp typed
    refine .negating ((visitAll_supplies fun e member => each e member (typed' e member)).bind fun xs all => ?_)
    refine meets_pure (Expr.supplied_function.mpr fun e member => ?_)
    obtain ⟨x, member', rfl⟩ := List.mem_map.mp member
    exact all x member'
  | binary op l r m left right =>
    obtain ⟨-, typedLeft, typedRight⟩ := Expr.everywhere_binary.mp typed
    exact .binary op l r m (left typedLeft) (right typedRight)
  | negation operand m below =>
    have readings := below (Expr.everywhere_negation.mp typed).2
    exact ⟨readings.negated (some m), fun _ => readings.asIs.bind fun x supplied => meets_pure supplied⟩
  | nullTest operand negated m below =>
    have readings := below (Expr.everywhere_nullTest.mp typed).2
    refine ⟨nullTest_supplies operand negated m readings.asIs, fun _ => ?_⟩
    refine Meets.bind (yields_lift fun _ passed => passed) fun _ _ => ?_
    exact (nullTest_supplies operand (!negated) _ readings.asIs).bind fun x supplied => meets_pure supplied
  | convert operand m below =>
    have readings := below (Expr.everywhere_convert.mp typed).2
    refine .negating ?_
    split
    next name type found =>
      exact readParameter_supplies
        (LogicalType.widensTo_iff.mp (widensTo_of_convertedParameter? found).2) rfl
    next => exact readings.asIs.bind fun x supplied => meets_pure (Expr.supplied_convert.mpr supplied)
  | inList item es negated m below each =>
    obtain ⟨-, typedItem, typed'⟩ := Expr.everywhere_inList.mp typed
    have readings := below typedItem
    have values := fun e member => each e member (typed' e member)
    refine ⟨visitList_supplies negated m readings values, fun _ => ?_⟩
    refine (visitList_supplies (!negated) m readings values).bind fun x supplied => ?_
    refine (mayHoldNull_meets negated fun e _ => mayBeNull_yields s e).bind fun kept _ => ?_
    split
    · exact meets_pure supplied
    · exact (withNullArms_supplies supplied (List.forall_mem_singleton.mpr readings.asIs)).bind
        fun y supplied' => meets_pure supplied'
  | inParameter item source negated m first second =>
    obtain ⟨-, typedItem, typedSource⟩ := Expr.everywhere_inParameter.mp typed
    exact ⟨visitMembership_supplies negated m (first typedItem) (second typedSource),
      fun _ => visitMembership_supplies (!negated) m (first typedItem) (second typedSource)⟩
  | like subject pattern escape m first second third =>
    obtain ⟨-, typedSubject, typedPattern, typedEscape⟩ := Expr.everywhere_like.mp typed
    exact .like (first typedSubject) (second typedPattern) fun e member => third e member (typedEscape e member)

end Specialization

end SqlShape
