import SqlShape.Proofs.Lowered
import SqlShape.Proofs.TypePreservation

/-!
# Normal form of specialized statements

What a reading yields is in negation normal form, with its truth values used up: no connective has a truth value on
either side, and a negation is left only above a pattern match or above a truth value that is stored or computed
elsewhere (`Expr.bearsNegation`).

A connective is reduced once, when it is put together, and never again. That is enough, since both its sides are in
normal form by then: what is left of a reduced connective is one of the sides or a truth value, and in the place where
it ends up a truth value meets the next connective. The conditions that complete a comparison for null are put together
of null tests and of the comparison itself, none of which is a truth value (`Joinable`), so they need no reduction.
A negation is carried down until it meets a node that bears it, or is turned around with what it meets.
-/

namespace SqlShape

namespace Expr

variable {ρ σ : Type}

/-- What a negation is left above: a pattern match, or a truth value that a column, a parameter, a call or a conversion
yields. Of the constants only null bears one. -/
def bearsNegation : Expr ρ → Bool
  | constant value _ => value.isNull
  | parameter _ _ _ | column _ _ _ _ | function _ _ _ _ | convert _ _ | like _ _ _ _ => true
  | binary _ _ _ _ | negation _ _ | nullTest _ _ _ | inList _ _ _ _ | inParameter _ _ _ _ => false

/-- A connective joins no truth values, and a negation is above what bears it. -/
def IsNormal : Expr ρ → Prop
  | binary op l r _ => op.isLogical = true → l.truth? = none ∧ r.truth? = none
  | negation e _ => e.bearsNegation = true
  | _ => True

/-- All nodes are in normal form. -/
abbrev Normal (e : Expr ρ) : Prop :=
  e.Everywhere IsNormal

/-- Other references leave the form of a node as it is. -/
theorem bearsNegation_mapRef (f : ρ → σ) (e : Expr ρ) : (e.mapRef f).bearsNegation = e.bearsNegation := by
  cases e <;> rw [mapRef] <;> rfl

/-- An expression is in normal form whatever its parameters refer to. -/
theorem Normal.mapRef {e : Expr ρ} (normal : e.Normal) (f : ρ → σ) : (e.mapRef f).Normal := by
  refine everywhere_mapRef.mpr fun n node => ?_
  have here := normal n node
  cases n with
  | binary op l r m =>
    intro logical
    rw [truth?_mapRef, truth?_mapRef]
    exact here logical
  | negation e m => exact (bearsNegation_mapRef f e).trans here
  | _ => trivial

/-- A null test of a normal expression is normal: it is turned over and not negated. -/
theorem Normal.nullTest {e : Expr ρ} (normal : e.Normal) (negated : Bool) (m : TypeMapping) :
    (nullTest e negated m).Normal :=
  everywhere_nullTest.mpr ⟨trivial, normal⟩

/-- In normal form and no truth value. -/
structure Joinable (e : Expr ρ) : Prop where
  normal : e.Normal
  untold : e.truth? = none

theorem Normal.joinable_nullTest {e : Expr ρ} (normal : e.Normal) (negated : Bool) (m : TypeMapping) :
    (Expr.nullTest e negated m).Joinable :=
  ⟨normal.nullTest negated m, rfl⟩

end Expr

namespace Builder

variable {ρ : Type} {b : Builder} {l r e : Expr ρ}

theorem normal_truth (b : Builder) (value : Bool) : (b.truth value : Expr ρ).Normal :=
  Expr.everywhere_constant.mpr trivial

/-- Joined conditions can be joined again. -/
theorem joinable_logical {op : BinaryOp} (first : l.Joinable) (second : r.Joinable) (made : b.logical op l r = .ok e) :
    e.Joinable := by
  obtain ⟨-, -, rfl⟩ := logical_eq_ok made
  exact ⟨Expr.everywhere_binary.mpr ⟨fun _ => ⟨first.untold, second.untold⟩, first.normal, second.normal⟩, rfl⟩

/-- The negation of what bears one, or of a truth value. -/
theorem normal_not (normal : l.Normal) (bears : l.type = .bool → l.bearsNegation = true ∨ l.truth? ≠ none)
    (made : b.not l = .ok e) : e.Normal := by
  obtain ⟨typed, ⟨value, m, -, rfl⟩ | ⟨m, rfl⟩ | ⟨inner, negated, m, rfl, rfl⟩ | rfl⟩ := not_eq_ok made
  · exact normal_truth b _
  · exact (Expr.everywhere_negation.mp normal).2
  · obtain ⟨-, below⟩ := Expr.everywhere_nullTest.mp normal
    exact Expr.Normal.nullTest below _ _
  · refine Expr.everywhere_negation.mpr ⟨?_, normal⟩
    rcases bears typed with bears | told
    · exact bears
    · exact absurd (truth?_of_not made) told

end Builder

namespace Specialization

variable {s : Setting} {S : List Slot}

/-! ## Connectives -/

/-- A connective that cannot be reduced has no truth value on either side. -/
theorem truth?_of_reduce? {b : Builder} {op : BinaryOp} {l r : Expr Slot} {m : TypeMapping}
    (kept : reduce? b (.binary op l r m) = none) (logical : op.isLogical = true) :
    l.truth? = none ∧ r.truth? = none := by
  cases op with
  | and | or =>
    simp only [reduce?] at kept
    split at kept
    · cases kept
    · cases kept
    · cases kept
    · cases kept
    next first second => exact ⟨first, second⟩
  | _ => cases logical

/-- A binary operation over sides in normal form is in normal form when it has been reduced. -/
theorem normal_reduced_binary {b : Builder} {op : BinaryOp} {l r : Expr Slot} {m : TypeMapping} {changed : Bool}
    (first : l.Normal) (second : r.Normal) : (Visited.reduced b ⟨.binary op l r m, changed⟩).expr.Normal := by
  unfold Visited.reduced
  split
  next reduced found =>
    cases reduces_of_reduce? found with
    | decided => exact b.normal_truth _
    | left => exact first
    | right => exact second
  next kept => exact Expr.everywhere_binary.mpr ⟨truth?_of_reduce? kept, first, second⟩

/-- What is in normal form stays so when it is reduced. -/
theorem normal_reduced {b : Builder} {x : Visited} (normal : x.expr.Normal) : (x.reduced b).expr.Normal := by
  obtain ⟨e, changed⟩ := x
  cases e with
  | binary op l r m =>
    obtain ⟨-, first, second⟩ := Expr.everywhere_binary.mp normal
    exact normal_reduced_binary first second
  | _ => exact normal

/-! ## Rules at the leaves -/

/-- A run that is not refused yields an expression in normal form. -/
abbrev Normalizes (f : Pass Visited) : Prop :=
  ∀ S, Gathers S f fun _ x => x.expr.Normal

/-- A question, and then a step that yields normal forms whatever the answer. -/
theorem Normalizes.asking {α : Type} {ask : Bindings → Pass α} {v : Bindings} {f : α → Pass Visited}
    (asks : Disciplined ask) (each : ∀ answer, Normalizes (f answer)) : Normalizes (ask v >>= f) :=
  fun _ => (asks.gathers v).bind fun T answer _ _ => each answer T

theorem Normalizes.replaced {f : Pass Visited} (normalizes : Normalizes f) :
    Normalizes (do return Specialization.replaced (← f).expr) :=
  fun S => (normalizes S).bind fun _ _ _ normal => gathers_pure fun _ _ => normal

/-- A negation from outside is left above what bears it. A written one is kept only there. -/
theorem negateVisited_normalizes {visit : Pass Visited} (written : Option TypeMapping)
    (visits : ∀ S, Gathers S visit fun _ x => x.expr.Normal ∧
      (x.expr.type = .bool → x.expr.bearsNegation = true ∨ x.expr.truth? ≠ none) ∧
      (written.isSome = true → x.expr.bearsNegation = true)) : Normalizes (negateVisited s visit written) := by
  intro S
  refine (visits S).bind fun T x _ holds => ?_
  obtain ⟨normal, bears, kept⟩ := holds
  split
  · exact gathers_pure fun _ _ => Expr.everywhere_negation.mpr ⟨kept rfl, normal⟩
  · exact Gathers.bind (gathers_lift fun y made _ _ => made) fun U y _ made =>
      gathers_pure fun _ _ => Builder.normal_not normal bears made

/-- A null test is answered beforehand or stands above a normal operand. -/
theorem nullTest_normalizes {operand : Expr String} {visit : Pass Visited} (negated : Bool) (m : TypeMapping)
    (visits : Normalizes visit) : Normalizes (nullTest s operand visit negated m) := by
  refine Normalizes.asking (knownNullness_disciplined operand) fun known T => ?_
  cases known with
  | some isNull => exact gathers_pure fun _ _ => s.builder.normal_truth _
  | none => exact (visits T).bind fun U x _ normal => gathers_pure fun _ _ => normal.nullTest negated m

/-- Null arms are added to a condition that is no truth value, and leave none. -/
theorem addNullArms_normalizes {x : Visited} {operands : List (Expr String × Reading)} (joinable : x.expr.Joinable)
    (each : ∀ o ∈ operands, Normalizes o.2.asIs) : Normalizes (addNullArms s x operands) := by
  induction operands generalizing x with
  | nil => exact fun S => gathers_pure fun _ _ => normal_reduced joinable.normal
  | cons o rest later =>
    obtain ⟨operand, reading⟩ := o
    obtain ⟨visits, others⟩ := List.forall_mem_cons.mp each
    have skip : Normalizes (addNullArms s x rest) := later joinable others
    refine Normalizes.asking (knownNullness_disciplined operand) fun known => ?_
    rcases known with _ | _ | _
    · refine Normalizes.asking (mayBeNull_disciplined operand) fun may T => ?_
      cases may with
      | false => exact skip T
      | true =>
        refine (visits T).bind fun U y _ normal => ?_
        refine Gathers.bind (gathers_lift fun z made _ _ => made) fun W z _ made => ?_
        have joined : z.Joinable := Builder.joinable_logical joinable (normal.joinable_nullTest _ _) made
        exact later (x := replaced z) joined others W
    · exact skip
    · exact fun T => gathers_pure fun _ _ => s.builder.normal_truth true

/-- Null tests are joined to a condition that can be joined. -/
theorem withNullArms_normalizes {x : Visited} {operands : List (Expr String × Reading)} (joinable : x.expr.Joinable)
    (each : ∀ o ∈ operands, Normalizes o.2.asIs) : Normalizes (withNullArms s x operands) := by
  unfold withNullArms
  split
  · exact fun S => gathers_pure fun _ _ => joinable.normal
  · exact addNullArms_normalizes joinable each

/-- A comparison is completed by null tests of its operands. -/
theorem joinable_completed {b : Builder} {equal : Bool} {comparison x : Visited} {left right : Expr Slot}
    {leftNullable rightNullable : Bool} (joinable : comparison.expr.Joinable) (first : left.Normal)
    (second : right.Normal) (made : completed b equal comparison left right leftNullable rightNullable = .ok x) :
    x.expr.Joinable := by
  have left' (negated : Bool) := first.joinable_nullTest negated b.boolMapping
  have right' (negated : Bool) := second.joinable_nullTest negated b.boolMapping
  unfold completed at made
  split at made
  · obtain ⟨both, bothNull, later⟩ := bind_eq_ok.mp made
    obtain ⟨y, either, rest⟩ := bind_eq_ok.mp later
    cases rest
    exact Builder.joinable_logical joinable (Builder.joinable_logical (left' _) (right' _) bothNull) either
  · obtain ⟨y₁, leftArm, later⟩ := bind_eq_ok.mp made
    obtain ⟨y₂, rightArm, later⟩ := bind_eq_ok.mp later
    obtain ⟨y₃, notBothNull, later⟩ := bind_eq_ok.mp later
    obtain ⟨y₄, whole, rest⟩ := bind_eq_ok.mp later
    cases rest
    have differs := Builder.joinable_logical (Builder.joinable_logical joinable (left' _) leftArm) (right' _) rightArm
    exact Builder.joinable_logical differs (Builder.joinable_logical (left' _) (right' _) notBothNull) whole
  · obtain ⟨y, either, rest⟩ := bind_eq_ok.mp made
    cases rest
    exact Builder.joinable_logical joinable (left' _) either
  · obtain ⟨y, either, rest⟩ := bind_eq_ok.mp made
    cases rest
    exact Builder.joinable_logical joinable (right' _) either
  · cases made
    exact joinable

/-- An equation becomes a null test, a truth value or a completed comparison, all of them normal. -/
theorem equality_normalizes (equal : Bool) {left right : Expr String × Reading} (m : TypeMapping)
    (first : Normalizes left.2.asIs) (second : Normalizes right.2.asIs) :
    Normalizes (equality s equal left right m) := by
  refine Normalizes.asking (knownNullness_disciplined left.1) fun knownLeft => ?_
  refine Normalizes.asking (knownNullness_disciplined right.1) fun knownRight => ?_
  dsimp only
  intro S
  split
  · exact gathers_pure fun _ _ => s.builder.normal_truth equal
  · exact (second S).bind fun T x _ normal => gathers_pure fun _ _ => normal.nullTest _ _
  · exact (first S).bind fun T x _ normal => gathers_pure fun _ _ => normal.nullTest _ _
  · refine Normalizes.asking (nullableOperands_disciplined equal left.1 right.1) (fun flags T => ?_) S
    refine (first T).bind fun U l _ left' => (second U).bind fun W r _ right' => ?_
    refine gathers_lift fun x made _ _ => (joinable_completed ⟨?_, rfl⟩ left' right' made).normal
    refine Expr.everywhere_binary.mpr ⟨fun logical => ?_, left', right'⟩
    cases equal <;> cases logical

/-! ## Memberships -/

/-- An expanded membership is a truth value, or a list with the null tests joined to it. -/
theorem expandMembership_normalizes {item : Expr String × Reading} (name : String) (sm : TypeMapping) (negated : Bool)
    (m : TypeMapping) (visits : Normalizes item.2.asIs) :
    Normalizes (expandMembership s item name sm negated m) := by
  intro S
  refine (elementPlaceholders_gathers s.bindings name sm.type (elementMapping item.1 sm)).bind
    fun T found _ leaves => ?_
  obtain ⟨placeholders, hasNull⟩ := found
  obtain ⟨slots, (leaves : placeholders = _), -⟩ := leaves
  refine (visits T).bind fun U x _ normal => ?_
  refine (completedMembership_gathers item.1 x.expr _ hasNull negated).bind fun W y _ made => ?_
  refine gathers_pure fun _ _ => ?_
  -- No element may be left, so the membership may be a truth value; it is joined once and then reduced.
  have membership : (if placeholders.isEmpty then s.builder.truth negated
      else Expr.inList x.expr placeholders negated m : Expr Slot).Normal := by
    split
    · exact s.builder.normal_truth negated
    · refine Expr.everywhere_inList.mpr ⟨trivial, normal, fun leaf member => ?_⟩
      rw [leaves] at member
      obtain ⟨slot, -, rfl⟩ := List.mem_map.mp member
      exact Expr.everywhere_parameter.mpr trivial
  rcases made with rfl | ⟨op, turned, -, made⟩
  · exact normal_reduced membership
  · obtain ⟨-, -, rfl⟩ := Builder.logical_eq_ok made
    exact normal_reduced_binary membership (normal.nullTest _ _)

/-! ## Both readings -/

/-- A written negation may stand above the expression. -/
structure Negatable (e : Expr String) : Prop where
  bool : e.type = .bool
  untold : e.truth? = none

/-- Both readings yield normal forms. -/
structure NormalReading (e : Expr String) (reading : Reading) : Prop where
  asIs : Normalizes reading.asIs
  negated : ∀ written, (written.isSome = true → Negatable e) → Normalizes (reading.negated written)

/-- What bears a negation is negated from outside. -/
theorem NormalReading.negating {e : Expr String} {visit : Pass Visited}
    (visits : ∀ S, Gathers S visit fun _ x => x.expr.Normal ∧ x.expr.bearsNegation = true) :
    NormalReading e ⟨visit, negateVisited s visit⟩ := by
  refine ⟨fun S => (visits S).mono fun _ _ holds => holds.1, fun written _ => ?_⟩
  refine negateVisited_normalizes written fun S => (visits S).mono fun _ x holds => ?_
  exact ⟨holds.1, fun _ => .inl holds.2, fun _ => holds.2⟩

/-- A negated truth value is the other one. -/
theorem NormalReading.constant {value : Value} {m : TypeMapping}
    (typed : (Expr.constant value m : Expr String).Typed) :
    NormalReading (.constant value m) (read s (.constant value m)) := by
  have normal : (Expr.constant value m : Expr Slot).Normal := Expr.everywhere_constant.mpr trivial
  refine ⟨fun S => gathers_pure fun _ _ => normal, fun written negatable => ?_⟩
  -- A constant of the type of truth values is a truth value or null.
  have bears {ρ : Type} : m.type = .bool → value.isNull = true ∨ (Expr.constant value m : Expr ρ).truth? ≠ none := by
    intro bool
    have typed : value.HasType m.type := typed.2
    rw [bool] at typed
    rcases Value.hasType_bool_iff.mp typed with rfl | ⟨told, rfl⟩
    · exact .inl rfl
    · exact .inr (Option.some_ne_none told)
  refine negateVisited_normalizes written fun S => gathers_pure fun _ _ => ⟨normal, bears, fun kept => ?_⟩
  rcases bears (negatable kept).bool with null | told
  · exact null
  · exact absurd (negatable kept).untold told

/-- Operands in a row are normal one by one. -/
theorem visitAll_normalizes {es : List (Expr String)} (each : ∀ e ∈ es, NormalReading e (read s e)) :
    Gathers S (visitAll (readAll s es)) fun _ xs => ∀ y ∈ xs.map Visited.expr, y.Normal := by
  have visits : Gathers S (es.mapM fun e => (read s e).asIs) fun _ =>
      List.Forall₂ (fun _ x => x.expr.Normal) es :=
    Gathers.mapM (fun _ _ _ _ _ _ normal => normal) fun e member T _ => (each e member).asIs T
  unfold visitAll
  rw [readAll_eq_map, List.mapM_map]
  refine visits.mono fun _ xs found => ?_
  rw [List.forall_mem_map]
  exact forall_mem_of_forall₂ found

/-- A list can be joined with others. -/
theorem visitList_joinable {item : Expr String} {es : List (Expr String)} (negated : Bool) (m : TypeMapping)
    (first : NormalReading item (read s item)) (each : ∀ e ∈ es, NormalReading e (read s e)) :
    Gathers S (visitList (read s item) (readAll s es) negated m) fun _ x => x.expr.Joinable := by
  refine (first.asIs S).bind fun T i _ normal => (visitAll_normalizes each).bind fun U xs _ all => ?_
  exact gathers_pure fun _ _ => ⟨Expr.everywhere_inList.mpr ⟨trivial, normal, all⟩, rfl⟩

/-- A membership in a parameter is expanded, and any other keeps its form. -/
theorem visitMembership_normalizes {item source : Expr String} (negated : Bool) (m : TypeMapping)
    (first : NormalReading item (read s item)) (second : NormalReading source (read s source)) :
    Normalizes (visitMembership s (item, read s item) (source, read s source) negated m) := by
  have visited : Normalizes (do
      let i ← (read s item).asIs
      let v ← (read s source).asIs
      return replaced (.inParameter i.expr v.expr negated m)) := by
    intro S
    refine (first.asIs S).bind fun T i _ left => (second.asIs T).bind fun U v _ right => ?_
    exact gathers_pure fun _ _ => Expr.everywhere_inParameter.mpr ⟨trivial, left, right⟩
  cases source with
  | parameter name t sm => exact expandMembership_normalizes name sm negated m first.asIs
  | _ => exact visited

/-- A connective over truth values is reduced, so no truth value is left in one. -/
theorem visitBinary_normalizes (op : BinaryOp) {l r : Expr String} (m : TypeMapping)
    (first : NormalReading l (read s l)) (second : NormalReading r (read s r)) :
    Normalizes (visitBinary s op (read s l) (read s r) m) :=
  fun S => (first.asIs S).bind fun T _ _ left => (second.asIs T).bind fun _ _ _ right =>
    gathers_pure fun _ _ => normal_reduced_binary left right

/-- A binary operation other than a connective is visited operand by operand. -/
theorem visitBinary_gathers {op : BinaryOp} (other : op.isLogical = false) {l r : Expr String} (m : TypeMapping)
    (first : NormalReading l (read s l)) (second : NormalReading r (read s r)) :
    Gathers S (visitBinary s op (read s l) (read s r) m) fun _ z =>
      z.expr.Normal ∧ ∃ x y, z.expr = .binary op x y m := by
  refine (first.asIs S).bind fun T x _ left => (second.asIs T).bind fun U y _ right => ?_
  rw [reduced_binary other]
  refine gathers_pure fun _ _ => ⟨Expr.everywhere_binary.mpr ⟨fun logical => ?_, left, right⟩, _, _, rfl⟩
  rw [other] at logical
  cases logical

/-- Negated, a connective is its dual over negated sides and a comparison is the opposite one, so no negation is left.
-/
theorem NormalReading.binary {op : BinaryOp} {l r : Expr String} {m : TypeMapping}
    (typed : (Expr.binary op l r m).Typed) (first : NormalReading l (read s l))
    (second : NormalReading r (read s r)) : NormalReading (.binary op l r m) (read s (.binary op l r m)) := by
  have asIs : Normalizes (readBinary s op (l, read s l) (r, read s r) m) := by
    cases op with
    | equal => exact equality_normalizes true m first.asIs second.asIs
    | notEqual => exact equality_normalizes false m first.asIs second.asIs
    | _ => exact visitBinary_normalizes _ m first second
  refine ⟨asIs, fun written negatable => ?_⟩
  have unwritten {e : Expr String} : (none : Option TypeMapping).isSome = true → Negatable e :=
    fun absurd => by cases absurd
  -- A connective is turned around over the negations of its sides.
  have connected : ∀ op' : BinaryOp, Normalizes (do
      let x ← (read s l).negated none
      let y ← (read s r).negated none
      return (replaced (← s.builder.logical op' x.expr y.expr)).reduced s.builder) := by
    intro op' S
    refine (first.negated none unwritten S).bind fun T x _ left =>
      (second.negated none unwritten T).bind fun U y _ right => ?_
    refine Gathers.bind (gathers_lift fun z made _ _ => made) fun W z _ made => gathers_pure fun _ _ => ?_
    obtain ⟨-, -, rfl⟩ := Builder.logical_eq_ok made
    exact normal_reduced_binary left right
  have ordered : ∀ op' : BinaryOp, op'.isLogical = false → Normalizes (do
      let x ← visitBinary s op' (read s l) (read s r) m
      return replaced (← withNullArms s x [(l, read s l), (r, read s r)]).expr) := by
    intro op' other S
    refine (visitBinary_gathers other m first second).bind fun T z _ holds => ?_
    obtain ⟨normal, x, y, same⟩ := holds
    refine (withNullArms_normalizes ⟨normal, by rw [same]; rfl⟩ ?_).replaced T
    exact List.forall_mem_cons.mpr ⟨first.asIs, List.forall_mem_singleton.mpr second.asIs⟩
  -- A sum is no truth value, so no negation is above it.
  have summed : op.isComparison = false → op.isLogical = false →
      Normalizes (negateVisited s (visitBinary s op (read s l) (read s r) m) written) := by
    intro other other'
    have number : m.type ≠ .bool := by
      obtain ⟨left, right, wide⟩ := typed.of_sum other' other
      intro bool
      rw [wide] at bool
      unfold LogicalType.wider at bool
      split at bool
      · rw [bool] at left
        cases left
      · rw [bool] at right
        cases right
    refine negateVisited_normalizes written fun S => (visitBinary_gathers other' m first second).mono ?_
    rintro T z ⟨normal, x, y, same⟩
    refine ⟨normal, fun bool => ?_, fun kept => ?_⟩
    · rw [same] at bool
      exact absurd bool number
    · exact absurd (negatable kept).bool number
  cases op with
  | and => exact connected .or
  | or => exact connected .and
  | equal => exact (equality_normalizes false m first.asIs second.asIs).replaced
  | notEqual => exact (equality_normalizes true m first.asIs second.asIs).replaced
  | add | subtract => exact summed rfl rfl
  | greater => exact ordered .lessEqual rfl
  | greaterEqual => exact ordered .less rfl
  | less => exact ordered .greaterEqual rfl
  | lessEqual => exact ordered .greater rfl

/-- A pattern match bears its negation. -/
theorem NormalReading.like {subject pattern : Expr String} {escape : Option (Expr String)} {m : TypeMapping}
    (first : NormalReading subject (read s subject)) (second : NormalReading pattern (read s pattern))
    (third : ∀ e ∈ escape, NormalReading e (read s e)) :
    NormalReading (.like subject pattern escape m) (read s (.like subject pattern escape m)) := by
  have escapes : ∀ S, Gathers S ((readOption s escape).mapM Reading.asIs) fun _ o =>
      ∀ y ∈ o.map Visited.expr, y.Normal := by
    intro S
    cases escape with
    | none => exact gathers_pure fun _ _ y absent => absurd absent (Option.not_mem_none y)
    | some e =>
      rw [readOption, Option.mapM_some, map_eq_pure_bind]
      refine ((third e rfl).asIs S).bind fun T x _ normal => gathers_pure fun _ _ => ?_
      rintro y ⟨⟩
      exact normal
  have visits : ∀ S, Gathers S (read s (.like subject pattern escape m)).asIs fun _ x =>
      x.expr.Normal ∧ ∃ subject pattern escape m, x.expr = .like subject pattern escape m := by
    intro S
    refine (first.asIs S).bind fun T u _ left => (second.asIs T).bind fun U p _ right => ?_
    refine (escapes U).bind fun W o _ all => gathers_pure fun _ _ => ⟨?_, _, _, _, _, rfl⟩
    exact Expr.everywhere_like.mpr ⟨trivial, left, right, all⟩
  refine ⟨fun S => (visits S).mono fun _ _ holds => holds.1, fun written negatable S => ?_⟩
  have bearing : ∀ S, Gathers S (read s (.like subject pattern escape m)).asIs fun _ x =>
      x.expr.Normal ∧ x.expr.bearsNegation = true := by
    refine fun S => (visits S).mono ?_
    rintro T x ⟨normal, u, p, o, m', same⟩
    exact ⟨normal, by rw [same]; rfl⟩
  have negated := (NormalReading.negating (s := s) (e := .like subject pattern escape m) bearing).negated written
    negatable S
  have shape := negateVisited_like (s := s) written ((visits S).mono fun _ _ holds => holds.2)
  refine (negated.and shape).bind fun T x _ holds => ?_
  obtain ⟨normal, operand, m', same⟩ := holds
  refine withNullArms_normalizes ⟨normal, by rw [same]; rfl⟩ ?_ T
  exact List.forall_mem_cons.mpr ⟨first.asIs, List.forall_mem_singleton.mpr second.asIs⟩

/-- Both readings of a well-typed expression that negates no truth value yield normal forms. -/
theorem read_normal {e : Expr String} (typed : e.WellTyped) (kept : e.Everywhere Expr.NegatesNoTruth) :
    NormalReading e (read s e) := by
  induction e with
  | constant value m => exact .constant typed.here
  | column table name m nullable =>
    exact .negating fun S => gathers_pure fun _ _ => ⟨Expr.everywhere_column.mpr trivial, rfl⟩
  | parameter name t m =>
    refine .negating fun S => ?_
    split
    · exact gathers_throw
    · refine (readParameter_gathers name t m none).mono ?_
      rintro T x ⟨slot, -, same⟩
      rw [same]
      exact ⟨Expr.everywhere_parameter.mpr trivial, rfl⟩
  | function name es m nullable each =>
    obtain ⟨-, typed⟩ := Expr.everywhere_function.mp typed
    obtain ⟨-, kept⟩ := Expr.everywhere_function.mp kept
    refine .negating fun S => ?_
    refine (visitAll_normalizes fun e member => each e member (typed e member) (kept e member)).bind
      fun T xs _ all => gathers_pure fun _ _ => ?_
    exact ⟨Expr.everywhere_function.mpr ⟨trivial, all⟩, rfl⟩
  | binary op l r m first second =>
    obtain ⟨typed, typedLeft, typedRight⟩ := Expr.everywhere_binary.mp typed
    obtain ⟨-, keptLeft, keptRight⟩ := Expr.everywhere_binary.mp kept
    exact .binary typed (first typedLeft keptLeft) (second typedRight keptRight)
  | negation operand m below =>
    obtain ⟨⟨-, bool, -⟩, typed⟩ := Expr.everywhere_negation.mp typed
    obtain ⟨untold, kept⟩ := Expr.everywhere_negation.mp kept
    have reading := below typed kept
    exact ⟨reading.negated (some m) fun _ => ⟨bool, untold⟩, fun _ _ => reading.asIs.replaced⟩
  | nullTest operand negated m below =>
    have reading := below (Expr.everywhere_nullTest.mp typed).2 (Expr.everywhere_nullTest.mp kept).2
    refine ⟨nullTest_normalizes negated m reading.asIs, fun _ _ S => ?_⟩
    refine Gathers.bind (gathers_lift fun _ _ _ _ => trivial) fun T _ _ _ => ?_
    exact (nullTest_normalizes (!negated) s.builder.boolMapping reading.asIs).replaced T
  | convert operand m below =>
    have reading := below (Expr.everywhere_convert.mp typed).2 (Expr.everywhere_convert.mp kept).2
    refine .negating fun S => ?_
    split
    next name t taken =>
      refine (readParameter_gathers name t m (some m.type)).mono ?_
      rintro T x ⟨slot, -, same⟩
      rw [same]
      exact ⟨Expr.everywhere_parameter.mpr trivial, rfl⟩
    next =>
      refine (reading.asIs S).bind fun T x _ normal => gathers_pure fun _ _ => ?_
      exact ⟨Expr.everywhere_convert.mpr ⟨trivial, normal⟩, rfl⟩
  | inList item es negated m below each =>
    obtain ⟨-, typedItem, typedValues⟩ := Expr.everywhere_inList.mp typed
    obtain ⟨-, keptItem, keptValues⟩ := Expr.everywhere_inList.mp kept
    have first := below typedItem keptItem
    have others := fun e member => each e member (typedValues e member) (keptValues e member)
    refine ⟨fun S => (visitList_joinable negated m first others).mono fun _ _ joinable => joinable.normal,
      fun _ _ S => ?_⟩
    refine (visitList_joinable (!negated) m first others).bind fun T x _ joinable => ?_
    refine Gathers.bind (mayHoldNull_gathers negated es) fun U plain _ _ => ?_
    split
    · exact gathers_pure fun _ _ => joinable.normal
    · exact (withNullArms_normalizes joinable (List.forall_mem_singleton.mpr first.asIs)).replaced U
  | inParameter item source negated m first second =>
    obtain ⟨-, typedItem, typedSource⟩ := Expr.everywhere_inParameter.mp typed
    obtain ⟨-, keptItem, keptSource⟩ := Expr.everywhere_inParameter.mp kept
    have first := first typedItem keptItem
    have second := second typedSource keptSource
    exact ⟨visitMembership_normalizes negated m first second,
      fun _ _ => visitMembership_normalizes (!negated) m first second⟩
  | like subject pattern escape m first second third =>
    obtain ⟨-, typedSubject, typedPattern, typedEscape⟩ := Expr.everywhere_like.mp typed
    obtain ⟨-, keptSubject, keptPattern, keptEscape⟩ := Expr.everywhere_like.mp kept
    exact .like (first typedSubject keptSubject) (second typedPattern keptPattern) fun e member =>
      third e member (typedEscape e member) (keptEscape e member)

end Specialization

/-! ## Statements -/

namespace Select

/-- A predicate that is left does not always hold. -/
theorem truth?_ne_of_mem_withoutTrivialPredicate {ρ : Type} {s : Select ρ} {p : Expr ρ}
    (present : p ∈ s.withoutTrivialPredicate.predicate) : p.truth? ≠ some true := by
  unfold withoutTrivialPredicate at present
  split at present
  · cases present
  next open' =>
    intro always
    rw [Option.mem_def.mp present] at open'
    exact open' always

/-- A well-typed statement that negates no truth value is in normal form when its values are known. -/
theorem specialize_normal {b : Builder} {options : SpecializationOptions} {v : Bindings} {s : Select String}
    (typed : ∀ e ∈ s.expressions, e.WellTyped) (kept : ∀ e ∈ s.expressions, e.Everywhere Expr.NegatesNoTruth)
    {outcome : Specialized} (run : s.specialize b options v = .ok outcome) :
    ∀ e ∈ outcome.select.expressions, e.Normal := by
  obtain ⟨t, progress, traversed, rfl⟩ := Specialization.specialize_eq_ok.mp run
  have visits : ∀ e ∈ s.expressions, ∀ S, Specialization.Gathers S
      (do return (← (Specialization.read ⟨b, options.relationalNulls, v⟩ e).asIs).expr) fun _ x => x.Normal := by
    intro e inside S
    exact ((Specialization.read_normal (typed e inside) (kept e inside)).asIs S).bind fun _ _ _ normal =>
      Specialization.gathers_pure fun _ _ => normal
  have gathers := Specialization.traverse_gathers (S := []) (R := fun _ _ x => x.Normal)
    (fun _ _ _ _ _ normal => normal) visits
  obtain ⟨-, found⟩ := gathers.yields (List.nil_subset _) traversed
  intro e member
  obtain ⟨x, inside, f, rfl⟩ := exists_mapRef_of_mem_outcomeOf member
  obtain ⟨-, -, normal⟩ := found.exists_mem inside
  exact Expr.Normal.mapRef normal f

end Select

namespace Lowering

/-- A lowered statement is in normal form when its values are known, whatever they are. At any depth no connective has a
truth value on either side, and what a negation is left above is no connective, no comparison, no membership, no test
for null, no negation and no truth value; a predicate that always holds is dropped. -/
theorem specialized_isNormal {d : Dialect} {l : Lowering} (made : d.lowering = .ok l) {shape : Shape}
    {s : Select String} (lowered : l.lowerShape shape = .ok s) (options : SpecializationOptions) (v : Bindings)
    {outcome : Specialized} (run : s.specialize l.builder options v = .ok outcome) :
    (∀ e ∈ outcome.select.expressions,
      (∀ op x y m, .binary op x y m ∈ e.nodes → op.isLogical = true → x.truth? = none ∧ y.truth? = none) ∧
      ∀ operand m, .negation operand m ∈ e.nodes → operand.type = .bool ∧ operand.bearsNegation = true) ∧
    ∀ p ∈ outcome.select.predicate, p.truth? ≠ some true := by
  have serves := serves_lowering made
  have native := lowerShape_native serves lowered
  have typed : ∀ e ∈ s.expressions, e.WellTypedIn d := fun e inside => (native.expressions e inside).wellTypedIn
  obtain ⟨full, found, same⟩ := Select.specialize_wellTypedIn serves.builder typed run
  have normal := Select.specialize_normal (fun e inside => (typed e inside).wellTyped)
    (fun e inside => ((lowerShape_lowered serves lowered).expressions e inside).everywhere_negatesNoTruth) run
  refine ⟨fun e inside => ⟨?_, ?_⟩, ?_⟩
  · intro op x y m node
    exact normal e inside _ node
  · intro operand m node
    rw [same] at inside
    obtain ⟨-, -, typed', -⟩ := found.exists_mem (Select.mem_withoutTrivialPredicate inside)
    exact ⟨(typed'.wellTyped _ node).2.1, normal e (same ▸ inside) _ node⟩
  · rw [same]
    intro p
    exact Select.truth?_ne_of_mem_withoutTrivialPredicate

/-- Rows for which it is not so that the name starts with a letter, or the flag is set and the identifier is listed. -/
def unlisted : Shape :=
  (Shape.ofTable "Items" "i").filter
    (.not (.binary .or
      (.call (some (.column "i" "Name" .text true)) ⟨.string, "StartsWith", 0⟩ [.constant (.text "A") none])
      (.binary .and (.column "i" "Flag" .bool true) (.call none ⟨.enumerable, "Contains", 1⟩
        [.parameter "ids" (.sequence .int32), .column "i" "Id" .int32 true]))))

/-- With an empty list the second side is decided, and of the first a negated pattern match is left beside its null
test. -/
theorem specialized_isNormal_unlisted : ∃ l s outcome name pattern escape m m', Dialect.sqlite.lowering = .ok l ∧
    l.lowerShape unlisted = .ok s ∧ s.specialize l.builder ⟨"p", false⟩ ⟨[("ids", .list [])]⟩ = .ok outcome ∧
    outcome.select.predicate = some
      (.binary .or (.negation (.like name pattern escape m) m) (.nullTest name false m') m') ∧
    (∀ e ∈ outcome.select.expressions,
      (∀ op x y m, .binary op x y m ∈ e.nodes → op.isLogical = true → x.truth? = none ∧ y.truth? = none) ∧
      ∀ operand m, .negation operand m ∈ e.nodes → operand.type = .bool ∧ operand.bearsNegation = true) ∧
    ∀ p ∈ outcome.select.predicate, p.truth? ≠ some true := by
  obtain ⟨l, made⟩ : ∃ l, Dialect.sqlite.lowering = .ok l := ⟨_, rfl⟩
  obtain ⟨s, outcome, name, pattern, escape, m, m', lowered, run, left⟩ : ∃ s outcome name pattern escape m m',
      l.lowerShape unlisted = .ok s ∧ s.specialize l.builder ⟨"p", false⟩ ⟨[("ids", .list [])]⟩ = .ok outcome ∧
      outcome.select.predicate = some
        (.binary .or (.negation (.like name pattern escape m) m) (.nullTest name false m') m') := by
    cases made
    exact ⟨_, _, _, _, _, _, _, rfl, rfl, rfl⟩
  exact ⟨l, s, outcome, name, pattern, escape, m, m', made, lowered, run, left,
    specialized_isNormal made lowered _ _ run⟩

end Lowering

end SqlShape
