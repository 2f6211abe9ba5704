import SqlShape.Builder
import SqlShape.Dialect.Basic
import SqlShape.Proofs.Conversion
import SqlShape.Proofs.Nodes
import SqlShape.Proofs.Pass

/-!
# Well-typed expressions

A tree is well-typed when all its nodes are: a constant has the type of its mapping, a connective takes truth
values, a comparison takes comparable operands, and so on. `Builder.Built` is the closure of the building
functions: what they make of trees that were built. Everything that is built over a coherent catalog is
well-typed (`Builder.Built.wellTyped`), so a proof about built statements may take types for granted.
-/

namespace SqlShape

/-! ## Types that compare -/

/-- A scalar type compares with itself. -/
theorem LogicalType.comparableWith_self {t : LogicalType} (scalar : t.isSequence = false) :
    t.comparableWith t = true := by
  unfold comparableWith
  rw [scalar]
  simp only [Bool.or_self, Bool.false_eq_true, if_false, decide_true, ite_self]

/-- Types that compare are scalar. -/
theorem LogicalType.scalar_of_comparableWith {s t : LogicalType} (comparable : s.comparableWith t = true) :
    s.isSequence = false ∧ t.isSequence = false := by
  unfold comparableWith at comparable
  split at comparable
  · cases comparable
  next scalars =>
    rw [Bool.or_eq_true, not_or, Bool.not_eq_true, Bool.not_eq_true] at scalars
    exact scalars

theorem LogicalType.comparableWith_comm (s t : LogicalType) : s.comparableWith t = t.comparableWith s := by
  unfold comparableWith
  rw [Bool.or_comm, Bool.and_comm, decide_eq_decide.mpr eq_comm]

/-! ## Well-typed trees -/

namespace Expr

variable {ρ : Type}

/-- A node is well-typed, given the types of its operands. -/
def Typed (e : Expr ρ) : Prop :=
  e.mapping.type.isSequence = false ∧
    match e with
    | constant v m => v.HasType m.type
    | parameter _ t m => t = m.type ∨ t = .sequence m.type
    | column _ _ _ _ | function _ _ _ _ | convert _ _ => True
    | binary op l r m =>
      if op.isLogical then l.type = .bool ∧ r.type = .bool ∧ m.type = .bool
      else if op.isComparison then l.type.comparableWith r.type = true ∧ m.type = .bool
      else l.type.isNumeric = true ∧ r.type.isNumeric = true ∧ m.type = l.type.wider r.type
    | negation e m => e.type = .bool ∧ m.type = .bool
    | nullTest _ _ m => m.type = .bool
    | inList item values _ m => (∀ v ∈ values, item.type.comparableWith v.type = true) ∧ m.type = .bool
    | inParameter item source _ m =>
      (∃ ref element sm, source = parameter ref (.sequence element) sm ∧
        item.type.comparableWith element = true) ∧ m.type = .bool
    | like s p o m => s.type = .text ∧ p.type = .text ∧ (∀ e ∈ o, e.type = .text) ∧ m.type = .bool

/-- All nodes are well-typed. -/
def WellTyped (e : Expr ρ) : Prop :=
  e.Everywhere Typed

/-- A node that is no constant and no parameter has the type of its mapping. -/
theorem type_eq_of_isSupplied {e : Expr ρ} (own : e.isSupplied = false) : e.type = e.mapping.type := by
  cases e with
  | parameter ref t m => cases own
  | _ => rfl

/-- A well-typed node of a scalar type has the type of its mapping. -/
theorem Typed.type_eq {e : Expr ρ} (typed : e.Typed) (scalar : e.type.isSequence = false) :
    e.type = e.mapping.type := by
  cases e with
  | parameter ref t m =>
    rcases typed.2 with same | sequence
    · exact same
    · rw [show (parameter ref t m).type = t from rfl, sequence] at scalar
      cases scalar
  | _ => rfl

/-- A well-typed parameter that holds a sequence has the mapping of its elements. -/
theorem Typed.sequence_eq {ref : ρ} {element : LogicalType} {m : TypeMapping}
    (typed : (parameter ref (.sequence element) m).Typed) : element = m.type := by
  obtain ⟨scalar, same | sequence⟩ := typed
  · rw [show (parameter ref (.sequence element) m).mapping.type = m.type from rfl, ← same] at scalar
    cases scalar
  · exact LogicalType.sequence.inj sequence

section Binary

variable {op : BinaryOp} {l r : Expr ρ} {m : TypeMapping}

/-- A connective makes a truth value of truth values. -/
theorem Typed.of_connective (typed : (binary op l r m).Typed) (logical : op.isLogical = true) :
    l.type = .bool ∧ r.type = .bool ∧ m.type = .bool := by
  have operands := typed.2
  dsimp only at operands
  rwa [if_pos logical] at operands

/-- A sum or a difference makes a number of numbers, in the wider type. -/
theorem Typed.of_sum (typed : (binary op l r m).Typed) (other : op.isLogical = false)
    (other' : op.isComparison = false) :
    l.type.isNumeric = true ∧ r.type.isNumeric = true ∧ m.type = l.type.wider r.type := by
  have operands := typed.2
  dsimp only at operands
  rwa [if_neg (Bool.eq_false_iff.mp other), if_neg (Bool.eq_false_iff.mp other')] at operands

end Binary

end Expr

/-! ## Catalogs -/

namespace Builder

/-- The catalog has a mapping of its own type for each type that it knows, and knows scalars only; truth values
have their mapping. -/
structure Coherent (b : Builder) : Prop where
  types : ∀ t m, b.catalog.find? t = some m → m.type = t ∧ t.isSequence = false
  bool : b.boolMapping.type = .bool

/-- Truth values are scalars. -/
theorem Coherent.scalar {b : Builder} (coherent : b.Coherent) : b.boolMapping.type.isSequence = false := by
  rw [coherent.bool]
  rfl

/-- The mapping that a coherent catalog gives for a type. -/
theorem Coherent.findMapping {b : Builder} (coherent : b.Coherent) {t : LogicalType} {m : TypeMapping}
    (found : b.findMapping t = .ok m) : m.type = t ∧ t.isSequence = false := by
  unfold Builder.findMapping at found
  split at found
  next m' known =>
    cases found
    exact coherent.types t m known
  next => cases found

/-- The builder of a dialect is coherent. -/
theorem coherent_ofCatalog {d : Dialect} {b : Builder} (made : ofCatalog d.catalog = .ok b) : b.Coherent := by
  have types : ∀ t m, d.catalog.find? t = some m → m.type = t ∧ t.isSequence = false := by
    intro t m known
    obtain ⟨storeType, stored, rfl⟩ := Option.map_eq_some_iff.mp known
    refine ⟨rfl, ?_⟩
    cases t with
    | sequence element => cases d <;> cases stored
    | _ => rfl
  unfold ofCatalog at made
  split at made
  next boolMapping known =>
    cases made
    exact ⟨types, (types .bool boolMapping known).1⟩
  next => cases made

/-! ## Built trees -/

variable {ρ : Type}

/-- The trees that the building functions make. The functions that take a mapping from outside check nothing; here the
mapping must be scalar and a constant under it must be of its type, so `Built` is narrower than they are: it leaves out
a text under the mapping of an integer, and a column under that of a sequence. -/
inductive Built (b : Builder) : Expr ρ → Prop
  | constantOf {value : Value} {type : LogicalType} {e : Expr ρ} (made : b.constantOf value type = .ok e) :
      Built b e
  | constant {value : Value} {e : Expr ρ} (made : b.constant value = .ok e) : Built b e
  | constantWith {value : Value} {m : TypeMapping} (typed : value.HasType m.type)
      (scalar : m.type.isSequence = false) : Built b (.constant value m)
  | truth (value : Bool) : Built b (b.truth value)
  | parameter {ref : ρ} {type : LogicalType} {e : Expr ρ} (made : b.parameter ref type = .ok e) : Built b e
  | column {table name : String} {type : LogicalType} {nullable : Bool} {e : Expr ρ}
      (made : b.column table name type nullable = .ok e) : Built b e
  | columnWith {table name : String} {m : TypeMapping} {nullable : Bool} (scalar : m.type.isSequence = false) :
      Built b (.column table name m nullable)
  | call {name : String} {arguments : List (Expr ρ)} {m : TypeMapping} (scalar : m.type.isSequence = false)
      (operands : ∀ a ∈ arguments, Built b a) : Built b (call name arguments m)
  | function {name : String} {arguments : List (Expr ρ)} {type : LogicalType} {e : Expr ρ}
      (operands : ∀ a ∈ arguments, Built b a) (made : b.function name arguments type = .ok e) : Built b e
  | convert {operand : Expr ρ} {target : LogicalType} {e : Expr ρ} (below : Built b operand)
      (made : b.convert operand target = .ok e) : Built b e
  | retype {e : Expr ρ} {m : TypeMapping} (below : Built b e) (scalar : m.type.isSequence = false) :
      Built b (retype e m)
  | binary {op : BinaryOp} {left right e : Expr ρ} (first : Built b left) (second : Built b right)
      (made : b.binary op left right = .ok e) : Built b e
  | isNull {e : Expr ρ} (below : Built b e) : Built b (b.isNull e)
  | isNotNull {e : Expr ρ} (below : Built b e) : Built b (b.isNotNull e)
  | not {operand e : Expr ρ} (below : Built b operand) (made : b.not operand = .ok e) : Built b e
  | inList {item e : Expr ρ} {values : List (Expr ρ)} {negated : Bool} (below : Built b item)
      (operands : ∀ v ∈ values, Built b v) (made : b.inList item values negated = .ok e) : Built b e
  | inParameter {item source e : Expr ρ} {negated : Bool} (below : Built b item) (supplied : Built b source)
      (made : b.inParameter item source negated = .ok e) : Built b e
  | like {subject pattern e : Expr ρ} {escape : Option (Expr ρ)} (first : Built b subject)
      (second : Built b pattern) (third : ∀ c ∈ escape, Built b c)
      (made : b.like subject pattern escape = .ok e) : Built b e

/-- What taking another mapping does: nothing, or a constant or parameter of the type of the mapping. -/
theorem retype_cases (e : Expr ρ) (m : TypeMapping) :
    Builder.retype e m = e ∨
    (∃ v m', e = .constant v m' ∧ v.fits m.type = true ∧
      Builder.retype e m = .constant (v.convertedTo m.type) m) ∨
    (∃ ref t m', e = .parameter ref t m' ∧ t.Widens m.type ∧ Builder.retype e m = .parameter ref m.type m) := by
  unfold Builder.retype
  split
  · exact .inl rfl
  · cases e with
    | constant v m' =>
      dsimp only
      split
      next fits => exact .inr (.inl ⟨v, m', rfl, fits, rfl⟩)
      next => exact .inl rfl
    | parameter ref t m' =>
      dsimp only
      split
      next widens => exact .inr (.inr ⟨ref, t, m', rfl, LogicalType.widensTo_iff.mp widens, rfl⟩)
      next => exact .inl rfl
    | _ => exact .inl rfl

/-- Under another mapping a tree keeps its type or has that of the mapping. -/
theorem type_retype (e : Expr ρ) (m : TypeMapping) :
    (Builder.retype e m).type = e.type ∨ (Builder.retype e m).type = m.type := by
  rcases retype_cases e m with same | ⟨v, m', -, -, changed⟩ | ⟨ref, t, m', -, -, changed⟩
  · exact .inl (congrArg Expr.type same)
  · exact .inr (congrArg Expr.type changed)
  · exact .inr (congrArg Expr.type changed)

/-- Under another scalar mapping a tree is as well-typed as before. -/
theorem wellTyped_retype {e : Expr ρ} {m : TypeMapping} (typed : e.WellTyped) (scalar : m.type.isSequence = false) :
    (Builder.retype e m).WellTyped := by
  rcases retype_cases e m with same | ⟨v, m', -, fits, changed⟩ | ⟨ref, t, m', -, -, changed⟩
  · rw [same]
    exact typed
  · rw [changed]
    exact Expr.everywhere_constant.mpr ⟨scalar, Value.hasType_convertedTo fits scalar⟩
  · rw [changed]
    exact Expr.everywhere_parameter.mpr ⟨scalar, .inl rfl⟩

variable {b : Builder}

theorem wellTyped_constantOf (coherent : b.Coherent) {value : Value} {type : LogicalType} {e : Expr ρ}
    (made : b.constantOf value type = .ok e) : e.WellTyped := by
  unfold Builder.constantOf at made
  obtain ⟨m, found, later⟩ := bind_eq_ok.mp made
  obtain ⟨rfl, scalar⟩ := coherent.findMapping found
  have fitted : ∀ refusal : QueryError,
      (if value.fits m.type = true then pure (.constant (value.convertedTo m.type) m)
        else throw refusal : Except QueryError (Expr ρ)) = .ok e → e.WellTyped := by
    intro refusal made
    split at made
    next fits =>
      cases made
      exact Expr.everywhere_constant.mpr ⟨scalar, Value.hasType_convertedTo fits scalar⟩
    next => cases made
  dsimp only at later
  split at later
  · split at later
    · exact fitted _ later
    · cases later
  · exact fitted _ later

theorem wellTyped_truth (coherent : b.Coherent) (value : Bool) : (b.truth value : Expr ρ).WellTyped := by
  refine Expr.everywhere_constant.mpr ⟨coherent.scalar, ?_⟩
  dsimp only
  rw [coherent.bool]
  exact .inr rfl

theorem wellTyped_parameter (coherent : b.Coherent) {ref : ρ} {type : LogicalType} {e : Expr ρ}
    (made : b.parameter ref type = .ok e) : e.WellTyped := by
  unfold Builder.parameter at made
  split at made
  next => cases made
  next element _ =>
    obtain ⟨m, found, rest⟩ := bind_eq_ok.mp made
    obtain ⟨rfl, scalar⟩ := coherent.findMapping found
    cases rest
    exact Expr.everywhere_parameter.mpr ⟨scalar, .inr rfl⟩
  next =>
    obtain ⟨m, found, rest⟩ := bind_eq_ok.mp made
    obtain ⟨rfl, scalar⟩ := coherent.findMapping found
    cases rest
    exact Expr.everywhere_parameter.mpr ⟨scalar, .inl rfl⟩

/-- The operands of a comparison after the supplied one took the mapping of the other. -/
theorem wellTyped_alignOperands {left right : Expr ρ} (first : left.WellTyped) (second : right.WellTyped)
    (comparable : left.type.comparableWith right.type = true) :
    (alignOperands left right).1.WellTyped ∧ (alignOperands left right).2.WellTyped ∧
      (alignOperands left right).1.type.comparableWith (alignOperands left right).2.type = true := by
  unfold alignOperands
  split
  next own =>
    have same := Expr.type_eq_of_isSupplied own
    refine ⟨wellTyped_retype first second.here.1, second, ?_⟩
    rcases type_retype left right.mapping with kept | taken
    · rw [kept]
      exact comparable
    · rw [taken, same]
      exact LogicalType.comparableWith_self second.here.1
  next own _ =>
    have same := Expr.type_eq_of_isSupplied own
    refine ⟨first, wellTyped_retype second first.here.1, ?_⟩
    rcases type_retype right left.mapping with kept | taken
    · rw [kept]
      exact comparable
    · rw [taken, same]
      exact LogicalType.comparableWith_self first.here.1
  next => exact ⟨first, second, comparable⟩

/-- Taken apart, a check of types is a type. -/
theorem requireType_eq_ok {operation : Operation} {expected : LogicalType} {e : Expr ρ} {u : Unit} :
    requireType operation expected e = .ok u ↔ e.type = expected := by
  unfold requireType
  split
  next same => exact iff_of_true rfl same
  next differs => exact iff_of_false (fun made => by cases made) differs

theorem requireComparable_eq_ok {operation : Operation} {s t : LogicalType} {u : Unit} :
    requireComparable operation s t = .ok u ↔ s.comparableWith t = true := by
  unfold requireComparable
  split
  next comparable => exact iff_of_true rfl comparable
  next apart => exact iff_of_false (fun made => by cases made) apart

/-- What a connective is. -/
theorem logical_eq_ok {op : BinaryOp} {left right e : Expr ρ} (made : b.logical op left right = .ok e) :
    left.type = .bool ∧ right.type = .bool ∧ e = .binary op left right b.boolMapping := by
  obtain ⟨_, left', later⟩ := bind_eq_ok.mp made
  obtain ⟨_, right', rest⟩ := bind_eq_ok.mp later
  cases rest
  exact ⟨requireType_eq_ok.mp left', requireType_eq_ok.mp right', rfl⟩

/-- What a negation is: a truth value, a negation or a null test turned around, or a negation. -/
theorem not_eq_ok {operand e : Expr ρ} (made : b.not operand = .ok e) : operand.type = .bool ∧
    ((∃ value m, operand = .constant (.bool value) m ∧ e = b.truth (!value)) ∨
      (∃ m, operand = .negation e m) ∨
      (∃ inner negated m, operand = .nullTest inner negated m ∧ e = .nullTest inner (!negated) b.boolMapping) ∨
      e = .negation operand b.boolMapping) := by
  obtain ⟨_, typed, later⟩ := bind_eq_ok.mp made
  refine ⟨requireType_eq_ok.mp typed, ?_⟩
  split at later
  next value m =>
    cases later
    exact .inl ⟨value, m, rfl, rfl⟩
  next inner m =>
    cases later
    exact .inr (.inl ⟨m, rfl⟩)
  next inner negated m =>
    cases later
    exact .inr (.inr (.inl ⟨inner, negated, m, rfl, rfl⟩))
  next =>
    cases later
    exact .inr (.inr (.inr rfl))

theorem wellTyped_binary (coherent : b.Coherent) {op : BinaryOp} {left right e : Expr ρ} (first : left.WellTyped)
    (second : right.WellTyped) (made : b.binary op left right = .ok e) : e.WellTyped := by
  unfold Builder.binary at made
  split at made
  next logical =>
    obtain ⟨left', right', rfl⟩ := logical_eq_ok made
    refine Expr.everywhere_binary.mpr ⟨⟨coherent.scalar, ?_⟩, first, second⟩
    dsimp only
    rw [if_pos logical]
    exact ⟨left', right', coherent.bool⟩
  next other =>
    split at made
    next comparison =>
      unfold Builder.comparison at made
      obtain ⟨_, comparable, rest⟩ := bind_eq_ok.mp made
      obtain ⟨first', second', comparable'⟩ :=
        wellTyped_alignOperands first second (requireComparable_eq_ok.mp comparable)
      cases rest
      refine Expr.everywhere_binary.mpr ⟨⟨coherent.scalar, ?_⟩, first', second'⟩
      dsimp only
      rw [if_neg other, if_pos comparison]
      exact ⟨comparable', coherent.bool⟩
    next sum =>
      unfold Builder.arithmetic at made
      dsimp only at made
      split at made
      next numeric =>
        obtain ⟨m, found, rest⟩ := bind_eq_ok.mp made
        obtain ⟨same, scalar⟩ := coherent.findMapping found
        cases rest
        rw [← same] at scalar
        refine Expr.everywhere_binary.mpr ⟨⟨scalar, ?_⟩, first, second⟩
        dsimp only
        rw [if_neg other, if_neg sum]
        obtain ⟨left', right'⟩ := Bool.and_eq_true_iff.mp numeric
        exact ⟨left', right', same⟩
      next => cases made

theorem wellTyped_not (coherent : b.Coherent) {operand e : Expr ρ} (below : operand.WellTyped)
    (made : b.not operand = .ok e) : e.WellTyped := by
  obtain ⟨typed, made⟩ := not_eq_ok made
  rcases made with ⟨value, m, -, rfl⟩ | ⟨m, rfl⟩ | ⟨inner, negated, m, rfl, rfl⟩ | rfl
  · exact wellTyped_truth coherent (!value)
  · exact (Expr.everywhere_negation.mp below).2
  · exact Expr.everywhere_nullTest.mpr
      ⟨⟨coherent.scalar, coherent.bool⟩, (Expr.everywhere_nullTest.mp below).2⟩
  · exact Expr.everywhere_negation.mpr ⟨⟨coherent.scalar, typed, coherent.bool⟩, below⟩

/-- Checks in a row are checks of each. -/
theorem forM_eq_ok {α : Type} {check : α → Except QueryError Unit} {items : List α} {u : Unit}
    (passed : items.forM check = .ok u) : ∀ x ∈ items, check x = .ok () := by
  induction items with
  | nil =>
    intro x member
    cases member
  | cons first rest later =>
    obtain ⟨_, here, rest'⟩ := bind_eq_ok.mp passed
    intro x member
    rcases List.mem_cons.mp member with rfl | after
    · exact here
    · exact later rest' x after

theorem wellTyped_inList (coherent : b.Coherent) {item e : Expr ρ} {values : List (Expr ρ)} {negated : Bool}
    (below : item.WellTyped) (operands : ∀ v ∈ values, v.WellTyped) (made : b.inList item values negated = .ok e) :
    e.WellTyped := by
  unfold Builder.inList at made
  obtain ⟨_, passed, rest⟩ := bind_eq_ok.mp made
  cases rest
  refine Expr.everywhere_inList.mpr ⟨⟨coherent.scalar, ?_, coherent.bool⟩, below, ?_⟩
  · intro v member
    obtain ⟨v', member', rfl⟩ := List.mem_map.mp member
    have comparable := requireComparable_eq_ok.mp (forM_eq_ok passed v' member')
    rcases type_retype v' item.mapping with kept | taken
    · rw [kept]
      exact comparable
    · have scalar := (LogicalType.scalar_of_comparableWith comparable).1
      rw [taken, ← below.here.type_eq scalar]
      exact LogicalType.comparableWith_self scalar
  · intro v member
    obtain ⟨v', member', rfl⟩ := List.mem_map.mp member
    exact wellTyped_retype (operands v' member') below.here.1

theorem wellTyped_inParameter (coherent : b.Coherent) {item source e : Expr ρ} {negated : Bool}
    (below : item.WellTyped) (supplied : source.WellTyped) (made : b.inParameter item source negated = .ok e) :
    e.WellTyped := by
  unfold Builder.inParameter at made
  split at made
  next ref element m =>
    obtain ⟨_, comparable, rest⟩ := bind_eq_ok.mp made
    cases rest
    refine Expr.everywhere_inParameter.mpr ⟨⟨coherent.scalar, ?_, coherent.bool⟩, below, supplied⟩
    exact ⟨ref, element, m, rfl, requireComparable_eq_ok.mp comparable⟩
  next => cases made

theorem wellTyped_like (coherent : b.Coherent) {subject pattern e : Expr ρ} {escape : Option (Expr ρ)}
    (first : subject.WellTyped) (second : pattern.WellTyped) (third : ∀ c ∈ escape, c.WellTyped)
    (made : b.like subject pattern escape = .ok e) : e.WellTyped := by
  unfold Builder.like at made
  obtain ⟨_, subject', later⟩ := bind_eq_ok.mp made
  obtain ⟨_, pattern', later⟩ := bind_eq_ok.mp later
  obtain ⟨_, escape', rest⟩ := bind_eq_ok.mp later
  cases rest
  have text := requireType_eq_ok.mp subject'
  refine Expr.everywhere_like.mpr
    ⟨⟨coherent.scalar, text, ?_, ?_, coherent.bool⟩, first, wellTyped_retype second first.here.1, third⟩
  · rcases type_retype pattern subject.mapping with kept | taken
    · rw [kept]
      exact requireType_eq_ok.mp pattern'
    · have scalar : subject.type.isSequence = false := by
        rw [text]
        rfl
      rw [taken, ← first.here.type_eq scalar]
      exact text
  · intro c present
    cases present
    exact requireType_eq_ok.mp escape'

/-- Everything that is built over a coherent catalog is well-typed. -/
theorem Built.wellTyped (coherent : b.Coherent) {e : Expr ρ} (built : b.Built e) : e.WellTyped := by
  induction built with
  | constantOf made => exact wellTyped_constantOf coherent made
  | constant made =>
    unfold Builder.constant at made
    split at made
    next => exact wellTyped_constantOf coherent made
    next => cases made
  | constantWith typed scalar => exact Expr.everywhere_constant.mpr ⟨scalar, typed⟩
  | truth value => exact wellTyped_truth coherent value
  | parameter made => exact wellTyped_parameter coherent made
  | column made =>
    obtain ⟨m, found, rest⟩ := bind_eq_ok.mp made
    obtain ⟨rfl, scalar⟩ := coherent.findMapping found
    cases rest
    exact Expr.everywhere_column.mpr ⟨scalar, trivial⟩
  | columnWith scalar => exact Expr.everywhere_column.mpr ⟨scalar, trivial⟩
  | call scalar _ operands => exact Expr.everywhere_function.mpr ⟨⟨scalar, trivial⟩, operands⟩
  | function _ made operands =>
    obtain ⟨m, found, rest⟩ := bind_eq_ok.mp made
    obtain ⟨rfl, scalar⟩ := coherent.findMapping found
    cases rest
    exact Expr.everywhere_function.mpr ⟨⟨scalar, trivial⟩, operands⟩
  | convert _ made below =>
    unfold Builder.convert at made
    split at made
    next =>
      cases made
      exact below
    next =>
      obtain ⟨m, found, rest⟩ := bind_eq_ok.mp made
      obtain ⟨rfl, scalar⟩ := coherent.findMapping found
      cases rest
      exact Expr.everywhere_convert.mpr ⟨⟨scalar, trivial⟩, below⟩
  | retype _ scalar below => exact wellTyped_retype below scalar
  | binary _ _ made first second => exact wellTyped_binary coherent first second made
  | isNull _ below => exact Expr.everywhere_nullTest.mpr ⟨⟨coherent.scalar, coherent.bool⟩, below⟩
  | isNotNull _ below => exact Expr.everywhere_nullTest.mpr ⟨⟨coherent.scalar, coherent.bool⟩, below⟩
  | not _ made below => exact wellTyped_not coherent below made
  | inList _ _ made below operands => exact wellTyped_inList coherent below operands made
  | inParameter _ _ made below supplied => exact wellTyped_inParameter coherent below supplied made
  | like _ _ _ made first second third => exact wellTyped_like coherent first second third made

end Builder

end SqlShape
