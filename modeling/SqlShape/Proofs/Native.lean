import SqlShape.Dialect.Functions
import SqlShape.Proofs.Placeholders

/-!
# Expressions of a dialect

An expression is native to a dialect where it is well-typed, has store types of the dialect's catalog, calls functions
of the dialect only and lists the members of each list. The building functions make native expressions of native ones
(`Builder.Serves`). What can come out of an expression when values are known keeps its type, is as well-typed
(`Outcome.wellTypedIn`) and as native (`Outcome.native`), also under other references (`Native.mapRef`).
-/

namespace SqlShape

namespace Dialect

/-- The functions that a dialect offers. -/
def functionNames (d : Dialect) : List String :=
  let f := d.functions
  [f.position, f.textLength, f.byteLength, f.substring, f.upper, f.lower, f.trim, f.abs, f.ceiling, f.floor, f.round,
    f.greatest, f.least] ++ (match d with | .sqlServer => ["RIGHT"] | .sqlite => [])

/-- The mapping is the one that the dialect has for its type. -/
def Knows (d : Dialect) (m : TypeMapping) : Prop :=
  d.catalog.find? m.type = some m

/-- The mappings of a dialect are scalar. -/
theorem Knows.scalar {d : Dialect} {m : TypeMapping} (known : d.Knows m) : m.type.isSequence = false := by
  unfold Knows catalog at known
  cases same : m.type with
  | sequence element =>
    rw [same] at known
    cases d <;> cases known
  | _ => rfl

end Dialect

namespace Expr

variable {ρ : Type}

/-- A node is well-typed and has a store type of the dialect. -/
def TypedIn (d : Dialect) (e : Expr ρ) : Prop :=
  e.Typed ∧ d.Knows e.mapping

/-- All nodes are well-typed with store types of the dialect. -/
def WellTypedIn (d : Dialect) (e : Expr ρ) : Prop :=
  e.Everywhere (TypedIn d)

/-- A node calls a function of the dialect and lists some members. -/
def Offered (d : Dialect) : Expr ρ → Prop
  | function name _ _ _ => name ∈ d.functionNames
  | inList _ values _ _ => values ≠ []
  | _ => True

/-- A node has a store type of the dialect, calls a function of the dialect and lists some members. -/
def Standard (d : Dialect) (e : Expr ρ) : Prop :=
  d.Knows e.mapping ∧ e.Offered d

/-- An expression of a dialect. -/
structure Native (d : Dialect) (e : Expr ρ) : Prop where
  typed : e.WellTyped
  standard : e.Everywhere (Standard d)

/-- Being typed in a dialect is being typed. -/
theorem WellTypedIn.wellTyped {d : Dialect} {e : Expr ρ} (typed : e.WellTypedIn d) : e.WellTyped :=
  fun n node => (typed n node).1

/-- With functions that the dialect offers, what is typed in it is native. -/
theorem WellTypedIn.native {d : Dialect} {e : Expr ρ} (typed : e.WellTypedIn d) (offered : e.Everywhere (Offered d)) :
    e.Native d :=
  ⟨typed.wellTyped, fun n node => ⟨(typed n node).2, offered n node⟩⟩

namespace Native

variable {d : Dialect} {e l r : Expr ρ} {m : TypeMapping}

theorem wellTypedIn (native : e.Native d) : e.WellTypedIn d :=
  fun n node => ⟨native.typed n node, (native.standard n node).1⟩

theorem offered (native : e.Native d) : e.Everywhere (Offered d) :=
  fun n node => (native.standard n node).2

/-- The mapping of a native expression is one of the dialect. -/
theorem knows (native : e.Native d) : d.Knows e.mapping :=
  native.standard.here.1

/-- A constant of a known type. -/
theorem constant {v : Value} (known : d.Knows m) (typed : v.HasType m.type) : (constant v m : Expr ρ).Native d :=
  ⟨everywhere_constant.mpr ⟨known.scalar, typed⟩, everywhere_constant.mpr ⟨known, trivial⟩⟩

theorem parameter {ref : ρ} (known : d.Knows m) : (parameter ref m.type m).Native d :=
  ⟨everywhere_parameter.mpr ⟨known.scalar, .inl rfl⟩, everywhere_parameter.mpr ⟨known, trivial⟩⟩

/-- A function that the dialect offers, over native arguments. -/
theorem function {name : String} {es : List (Expr ρ)} {nullable : Bool} (known : d.Knows m)
    (offered : name ∈ d.functionNames) (each : ∀ e ∈ es, e.Native d) : (function name es m nullable).Native d :=
  ⟨everywhere_function.mpr ⟨⟨known.scalar, trivial⟩, fun e member => (each e member).typed⟩,
    everywhere_function.mpr ⟨⟨known, offered⟩, fun e member => (each e member).standard⟩⟩

theorem convert (known : d.Knows m) (below : e.Native d) : (convert e m).Native d :=
  ⟨everywhere_convert.mpr ⟨⟨known.scalar, trivial⟩, below.typed⟩,
    everywhere_convert.mpr ⟨⟨known, trivial⟩, below.standard⟩⟩

/-- Taking another known mapping keeps an expression native. -/
theorem retype (below : e.Native d) (known : d.Knows m) : (Builder.retype e m).Native d := by
  rcases Builder.retype_cases e m with same | ⟨v, m', -, fits, changed⟩ | ⟨ref, t, m', -, -, changed⟩
  · rw [same]
    exact below
  · rw [changed]
    exact .constant known (Value.hasType_convertedTo fits known.scalar)
  · rw [changed]
    exact .parameter known

/-- The operands of a comparison after the supplied one took the mapping of the other. -/
theorem alignOperands (first : l.Native d) (second : r.Native d) :
    (Builder.alignOperands l r).1.Native d ∧ (Builder.alignOperands l r).2.Native d := by
  unfold Builder.alignOperands
  split
  · exact ⟨first.retype second.knows, second⟩
  · exact ⟨first, second.retype first.knows⟩
  · exact ⟨first, second⟩

/-- A native constant has a value of the type of its mapping. -/
theorem hasType_constant {v : Value} (native : e.Native d) (constant : e.constant? = some v) :
    v.HasType e.mapping.type := by
  cases e with
  | constant v' m =>
    cases constant
    exact native.typed.here.2
  | _ => cases constant

/-- A native expression of a scalar type has the type of its mapping. -/
theorem type_eq (native : e.Native d) (scalar : e.type.isSequence = false) : e.type = e.mapping.type :=
  native.typed.here.type_eq scalar

end Native

end Expr

/-! ## Building functions -/

namespace Builder

/-- The builder of a dialect. -/
structure Serves (b : Builder) (d : Dialect) : Prop where
  catalog : b.catalog = d.catalog
  bool : d.Knows b.boolMapping
  coherent : b.Coherent

/-- The builder of a dialect serves it. -/
theorem serves_ofCatalog {d : Dialect} {b : Builder} (made : ofCatalog d.catalog = .ok b) : b.Serves d := by
  have coherent := coherent_ofCatalog made
  unfold ofCatalog at made
  split at made
  next boolMapping known =>
    cases made
    refine ⟨rfl, ?_, coherent⟩
    rw [Dialect.Knows, coherent.bool]
    exact known
  next => cases made

namespace Serves

variable {ρ : Type} {d : Dialect} {b : Builder} {e l r : Expr ρ}

/-- The mapping that is found for a type is one of the dialect, for that type. -/
theorem findMapping (serves : b.Serves d) {t : LogicalType} {m : TypeMapping} (found : b.findMapping t = .ok m) :
    d.Knows m ∧ m.type = t := by
  obtain ⟨same, -⟩ := serves.coherent.findMapping found
  unfold Builder.findMapping at found
  split at found
  next m' known =>
    cases found
    refine ⟨?_, same⟩
    rw [Dialect.Knows, same, ← serves.catalog]
    exact known
  next => cases found

/-- A stated constant is of the type that was asked for. -/
theorem constantOf (serves : b.Serves d) {v : Value} {t : LogicalType} (made : b.constantOf v t = .ok e) :
    e.Native d := by
  refine ⟨wellTyped_constantOf serves.coherent made, ?_⟩
  unfold Builder.constantOf at made
  obtain ⟨m, found, later⟩ := bind_eq_ok.mp made
  have known := (serves.findMapping found).1
  dsimp only at later
  split at later
  · split at later
    · split at later
      · cases later
        exact Expr.everywhere_constant.mpr ⟨known, trivial⟩
      · cases later
    · cases later
  · split at later
    · cases later
      exact Expr.everywhere_constant.mpr ⟨known, trivial⟩
    · cases later

theorem constant (serves : b.Serves d) {v : Value} (made : b.constant v = .ok e) : e.Native d := by
  unfold Builder.constant at made
  split at made
  · exact serves.constantOf made
  · cases made

theorem truth (serves : b.Serves d) (value : Bool) : (b.truth value : Expr ρ).Native d :=
  ⟨wellTyped_truth serves.coherent value, Expr.everywhere_constant.mpr ⟨serves.bool, trivial⟩⟩

/-- A parameter, of a scalar type or of a sequence of them. -/
theorem parameter (serves : b.Serves d) {ref : ρ} {t : LogicalType} (made : b.parameter ref t = .ok e) :
    e.Native d := by
  refine ⟨wellTyped_parameter serves.coherent made, ?_⟩
  unfold Builder.parameter at made
  split at made
  next => cases made
  next =>
    obtain ⟨m, found, rest⟩ := bind_eq_ok.mp made
    cases rest
    exact Expr.everywhere_parameter.mpr ⟨(serves.findMapping found).1, trivial⟩
  next =>
    obtain ⟨m, found, rest⟩ := bind_eq_ok.mp made
    cases rest
    exact Expr.everywhere_parameter.mpr ⟨(serves.findMapping found).1, trivial⟩

/-- A column of a known type. -/
theorem column (serves : b.Serves d) {table name : String} {t : LogicalType} {nullable : Bool}
    (made : b.column table name t nullable = .ok e) : e.Native d := by
  obtain ⟨m, found, rest⟩ := bind_eq_ok.mp made
  have known := (serves.findMapping found).1
  cases rest
  exact ⟨Expr.everywhere_column.mpr ⟨known.scalar, trivial⟩, Expr.everywhere_column.mpr ⟨known, trivial⟩⟩

/-- A function of the dialect with a known result. -/
theorem function (serves : b.Serves d) {name : String} {es : List (Expr ρ)} {t : LogicalType}
    (offered : name ∈ d.functionNames) (each : ∀ e ∈ es, e.Native d) (made : b.function name es t = .ok e) :
    e.Native d := by
  obtain ⟨m, found, rest⟩ := bind_eq_ok.mp made
  cases rest
  exact .function (serves.findMapping found).1 offered each

/-- A conversion into a known type, or nothing where the type is right already. -/
theorem convert (serves : b.Serves d) {t : LogicalType} (below : l.Native d) (made : b.convert l t = .ok e) :
    e.Native d := by
  unfold Builder.convert at made
  split at made
  next =>
    cases made
    exact below
  next =>
    obtain ⟨m, found, rest⟩ := bind_eq_ok.mp made
    cases rest
    exact .convert (serves.findMapping found).1 below

/-- The sides of a comparison are retyped first, so they stay native. -/
theorem binary (serves : b.Serves d) {op : BinaryOp} (first : l.Native d) (second : r.Native d)
    (made : b.binary op l r = .ok e) : e.Native d := by
  refine ⟨wellTyped_binary serves.coherent first.typed second.typed made, ?_⟩
  unfold Builder.binary at made
  split at made
  next =>
    obtain ⟨-, -, rfl⟩ := logical_eq_ok made
    exact Expr.everywhere_binary.mpr ⟨⟨serves.bool, trivial⟩, first.standard, second.standard⟩
  next =>
    split at made
    next =>
      obtain ⟨_, -, rest⟩ := bind_eq_ok.mp made
      obtain ⟨first', second'⟩ := first.alignOperands second
      cases rest
      exact Expr.everywhere_binary.mpr ⟨⟨serves.bool, trivial⟩, first'.standard, second'.standard⟩
    next =>
      unfold Builder.arithmetic at made
      dsimp only at made
      split at made
      next =>
        obtain ⟨m, found, rest⟩ := bind_eq_ok.mp made
        cases rest
        exact Expr.everywhere_binary.mpr ⟨⟨(serves.findMapping found).1, trivial⟩, first.standard, second.standard⟩
      next => cases made

/-- A negation turns a native node over or stands above it. -/
theorem not (serves : b.Serves d) (below : l.Native d) (made : b.not l = .ok e) : e.Native d := by
  refine ⟨wellTyped_not serves.coherent below.typed made, ?_⟩
  obtain ⟨-, made⟩ := not_eq_ok made
  rcases made with ⟨value, m, -, rfl⟩ | ⟨m, rfl⟩ | ⟨inner, negated, m, rfl, rfl⟩ | rfl
  · exact (serves.truth (!value)).standard
  · exact (Expr.everywhere_negation.mp below.standard).2
  · exact Expr.everywhere_nullTest.mpr ⟨⟨serves.bool, trivial⟩, (Expr.everywhere_nullTest.mp below.standard).2⟩
  · exact Expr.everywhere_negation.mpr ⟨⟨serves.bool, trivial⟩, below.standard⟩

/-- The item of a membership may be retyped. -/
theorem inParameter (serves : b.Serves d) {negated : Bool} (first : l.Native d) (second : r.Native d)
    (made : b.inParameter l r negated = .ok e) : e.Native d := by
  refine ⟨wellTyped_inParameter serves.coherent first.typed second.typed made, ?_⟩
  unfold Builder.inParameter at made
  split at made
  next =>
    obtain ⟨_, -, rest⟩ := bind_eq_ok.mp made
    cases rest
    exact Expr.everywhere_inParameter.mpr ⟨⟨serves.bool, trivial⟩, first.standard, second.standard⟩
  next => cases made

/-- A pattern match of texts. -/
theorem like (serves : b.Serves d) {escape : Option (Expr ρ)} (first : l.Native d) (second : r.Native d)
    (third : ∀ c ∈ escape, c.Native d) (made : b.like l r escape = .ok e) : e.Native d := by
  refine ⟨wellTyped_like serves.coherent first.typed second.typed (fun c member => (third c member).typed) made, ?_⟩
  unfold Builder.like at made
  obtain ⟨_, -, later⟩ := bind_eq_ok.mp made
  obtain ⟨_, -, later⟩ := bind_eq_ok.mp later
  obtain ⟨_, -, rest⟩ := bind_eq_ok.mp later
  cases rest
  exact Expr.everywhere_like.mpr ⟨⟨serves.bool, trivial⟩, first.standard, (second.retype first.knows).standard,
    fun c member => (third c member).standard⟩

end Serves

end Builder

/-- A statement of native expressions, with a truth value for a predicate. -/
structure Select.Native {ρ : Type} (d : Dialect) (s : Select ρ) : Prop where
  expressions : ∀ e ∈ s.expressions, e.Native d
  predicate : ∀ e ∈ s.predicate, e.type = .bool

/-! ## Other references -/

namespace Expr

variable {ρ σ : Type} {d : Dialect} {e : Expr ρ}

/-- Other references leave the mapping as it is. -/
theorem mapping_mapRef (f : ρ → σ) (e : Expr ρ) : (e.mapRef f).mapping = e.mapping := by
  cases e <;> rw [mapRef] <;> rfl

theorem type_mapRef (f : ρ → σ) (e : Expr ρ) : (e.mapRef f).type = e.type := by
  cases e <;> rw [mapRef] <;> rfl

/-- Types are not about references, so other references keep them. -/
theorem Typed.mapRef (f : ρ → σ) (typed : e.Typed) : (e.mapRef f).Typed := by
  obtain ⟨scalar, operands⟩ := typed
  rw [← mapping_mapRef f] at scalar
  refine ⟨scalar, ?_⟩
  cases e with
  | constant | parameter =>
    rw [Expr.mapRef]
    exact operands
  | column | function | convert =>
    rw [Expr.mapRef]
    trivial
  | binary op l r m =>
    rw [Expr.mapRef]
    dsimp only at operands ⊢
    rwa [type_mapRef, type_mapRef]
  | negation e m =>
    rw [Expr.mapRef]
    dsimp only at operands ⊢
    rwa [type_mapRef]
  | nullTest e negated m =>
    rw [Expr.mapRef]
    exact operands
  | inList item es negated m =>
    rw [Expr.mapRef, mapRefList_eq_map]
    refine ⟨fun v member => ?_, operands.2⟩
    obtain ⟨v, inside, rfl⟩ := List.mem_map.mp member
    rw [type_mapRef, type_mapRef]
    exact operands.1 v inside
  | inParameter item source negated m =>
    obtain ⟨⟨ref, element, sm, rfl, comparable⟩, bool⟩ := operands
    rw [Expr.mapRef, Expr.mapRef]
    refine ⟨⟨f ref, element, sm, rfl, ?_⟩, bool⟩
    rwa [type_mapRef]
  | like subject pattern escape m =>
    obtain ⟨text, text', text'', bool⟩ := operands
    rw [Expr.mapRef, mapRefOption_eq_map]
    refine ⟨(type_mapRef f subject).trans text, (type_mapRef f pattern).trans text', fun e member => ?_, bool⟩
    obtain ⟨e, inside, rfl⟩ := Option.map_eq_some_iff.mp member
    exact (type_mapRef f e).trans (text'' e inside)

/-- Other references keep the mappings within the dialect. -/
theorem TypedIn.mapRef (f : ρ → σ) (typed : e.TypedIn d) : (e.mapRef f).TypedIn d :=
  ⟨typed.1.mapRef f, (mapping_mapRef f e).symm ▸ typed.2⟩

/-- An expression is well-typed whatever its parameters refer to. -/
theorem WellTypedIn.mapRef (f : ρ → σ) (typed : e.WellTypedIn d) : (e.mapRef f).WellTypedIn d :=
  everywhere_mapRef.mpr fun n node => (typed n node).mapRef f

/-- Other references keep the functions within the dialect. -/
theorem Offered.mapRef (f : ρ → σ) (offered : e.Offered d) : (e.mapRef f).Offered d := by
  cases e with
  | function =>
    rw [Expr.mapRef]
    exact offered
  | inList item es negated m =>
    rw [Expr.mapRef, mapRefList_eq_map]
    exact fun empty => offered (List.map_eq_nil_iff.mp empty)
  | _ =>
    rw [Expr.mapRef]
    trivial

/-- An expression is native whatever its parameters refer to. -/
theorem Native.mapRef (f : ρ → σ) (native : e.Native d) : (e.mapRef f).Native d :=
  (native.wellTypedIn.mapRef f).native (everywhere_mapRef.mpr fun n node => (native.offered n node).mapRef f)

end Expr

/-! ## Known values -/

namespace Specialization

variable {d : Dialect} {b : Builder} {S : List Slot}

/-- Elements are sent in the mapping of the item or in their own, both of the dialect. -/
theorem knows_elementMapping {item : Expr String} {m : TypeMapping} (known : d.Knows item.mapping)
    (known' : d.Knows m) : d.Knows (elementMapping item m) := by
  unfold elementMapping
  split
  · exact known
  · exact known'

/-- A condition that is well-typed is a truth value. -/
theorem type_condition {ρ : Type} {e : Expr ρ} (typed : e.Typed) (condition : e.isCondition = true) :
    e.type = .bool := by
  obtain ⟨-, typed⟩ := typed
  cases e with
  | binary op l r m =>
    dsimp only at typed
    split at typed
    · exact typed.2.2
    next other =>
      split at typed
      · exact typed.2
      next sum =>
        rw [Expr.isCondition, Bool.or_eq_true] at condition
        exact absurd condition (not_or.mpr ⟨sum, other⟩)
  | negation e m => exact typed.2
  | nullTest e negated m => exact typed
  | inList item values negated m => exact typed.2
  | inParameter item source negated m => exact typed.2
  | like subject pattern escape m => exact typed.2.2.2
  | _ => cases condition

/-- The same comparison or its negation takes the same operands. -/
theorem typed_binary {op op' : BinaryOp} {l r : Expr String} {x y : Expr Slot} {m : TypeMapping}
    (same : op' = op ∨ op.negated? = some op') (left : x.type = l.type) (right : y.type = r.type)
    (typed : (Expr.binary op l r m).Typed) : (Expr.binary op' x y m).Typed := by
  refine ⟨typed.1, ?_⟩
  have typed := typed.2
  dsimp only at typed ⊢
  rw [left, right]
  rcases same with rfl | turned
  · exact typed
  · cases op <;> cases turned <;> exact typed

/-- The elements of a sequence compare with the item under the mapping that they take. -/
theorem comparable_elements {item : Expr String} {name : String} {t : LogicalType} {m sm : TypeMapping}
    {negated : Bool} (typed : (Expr.inParameter item (.parameter name t sm) negated m).Typed) (typedItem : item.Typed)
    (typedSource : (Expr.parameter name t sm).Typed) :
    item.type.comparableWith (elementMapping item sm).type = true := by
  obtain ⟨-, ⟨ref, element, sm', written, comparable⟩, -⟩ := typed
  cases written
  unfold elementMapping
  split
  · have scalar := (LogicalType.scalar_of_comparableWith comparable).1
    rw [← typedItem.type_eq scalar]
    exact LogicalType.comparableWith_self scalar
  · rw [← typedSource.sequence_eq]
    exact comparable

section Operands

variable {item : Expr String} {x : Expr Slot} {m : TypeMapping} {negated negated' : Bool}

/-- A membership in a list, from its members. -/
theorem wellTypedIn_inList {pairs : List (Expr String × Expr Slot)}
    (typed : (Expr.inList item (pairs.map Prod.fst) negated m).WellTypedIn d)
    (first : x.WellTypedIn d ∧ x.type = item.type)
    (each : ∀ pair ∈ pairs, pair.2.WellTypedIn d ∧ pair.2.type = pair.1.type) :
    (Expr.inList x (pairs.map Prod.snd) negated' m).WellTypedIn d := by
  obtain ⟨⟨⟨scalar, comparable, bool⟩, known⟩, -, -⟩ := Expr.everywhere_inList.mp typed
  refine Expr.everywhere_inList.mpr ⟨⟨⟨scalar, fun y member => ?_, bool⟩, known⟩, first.1, fun y member => ?_⟩
  · obtain ⟨pair, inside, rfl⟩ := List.mem_map.mp member
    rw [first.2, (each pair inside).2]
    exact comparable pair.1 (List.mem_map_of_mem inside)
  · obtain ⟨pair, inside, rfl⟩ := List.mem_map.mp member
    exact (each pair inside).1

/-- A membership in the elements of a sequence, from its item. -/
theorem wellTypedIn_elements {name : String} {t : LogicalType} {sm : TypeMapping} (slots : List Slot)
    (typed : (Expr.inParameter item (.parameter name t sm) negated m).WellTypedIn d)
    (first : x.WellTypedIn d ∧ x.type = item.type) :
    (Expr.inList x (slots.map fun slot => .parameter slot (elementMapping item sm).type (elementMapping item sm))
      negated' m).WellTypedIn d := by
  obtain ⟨here, item', source⟩ := Expr.everywhere_inParameter.mp typed
  have compares := comparable_elements here.1 item'.here.1 source.here.1
  have known : d.Knows (elementMapping item sm) := knows_elementMapping item'.here.2 source.here.2
  refine Expr.everywhere_inList.mpr ⟨⟨⟨here.1.1, fun y member => ?_, here.1.2.2⟩, here.2⟩, first.1, fun y member => ?_⟩
  · obtain ⟨slot, -, rfl⟩ := List.mem_map.mp member
    rw [first.2]
    exact compares
  · obtain ⟨slot, -, rfl⟩ := List.mem_map.mp member
    exact Expr.everywhere_parameter.mpr ⟨⟨known.scalar, .inl rfl⟩, known⟩

/-- A pattern match, from its operands. -/
theorem wellTypedIn_like {subject pattern : Expr String} {y : Expr Slot} {escape : Option (Expr String × Expr Slot)}
    (typed : (Expr.like subject pattern (escape.map Prod.fst) m).WellTypedIn d)
    (first : x.WellTypedIn d ∧ x.type = subject.type) (second : y.WellTypedIn d ∧ y.type = pattern.type)
    (third : ∀ pair ∈ escape, pair.2.WellTypedIn d ∧ pair.2.type = pair.1.type) :
    (Expr.like x y (escape.map Prod.snd) m).WellTypedIn d := by
  obtain ⟨⟨⟨scalar, text, text', texts, bool⟩, known⟩, -, -, -⟩ := Expr.everywhere_like.mp typed
  have clause : ∀ z ∈ escape.map Prod.snd, z.WellTypedIn d ∧ z.type = .text := by
    intro z member
    obtain ⟨pair, present, rfl⟩ := Option.map_eq_some_iff.mp member
    obtain ⟨typed', same⟩ := third pair present
    exact ⟨typed', same.trans (texts pair.1 (Option.mem_map_of_mem Prod.fst present))⟩
  refine Expr.everywhere_like.mpr ⟨⟨⟨scalar, first.2.trans text, second.2.trans text', ?_, bool⟩, known⟩, first.1,
    second.1, ?_⟩
  · exact fun z member => (clause z member).2
  · exact fun z member => (clause z member).1

end Operands

/-- What comes out of a well-typed expression is well-typed and has its type. -/
theorem Outcome.wellTypedIn (serves : b.Serves d) {e : Expr String} {x : Expr Slot} (found : Outcome b S e x)
    (typed : e.WellTypedIn d) : x.WellTypedIn d ∧ x.type = e.type := by
  have bool : b.boolMapping.type = .bool := serves.coherent.bool
  have truth (value : Bool) : (b.truth value : Expr Slot).TypedIn d := (serves.truth value).wellTypedIn.here
  have tested (e : Expr Slot) (negated : Bool) : (Expr.nullTest e negated b.boolMapping).TypedIn d :=
    ⟨⟨serves.coherent.scalar, bool⟩, serves.bool⟩
  induction found with
  | constant value m => exact ⟨Expr.everywhere_constant.mpr typed.here, rfl⟩
  | column table name m nullable => exact ⟨Expr.everywhere_column.mpr typed.here, rfl⟩
  | parameter scalar stands =>
    obtain ⟨here, known⟩ := typed.here
    exact ⟨Expr.everywhere_parameter.mpr ⟨⟨here.1, .inl rfl⟩, known⟩, (here.type_eq scalar).symm⟩
  | converted stands =>
    obtain ⟨here, known⟩ := typed.here
    exact ⟨Expr.everywhere_parameter.mpr ⟨⟨here.1, .inl rfl⟩, known⟩, rfl⟩
  | function pairs _ each =>
    obtain ⟨here, operands⟩ := Expr.everywhere_function.mp typed
    refine ⟨Expr.everywhere_function.mpr ⟨here, fun y member => ?_⟩, rfl⟩
    obtain ⟨pair, inside, rfl⟩ := List.mem_map.mp member
    exact (each pair inside (operands pair.1 (List.mem_map_of_mem inside))).1
  | convert _ below =>
    obtain ⟨here, operand⟩ := Expr.everywhere_convert.mp typed
    exact ⟨Expr.everywhere_convert.mpr ⟨here, (below operand).1⟩, rfl⟩
  | binary same _ _ first second =>
    obtain ⟨here, left, right⟩ := Expr.everywhere_binary.mp typed
    obtain ⟨left, left'⟩ := first left
    obtain ⟨right, right'⟩ := second right
    exact ⟨Expr.everywhere_binary.mpr ⟨⟨typed_binary same left' right' here.1, here.2⟩, left, right⟩, rfl⟩
  | nullTest _ below =>
    obtain ⟨here, operand⟩ := Expr.everywhere_nullTest.mp typed
    exact ⟨Expr.everywhere_nullTest.mpr ⟨here, (below operand).1⟩, rfl⟩
  | inList pairs _ _ below each =>
    obtain ⟨-, item, values⟩ := Expr.everywhere_inList.mp typed
    refine ⟨wellTypedIn_inList typed (below item) fun pair inside => ?_, rfl⟩
    exact each pair inside (values pair.1 (List.mem_map_of_mem inside))
  | elements _ each some below =>
    obtain ⟨-, item, -⟩ := Expr.everywhere_inParameter.mp typed
    exact ⟨wellTypedIn_elements _ typed (below item), rfl⟩
  | inParameter other _ _ first second =>
    obtain ⟨-, ⟨ref, element, m, rfl, -⟩, -⟩ := typed.here.1
    cases other
  | like escape _ _ _ first second third =>
    obtain ⟨-, subject, pattern, clause⟩ := Expr.everywhere_like.mp typed
    refine ⟨wellTypedIn_like typed (first subject) (second pattern) fun pair present => ?_, rfl⟩
    exact third pair present (clause pair.1 (Option.mem_map_of_mem Prod.fst present))
  | operand _ below =>
    obtain ⟨⟨⟨-, bool', bool''⟩, -⟩, operand⟩ := Expr.everywhere_negation.mp typed
    obtain ⟨operand, same⟩ := below operand
    exact ⟨operand, (same.trans bool').trans bool''.symm⟩
  | kept _ below =>
    obtain ⟨⟨⟨scalar, bool', bool''⟩, known⟩, operand⟩ := Expr.everywhere_negation.mp typed
    obtain ⟨operand, same⟩ := below operand
    exact ⟨Expr.everywhere_negation.mpr ⟨⟨⟨scalar, same.trans bool', bool''⟩, known⟩, operand⟩, rfl⟩
  | truth value condition =>
    exact ⟨Expr.everywhere_constant.mpr (truth value), bool.trans (type_condition typed.here.1 condition).symm⟩
  | left logical _ below =>
    obtain ⟨here, operand, -⟩ := Expr.everywhere_binary.mp typed
    obtain ⟨left, -, bool'⟩ := here.1.of_connective logical
    obtain ⟨operand, same⟩ := below operand
    exact ⟨operand, (same.trans left).trans bool'.symm⟩
  | right logical _ below =>
    obtain ⟨here, -, operand⟩ := Expr.everywhere_binary.mp typed
    obtain ⟨-, right, bool'⟩ := here.1.of_connective logical
    obtain ⟨operand, same⟩ := below operand
    exact ⟨operand, (same.trans right).trans bool'.symm⟩
  | operandNull condition operand _ below =>
    have operand := (below (Expr.Everywhere.operands typed operand)).1
    exact ⟨Expr.everywhere_nullTest.mpr ⟨tested _ _, operand⟩,
      bool.trans (type_condition typed.here.1 condition).symm⟩
  | nullTested _ below =>
    obtain ⟨here, operand⟩ := Expr.everywhere_nullTest.mp typed
    exact ⟨Expr.everywhere_nullTest.mpr ⟨tested _ _, (below operand).1⟩, bool.trans here.1.2.symm⟩
  | logical logical _ _ made first second =>
    obtain ⟨left, same⟩ := first typed
    obtain ⟨bool', -, written⟩ := Builder.logical_eq_ok made
    refine ⟨Builder.everywhere_logical made (fun left' right' => ⟨⟨serves.coherent.scalar, ?_⟩, serves.bool⟩) left
      (second typed).1, ?_⟩
    · dsimp only
      rw [if_pos logical]
      exact ⟨left', right', bool⟩
    · rw [← same, bool', written]
      exact bool
  | not _ made below =>
    obtain ⟨operand, same⟩ := below typed
    have typed' := Builder.everywhere_not made truth
      (fun bool' => ⟨⟨serves.coherent.scalar, bool', bool⟩, serves.bool⟩) tested operand
    obtain ⟨bool', made⟩ := Builder.not_eq_ok made
    refine ⟨typed', ?_⟩
    rw [← same, bool']
    rcases made with ⟨value, m, -, rfl⟩ | ⟨m, rfl⟩ | ⟨inner, negated, m, rfl, rfl⟩ | rfl
    · exact bool
    · exact operand.here.1.2.1
    · exact bool
    · exact bool

/-- What comes out calls no other functions, and each list has members. -/
theorem Outcome.offered {e : Expr String} {x : Expr Slot} (found : Outcome b S e x)
    (offered : e.Everywhere (Expr.Offered d)) : x.Everywhere (Expr.Offered d) := by
  have carries : Carries b S (Expr.Offered d) (Expr.Offered d) := by
    constructor
    case function => exact id
    case inList =>
      intro item x pairs negated negated' m some none
      exact some (List.map_eq_nil_iff.mpr (List.map_eq_nil_iff.mp none))
    case elements => exact id
    case other =>
      intro x other
      cases x with
      | function | inList => cases other
      | _ => trivial
    all_goals
      intros
      trivial
  exact found.everywhere carries offered

/-- What comes out of a native expression is native and has its type. -/
theorem Outcome.native (serves : b.Serves d) {e : Expr String} {x : Expr Slot} (found : Outcome b S e x)
    (native : e.Native d) : x.Native d ∧ x.type = e.type := by
  obtain ⟨typed, same⟩ := found.wellTypedIn serves native.wellTypedIn
  exact ⟨typed.native (found.offered native.offered), same⟩

end Specialization

end SqlShape
