import SqlShape.Bindings
import SqlShape.Placeholder
import SqlShape.Proofs.Conversion
import SqlShape.Proofs.Nodes

/-!
# What expressions mean in a database

An expression has a value in a row, given values for its parameters. Conditions have three truth values; unknown
is the null of truth values. A database is a parameter of the evaluation: it supplies functions, casts, arithmetic,
an order of values and pattern matching, and `Database` says what is asked of them. The connectives, the null
tests and membership are fixed here.

The same evaluation serves a statement before and after it is specialized. Before, a parameter is its bound value
in the type of the leaf (`Context.ofBindings`); afterwards, a placeholder is the value that is sent for it
(`Context.ofBound`).
-/

namespace SqlShape

/-! ## Three truth values -/

namespace Value

/-- The truth value of a value in a condition; `none` is unknown. -/
def truth? : Value → Option Bool
  | null => none
  | v => some (decide (v = bool true))

/-- A truth value as a value. -/
def ofTruth : Option Bool → Value
  | none => null
  | some b => bool b

/-- The items of a list; no other value has any. -/
def items : Value → List Value
  | list vs => vs
  | _ => []

/-- A truth value survives being stored. -/
@[simp]
theorem truth?_ofTruth (t : Option Bool) : (ofTruth t).truth? = t := by
  cases t with
  | none => rfl
  | some b => cases b <;> rfl

/-- A truth value is the value of its truth. -/
theorem ofTruth_truth? {v : Value} (typed : v.HasType .bool) : ofTruth v.truth? = v := by
  rcases hasType_bool_iff.mp typed with rfl | ⟨b, rfl⟩
  · rfl
  · cases b <;> rfl

/-- A stored truth value is null or of the type of truth values. -/
theorem hasType_ofTruth (t : Option Bool) : (ofTruth t).HasType .bool := by
  cases t with
  | none => exact .inl rfl
  | some b => exact .inr rfl

theorem isNull_iff {v : Value} : v.isNull = true ↔ v = .null := by
  cases v with
  | null => exact iff_of_true rfl rfl
  | _ => exact iff_of_false Bool.false_ne_true (fun null => by cases null)

end Value

namespace Truth

/-- Both. -/
def conj : Option Bool → Option Bool → Option Bool
  | some false, _ | _, some false => some false
  | some true, some true => some true
  | _, _ => none

/-- Either. -/
def disj : Option Bool → Option Bool → Option Bool
  | some true, _ | _, some true => some true
  | some false, some false => some false
  | _, _ => none

/-- The opposite; unknown stays unknown. -/
def neg (t : Option Bool) : Option Bool :=
  t.map not

/-- The opposite where it is asked for. -/
def signed (negated : Bool) (t : Option Bool) : Option Bool :=
  if negated then neg t else t

theorem neg_neg (t : Option Bool) : neg (neg t) = t := by
  rcases t with _ | _ | _ <;> rfl

/-- De Morgan's law for three truth values. -/
theorem neg_conj (s t : Option Bool) : neg (conj s t) = disj (neg s) (neg t) := by
  rcases s with _ | _ | _ <;> rcases t with _ | _ | _ <;> rfl

/-- De Morgan's law for three truth values, the other way round. -/
theorem neg_disj (s t : Option Bool) : neg (disj s t) = conj (neg s) (neg t) := by
  rcases s with _ | _ | _ <;> rcases t with _ | _ | _ <;> rfl

/-- The opposite sign negates. -/
theorem signed_not (negated : Bool) (t : Option Bool) : signed (!negated) t = neg (signed negated t) := by
  cases negated with
  | false => rfl
  | true => exact (neg_neg t).symm

end Truth

/-! ## Databases -/

/-- A null or a value of a type. -/
abbrev Cell (t : LogicalType) :=
  { v : Value // v.HasType t }

/-- What a database supplies. A call yields the type of its mapping and, unless it is marked as nullable, is null
only where an argument is. A cast is null exactly where its operand is, and agrees with the conversion of values
where that has an image. Arithmetic is null only where an operand is. -/
structure Database where
  call (name : String) (nullable : Bool) (arguments : List Value) (mapping : TypeMapping) : Cell mapping.type
  cast (v : Value) (mapping : TypeMapping) : Cell mapping.type
  arithmetic (op : BinaryOp) (left right : Value) (mapping : TypeMapping) : Cell mapping.type
  compare (left right : Value) : Ordering
  isLike (subject pattern : Value) (escape : Option Value) : Bool
  call_null {name : String} {arguments : List Value} {mapping : TypeMapping} :
    (call name false arguments mapping).1 = .null → .null ∈ arguments
  cast_null {v : Value} {mapping : TypeMapping} : (cast v mapping).1 = .null ↔ v = .null
  cast_image {v w : Value} {mapping : TypeMapping} : v.convertTo? mapping.type = some w → (cast v mapping).1 = w
  arithmetic_null {op : BinaryOp} {left right : Value} {mapping : TypeMapping} :
    (arithmetic op left right mapping).1 = .null → left = .null ∨ right = .null

/-- Comparing with a value is comparing with its image in the type of the other side. A database that compares integers
with doubles exactly does so only where no two integers have one double for their image. -/
def Database.ComparesImages (d : Database) : Prop :=
  ∀ {x y image : Value} {t : LogicalType}, x.type? = some t → y.convertTo? t = some image →
    d.compare x image = d.compare x y

/-- A comparison holds of two values in a given order. -/
def BinaryOp.holds : BinaryOp → Ordering → Bool
  | equal, o => o.isEq
  | notEqual, o => o.isNe
  | greater, o => o.isGT
  | greaterEqual, o => o.isGE
  | less, o => o.isLT
  | lessEqual, o => o.isLE
  | _, _ => false

/-- The opposite of a comparison holds where it does not. -/
theorem BinaryOp.holds_negated? {op opposite : BinaryOp} (found : op.negated? = some opposite) (o : Ordering) :
    opposite.holds o = !op.holds o := by
  cases op <;> cases found <;> cases o <;> rfl

namespace Database

variable (d : Database)

/-- A comparison, unknown where an operand is null. -/
def comparison (op : BinaryOp) (x y : Value) : Option Bool :=
  if x.isNull || y.isNull then none else some (op.holds (d.compare x y))

/-- The value of a binary operation. -/
def binary (op : BinaryOp) (x y : Value) (mapping : TypeMapping) : Value :=
  match op with
  | .and => .ofTruth (Truth.conj x.truth? y.truth?)
  | .or => .ofTruth (Truth.disj x.truth? y.truth?)
  | .add | .subtract => (d.arithmetic op x y mapping).1
  | _ => .ofTruth (d.comparison op x y)

/-- Membership: equality with one of the elements. Nothing is among no elements. -/
def membership (item : Value) (elements : List Value) : Option Bool :=
  elements.foldr (fun v found => Truth.disj (d.comparison .equal item v) found) (some false)

/-- A pattern match, unknown where an operand is null. -/
def like (subject pattern : Value) (escape : Option Value) : Option Bool :=
  if subject.isNull || pattern.isNull || escape.any Value.isNull then none
  else some (d.isLike subject pattern escape)

end Database

/-! ## Expressions -/

/-- A row: the values of the columns of its tables, by the type in which they are read. -/
abbrev Row :=
  String → String → (t : LogicalType) → Cell t

/-- What an expression is evaluated in. -/
structure Context (ρ : Type) where
  database : Database
  row : Row
  parameter : ρ → LogicalType → Value

namespace Expr

variable {ρ σ : Type}

/-- The elements of a parameter that holds a sequence. Nothing else holds any. -/
def elements (c : Context ρ) : Expr ρ → List Value
  | parameter ref (.sequence element) _ => (c.parameter ref (.sequence element)).items
  | _ => []

mutual
/-- The value of an expression. -/
def eval (c : Context ρ) : Expr ρ → Value
  | constant v _ => v
  | parameter ref t _ => c.parameter ref t
  | column table name m _ => (c.row table name m.type).1
  | function name arguments m nullable => (c.database.call name nullable (evalAll c arguments) m).1
  | binary op left right m => c.database.binary op (left.eval c) (right.eval c) m
  | negation operand _ => .ofTruth (Truth.neg (operand.eval c).truth?)
  | nullTest operand negated _ => .bool ((operand.eval c).isNull != negated)
  | convert operand m => (c.database.cast (operand.eval c) m).1
  | inList item values negated _ =>
    .ofTruth (Truth.signed negated (c.database.membership (item.eval c) (evalAll c values)))
  | inParameter item source negated _ =>
    .ofTruth (Truth.signed negated (c.database.membership (item.eval c) (source.elements c)))
  | like subject pattern escape _ =>
    .ofTruth (c.database.like (subject.eval c) (pattern.eval c) (evalOption c escape))
/-- The values of expressions in a row. -/
def evalAll (c : Context ρ) : List (Expr ρ) → List Value
  | [] => []
  | e :: es => e.eval c :: evalAll c es
/-- The value of an expression that may be absent. -/
def evalOption (c : Context ρ) : Option (Expr ρ) → Option Value
  | none => none
  | some e => some (e.eval c)
end

/-- The mutual recursion over operands is a map. -/
theorem evalAll_eq_map (c : Context ρ) (es : List (Expr ρ)) : evalAll c es = es.map (eval c) := by
  induction es with
  | nil => rfl
  | cons e es rest => rw [evalAll, rest, List.map_cons]

theorem evalOption_eq_map (c : Context ρ) (o : Option (Expr ρ)) : evalOption c o = o.map (eval c) := by
  cases o with
  | none => rfl
  | some e => rfl

/-- Renaming operands in a row is a map. -/
theorem mapRefList_eq_map (f : ρ → σ) (es : List (Expr ρ)) : mapRefList f es = es.map (mapRef f) := by
  induction es with
  | nil => rfl
  | cons e es rest => rw [mapRefList, rest, List.map_cons]

theorem mapRefOption_eq_map (f : ρ → σ) (o : Option (Expr ρ)) : mapRefOption f o = o.map (mapRef f) := by
  cases o with
  | none => rfl
  | some e => rfl

/-- With other references an expression has the same value, if these stand for the same values. -/
theorem eval_mapRef {d : Database} {row : Row} {f : ρ → σ} {before : ρ → LogicalType → Value}
    {after : σ → LogicalType → Value} (e : Expr ρ) (same : ∀ r ∈ e.refs, ∀ t, after (f r) t = before r t) :
    (e.mapRef f).eval ⟨d, row, after⟩ = e.eval ⟨d, row, before⟩ := by
  induction e with
  | constant v m => rfl
  | parameter ref t m => exact same ref List.mem_cons_self t
  | column table name m nullable => rfl
  | function name es m nullable each =>
    rw [refs_function] at same
    have values : es.map (fun e => (e.mapRef f).eval ⟨d, row, after⟩) = es.map (eval ⟨d, row, before⟩) :=
      List.map_congr_left fun e member =>
        each e member fun r inside => same r (List.mem_flatMap.mpr ⟨e, member, inside⟩)
    rw [mapRef, eval, eval, evalAll_eq_map, evalAll_eq_map, mapRefList_eq_map, List.map_map]
    exact congrArg (fun values => (d.call name nullable values m).1) values
  | binary op l r m left right =>
    rw [refs_binary] at same
    rw [mapRef, eval, eval, left fun r inside => same r (List.mem_append_left _ inside),
      right fun r inside => same r (List.mem_append_right _ inside)]
  | negation e m below => rw [mapRef, eval, eval, below (refs_negation e m ▸ same)]
  | nullTest e negated m below => rw [mapRef, eval, eval, below (refs_nullTest e m negated ▸ same)]
  | convert e m below => rw [mapRef, eval, eval, below (refs_convert e m ▸ same)]
  | inList item es negated m below each =>
    rw [refs_inList] at same
    have values : es.map (fun e => (e.mapRef f).eval ⟨d, row, after⟩) = es.map (eval ⟨d, row, before⟩) :=
      List.map_congr_left fun e member => each e member fun r inside =>
        same r (List.mem_append_right _ (List.mem_flatMap.mpr ⟨e, member, inside⟩))
    rw [mapRef, eval, eval, evalAll_eq_map, evalAll_eq_map, mapRefList_eq_map, List.map_map,
      below fun r inside => same r (List.mem_append_left _ inside)]
    exact congrArg (fun values => Value.ofTruth (Truth.signed negated (d.membership _ values))) values
  | inParameter item source negated m first =>
    rw [refs_inParameter] at same
    have listed : (source.mapRef f).elements ⟨d, row, after⟩ = source.elements ⟨d, row, before⟩ := by
      cases source with
      | parameter ref t m =>
        cases t with
        | sequence element =>
          exact congrArg Value.items (same ref (List.mem_append_right _ List.mem_cons_self) (.sequence element))
        | _ => rfl
      | _ => rfl
    rw [mapRef, eval, eval, listed, first fun r inside => same r (List.mem_append_left _ inside)]
  | like s p o m first second each =>
    rw [refs_like] at same
    have escape : (o.map (mapRef f)).map (eval ⟨d, row, after⟩) = o.map (eval ⟨d, row, before⟩) := by
      cases o with
      | none => rfl
      | some e =>
        refine congrArg some (each e rfl fun r inside => same r (List.mem_append_right _ ?_))
        exact List.mem_flatMap.mpr ⟨e, List.mem_cons_self, inside⟩
    rw [mapRef, eval, eval, evalOption_eq_map, evalOption_eq_map, mapRefOption_eq_map, escape,
      first fun r inside => same r (List.mem_append_left _ (List.mem_append_left _ inside)),
      second fun r inside => same r (List.mem_append_left _ (List.mem_append_right _ inside))]

end Expr

/-! ## Statements -/

/-- The values of the parts of a statement in a row. A statement without a predicate takes every row. -/
structure SelectValues where
  projections : List (String × Value)
  predicate : Value
  orderings : List (Value × Bool)
  limit : Option Value

/-- The values of the parts of a statement. -/
def Select.eval {ρ : Type} (c : Context ρ) (s : Select ρ) : SelectValues where
  projections := s.projections.map fun p => (p.label, p.expr.eval c)
  predicate := (s.predicate.map (Expr.eval c)).getD (.bool true)
  orderings := s.orderings.map fun o => (o.expr.eval c, o.ascending)
  limit := s.limit.map (Expr.eval c)

/-! ## Parameters and placeholders -/

namespace Bindings

/-- The value of a parameter; null without one. -/
def valueOf (v : Bindings) (name : String) : Value :=
  (v.get? name).getD .null

/-- The elements of a parameter that holds a sequence; null holds none. -/
def elementsOf (v : Bindings) (name : String) : List Value :=
  (v.valueOf name).items

end Bindings

namespace Context

/-- Before a statement is specialized: a parameter is its value in the type of the leaf, a sequence element by
element. -/
def ofBindings (d : Database) (row : Row) (v : Bindings) : Context String where
  database := d
  row := row
  parameter name t :=
    match t with
    | .sequence element => .list ((v.elementsOf name).map (Value.convertedTo · element))
    | scalar => (v.valueOf name).convertedTo scalar

/-- When a command runs: a placeholder is the value that is sent under its name. -/
def ofBound (d : Database) (row : Row) (bound : List BoundParameter) : Context String where
  database := d
  row := row
  parameter name _ := ((bound.find? (·.name = name)).map BoundParameter.value).getD .null

end Context

namespace Row

/-- A column that is declared to hold no null holds none. -/
def Keeps (row : Row) : Expr String → Prop
  | .column table name m false => (row table name m.type).1 ≠ .null
  | _ => True

instance (row : Row) : DecidablePred row.Keeps
  | .column table name m false => inferInstanceAs (Decidable ((row table name m.type).1 ≠ .null))
  | .column _ _ _ true | .constant .. | .parameter .. | .function .. | .binary .. | .negation .. | .nullTest ..
  | .convert .. | .inList .. | .inParameter .. | .like .. => inferInstanceAs (Decidable True)

/-- All columns of an expression that are declared to hold no null hold none. -/
def Respects (row : Row) (e : Expr String) : Prop :=
  e.Everywhere row.Keeps

instance (row : Row) (e : Expr String) : Decidable (row.Respects e) :=
  inferInstanceAs (Decidable (e.Everywhere row.Keeps))

end Row

/-! ## A small database

What is asked of a database can be met. -/

/-- A value of a type. -/
def Value.ofType : LogicalType → Value
  | .bool => bool false
  | .byte => byte 0
  | .int32 => int 0
  | .int64 => long 0
  | .double => double (Double.ofInt 0)
  | .text => text ""
  | .bytes => bytes []
  | .sequence element => list [ofType element]

/-- The chosen value of a type has that type. -/
theorem Value.type?_ofType (t : LogicalType) : (Value.ofType t).type? = some t := by
  induction t with
  | sequence element below => rw [ofType, type?, firstType?, below, Option.map_some]
  | _ => rfl

namespace Cell

/-- Null where a condition asks for it, else a value of the type. -/
def nullIf (t : LogicalType) (null : Prop) [Decidable null] : Cell t :=
  if null then ⟨.null, .inl rfl⟩ else ⟨.ofType t, .inr (Value.type?_ofType t)⟩

/-- Null is chosen exactly under the condition. -/
theorem nullIf_eq_null {t : LogicalType} {null : Prop} [Decidable null] : (nullIf t null).1 = .null ↔ null := by
  unfold nullIf
  split
  next holds => exact iff_of_true rfl holds
  next fails =>
    refine iff_of_false (fun absent : Value.ofType t = .null => ?_) fails
    have shown := Value.type?_ofType t
    rw [absent] at shown
    cases shown

end Cell

namespace Database

/-- Integers in their order; of other values only that they are the same. -/
def order : Value → Value → Ordering
  | .int i, .int j => compareOfLessAndEq i.toInt j.toInt
  | x, y => if x = y then .eq else .lt

/-- A small database: what it computes is null where an operand is, and else one value of each type. A cast
converts where it can, a comparison takes the right side in the type of the left, and a pattern matches itself. -/
def small : Database where
  call _ _ arguments mapping := Cell.nullIf mapping.type (.null ∈ arguments)
  cast v mapping :=
    match image : v.convertTo? mapping.type with
    | some w => ⟨w, Value.hasType_of_convertTo? image⟩
    | none => Cell.nullIf mapping.type False
  arithmetic _ left right mapping := Cell.nullIf mapping.type (left = .null ∨ right = .null)
  compare x y := order x ((x.type?.bind y.convertTo?).getD y)
  isLike subject pattern _ := decide (subject = pattern)
  call_null absent := Cell.nullIf_eq_null.mp absent
  cast_null := by
    intro v mapping
    split
    next w image => rw [← Value.isNull_iff, ← Value.isNull_iff, Value.isNull_of_convertTo? image]
    next image =>
      refine Cell.nullIf_eq_null.trans (iff_of_false id ?_)
      rintro rfl
      cases image
  cast_image := by
    intro v w mapping image
    split
    next w' image' => exact Option.some.inj (image'.symm.trans image)
    next image' =>
      rw [image'] at image
      cases image
  arithmetic_null absent := Cell.nullIf_eq_null.mp absent

/-- The small database compares with images: it takes them itself. -/
theorem small_comparesImages : small.ComparesImages := by
  intro x y image t typed found
  have own : image.convertTo? t = some image := (Value.convertTo?_convertTo? found (.refl t)).trans found
  simp only [small, typed, Option.bind_some, found, own, Option.getD_some]

end Database

end SqlShape
