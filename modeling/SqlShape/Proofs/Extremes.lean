import SqlShape.Proofs.Rounding
import SqlShape.Proofs.Searches

/-!
# Extrema of integer constants

The greater or the lesser of two constants is chosen when a call is lowered, of other operands when the statement runs.
The choice between constants is made on the doubles nearest to them, and of two integers that have one double the first
is taken (`Extremum.chosen`). Below `2 ^ 53` this is the extremum; above, neighbours are confused, and then the chosen
integer depends on the order of the operands.
-/

namespace SqlShape

/-- An integer as a value. -/
inductive Integer where
  | byte (b : UInt8)
  | int (i : Int32)
  | long (i : Int64)
deriving DecidableEq, Repr

namespace Integer

def value : Integer → Value
  | byte b => .byte b
  | int i => .int i
  | long i => .long i

def type : Integer → LogicalType
  | byte _ => .byte
  | int _ => .int32
  | long _ => .int64

def number : Integer → Int
  | byte b => b.toNat
  | int i => i.toInt
  | long i => i.toInt

/-- A constant, in a store type of its own. -/
def constant (store : String) (i : Integer) : Expr String :=
  .constant i.value ⟨store, i.type⟩

theorem toDouble?_value (i : Integer) : i.value.toDouble? = some (Double.ofInt i.number) := by
  cases i <;> rfl

theorem isNumeric_constant (store : String) (i : Integer) : (i.constant store).type.isNumeric = true := by
  cases i <;> rfl

/-- A wider type has the same number. -/
theorem exists_image (i j : Integer) (widens : i.type.widensTo j.type = true) :
    ∃ k : Integer, i.value.convertTo? j.type = some k.value ∧ k.type = j.type ∧ k.number = i.number := by
  cases i with
  | byte b =>
    cases j with
    | byte => exact ⟨byte b, rfl, rfl, rfl⟩
    | int => exact ⟨int (Int32.ofInt b.toNat), rfl, rfl, Value.toInt_ofByte b⟩
    | long => exact ⟨long (Int64.ofInt b.toNat), rfl, rfl, Value.toInt_longOfByte b⟩
  | int i =>
    cases j with
    | byte => cases widens
    | int => exact ⟨int i, rfl, rfl, rfl⟩
    | long => exact ⟨long (Int64.ofInt i.toInt), rfl, rfl, Value.toInt_longOfInt i⟩
  | long i =>
    cases j with
    | byte | int => cases widens
    | long => exact ⟨long i, rfl, rfl, rfl⟩

/-- Of two types of integers one widens to the other. -/
theorem widensTo_total (i j : Integer) : i.type.widensTo j.type = true ∨ j.type.widensTo i.type = true := by
  rw [← Bool.or_eq_true]
  cases i <;> cases j <;> rfl

/-- The types of two integers widen to the wider of them. -/
theorem exists_wider (i j : Integer) : ∃ w : Integer, w.type = i.type.wider j.type ∧
    i.type.widensTo w.type = true ∧ j.type.widensTo w.type = true := by
  have self (i : Integer) : i.type.widensTo i.type = true := by
    cases i <;> rfl
  by_cases back : j.type.widensTo i.type = true
  · exact ⟨i, (if_pos back).symm, self i, back⟩
  · exact ⟨j, (if_neg back).symm, (widensTo_total i j).resolve_right back, self j⟩

theorem constantOf_value {d : Dialect} {l : Lowering} (made : d.lowering = .ok l) (i : Integer) :
    l.builder.constantOf i.value i.type = .ok (.constant i.value (d.stored i.type) : Expr String) := by
  cases i <;> cases d <;> cases made <;> rfl

end Integer

/-- The greater and the lesser of two numbers. -/
inductive Extremum where
  | greatest
  | least
deriving DecidableEq, Repr

namespace Extremum

/-- The extremum of two integers. -/
def of : Extremum → Int → Int → Int
  | greatest => max
  | least => min

/-- The integer that is chosen of two constants. -/
def chosen (extremum : Extremum) (x y : Int) : Int :=
  if Double.ofInt x = Double.ofInt y then x else extremum.of x y

/-- A call for an extremum. -/
def call (extremum : Extremum) (receiver : Option (Expr String)) (arity : UInt8) (left right : Expr String) :
    MethodCall :=
  ⟨receiver, ⟨.math, if extremum = greatest then "Max" else "Min", arity⟩, [left, right]⟩

/-- The function that is called for an extremum. -/
def function (d : Dialect) (extremum : Extremum) : String :=
  if extremum = greatest then d.functions.greatest else d.functions.least

/-! ## The choice -/

section Choice

variable {extremum : Extremum} {x y : Int}

theorem of_comm (extremum : Extremum) (x y : Int) : extremum.of x y = extremum.of y x := by
  cases extremum with
  | greatest => exact max_comm x y
  | least => exact min_comm x y

theorem of_self (extremum : Extremum) (x : Int) : extremum.of x x = x := by
  cases extremum with
  | greatest => exact max_self x
  | least => exact min_self x

/-- The choice is an extremum, but of two different integers with one double the first. -/
theorem chosen_eq_of_iff : extremum.chosen x y = extremum.of x y ↔
    (Double.ofInt x = Double.ofInt y → extremum.of x y = x) := by
  unfold chosen
  split
  next same => exact ⟨fun first _ => first.symm, fun first => (first same).symm⟩
  next apart => exact iff_of_true rfl fun same => absurd same apart

/-- The choice depends on the order exactly where two integers are confused. -/
theorem chosen_comm_iff : extremum.chosen x y = extremum.chosen y x ↔ (Double.ofInt x = Double.ofInt y → x = y) := by
  unfold chosen
  by_cases same : Double.ofInt x = Double.ofInt y
  · rw [if_pos same, if_pos same.symm]
    exact ⟨fun equal _ => equal, fun equal => equal same⟩
  · rw [if_neg same, if_neg (Ne.symm same)]
    exact iff_of_true (of_comm extremum x y) fun equal => absurd equal same

/-- Below `2 ^ 53` nothing is confused. -/
theorem chosen_of_small (small : x.natAbs < 2 ^ 53 ∨ y.natAbs < 2 ^ 53) : extremum.chosen x y = extremum.of x y := by
  apply chosen_eq_of_iff.mpr
  intro same
  obtain rfl := Double.eq_of_ofInt_eq small same
  exact of_self extremum x

/-- The comparison of doubles that is made. -/
def picksFirst (extremum : Extremum) (x y : Double) : Bool :=
  if extremum = greatest then y.le x else x.le y

/-- By the comparison of doubles the chosen integer is picked. -/
theorem picksFirst_ofInt (extremum : Extremum) (x y : Int) :
    (if extremum.picksFirst (Double.ofInt x) (Double.ofInt y) then x else y) = extremum.chosen x y := by
  unfold chosen picksFirst
  rw [Double.le_ofInt, Double.le_ofInt]
  by_cases same : Double.ofInt x = Double.ofInt y
  · simp only [same, le_refl, decide_true, ite_self, if_true]
  · rw [if_neg same]
    cases extremum with
    | greatest =>
      simp only [if_true, decide_eq_true_eq, Double.rank_ofInt_le_iff (Ne.symm same)]
      change _ = max x y
      split
      next le => exact (max_eq_left le).symm
      next gt => exact (max_eq_right (not_le.mp gt).le).symm
    | least =>
      simp only [reduceCtorEq, if_false, decide_eq_true_eq, Double.rank_ofInt_le_iff same]
      change _ = min x y
      split
      next le => exact (min_eq_left le).symm
      next gt => exact (min_eq_right (not_le.mp gt).le).symm

end Choice

/-! ## Lowered calls -/

section Calls

variable {d : Dialect} {l : Lowering} {extremum : Extremum} {left right : Expr String}

/-- A call on numbers is lowered to their extremum. -/
theorem apply_numbers (b : Builder) (receiver : Option (Expr String)) (arity : UInt8)
    (numeric : left.type.isNumeric = true) (numeric' : right.type.isNumeric = true) {e : Expr String}
    (lowered : MethodRule.numberExtremum d b (extremum = greatest) left right = .ok e) :
    (MethodRule.numbers d).apply b (extremum.call receiver arity left right) = .ok (some e) := by
  have ruled : MethodRule.lowerNumber d b (extremum.call receiver arity left right) left = .ok (some e) := by
    cases extremum with
    | greatest | least =>
      refine bind_eq_ok.mpr ⟨(left, right), rfl, ?_⟩
      simp only [numeric', Bool.not_true, Bool.false_eq_true, if_false]
      exact bind_eq_ok.mpr ⟨e, lowered, rfl⟩
  exact (if_pos numeric).trans ruled

/-- Of two integer constants one is chosen, in the wider type. -/
theorem numberExtremum_constants (made : d.lowering = .ok l) (extremum : Extremum) (i j : Integer)
    (store store' : String) : ∃ k : Integer,
      MethodRule.numberExtremum d l.builder (extremum = greatest) (i.constant store) (j.constant store') =
        .ok (.constant k.value (d.stored k.type)) ∧
      k.type = i.type.wider j.type ∧ k.number = extremum.chosen i.number j.number := by
  obtain ⟨w, wide, widens, widens'⟩ := Integer.exists_wider i j
  have compared : MethodRule.extremumConstant? (extremum = greatest) i.value j.value w.type =
      (if extremum.picksFirst (Double.ofInt i.number) (Double.ofInt j.number) then i.value else j.value).convertTo?
        w.type := by
    unfold MethodRule.extremumConstant? picksFirst
    simp only [Integer.toDouble?_value, decide_eq_true_eq]
  obtain ⟨k, computed, type, number⟩ : ∃ k : Integer,
      MethodRule.extremumConstant? (extremum = greatest) i.value j.value w.type = some k.value ∧
      k.type = w.type ∧ k.number = extremum.chosen i.number j.number := by
    rw [compared, ← picksFirst_ofInt]
    split
    · exact i.exists_image w widens
    · exact j.exists_image w widens'
  rw [← type] at computed
  refine ⟨k, ?_, type.trans wide, number⟩
  unfold MethodRule.numberExtremum
  simp only [Integer.constant, Expr.constant?, Expr.type, Expr.mapping, ← wide, ← type, computed]
  exact k.constantOf_value made

/-- Numbers have store types. -/
theorem findMapping_stored (made : d.lowering = .ok l) {t : LogicalType} (numeric : t.isNumeric = true) :
    l.builder.findMapping t = .ok (d.stored t) ∧ (d.stored t).type = t := by
  cases t with
  | byte | int32 | int64 | double => cases d <;> cases made <;> exact ⟨rfl, rfl⟩
  | _ => cases numeric

/-- Other numbers are left to the function of the dialect. -/
theorem numberExtremum_others (made : d.lowering = .ok l) (extremum : Extremum)
    (unknown : left.constant? = none ∨ right.constant? = none) (numeric : left.type.isNumeric = true)
    (numeric' : right.type.isNumeric = true) :
    ∃ m : TypeMapping, m.type = left.type.wider right.type ∧
      MethodRule.numberExtremum d l.builder (extremum = greatest) left right =
        .ok (Builder.call (extremum.function d) [left, right] m) := by
  have wide : (left.type.wider right.type).isNumeric = true := by
    unfold LogicalType.wider
    split
    · exact numeric
    · exact numeric'
  obtain ⟨found, type⟩ := findMapping_stored made wide
  have called : l.builder.function (extremum.function d) [left, right] (left.type.wider right.type) =
      .ok (Builder.call (extremum.function d) [left, right] (d.stored (left.type.wider right.type))) :=
    bind_eq_ok.mpr ⟨_, found, rfl⟩
  refine ⟨_, type, ?_⟩
  rw [← called]
  unfold MethodRule.numberExtremum function
  rcases unknown with none | none
  · simp only [none, decide_eq_true_eq]
  · cases left.constant? <;> simp only [none, decide_eq_true_eq]

/-- The function of the dialect yields the extremum. -/
theorem denote_call (row : Row) (given : String → LogicalType → Value) (m : TypeMapping) {x y : Int}
    (first : left.denote d row given = .number x) (second : right.denote d row given = .number y) :
    (Builder.call (extremum.function d) [left, right] m).denote d row given = .number (extremum.of x y) := by
  unfold Builder.call
  rw [Expr.denote, Expr.denoteAll, Expr.denoteAll, Expr.denoteAll, first, second]
  cases extremum <;> cases d <;> rfl

/-- The extremum of two integer constants is decided when the call is lowered, in the wider of their types, and is right
exactly where the two do not share a double or the first of them is the extremum anyway. So it is right where one of them
is below `2 ^ 53` in magnitude, and it is the same in either order exactly where no two integers are confused. Where an
operand is not a constant, the call is left to a function of the dialect that yields the extremum. -/
theorem integers_folded_exactly_iff {d : Dialect} {l : Lowering} (made : d.lowering = .ok l) (extremum : Extremum)
    (receiver : Option (Expr String)) (arity : UInt8) :
    (∀ (i j : Integer) (store store' : String), ∃ k : Integer,
      (MethodRule.numbers d).apply l.builder (extremum.call receiver arity (i.constant store) (j.constant store')) =
        .ok (some (.constant k.value (d.stored k.type))) ∧
      k.type = i.type.wider j.type ∧ k.number = extremum.chosen i.number j.number) ∧
    (∀ x y : Int,
      (extremum.chosen x y = extremum.of x y ↔ (Double.ofInt x = Double.ofInt y → extremum.of x y = x)) ∧
      (extremum.chosen x y = extremum.chosen y x ↔ (Double.ofInt x = Double.ofInt y → x = y)) ∧
      (x.natAbs < 2 ^ 53 ∨ y.natAbs < 2 ^ 53 → extremum.chosen x y = extremum.of x y)) ∧
    ∀ left right : Expr String, left.constant? = none ∨ right.constant? = none → left.type.isNumeric = true →
      right.type.isNumeric = true → ∃ e,
        (MethodRule.numbers d).apply l.builder (extremum.call receiver arity left right) = .ok (some e) ∧
        e.type = left.type.wider right.type ∧
        ∀ (row : Row) (given : String → LogicalType → Value) (x y : Int), left.denote d row given = .number x →
          right.denote d row given = .number y → e.denote d row given = .number (extremum.of x y) := by
  refine ⟨?_, ?_, ?_⟩
  · intro i j store store'
    obtain ⟨k, folded, type, number⟩ := numberExtremum_constants made extremum i j store store'
    exact ⟨k, apply_numbers l.builder receiver arity (Integer.isNumeric_constant store i)
      (Integer.isNumeric_constant store' j) folded, type, number⟩
  · intro x y
    exact ⟨chosen_eq_of_iff, chosen_comm_iff, chosen_of_small⟩
  · intro left right unknown numeric numeric'
    obtain ⟨m, type, called⟩ := numberExtremum_others made extremum unknown numeric numeric'
    refine ⟨_, apply_numbers l.builder receiver arity numeric numeric' called, type, ?_⟩
    intro row given x y first second
    exact denote_call row given _ first second

/-- A row whose numbers are fives. -/
def fives : Row
  | _, _, .int32 => ⟨.int 5, .inr rfl⟩
  | _, _, t => .nullIf t True

/-- The greater of a byte and a word is a word, and so is that of a column and a word. -/
theorem integers_folded_exactly_mixed : ∃ l, ∃ k : Integer, ∃ e, Dialect.sqlite.lowering = .ok l ∧
    (MethodRule.numbers .sqlite).apply l.builder (greatest.call none 0 (Integer.constant "INTEGER" (.byte 200))
      (Integer.constant "INTEGER" (.int (-7)))) = .ok (some (.constant k.value (Dialect.sqlite.stored k.type))) ∧
    k.type = .int32 ∧ k.number = 200 ∧
    (MethodRule.numbers .sqlite).apply l.builder (greatest.call none 0 (.column "i" "Rank" ⟨"INTEGER", .int32⟩ true)
      (Integer.constant "INTEGER" (.int (-7)))) = .ok (some e) ∧
    ∀ given, e.denote .sqlite fives given = .number 5 := by
  obtain ⟨l, made⟩ : ∃ l, Dialect.sqlite.lowering = .ok l := ⟨_, rfl⟩
  obtain ⟨constants, choices, others⟩ := integers_folded_exactly_iff made greatest none 0
  obtain ⟨k, folded, type, number⟩ := constants (.byte 200) (.int (-7)) "INTEGER" "INTEGER"
  obtain ⟨e, called, -, yields⟩ := others (.column "i" "Rank" ⟨"INTEGER", .int32⟩ true)
    (Integer.constant "INTEGER" (.int (-7))) (.inl rfl) rfl rfl
  have small : greatest.chosen 200 (-7) = greatest.of 200 (-7) := (choices 200 (-7)).2.2 (.inl (by decide))
  refine ⟨l, k, e, made, folded, type, number.trans (small.trans (by decide)), called, fun given => ?_⟩
  exact (yields fives given 5 (-7) rfl rfl).trans (by decide)

/-- Two neighbours share a double, and the lesser one is taken for the greatest of them. -/
theorem neighbours_confused : ∃ l, Dialect.sqlServer.lowering = .ok l ∧
    (MethodRule.numbers .sqlServer).apply l.builder (greatest.call none 0
        (Integer.constant "bigint" (.long 9007199254740992)) (Integer.constant "bigint" (.long 9007199254740993))) =
      .ok (some (.constant (.long 9007199254740992) ⟨"bigint", .int64⟩)) ∧
    greatest.of 9007199254740992 9007199254740993 = 9007199254740993 := by
  exact ⟨_, rfl, rfl, rfl⟩

end Calls

end Extremum

end SqlShape
