import SqlShape.Lowering
import SqlShape.Proofs.Native
import SqlShape.Proofs.Parameters
import SqlShape.Proofs.TrialOrder

/-!
# Lowered expressions

Lowering builds an expression by the functions of the builder; a rule for method calls may also compute a constant or
call a function under the mapping of an operand. `Expr.Lowered` is the closure of these steps. Every rule stays within
it, so a query is lowered to such expressions (`Lowering.lower_lowered`), and what each step keeps holds of all that is
lowered: it is native to the dialect (`Expr.Lowered.native`), it has no test for null and no list of members, which
come in only when values are known (`Expr.Lowered.everywhere_isAsked`), and it negates no truth value
(`Expr.Lowered.everywhere_negatesNoTruth`).
-/

namespace SqlShape

namespace Builder

variable {ρ : Type} {b : Builder} {op : BinaryOp} {l r : Expr ρ}

/-- A comparison operator is built by the comparison. -/
theorem binary_eq_comparison (compares : op.isComparison = true) : b.binary op l r = b.comparison op l r := by
  cases op with
  | and | or | add | subtract => cases compares
  | _ => rfl

/-- A connective is built by the connective. -/
theorem binary_eq_logical (logical : op.isLogical = true) : b.binary op l r = b.logical op l r := by
  cases op with
  | and | or => rfl
  | _ => cases logical

/-- What neither compares nor connects computes. -/
theorem binary_eq_arithmetic (compares : op.isComparison = false) (logical : op.isLogical = false) :
    b.binary op l r = b.arithmetic op l r := by
  cases op with
  | add | subtract => rfl
  | and | or => cases logical
  | _ => cases compares

/-- What a stated constant is. -/
theorem constantOf_eq_ok {value : Value} {t : LogicalType} {e : Expr ρ} (made : b.constantOf value t = .ok e) :
    ∃ v m, e = .constant v m := by
  obtain ⟨m, -, later⟩ := bind_eq_ok.mp made
  dsimp only at later
  split at later
  · split at later
    · split at later
      · cases later
        exact ⟨_, m, rfl⟩
      · cases later
    · cases later
  · split at later
    · cases later
      exact ⟨_, m, rfl⟩
    · cases later

/-- What a parameter is. -/
theorem parameter_eq_ok {ref : ρ} {t : LogicalType} {e : Expr ρ} (made : b.parameter ref t = .ok e) :
    ∃ m, e = .parameter ref t m := by
  unfold parameter at made
  split at made
  · cases made
  · obtain ⟨m, -, rest⟩ := bind_eq_ok.mp made
    cases rest
    exact ⟨m, rfl⟩
  · obtain ⟨m, -, rest⟩ := bind_eq_ok.mp made
    cases rest
    exact ⟨m, rfl⟩

/-- What a binary operation is: of operands that compare, one may have taken the mapping of the other. -/
theorem binary_eq_ok {e : Expr ρ} (made : b.binary op l r = .ok e) : ∃ x y m, e = .binary op x y m ∧
    (x = l ∧ y = r ∨ l.type.comparableWith r.type = true ∧
      (x = retype l r.mapping ∧ y = r ∨ x = l ∧ y = retype r l.mapping)) := by
  unfold binary at made
  split at made
  · obtain ⟨-, -, rfl⟩ := logical_eq_ok made
    exact ⟨l, r, _, rfl, .inl ⟨rfl, rfl⟩⟩
  · split at made
    · obtain ⟨_, comparable, rest⟩ := bind_eq_ok.mp made
      rw [requireComparable_eq_ok] at comparable
      cases rest
      refine ⟨_, _, _, rfl, ?_⟩
      split
      · exact .inr ⟨comparable, .inl ⟨rfl, rfl⟩⟩
      · exact .inr ⟨comparable, .inr ⟨rfl, rfl⟩⟩
      · exact .inl ⟨rfl, rfl⟩
    · unfold arithmetic at made
      dsimp only at made
      split at made
      · obtain ⟨m, -, rest⟩ := bind_eq_ok.mp made
        cases rest
        exact ⟨l, r, m, rfl, .inl ⟨rfl, rfl⟩⟩
      · cases made

/-- What a negation is left above is no truth value. -/
theorem truth?_of_not {operand : Expr ρ} {m : TypeMapping} (made : b.not operand = .ok (.negation operand m)) :
    operand.truth? = none := by
  obtain ⟨_, -, later⟩ := bind_eq_ok.mp made
  cases operand with
  | constant value m' =>
    cases value with
    | bool => cases later
    | _ => rfl
  | _ => rfl

/-- A text becomes a constant with that text. -/
theorem constant_text {c : String} {e : Expr ρ} (made : b.constant (.text c) = .ok e) :
    ∃ m, e = .constant (.text c) m := by
  obtain ⟨m, -, later⟩ := bind_eq_ok.mp made
  cases later
  exact ⟨m, rfl⟩

end Builder

/-! ## The closure of lowering -/

namespace Expr

/-- What lowering makes for a dialect: the outcomes of the building functions, and constants and calls under the mapping
of an operand. -/
inductive Lowered (d : Dialect) (b : Builder) (ps : Declarations) : Expr String → Prop
  | constantOf {value : Value} {t : LogicalType} {e : Expr String} (made : b.constantOf value t = .ok e) :
      Lowered d b ps e
  | truth (value : Bool) : Lowered d b ps (b.truth value)
  | folded {operand : Expr String} {value : Value} (below : Lowered d b ps operand)
      (typed : value.HasType operand.mapping.type) : Lowered d b ps (.constant value operand.mapping)
  | parameter {name : String} {t : LogicalType} {e : Expr String} (declared : ps name t)
      (made : b.parameter name t = .ok e) : Lowered d b ps e
  | column {table name : String} {t : LogicalType} {nullable : Bool} {e : Expr String}
      (made : b.column table name t nullable = .ok e) : Lowered d b ps e
  | function {name : String} {es : List (Expr String)} {t : LogicalType} {e : Expr String}
      (offered : name ∈ d.functionNames) (each : ∀ a ∈ es, Lowered d b ps a) (made : b.function name es t = .ok e) :
      Lowered d b ps e
  | call {name : String} {es : List (Expr String)} {operand : Expr String} (offered : name ∈ d.functionNames)
      (each : ∀ a ∈ es, Lowered d b ps a) (below : Lowered d b ps operand) :
      Lowered d b ps (Builder.call name es operand.mapping)
  | convert {operand : Expr String} {t : LogicalType} {e : Expr String} (below : Lowered d b ps operand)
      (made : b.convert operand t = .ok e) : Lowered d b ps e
  | binary {op : BinaryOp} {l r e : Expr String} (first : Lowered d b ps l) (second : Lowered d b ps r)
      (made : b.binary op l r = .ok e) : Lowered d b ps e
  | not {operand e : Expr String} (below : Lowered d b ps operand) (made : b.not operand = .ok e) : Lowered d b ps e
  | inParameter {item source : Expr String} {negated : Bool} {e : Expr String} (first : Lowered d b ps item)
      (second : Lowered d b ps source) (made : b.inParameter item source negated = .ok e) : Lowered d b ps e
  /-- The escape character of a pattern is always stated. -/
  | like {subject pattern escape : Expr String} {c : String} {e : Expr String} (first : Lowered d b ps subject)
      (second : Lowered d b ps pattern) (escaped : b.constant (.text c) = .ok escape)
      (made : b.like subject pattern (some escape) = .ok e) : Lowered d b ps e

/-- The nodes that a query can ask for. Tests for null and lists of members come in when values are known; the escape
character of a pattern is a text. -/
def IsAsked {ρ : Type} : Expr ρ → Prop
  | nullTest _ _ _ | inList _ _ _ _ => False
  | like _ _ escape _ => ∃ c m, escape = some (.constant (.text c) m)
  | _ => True

/-- A negation is above no truth value. -/
def NegatesNoTruth {ρ : Type} : Expr ρ → Prop
  | negation operand _ => operand.truth? = none
  | _ => True

namespace Lowered

variable {d : Dialect} {b : Builder} {ps : Declarations} {e l r : Expr String}

/-- A constant without a stated type is one with the type of its value. -/
theorem constant {value : Value} (made : b.constant value = .ok e) : e.Lowered d b ps := by
  unfold Builder.constant at made
  split at made
  · exact constantOf made
  · cases made

/-- A comparison, as one of the binary nodes. -/
theorem comparison {op : BinaryOp} (compares : op.isComparison = true) (first : l.Lowered d b ps)
    (second : r.Lowered d b ps) (made : b.comparison op l r = .ok e) : e.Lowered d b ps :=
  binary first second ((Builder.binary_eq_comparison compares).trans made)

/-- A connective, as one of the binary nodes. -/
theorem logical {op : BinaryOp} (logical : op.isLogical = true) (first : l.Lowered d b ps) (second : r.Lowered d b ps)
    (made : b.logical op l r = .ok e) : e.Lowered d b ps :=
  binary first second ((Builder.binary_eq_logical logical).trans made)

/-- Arithmetic, as one of the binary nodes. -/
theorem arithmetic {op : BinaryOp} (compares : op.isComparison = false) (logical : op.isLogical = false)
    (first : l.Lowered d b ps) (second : r.Lowered d b ps) (made : b.arithmetic op l r = .ok e) : e.Lowered d b ps :=
  binary first second ((Builder.binary_eq_arithmetic compares logical).trans made)

/-- What is lowered is native to the dialect. -/
theorem native (serves : b.Serves d) (lowered : e.Lowered d b ps) : e.Native d := by
  induction lowered with
  | constantOf made => exact serves.constantOf made
  | truth value => exact serves.truth value
  | folded _ typed below => exact .constant below.knows typed
  | parameter _ made => exact serves.parameter made
  | column made => exact serves.column made
  | function offered _ made each => exact serves.function offered each made
  | call offered _ _ each below => exact .function below.knows offered each
  | convert _ made below => exact serves.convert below made
  | binary _ _ made first second => exact serves.binary first second made
  | not _ made below => exact serves.not below made
  | inParameter _ _ made first second => exact serves.inParameter first second made
  | like _ _ escaped made first second =>
    refine serves.like first second (fun c member => ?_) made
    cases member
    exact serves.constant escaped

/-- The nodes of what is lowered can be asked for: there is no test for null and no list of members, and patterns state
their escape characters. A property holds of all of them if it holds of those that are no parameters and negate no truth
value, of parameters as they are declared, and of parameters that took the mapping of an expression beside them. -/
theorem everywhere {P : Expr String → Prop} {R : LogicalType → LogicalType → Prop}
    (other : ∀ x : Expr String, x.ref? = none → x.NegatesNoTruth → P x)
    (declared : ∀ name t m, ps name t → P (.parameter name t m))
    (retyped : ∀ name t m m', t.Widens m'.type → R t m'.type → P (.parameter name t m) →
      P (.parameter name m'.type m'))
    (beside : ∀ x y : Expr String, x.Lowered d b ps → y.Lowered d b ps → x.type.comparableWith y.type = true →
      R x.type y.mapping.type)
    (lowered : e.Lowered d b ps) : e.Everywhere fun x => x.IsAsked ∧ P x := by
  have asked : ∀ {x : Expr String}, x.IsAsked → x.ref? = none → x.NegatesNoTruth → x.IsAsked ∧ P x :=
    fun asked none kept => ⟨asked, other _ none kept⟩
  have retype : ∀ {x y : Expr String}, x.Lowered d b ps → y.Lowered d b ps → x.type.comparableWith y.type = true →
      x.Everywhere (fun x => x.IsAsked ∧ P x) →
      (Builder.retype x y.mapping).Everywhere fun x => x.IsAsked ∧ P x := by
    intro x y first second comparable below
    rcases Builder.retype_cases x y.mapping with same | ⟨v, m, -, -, changed⟩ | ⟨ref, t, m, rfl, widens, changed⟩
    · rwa [same]
    · rw [changed]
      exact everywhere_constant.mpr (asked trivial rfl trivial)
    · rw [changed]
      refine everywhere_parameter.mpr ⟨trivial, ?_⟩
      exact retyped ref t m y.mapping widens (beside _ y first second comparable) below.here.2
  induction lowered with
  | @constantOf value t e made =>
    obtain ⟨v, m, rfl⟩ := Builder.constantOf_eq_ok made
    exact everywhere_constant.mpr (asked trivial rfl trivial)
  | truth | folded => exact everywhere_constant.mpr (asked trivial rfl trivial)
  | parameter known made =>
    obtain ⟨m, rfl⟩ := Builder.parameter_eq_ok made
    exact everywhere_parameter.mpr ⟨trivial, declared _ _ m known⟩
  | column made =>
    obtain ⟨m, -, rest⟩ := bind_eq_ok.mp made
    cases rest
    exact everywhere_column.mpr (asked trivial rfl trivial)
  | function _ _ made each =>
    obtain ⟨m, -, rest⟩ := bind_eq_ok.mp made
    cases rest
    exact everywhere_function.mpr ⟨asked trivial rfl trivial, each⟩
  | call _ _ _ each _ => exact everywhere_function.mpr ⟨asked trivial rfl trivial, each⟩
  | convert _ made below =>
    unfold Builder.convert at made
    split at made
    · cases made
      exact below
    · obtain ⟨m, -, rest⟩ := bind_eq_ok.mp made
      cases rest
      exact everywhere_convert.mpr ⟨asked trivial rfl trivial, below⟩
  | @binary op l r e left right made first second =>
    obtain ⟨x, y, m, rfl, ⟨rfl, rfl⟩ | ⟨comparable, ⟨rfl, rfl⟩ | ⟨rfl, rfl⟩⟩⟩ := Builder.binary_eq_ok made
    · exact everywhere_binary.mpr ⟨asked trivial rfl trivial, first, second⟩
    · exact everywhere_binary.mpr ⟨asked trivial rfl trivial, retype left right comparable first, second⟩
    · rw [LogicalType.comparableWith_comm] at comparable
      exact everywhere_binary.mpr ⟨asked trivial rfl trivial, first, retype right left comparable second⟩
  | not _ made below =>
    obtain ⟨-, ⟨value, m, -, rfl⟩ | ⟨m, rfl⟩ | ⟨inner, negated, m, rfl, rfl⟩ | rfl⟩ := Builder.not_eq_ok made
    · exact everywhere_constant.mpr (asked trivial rfl trivial)
    · exact (everywhere_negation.mp below).2
    · exact below.here.1.elim
    · exact everywhere_negation.mpr ⟨asked trivial rfl (Builder.truth?_of_not made), below⟩
  | inParameter _ _ made first second =>
    unfold Builder.inParameter at made
    split at made
    · obtain ⟨_, -, rest⟩ := bind_eq_ok.mp made
      cases rest
      exact everywhere_inParameter.mpr ⟨asked trivial rfl trivial, first, second⟩
    · cases made
  | like left right escaped made first second =>
    obtain ⟨m, rfl⟩ := Builder.constant_text escaped
    obtain ⟨_, subject, made⟩ := bind_eq_ok.mp made
    obtain ⟨_, pattern, made⟩ := bind_eq_ok.mp made
    obtain ⟨_, -, rest⟩ := bind_eq_ok.mp made
    cases rest
    have comparable := LogicalType.comparableWith_self (t := .text) rfl
    nth_rewrite 1 [← Builder.requireType_eq_ok.mp pattern] at comparable
    rw [← Builder.requireType_eq_ok.mp subject] at comparable
    have typed := retype right left comparable second
    refine everywhere_like.mpr ⟨asked ⟨_, m, rfl⟩ rfl trivial, first, typed, fun c member => ?_⟩
    cases member
    exact everywhere_constant.mpr (asked trivial rfl trivial)

/-- No step of lowering makes a null test or a list of members. -/
theorem everywhere_isAsked (lowered : e.Lowered d b ps) : e.Everywhere IsAsked := by
  have nodes := lowered.everywhere (P := fun _ => True) (R := fun _ _ => True) (fun _ _ _ => trivial)
    (fun _ _ _ _ => trivial) (fun _ _ _ _ _ _ _ => trivial) (fun _ _ _ _ _ => trivial)
  exact fun x member => (nodes x member).1

/-- Negated truth values are computed when a query is lowered. -/
theorem everywhere_negatesNoTruth (lowered : e.Lowered d b ps) : e.Everywhere NegatesNoTruth := by
  have nodes := lowered.everywhere (P := NegatesNoTruth) (R := fun _ _ => True) (fun _ _ kept => kept)
    (fun _ _ _ _ => trivial) (fun _ _ _ _ _ _ _ => trivial) (fun _ _ _ _ _ => trivial)
  exact fun x member => (nodes x member).2

end Lowered

end Expr

/-! ## Rules for method calls -/

/-- A call whose receiver and arguments are lowered. -/
structure MethodCall.Lowered (d : Dialect) (b : Builder) (ps : Declarations) (c : MethodCall) : Prop where
  receiver : ∀ e ∈ c.receiver, e.Lowered d b ps
  arguments : ∀ e ∈ c.arguments, e.Lowered d b ps

namespace MethodCall.Lowered

variable {d : Dialect} {b : Builder} {ps : Declarations} {c : MethodCall}

/-- The argument of a call with one. -/
theorem oneArgument (lowered : c.Lowered d b ps) {a : Expr String} (taken : c.oneArgument = .ok a) :
    a.Lowered d b ps := by
  unfold MethodCall.oneArgument at taken
  split at taken
  next a' only =>
    cases taken
    exact lowered.arguments a (by rw [only]; exact List.mem_singleton_self a)
  next => cases taken

/-- The arguments of a call with two. -/
theorem twoArguments (lowered : c.Lowered d b ps) {pair : Expr String × Expr String}
    (taken : c.twoArguments = .ok pair) : pair.1.Lowered d b ps ∧ pair.2.Lowered d b ps := by
  unfold MethodCall.twoArguments at taken
  split at taken
  next x y both =>
    cases taken
    have each := lowered.arguments
    rw [both] at each
    exact ⟨each x (by simp), each y (by simp)⟩
  next => cases taken

/-- The receiver of a call that has one. -/
theorem requireReceiver (lowered : c.Lowered d b ps) {e : Expr String} (taken : c.requireReceiver = .ok e) :
    e.Lowered d b ps := by
  unfold MethodCall.requireReceiver at taken
  split at taken
  next e' present =>
    cases taken
    exact lowered.receiver e present
  next => cases taken

end MethodCall.Lowered

namespace MethodRule

/-- What a rule makes of lowered operands is lowered. -/
def KeepsLowered (d : Dialect) (b : Builder) (rule : MethodRule) : Prop :=
  ∀ ps c e, c.Lowered d b ps → rule.apply b c = .ok (some e) → e.Lowered d b ps

variable {d : Dialect} {b : Builder} {ps : Declarations} {c : MethodCall} {e subject pattern operand : Expr String}

/-- The names of a dialect's functions, beside `RIGHT`. -/
theorem mem_functionNames {name : String} (d : Dialect)
    (listed : name ∈ [d.functions.position, d.functions.textLength, d.functions.byteLength, d.functions.substring,
      d.functions.upper, d.functions.lower, d.functions.trim, d.functions.abs, d.functions.ceiling, d.functions.floor,
      d.functions.round, d.functions.greatest, d.functions.least]) : name ∈ d.functionNames :=
  List.mem_append_left _ listed

/-- The place of one operand in another is a function that the dialect offers. -/
theorem position_lowered {sought source : Expr String} (first : sought.Lowered d b ps)
    (second : source.Lowered d b ps) (made : d.position b sought source = .ok e) : e.Lowered d b ps := by
  refine .function (mem_functionNames d (by simp)) (fun a member => ?_) made
  split at member
  · simp only [List.mem_cons, List.not_mem_nil, or_false] at member
    rcases member with rfl | rfl
    · exact first
    · exact second
  · simp only [List.mem_cons, List.not_mem_nil, or_false] at member
    rcases member with rfl | rfl
    · exact second
    · exact first

/-- A byte that is sought is computed where it is constant and converted where it is not. -/
theorem bytesContain_lowered (serves : b.Serves d) (lowered : c.Lowered d b ps)
    (made : bytesContain d b c = .ok (some e)) : e.Lowered d b ps := by
  unfold bytesContain at made
  obtain ⟨pair, taken, made⟩ := bind_eq_ok.mp made
  obtain ⟨source, element⟩ := lowered.twoArguments taken
  dsimp only at made
  split at made
  · cases made
  next bytes =>
    rw [not_not] at bytes
    have compared : ∀ sought : Expr String, sought.Lowered d b ps →
        (do
          let position ← d.position b sought pair.1
          let zero ← b.constant (.int 0)
          return some (← b.comparison .greater position zero)) = .ok (some e) → e.Lowered d b ps := by
      intro sought lowered made
      obtain ⟨position, found, made⟩ := bind_eq_ok.mp made
      obtain ⟨zero, zero', made⟩ := bind_eq_ok.mp made
      obtain ⟨compared, compared', made⟩ := bind_eq_ok.mp made
      cases made
      exact .comparison rfl (position_lowered lowered source found) (.constant zero') compared'
    split at made
    · cases made
    · split at made
      next =>
        have scalar : pair.1.type.isSequence = false := by
          rw [bytes]
          rfl
        refine compared _ (.folded source (.inr ?_)) made
        rw [← (source.native serves).type_eq scalar, bytes]
        rfl
      next =>
        obtain ⟨sought, converted, made⟩ := bind_eq_ok.mp made
        exact compared sought (.convert element converted) made

/-- The first byte of a constant is computed; any other is cut out and converted. -/
theorem bytesFirst_lowered (lowered : c.Lowered d b ps) (made : bytesFirst d b c = .ok (some e)) :
    e.Lowered d b ps := by
  unfold bytesFirst at made
  obtain ⟨source, taken, made⟩ := bind_eq_ok.mp made
  have source' := lowered.oneArgument taken
  dsimp only at made
  split at made
  · cases made
  · split at made
    · obtain ⟨first, first', made⟩ := bind_eq_ok.mp made
      cases made
      exact .constant first'
    · obtain ⟨one, one', made⟩ := bind_eq_ok.mp made
      obtain ⟨head, head', made⟩ := bind_eq_ok.mp made
      cases made
      refine .convert (.call (mem_functionNames d (by simp)) (fun a member => ?_) source') head'
      simp only [List.mem_cons, List.not_mem_nil, or_false, or_self] at member
      rcases member with rfl | rfl
      · exact source'
      · exact .constant one'

/-- The length of constant bytes is computed; any other is a function call. -/
theorem bytesLength_lowered (lowered : c.Lowered d b ps) (made : bytesLength d b c = .ok (some e)) :
    e.Lowered d b ps := by
  unfold bytesLength at made
  obtain ⟨source, taken, made⟩ := bind_eq_ok.mp made
  have source' := lowered.requireReceiver taken
  obtain ⟨_, -, made⟩ := bind_eq_ok.mp made
  dsimp only at made
  split at made
  · cases made
  · split at made
    · split at made
      · cases made
      · obtain ⟨length, length', made⟩ := bind_eq_ok.mp made
        cases made
        exact .constant length'
    · obtain ⟨length, length', made⟩ := bind_eq_ok.mp made
      cases made
      exact .function (mem_functionNames d (by simp)) (List.forall_mem_singleton.mpr source') length'

/-- The methods on bytes stay within what is lowered. -/
theorem bytes_keepsLowered (serves : b.Serves d) : KeepsLowered d b (bytes d) := by
  intro ps c e lowered made
  unfold bytes at made
  dsimp only at made
  split at made
  · exact bytesLength_lowered lowered made
  · split at made
    · exact bytesContain_lowered serves lowered made
    · exact bytesFirst_lowered lowered made

/-- Membership in a parameter is built by the builder. -/
theorem membership_keepsLowered : KeepsLowered d b membership := by
  intro ps c e lowered made
  obtain ⟨pair, taken, made⟩ := bind_eq_ok.mp made
  obtain ⟨source, item⟩ := lowered.twoArguments taken
  dsimp only at made
  split at made
  next =>
    obtain ⟨member, member', made⟩ := bind_eq_ok.mp made
    cases made
    exact .inParameter item source member'
  next => cases made

/-- Equality of constants is computed, of types that do not compare it is false, and any other is a comparison. -/
theorem equality_keepsLowered : KeepsLowered d b equality := by
  intro ps c e lowered made
  obtain ⟨pair, taken, made⟩ := bind_eq_ok.mp made
  have operands : pair.1.Lowered d b ps ∧ pair.2.Lowered d b ps := by
    unfold equalityOperands at taken
    split at taken
    next left present =>
      obtain ⟨right, right', taken⟩ := bind_eq_ok.mp taken
      cases taken
      exact ⟨lowered.receiver left present, lowered.oneArgument right'⟩
    next => exact lowered.twoArguments taken
  dsimp only at made
  split at made
  · cases made
    exact .truth false
  · split at made
    · cases made
      exact .truth _
    · obtain ⟨compared, compared', made⟩ := bind_eq_ok.mp made
      cases made
      exact .comparison rfl operands.1 operands.2 compared'

/-! ### Numbers -/

/-- The absolute value of a constant has the type of the constant. -/
theorem hasType_absConstant {v w : Value} {t : LogicalType} (typed : v.HasType t) (computed : absConstant? v = some w) :
    w.HasType t := by
  rcases typed with rfl | shown
  · cases computed
  · refine .inr (Eq.trans ?_ shown)
    cases v with
    | byte b =>
      cases computed
      rfl
    | int i =>
      obtain ⟨-, same⟩ := Option.ite_none_left_eq_some.mp computed
      cases same
      rfl
    | long i =>
      obtain ⟨-, same⟩ := Option.ite_none_left_eq_some.mp computed
      cases same
      rfl
    | double x =>
      cases computed
      rfl
    | _ => cases computed

/-- An absolute value is a constant of the same type or a call under the mapping of the operand. -/
theorem numberAbs_lowered (serves : b.Serves d) (lowered : operand.Lowered d b ps) :
    (numberAbs d operand).Lowered d b ps := by
  unfold numberAbs
  split
  next value computed =>
    obtain ⟨v, constant, computed⟩ := Option.bind_eq_some_iff.mp computed
    exact .folded lowered (hasType_absConstant ((lowered.native serves).hasType_constant constant) computed)
  next => exact .call (mem_functionNames d (by simp)) (List.forall_mem_singleton.mpr lowered) lowered

/-- A double constant is lowered with any other double. -/
theorem double_lowered (serves : b.Serves d) (lowered : operand.Lowered d b ps) {x : Double}
    (constant : operand.constant? = some (.double x)) (y : Double) :
    (Expr.constant (.double y) operand.mapping : Expr String).Lowered d b ps := by
  refine .folded lowered (.inr ?_)
  rcases (lowered.native serves).hasType_constant constant with null | shown
  · cases null
  · exact shown

/-- Rounding up or down to a whole number keeps the mapping of the operand. -/
theorem wholeNumber_lowered (serves : b.Serves d) (lowered : operand.Lowered d b ps) {name : String}
    (offered : name ∈ d.functionNames) (compute : Double → Double) :
    (wholeNumber name compute operand).Lowered d b ps := by
  unfold wholeNumber
  split
  next constant => exact double_lowered serves lowered constant _
  next => exact .call offered (List.forall_mem_singleton.mpr lowered) lowered

/-- Rounding keeps the mapping of the operand; the number of digits is an operand or a constant. -/
theorem numberRound_lowered (serves : b.Serves d) (lowered : operand.Lowered d b ps) {digits : Option (Expr String)}
    (lowered' : ∀ e ∈ digits, e.Lowered d b ps) (made : numberRound d b operand digits = .ok e) : e.Lowered d b ps := by
  have call : ∀ more : List (Expr String), (∀ e ∈ more, e.Lowered d b ps) →
      (Builder.call d.functions.round (operand :: more) operand.mapping).Lowered d b ps := fun more each =>
    .call (mem_functionNames d (by simp)) (List.forall_mem_cons.mpr ⟨lowered, each⟩) lowered
  unfold numberRound at made
  split at made
  next value rounded =>
    cases made
    unfold roundConstant? at rounded
    split at rounded
    next constant _ =>
      obtain ⟨-, same⟩ := Option.ite_none_right_eq_some.mp rounded
      cases same
      exact double_lowered serves lowered constant _
    next => cases rounded
  next =>
    split at made
    · cases made
      exact call _ (List.forall_mem_singleton.mpr (lowered' _ rfl))
    · split at made
      · obtain ⟨zero, zero', made⟩ := bind_eq_ok.mp made
        cases made
        exact call _ (List.forall_mem_singleton.mpr (.constant zero'))
      · cases made
        exact call _ (List.forall_mem_nil _)

/-- The greater or smaller of two numbers has their common type. -/
theorem numberExtremum_lowered {greatest : Bool} {left right : Expr String} (first : left.Lowered d b ps)
    (second : right.Lowered d b ps) (made : numberExtremum d b greatest left right = .ok e) : e.Lowered d b ps := by
  have both : ∀ a ∈ [left, right], a.Lowered d b ps := by
    intro a member
    simp only [List.mem_cons, List.not_mem_nil, or_false] at member
    rcases member with rfl | rfl
    · exact first
    · exact second
  unfold numberExtremum at made
  dsimp only at made
  split at made
  · exact .constantOf made
  · refine .function (mem_functionNames d ?_) both made
    split <;> simp

/-- Each method on numbers stays within what is lowered. -/
theorem lowerNumber_lowered (serves : b.Serves d) (lowered : c.Lowered d b ps) (lowered' : operand.Lowered d b ps)
    (made : lowerNumber d b c operand = .ok (some e)) : e.Lowered d b ps := by
  unfold lowerNumber at made
  split at made
  · obtain ⟨_, -, made⟩ := bind_eq_ok.mp made
    cases made
    exact numberAbs_lowered serves lowered'
  · obtain ⟨_, -, made⟩ := bind_eq_ok.mp made
    split at made
    · cases made
    · cases made
      exact wholeNumber_lowered serves lowered' (mem_functionNames d (by simp)) _
  · obtain ⟨_, -, made⟩ := bind_eq_ok.mp made
    split at made
    · cases made
    · cases made
      exact wholeNumber_lowered serves lowered' (mem_functionNames d (by simp)) _
  · dsimp only at made
    split at made
    · cases made
    · split at made
      · cases made
      · split at made
        · cases made
        · obtain ⟨rounded, rounded', made⟩ := bind_eq_ok.mp made
          cases made
          refine numberRound_lowered serves lowered' (fun e present => ?_) rounded'
          exact lowered.arguments e (List.mem_of_getElem? present)
  · obtain ⟨pair, taken, made⟩ := bind_eq_ok.mp made
    obtain ⟨left, right⟩ := lowered.twoArguments taken
    dsimp only at made
    split at made
    · cases made
    · obtain ⟨chosen, chosen', made⟩ := bind_eq_ok.mp made
      cases made
      exact numberExtremum_lowered left right chosen'
  · obtain ⟨pair, taken, made⟩ := bind_eq_ok.mp made
    obtain ⟨left, right⟩ := lowered.twoArguments taken
    dsimp only at made
    split at made
    · cases made
    · obtain ⟨chosen, chosen', made⟩ := bind_eq_ok.mp made
      cases made
      exact numberExtremum_lowered left right chosen'
  · cases made

/-- The methods on numbers stay within what is lowered. -/
theorem numbers_keepsLowered (serves : b.Serves d) : KeepsLowered d b (numbers d) := by
  intro ps c e lowered made
  unfold numbers at made
  dsimp only at made
  split at made
  · cases made
  next operand rest given =>
    have operand' : operand.Lowered d b ps := lowered.arguments operand (by rw [given]; exact List.mem_cons_self)
    split at made
    · exact lowerNumber_lowered serves lowered operand' made
    · cases made

/-! ### Texts -/

theorem textLength_lowered (lowered : operand.Lowered d b ps) (made : textLength d b operand = .ok e) :
    e.Lowered d b ps :=
  .function (mem_functionNames d (by simp)) (List.forall_mem_singleton.mpr lowered) made

/-- A constant fragment is matched by a pattern and an escape that are constants. -/
theorem fragmentMatch_lowered (lowered : subject.Lowered d b ps) {fragment : String} {atStart : Bool}
    (made : fragmentMatch d b subject fragment atStart = .ok e) : e.Lowered d b ps := by
  obtain ⟨pattern, pattern', made⟩ := bind_eq_ok.mp made
  obtain ⟨escape, escape', made⟩ := bind_eq_ok.mp made
  exact .like lowered (.constant pattern') escape' made

/-- A search in a text compares a place with zero; a pattern that is no constant may also equal the empty text. -/
theorem textContains_lowered (lowered : subject.Lowered d b ps) (lowered' : pattern.Lowered d b ps)
    (made : textContains d b subject pattern = .ok e) : e.Lowered d b ps := by
  have found : ∀ {e : Expr String},
      (do
        let position ← d.position b pattern subject
        let zero ← b.constant (.int 0)
        b.comparison .greater position zero) = .ok e → e.Lowered d b ps := by
    intro e made
    obtain ⟨position, position', made⟩ := bind_eq_ok.mp made
    obtain ⟨zero, zero', made⟩ := bind_eq_ok.mp made
    exact .comparison rfl (position_lowered lowered' lowered position') (.constant zero') made
  unfold textContains at made
  dsimp only at made
  split at made
  · cases made
    exact .truth _
  · split at made
    · cases made
      exact .truth true
    · exact found made
  · obtain ⟨inside, inside', made⟩ := bind_eq_ok.mp made
    obtain ⟨empty, empty', made⟩ := bind_eq_ok.mp made
    obtain ⟨isEmpty, isEmpty', made⟩ := bind_eq_ok.mp made
    exact .logical rfl (found inside') (.comparison rfl lowered' (.constant empty') isEmpty') made

/-- A search at the start is a pattern match or compares the head of the text. -/
theorem textStartsWith_lowered (lowered : subject.Lowered d b ps) (lowered' : pattern.Lowered d b ps)
    (made : textStartsWith d b subject pattern = .ok e) : e.Lowered d b ps := by
  unfold textStartsWith at made
  split at made
  · cases made
    exact .truth _
  · exact fragmentMatch_lowered lowered made
  · obtain ⟨one, one', made⟩ := bind_eq_ok.mp made
    obtain ⟨length, length', made⟩ := bind_eq_ok.mp made
    refine .comparison rfl
      (.call (mem_functionNames d (by simp)) (fun a member => ?_) lowered) lowered' made
    simp only [List.mem_cons, List.not_mem_nil, or_false] at member
    rcases member with rfl | rfl | rfl
    · exact lowered
    · exact .constant one'
    · exact textLength_lowered lowered' length'

/-- The tail of a text is cut out by its length or from a negative place. -/
theorem textTail_lowered {length : Expr String} (lowered : subject.Lowered d b ps)
    (lowered' : length.Lowered d b ps) (made : textTail d b subject length = .ok e) : e.Lowered d b ps := by
  unfold textTail at made
  split at made
  · cases made
    refine .call (by decide) (fun a member => ?_) lowered
    simp only [List.mem_cons, List.not_mem_nil, or_false] at member
    rcases member with rfl | rfl
    · exact lowered
    · exact lowered'
  · obtain ⟨zero, zero', made⟩ := bind_eq_ok.mp made
    obtain ⟨fromEnd, fromEnd', made⟩ := bind_eq_ok.mp made
    cases made
    refine .call (mem_functionNames _ (by simp)) (fun a member => ?_) lowered
    simp only [List.mem_cons, List.not_mem_nil, or_false] at member
    rcases member with rfl | rfl
    · exact lowered
    · exact .arithmetic rfl rfl (.constant zero') lowered' fromEnd'

/-- A search at the end is a pattern match or compares the tail. -/
theorem textEndsWith_lowered (lowered : subject.Lowered d b ps) (lowered' : pattern.Lowered d b ps)
    (made : textEndsWith d b subject pattern = .ok e) : e.Lowered d b ps := by
  unfold textEndsWith at made
  split at made
  · cases made
    exact .truth _
  · exact fragmentMatch_lowered lowered made
  · obtain ⟨length, length', made⟩ := bind_eq_ok.mp made
    obtain ⟨tail, tail', made⟩ := bind_eq_ok.mp made
    exact .comparison rfl (textTail_lowered lowered (textLength_lowered lowered' length') tail') lowered'
      made

/-- A function of a constant text is computed; any other is a call under the mapping of the subject. -/
theorem textFunction_lowered (lowered : subject.Lowered d b ps) {name : String}
    (offered : name ∈ d.functionNames) {compute : String → String}
    (made : textFunction name compute b subject = .ok e) : e.Lowered d b ps := by
  unfold textFunction at made
  split at made
  · exact .constant made
  · cases made
    exact .call offered (List.forall_mem_singleton.mpr lowered) lowered

/-- Places count from one: a constant place is shifted beforehand and any other in the command. -/
theorem textSubstring_lowered {start : Expr String} {length : Option (Expr String)}
    (lowered : subject.Lowered d b ps) (lowered' : start.Lowered d b ps) (lowered'' : ∀ e ∈ length, e.Lowered d b ps)
    (made : textSubstring d b subject start length = .ok e) : e.Lowered d b ps := by
  have call : ∀ (place : Expr String) (more : List (Expr String)), place.Lowered d b ps →
      (∀ e ∈ more, e.Lowered d b ps) →
      (Builder.call d.functions.substring (subject :: place :: more) subject.mapping).Lowered d b ps :=
    fun place more first each => .call (mem_functionNames d (by simp))
      (List.forall_mem_cons.mpr ⟨lowered, List.forall_mem_cons.mpr ⟨first, each⟩⟩) lowered
  have stated : ∀ {i : Int} {place : Expr String}, b.constant (.int (nextPlace i)) = .ok place → place.Lowered d b ps :=
    fun made => .constant made
  have counted : ∀ {one place : Expr String}, b.constant (.int 1) = .ok one → b.arithmetic .add start one = .ok place →
      place.Lowered d b ps := fun one made => .arithmetic rfl rfl lowered' (.constant one) made
  unfold textSubstring at made
  split at made
  · exact .constant made
  · dsimp only at made
    split at made
    next =>
      obtain ⟨place, place', made⟩ := bind_eq_ok.mp made
      split at made
      next =>
        cases made
        exact call place _ (stated place') (List.forall_mem_singleton.mpr (lowered'' _ rfl))
      next =>
        obtain ⟨length, length', made⟩ := bind_eq_ok.mp made
        cases made
        exact call place _ (stated place') (List.forall_mem_singleton.mpr (textLength_lowered lowered length'))
      next =>
        cases made
        exact call place _ (stated place') (List.forall_mem_nil _)
    next =>
      obtain ⟨one, one', made⟩ := bind_eq_ok.mp made
      obtain ⟨place, place', made⟩ := bind_eq_ok.mp made
      split at made
      next =>
        cases made
        exact call place _ (counted one' place') (List.forall_mem_singleton.mpr (lowered'' _ rfl))
      next =>
        obtain ⟨length, length', made⟩ := bind_eq_ok.mp made
        cases made
        exact call place _ (counted one' place')
          (List.forall_mem_singleton.mpr (textLength_lowered lowered length'))
      next =>
        cases made
        exact call place _ (counted one' place') (List.forall_mem_nil _)

/-- A search stays within what is lowered where it does so for its pattern. -/
theorem lowerSearch_lowered (lowered : c.Lowered d b ps)
    {search : Expr String → Expr String → Except QueryError (Expr String)}
    (searches : ∀ {pattern e}, pattern.Lowered d b ps → search subject pattern = .ok e → e.Lowered d b ps)
    (made : lowerSearch c search subject = .ok (some e)) : e.Lowered d b ps := by
  obtain ⟨pattern, taken, made⟩ := bind_eq_ok.mp made
  split at made
  · cases made
  · obtain ⟨found, found', made⟩ := bind_eq_ok.mp made
    cases made
    exact searches (lowered.oneArgument taken) found'

/-- Each method on texts stays within what is lowered. -/
theorem lowerText_lowered (lowered : c.Lowered d b ps) (lowered' : subject.Lowered d b ps)
    (made : lowerText d b c subject = .ok (some e)) : e.Lowered d b ps := by
  unfold lowerText at made
  split at made
  · exact lowerSearch_lowered lowered (textContains_lowered lowered') made
  · exact lowerSearch_lowered lowered (textStartsWith_lowered lowered') made
  · exact lowerSearch_lowered lowered (textEndsWith_lowered lowered') made
  · obtain ⟨_, -, made⟩ := bind_eq_ok.mp made
    obtain ⟨text, text', made⟩ := bind_eq_ok.mp made
    cases made
    exact textFunction_lowered lowered' (mem_functionNames d (by simp)) text'
  · obtain ⟨_, -, made⟩ := bind_eq_ok.mp made
    obtain ⟨text, text', made⟩ := bind_eq_ok.mp made
    cases made
    exact textFunction_lowered lowered' (mem_functionNames d (by simp)) text'
  · obtain ⟨_, -, made⟩ := bind_eq_ok.mp made
    obtain ⟨text, text', made⟩ := bind_eq_ok.mp made
    cases made
    exact textFunction_lowered lowered' (mem_functionNames d (by simp)) text'
  · obtain ⟨_, -, made⟩ := bind_eq_ok.mp made
    split at made
    · obtain ⟨length, length', made⟩ := bind_eq_ok.mp made
      cases made
      exact .constant length'
    · obtain ⟨length, length', made⟩ := bind_eq_ok.mp made
      cases made
      exact textLength_lowered lowered' length'
  · split at made
    next start given =>
      have start' : start.Lowered d b ps := lowered.arguments start (by rw [given]; exact List.mem_cons_self)
      split at made
      · cases made
      · obtain ⟨piece, piece', made⟩ := bind_eq_ok.mp made
        cases made
        exact textSubstring_lowered lowered' start' (fun e member => absurd member (Option.not_mem_none e)) piece'
    next start length given =>
      have each := lowered.arguments
      rw [given] at each
      split at made
      · cases made
      · obtain ⟨piece, piece', made⟩ := bind_eq_ok.mp made
        cases made
        refine textSubstring_lowered lowered' (each start (by simp)) (fun e member => ?_) piece'
        cases member
        exact each length (by simp)
    next => cases made
  · cases made

/-- The methods on texts stay within what is lowered. -/
theorem strings_keepsLowered : KeepsLowered d b (strings d) := by
  intro ps c e lowered made
  obtain ⟨subject, taken, made⟩ := bind_eq_ok.mp made
  split at made
  · cases made
  · exact lowerText_lowered lowered (lowered.requireReceiver taken) made

end MethodRule

namespace MethodRules

/-- The first rule that does not decline made what comes out. -/
theorem firstOutcome_lowered {d : Dialect} {b : Builder} {ps : Declarations} {c : MethodCall} {e : Expr String}
    {rules : List MethodRule} (keep : ∀ rule ∈ rules, MethodRule.KeepsLowered d b rule) (lowered : c.Lowered d b ps)
    (made : firstOutcome b c rules = .ok (some e)) : e.Lowered d b ps := by
  induction rules with
  | nil => cases made
  | cons rule rules later =>
    obtain ⟨here, others⟩ := List.forall_mem_cons.mp keep
    rw [firstOutcome] at made
    split at made
    · split at made
      · exact later others made
      · exact here ps c e lowered made
    · exact later others made

end MethodRules

/-- All rules of a dialect stay within what is lowered. -/
theorem Dialect.rules_keepLowered {d : Dialect} {b : Builder} (serves : b.Serves d) :
    ∀ rule ∈ d.rules.trial, MethodRule.KeepsLowered d b rule := by
  intro rule member
  rcases MethodRules.mem_registerAll member with none | listed
  · cases none
  · simp only [List.mem_cons, List.not_mem_nil, or_false] at listed
    rcases listed with rfl | rfl | rfl | rfl | rfl
    · exact MethodRule.bytes_keepsLowered serves
    · exact MethodRule.membership_keepsLowered
    · exact MethodRule.strings_keepsLowered
    · exact MethodRule.numbers_keepsLowered serves
    · exact MethodRule.equality_keepsLowered

/-! ## Lowering -/

/-- A sequence of steps that may find nothing, taken apart. -/
theorem optionBind_eq_ok {ε α β : Type} {x : OptionT (Except ε) α} {f : α → OptionT (Except ε) β} {y : β} :
    (x >>= f).run = .ok (some y) ↔ ∃ a, x.run = .ok (some a) ∧ (f a).run = .ok (some y) := by
  rw [OptionT.run_bind, Option.elimM, bind_eq_ok]
  constructor
  · rintro ⟨o, found, rest⟩
    cases o with
    | none => cases rest
    | some a => exact ⟨a, found, rest⟩
  · rintro ⟨a, found, rest⟩
    exact ⟨some a, found, rest⟩

/-- A check has an outcome exactly where it is not refused. -/
theorem optionLift_eq_ok {ε α : Type} {x : Except ε α} {y : α} :
    (liftM x : OptionT (Except ε) α).run = .ok (some y) ↔ x = .ok y := by
  cases x with
  | error refusal => exact iff_of_false (fun made => by cases made) (fun made => by cases made)
  | ok a => exact ⟨fun made => by cases made; rfl, fun made => by cases made; rfl⟩

/-- A statement of lowered expressions, with a truth value for a predicate. -/
structure Select.Lowered (d : Dialect) (b : Builder) (ps : Declarations) (s : Select String) : Prop where
  expressions : ∀ e ∈ s.expressions, e.Lowered d b ps
  predicate : ∀ e ∈ s.predicate, e.type = .bool

/-- A lowered statement is native to its dialect. -/
theorem Select.Lowered.native {d : Dialect} {b : Builder} {ps : Declarations} (serves : b.Serves d) {s : Select String}
    (lowered : s.Lowered d b ps) : s.Native d :=
  ⟨fun e member => (lowered.expressions e member).native serves, lowered.predicate⟩

/-- Each result of steps in a row is the result of one of them. -/
theorem mapM_eq_ok {ε α β : Type} {f : α → Except ε β} {items : List α} {results : List β}
    (made : items.mapM f = .ok results) : ∀ b ∈ results, ∃ a ∈ items, f a = .ok b :=
  forall_mem_of_forall₂ (forall₂_of_mapM (fun a member _ found => ⟨a, member, found⟩) made)

/-- A step over what may be absent, taken apart. -/
theorem optionMapM_eq_ok {ε α β : Type} {f : α → Except ε β} {o : Option α} {r : Option β} (made : o.mapM f = .ok r) :
    ∀ b ∈ r, ∃ a ∈ o, f a = .ok b := by
  cases o with
  | none =>
    cases made
    exact fun b member => absurd member (Option.not_mem_none b)
  | some a =>
    obtain ⟨b, found, made⟩ := bind_eq_ok.mp made
    cases made
    intro b' member
    cases member
    exact ⟨a, rfl, found⟩

namespace Lowering

variable {d : Dialect} {l : Lowering} {ps : Declarations}

/-- The lowering builds for the dialect, and its rules stay within what is lowered. -/
structure Serves (l : Lowering) (d : Dialect) : Prop where
  builder : l.builder.Serves d
  rules : ∀ rule ∈ l.rules.trial, MethodRule.KeepsLowered d l.builder rule

/-- The lowering of a dialect has a builder and rules that serve it. -/
theorem serves_lowering (made : d.lowering = .ok l) : l.Serves d := by
  obtain ⟨b, built, made⟩ := bind_eq_ok.mp made
  cases made
  have serves := Builder.serves_ofCatalog built
  exact ⟨serves, Dialect.rules_keepLowered serves⟩

/-- Operands in a row are lowered one by one. -/
theorem lowerAll_lowered {qs : List QueryExpr} {es : List (Expr String)}
    (each : ∀ q ∈ qs, ∀ e, (l.lower q).run = .ok (some e) → e.Lowered d l.builder ps)
    (made : (l.lowerAll qs).run = .ok (some es)) : ∀ e ∈ es, e.Lowered d l.builder ps := by
  induction qs generalizing es with
  | nil =>
    cases made
    exact List.forall_mem_nil _
  | cons q qs later =>
    obtain ⟨here, others⟩ := List.forall_mem_cons.mp each
    rw [lowerAll] at made
    obtain ⟨first, first', made⟩ := optionBind_eq_ok.mp made
    obtain ⟨rest, rest', made⟩ := optionBind_eq_ok.mp made
    cases made
    exact List.forall_mem_cons.mpr ⟨here first first', later others rest'⟩

/-- Lowering stays within its closure, over any declarations that include those of the expression. -/
theorem lower_within (serves : l.Serves d) (q : QueryExpr) : (∀ name t, q.Declares name t → ps name t) →
    ∀ e, (l.lower q).run = .ok (some e) → e.Lowered d l.builder ps := by
  induction q using QueryExpr.memInduction with
  | constant value type =>
    intro _ e made
    cases type with
    | none => exact .constant (optionLift_eq_ok.mp made)
    | some t => exact .constantOf (optionLift_eq_ok.mp made)
  | parameter name type =>
    intro within e made
    exact .parameter (within name type (.parameter name type)) (optionLift_eq_ok.mp made)
  | column table name type nullable =>
    intro _ e made
    exact .column (optionLift_eq_ok.mp made)
  | binary op left right first second =>
    intro within e made
    rw [lower] at made
    obtain ⟨x, x', made⟩ := optionBind_eq_ok.mp made
    obtain ⟨y, y', made⟩ := optionBind_eq_ok.mp made
    have left' := first (fun name t here => within name t (.left here)) x x'
    have right' := second (fun name t here => within name t (.right here)) y y'
    exact .binary left' right' (optionLift_eq_ok.mp made)
  | not operand below =>
    intro within e made
    rw [lower] at made
    obtain ⟨x, x', made⟩ := optionBind_eq_ok.mp made
    exact .not (below (fun name t here => within name t (.not here)) x x') (optionLift_eq_ok.mp made)
  | convert operand target below =>
    intro within e made
    rw [lower] at made
    obtain ⟨x, x', made⟩ := optionBind_eq_ok.mp made
    exact .convert (below (fun name t here => within name t (.convert here)) x x') (optionLift_eq_ok.mp made)
  | call receiver method arguments first second =>
    intro within e made
    rw [lower] at made
    obtain ⟨r, r', made⟩ := optionBind_eq_ok.mp made
    obtain ⟨xs, xs', made⟩ := optionBind_eq_ok.mp made
    have arguments' : ∀ e ∈ xs, e.Lowered d l.builder ps := lowerAll_lowered
      (fun q member => second q member fun name t here => within name t (.argument member here)) xs'
    refine MethodRules.firstOutcome_lowered serves.rules ⟨fun e member => ?_, arguments'⟩ made
    cases receiver with
    | none =>
      cases r'
      cases member
    | some q =>
      rw [lowerReceiver, map_eq_pure_bind] at r'
      obtain ⟨x, x', r'⟩ := optionBind_eq_ok.mp r'
      cases r'
      cases member
      exact first q rfl (fun name t here => within name t (.receiver here)) _ x'

/-- A query is lowered to such an expression, and its parameters are those that the query declares. -/
theorem lower_lowered (serves : l.Serves d) (q : QueryExpr) :
    ∀ e, (l.lower q).run = .ok (some e) → e.Lowered d l.builder q.Declares :=
  lower_within serves q fun _ _ here => here

/-- The same where the declarations are among others. -/
theorem lowerRequired_lowered (serves : l.Serves d) {q : QueryExpr} (within : ∀ name t, q.Declares name t → ps name t)
    {e : Expr String} (made : l.lowerRequired q = .ok e) : e.Lowered d l.builder ps := by
  obtain ⟨o, found, made⟩ := bind_eq_ok.mp made
  cases o with
  | none => cases made
  | some x =>
    cases made
    exact lower_within serves q within e found

/-- A predicate is a lowered truth value. -/
theorem lowerPredicate_lowered (serves : l.Serves d) {q : QueryExpr} (within : ∀ name t, q.Declares name t → ps name t)
    {e : Expr String} (made : l.lowerPredicate q = .ok e) : e.Lowered d l.builder ps ∧ e.type = .bool := by
  obtain ⟨x, found, made⟩ := bind_eq_ok.mp made
  dsimp only at made
  split at made
  · cases made
  next bool =>
    cases made
    exact ⟨lowerRequired_lowered serves within found, not_not.mp bool⟩

/-- A row limit is lowered like any other expression. -/
theorem lowerLimit_lowered (serves : l.Serves d) {q : QueryExpr} (within : ∀ name t, q.Declares name t → ps name t)
    {e : Expr String} (made : l.lowerLimit q = .ok e) : e.Lowered d l.builder ps := by
  obtain ⟨x, found, made⟩ := bind_eq_ok.mp made
  have lowered := lowerRequired_lowered serves within found
  split at made
  · cases made
    exact lowered
  · cases made
    exact lowered
  · cases made
    exact lowered
  · cases made

/-- A shape is lowered to a statement of lowered expressions, over what the shape declares. -/
theorem lowerShape_lowered (serves : l.Serves d) {shape : Shape} {s : Select String}
    (made : l.lowerShape shape = .ok s) : s.Lowered d l.builder shape.Declares := by
  obtain ⟨projections, projections', made⟩ := bind_eq_ok.mp made
  obtain ⟨predicate, predicate', made⟩ := bind_eq_ok.mp made
  obtain ⟨orderings, orderings', made⟩ := bind_eq_ok.mp made
  obtain ⟨limit, limit', made⟩ := bind_eq_ok.mp made
  cases made
  have within {q : QueryExpr} (member : q ∈ shape.expressions) (name : String) (t : LogicalType)
      (here : q.Declares name t) : shape.Declares name t := ⟨q, member, here⟩
  have filter : ∀ e ∈ predicate, e.Lowered d l.builder shape.Declares ∧ e.type = .bool := by
    intro e member
    obtain ⟨q, present, found⟩ := optionMapM_eq_ok predicate' e member
    exact lowerPredicate_lowered serves (within (Shape.mem_expressions.mpr (.inr (.inl present)))) found
  refine ⟨fun e member => ?_, fun e member => (filter e member).2⟩
  rcases Select.mem_expressions.mp member with ⟨p, inside, rfl⟩ | present | ⟨o, inside, rfl⟩ | present
  · obtain ⟨q, inside', found⟩ := mapM_eq_ok projections' p inside
    obtain ⟨x, lowered, found⟩ := bind_eq_ok.mp found
    cases found
    exact lowerRequired_lowered serves (within (Shape.mem_expressions.mpr (.inl ⟨q, inside', rfl⟩))) lowered
  · exact (filter e present).1
  · obtain ⟨q, inside', found⟩ := mapM_eq_ok orderings' o inside
    obtain ⟨x, lowered, found⟩ := bind_eq_ok.mp found
    cases found
    refine lowerRequired_lowered serves (within (Shape.mem_expressions.mpr ?_)) lowered
    exact .inr (.inr (.inl ⟨q, inside', rfl⟩))
  · obtain ⟨q, present', found⟩ := optionMapM_eq_ok limit' e present
    exact lowerLimit_lowered serves (within (Shape.mem_expressions.mpr (.inr (.inr (.inr present'))))) found

/-- A shape is lowered to a native statement. -/
theorem lowerShape_native (serves : l.Serves d) {shape : Shape} {s : Select String}
    (made : l.lowerShape shape = .ok s) : s.Native d :=
  (lowerShape_lowered serves made).native serves.builder

end Lowering

end SqlShape
