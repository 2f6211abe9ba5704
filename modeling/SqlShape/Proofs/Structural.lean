import SqlShape.Proofs.Lowered
import SqlShape.Proofs.Uses

/-!
# Refusals that no value causes

Lowering knows no values: it refuses a shape for its types, its calls and its constants, and never for what a parameter
is bound to. `RefusedOnly` is the triple for checks that may be refused, over the kind of the refusals; every function
that builds expressions and every rule for method calls is specified in it, and so is lowering
(`Lowering.lowerShape_structural`).
-/

namespace SqlShape

variable {α β : Type}

/-- A check is refused only in some ways. -/
def RefusedOnly (P : QueryError → Prop) (x : Except QueryError α) : Prop :=
  ∀ refusal, x = .error refusal → P refusal

namespace RefusedOnly

variable {P : QueryError → Prop}

theorem ok (a : α) : RefusedOnly P (.ok a) := by
  intro refusal refused
  cases refused

theorem error {refusal : QueryError} (holds : P refusal) : RefusedOnly P (.error refusal : Except QueryError α) := by
  intro refusal' refused
  cases refused
  exact holds

/-- More refusals may be admitted. -/
theorem mono {Q : QueryError → Prop} {x : Except QueryError α} (refused : RefusedOnly P x)
    (implied : ∀ refusal, P refusal → Q refusal) : RefusedOnly Q x :=
  fun refusal here => implied refusal (refused refusal here)

/-- Both parts of a sequence may refuse; the second is looked at for what the first gives. -/
theorem bind {x : Except QueryError α} {f : α → Except QueryError β} (first : RefusedOnly P x)
    (second : ∀ a, x = .ok a → RefusedOnly P (f a)) : RefusedOnly P (x >>= f) := by
  intro refusal refused
  rcases bind_eq_error.mp refused with here | ⟨a, found, later⟩
  · exact first refusal here
  · exact second a found refusal later

/-- Items are checked one by one. -/
theorem mapM {f : α → Except QueryError β} {items : List α} (each : ∀ a ∈ items, RefusedOnly P (f a)) :
    RefusedOnly P (items.mapM f) := by
  induction items with
  | nil => exact ok []
  | cons a rest later =>
    obtain ⟨here, others⟩ := List.forall_mem_cons.mp each
    rw [List.mapM_cons]
    exact here.bind fun b _ => (later others).bind fun bs _ => ok _

/-- An item that may be absent is checked where it is there. -/
theorem mapMOption {f : α → Except QueryError β} {item : Option α} (each : ∀ a ∈ item, RefusedOnly P (f a)) :
    RefusedOnly P (item.mapM f) := by
  cases item with
  | none => exact ok none
  | some a =>
    rw [Option.mapM_some, map_eq_pure_bind]
    exact (each a rfl).bind fun b _ => ok _

end RefusedOnly

/-- A refusal that is not about what a parameter is bound to. -/
def QueryError.IsStructural : QueryError → Prop
  | missingParameter _ | unsupportedBinding _ _ | typeMismatch (.binding _) _ _ => False
  | _ => True

/-- No value is to blame where a check is refused. -/
abbrev Structural (x : Except QueryError α) : Prop :=
  RefusedOnly QueryError.IsStructural x

open RefusedOnly (ok error)

/-! ## Building -/

namespace Builder

variable {ρ : Type} (b : Builder)

/-- A type without a mapping is refused for the catalog's sake. -/
theorem findMapping_structural (t : LogicalType) : Structural (b.findMapping t) := by
  unfold findMapping
  split
  · exact ok _
  · exact error trivial

/-- A constant is no binding: where it does not fit its type the query itself is wrong. -/
theorem constantOf_structural (value : Value) (t : LogicalType) :
    Structural (b.constantOf value t : Except QueryError (Expr ρ)) := by
  have fitted : ∀ m : TypeMapping, Structural (do
      unless value.fits t do throw (QueryError.typeMismatch .constant t (value.typeOr t))
      return (.constant (value.convertedTo t) m : Expr ρ)) := by
    intro m
    dsimp only
    split
    · exact ok _
    · exact error trivial
  refine (b.findMapping_structural t).bind fun m _ => ?_
  dsimp only
  split
  · split
    · exact fitted m
    · exact error trivial
  · exact fitted m

/-- A constant without a type is refused only where its value has none. -/
theorem constant_structural (value : Value) : Structural (b.constant value : Except QueryError (Expr ρ)) := by
  unfold constant
  split
  · exact b.constantOf_structural value _
  · exact error trivial

/-- A parameter is refused for its type, before anything is bound to it. -/
theorem parameter_structural (ref : ρ) (t : LogicalType) : Structural (b.parameter ref t) := by
  unfold parameter
  split
  · exact error trivial
  · exact (b.findMapping_structural _).bind fun _ _ => ok _
  · exact (b.findMapping_structural _).bind fun _ _ => ok _

/-- A column needs a mapping for its type. -/
theorem column_structural (table name : String) (t : LogicalType) (nullable : Bool) :
    Structural (b.column table name t nullable : Except QueryError (Expr ρ)) :=
  (b.findMapping_structural t).bind fun _ _ => ok _

/-- A function needs a mapping for its result. -/
theorem function_structural (name : String) (es : List (Expr ρ)) (t : LogicalType) :
    Structural (b.function name es t) :=
  (b.findMapping_structural t).bind fun _ _ => ok _

/-- A conversion needs a mapping for its target, unless there is nothing to convert. -/
theorem convert_structural (e : Expr ρ) (t : LogicalType) : Structural (b.convert e t) := by
  unfold convert
  split
  · exact ok e
  · exact (b.findMapping_structural t).bind fun _ _ => ok _

/-- Types that do not compare are refused in the name of the operation that compares them. -/
theorem requireComparable_structural (operation : Operation) {s t : LogicalType}
    (structural : (QueryError.typeMismatch operation s t).IsStructural) :
    Structural (requireComparable operation s t) := by
  unfold requireComparable
  split
  · exact ok ()
  · exact error structural

/-- A wrong type is refused in the name of the operation that asked for another. -/
theorem requireType_structural (operation : Operation) {t : LogicalType} {e : Expr ρ}
    (structural : (QueryError.typeMismatch operation t e.type).IsStructural) :
    Structural (requireType operation t e) := by
  unfold requireType
  split
  · exact ok ()
  · exact error structural

/-- A comparison is refused for the types of its sides. -/
theorem comparison_structural (op : BinaryOp) (l r : Expr ρ) : Structural (b.comparison op l r) :=
  (requireComparable_structural (.operator op) trivial).bind fun _ _ => ok _

/-- A connective is refused where a side is not a truth value. -/
theorem logical_structural (op : BinaryOp) (l r : Expr ρ) : Structural (b.logical op l r) :=
  (requireType_structural (.operator op) trivial).bind fun _ _ =>
    (requireType_structural (.operator op) trivial).bind fun _ _ => ok _

/-- A negation is refused where its operand is not a truth value. -/
theorem not_structural (e : Expr ρ) : Structural (b.not e) := by
  refine (requireType_structural .negation trivial).bind fun _ _ => ?_
  split <;> exact ok _

/-- Arithmetic is refused where the sides have no common numeric type. -/
theorem arithmetic_structural (op : BinaryOp) (l r : Expr ρ) : Structural (b.arithmetic op l r) := by
  unfold arithmetic
  dsimp only
  split
  · exact (b.findMapping_structural _).bind fun _ _ => ok _
  · exact error trivial

/-- Whatever its operator, a binary node is refused for the types of its sides. -/
theorem binary_structural (op : BinaryOp) (l r : Expr ρ) : Structural (b.binary op l r) := by
  unfold binary
  split
  · exact b.logical_structural op l r
  · split
    · exact b.comparison_structural op l r
    · exact b.arithmetic_structural op l r

/-- Membership in a parameter is refused where it is no sequence or where its elements do not compare with the item.
-/
theorem inParameter_structural (item source : Expr ρ) (negated : Bool) :
    Structural (b.inParameter item source negated) := by
  unfold inParameter
  split
  · exact (requireComparable_structural .membership trivial).bind fun _ _ => ok _
  · exact error trivial

/-- A pattern match is refused where the subject, the pattern or the escape is no text. -/
theorem like_structural (subject pattern escape : Expr ρ) : Structural (b.like subject pattern (some escape)) :=
  (requireType_structural .pattern trivial).bind fun _ _ => (requireType_structural .pattern trivial).bind fun _ _ =>
    RefusedOnly.bind (requireType_structural .pattern trivial) fun _ _ => ok _

end Builder

/-! ## Rules for method calls -/

namespace MethodCall

variable (c : MethodCall)

/-- A wrong number of arguments is the call's own fault. -/
theorem requireArguments_structural (expected : Nat) : Structural (c.requireArguments expected) := by
  unfold requireArguments
  split
  · exact ok ()
  · exact error trivial

theorem oneArgument_structural : Structural c.oneArgument := by
  unfold oneArgument
  split
  · exact ok _
  · exact error trivial

theorem twoArguments_structural : Structural c.twoArguments := by
  unfold twoArguments
  split
  · exact ok _
  · exact error trivial

/-- A method without its receiver is refused whatever is bound. -/
theorem requireReceiver_structural : Structural c.requireReceiver := by
  unfold requireReceiver
  split
  · exact ok _
  · exact error trivial

end MethodCall

namespace MethodRule

variable (d : Dialect) (b : Builder) (c : MethodCall)

/-- The place of a text or of bytes in another is a function call. -/
theorem position_structural (sought source : Expr String) : Structural (d.position b sought source) :=
  b.function_structural _ _ _

/-- A search in bytes is refused for the number of arguments or for what is sought, if that is no byte. -/
theorem bytesContain_structural : Structural (bytesContain d b c) := by
  unfold bytesContain
  refine c.twoArguments_structural.bind fun pair _ => ?_
  have compared : ∀ sought : Expr String, Structural (do
      let position ← d.position b sought pair.1
      let zero ← b.constant (.int 0)
      return some (← b.comparison .greater position zero)) := fun sought =>
    (position_structural d b sought _).bind fun _ _ => (b.constant_structural _).bind fun _ _ =>
      (b.comparison_structural _ _ _).bind fun _ _ => ok _
  dsimp only
  split
  · exact ok none
  · split
    · exact error trivial
    · split
      · exact compared _
      · exact (b.convert_structural _ _).bind fun sought _ => compared sought

/-- The first byte is refused for the arguments of the call only. -/
theorem bytesFirst_structural : Structural (bytesFirst d b c) := by
  unfold bytesFirst
  refine c.oneArgument_structural.bind fun source _ => ?_
  dsimp only
  split
  · exact ok none
  · split
    · exact (b.constant_structural _).bind fun _ _ => ok _
    · exact (b.constant_structural _).bind fun _ _ => (b.convert_structural _ _).bind fun _ _ => ok _

/-- The length of a constant that 32 bits do not hold is refused, and a constant is no binding. -/
theorem bytesLength_structural : Structural (bytesLength d b c) := by
  unfold bytesLength
  refine c.requireReceiver_structural.bind fun source _ => (c.requireArguments_structural 0).bind fun _ _ => ?_
  dsimp only
  split
  · exact ok none
  · split
    · split
      · exact error trivial
      · exact (b.constant_structural _).bind fun _ _ => ok _
    · exact (b.function_structural _ _ _).bind fun _ _ => ok _

/-- The rule for bytes has three methods, and each is refused for the call only. -/
theorem bytes_structural : Structural ((bytes d).apply b c) := by
  unfold bytes
  dsimp only
  split
  · exact bytesLength_structural d b c
  · split
    · exact bytesContain_structural d b c
    · exact bytesFirst_structural d b c

/-- Membership is left to other rules where the source is no parameter. -/
theorem membership_structural : Structural (membership.apply b c) := by
  unfold membership
  refine c.twoArguments_structural.bind fun pair _ => ?_
  dsimp only
  split
  · exact (b.inParameter_structural _ _ _).bind fun _ _ => ok _
  · exact ok none

/-- Equality takes a receiver and one argument or two arguments, and compares them. -/
theorem equality_structural : Structural (equality.apply b c) := by
  have operands : Structural (equalityOperands c) := by
    unfold equalityOperands
    split
    · exact c.oneArgument_structural.bind fun _ _ => ok _
    · exact c.twoArguments_structural
  refine operands.bind fun pair _ => ?_
  dsimp only
  split
  · exact ok _
  · split
    · exact ok _
    · exact (b.comparison_structural _ _ _).bind fun _ _ => ok _

/-! ### Numbers -/

/-- Rounding to no digits may need a constant for their number. -/
theorem numberRound_structural (operand : Expr String) (digits : Option (Expr String)) :
    Structural (numberRound d b operand digits) := by
  unfold numberRound
  split
  · exact ok _
  · split
    · exact ok _
    · split
      · exact (b.constant_structural _).bind fun _ _ => ok _
      · exact ok _

/-- The greater or smaller of two constants is a constant again, and of others a function call. -/
theorem numberExtremum_structural (greatest : Bool) (l r : Expr String) :
    Structural (numberExtremum d b greatest l r) := by
  unfold numberExtremum
  dsimp only
  split
  · exact b.constantOf_structural _ _
  · exact b.function_structural _ _ _

/-- The methods of numbers are refused for the number and the types of their arguments. -/
theorem lowerNumber_structural (operand : Expr String) : Structural (lowerNumber d b c operand) := by
  have extremum : ∀ (greatest : Bool) (l r : Expr String), Structural (do
      if !r.type.isNumeric then return none
      return some (← numberExtremum d b greatest l r)) := by
    intro greatest l r
    split
    · exact ok none
    · exact (numberExtremum_structural d b greatest l r).bind fun _ _ => ok _
  unfold lowerNumber
  split
  · exact (c.requireArguments_structural 1).bind fun _ _ => ok _
  · refine (c.requireArguments_structural 1).bind fun _ _ => ?_
    split <;> exact ok _
  · refine (c.requireArguments_structural 1).bind fun _ _ => ?_
    split <;> exact ok _
  · dsimp only
    split
    · exact error trivial
    · split
      · exact ok none
      · split
        · exact ok none
        · exact (numberRound_structural d b operand _).bind fun _ _ => ok _
  · exact c.twoArguments_structural.bind fun pair _ => extremum _ pair.1 pair.2
  · exact c.twoArguments_structural.bind fun pair _ => extremum _ pair.1 pair.2
  · exact ok none

/-- The rule for numbers is refused for a call without arguments. -/
theorem numbers_structural : Structural ((numbers d).apply b c) := by
  unfold numbers
  dsimp only
  split
  · exact error trivial
  · split
    · exact lowerNumber_structural d b c _
    · exact ok none

/-! ### Texts -/

/-- A fragment is matched by a pattern of constants. -/
theorem fragmentMatch_structural (subject : Expr String) (fragment : String) (atStart : Bool) :
    Structural (fragmentMatch d b subject fragment atStart) :=
  (b.constant_structural _).bind fun _ _ => (b.constant_structural _).bind fun _ _ => b.like_structural _ _ _

/-- A search in a text is built from functions, constants and comparisons of texts and numbers. -/
theorem textContains_structural (subject pattern : Expr String) : Structural (textContains d b subject pattern) := by
  have found : Structural (do
      let position ← d.position b pattern subject
      let zero ← b.constant (.int 0)
      b.comparison .greater position zero) :=
    (position_structural d b _ _).bind fun _ _ => (b.constant_structural _).bind fun _ _ =>
      b.comparison_structural _ _ _
  unfold textContains
  dsimp only
  split
  · exact ok _
  · split
    · exact ok _
    · exact found
  · exact found.bind fun _ _ => (b.constant_structural _).bind fun _ _ =>
      (b.comparison_structural _ _ _).bind fun _ _ => b.logical_structural _ _ _

/-- A search at the start is a pattern match for a constant and a comparison for the rest. -/
theorem textStartsWith_structural (subject pattern : Expr String) :
    Structural (textStartsWith d b subject pattern) := by
  unfold textStartsWith
  split
  · exact ok _
  · exact fragmentMatch_structural d b _ _ _
  · exact (b.constant_structural _).bind fun _ _ => (b.function_structural _ _ _).bind fun _ _ =>
      b.comparison_structural _ _ _

theorem textTail_structural (subject length : Expr String) : Structural (textTail d b subject length) := by
  unfold textTail
  split
  · exact ok _
  · exact (b.constant_structural _).bind fun _ _ => (b.arithmetic_structural _ _ _).bind fun _ _ => ok _

/-- A search at the end is a pattern match for a constant and a comparison with the tail for the rest. -/
theorem textEndsWith_structural (subject pattern : Expr String) : Structural (textEndsWith d b subject pattern) := by
  unfold textEndsWith
  split
  · exact ok _
  · exact fragmentMatch_structural d b _ _ _
  · exact (b.function_structural _ _ _).bind fun _ _ => (textTail_structural d b _ _).bind fun _ _ =>
      b.comparison_structural _ _ _

theorem textFunction_structural (name : String) (compute : String → String) (subject : Expr String) :
    Structural (textFunction name compute b subject) := by
  unfold textFunction
  split
  · exact b.constant_structural _
  · exact ok _

/-- A part of a constant is a constant; of others it is a function call with shifted places. -/
theorem textSubstring_structural (subject start : Expr String) (length : Option (Expr String)) :
    Structural (textSubstring d b subject start length) := by
  unfold textSubstring
  split
  · exact b.constant_structural _
  · dsimp only
    split
    · refine (b.constant_structural _).bind fun place _ => ?_
      split
      · exact ok _
      · exact (b.function_structural _ _ _).bind fun _ _ => ok _
      · exact ok _
    · refine (b.constant_structural _).bind fun _ _ => (b.arithmetic_structural _ _ _).bind fun place _ => ?_
      split
      · exact ok _
      · exact (b.function_structural _ _ _).bind fun _ _ => ok _
      · exact ok _

/-- A search adds the check of its argument to what the search itself refuses. -/
theorem lowerSearch_structural {search : Expr String → Expr String → Except QueryError (Expr String)}
    {subject : Expr String} (searches : ∀ pattern, Structural (search subject pattern)) :
    Structural (lowerSearch c search subject) := by
  refine c.oneArgument_structural.bind fun pattern _ => ?_
  split
  · exact ok none
  · exact (searches pattern).bind fun _ _ => ok _

/-- The methods of texts are refused for the number and the types of their arguments. -/
theorem lowerText_structural (subject : Expr String) : Structural (lowerText d b c subject) := by
  unfold lowerText
  split
  · exact lowerSearch_structural c (textContains_structural d b subject)
  · exact lowerSearch_structural c (textStartsWith_structural d b subject)
  · exact lowerSearch_structural c (textEndsWith_structural d b subject)
  · exact (c.requireArguments_structural 0).bind fun _ _ => (textFunction_structural b _ _ _).bind fun _ _ => ok _
  · exact (c.requireArguments_structural 0).bind fun _ _ => (textFunction_structural b _ _ _).bind fun _ _ => ok _
  · exact (c.requireArguments_structural 0).bind fun _ _ => (textFunction_structural b _ _ _).bind fun _ _ => ok _
  · refine (c.requireArguments_structural 0).bind fun _ _ => ?_
    split
    · exact (b.constant_structural _).bind fun _ _ => ok _
    · exact (b.function_structural _ _ _).bind fun _ _ => ok _
  · split
    · split
      · exact ok none
      · exact (textSubstring_structural d b _ _ _).bind fun _ _ => ok _
    · split
      · exact ok none
      · exact (textSubstring_structural d b _ _ _).bind fun _ _ => ok _
    · exact error trivial
  · exact ok none

/-- The rule for texts is refused for a call without a receiver. -/
theorem strings_structural : Structural ((strings d).apply b c) := by
  refine c.requireReceiver_structural.bind fun subject _ => ?_
  split
  · exact ok none
  · exact lowerText_structural d b c subject

end MethodRule

/-- The rules of a dialect are refused for no value. -/
theorem Dialect.rules_structural (d : Dialect) (b : Builder) (c : MethodCall) :
    ∀ rule ∈ d.rules.trial, Structural (rule.apply b c) := by
  intro rule member
  rcases MethodRules.mem_registerAll member with none | listed
  · cases none
  · simp only [List.mem_cons, List.not_mem_nil, or_false] at listed
    rcases listed with rfl | rfl | rfl | rfl | rfl
    · exact MethodRule.bytes_structural d b c
    · exact MethodRule.membership_structural b c
    · exact MethodRule.strings_structural d b c
    · exact MethodRule.numbers_structural d b c
    · exact MethodRule.equality_structural b c

/-- The first rule that does not decline decides, so the rules together refuse what one of them refuses. -/
theorem MethodRules.firstOutcome_structural {b : Builder} {c : MethodCall} {rules : List MethodRule}
    (each : ∀ rule ∈ rules, Structural (rule.apply b c)) : Structural (firstOutcome b c rules) := by
  induction rules with
  | nil => exact ok none
  | cons rule rules later =>
    obtain ⟨here, others⟩ := List.forall_mem_cons.mp each
    rw [firstOutcome]
    split
    · split
      · exact later others
      · exact here
    · exact later others

/-! ## Lowering -/

namespace Lowering

/-- A sequence of steps that may have no outcome refuses what a step refuses. -/
theorem optionBind_structural {x : OptionT (Except QueryError) α} {f : α → OptionT (Except QueryError) β}
    (first : Structural x.run) (second : ∀ a, Structural (f a).run) : Structural (x >>= f).run := by
  rw [OptionT.run_bind, Option.elimM]
  refine first.bind fun found _ => ?_
  cases found with
  | none => exact ok none
  | some a => exact second a

theorem optionLift_structural {x : Except QueryError α} (structural : Structural x) :
    Structural (liftM x : OptionT (Except QueryError) α).run :=
  structural.bind fun _ _ => ok _

variable {d : Dialect} {l : Lowering}

/-- Operands are lowered one by one. The first that every rule declines ends it. -/
theorem lowerAll_structural {qs : List QueryExpr} (each : ∀ q ∈ qs, Structural (l.lower q).run) :
    Structural (l.lowerAll qs).run := by
  induction qs with
  | nil => exact ok _
  | cons q qs later =>
    obtain ⟨here, others⟩ := List.forall_mem_cons.mp each
    rw [lowerAll]
    exact optionBind_structural here fun _ => optionBind_structural (later others) fun _ => ok _

/-- Lowering is refused for no value. -/
theorem lower_structural (rules : ∀ c, ∀ rule ∈ l.rules.trial, Structural (rule.apply l.builder c)) (q : QueryExpr) :
    Structural (l.lower q).run := by
  induction q using QueryExpr.memInduction with
  | constant value type =>
    cases type with
    | none => exact optionLift_structural (l.builder.constant_structural value)
    | some t => exact optionLift_structural (l.builder.constantOf_structural value t)
  | parameter name type => exact optionLift_structural (l.builder.parameter_structural name type)
  | column table name type nullable =>
    exact optionLift_structural (l.builder.column_structural table name type nullable)
  | binary op left right first second =>
    rw [lower]
    exact optionBind_structural first fun _ => optionBind_structural second fun _ =>
      optionLift_structural (l.builder.binary_structural op _ _)
  | not operand below =>
    rw [lower]
    exact optionBind_structural below fun _ => optionLift_structural (l.builder.not_structural _)
  | convert operand target below =>
    rw [lower]
    exact optionBind_structural below fun _ => optionLift_structural (l.builder.convert_structural _ target)
  | call receiver method arguments first second =>
    have receiver' : Structural (l.lowerReceiver receiver).run := by
      cases receiver with
      | none => exact ok _
      | some q =>
        rw [lowerReceiver, map_eq_pure_bind]
        exact optionBind_structural (first q rfl) fun _ => ok _
    rw [lower]
    exact optionBind_structural receiver' fun _ => optionBind_structural (lowerAll_structural second) fun _ =>
      MethodRules.firstOutcome_structural (rules _)

/-- A query that no rule lowers is refused for its form. -/
theorem lowerRequired_structural (rules : ∀ c, ∀ rule ∈ l.rules.trial, Structural (rule.apply l.builder c))
    (q : QueryExpr) : Structural (l.lowerRequired q) := by
  refine (lower_structural rules q).bind fun found _ => ?_
  cases found with
  | none => exact error trivial
  | some e => exact ok e

/-- For every dialect, a shape is refused for no value when it is lowered. -/
theorem lowerShape_structural (made : d.lowering = .ok l) (shape : Shape) : Structural (l.lowerShape shape) := by
  obtain ⟨b, -, made⟩ := bind_eq_ok.mp made
  cases made
  have required := lowerRequired_structural (l := ⟨b, d.rules⟩) (d.rules_structural b)
  refine (RefusedOnly.mapM fun p _ => (required _).bind fun _ _ => ok _).bind fun projections _ => ?_
  refine (RefusedOnly.mapMOption fun q _ => ?_).bind fun predicate _ => ?_
  · refine (required q).bind fun e _ => ?_
    dsimp only
    split
    · exact error trivial
    · exact ok e
  refine (RefusedOnly.mapM fun o _ => (required _).bind fun _ _ => ok _).bind fun orderings _ => ?_
  refine (RefusedOnly.mapMOption fun q _ => ?_).bind fun limit _ => ok _
  refine (required q).bind fun e _ => ?_
  split
  · exact ok e
  · exact ok e
  · exact ok e
  · exact error trivial

end Lowering

end SqlShape
