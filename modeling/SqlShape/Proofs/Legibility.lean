import SqlShape.Proofs.Phrasing

/-!
# Legible expressions

A written expression is read as its phrase (`node_reads`) where no operand that is written without parentheses is looser
than the operator it belongs to. On SQL Server this is so for every native expression, since a condition is never an
operand there but of a connective. On SQLite it is not: a negation, a null test, a membership or a pattern match is
written without parentheses as an operand of a comparison, of a null test or of a membership. `Expr.isLegible` leaves
out the operands that are read as something else.
-/

namespace SqlShape

open Grammar

/-! ## Operands without parentheses -/

namespace Expr

variable {ρ : Type}

/-- A negation. -/
def isNegation : Expr ρ → Bool
  | negation _ _ => true
  | _ => false

/-- A null test, a membership or a pattern match. -/
def isPredicate : Expr ρ → Bool
  | nullTest _ _ _ | inList _ _ _ _ | inParameter _ _ _ _ | like _ _ _ _ => true
  | _ => false

/-- A negation, a connective or a comparison with a negation on its right: an operator behind it takes a part of it. -/
def isLoose : Expr ρ → Bool
  | negation _ _ => true
  | binary op _ r _ => op.isLogical || op.isComparison && r.isNegation
  | _ => false

/-- The binary operator of an expression. -/
def operator? : Expr ρ → Option BinaryOp
  | binary op _ _ _ => some op
  | _ => none

/-- What an expression is by itself. -/
def nature (e : Expr ρ) : Place :=
  if e.isCondition then .condition else .value

/-- The operands of a node are read as its operands. Where conditions are values, those of a comparison, of a null test
and of a membership may be conditions without parentheses. -/
def isLegible (d : Dialect) (e : Expr ρ) : Bool :=
  d.separatesConditions ||
    match e with
    | binary op l r _ =>
      !op.isComparison
        || (!l.isNegation && (!l.isPredicate || decide (d.level op = Dialect.predicateLevel)) && !r.isPredicate)
    | nullTest e _ _ => !e.isNegation
    | inList item _ _ _ => !item.isLoose
    | _ => true

/-- A parameter has a word for its name. -/
def hasWordName : Expr String → Bool
  | parameter name _ _ => name.toList.all Scanner.isWordPart
  | _ => true

/-- A node of a dialect with a word for its name. -/
structure Regular (d : Dialect) (e : Expr String) : Prop where
  typed : e.Typed
  standard : e.Standard d
  named : e.hasWordName = true

/-- A regular node that is read as it was written. -/
structure Clear (d : Dialect) (e : Expr String) : Prop extends Regular d e where
  legible : e.isLegible d = true

/-- What is no truth value is no condition. -/
theorem Typed.isCondition_eq_false {e : Expr ρ} (typed : e.Typed) (other : e.type ≠ .bool) : e.isCondition = false :=
  Bool.not_eq_true _ ▸ fun condition => other (Specialization.type_condition typed condition)

end Expr

/-- How tight a phrase is on its left and on its right. -/
structure Tightness where
  left : Nat
  right : Nat
deriving DecidableEq, Repr

/-- The phrase can stand between operators of these strengths: the one in front is looser, the one behind no tighter. -/
def Tightness.Bears (t : Tightness) (front behind : Nat) : Prop :=
  front < t.left ∧ behind ≤ t.right

namespace Dialect

/-- A phrase that ends in parentheses or has no operators is tighter than all of them. -/
def closed : Tightness :=
  ⟨7, 7⟩

/-- How tight a null test, a membership or a pattern match is. -/
def predicateTightness : Tightness :=
  ⟨predicateLevel, predicateLevel⟩

/-- How tight a written expression is. A negation at the right end goes on with every operator that is tighter. -/
def tightness (d : Dialect) : Expr String → Tightness
  | .binary op _ r _ => ⟨d.level op, if op.isComparison && r.isNegation then notLevel - 1 else d.level op⟩
  | .negation _ _ => ⟨closed.left, notLevel - 1⟩
  | .nullTest _ _ _ | .inList _ _ _ _ | .inParameter _ _ _ _ | .like _ _ _ _ => predicateTightness
  | _ => closed

/-- How tight an expression is that is written in a place. -/
def placedTightness (d : Dialect) (place : Place) (e : Expr String) : Tightness :=
  match place with
  | .condition =>
    if !e.isCondition && (e.truth?.isSome || d.separatesConditions) then predicateTightness else d.tightness e
  | .value => if e.isCondition && d.separatesConditions then closed else d.tightness e

variable {d : Dialect} {e : Expr String}

/-- On the right, a comparison is as loose as a negation that ends it. -/
theorem tightness_binary (op : BinaryOp) (l r : Expr String) (m : TypeMapping) :
    d.tightness (.binary op l r m) =
      ⟨d.level op, if op.isComparison && r.isNegation then notLevel - 1 else d.level op⟩ :=
  rfl

section Levels

variable {op : BinaryOp}

theorem level_pos (op : BinaryOp) : 0 < d.level op := by
  cases d <;> cases op <;> decide

/-- Connectives are looser than negations. -/
theorem level_of_isLogical (logical : op.isLogical = true) : d.level op < notLevel := by
  cases op with
  | and | or => cases d <;> decide
  | _ => cases logical

/-- All other operators are at least as tight as predicates. -/
theorem predicateLevel_le_level (other : op.isLogical = false) : predicateLevel ≤ d.level op := by
  cases op with
  | and | or => cases other
  | _ => cases d <;> decide

/-- Comparisons are looser than sums. -/
theorem level_of_isComparison (compares : op.isComparison = true) : d.level op < 6 := by
  cases op with
  | and | or | add | subtract => cases compares
  | _ => cases d <;> decide

/-- Sums are the tightest operators. -/
theorem level_of_sum (other : op.isLogical = false) (other' : op.isComparison = false) : d.level op = 6 := by
  cases op with
  | and | or => cases other
  | add | subtract => rfl
  | _ => cases other'

theorem precedence_of_sum (other : op.isLogical = false) (other' : op.isComparison = false) : op.precedence = 5 := by
  cases op with
  | and | or => cases other
  | add | subtract => rfl
  | _ => cases other'

theorem operandPlace_of_not_isLogical (other : op.isLogical = false) : op.operandPlace = .value := by
  rw [BinaryOp.operandPlace, other, if_neg Bool.false_ne_true]

theorem isLogical_of_isComparison (compares : op.isComparison = true) : op.isLogical = false := by
  cases op with
  | and | or => cases compares
  | _ => rfl

theorem isComparison_of_isLogical (logical : op.isLogical = true) : op.isComparison = false := by
  cases op with
  | and | or => rfl
  | _ => cases logical

end Levels

/-- On its right, a binary expression is no tighter than its operator. -/
theorem right_le_level (op : BinaryOp) (l r : Expr String) (m : TypeMapping) :
    (d.tightness (.binary op l r m)).right ≤ d.level op := by
  rw [tightness_binary]
  dsimp only
  split
  next ends =>
    have compares := (Bool.and_eq_true_iff.mp ends).1
    exact Nat.le_trans (by decide) (predicateLevel_le_level (isLogical_of_isComparison compares))
  next => exact Nat.le_refl _

/-- Without operators around it, every expression can stand as it is. -/
theorem bears_zero (e : Expr String) : (d.tightness e).Bears 0 0 := by
  refine ⟨?_, Nat.zero_le _⟩
  cases e with
  | binary op l r m => exact level_pos op
  | _ => exact Nat.succ_pos _

/-- What is no condition has no operator but a sum or difference. -/
theorem tightness_value (value : e.isCondition = false) : d.tightness e = closed ∨ d.tightness e = ⟨6, 6⟩ := by
  cases e with
  | binary op l r m =>
    rw [Expr.isCondition, Bool.or_eq_false_iff] at value
    refine .inr ?_
    cases op with
    | add | subtract => rfl
    | and | or => cases value.2
    | _ => cases value.1
  | constant | parameter | column | function | convert => exact .inl rfl
  | _ => cases value

/-- What is no condition can stand beside every predicate. -/
theorem bears_value (value : e.isCondition = false) {front behind : Nat} (looser : front < 6) (looser' : behind ≤ 6) :
    (d.tightness e).Bears front behind := by
  rcases tightness_value (d := d) value with tight | tight
  · rw [tight]
    exact ⟨Nat.lt_succ_of_lt looser, Nat.le_succ_of_le looser'⟩
  · rw [tight]
    exact ⟨looser, looser'⟩

/-! ## Reading what is written -/

/-- A written expression is read as its phrase between operators that leave it whole. -/
def NodeReads (d : Dialect) (e : Expr String) : Prop :=
  ∀ lexemes, d.node e = .ok lexemes → ∀ front behind, (d.tightness e).Bears front behind →
    Reads d (d.category e.nature) front behind (lexemes.flatMap (Lexeme.tokens d)) (d.phrase e)

/-- A condition in the place of a value. -/
theorem choice_reads (reads : NodeReads .sqlServer e) (condition : e.isCondition = true) {lexemes : List Lexeme}
    (written : sqlServer.node e = .ok lexemes) {front behind : Nat} :
    Reads .sqlServer .value front behind
      (([Lexeme.plain "CASE WHEN "] ++ lexemes ++ [Lexeme.plain " THEN CAST(1 AS bit) ELSE CAST(0 AS bit) END"]).flatMap
        (Lexeme.tokens .sqlServer))
      (.choice (phrase .sqlServer e) (.bit true) (.bit false)) := by
  have read := reads lexemes written 0 0 (bears_zero e)
  rw [Expr.nature, condition] at read
  have yes : Reads .sqlServer (category .sqlServer .value) 0 0 (bitTokens "1") (.bit true) := reads_bit true
  have no : Reads .sqlServer (category .sqlServer .value) 0 0 (bitTokens "0") (.bit false) := reads_bit false
  have choice : Reads .sqlServer .value front behind _ _ := @Reads.choice .sqlServer _ _ _ _ _ _ _ _ read yes no
  rw [List.flatMap_append, List.flatMap_append, List.flatMap_singleton, List.flatMap_singleton, tokens_case,
    tokens_then]
  simpa only [List.append_assoc, List.cons_append, List.nil_append] using choice

/-- A stored truth value in the place of a condition. -/
theorem stored_reads (reads : NodeReads .sqlServer e) (value : e.isCondition = false) {lexemes : List Lexeme}
    (written : sqlServer.node e = .ok lexemes) {front behind : Nat} (bears : predicateTightness.Bears front behind) :
    Reads .sqlServer .condition front behind
      ((lexemes ++ [Lexeme.plain " = CAST(1 AS bit)"]).flatMap (Lexeme.tokens .sqlServer))
      (.binary .equal (phrase .sqlServer e) (.bit true)) := by
  have tight : (tightness .sqlServer e).Bears front predicateLevel :=
    bears_value value (Nat.lt_of_lt_of_le bears.1 (by decide)) (by decide)
  have read := reads lexemes written front predicateLevel tight
  rw [Expr.nature, value] at read
  rw [List.flatMap_append, List.flatMap_singleton, tokens_bit, ← List.append_assoc]
  exact @Reads.binary .sqlServer front behind .equal _ _ _ _ bears.1 bears.2 read (reads_bit true)

/-- A truth value in the place of a condition. -/
theorem truth_reads (value : Bool) {front behind : Nat} (bears : predicateTightness.Bears front behind) :
    Reads d (d.category .condition) front behind ((truthCondition value).flatMap (Lexeme.tokens d)) (.truth value) := by
  have first : Reads d (d.category .value) front (d.level .equal) [.number (if value then "1" else "0")]
    (.number false (if value then "1" else "0")) := .leaf rfl
  have second : Reads d (d.category .value) (d.level .equal) behind [.number "1"] (.number false "1") := .leaf rfl
  rw [tokens_truth]
  exact @Reads.binary d front behind .equal _ _ _ _ bears.1 bears.2 first second

/-- An expression is read in a place that suits its type. -/
theorem fitted_reads (reads : NodeReads d e) (place : Place) (suits : place = .condition → e.type = .bool)
    {lexemes : List Lexeme} (written : d.fitted place e (d.node e) = .ok lexemes) {front behind : Nat}
    (bears : (d.placedTightness place e).Bears front behind) :
    Reads d (d.category place) front behind (lexemes.flatMap (Lexeme.tokens d)) (d.placed place e (d.phrase e)) := by
  have node : d.node e = .ok lexemes → (d.tightness e).Bears front behind →
      Reads d (d.category e.nature) front behind (lexemes.flatMap (Lexeme.tokens d)) (d.phrase e) :=
    fun written => reads lexemes written front behind
  unfold Expr.nature at node
  unfold fitted at written
  unfold placedTightness at bears
  unfold placed
  cases place with
  | condition =>
    cases condition : e.isCondition with
    | true =>
      simp only [condition, Bool.not_true, Bool.false_and, Bool.false_eq_true, if_false] at written bears ⊢
      rw [condition] at node
      exact node written bears
    | false =>
      simp only [condition, suits rfl, Bool.not_false, decide_true, Bool.and_self, Bool.true_and, if_true]
        at written bears ⊢
      cases truth : e.truth? with
      | some value =>
        rw [truth] at written bears
        cases written
        exact truth_reads value bears
      | none =>
        rw [truth] at written bears
        obtain ⟨inner, found, rest⟩ := bind_eq_ok.mp written
        cases rest
        cases d with
        | sqlite =>
          rw [condition] at node
          exact node found bears
        | sqlServer => exact stored_reads reads condition found bears
  | value =>
    cases condition : e.isCondition with
    | false =>
      simp only [condition, Bool.false_and, Bool.false_eq_true, if_false] at written bears ⊢
      rw [condition] at node
      exact node written bears
    | true =>
      simp only [condition, Bool.true_and] at written bears ⊢
      cases d with
      | sqlite =>
        rw [condition] at node
        exact node written bears
      | sqlServer =>
        obtain ⟨inner, found, rest⟩ := bind_eq_ok.mp written
        cases rest
        exact choice_reads reads condition found

/-! ## Where operands stand -/

/-- What is no condition, or is no condition any more where it stands, can stand beside every predicate. -/
theorem bears_operand (value : d.separatesConditions = true ∨ e.isCondition = false) {front behind : Nat}
    (looser : front < 6) (looser' : behind ≤ 6) : (d.placedTightness .value e).Bears front behind := by
  unfold placedTightness
  dsimp only
  split
  next => exact ⟨Nat.lt_succ_of_lt looser, Nat.le_succ_of_le looser'⟩
  next plain =>
    refine bears_value ?_ looser looser'
    rcases value with separates | value
    · rw [separates, Bool.and_true, Bool.not_eq_true] at plain
      exact plain
    · exact value

/-- Where conditions are values, one is as tight as it is. -/
theorem placedTightness_of_not_separates (together : d.separatesConditions = false) :
    d.placedTightness .value e = d.tightness e := by
  unfold placedTightness
  rw [together, Bool.and_false]
  rfl

/-- What is not loose can stand before a predicate. -/
theorem bears_before_predicate (firm : d.separatesConditions = true ∨ e.isLoose = false) {front : Nat}
    (looser : front < predicateLevel) : (d.placedTightness .value e).Bears front predicateLevel := by
  have low : front < 6 := Nat.lt_of_lt_of_le looser (by decide)
  rcases firm with separates | firm
  · exact bears_operand (.inl separates) low (by decide)
  cases together : d.separatesConditions with
  | true => exact bears_operand (.inl together) low (by decide)
  | false =>
    rw [placedTightness_of_not_separates together]
    cases e with
    | binary op l r m =>
      obtain ⟨noConnective, noNegation⟩ := Bool.or_eq_false_iff.mp firm
      have tight := predicateLevel_le_level (d := d) noConnective
      rw [tightness_binary, noNegation, if_neg Bool.false_ne_true]
      exact ⟨Nat.lt_of_lt_of_le looser tight, tight⟩
    | negation => cases firm
    | nullTest | inList | inParameter | like => exact ⟨looser, Nat.le_refl _⟩
    | _ => exact bears_value rfl low (by decide)

/-- What is no connective can stand beside one. -/
theorem bears_connective (other : ∀ op, e.operator? = some op → op.isLogical = false) {front behind : Nat}
    (low : front < notLevel) (low' : behind < notLevel) : (d.tightness e).Bears front behind := by
  have below : ∀ {level : Nat}, predicateLevel ≤ level → front < level ∧ behind ≤ level := fun high =>
    ⟨Nat.lt_trans low high, Nat.le_of_lt (Nat.lt_trans low' high)⟩
  cases e with
  | binary op l r m =>
    obtain ⟨left, right⟩ := below (predicateLevel_le_level (d := d) (other op rfl))
    rw [tightness_binary]
    refine ⟨left, ?_⟩
    dsimp only
    split
    · exact Nat.le_of_lt_succ low'
    · exact right
  | negation => exact ⟨Nat.lt_trans low (by decide : notLevel < closed.left), Nat.le_of_lt_succ low'⟩
  | nullTest | inList | inParameter | like => exact below (Nat.le_refl _)
  | _ => exact below (by decide : predicateLevel ≤ closed.left)

/-- An operand can stand between operators of these strengths, or is written in parentheses. -/
def Fits (d : Dialect) (op : BinaryOp) (isRight : Bool) (front behind : Nat) (e : Expr String) : Prop :=
  d.needsParentheses e op isRight op.operandPlace = false → (d.placedTightness op.operandPlace e).Bears front behind

section Operands

variable {op : BinaryOp} {l r : Expr String} {m : TypeMapping} {isRight : Bool} {front behind : Nat}

/-- An operand of a connective that is not itself one of the same kind. -/
theorem fits_connective (logical : op.isLogical = true) (other : e.operator? ≠ some op) (looser : front ≤ d.level op)
    (looser' : behind ≤ d.level op) : Fits d op isRight front behind e := by
  have connective := level_of_isLogical (d := d) logical
  have low := Nat.lt_of_le_of_lt looser connective
  have low' := Nat.lt_of_le_of_lt looser' connective
  have place : op.operandPlace = .condition := if_pos logical
  intro free
  rw [place] at free ⊢
  unfold placedTightness
  dsimp only
  split
  next => exact ⟨Nat.lt_succ_of_lt low, Nat.le_of_lt (Nat.lt_succ_of_lt low')⟩
  next =>
    refine bears_connective ?_ low low'
    -- a connective of another kind would have parentheses
    intro op' found
    cases e with
    | binary op'' l r m =>
      cases found
      by_contra connects
      rw [Bool.not_eq_false] at connects
      have differs : op' ≠ op := fun same => other (congrArg some same)
      simp only [needsParentheses, reduceCtorEq, decide_false, Bool.false_and, Bool.not_false, Bool.true_and, connects,
        logical, differs, ne_eq, not_false_eq_true, decide_true, Bool.or_true, Bool.true_or] at free
    | _ => cases found

/-- The left operand of a connective that is one of the same kind. -/
theorem fits_chain (logical : op.isLogical = true) (looser : front < d.level op) :
    Fits d op isRight front (d.level op) (.binary op l r m) := by
  have place : op.operandPlace = .condition := if_pos logical
  have condition : (Expr.binary op l r m).isCondition = true := by
    rw [Expr.isCondition, logical, Bool.or_true]
  intro _
  rw [place, placedTightness, condition, tightness_binary, isComparison_of_isLogical logical]
  exact ⟨looser, Nat.le_refl _⟩

/-- A comparison or a connective that is compared is written in parentheses. -/
theorem needsParentheses_comparison (compares : op.isComparison = true) (together : d.separatesConditions = false)
    {op' : BinaryOp} (condition : (Expr.binary op' l r m).isCondition = true) :
    d.needsParentheses (.binary op' l r m) op isRight .value = true := by
  unfold needsParentheses
  dsimp only
  rw [together, Bool.and_false]
  cases op with
  | and | or | add | subtract => cases compares
  | _ =>
    cases op' with
    | add | subtract => cases condition
    | _ => rfl

/-- The left operand of a comparison. -/
theorem fits_comparison_left (compares : op.isComparison = true) (legible : (Expr.binary op l r m).isLegible d = true)
    (looser : front < d.level op) : Fits d op false front (d.level op) l := by
  have place := operandPlace_of_not_isLogical (isLogical_of_isComparison compares)
  have tight := level_of_isComparison (d := d) compares
  intro free
  rw [place] at free ⊢
  by_cases value : d.separatesConditions = true ∨ l.isCondition = false
  · exact bears_operand value (Nat.lt_trans looser tight) (Nat.le_of_lt tight)
  rw [not_or, Bool.not_eq_true, Bool.not_eq_false] at value
  obtain ⟨together, condition⟩ := value
  rw [placedTightness_of_not_separates together]
  simp only [Expr.isLegible, together, compares, Bool.false_or, Bool.not_true, Bool.and_eq_true] at legible
  obtain ⟨⟨noNegation, equates⟩, -⟩ := legible
  have before : l.isPredicate = true → predicateTightness.Bears front (d.level op) := by
    intro predicate
    rw [predicate, Bool.not_true, Bool.false_or, decide_eq_true_eq] at equates
    rw [equates] at looser ⊢
    exact ⟨looser, Nat.le_refl _⟩
  cases l with
  | binary op' l r m =>
    rw [needsParentheses_comparison compares together condition] at free
    cases free
  | negation => cases noNegation
  | nullTest | inList | inParameter | like => exact before rfl
  | _ => cases condition

/-- The right operand of a comparison. -/
theorem fits_comparison_right (compares : op.isComparison = true) (legible : (Expr.binary op l r m).isLegible d = true)
    (looser : behind ≤ (d.tightness (.binary op l r m)).right) : Fits d op true (d.level op) behind r := by
  have place := operandPlace_of_not_isLogical (isLogical_of_isComparison compares)
  have tight := level_of_isComparison (d := d) compares
  have low := Nat.le_trans looser (right_le_level op l r m)
  intro free
  rw [place] at free ⊢
  by_cases value : d.separatesConditions = true ∨ r.isCondition = false
  · exact bears_operand value tight (Nat.le_of_lt (Nat.lt_of_le_of_lt low tight))
  rw [not_or, Bool.not_eq_true, Bool.not_eq_false] at value
  obtain ⟨together, condition⟩ := value
  rw [placedTightness_of_not_separates together]
  simp only [Expr.isLegible, together, compares, Bool.false_or, Bool.not_true, Bool.and_eq_true] at legible
  obtain ⟨-, noPredicate⟩ := legible
  cases r with
  | binary op' l r m =>
    rw [needsParentheses_comparison compares together condition] at free
    cases free
  | negation e m' =>
    rw [tightness_binary, compares] at looser
    exact ⟨Nat.lt_succ_of_lt tight, looser⟩
  | nullTest | inList | inParameter | like => cases noPredicate
  | _ => cases condition

/-- An operand of a sum or difference. -/
theorem fits_sum (other : op.isLogical = false) (other' : op.isComparison = false) (value : e.isCondition = false)
    (looser : front < 6 ∨ isRight = true ∧ front = 6) (looser' : behind ≤ 6) : Fits d op isRight front behind e := by
  have place : op.operandPlace = .value := operandPlace_of_not_isLogical other
  intro free
  rw [place] at free ⊢
  rcases looser with looser | ⟨rfl, rfl⟩
  · exact bears_operand (.inr value) looser looser'
  have tight : d.placedTightness .value e = d.tightness e := by
    rw [placedTightness, value]
    rfl
  rw [tight]
  -- on the right, a sum would have parentheses
  cases e with
  | binary op' l r m =>
    rw [Expr.isCondition, Bool.or_eq_false_iff] at value
    have sums : op.precedence = 5 := precedence_of_sum other other'
    have sums' : op'.precedence = 5 := precedence_of_sum value.2 value.1
    simp only [needsParentheses, Expr.isCondition, value.1, value.2, other, other', sums, sums', Bool.or_self,
      Bool.and_false, Bool.false_and, Bool.not_false, Bool.true_and, decide_true, Nat.lt_irrefl, decide_false,
      Bool.false_or, reduceCtorEq] at free
  | constant | parameter | column | function | convert => exact ⟨Nat.lt_succ_self 6, Nat.le_succ_of_le looser'⟩
  | _ => cases value

end Operands

/-! ## Operands that are read -/

/-- Without operators around it, every expression can stand in every place. -/
theorem bears_placed_zero (place : Place) (e : Expr String) : (d.placedTightness place e).Bears 0 0 := by
  refine ⟨?_, Nat.zero_le _⟩
  unfold placedTightness
  cases place with
  | condition =>
    dsimp only
    split
    · exact Nat.succ_pos _
    · exact (bears_zero e).1
  | value =>
    dsimp only
    split
    · exact Nat.succ_pos _
    · exact (bears_zero e).1

/-- What is in parentheses is read between any operators. -/
theorem parenthesized_reads {place : Place} {lexemes : List Lexeme} {x : Phrase} {front behind : Nat}
    (inner : Reads d place 0 0 (lexemes.flatMap (Lexeme.tokens d)) x) :
    Reads d place front behind ((parenthesized lexemes).flatMap (Lexeme.tokens d)) x := by
  rw [tokens_parenthesized]
  exact .parenthesized inner

/-- A value by itself, between commas or in parentheses. -/
theorem value_reads (reads : NodeReads d e) {lexemes : List Lexeme}
    (written : d.fitted .value e (d.node e) = .ok lexemes) :
    Reads d (d.category .value) 0 0 (lexemes.flatMap (Lexeme.tokens d)) (d.valuePhrase e) :=
  fitted_reads reads .value (fun same => by cases same) written (bears_placed_zero .value e)

/-- A condition by itself. -/
theorem condition_reads (reads : NodeReads d e) (bool : e.type = .bool) {lexemes : List Lexeme}
    (written : d.fitted .condition e (d.node e) = .ok lexemes) :
    Reads d (d.category .condition) 0 0 (lexemes.flatMap (Lexeme.tokens d)) (d.conditionPhrase e) :=
  fitted_reads reads .condition (fun _ => bool) written (bears_placed_zero .condition e)

/-- An operand of a binary operator is read where it fits. -/
theorem operand_reads (reads : NodeReads d e) {op : BinaryOp} {isRight : Bool}
    (suits : op.operandPlace = .condition → e.type = .bool) {lexemes : List Lexeme}
    (written : d.operand op isRight e (d.node e) = .ok lexemes) {front behind : Nat}
    (fits : Fits d op isRight front behind e) :
    Reads d (d.category op.operandPlace) front behind (lexemes.flatMap (Lexeme.tokens d))
      (d.placed op.operandPlace e (d.phrase e)) := by
  obtain ⟨inner, found, rfl⟩ := operand_written written
  cases parentheses : d.needsParentheses e op isRight op.operandPlace with
  | true => exact parenthesized_reads (fitted_reads reads op.operandPlace suits found (bears_placed_zero _ e))
  | false => exact fitted_reads reads op.operandPlace suits found (fits parentheses)

/-! ## Chains of connectives -/

/-- The operand behind a connective: what is in front of it is joined with it, whichever of the two is a chain. -/
def Joins (d : Dialect) (op : BinaryOp) (e : Expr String) : Prop :=
  ∀ isRight lexemes, d.operand op isRight e (d.node e) = .ok lexemes →
    ∀ front behind ts x, front < d.level op → behind ≤ d.level op →
      Reads d (d.category .condition) front (d.level op) ts x →
        Reads d (d.category .condition) front behind
          (ts ++ (Operator.binary op).tokens ++ lexemes.flatMap (Lexeme.tokens d)) (.joined op x (d.conditionPhrase e))

theorem operator?_signed (text : String) : (Phrase.signed text).operator? = none := by
  unfold Phrase.signed
  split <;> rfl

/-- A constant is no chain. -/
theorem operator?_literalPhrase (m : TypeMapping) (v : Value) : (d.literalPhrase m v).operator? = none := by
  cases v with
  | null | list | text => rfl
  | bool | bytes => cases d <;> rfl
  | byte | long =>
    cases d with
    | sqlServer => rfl
    | sqlite => exact operator?_signed _
  | int | double => exact operator?_signed _

/-- A phrase has the binary operator of its expression. -/
theorem operator?_phrase (e : Expr String) : (d.phrase e).operator? = e.operator? := by
  cases e with
  | constant v m =>
    rw [phrase_constant]
    exact operator?_literalPhrase m v
  | binary op l r m =>
    rw [phrase_binary]
    exact Phrase.operator?_joined op _ _
  | _ => rfl

/-- A condition has a connective for its operator only where its expression has. -/
theorem operator?_conditionPhrase {op : BinaryOp} (logical : op.isLogical = true) (other : e.operator? ≠ some op) :
    (d.conditionPhrase e).operator? ≠ some op := by
  have equal : some BinaryOp.equal ≠ some op := by
    intro same
    cases same
    cases logical
  unfold conditionPhrase placed
  dsimp only
  split
  · split
    · exact equal
    · split
      · exact equal
      · rwa [operator?_phrase]
  · rwa [operator?_phrase]

/-- A chain of a connective is written without parentheses as an operand of the same one. -/
theorem operand_chain {op : BinaryOp} (logical : op.isLogical = true) (isRight : Bool) (l r : Expr String)
    (m : TypeMapping) (written : Written) : d.operand op isRight (.binary op l r m) written = written := by
  have free : d.needsParentheses (.binary op l r m) op isRight .condition = false := by
    simp only [needsParentheses, isComparison_of_isLogical logical, logical, Nat.lt_irrefl, ne_eq, not_true_eq_false,
      decide_false, Bool.and_false, Bool.or_self, Bool.not_true]
  have same : d.fitted .condition (.binary op l r m) written = written := by
    rw [fitted, Expr.isCondition, logical, Bool.or_true]
    rfl
  unfold operand
  rw [if_pos logical]
  dsimp only
  rw [same, free]
  exact bind_pure written

/-- The phrase of a chain joins those of its sides. -/
theorem conditionPhrase_chain {op : BinaryOp} (logical : op.isLogical = true) (l r : Expr String) (m : TypeMapping) :
    d.conditionPhrase (.binary op l r m) = .joined op (d.conditionPhrase l) (d.conditionPhrase r) := by
  have place : op.operandPlace = .condition := if_pos logical
  rw [conditionPhrase, placed, Expr.isCondition, logical, Bool.or_true, Bool.not_true, Bool.false_and,
    if_neg Bool.false_ne_true, phrase_binary, place]
  rfl

/-- An operand is joined, if its own operands are where it is a chain itself. -/
theorem joins_of_reads {op : BinaryOp} (logical : op.isLogical = true) (reads : NodeReads d e) (bool : e.type = .bool)
    (parts : ∀ l r m, e = .binary op l r m → Joins d op l ∧ Joins d op r) : Joins d op e := by
  intro isRight lexemes written front behind ts x looser noTighter before
  by_cases chain : e.operator? = some op
  · cases e with
    | binary op' l r m =>
      cases chain
      obtain ⟨left, right⟩ := parts l r m rfl
      rw [operand_chain logical] at written
      obtain ⟨ls, rs, found, found', tokens⟩ := binary_written written
      have first := left false ls found front (d.level op) ts x looser (Nat.le_refl _) before
      have second := right true rs found' front behind _ _ looser noTighter first
      rw [conditionPhrase_chain logical, Phrase.joined_joined logical, tokens]
      simpa only [List.append_assoc] using second
    | _ => cases chain
  · have place : op.operandPlace = .condition := if_pos logical
    have result : op.resultPlace = .condition := by
      rw [BinaryOp.resultPlace, logical]
      rfl
    have fits : Fits d op isRight (d.level op) behind e := fits_connective logical chain (Nat.le_refl _) noTighter
    have after := operand_reads reads (fun _ => bool) written fits
    rw [place] at after
    rw [Phrase.joined_of_operator? (operator?_conditionPhrase logical chain), ← result]
    refine .binary looser noTighter ?_ ?_
    · rwa [place]
    · rwa [place]

/-! ## Nodes -/

section Nodes

variable {m : TypeMapping}

/-- A constant of a known type is read as its phrase. -/
theorem constant_reads {v : Value} (known : d.Knows m) (typed : v.HasType m.type) : NodeReads d (.constant v m) := by
  intro lexemes written front behind _
  rw [phrase_constant]
  unfold node writeConstant at written
  dsimp only at written
  split at written
  next x =>
    split at written
    next finite =>
      cases written
      exact literal_reads known typed fun y same => by cases same; exact finite
    next => cases written
  next other =>
    cases written
    exact literal_reads known typed fun x same => absurd same (other x)

/-- A placeholder is one word. -/
theorem parameter_reads {name : String} (word : name.toList.all Scanner.isWordPart = true) (t : LogicalType) :
    NodeReads d (.parameter name t m) := by
  intro lexemes written front behind _
  have begun : Scanner.begins d '@' = .word ['@'] := by cases d <;> decide
  have named : ("@" ++ name).toList = '@' :: name.toList := by
    rw [String.toList_append]
    rfl
  have tokens : Lexeme.tokens d (.plain ("@" ++ name)) = [.word ("@" ++ name)] := by
    refine tokens_of_scan (Scanner.scan_eq_some.mpr ?_)
    rw [named, Scanner.run_first, begun, Scanner.run_word (List.all_eq_true.mp word), List.singleton_append, ← named]
    exact ⟨rfl, congrArg (fun text => [Token.word text]) (String.ofList_toList)⟩
  have placeholder : isPlaceholder ("@" ++ name) = true := by
    rw [isPlaceholder, named]
    rfl
  unfold node at written
  split at written
  · cases written
  · cases written
    rw [List.flatMap_singleton, tokens, phrase_parameter]
    exact .leaf (if_pos placeholder)

/-- A column is read as its two names. -/
theorem column_reads (table name : String) (nullable : Bool) : NodeReads d (.column table name m nullable) := by
  intro lexemes written front behind _
  have point : Lexeme.tokens d (.plain ".") = [.symbol "."] := by
    cases d <;> decide
  cases written
  rw [List.flatMap_cons, List.flatMap_cons, List.flatMap_singleton, point, phrase_column]
  exact .leaf rfl

/-- Values in a row are read one by one. -/
theorem values_read {pairs : List (Expr String × List Lexeme)} (each : ∀ e ∈ pairs.map Prod.fst, NodeReads d e)
    (written : ∀ p ∈ pairs, d.writeValue p.1 = .ok p.2) :
    ∀ item ∈ pairs.map d.spelling, Reads d (d.category .value) 0 0 item.1 item.2 :=
  List.forall_mem_map.mpr fun p member => value_reads (each p.1 (List.mem_map_of_mem member)) (written p member)

/-- A call is read with the phrases of its arguments. -/
theorem function_reads {name : String} {es : List (Expr String)} {nullable : Bool} (offered : name ∈ d.functionNames)
    (each : ∀ e ∈ es, NodeReads d e) : NodeReads d (.function name es m nullable) := by
  intro lexemes written front behind _
  obtain ⟨pairs, rfl, each', tokens, phrases⟩ := function_written offered written
  rw [tokens, phrase_function, phrases]
  exact .call (tokens_function d offered).2 _ (values_read each each')

/-- Connectives and comparisons are conditions, sums are values. -/
theorem nature_binary (op : BinaryOp) (l r : Expr String) : (Expr.binary op l r m).nature = op.resultPlace := by
  cases op <;> rfl

/-- Both operands of a binary expression are read, and on the right of a connective a chain is joined. -/
theorem binary_reads {op : BinaryOp} {l r : Expr String} (clear : (Expr.binary op l r m).Clear d) (typed : l.Typed)
    (typed' : r.Typed) (left : NodeReads d l) (right : NodeReads d r) (joins : op.isLogical = true → Joins d op r) :
    NodeReads d (.binary op l r m) := by
  intro lexemes written front behind bears
  have looser : front < d.level op := bears.1
  have noTighter := Nat.le_trans bears.2 (right_le_level op l r m)
  obtain ⟨ls, rs, found, found', tokens⟩ := binary_written written
  rw [tokens, nature_binary, phrase_binary]
  cases logical : op.isLogical with
  | true =>
    have place : op.operandPlace = .condition := if_pos logical
    have result : op.resultPlace = .condition := by
      rw [BinaryOp.resultPlace, logical]
      rfl
    have fits : Fits d op false front (d.level op) l := by
      by_cases chain : l.operator? = some op
      · cases l with
        | binary op' l r m =>
          cases chain
          exact fits_chain logical looser
        | _ => cases chain
      · exact fits_connective logical chain (Nat.le_of_lt looser) (Nat.le_refl _)
    have first := operand_reads left (fun _ => (clear.typed.of_connective logical).1) found fits
    rw [place] at first
    rw [result, place]
    exact joins logical true rs found' front behind _ _ looser noTighter first
  | false =>
    have suits : ∀ {e : Expr String}, op.operandPlace = .condition → e.type = .bool := by
      intro e same
      rw [operandPlace_of_not_isLogical logical] at same
      cases same
    have fits : Fits d op false front (d.level op) l ∧ Fits d op true (d.level op) behind r := by
      cases compares : op.isComparison with
      | true =>
        exact ⟨fits_comparison_left compares clear.legible looser,
          fits_comparison_right compares clear.legible bears.2⟩
      | false =>
        obtain ⟨numeric, numeric', -⟩ := clear.typed.of_sum logical compares
        have level := level_of_sum (d := d) logical compares
        rw [level] at looser noTighter ⊢
        have value : l.isCondition = false := by
          refine typed.isCondition_eq_false fun bool => ?_
          rw [bool] at numeric
          cases numeric
        have value' : r.isCondition = false := by
          refine typed'.isCondition_eq_false fun bool => ?_
          rw [bool] at numeric'
          cases numeric'
        exact ⟨fits_sum logical compares value (.inl looser) (Nat.le_refl _),
          fits_sum logical compares value' (.inr ⟨rfl, rfl⟩) noTighter⟩
    rw [Phrase.joined_of_not_isLogical logical]
    exact .binary looser noTighter (operand_reads left suits found fits.1) (operand_reads right suits found' fits.2)

/-- A negation is read with the condition in its parentheses. -/
theorem negation_reads (bool : e.type = .bool) (below : NodeReads d e) : NodeReads d (.negation e m) := by
  intro lexemes written front behind bears
  obtain ⟨inner, found, tokens⟩ := negation_written written
  rw [tokens, phrase_negation]
  exact .negation (Nat.lt_succ_of_le bears.2) (.parenthesized (condition_reads below bool found))

/-- A conversion is read with its operand and the tokens of its type. -/
theorem convert_reads (known : d.Knows m) (below : NodeReads d e) : NodeReads d (.convert e m) := by
  intro lexemes written front behind _
  obtain ⟨inner, found, tokens⟩ := convert_written known written
  rw [tokens, phrase_convert]
  exact .cast (value_reads below found) (tokens_type known).2

/-- A null test is read behind its operand unless that is a negation, which would take the test along. -/
theorem nullTest_reads {negated : Bool} (legible : (Expr.nullTest e negated m).isLegible d = true)
    (below : NodeReads d e) : NodeReads d (.nullTest e negated m) := by
  intro lexemes written front behind bears
  obtain ⟨inner, found, tokens⟩ := nullTest_written written
  have tested : Reads d (d.category .value) front predicateLevel
      ((if isBinary e then parenthesized inner else inner).flatMap (Lexeme.tokens d)) (d.valuePhrase e) := by
    cases binary : isBinary e with
    | true => exact parenthesized_reads (value_reads below found)
    | false =>
      have firm : d.separatesConditions = true ∨ e.isLoose = false := by
        rw [Expr.isLegible, Bool.or_eq_true, Bool.not_eq_true'] at legible
        refine legible.imp_right fun noNegation => ?_
        cases e with
        | binary => cases binary
        | negation => cases noNegation
        | _ => rfl
      exact fitted_reads below .value (fun same => by cases same) found (bears_before_predicate firm bears.1)
  rw [tokens, phrase_nullTest]
  exact .nullTest bears.1 bears.2 tested

/-- A list is read behind its item unless that is loose, for then it would take the list along. -/
theorem inList_reads {es : List (Expr String)} {negated : Bool} (some : es ≠ [])
    (legible : (Expr.inList e es negated m).isLegible d = true) (below : NodeReads d e)
    (each : ∀ v ∈ es, NodeReads d v) : NodeReads d (.inList e es negated m) := by
  intro lexemes written front behind bears
  obtain ⟨inner, pairs, found, rfl, each', tokens, phrases⟩ := inList_written some written
  rw [Expr.isLegible, Bool.or_eq_true, Bool.not_eq_true'] at legible
  have item := fitted_reads below .value (fun same => by cases same) found (bears_before_predicate legible bears.1)
  have members : pairs.map d.spelling ≠ [] := by
    rintro none
    exact some (List.map_eq_nil_iff.mpr (List.map_eq_nil_iff.mp none))
  rw [tokens, phrase_inList, phrases]
  exact .inList bears.1 bears.2 item _ members (values_read each each')

/-- A pattern match is read between operands that are values. -/
theorem like_reads {subject pattern : Expr String} {escape : Option (Expr String)}
    (value : subject.isCondition = false) (value' : pattern.isCondition = false)
    (value'' : ∀ e ∈ escape, e.isCondition = false) (first : NodeReads d subject) (second : NodeReads d pattern)
    (third : ∀ e ∈ escape, NodeReads d e) : NodeReads d (.like subject pattern escape m) := by
  intro lexemes written front behind bears
  have operand : ∀ {e : Expr String} {lexemes : List Lexeme} {front behind : Nat},
      NodeReads d e → e.isCondition = false →
      d.fitted .value e (d.node e) = .ok lexemes → front < 6 → behind ≤ 6 →
      Reads d (d.category .value) front behind (lexemes.flatMap (Lexeme.tokens d)) (d.valuePhrase e) :=
    fun reads value written low low' =>
      fitted_reads reads .value (fun same => by cases same) written (bears_operand (.inr value) low low')
  have low : front < 6 := Nat.lt_of_lt_of_le bears.1 (by decide : predicateLevel ≤ 6)
  have low' : behind ≤ 6 := Nat.le_trans bears.2 (by decide : predicateLevel ≤ 6)
  obtain ⟨ss, ps, es, found, found', found'', tokens⟩ := like_written written
  have subjectRead := operand first value found low (by decide : predicateLevel ≤ 6)
  rw [tokens, phrase_like]
  cases escape with
  | none =>
    cases found''
    have patternRead := operand second value' found' (by decide : predicateLevel < 6) low'
    rw [List.flatMap_nil, List.append_nil, phraseOption]
    exact .like bears.1 bears.2 subjectRead patternRead
  | some e =>
    obtain ⟨inner, inside, clause⟩ := escapeClause_written found''
    have patternRead := operand second value' found' (by decide : predicateLevel < 6) (by decide : escapeLevel ≤ 6)
    have escapeRead := operand (third e rfl) (value'' e rfl) inside (by decide : predicateLevel < 6) low'
    rw [clause, ← List.append_assoc, phraseOption]
    exact .escaped bears.1 bears.2 subjectRead patternRead escapeRead

end Nodes

/-- What is clear is read as its phrase. -/
theorem node_reads (clear : e.Everywhere (Expr.Clear d)) : NodeReads d e := by
  suffices both : NodeReads d e ∧ (e.type = .bool → ∀ op, op.isLogical = true → Joins d op e) from both.1
  -- what is no chain is joined as it is
  have alone : ∀ {e : Expr String}, e.operator? = none → NodeReads d e →
      NodeReads d e ∧ (e.type = .bool → ∀ op, op.isLogical = true → Joins d op e) := by
    intro e other reads
    refine ⟨reads, fun bool op logical => joins_of_reads logical reads bool fun l r m same => ?_⟩
    rw [same] at other
    cases other
  induction e with
  | constant v m => exact alone rfl (constant_reads clear.here.standard.1 clear.here.typed.2)
  | parameter name t m => exact alone rfl (parameter_reads clear.here.named t)
  | column table name m nullable => exact alone rfl (column_reads table name nullable)
  | function name es m nullable each =>
    obtain ⟨here, clear⟩ := Expr.everywhere_function.mp clear
    exact alone rfl (function_reads here.standard.2 fun e member => (each e member (clear e member)).1)
  | binary op l r m first second =>
    obtain ⟨here, left, right⟩ := Expr.everywhere_binary.mp clear
    have joins : op.isLogical = true → Joins d op l ∧ Joins d op r := by
      intro logical
      obtain ⟨bool, bool', -⟩ := here.typed.of_connective logical
      exact ⟨(first left).2 bool op logical, (second right).2 bool' op logical⟩
    have reads := binary_reads here left.here.typed right.here.typed (first left).1 (second right).1 fun logical =>
      (joins logical).2
    refine ⟨reads, fun bool op' logical => joins_of_reads logical reads bool fun l' r' m' same => ?_⟩
    cases same
    exact joins logical
  | negation e m below =>
    obtain ⟨here, clear⟩ := Expr.everywhere_negation.mp clear
    exact alone rfl (negation_reads here.typed.2.1 (below clear).1)
  | nullTest e negated m below =>
    obtain ⟨here, clear⟩ := Expr.everywhere_nullTest.mp clear
    exact alone rfl (nullTest_reads here.legible (below clear).1)
  | convert e m below =>
    obtain ⟨here, clear⟩ := Expr.everywhere_convert.mp clear
    exact alone rfl (convert_reads here.standard.1 (below clear).1)
  | inList item es negated m below each =>
    obtain ⟨here, clear, clear'⟩ := Expr.everywhere_inList.mp clear
    exact alone rfl (inList_reads here.standard.2 here.legible (below clear).1 fun v member =>
      (each v member (clear' v member)).1)
  | inParameter item source negated m first second =>
    refine alone rfl fun lexemes written => ?_
    unfold node at written
    cases written
  | like subject pattern escape m first second third =>
    obtain ⟨here, clear, clear', clear''⟩ := Expr.everywhere_like.mp clear
    obtain ⟨-, text, text', text'', -⟩ := here.typed
    have value : ∀ {e : Expr String}, e.Everywhere (Expr.Clear d) → e.type = .text → e.isCondition = false :=
      fun clear text => clear.here.typed.isCondition_eq_false fun bool => by rw [text] at bool; cases bool
    exact alone rfl (like_reads (value clear text) (value clear' text')
      (fun e member => value (clear'' e member) (text'' e member)) (first clear).1 (second clear').1
      fun e member => (third e member (clear'' e member)).1)

end Dialect

end SqlShape
