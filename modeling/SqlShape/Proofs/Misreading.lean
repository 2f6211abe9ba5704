import SqlShape.Proofs.Legibility
import SqlShape.Proofs.Spelling

/-!
# What is not legible is misread

On SQLite, an expression whose tokens are read as its phrase is legible (`node_legible`): where parentheses are left out
that `Expr.isLegible` wants, something else is read. The tokens of a written expression spell its phrase, with these
parentheses or without them (`node_spells`). So a reading as the phrase is taken apart as the expression is, and shows
between which operators each operand stands.
-/

namespace SqlShape

open Grammar

/-! ## What is written spells its phrase -/

/-- Joined phrases have both sizes and one more for the operator, however they are grouped. -/
theorem Phrase.size_joined (op : BinaryOp) (x y : Phrase) : (joined op x y).size = x.size + 1 + y.size := by
  fun_induction joined op x y with
  | case1 op' l r same below =>
    rw [Phrase.size, below, Phrase.size]
    omega
  | case2 op' l r other => rw [Phrase.size]
  | case3 y other => rw [Phrase.size]

namespace Grammar

variable {op : BinaryOp} {ts us : List Token} {x y : Phrase}

/-- Phrases are joined by what is spelled between them, however they are grouped. -/
theorem Spells.joined (left : Spells ts x) (right : Spells us y) :
    Spells (ts ++ (Operator.binary op).tokens ++ us) (.joined op x y) := by
  have whole : Spells _ (.binary op x y) := left.binary right
  refine ⟨whole.size.trans ?_, whole.balanced⟩
  rw [Phrase.size_joined, Phrase.size]

/-- An operator behind an operand is outside of all parentheses, so what is behind the whole is no tighter. -/
theorem Reads.behind_le_level {d : Dialect} {place : Place} {front behind : Nat} {op' : BinaryOp}
    (spelled : Spells ts x) (has : y.operator? = some op')
    (read : Reads d place front behind (ts ++ (Operator.binary op).tokens ++ us) y) : behind ≤ d.level op' := by
  generalize same : ts ++ (Operator.binary op).tokens ++ us = whole at read
  cases read with
  | parenthesized inner =>
    exact (not_parenthesized_operator (.binary op) spelled inner.spells.balanced (same ▸ List.prefix_append _ _)).elim
  | binary _ noTighter _ _ =>
    cases has
    exact noTighter
  | leaf written =>
    cases y with
    | binary => cases written
    | _ => cases has
  | _ => cases has

end Grammar

namespace Dialect

variable {e : Expr String} {m : TypeMapping} {lexemes : List Lexeme} {place : Place} {op : BinaryOp} {isRight : Bool}

/-- In the place of a condition, a truth value is a comparison. All else is in every place what it is by itself. -/
theorem fitted_cases (written : sqlite.fitted place e (sqlite.node e) = .ok lexemes) :
    (∃ value, e.truth? = some value ∧ lexemes = truthCondition value ∧
        sqlite.placed place e (sqlite.phrase e) = .truth value) ∨
      sqlite.node e = .ok lexemes ∧ sqlite.placed place e (sqlite.phrase e) = sqlite.phrase e := by
  unfold fitted at written
  unfold placed
  cases place with
  | value =>
    rw [separatesConditions, Bool.and_false] at written ⊢
    exact .inr ⟨written, rfl⟩
  | condition =>
    dsimp only at written ⊢
    split at written
    next stored =>
      rw [if_pos stored]
      cases truth : e.truth? with
      | some value =>
        rw [truth] at written
        cases written
        exact .inl ⟨value, rfl, rfl, rfl⟩
      | none =>
        rw [truth] at written
        obtain ⟨inner, found, rest⟩ := bind_eq_ok.mp written
        cases rest
        exact .inr ⟨found, rfl⟩
    next other =>
      rw [if_neg other]
      exact .inr ⟨written, rfl⟩

/-- The tokens of a written expression spell its phrase. -/
def NodeSpells (e : Expr String) : Prop :=
  ∀ lexemes, sqlite.node e = .ok lexemes → Spells (lexemes.flatMap (Lexeme.tokens .sqlite)) (sqlite.phrase e)

/-- Fitting a node into its place spells the phrase of the place. -/
theorem fitted_spells (spells : NodeSpells e) (written : sqlite.fitted place e (sqlite.node e) = .ok lexemes) :
    Spells (lexemes.flatMap (Lexeme.tokens .sqlite)) (sqlite.placed place e (sqlite.phrase e)) := by
  rcases fitted_cases written with ⟨value, -, rfl, same⟩ | ⟨node, same⟩
  · rw [same]
    exact (truth_reads value (⟨by decide, by decide⟩ : predicateTightness.Bears 0 0)).spells
  · rw [same]
    exact spells lexemes node

/-- Parentheses around an operand change nothing. -/
theorem parenthesized_spells {x : Phrase} {parentheses : Bool}
    (inner : Spells (lexemes.flatMap (Lexeme.tokens .sqlite)) x) :
    Spells ((if parentheses then parenthesized lexemes else lexemes).flatMap (Lexeme.tokens .sqlite)) x := by
  cases parentheses with
  | true =>
    rw [if_pos rfl, tokens_parenthesized]
    exact inner.parenthesized
  | false => exact inner

/-- An operand spells the phrase of its place, with or without parentheses. -/
theorem operand_spells (spells : NodeSpells e) (written : sqlite.operand op isRight e (sqlite.node e) = .ok lexemes) :
    Spells (lexemes.flatMap (Lexeme.tokens .sqlite)) (sqlite.placed op.operandPlace e (sqlite.phrase e)) := by
  obtain ⟨inner, found, rfl⟩ := operand_written written
  exact parenthesized_spells (fitted_spells spells found)

/-- Values in a row are spelled one by one. -/
theorem values_spell {pairs : List (Expr String × List Lexeme)} (each : ∀ e ∈ pairs.map Prod.fst, NodeSpells e)
    (written : ∀ p ∈ pairs, sqlite.writeValue p.1 = .ok p.2) :
    ∀ item ∈ pairs.map sqlite.spelling, Spells item.1 item.2 :=
  List.forall_mem_map.mpr fun p member => fitted_spells (each p.1 (List.mem_map_of_mem member)) (written p member)

/-- Every written expression spells its phrase. -/
theorem node_spells (regular : e.Everywhere (Expr.Regular .sqlite)) : NodeSpells e := by
  have whole : ∀ {e : Expr String}, NodeReads .sqlite e → NodeSpells e := fun reads lexemes written =>
    (reads lexemes written 0 0 (bears_zero _)).spells
  induction e with
  | constant v m => exact whole (constant_reads regular.here.standard.1 regular.here.typed.2)
  | parameter name t m => exact whole (parameter_reads regular.here.named t)
  | column table name m nullable => exact whole (column_reads table name nullable)
  | function name es m nullable each =>
    obtain ⟨here, regular⟩ := Expr.everywhere_function.mp regular
    intro lexemes written
    obtain ⟨pairs, rfl, each', tokens, phrases⟩ := function_written here.standard.2 written
    rw [tokens, phrase_function, phrases]
    exact .call name (values_spell (fun e member => each e member (regular e member)) each')
  | binary op l r m first second =>
    obtain ⟨-, left, right⟩ := Expr.everywhere_binary.mp regular
    intro lexemes written
    obtain ⟨ls, rs, found, found', tokens⟩ := binary_written written
    rw [tokens, phrase_binary]
    exact (operand_spells (first left) found).joined (operand_spells (second right) found')
  | negation e m below =>
    intro lexemes written
    obtain ⟨inner, found, tokens⟩ := negation_written written
    rw [tokens, phrase_negation]
    exact (fitted_spells (below (Expr.everywhere_negation.mp regular).2) found).parenthesized.negation
  | nullTest e negated m below =>
    intro lexemes written
    obtain ⟨inner, found, tokens⟩ := nullTest_written written
    rw [tokens, phrase_nullTest]
    exact (parenthesized_spells (fitted_spells (below (Expr.everywhere_nullTest.mp regular).2) found)).nullTest
  | convert e m below =>
    obtain ⟨here, regular⟩ := Expr.everywhere_convert.mp regular
    intro lexemes written
    obtain ⟨inner, found, tokens⟩ := convert_written here.standard.1 written
    rw [tokens, phrase_convert]
    exact (fitted_spells (below regular) found).cast (tokens_type here.standard.1).2
  | inList item es negated m below each =>
    obtain ⟨here, left, right⟩ := Expr.everywhere_inList.mp regular
    intro lexemes written
    obtain ⟨inner, pairs, found, rfl, each', tokens, phrases⟩ := inList_written here.standard.2 written
    rw [tokens, phrase_inList, phrases]
    have members := values_spell (fun e member => each e member (right e member)) each'
    exact (fitted_spells (below left) found).inList members
  | inParameter item source negated m first second =>
    intro lexemes written
    unfold node at written
    cases written
  | like subject pattern escape m first second third =>
    obtain ⟨-, regular, regular', regular''⟩ := Expr.everywhere_like.mp regular
    intro lexemes written
    obtain ⟨ss, ps, es, found, found', found'', tokens⟩ := like_written written
    have subjectSpells := fitted_spells (first regular) found
    have patternSpells := fitted_spells (second regular') found'
    rw [tokens, phrase_like]
    cases escape with
    | none =>
      cases found''
      rw [List.flatMap_nil, List.append_nil, phraseOption]
      exact subjectSpells.like patternSpells
    | some e =>
      obtain ⟨inner, inside, clause⟩ := escapeClause_written found''
      rw [clause, ← List.append_assoc, phraseOption]
      exact subjectSpells.escaped patternSpells (fitted_spells (third e rfl (regular'' e rfl)) inside)

/-! ## What is read as its phrase is legible -/

/-- What it shows of an expression that its tokens are read as its phrase between operators of these strengths. -/
structure ReadWhole (front behind : Nat) (e : Expr String) : Prop where
  loose : e.isLoose = true → behind < notLevel
  predicate : e.isPredicate = true → predicateTightness.Bears front behind
  legible : e.Everywhere fun n => n.isLegible .sqlite = true

/-- An expression whose tokens are read as its phrase is legible. -/
def NodeLegible (e : Expr String) : Prop :=
  ∀ lexemes, sqlite.node e = .ok lexemes → ∀ place front behind,
    Reads .sqlite place front behind (lexemes.flatMap (Lexeme.tokens .sqlite)) (sqlite.phrase e) →
      ReadWhole front behind e

variable {category : Place} {front behind : Nat}

/-- What is neither loose nor a predicate stands between any operators. -/
theorem ReadWhole.of_firm (firm : e.isLoose = false) (other : e.isPredicate = false)
    (legible : e.Everywhere fun n => n.isLegible .sqlite = true) : ReadWhole front behind e where
  loose loose := absurd (firm.symm.trans loose) Bool.false_ne_true
  predicate predicate := absurd (other.symm.trans predicate) Bool.false_ne_true
  legible := legible

/-- What is no predicate is read whole where what follows is looser than a negation. -/
theorem ReadWhole.of_loose (low : behind < notLevel) (other : e.isPredicate = false)
    (legible : e.Everywhere fun n => n.isLegible .sqlite = true) : ReadWhole front behind e where
  loose _ := low
  predicate predicate := absurd (other.symm.trans predicate) Bool.false_ne_true
  legible := legible

/-- A predicate that is not loose is read whole where its neighbours bear it. -/
theorem ReadWhole.of_predicate (firm : e.isLoose = false) (bears : predicateTightness.Bears front behind)
    (legible : e.Everywhere fun n => n.isLegible .sqlite = true) : ReadWhole front behind e where
  loose loose := absurd (firm.symm.trans loose) Bool.false_ne_true
  predicate _ := bears
  legible := legible

/-- A node that is read in its place is read whole, whatever was put around it. -/
theorem fitted_legible (below : NodeLegible e) (written : sqlite.fitted place e (sqlite.node e) = .ok lexemes)
    (read : Reads .sqlite category front behind (lexemes.flatMap (Lexeme.tokens .sqlite))
      (sqlite.placed place e (sqlite.phrase e))) : ReadWhole front behind e := by
  rcases fitted_cases written with ⟨value, truth, -, -⟩ | ⟨node, same⟩
  · cases e with
    | constant v m => exact .of_firm rfl rfl (Expr.everywhere_constant.mpr rfl)
    | _ => cases truth
  · rw [same] at read
    exact below lexemes node category front behind read

/-- An operand may stand in parentheses. -/
theorem parenthesized_legible (spells : NodeSpells e) (below : NodeLegible e) {parentheses : Bool}
    (written : sqlite.fitted place e (sqlite.node e) = .ok lexemes)
    (read : Reads .sqlite category front behind
      ((if parentheses then parenthesized lexemes else lexemes).flatMap (Lexeme.tokens .sqlite))
      (sqlite.placed place e (sqlite.phrase e))) :
    (e.Everywhere fun n => n.isLegible .sqlite = true) ∧ (parentheses = false → ReadWhole front behind e) := by
  cases parentheses with
  | true =>
    rw [if_pos rfl, tokens_parenthesized] at read
    have inner := read.of_parenthesized (fitted_spells spells written).balanced
    exact ⟨(fitted_legible below written inner).legible, fun free => by cases free⟩
  | false =>
    have whole := fitted_legible below written read
    exact ⟨whole.legible, fun _ => whole⟩

/-- Only a binary expression stands in parentheses as an operand of a binary operator. -/
theorem operand_legible (spells : NodeSpells e) (below : NodeLegible e)
    (written : sqlite.operand op isRight e (sqlite.node e) = .ok lexemes)
    (read : Reads .sqlite category front behind (lexemes.flatMap (Lexeme.tokens .sqlite))
      (sqlite.placed op.operandPlace e (sqlite.phrase e))) :
    (e.Everywhere fun n => n.isLegible .sqlite = true) ∧ (isBinary e = false → ReadWhole front behind e) := by
  obtain ⟨inner, found, rfl⟩ := operand_written written
  obtain ⟨legible, whole⟩ := parenthesized_legible spells below found read
  refine ⟨legible, fun other => whole ?_⟩
  cases e with
  | binary => cases other
  | _ => rfl

/-- Values that are read one by one are legible one by one. -/
theorem values_legible {pairs : List (Expr String × List Lexeme)} (each : ∀ e ∈ pairs.map Prod.fst, NodeLegible e)
    (written : ∀ p ∈ pairs, sqlite.writeValue p.1 = .ok p.2)
    (reads : ∀ item ∈ pairs.map sqlite.spelling, Reads .sqlite category front behind item.1 item.2) :
    ∀ e ∈ pairs.map Prod.fst, e.Everywhere fun n => n.isLegible .sqlite = true := by
  refine List.forall_mem_map.mpr fun p member => ?_
  have read := reads _ (List.mem_map_of_mem member)
  exact (fitted_legible (each p.1 (List.mem_map_of_mem member)) (written p member) read).legible

/-! ### Chains of connectives -/

/-- Where what is in front of a connective is joined with an operand, the operand is legible, and what is in front is
read by itself. -/
def JoinsLegible (op : BinaryOp) (e : Expr String) : Prop :=
  ∀ isRight lexemes, sqlite.operand op isRight e (sqlite.node e) = .ok lexemes →
    ∀ place front behind ts x, Spells ts x →
      Reads .sqlite place front behind (ts ++ (Operator.binary op).tokens ++ lexemes.flatMap (Lexeme.tokens .sqlite))
        (.joined op x (sqlite.conditionPhrase e)) →
      (∃ place front behind, Reads .sqlite place front behind ts x) ∧ e.Everywhere fun n => n.isLegible .sqlite = true

/-- Only comparisons can be illegible. -/
theorem isLegible_of_not_isComparison {d : Dialect} {l r : Expr String} (other : op.isComparison = false) :
    (Expr.binary op l r m).isLegible d = true := by
  rw [Expr.isLegible, other, Bool.not_false, Bool.true_or, Bool.or_true]

/-- A chain of one connective is regrouped when it is read; its links are legible all the same. -/
theorem joins_legible (logical : op.isLogical = true) (spells : NodeSpells e) (below : NodeLegible e)
    (parts : ∀ l r m, e = .binary op l r m → NodeSpells l ∧ JoinsLegible op l ∧ JoinsLegible op r) :
    JoinsLegible op e := by
  have place : op.operandPlace = .condition := if_pos logical
  intro isRight lexemes written category front behind ts x spelled read
  by_cases chain : e.operator? = some op
  · cases e with
    | binary op' l r m =>
      cases chain
      obtain ⟨spells, left, right⟩ := parts l r m rfl
      rw [operand_chain logical] at written
      obtain ⟨ls, rs, found, found', tokens⟩ := binary_written written
      have spelled' := operand_spells spells found
      rw [place] at spelled'
      rw [conditionPhrase_chain logical, Phrase.joined_joined logical, tokens, ← List.append_assoc,
        ← List.append_assoc] at read
      obtain ⟨⟨_, _, _, first⟩, second⟩ := right true rs found' _ _ _ _ _ (spelled.joined spelled') read
      obtain ⟨before, third⟩ := left false ls found _ _ _ _ _ spelled first
      refine ⟨before, Expr.everywhere_binary.mpr ⟨?_, third, second⟩⟩
      exact isLegible_of_not_isComparison (isComparison_of_isLogical logical)
    | _ => cases chain
  · rw [Phrase.joined_of_operator? (operator?_conditionPhrase logical chain)] at read
    obtain ⟨-, -, before, after⟩ := read.of_binary spelled
    rw [conditionPhrase, ← place] at after
    exact ⟨⟨_, _, _, before⟩, (operand_legible spells below written after).1⟩

/-! ### Nodes -/

/-- The arguments of a call that is read are read between its commas. -/
theorem function_legible {name : String} {es : List (Expr String)} {nullable : Bool}
    (offered : name ∈ functionNames .sqlite) (spells : ∀ e ∈ es, NodeSpells e) (each : ∀ e ∈ es, NodeLegible e) :
    NodeLegible (.function name es m nullable) := by
  intro lexemes written category front behind read
  obtain ⟨pairs, rfl, each', tokens, phrases⟩ := function_written offered written
  rw [tokens, phrase_function, phrases] at read
  have reads := read.of_call (values_spell spells each')
  exact .of_firm rfl rfl (Expr.everywhere_function.mpr ⟨rfl, values_legible each each' reads⟩)

/-- The operands of a comparison are legible, and those that need parentheses have them. -/
theorem comparison_legible {l r : Expr String} (compares : op.isComparison = true)
    (left : isBinary l = false → ReadWhole front (sqlite.level op) l)
    (right : isBinary r = false → ReadWhole (sqlite.level op) behind r) :
    (Expr.binary op l r m).isLegible .sqlite = true := by
  have tight := predicateLevel_le_level (d := .sqlite) (isLogical_of_isComparison compares)
  have noNegation : l.isNegation = false := by
    cases l with
    | negation => exact absurd ((left rfl).loose rfl) (Nat.not_lt.mpr (Nat.le_of_lt tight))
    | _ => rfl
  have equates : l.isPredicate = true → sqlite.level op = predicateLevel := by
    intro predicate
    have plain : isBinary l = false := by
      cases l with
      | binary => cases predicate
      | _ => rfl
    exact Nat.le_antisymm ((left plain).predicate predicate).2 tight
  have noPredicate : r.isPredicate = false := by
    cases r with
    | nullTest | inList | inParameter | like =>
      exact absurd ((right rfl).predicate rfl).1 (Nat.not_lt.mpr tight)
    | _ => rfl
  simp only [Expr.isLegible, compares, noNegation, noPredicate, Bool.not_false, Bool.true_and, Bool.and_true,
    Bool.or_eq_true, Bool.not_eq_true', decide_eq_true_eq]
  refine .inr (.inr ?_)
  cases predicate : l.isPredicate with
  | false => exact .inl rfl
  | true => exact .inr (equates predicate)

/-- The sides of an operator that is read are read on its two sides. -/
theorem binary_legible {l r : Expr String} (spells : NodeSpells l) (spells' : NodeSpells r) (left : NodeLegible l)
    (right : NodeLegible r) (joins : op.isLogical = true → JoinsLegible op r) : NodeLegible (.binary op l r m) := by
  intro lexemes written category front behind read
  obtain ⟨ls, rs, found, found', tokens⟩ := binary_written written
  have spelled := operand_spells spells found
  rw [tokens, phrase_binary] at read
  cases logical : op.isLogical with
  | true =>
    have place : op.operandPlace = .condition := if_pos logical
    have low : behind ≤ sqlite.level op := read.behind_le_level spelled (Phrase.operator?_joined op _ _)
    have joined := joins logical true rs found' category front behind _ _ spelled
    rw [place] at joined read
    obtain ⟨⟨_, _, _, first⟩, second⟩ := joined read
    rw [← place] at first
    refine .of_loose (Nat.lt_of_le_of_lt low (level_of_isLogical logical)) rfl
      (Expr.everywhere_binary.mpr ⟨?_, ?_, second⟩)
    · exact isLegible_of_not_isComparison (isComparison_of_isLogical logical)
    · exact (operand_legible spells left found first).1
  | false =>
    rw [Phrase.joined_of_not_isLogical logical] at read
    obtain ⟨-, -, first, second⟩ := read.of_binary spelled
    obtain ⟨legible, whole⟩ := operand_legible spells left found first
    obtain ⟨legible', whole'⟩ := operand_legible spells' right found' second
    refine ⟨fun loose => ?_, fun predicate => absurd predicate Bool.false_ne_true,
      Expr.everywhere_binary.mpr ⟨?_, legible, legible'⟩⟩
    · rw [Expr.isLoose, logical, Bool.false_or, Bool.and_eq_true] at loose
      cases r with
      | negation => exact (whole' rfl).loose rfl
      | _ => cases loose.2
    · cases compares : op.isComparison with
      | true => exact comparison_legible compares whole whole'
      | false => exact isLegible_of_not_isComparison compares

/-- The operand of a negation is read behind its word. -/
theorem negation_legible (spells : NodeSpells e) (below : NodeLegible e) : NodeLegible (.negation e m) := by
  intro lexemes written category front behind read
  obtain ⟨inner, found, tokens⟩ := negation_written written
  rw [tokens, phrase_negation] at read
  obtain ⟨looser, read⟩ := read.of_negation
  have whole := fitted_legible below found (read.of_parenthesized (fitted_spells spells found).balanced)
  exact .of_loose looser rfl (Expr.everywhere_negation.mpr ⟨rfl, whole.legible⟩)

/-- The operand of a null test is read in front of it. -/
theorem nullTest_legible {negated : Bool} (spells : NodeSpells e) (below : NodeLegible e) :
    NodeLegible (.nullTest e negated m) := by
  intro lexemes written category front behind read
  obtain ⟨inner, found, tokens⟩ := nullTest_written written
  rw [tokens, phrase_nullTest] at read
  obtain ⟨looser, noTighter, read⟩ := read.of_nullTest (parenthesized_spells (fitted_spells spells found))
  obtain ⟨legible, whole⟩ := parenthesized_legible spells below found read
  refine .of_predicate rfl ⟨looser, noTighter⟩ (Expr.everywhere_nullTest.mpr ⟨?_, legible⟩)
  cases e with
  | negation => exact absurd ((whole rfl).loose rfl) (by decide)
  | _ => rfl

/-- The operand of a conversion is read inside its parentheses. -/
theorem convert_legible (known : Dialect.sqlite.Knows m) (spells : NodeSpells e) (below : NodeLegible e) :
    NodeLegible (.convert e m) := by
  intro lexemes written category front behind read
  obtain ⟨inner, found, tokens⟩ := convert_written known written
  rw [tokens, phrase_convert] at read
  have whole := fitted_legible below found (read.of_cast (fitted_spells spells found))
  exact .of_firm rfl rfl (Expr.everywhere_convert.mpr ⟨rfl, whole.legible⟩)

/-- The item of a list is read in front of it and its elements between the commas. -/
theorem inList_legible {es : List (Expr String)} {negated : Bool} (some : es ≠ []) (spells : NodeSpells e)
    (below : NodeLegible e) (spells' : ∀ v ∈ es, NodeSpells v) (each : ∀ v ∈ es, NodeLegible v) :
    NodeLegible (.inList e es negated m) := by
  intro lexemes written category front behind read
  obtain ⟨inner, pairs, found, rfl, each', tokens, phrases⟩ := inList_written some written
  rw [tokens, phrase_inList, phrases] at read
  obtain ⟨looser, noTighter, item, members⟩ := read.of_inList (fitted_spells spells found) (values_spell spells' each')
  have whole := fitted_legible below found item
  refine .of_predicate rfl ⟨looser, noTighter⟩
    (Expr.everywhere_inList.mpr ⟨?_, whole.legible, values_legible each each' members⟩)
  have firm : e.isLoose = false := by
    by_contra loose
    exact absurd (whole.loose (Bool.not_eq_false _ ▸ loose)) (by decide)
  rw [Expr.isLegible, firm]
  rfl

/-- The operands of a pattern match are read between its words. -/
theorem like_legible {subject pattern : Expr String} {escape : Option (Expr String)} (spells : NodeSpells subject)
    (spells' : NodeSpells pattern) (first : NodeLegible subject) (second : NodeLegible pattern)
    (third : ∀ e ∈ escape, NodeLegible e) : NodeLegible (.like subject pattern escape m) := by
  intro lexemes written category front behind read
  obtain ⟨ss, ps, es, found, found', found'', tokens⟩ := like_written written
  have spelled := fitted_spells spells found
  rw [tokens, phrase_like] at read
  cases escape with
  | none =>
    cases found''
    rw [List.flatMap_nil, List.append_nil, phraseOption] at read
    obtain ⟨looser, noTighter, subjectRead, patternRead⟩ := read.of_like spelled
    refine .of_predicate rfl ⟨looser, noTighter⟩ (Expr.everywhere_like.mpr ⟨rfl,
      (fitted_legible first found subjectRead).legible, (fitted_legible second found' patternRead).legible, ?_⟩)
    intro e member
    cases member
  | some e =>
    obtain ⟨inner, inside, clause⟩ := escapeClause_written found''
    rw [clause, ← List.append_assoc, phraseOption] at read
    obtain ⟨looser, noTighter, subjectRead, patternRead, escapeRead⟩ :=
      read.of_escaped spelled (fitted_spells spells' found')
    refine .of_predicate rfl ⟨looser, noTighter⟩ (Expr.everywhere_like.mpr ⟨rfl,
      (fitted_legible first found subjectRead).legible, (fitted_legible second found' patternRead).legible, ?_⟩)
    intro e' member
    cases member
    exact (fitted_legible (third e rfl) inside escapeRead).legible

/-- Every expression whose tokens are read as its phrase is legible. -/
theorem node_legible (regular : e.Everywhere (Expr.Regular .sqlite)) : NodeLegible e := by
  suffices both : NodeLegible e ∧ ∀ op, op.isLogical = true → JoinsLegible op e from both.1
  -- what is no chain is joined as it is
  have alone : ∀ {e : Expr String}, e.operator? = none → e.Everywhere (Expr.Regular .sqlite) → NodeLegible e →
      NodeLegible e ∧ ∀ op, op.isLogical = true → JoinsLegible op e := by
    intro e other regular below
    refine ⟨below, fun op logical => joins_legible logical (node_spells regular) below fun l r m same => ?_⟩
    rw [same] at other
    cases other
  induction e with
  | constant v m =>
    exact alone rfl regular fun _ _ _ _ _ _ => .of_firm rfl rfl (Expr.everywhere_constant.mpr rfl)
  | parameter name t m =>
    exact alone rfl regular fun _ _ _ _ _ _ => .of_firm rfl rfl (Expr.everywhere_parameter.mpr rfl)
  | column table name m nullable =>
    exact alone rfl regular fun _ _ _ _ _ _ => .of_firm rfl rfl (Expr.everywhere_column.mpr rfl)
  | function name es m nullable each =>
    obtain ⟨here, parts⟩ := Expr.everywhere_function.mp regular
    exact alone rfl regular (function_legible here.standard.2 (fun e member => node_spells (parts e member))
      fun e member => (each e member (parts e member)).1)
  | binary op l r m first second =>
    obtain ⟨-, left, right⟩ := Expr.everywhere_binary.mp regular
    have below : NodeLegible (.binary op l r m) := binary_legible (node_spells left) (node_spells right) (first left).1
      (second right).1 ((second right).2 op)
    refine ⟨below, fun op' logical => joins_legible logical (node_spells regular) below fun l' r' m' same => ?_⟩
    cases same
    exact ⟨node_spells left, (first left).2 op logical, (second right).2 op logical⟩
  | negation e m below =>
    obtain ⟨-, part⟩ := Expr.everywhere_negation.mp regular
    exact alone rfl regular (negation_legible (node_spells part) (below part).1)
  | nullTest e negated m below =>
    obtain ⟨-, part⟩ := Expr.everywhere_nullTest.mp regular
    exact alone rfl regular (nullTest_legible (node_spells part) (below part).1)
  | convert e m below =>
    obtain ⟨here, part⟩ := Expr.everywhere_convert.mp regular
    exact alone rfl regular (convert_legible here.standard.1 (node_spells part) (below part).1)
  | inList item es negated m below each =>
    obtain ⟨here, part, parts⟩ := Expr.everywhere_inList.mp regular
    exact alone rfl regular (inList_legible here.standard.2 (node_spells part) (below part).1
      (fun v member => node_spells (parts v member)) fun v member => (each v member (parts v member)).1)
  | inParameter item source negated m first second =>
    refine alone rfl regular fun lexemes written => ?_
    unfold node at written
    cases written
  | like subject pattern escape m first second third =>
    obtain ⟨-, part, part', part''⟩ := Expr.everywhere_like.mp regular
    exact alone rfl regular (like_legible (node_spells part) (node_spells part') (first part).1 (second part').1
      fun e member => (third e member (part'' e member)).1)

end Dialect

end SqlShape
