import SqlShape.Proofs.CachedPlans
import SqlShape.Proofs.Clauses
import SqlShape.Proofs.Lowered
import SqlShape.Proofs.Payloads
import SqlShape.Proofs.Placeholders

/-!
# Commands are read as their statements

The text of a plan is read in one way, as the statement it was written for: the same clauses in the same order, and in
them the same operators over the same operands. On SQL Server this holds of every plan
(`Compiler.sqlServer_text_reads_back`). On SQLite it holds exactly where the statement is legible
(`Compiler.sqlite_text_reads_back_iff`): a predicate on the right of a comparison, say, is written without parentheses
and read as something else.
-/

namespace SqlShape

open Grammar

/-! ## Names -/

namespace Expr

variable {d : Dialect}

/-- A native expression with words for parameter names is regular. -/
theorem Native.regular {e : Expr String} (native : e.Native d) (named : e.Everywhere fun n => n.hasWordName = true) :
    e.Everywhere (Regular d) :=
  fun n node => ⟨native.typed n node, native.standard n node, named n node⟩

/-- What is regular has no quote marks in its names. -/
theorem Regular.plainNames {e : Expr String} (regular : e.Regular d) : e.PlainNames d := by
  have storeType : ∀ {m : TypeMapping}, d.Knows m → d.Unquoted m.storeType := by
    rintro ⟨storeType, type⟩ known
    cases d with
    | sqlServer =>
      cases type with
      | sequence => cases known
      | _ =>
        cases known
        decide
    | sqlite =>
      cases type with
      | sequence => cases known
      | _ =>
        cases known
        decide
  refine ⟨storeType regular.standard.1, ?_⟩
  cases e with
  | function name es m nullable =>
    have offered : ∀ name ∈ d.functionNames, d.Unquoted name := by
      cases d <;> decide
    exact offered name regular.standard.2
  | parameter name t m =>
    intro c member
    have part := List.all_eq_true.mp regular.named c member
    refine Scanner.unquoted_of_isNumeralChar ?_
    rw [Scanner.isNumeralChar, part, Bool.true_or, Bool.true_or]
  | _ => trivial

end Expr

/-- An identifier and a number make a word. -/
theorem isWordPart_of_mem_placeholderName {namePrefix : String} (valid : Config.isIdentifier namePrefix = true)
    (i : Nat) : (placeholderName namePrefix i).toList.all Scanner.isWordPart = true := by
  have start : ∀ {c : Char}, Config.isIdentifierStart c = true → Scanner.isWordPart c = true := by
    intro c starts
    rcases Bool.or_eq_true_iff.mp starts with alpha | underscore
    · simp only [Scanner.isWordPart, Scanner.isWordStart, alpha, Bool.true_or]
    · simp only [Scanner.isWordPart, Scanner.isWordStart, underscore, Bool.or_true, Bool.true_or]
  have digits : ∀ c ∈ (toString i).toList, Scanner.isWordPart c = true := by
    rw [Nat.toString_eq_repr, Nat.toList_repr]
    exact fun c member => Scanner.isWordPart_of_isDigit (Nat.isDigit_of_mem_toDigits (by omega) (by omega) member)
  rw [placeholderName, String.toList_append, List.all_append, Bool.and_eq_true]
  refine ⟨?_, List.all_eq_true.mpr digits⟩
  unfold Config.isIdentifier at valid
  split at valid
  · cases valid
  next c rest written =>
    obtain ⟨first, others⟩ := Bool.and_eq_true_iff.mp valid
    rw [written, List.all_cons, start first, Bool.true_and, List.all_eq_true]
    intro c member
    rcases Bool.or_eq_true_iff.mp (List.all_eq_true.mp others c member) with starts | digit
    · exact start starts
    · exact Scanner.isWordPart_of_isDigit digit

namespace Select

variable {d : Dialect}

/-- Numbering its slots keeps a statement native. -/
theorem Native.named {t : Select Slot} (native : t.Native d) (namePrefix : String) :
    (t.named namePrefix).Native d := by
  rw [named_eq_map]
  constructor
  · rw [expressions_map]
    exact List.forall_mem_map.mpr fun e member => (native.expressions e member).mapRef _
  · intro e present
    obtain ⟨x, inside, rfl⟩ := Option.map_eq_some_iff.mp present
    exact (Expr.type_mapRef _ x).trans (native.predicate x inside)

/-- The slots of a statement are named by words. -/
theorem hasWordName_named {namePrefix : String} (valid : Config.isIdentifier namePrefix = true) (t : Select Slot) :
    ∀ e ∈ (t.named namePrefix).expressions, e.Everywhere fun n => n.hasWordName = true := by
  rw [named_eq_map, expressions_map]
  refine List.forall_mem_map.mpr fun e member => Expr.everywhere_mapRef.mpr fun n node => ?_
  cases n with
  | parameter slot type m =>
    rw [Expr.mapRef]
    exact isWordPart_of_mem_placeholderName valid _
  | _ =>
    rw [Expr.mapRef]
    rfl

theorem Native.withoutTrivialPredicate {ρ : Type} {t : Select ρ} (native : t.Native d) :
    t.withoutTrivialPredicate.Native d := by
  refine ⟨fun e member => native.expressions e (mem_withoutTrivialPredicate member), fun e present => ?_⟩
  unfold Select.withoutTrivialPredicate at present
  split at present
  · cases present
  · exact native.predicate e present

/-- Known values make a native statement of a native one. -/
theorem Native.specialize {b : Builder} (serves : b.Serves d) {options : SpecializationOptions} {v : Bindings}
    {s : Select String} (native : s.Native d) {outcome : Specialized} (run : s.specialize b options v = .ok outcome) :
    outcome.select.Native d := by
  obtain ⟨t, progress, found, -, rfl⟩ := Specialization.specialize_outcome run
  have read : t.Native d := by
    constructor
    · intro x member
      obtain ⟨e, inside, comes⟩ := found.exists_mem member
      exact (comes.native serves (native.expressions e inside)).1
    · intro x present
      obtain ⟨e, inside, comes⟩ := exists_mem_of_rel found.predicate x present
      have native' := native.expressions e (mem_expressions.mpr (.inr (.inl inside)))
      exact (comes.native serves native').2.trans (native.predicate e inside)
  exact read.withoutTrivialPredicate.named options.namePrefix

end Select

/-! ## Plans -/

namespace Compiler

variable {c : Config} {k : Compiler} {shape : Shape} {lowered : Select String} {b : Bindings} {plan : Plan}

/-- The text of a plan is scanned into the tokens of its statement, the statement is regular, and its predicate is a
truth value. -/
theorem planOf_tokens (made : ofConfig c = .ok k) (found : k.lower shape = .ok lowered)
    (planned : k.planOf lowered b = .ok plan) :
    ∃ tokens, k.dialect.tokens plan.select = .ok tokens ∧ k.dialect.scan plan.commandText.toList = some tokens ∧
      (∀ e ∈ plan.select.expressions, e.Everywhere (Expr.Regular k.dialect)) ∧
      ∀ e ∈ plan.select.predicate, e.type = .bool := by
  obtain ⟨-, lowering, valid⟩ := of_ofConfig made
  have serves := Lowering.serves_lowering lowering
  have lowered := Lowering.lowerShape_native serves found
  obtain ⟨special, run, rest⟩ := bind_eq_ok.mp planned
  obtain ⟨text, written, rest⟩ := bind_eq_ok.mp rest
  cases rest
  have native := lowered.specialize serves.builder run
  have regular : ∀ e ∈ special.select.expressions, e.Everywhere (Expr.Regular k.dialect) := by
    obtain ⟨t, progress, -, -, rfl⟩ := Specialization.specialize_outcome run
    exact fun e member => (native.expressions e member).regular (Select.hasWordName_named valid _ e member)
  have plain : special.select.PlainNames k.dialect := fun e member n node => (regular e member n node).plainNames
  obtain ⟨tokens, statement, scanned, -⟩ := Dialect.scan_commandText plain written
  exact ⟨tokens, statement, scanned, regular, native.predicate⟩

/-- On SQL Server, where conditions and values are apart, the text of every plan is read as its statement and as nothing
else. -/
theorem sqlServer_text_reads_back (dialect : c.dialect = .sqlServer) (made : ofConfig c = .ok k)
    (found : k.lower shape = .ok lowered) (planned : k.planOf lowered b = .ok plan) :
    ∃ tokens, Dialect.sqlServer.scan plan.commandText.toList = some tokens ∧
      ∀ read, Sentence.Reads .sqlServer tokens read ↔ read = Dialect.sqlServer.sentence plan.select := by
  have same := (of_ofConfig made).1.trans dialect
  obtain ⟨tokens, statement, scanned, regular, bool⟩ := planOf_tokens made found planned
  rw [same] at statement scanned regular
  have clear : ∀ e ∈ plan.select.expressions, e.Everywhere (Expr.Clear .sqlServer) := fun e member n node =>
    ⟨regular e member n node, rfl⟩
  exact ⟨tokens, scanned, (Dialect.tokens_read clear bool statement).reads_iff⟩

/-- Rows with a flag that says whether a number is missing. -/
def flagged : Shape :=
  (Shape.ofTable "T" "t").filter (.binary .equal (.column "t" "A" .bool false)
    (.binary .equal (.column "t" "B" .int32 true) (.constant .null (some .int32))))

/-- The null test that is compared with a flag is a value, so it is read as a choice. -/
theorem sqlServer_text_flagged :
    ∃ k lowered plan tokens, ofConfig {} = .ok k ∧ k.lower flagged = .ok lowered ∧
      k.planOf lowered ⟨[]⟩ = .ok plan ∧ Dialect.sqlServer.scan plan.commandText.toList = some tokens ∧
      ∀ read, Sentence.Reads .sqlServer tokens read ↔
        read = ⟨[], "T", "t", some (.binary .equal (.column "t" "A")
          (.choice (.nullTest (.column "t" "B") false) (.bit true) (.bit false))), [], none⟩ := by
  obtain ⟨k, made⟩ : ∃ k, ofConfig {} = .ok k := ⟨_, rfl⟩
  obtain ⟨lowered, found⟩ : ∃ lowered, k.lower flagged = .ok lowered := by
    cases made
    exact ⟨_, rfl⟩
  obtain ⟨plan, planned, statement⟩ : ∃ plan, k.planOf lowered ⟨[]⟩ = .ok plan ∧
      Dialect.sqlServer.sentence plan.select = ⟨[], "T", "t", some (.binary .equal (.column "t" "A")
        (.choice (.nullTest (.column "t" "B") false) (.bit true) (.bit false))), [], none⟩ := by
    cases made
    cases found
    exact ⟨_, rfl, rfl⟩
  obtain ⟨tokens, scanned, reads⟩ := sqlServer_text_reads_back rfl made found planned
  rw [statement] at reads
  exact ⟨k, lowered, plan, tokens, made, found, planned, scanned, reads⟩

/-- On SQLite, the text of a plan is read as its statement and as nothing else exactly where the statement is
legible. -/
theorem sqlite_text_reads_back_iff (dialect : c.dialect = .sqlite) (made : ofConfig c = .ok k)
    (found : k.lower shape = .ok lowered) (planned : k.planOf lowered b = .ok plan) :
    ∃ tokens, Dialect.sqlite.scan plan.commandText.toList = some tokens ∧
      ((∀ read, Sentence.Reads .sqlite tokens read ↔ read = Dialect.sqlite.sentence plan.select) ↔
        ∀ e ∈ plan.select.expressions, e.Everywhere fun n => n.isLegible .sqlite = true) := by
  have same := (of_ofConfig made).1.trans dialect
  obtain ⟨tokens, statement, scanned, regular, bool⟩ := planOf_tokens made found planned
  rw [same] at statement scanned regular
  refine ⟨tokens, scanned, fun reads => Dialect.tokens_legible regular statement ((reads _).mpr rfl), fun legible => ?_⟩
  have clear : ∀ e ∈ plan.select.expressions, e.Everywhere (Expr.Clear .sqlite) := fun e member n node =>
    ⟨regular e member n node, legible e member n node⟩
  exact (Dialect.tokens_read clear bool statement).reads_iff

/-- The tokens of `flagged` on SQLite. -/
def flaggedTokens : List Token :=
  [.word "SELECT", .number "1", .word "FROM", .identifier "T", .word "AS", .identifier "t", .word "WHERE",
    .identifier "t", .symbol ".", .identifier "A", .symbol "=", .identifier "t", .symbol ".", .identifier "B",
    .word "IS", .word "NULL"]

/-- The rows of `flagged`, with the operands of the comparison the other way round. -/
def flaggedFirst : Shape :=
  (Shape.ofTable "T" "t").filter (.binary .equal
    (.binary .equal (.column "t" "B" .int32 true) (.constant .null (some .int32))) (.column "t" "A" .bool false))

/-- A null test on the left of a comparison is legible. -/
theorem sqlite_text_flaggedFirst :
    ∃ k lowered plan tokens, ofConfig { dialect := .sqlite } = .ok k ∧ k.lower flaggedFirst = .ok lowered ∧
      k.planOf lowered ⟨[]⟩ = .ok plan ∧ Dialect.sqlite.scan plan.commandText.toList = some tokens ∧
      ∀ read, Sentence.Reads .sqlite tokens read ↔
        read =
          ⟨[], "T", "t", some (.binary .equal (.nullTest (.column "t" "B") false) (.column "t" "A")), [], none⟩ := by
  obtain ⟨k, made⟩ : ∃ k, ofConfig { dialect := .sqlite } = .ok k := ⟨_, rfl⟩
  obtain ⟨lowered, found⟩ : ∃ lowered, k.lower flaggedFirst = .ok lowered := by
    cases made
    exact ⟨_, rfl⟩
  obtain ⟨plan, planned, legible, statement⟩ : ∃ plan, k.planOf lowered ⟨[]⟩ = .ok plan ∧
      (∀ e ∈ plan.select.expressions, e.Everywhere fun n => n.isLegible .sqlite = true) ∧
      Dialect.sqlite.sentence plan.select =
        ⟨[], "T", "t", some (.binary .equal (.nullTest (.column "t" "B") false) (.column "t" "A")), [], none⟩ := by
    cases made
    cases found
    exact ⟨_, rfl, by decide, rfl⟩
  obtain ⟨tokens, scanned, reads⟩ := sqlite_text_reads_back_iff rfl made found planned
  have reads := reads.mpr legible
  rw [statement] at reads
  exact ⟨k, lowered, plan, tokens, made, found, planned, scanned, reads⟩

/-- On SQLite, `flagged` is not read as its statement: the null test takes the whole comparison for its operand. -/
theorem sqlite_text_flagged_misread :
    ∃ k lowered plan tokens, ofConfig { dialect := .sqlite } = .ok k ∧ k.lower flagged = .ok lowered ∧
      k.planOf lowered ⟨[]⟩ = .ok plan ∧ Dialect.sqlite.scan plan.commandText.toList = some tokens ∧
      Dialect.sqlite.sentence plan.select =
        ⟨[], "T", "t", some (.binary .equal (.column "t" "A") (.nullTest (.column "t" "B") false)), [], none⟩ ∧
      (∀ read, Sentence.Reads .sqlite tokens read ↔
        read = ⟨[], "T", "t", some (.nullTest (.binary .equal (.column "t" "A") (.column "t" "B")) false), [], none⟩) ∧
      ¬ Sentence.Reads .sqlite tokens (Dialect.sqlite.sentence plan.select) := by
  obtain ⟨k, made⟩ : ∃ k, ofConfig { dialect := .sqlite } = .ok k := ⟨_, rfl⟩
  obtain ⟨lowered, found⟩ : ∃ lowered, k.lower flagged = .ok lowered := by
    cases made
    exact ⟨_, rfl⟩
  obtain ⟨plan, planned, scanned, statement⟩ : ∃ plan, k.planOf lowered ⟨[]⟩ = .ok plan ∧
      Dialect.sqlite.scan plan.commandText.toList = some flaggedTokens ∧
      Dialect.sqlite.sentence plan.select =
        ⟨[], "T", "t", some (.binary .equal (.column "t" "A") (.nullTest (.column "t" "B") false)), [], none⟩ := by
    cases made
    cases found
    exact ⟨_, rfl, by decide +kernel, rfl⟩
  have left : Reads .sqlite .value 0 4 _ (.column "t" "A") := @Reads.leaf .sqlite _ _ _ _ rfl
  have right : Reads .sqlite .value 4 4 _ (.column "t" "B") := @Reads.leaf .sqlite _ _ _ _ rfl
  have compared := @Reads.binary .sqlite 0 4 .equal _ _ _ _ (by decide) (by decide) left right
  have tested := @Reads.nullTest .sqlite 0 0 false _ _ (by decide) (by decide) compared
  have filtered : ReadsClause .sqlite .condition [.word "WHERE"] [] _ _ := .present tested
  have limited : ReadsLimit .sqlite [] [] none := ⟨rfl, .absent⟩
  have reads : Sentence.Reads .sqlite flaggedTokens
      ⟨[], "T", "t", some (.nullTest (.binary .equal (.column "t" "A") (.column "t" "B")) false), [], none⟩ :=
    @Sentence.Reads.clauses .sqlite ⟨[], "T", "t", some _, [], none⟩ _ _ _ _ _ limited .one filtered .absent
  refine ⟨k, lowered, plan, flaggedTokens, made, found, planned, scanned, statement, reads.reads_iff, fun other => ?_⟩
  rw [statement] at other
  have same := Option.some.inj (congrArg Sentence.predicate (other.unique reads))
  cases same

end Compiler

end SqlShape
