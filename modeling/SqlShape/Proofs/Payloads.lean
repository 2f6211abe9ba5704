import SqlShape.Proofs.Placeholders
import SqlShape.Proofs.Tokens

/-!
# Names and texts in a command

The names and texts of a statement do not reach into the rest of its command. A statement with other names and texts
is written with the same lexemes but for these (`statement_blanked`), and lexemes are read one by one; so the tokens of
the two commands differ in names and texts only (`commandText_confines_strings`).
-/

namespace SqlShape

/-- A token without its name or text. -/
def Token.blanked : Token → Token
  | .identifier _ => .identifier ""
  | .string national _ => .string national ""
  | t => t

/-- A lexeme without its name or text. -/
def Lexeme.blanked : Lexeme → Lexeme
  | .identifier _ => .identifier ""
  | .string national _ => .string national ""
  | l => l

mutual
/-- A value without its texts. -/
def Value.blanked : Value → Value
  | .text _ => .text ""
  | .list items => .list (Value.blankedList items)
  | v => v
/-- Values in a row without their texts. -/
def Value.blankedList : List Value → List Value
  | [] => []
  | v :: vs => v.blanked :: Value.blankedList vs
end

namespace Expr

variable {ρ : Type}

mutual
/-- An expression without the names of its columns and without its texts. -/
def blanked : Expr ρ → Expr ρ
  | constant v m => constant v.blanked m
  | parameter r t m => parameter r t m
  | column _ _ m b => column "" "" m b
  | function n as m b => function n (blankedList as) m b
  | binary op l r m => binary op l.blanked r.blanked m
  | negation e m => negation e.blanked m
  | nullTest e b m => nullTest e.blanked b m
  | convert e m => convert e.blanked m
  | inList e vs b m => inList e.blanked (blankedList vs) b m
  | inParameter e s b m => inParameter e.blanked s.blanked b m
  | like s p e m => like s.blanked p.blanked (blankedOption e) m
/-- Expressions in a row without names and texts. -/
def blankedList : List (Expr ρ) → List (Expr ρ)
  | [] => []
  | e :: es => e.blanked :: blankedList es
/-- An expression that may be absent, without names and texts. -/
def blankedOption : Option (Expr ρ) → Option (Expr ρ)
  | none => none
  | some e => some e.blanked
end

end Expr

/-- A statement without the names of its table and columns, without its aliases and without its texts. -/
def Select.blanked {ρ : Type} (s : Select ρ) : Select ρ where
  table := ""
  tableAlias := ""
  projections := s.projections.map fun p => ⟨"", p.expr.blanked⟩
  predicate := s.predicate.map Expr.blanked
  orderings := s.orderings.map fun o => ⟨o.expr.blanked, o.ascending⟩
  limit := s.limit.map Expr.blanked

/-! ## Writing without names and texts -/

/-- Lexemes without names and texts, or the same refusal. -/
abbrev Written.blanked (w : Written) : Written :=
  w.map (List.map Lexeme.blanked)

namespace Expr

variable {ρ : Type}

/-- The mutual recursion over operands is a map. -/
theorem blankedList_eq_map (es : List (Expr ρ)) : blankedList es = es.map blanked := by
  induction es with
  | nil => rfl
  | cons e es later => rw [blankedList, later, List.map_cons]

theorem blankedOption_eq_map (o : Option (Expr ρ)) : blankedOption o = o.map blanked := by
  cases o with
  | none => rfl
  | some e => rfl

/-- A constant keeps its mapping and a column its own, so no type changes. -/
@[simp]
theorem type_blanked (e : Expr ρ) : e.blanked.type = e.type := by
  cases e <;> rfl

/-- Whether a node is written as a condition does not depend on names and texts. -/
@[simp]
theorem isCondition_blanked (e : Expr ρ) : e.blanked.isCondition = e.isCondition := by
  cases e <;> rfl

/-- A truth value is no text. -/
@[simp]
theorem truth?_blanked (e : Expr ρ) : e.blanked.truth? = e.truth? := by
  cases e with
  | constant v m => cases v <;> rfl
  | _ => rfl

/-- Placeholders keep their names: they are no identifiers of the statement. -/
@[simp]
theorem ref?_blanked (e : Expr ρ) : e.blanked.ref? = e.ref? := by
  cases e <;> rfl

end Expr

theorem Value.blankedList_eq_map (vs : List Value) : Value.blankedList vs = vs.map Value.blanked := by
  induction vs with
  | nil => rfl
  | cons v vs later => rw [blankedList, later, List.map_cons]

/-- Commas are plain lexemes and stay. -/
theorem Lexeme.blanked_commaSeparated (parts : List (List Lexeme)) :
    (commaSeparated parts).map blanked = commaSeparated (parts.map (List.map blanked)) := by
  unfold commaSeparated
  induction parts with
  | nil => rfl
  | cons part rest later =>
    cases rest with
    | nil => simp only [List.map_cons, List.map_nil, List.intercalate_singleton]
    | cons part' rest =>
      simp only [List.intercalate_cons_cons, List.map_cons, List.map_append, later]
      rfl

namespace Dialect

variable {d : Dialect}

/-- A text stays a text without its characters; all other literals stay as they are. -/
theorem literal_blanked (m : TypeMapping) (v : Value) :
    d.literal m v.blanked = (d.literal m v).map Lexeme.blanked := by
  induction v using Value.memInduction with
  | scalar v scalar =>
    cases v with
    | list items => cases scalar
    | _ => cases d <;> rfl
  | list items each =>
    rw [Value.blanked, Value.blankedList_eq_map, literals_eq_map, literals_eq_map, Lexeme.blanked_commaSeparated,
      List.map_map, List.map_map]
    exact congrArg Lexeme.commaSeparated (List.map_congr_left each)

/-- A constant is refused without its text exactly where it is refused with it. -/
theorem writeConstant_blanked (v : Value) (m : TypeMapping) :
    d.writeConstant v.blanked m = (d.writeConstant v m).blanked := by
  have written : (pure (d.literal m v.blanked) : Written) = Written.blanked (pure (d.literal m v)) := by
    rw [literal_blanked]
    rfl
  cases v with
  | double x =>
    unfold writeConstant
    dsimp only [Value.blanked]
    split
    · exact written
    · rfl
  | _ => exact written

/-- What is put around a node to fit it into its place depends on its kind only. -/
theorem fitted_blanked (place : Place) (e : Expr String) (node : Written) :
    d.fitted place e.blanked node.blanked = (d.fitted place e node).blanked := by
  unfold fitted
  cases place with
  | condition =>
    simp only [Expr.isCondition_blanked, Expr.type_blanked, Expr.truth?_blanked]
    split
    · split
      · rfl
      · cases node with
        | error refusal => rfl
        | ok lexemes =>
          cases d with
          | sqlServer => exact congrArg Except.ok (by simp [separatesConditions, Lexeme.blanked])
          | sqlite => rfl
    · rfl
  | value =>
    simp only [Expr.isCondition_blanked]
    split
    · cases node with
      | error refusal => rfl
      | ok lexemes => exact congrArg Except.ok (by simp [Lexeme.blanked])
    · rfl

theorem isBinary_blanked (e : Expr String) : isBinary e.blanked = isBinary e := by
  cases e <;> rfl

/-- Parentheses are set by operators and types, not by names. -/
theorem needsParentheses_blanked (e : Expr String) (parent : BinaryOp) (isRight : Bool) (place : Place) :
    d.needsParentheses e.blanked parent isRight place = d.needsParentheses e parent isRight place := by
  cases e <;> rfl

/-- Parentheses are plain lexemes and stay. -/
theorem parenthesizedIf_blanked (lexemes : List Lexeme) (inParentheses : Bool) :
    (if inParentheses then parenthesized lexemes else lexemes).map Lexeme.blanked =
      if inParentheses then parenthesized (lexemes.map Lexeme.blanked) else lexemes.map Lexeme.blanked := by
  cases inParentheses with
  | true => simp only [parenthesized, if_true, List.map_append, List.map_cons, List.map_nil, Lexeme.blanked]
  | false => rfl

/-- An operand is fitted and put in parentheses as before. -/
theorem operand_blanked (parent : BinaryOp) (isRight : Bool) (e : Expr String) (node : Written) :
    d.operand parent isRight e.blanked node.blanked = (d.operand parent isRight e node).blanked := by
  unfold operand
  dsimp only
  rw [fitted_blanked, needsParentheses_blanked]
  cases d.fitted (if parent.isLogical then .condition else .value) e node with
  | error refusal => rfl
  | ok lexemes => exact congrArg Except.ok (parenthesizedIf_blanked lexemes _).symm

/-- Values in a row are written alike one by one. -/
theorem values_blanked {es : List (Expr String)} (each : ∀ e ∈ es, d.node e.blanked = (d.node e).blanked) :
    d.values (es.map Expr.blanked) = (d.values es).map (List.map (List.map Lexeme.blanked)) := by
  induction es with
  | nil => rfl
  | cons e es later =>
    obtain ⟨here, others⟩ := List.forall_mem_cons.mp each
    rw [List.map_cons, values, values, here, fitted_blanked, later others]
    cases d.fitted .value e (d.node e) with
    | error refusal => rfl
    | ok first =>
      cases d.values es with
      | error refusal => rfl
      | ok rest => rfl

/-- An expression without names and texts is written as it was, without names and texts. -/
theorem node_blanked (e : Expr String) : d.node e.blanked = (d.node e).blanked := by
  induction e with
  | constant v m => exact writeConstant_blanked v m
  | parameter name t m =>
    simp only [Expr.blanked, node]
    split
    · rfl
    · rfl
  | column table name m nullable => rfl
  | function name es m nullable each =>
    rw [Expr.blanked, Expr.blankedList_eq_map, node, node, values_blanked each]
    cases d.values es with
    | error refusal => rfl
    | ok parts =>
      refine congrArg Except.ok ?_
      simp only [List.map_append, Lexeme.blanked_commaSeparated, List.map_cons, List.map_nil, Lexeme.blanked]
  | binary op l r m first second =>
    rw [Expr.blanked, node, node, first, second, operand_blanked, operand_blanked]
    cases d.operand op false l (d.node l) with
    | error refusal => rfl
    | ok ls =>
      cases d.operand op true r (d.node r) with
      | error refusal => rfl
      | ok rs =>
        refine congrArg Except.ok ?_
        simp only [List.map_append, List.map_cons, List.map_nil, Lexeme.blanked]
  | negation e m below =>
    rw [Expr.blanked, node, node, below, fitted_blanked]
    cases d.fitted .condition e (d.node e) with
    | error refusal => rfl
    | ok lexemes =>
      refine congrArg Except.ok ?_
      simp only [List.map_append, List.map_cons, List.map_nil, Lexeme.blanked]
  | nullTest e negated m below =>
    rw [Expr.blanked, node, node, below, fitted_blanked, isBinary_blanked]
    cases d.fitted .value e (d.node e) with
    | error refusal => rfl
    | ok lexemes =>
      refine congrArg Except.ok ?_
      simp only [List.map_append, parenthesizedIf_blanked, List.map_cons, List.map_nil, Lexeme.blanked]
  | convert e m below =>
    rw [Expr.blanked, node, node, below, fitted_blanked]
    cases d.fitted .value e (d.node e) with
    | error refusal => rfl
    | ok lexemes =>
      refine congrArg Except.ok ?_
      simp only [List.map_append, List.map_cons, List.map_nil, Lexeme.blanked]
  | inList item es negated m below each =>
    rw [Expr.blanked, Expr.blankedList_eq_map, node, node, below, fitted_blanked, values_blanked each, List.isEmpty_map]
    unfold writeInList
    cases es.isEmpty with
    | true => rfl
    | false =>
      cases d.fitted .value item (d.node item) with
      | error refusal => rfl
      | ok lexemes =>
        cases d.values es with
        | error refusal => rfl
        | ok parts =>
          refine congrArg Except.ok ?_
          simp only [List.map_append, Lexeme.blanked_commaSeparated, List.map_cons, List.map_nil, Lexeme.blanked]
  | inParameter item source negated m first second =>
    rw [Expr.blanked, node, node, Expr.ref?_blanked]
    rfl
  | like subject pattern escape m first second third =>
    have clause : d.escapeClause (escape.map Expr.blanked) = (d.escapeClause escape).blanked := by
      cases escape with
      | none => rfl
      | some e =>
        rw [Option.map_some, escapeClause, escapeClause, third e rfl, fitted_blanked]
        cases d.fitted .value e (d.node e) with
        | error refusal => rfl
        | ok lexemes => rfl
    rw [Expr.blanked, Expr.blankedOption_eq_map, node, node, first, second, fitted_blanked, fitted_blanked, clause]
    cases d.fitted .value subject (d.node subject) with
    | error refusal => rfl
    | ok u =>
      cases d.fitted .value pattern (d.node pattern) with
      | error refusal => rfl
      | ok p =>
        cases d.escapeClause escape with
        | error refusal => rfl
        | ok x =>
          refine congrArg Except.ok ?_
          simp only [List.map_append, List.map_cons, List.map_nil, Lexeme.blanked]

/-! ## Statements -/

/-- A value is written alike, whatever its names and texts. -/
theorem value_blanked (e : Expr String) : d.writeValue e.blanked = (d.writeValue e).blanked := by
  unfold writeValue
  rw [node_blanked, fitted_blanked]

/-- Clauses in a row, where each is written as before without names and texts. -/
theorem mapM_blanked {α : Type} {write : α → Written} {blank : α → α}
    (each : ∀ a, write (blank a) = (write a).blanked) (items : List α) :
    (items.map blank).mapM write = (items.mapM write).map (List.map (List.map Lexeme.blanked)) := by
  induction items with
  | nil => rfl
  | cons a items later =>
    rw [List.map_cons, List.mapM_cons, List.mapM_cons, each, later]
    cases write a with
    | error refusal => rfl
    | ok first =>
      cases items.mapM write with
      | error refusal => rfl
      | ok rest => rfl

/-- The labels of projections are names too. -/
theorem projections_blanked (s : Select String) : d.projections s.blanked = (d.projections s).blanked := by
  have each : ∀ p : Projection String, d.projection ⟨"", p.expr.blanked⟩ = (d.projection p).blanked := by
    intro p
    unfold projection
    dsimp only
    rw [value_blanked]
    cases d.writeValue p.expr with
    | error refusal => rfl
    | ok lexemes =>
      refine congrArg Except.ok ?_
      simp only [List.map_append, List.map_cons, List.map_nil, Lexeme.blanked]
  unfold projections Select.blanked
  dsimp only
  cases s.projections with
  | nil => rfl
  | cons p ps =>
    change (((p :: ps).map _).mapM d.projection >>= fun parts => pure (Lexeme.commaSeparated parts)) =
      Written.blanked ((p :: ps).mapM d.projection >>= fun parts => pure (Lexeme.commaSeparated parts))
    rw [mapM_blanked each]
    cases (p :: ps).mapM d.projection with
    | error refusal => rfl
    | ok parts => exact congrArg Except.ok (Lexeme.blanked_commaSeparated parts).symm

/-- Orderings are written alike; without orderings there is no clause. -/
theorem orderClause_blanked (s : Select String) : d.orderClause s.blanked = (d.orderClause s).blanked := by
  have each : ∀ o : SortKey String, d.sortKey ⟨o.expr.blanked, o.ascending⟩ = (d.sortKey o).blanked := by
    intro o
    unfold sortKey
    dsimp only
    rw [value_blanked]
    cases d.writeValue o.expr with
    | error refusal => rfl
    | ok lexemes =>
      refine congrArg Except.ok ?_
      cases o.ascending <;> simp [Lexeme.blanked]
  unfold orderClause Select.blanked
  dsimp only
  cases s.orderings with
  | nil => rfl
  | cons o os =>
    change (((o :: os).map _).mapM d.sortKey >>= fun parts =>
      pure ([.plain " ORDER BY "] ++ Lexeme.commaSeparated parts)) =
      Written.blanked ((o :: os).mapM d.sortKey >>= fun parts =>
        pure ([.plain " ORDER BY "] ++ Lexeme.commaSeparated parts))
    rw [mapM_blanked each]
    cases (o :: os).mapM d.sortKey with
    | error refusal => rfl
    | ok parts =>
      refine congrArg Except.ok ?_
      rw [List.map_append, Lexeme.blanked_commaSeparated]
      rfl

/-- The predicate is written alike; where it is absent there is no clause. -/
theorem whereClause_blanked (s : Select String) : d.whereClause s.blanked = (d.whereClause s).blanked := by
  unfold whereClause Select.blanked writeCondition
  dsimp only
  cases s.predicate with
  | none => rfl
  | some predicate =>
    dsimp only [Option.map_some]
    rw [node_blanked, fitted_blanked]
    cases d.fitted .condition predicate (d.node predicate) with
    | error refusal => rfl
    | ok lexemes => rfl

/-- The row limit before the projections is written alike. -/
theorem topClause_blanked (s : Select String) : d.topClause s.blanked = (d.topClause s).blanked := by
  unfold topClause Select.blanked
  cases d with
  | sqlite => rfl
  | sqlServer =>
    dsimp only
    cases s.limit with
    | none => rfl
    | some limit =>
      dsimp only [Option.map_some]
      rw [value_blanked]
      cases sqlServer.writeValue limit with
      | error refusal => rfl
      | ok lexemes =>
        refine congrArg Except.ok ?_
        simp only [List.map_append, List.map_cons, List.map_nil, Lexeme.blanked]

/-- The row limit at the end is written alike. -/
theorem limitClause_blanked (s : Select String) : d.limitClause s.blanked = (d.limitClause s).blanked := by
  unfold limitClause Select.blanked
  cases d with
  | sqlServer => rfl
  | sqlite =>
    dsimp only
    cases s.limit with
    | none => rfl
    | some limit =>
      dsimp only [Option.map_some]
      rw [value_blanked]
      cases sqlite.writeValue limit with
      | error refusal => rfl
      | ok lexemes => rfl

/-- A statement without names and texts is written as it was, without names and texts. -/
theorem statement_blanked (s : Select String) : d.statement s.blanked = (d.statement s).blanked := by
  unfold statement
  rw [topClause_blanked, projections_blanked, whereClause_blanked, orderClause_blanked, limitClause_blanked]
  cases d.topClause s with
  | error refusal => rfl
  | ok top =>
    cases d.projections s with
    | error refusal => rfl
    | ok projections =>
      cases d.whereClause s with
      | error refusal => rfl
      | ok condition =>
        cases d.orderClause s with
        | error refusal => rfl
        | ok order =>
          cases d.limitClause s with
          | error refusal => rfl
          | ok limit =>
            refine congrArg Except.ok ?_
            simp only [fromClause, Select.blanked, List.map_append, List.map_cons, List.map_nil, Lexeme.blanked]

end Dialect

/-! ## Names that are no identifiers -/

namespace Expr

variable {ρ : Type}

/-- The nodes of an expression without names are its nodes without names, in the same order. -/
theorem nodes_blanked (e : Expr ρ) : e.blanked.nodes = e.nodes.map blanked := by
  have each : ∀ {es : List (Expr ρ)}, (∀ e ∈ es, e.blanked.nodes = e.nodes.map blanked) →
      (es.map blanked).flatMap nodes = (es.flatMap nodes).map blanked := by
    intro es same
    rw [List.flatMap_map, List.map_flatMap]
    exact List.flatMap_congr same
  induction e with
  | constant value m => rfl
  | parameter ref t m => rfl
  | column table name m nullable => rfl
  | function name es m nullable same =>
    simp only [blanked, blankedList_eq_map, nodes, nodesList_eq_flatMap, each same, List.map_cons]
  | binary op l r m first second => simp only [blanked, nodes, first, second, List.map_cons, List.map_append]
  | negation e m below => simp only [blanked, nodes, below, List.map_cons]
  | nullTest e negated m below => simp only [blanked, nodes, below, List.map_cons]
  | convert e m below => simp only [blanked, nodes, below, List.map_cons]
  | inList item es negated m below same =>
    simp only [blanked, blankedList_eq_map, nodes, nodesList_eq_flatMap, below, each same, List.map_cons,
      List.map_append]
  | inParameter item source negated m first second =>
    simp only [blanked, nodes, first, second, List.map_cons, List.map_append]
  | like subject pattern escape m first second third =>
    have clause : (escape.map blanked).toList = escape.toList.map blanked := by
      cases escape with
      | none => rfl
      | some e => rfl
    have same : ∀ e ∈ escape.toList, e.blanked.nodes = e.nodes.map blanked :=
      fun e member => third e (Option.mem_toList.mp member)
    simp only [blanked, blankedOption_eq_map, nodes, nodesOption_eq_flatMap, first, second, clause, each same,
      List.map_cons, List.map_append]

/-- Only function and placeholder names and store types are looked at, and they stay. -/
theorem plainNames_blanked {d : Dialect} (e : Expr String) : e.blanked.PlainNames d ↔ e.PlainNames d := by
  cases e <;> rfl

end Expr

namespace Select

variable {d : Dialect}

/-- The expressions of a statement without names, in the same order. -/
theorem expressions_blanked {ρ : Type} (s : Select ρ) : s.blanked.expressions = s.expressions.map Expr.blanked := by
  have option : ∀ o : Option (Expr ρ), (o.map Expr.blanked).toList = o.toList.map Expr.blanked := by
    intro o
    cases o with
    | none => rfl
    | some e => rfl
  simp only [expressions, blanked, option, List.map_append, List.map_map, Function.comp_def]

/-- So a statement has plain names exactly where it has them without its identifiers. -/
theorem plainNames_blanked (s : Select String) : s.blanked.PlainNames d ↔ s.PlainNames d := by
  simp only [PlainNames, expressions_blanked, List.forall_mem_map, Expr.Everywhere, Expr.nodes_blanked,
    Expr.plainNames_blanked]

end Select

/-! ## Tokens -/

/-- Without names and texts, the tokens of a lexeme depend on the lexeme without its name or text only. -/
theorem Lexeme.map_blanked_tokens (d : Dialect) (l : Lexeme) :
    (l.blanked.tokens d).map Token.blanked = (l.tokens d).map Token.blanked := by
  cases l <;> rfl

/-- The tokens of lexemes in a row, without names and texts. -/
theorem Lexeme.map_blanked_flatMap_tokens (d : Dialect) (lexemes : List Lexeme) :
    ((lexemes.map blanked).flatMap (tokens d)).map Token.blanked = (lexemes.flatMap (tokens d)).map Token.blanked := by
  rw [List.flatMap_map, List.map_flatMap, List.map_flatMap]
  exact List.flatMap_congr fun l _ => map_blanked_tokens d l

namespace Dialect

variable {d : Dialect}

/-- The text of a statement whose names have no quote marks is scanned into the tokens of the statement. -/
theorem scan_commandText {s : Select String} {text : String} (plain : s.PlainNames d)
    (written : d.commandText s = .ok text) :
    ∃ tokens, d.tokens s = .ok tokens ∧ d.scan text.toList = some tokens ∧
      tokens.filter Token.isQuoted = s.quotedTokens d := by
  obtain ⟨lexemes, found, rest⟩ := bind_eq_ok.mp written
  cases rest
  have scanned := statement_scanned plain found
  refine ⟨_, bind_eq_ok.mpr ⟨lexemes, found, rfl⟩, ?_, scanned.quoted⟩
  rw [Lexeme.text, String.toList_ofList]
  exact scanned.scan

/-- A statement that differs from a written one in names and texts only is written as well, and its tokens differ in
them only. -/
theorem tokens_blanked {s s' : Select String} {tokens : List Token} (same : s'.blanked = s.blanked)
    (written : d.tokens s = .ok tokens) :
    ∃ text' tokens', d.commandText s' = .ok text' ∧ d.tokens s' = .ok tokens' ∧
      tokens'.map Token.blanked = tokens.map Token.blanked := by
  obtain ⟨lexemes, found, rest⟩ := bind_eq_ok.mp written
  cases rest
  have alike : (d.statement s').blanked = .ok (lexemes.map Lexeme.blanked) := by
    rw [← statement_blanked, same, statement_blanked, found]
    rfl
  cases found' : d.statement s' with
  | error refusal =>
    rw [found'] at alike
    cases alike
  | ok lexemes' =>
    rw [found'] at alike
    refine ⟨_, _, bind_eq_ok.mpr ⟨lexemes', found', rfl⟩, bind_eq_ok.mpr ⟨lexemes', found', rfl⟩, ?_⟩
    rw [← Lexeme.map_blanked_flatMap_tokens d lexemes, ← Lexeme.map_blanked_flatMap_tokens d lexemes',
      Except.ok.inj alike]

/-- The text of a statement is read as the tokens of the statement. Among them each name of a table or column, each
alias and each text is one token with the whole of it, whatever characters it has. So a statement that differs in such
names and texts only has a text as well, and its tokens differ in them only. -/
theorem commandText_confines_strings {s : Select String} {text : String} (plain : s.PlainNames d)
    (written : d.commandText s = .ok text) :
    ∃ tokens, d.tokens s = .ok tokens ∧ d.scan text.toList = some tokens ∧
      tokens.filter Token.isQuoted = s.quotedTokens d ∧
      ∀ s' : Select String, s'.blanked = s.blanked →
        ∃ text' tokens', d.commandText s' = .ok text' ∧ d.scan text'.toList = some tokens' ∧
          tokens'.map Token.blanked = tokens.map Token.blanked := by
  obtain ⟨tokens, found, scanned, quoted⟩ := scan_commandText plain written
  refine ⟨tokens, found, scanned, quoted, ?_⟩
  intro s' same
  have plain' : s'.PlainNames d := by rwa [← Select.plainNames_blanked, same, Select.plainNames_blanked]
  obtain ⟨text', tokens', written', found', alike⟩ := tokens_blanked same found
  obtain ⟨others, again, scanned', -⟩ := scan_commandText plain' written'
  obtain rfl : tokens' = others := Except.ok.inj (found'.symm.trans again)
  exact ⟨text', tokens', written', scanned', alike⟩

end Dialect

namespace Blogs

/-- A statement with names and a text that are made of quote marks. -/
def quotes : Select String where
  table := "]"
  tableAlias := "[b]"
  projections := [⟨"'\"", .column "[b]" "']]" ⟨"int", .int32⟩ false⟩]
  predicate := some (.binary .equal name (.constant (.text "' OR N'") ⟨"nvarchar(max)", .text⟩) ⟨"bit", .bool⟩)
  orderings := []
  limit := some (number "p0")

/-- The same statement with other names and another text. -/
def words : Select String where
  table := "T"
  tableAlias := "t"
  projections := [⟨"x", .column "t" "X" ⟨"int", .int32⟩ false⟩]
  predicate := some (.binary .equal name (.constant (.text "y") ⟨"nvarchar(max)", .text⟩) ⟨"bit", .bool⟩)
  orderings := []
  limit := some (number "p0")

/-- No quote mark of `quotes` ends a name or a text, and `words` is read alike. -/
theorem commandText_quotes_confined :
    ∃ text tokens text' tokens', Dialect.sqlServer.commandText quotes = .ok text ∧
      Dialect.sqlServer.scan text.toList = some tokens ∧
      tokens.filter Token.isQuoted =
        [.identifier "[b]", .identifier "']]", .identifier "'\"", .identifier "]", .identifier "[b]",
          .identifier "b", .identifier "Name", .string true "' OR N'"] ∧
      Dialect.sqlServer.commandText words = .ok text' ∧ Dialect.sqlServer.scan text'.toList = some tokens' ∧
      tokens'.map Token.blanked = tokens.map Token.blanked := by
  obtain ⟨text, written⟩ : ∃ text, Dialect.sqlServer.commandText quotes = .ok text := ⟨_, rfl⟩
  have plain : quotes.PlainNames .sqlServer := by decide
  obtain ⟨tokens, -, scanned, quoted, others⟩ := Dialect.commandText_confines_strings plain written
  obtain ⟨text', tokens', written', scanned', alike⟩ := others words rfl
  exact ⟨text, tokens, text', tokens', written, scanned, quoted, written', scanned', alike⟩

end Blogs

end SqlShape
