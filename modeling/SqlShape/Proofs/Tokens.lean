import SqlShape.Command.Statement
import SqlShape.Proofs.Numerals
import SqlShape.Proofs.Statement

/-!
# The tokens of a command

A command is written as lexemes and read as tokens. Where function names, store types and parameter names have no
quote marks, reading gives back the tokens of the lexemes one after the other: no identifier and no text reaches
beyond its quotes, whatever it is made of. The identifiers and texts among the tokens are those of the statement, in
the order in which they are written, and statements that differ in nothing else have tokens that differ in nothing
else.

The argument follows the writer. Every piece that it puts beside another one has a blank, a parenthesis or a comma at
the boundary (`Scanned.before`, `Scanned.after`), except for the parts of a column's name, which are read together.
-/

namespace SqlShape

open Scanner

/-- A token that stands for a name or a text of the statement. -/
def Token.isQuoted : Token → Bool
  | .identifier _ | .string _ _ => true
  | _ => false

/-- The text has no quote marks. -/
def Dialect.Unquoted (d : Dialect) (text : String) : Prop :=
  ∀ c ∈ text.toList, isQuoteMark d c = false

instance (d : Dialect) (text : String) : Decidable (d.Unquoted text) :=
  List.decidableBAll (fun c => isQuoteMark d c = false) text.toList

namespace Dialect

variable {d : Dialect}

/-- A text without marks of either dialect. -/
theorem unquoted_of_both {text : String} (both : sqlServer.Unquoted text ∧ sqlite.Unquoted text) : d.Unquoted text := by
  cases d with
  | sqlServer => exact both.1
  | sqlite => exact both.2

theorem unquoted_append {first second : String} :
    d.Unquoted (first ++ second) ↔ d.Unquoted first ∧ d.Unquoted second := by
  simp only [Unquoted, String.toList_append, List.forall_mem_append]

/-- A written integer has no quote mark. -/
theorem unquoted_int (i : Int) : d.Unquoted (toString i) :=
  fun c member => unquoted_of_isNumeralChar (isNumeralChar_of_mem_int i c member)

theorem unquoted_nat (n : Nat) : d.Unquoted (toString n) :=
  unquoted_int n

/-- A written double has no quote mark. -/
theorem unquoted_double (x : Double) : d.Unquoted x.literal :=
  fun c member => unquoted_of_isNumeralChar (x.isNumeralChar_of_mem_literal c member)

end Dialect

/-- The tokens of a lexeme. -/
def Lexeme.tokens (d : Dialect) : Lexeme → List Token
  | plain text => (d.scan text.toList).getD []
  | identifier name => [.identifier name]
  | string national text => [.string national text]
  | binary bytes =>
    match d with
    | .sqlServer => [.number (String.ofList ('0' :: 'x' :: hexDigits bytes))]
    | .sqlite => [.blob (String.ofList (hexDigits bytes))]

/-- The tokens of a statement, lexeme by lexeme as it is written. They are those that its text is scanned into
(`Dialect.scan_commandText`), and where its expressions are clear they are read as its sentence
(`Dialect.tokens_read`). -/
def Dialect.tokens (d : Dialect) (s : Select String) : Except QueryError (List Token) := do
  return (← d.statement s).flatMap (Lexeme.tokens d)

/-- Hexadecimal digits do not break a word. -/
theorem isWordPart_of_mem_hexDigits {bytes : List UInt8} {c : Char} (member : c ∈ Lexeme.hexDigits bytes) :
    isWordPart c = true := by
  have digit : ∀ n < 16, isWordPart (Lexeme.hexDigit n) = true := by decide
  obtain ⟨b, -, inside⟩ := List.mem_flatMap.mp member
  have small := b.toNat_lt
  rcases List.mem_cons.mp inside with rfl | last
  · exact digit _ (by omega)
  · obtain rfl := List.mem_singleton.mp last
    exact digit _ (by omega)

/-! ## Lexemes in a row -/

/-- A character that is there and a break is a break if it is there. -/
theorem all_of_any {c : Option Char} (breaks : c.any isBreak = true) : c.all isBreak = true := by
  cases c with
  | none => cases breaks
  | some c => exact breaks

/-- Lexemes are read as their tokens, one after the other, and have these quoted tokens among them. -/
structure Scanned (d : Dialect) (lexemes : List Lexeme) (quoted : List Token) : Prop where
  scan : d.scan (lexemes.flatMap (Lexeme.chars d)) = some (lexemes.flatMap (Lexeme.tokens d))
  quoted : (lexemes.flatMap (Lexeme.tokens d)).filter Token.isQuoted = quoted

namespace Scanned

variable {d : Dialect} {first second : List Lexeme} {qs rs : List Token} {text : String}

theorem nil : Scanned d [] [] :=
  ⟨rfl, rfl⟩

/-- Lexemes that are kept apart are scanned one after the other. -/
theorem append (left : Scanned d first qs) (right : Scanned d second rs)
    (apart : Apart (first.flatMap (Lexeme.chars d)) (second.flatMap (Lexeme.chars d))) :
    Scanned d (first ++ second) (qs ++ rs) := by
  constructor
  · rw [List.flatMap_append, List.flatMap_append]
    exact scan_append left.scan right.scan apart
  · rw [List.flatMap_append, List.filter_append, left.quoted, right.quoted]

/-- A plain piece has no quoted tokens. -/
theorem plain (unquoted : d.Unquoted text) : Scanned d [.plain text] [] := by
  obtain ⟨ts, scanned, allPlain⟩ := exists_scan unquoted
  have tokens : Lexeme.tokens d (.plain text) = ts := by
    rw [Lexeme.tokens, scanned, Option.getD_some]
  constructor
  · rw [List.flatMap_singleton, List.flatMap_singleton, tokens]
    exact scanned
  · rw [List.flatMap_singleton, tokens, List.filter_eq_nil_iff]
    intro t member
    have isPlain := allPlain t member
    cases t with
    | word | number | symbol => exact Bool.false_ne_true
    | identifier | string | blob => cases isPlain

/-- A plain piece that ends in a break, before other lexemes. -/
theorem before (unquoted : d.Unquoted text) (ends : text.toList.getLast?.any isBreak = true)
    (right : Scanned d second rs) : Scanned d ([.plain text] ++ second) rs := by
  refine (plain unquoted).append right (.inl ?_)
  rw [List.flatMap_singleton]
  exact all_of_any ends

/-- A plain piece that starts with a break, behind other lexemes. -/
theorem after (left : Scanned d first qs) (unquoted : d.Unquoted text)
    (starts : text.toList.head?.any isBreak = true) : Scanned d (first ++ [.plain text]) qs := by
  have apart : Apart (first.flatMap (Lexeme.chars d)) ([Lexeme.plain text].flatMap (Lexeme.chars d)) := by
    rw [List.flatMap_singleton]
    exact .inr (all_of_any starts)
  have both := left.append (plain unquoted) apart
  rwa [List.append_nil] at both

/-- A plain piece between breaks, with lexemes on both sides. -/
theorem between (left : Scanned d first qs) (unquoted : d.Unquoted text)
    (starts : text.toList.head?.any isBreak = true) (ends : text.toList.getLast?.any isBreak = true)
    (right : Scanned d second rs) : Scanned d (first ++ [.plain text] ++ second) (qs ++ rs) := by
  rw [List.append_assoc]
  refine left.append (before unquoted ends right) (.inr ?_)
  rw [List.singleton_append, List.flatMap_cons]
  cases written : text.toList with
  | nil =>
    rw [written] at starts
    cases starts
  | cons c rest =>
    rw [written] at starts
    rw [Lexeme.chars, written]
    exact starts

/-- Parts that are separated by commas. -/
theorem commaSeparated {parts : List (List Lexeme)} {quoted : List (List Token)}
    (each : List.Forall₂ (Scanned d) parts quoted) : Scanned d (Lexeme.commaSeparated parts) quoted.flatten := by
  unfold Lexeme.commaSeparated
  induction each with
  | nil => exact nil
  | @cons part qs rest quoted here others later =>
    cases others with
    | nil =>
      rw [List.intercalate_singleton, List.flatten_singleton]
      exact here
    | cons =>
      rw [List.intercalate_cons_cons, List.flatten_cons]
      exact here.between (Dialect.unquoted_of_both (by decide)) (by decide) (by decide) later

/-! ## Quoted pieces -/

/-- A quoted identifier is one token with the whole name. -/
theorem identifier (name : String) : Scanned d [.identifier name] [.identifier name] := by
  constructor
  · rw [List.flatMap_singleton, List.flatMap_singleton, Lexeme.chars, scan_eq_some, run_identifier]
    exact ⟨rfl, by simp only [State.emit, String.ofList_toList, List.nil_append, Lexeme.tokens]⟩
  · rfl

/-- A column is two identifiers with a point between them. -/
theorem column (table name : String) :
    Scanned d [.identifier table, .plain ".", .identifier name] [.identifier table, .identifier name] := by
  have point : Lexeme.tokens d (.plain ".") = [.symbol "."] := by
    cases d <;> decide
  have tokens : [Lexeme.identifier table, .plain ".", .identifier name].flatMap (Lexeme.tokens d) =
      [.identifier table, .symbol ".", .identifier name] := by
    rw [List.flatMap_cons, List.flatMap_cons, List.flatMap_singleton, point]
    rfl
  constructor
  · rw [tokens, ← scan_column]
    simp only [List.flatMap_cons, List.flatMap_nil, Lexeme.chars, List.append_nil]
    rfl
  · rw [tokens]
    rfl

/-- A text that is marked as national on SQL Server only. -/
theorem string {national : Bool} (marked : national = true → d = .sqlServer) (text : String) :
    Scanned d [.string national text] [.string national text] := by
  refine ⟨?_, rfl⟩
  rw [List.flatMap_singleton, List.flatMap_singleton, Lexeme.chars, scan_eq_some]
  cases national with
  | false =>
    rw [if_neg Bool.false_ne_true, List.nil_append, run_text]
    exact ⟨rfl, by simp only [State.emit, String.ofList_toList, List.nil_append, Lexeme.tokens]⟩
  | true =>
    obtain rfl := marked rfl
    have read := run_announced (d := .sqlServer) 'N' (q := .text true) (by decide) (by decide) rfl text.toList
    rw [if_pos rfl, List.singleton_append, read]
    exact ⟨rfl, by simp only [State.emit, String.ofList_toList, List.nil_append, Lexeme.tokens]⟩

/-- Bytes are one token and no quoted text. -/
theorem binary (bytes : List UInt8) : Scanned d [.binary bytes] [] := by
  cases d with
  | sqlServer =>
    refine ⟨?_, rfl⟩
    have parts : ∀ c ∈ 'x' :: Lexeme.hexDigits bytes, isWordPart c = true ∨ c = '.' :=
      List.forall_mem_cons.mpr ⟨.inl (by decide), fun c member => .inl (isWordPart_of_mem_hexDigits member)⟩
    have begun : begins .sqlServer '0' = .number ['0'] := by decide
    rw [List.flatMap_singleton, List.flatMap_singleton, Lexeme.chars, scan_eq_some, run_first, begun, run_number parts]
    exact ⟨rfl, rfl⟩
  | sqlite =>
    refine ⟨?_, rfl⟩
    have read := run_announced (d := .sqlite) 'X' (q := .blob) (by decide) (by decide) rfl (Lexeme.hexDigits bytes)
    rw [List.flatMap_singleton, List.flatMap_singleton, Lexeme.chars, scan_eq_some, read]
    exact ⟨rfl, rfl⟩

end Scanned

/-! ## Literals -/

/-- Induction over values, with the items of a list met as members. -/
theorem Value.memInduction {motive : Value → Prop} (scalar : ∀ v : Value, v.isList = false → motive v)
    (list : ∀ items, (∀ v ∈ items, motive v) → motive (.list items)) (v : Value) : motive v := by
  refine @Value.rec motive (fun items => ∀ v ∈ items, motive v) (scalar _ rfl) (fun _ => scalar _ rfl)
    (fun _ => scalar _ rfl) (fun _ => scalar _ rfl) (fun _ => scalar _ rfl) (fun _ => scalar _ rfl)
    (fun _ => scalar _ rfl) (fun _ => scalar _ rfl) list (List.forall_mem_nil _) ?_ v
  intro first rest here later
  exact List.forall_mem_cons.mpr ⟨here, later⟩

mutual
/-- The texts of a value. -/
def Value.texts : Value → List String
  | .text s => [s]
  | .list items => Value.textsList items
  | _ => []
/-- The texts of values in a row. -/
def Value.textsList : List Value → List String
  | [] => []
  | v :: vs => v.texts ++ Value.textsList vs
end

theorem Value.textsList_eq_flatMap (vs : List Value) : Value.textsList vs = vs.flatMap Value.texts := by
  induction vs with
  | nil => rfl
  | cons v vs later => rw [textsList, later, List.flatMap_cons]

namespace Dialect

/-- Texts of this mapping are national in this dialect. -/
def marksNational (d : Dialect) (m : TypeMapping) : Bool :=
  match d with
  | .sqlServer => isNational m.storeType
  | .sqlite => false

/-- The mutual recursion over the items of a list is a map. -/
theorem literals_eq_map (d : Dialect) (m : TypeMapping) (vs : List Value) :
    d.literal m (.list vs) = Lexeme.commaSeparated (vs.map (d.literal m)) := by
  cases d with
  | sqlServer =>
    have each : ∀ vs, sqlServerLiterals m vs = vs.map (sqlServerLiteral m) := by
      intro vs
      induction vs with
      | nil => rfl
      | cons v vs later => rw [sqlServerLiterals, later, List.map_cons]
    exact congrArg Lexeme.commaSeparated (each vs)
  | sqlite =>
    have each : ∀ vs, sqliteLiterals vs = vs.map sqliteLiteral := by
      intro vs
      induction vs with
      | nil => rfl
      | cons v vs later => rw [sqliteLiterals, later, List.map_cons]
    exact congrArg Lexeme.commaSeparated (each vs)

/-- A literal is read as it was written; its quoted tokens are its texts. -/
theorem literal_scanned {d : Dialect} {m : TypeMapping} (unquoted : d.Unquoted m.storeType) (v : Value) :
    Scanned d (d.literal m v) (v.texts.map (.string (d.marksNational m))) := by
  induction v using Value.memInduction with
  | scalar v scalar =>
    cases d with
    | sqlServer =>
      cases v with
      | null => exact .plain (by decide)
      | bool b => exact .plain (by cases b <;> decide)
      | byte b =>
        refine .plain ?_
        simp only [unquoted_append]
        exact ⟨⟨⟨⟨by decide, unquoted_nat _⟩, by decide⟩, unquoted⟩, by decide⟩
      | int i => exact .plain (unquoted_int _)
      | long i =>
        refine .plain ?_
        simp only [unquoted_append]
        exact ⟨⟨by decide, unquoted_int _⟩, by decide⟩
      | double x => exact .plain (unquoted_double x)
      | text s => exact .string (fun _ => rfl) s
      | bytes bs => exact .binary bs
      | list items => cases scalar
    | sqlite =>
      cases v with
      | null => exact .plain (by decide)
      | bool b => exact .plain (by cases b <;> decide)
      | byte b => exact .plain (unquoted_nat _)
      | int i => exact .plain (unquoted_int _)
      | long i => exact .plain (unquoted_int _)
      | double x => exact .plain (unquoted_double x)
      | text s => exact .string (fun national => absurd national Bool.false_ne_true) s
      | bytes bs => exact .binary bs
      | list items => cases scalar
  | list items each =>
    rw [literals_eq_map, Value.texts, Value.textsList_eq_flatMap, List.map_flatMap, List.flatMap_def]
    refine .commaSeparated (List.forall₂_map_left_iff.mpr (List.forall₂_map_right_iff.mpr ?_))
    exact List.forall₂_same.mpr each

end Dialect

/-! ## Expressions -/

namespace Expr

/-- The function name, the parameter name and the store type of a node have no quote marks. -/
def PlainNames (d : Dialect) (e : Expr String) : Prop :=
  d.Unquoted e.mapping.storeType ∧
    match e with
    | function name _ _ _ => d.Unquoted name
    | parameter name _ _ => d.Unquoted name
    | _ => True

instance (d : Dialect) : DecidablePred (PlainNames d)
  | function name es m nullable =>
    inferInstanceAs (Decidable (d.Unquoted (function name es m nullable).mapping.storeType ∧ d.Unquoted name))
  | parameter name _ m => inferInstanceAs (Decidable (d.Unquoted m.storeType ∧ d.Unquoted name))
  | constant _ m | column _ _ m _ | binary _ _ _ m | negation _ m | nullTest _ _ m | convert _ m | inList _ _ _ m
  | inParameter _ _ _ m | like _ _ _ m => inferInstanceAs (Decidable (d.Unquoted m.storeType ∧ True))

mutual
/-- The identifiers and texts of an expression in the order in which they are written. A membership in no values is
written without its item, and one in a parameter not at all. -/
def quotedTokens (d : Dialect) : Expr String → List Token
  | constant v m => v.texts.map (.string (d.marksNational m))
  | parameter _ _ _ => []
  | column table name _ _ => [.identifier table, .identifier name]
  | function _ arguments _ _ => quotedTokensList d arguments
  | binary _ l r _ => l.quotedTokens d ++ r.quotedTokens d
  | negation e _ | nullTest e _ _ | convert e _ => e.quotedTokens d
  | inList item values _ _ => if values.isEmpty then [] else item.quotedTokens d ++ quotedTokensList d values
  | inParameter _ _ _ _ => []
  | like subject pattern escape _ =>
    subject.quotedTokens d ++ pattern.quotedTokens d ++ quotedTokensOption d escape
/-- The identifiers and texts of expressions in a row. -/
def quotedTokensList (d : Dialect) : List (Expr String) → List Token
  | [] => []
  | e :: es => e.quotedTokens d ++ quotedTokensList d es
/-- The identifiers and texts of an expression that may be absent. -/
def quotedTokensOption (d : Dialect) : Option (Expr String) → List Token
  | none => []
  | some e => e.quotedTokens d
end

/-- The mutual recursion over operands gathers them in order. -/
theorem quotedTokensList_eq_flatMap (d : Dialect) (es : List (Expr String)) :
    quotedTokensList d es = es.flatMap (quotedTokens d) := by
  induction es with
  | nil => rfl
  | cons e es later => rw [quotedTokensList, later, List.flatMap_cons]

end Expr

namespace Dialect

variable {d : Dialect}

/-- A truth value as a condition has no quoted token. -/
theorem truthCondition_scanned (value : Bool) : Scanned d (truthCondition value) [] := by
  unfold truthCondition
  cases value with
  | true => exact .plain (unquoted_of_both (by decide))
  | false => exact .plain (unquoted_of_both (by decide))

/-- Lexemes that may stand in parentheses. -/
theorem parenthesizedIf_scanned {lexemes : List Lexeme} {qs : List Token} (inner : Scanned d lexemes qs)
    (inParentheses : Bool) : Scanned d (if inParentheses then parenthesized lexemes else lexemes) qs := by
  cases inParentheses with
  | true =>
    exact (inner.before (unquoted_of_both (by decide)) (by decide)).after (unquoted_of_both (by decide))
      (by decide)
  | false => exact inner

/-- An expression that is written as it should be read. -/
def WritesScanned (d : Dialect) (e : Expr String) (written : Written) : Prop :=
  ∀ lexemes, written = .ok lexemes → Scanned d lexemes (e.quotedTokens d)

/-- In a place an expression has the same names and texts. -/
theorem fitted_scanned (place : Place) {e : Expr String} {node : Written} (below : WritesScanned d e node) :
    WritesScanned d e (d.fitted place e node) := by
  intro lexemes written
  unfold fitted at written
  cases place with
  | condition =>
    dsimp only at written
    split at written
    · split at written
      next value constant =>
        cases written
        have none : e.quotedTokens d = [] := by
          unfold Expr.truth? at constant
          split at constant
          · rfl
          · cases constant
        rw [none]
        exact truthCondition_scanned value
      next =>
        obtain ⟨inner, found, rest⟩ := bind_eq_ok.mp written
        cases rest
        split
        · exact (below inner found).after (unquoted_of_both (by decide)) (by decide)
        · exact below inner found
    · exact below lexemes written
  | value =>
    dsimp only at written
    split at written
    · obtain ⟨inner, found, rest⟩ := bind_eq_ok.mp written
      cases rest
      exact ((below inner found).before (unquoted_of_both (by decide)) (by decide)).after
        (unquoted_of_both (by decide)) (by decide)
    · exact below lexemes written

/-- Parentheses around an operand add no quoted token. -/
theorem operand_scanned (parent : BinaryOp) (isRight : Bool) {e : Expr String} {node : Written}
    (below : WritesScanned d e node) : WritesScanned d e (d.operand parent isRight e node) := by
  intro lexemes written
  obtain ⟨inner, found, rest⟩ := bind_eq_ok.mp written
  cases rest
  exact parenthesizedIf_scanned (fitted_scanned _ below inner found) _

/-- Values in a row are written as they should be read. -/
theorem values_scanned {es : List (Expr String)} (each : ∀ e ∈ es, WritesScanned d e (d.node e))
    {parts : List (List Lexeme)} (written : d.values es = .ok parts) :
    Scanned d (Lexeme.commaSeparated parts) (es.flatMap (Expr.quotedTokens d)) := by
  rw [List.flatMap_def]
  refine .commaSeparated (List.forall₂_map_right_iff.mpr ?_)
  induction es generalizing parts with
  | nil =>
    cases written
    exact .nil
  | cons e es later =>
    obtain ⟨here, others⟩ := List.forall_mem_cons.mp each
    obtain ⟨first, found, rest⟩ := bind_eq_ok.mp written
    obtain ⟨tail, found', rest⟩ := bind_eq_ok.mp rest
    cases rest
    exact .cons (fitted_scanned .value here first found) (later others found')

/-- A constant has the texts of its value as quoted tokens. -/
theorem constant_scanned {v : Value} {m : TypeMapping} (unquoted : d.Unquoted m.storeType) :
    WritesScanned d (.constant v m) (d.node (.constant v m)) := by
  intro lexemes written
  unfold node writeConstant at written
  have literal : lexemes = d.literal m v := by
    dsimp only at written
    split at written
    · split at written
      · exact (Except.ok.inj written).symm
      · cases written
    · exact (Except.ok.inj written).symm
  rw [literal]
  exact literal_scanned unquoted v

/-- A call has the quoted tokens of its arguments. -/
theorem function_scanned {name : String} {es : List (Expr String)} {m : TypeMapping} {nullable : Bool}
    (unquoted : d.Unquoted name) (each : ∀ e ∈ es, WritesScanned d e (d.node e)) :
    WritesScanned d (.function name es m nullable) (d.node (.function name es m nullable)) := by
  intro lexemes written
  unfold node at written
  obtain ⟨parts, found, rest⟩ := bind_eq_ok.mp written
  cases rest
  have inner := values_scanned each found
  rw [← Expr.quotedTokensList_eq_flatMap] at inner
  refine (inner.before (unquoted_append.mpr ⟨unquoted, unquoted_of_both (by decide)⟩) ?_).after
    (unquoted_of_both (by decide)) (by decide)
  rw [String.toList_append]
  exact congrArg (Option.any isBreak) (List.getLast?_concat (l := name.toList) (a := '('))

/-- An operator stands between spaces, so its sides are scanned apart. -/
theorem binary_scanned {op : BinaryOp} {l r : Expr String} {m : TypeMapping} (first : WritesScanned d l (d.node l))
    (second : WritesScanned d r (d.node r)) : WritesScanned d (.binary op l r m) (d.node (.binary op l r m)) := by
  intro lexemes written
  unfold node at written
  obtain ⟨ls, found, rest⟩ := bind_eq_ok.mp written
  obtain ⟨rs, found', rest⟩ := bind_eq_ok.mp rest
  cases rest
  have left := operand_scanned op false first ls found
  have right := operand_scanned op true second rs found'
  refine left.between (unquoted_of_both ?_) ?_ ?_ right
  · cases op <;> decide
  · cases op <;> decide
  · cases op <;> decide

/-- A list has the quoted tokens of its item and its elements; without elements it is a truth value. -/
theorem inList_scanned {item : Expr String} {es : List (Expr String)} {negated : Bool} {m : TypeMapping}
    (first : WritesScanned d item (d.node item)) (each : ∀ e ∈ es, WritesScanned d e (d.node e)) :
    WritesScanned d (.inList item es negated m) (d.node (.inList item es negated m)) := by
  intro lexemes written
  unfold node writeInList at written
  rw [Expr.quotedTokens]
  split at written
  next empty =>
    cases written
    rw [if_pos empty]
    exact truthCondition_scanned negated
  next some =>
    obtain ⟨inner, found, rest⟩ := bind_eq_ok.mp written
    obtain ⟨parts, found', rest⟩ := bind_eq_ok.mp rest
    cases rest
    have inner := fitted_scanned .value first inner found
    have values := values_scanned each found'
    rw [← Expr.quotedTokensList_eq_flatMap] at values
    rw [if_neg some]
    refine (inner.between (unquoted_of_both ?_) ?_ ?_ values).after (unquoted_of_both (by decide)) (by decide)
    · cases negated <;> decide
    · cases negated <;> decide
    · cases negated <;> decide

/-- A pattern match has the quoted tokens of its operands in the order of writing. -/
theorem like_scanned {subject pattern : Expr String} {escape : Option (Expr String)} {m : TypeMapping}
    (first : WritesScanned d subject (d.node subject)) (second : WritesScanned d pattern (d.node pattern))
    (third : ∀ e ∈ escape, WritesScanned d e (d.node e)) :
    WritesScanned d (.like subject pattern escape m) (d.node (.like subject pattern escape m)) := by
  intro lexemes written
  unfold node at written
  obtain ⟨u, found, rest⟩ := bind_eq_ok.mp written
  obtain ⟨p, found', rest⟩ := bind_eq_ok.mp rest
  obtain ⟨x, found'', rest⟩ := bind_eq_ok.mp rest
  cases rest
  have subject' := fitted_scanned .value first u found
  have pattern' := fitted_scanned .value second p found'
  have matched : Scanned d (u ++ [.plain " LIKE "] ++ p) (subject.quotedTokens d ++ pattern.quotedTokens d) :=
    subject'.between (unquoted_of_both (by decide)) (by decide) (by decide) pattern'
  rw [Expr.quotedTokens]
  cases escape with
  | none =>
    cases found''
    rw [Expr.quotedTokensOption, List.append_nil, List.append_nil]
    exact matched
  | some e =>
    unfold escapeClause at found''
    obtain ⟨inner, found, rest⟩ := bind_eq_ok.mp found''
    cases rest
    have inner := fitted_scanned .value (third e rfl) inner found
    rw [Expr.quotedTokensOption, ← List.append_assoc]
    exact matched.between (unquoted_of_both (by decide)) (by decide) (by decide) inner

/-- An expression whose names have no quote marks is written as it should be read. -/
theorem node_scanned {e : Expr String} (plain : e.Everywhere (Expr.PlainNames d)) : WritesScanned d e (d.node e) := by
  induction e with
  | constant v m => exact constant_scanned plain.here.1
  | parameter name t m =>
    intro lexemes written
    unfold node at written
    split at written
    · cases written
    · cases written
      exact .plain (unquoted_append.mpr ⟨unquoted_of_both (by decide), plain.here.2⟩)
  | column table name m nullable =>
    intro lexemes written
    cases written
    exact .column table name
  | function name es m nullable each =>
    obtain ⟨here, plain⟩ := Expr.everywhere_function.mp plain
    exact function_scanned here.2 fun e member => each e member (plain e member)
  | binary op l r m first second =>
    obtain ⟨-, left, right⟩ := Expr.everywhere_binary.mp plain
    exact binary_scanned (first left) (second right)
  | negation e m below =>
    obtain ⟨-, plain⟩ := Expr.everywhere_negation.mp plain
    intro lexemes written
    unfold node at written
    obtain ⟨inner, found, rest⟩ := bind_eq_ok.mp written
    cases rest
    have inner := fitted_scanned .condition (below plain) inner found
    exact (inner.before (unquoted_of_both (by decide)) (by decide)).after (unquoted_of_both (by decide)) (by decide)
  | nullTest e negated m below =>
    obtain ⟨-, plain⟩ := Expr.everywhere_nullTest.mp plain
    intro lexemes written
    unfold node at written
    obtain ⟨inner, found, rest⟩ := bind_eq_ok.mp written
    cases rest
    have inner := fitted_scanned .value (below plain) inner found
    refine (parenthesizedIf_scanned inner (isBinary e)).after (unquoted_of_both ?_) ?_
    · cases negated <;> decide
    · cases negated <;> decide
  | convert e m below =>
    obtain ⟨here, plain⟩ := Expr.everywhere_convert.mp plain
    intro lexemes written
    unfold node at written
    obtain ⟨inner, found, rest⟩ := bind_eq_ok.mp written
    cases rest
    have inner := fitted_scanned .value (below plain) inner found
    refine (inner.before (unquoted_of_both (by decide)) (by decide)).after ?_ ?_
    · simp only [unquoted_append]
      exact ⟨⟨unquoted_of_both (by decide), here.1⟩, unquoted_of_both (by decide)⟩
    · rw [String.toList_append, String.toList_append]
      rfl
  | inList item es negated m below each =>
    obtain ⟨-, plainItem, plain⟩ := Expr.everywhere_inList.mp plain
    exact inList_scanned (below plainItem) fun e member => each e member (plain e member)
  | inParameter item source negated m first second =>
    intro lexemes written
    unfold node at written
    cases written
  | like subject pattern escape m first second third =>
    obtain ⟨-, plainSubject, plainPattern, plainEscape⟩ := Expr.everywhere_like.mp plain
    exact like_scanned (first plainSubject) (second plainPattern) fun e member => third e member (plainEscape e member)

end Dialect

/-! ## Statements -/

namespace Select

/-- All names that a statement has beside identifiers are without quote marks. -/
def PlainNames (d : Dialect) (s : Select String) : Prop :=
  ∀ e ∈ s.expressions, e.Everywhere (Expr.PlainNames d)

instance (d : Dialect) (s : Select String) : Decidable (s.PlainNames d) :=
  inferInstanceAs (Decidable (∀ e ∈ s.expressions, e.Everywhere (Expr.PlainNames d)))

/-- The identifiers and texts of a statement in the order in which they are written. The row limit comes first on
SQL Server and last on SQLite. -/
def quotedTokens (d : Dialect) (s : Select String) : List Token :=
  let limit := Expr.quotedTokensOption d s.limit
  (if d = .sqlServer then limit else [])
    ++ s.projections.flatMap (fun p => p.expr.quotedTokens d ++ [.identifier p.label])
    ++ [.identifier s.table, .identifier s.tableAlias]
    ++ Expr.quotedTokensOption d s.predicate
    ++ s.orderings.flatMap (fun o => o.expr.quotedTokens d)
    ++ (if d = .sqlite then limit else [])

end Select

/-- A clause that starts with a break, or is empty, behind other lexemes. -/
theorem Scanned.clause {d : Dialect} {first second : List Lexeme} {qs rs : List Token} (left : Scanned d first qs)
    (right : Scanned d second rs ∧ (second.flatMap (Lexeme.chars d)).head?.all isBreak = true) :
    Scanned d (first ++ second) (qs ++ rs) :=
  left.append right.1 (.inr right.2)

namespace Dialect

variable {d : Dialect} {s : Select String}

/-- A value has the quoted tokens of its expression. -/
theorem value_scanned {e : Expr String} (plain : e.Everywhere (Expr.PlainNames d)) :
    WritesScanned d e (d.writeValue e) :=
  fitted_scanned .value (node_scanned plain)

theorem projection_scanned {p : Projection String} (plain : p.expr.Everywhere (Expr.PlainNames d))
    {lexemes : List Lexeme} (written : d.projection p = .ok lexemes) :
    Scanned d lexemes (p.expr.quotedTokens d ++ [.identifier p.label]) := by
  obtain ⟨inner, found, rest⟩ := bind_eq_ok.mp written
  cases rest
  have value := value_scanned plain inner found
  have labelled : Scanned d (inner ++ [.plain " AS "] ++ [.identifier p.label]) _ :=
    value.between (unquoted_of_both (by decide)) (by decide) (by decide) (.identifier p.label)
  rwa [List.append_assoc] at labelled

/-- The labels of projections are among the quoted tokens. -/
theorem projections_scanned (plain : s.PlainNames d) {lexemes : List Lexeme}
    (written : d.projections s = .ok lexemes) :
    Scanned d lexemes (s.projections.flatMap fun p => p.expr.quotedTokens d ++ [.identifier p.label]) := by
  unfold projections at written
  split at written
  next none =>
    cases written
    rw [none]
    exact .plain (unquoted_of_both (by decide))
  next =>
    obtain ⟨parts, found, rest⟩ := bind_eq_ok.mp written
    cases rest
    rw [List.flatMap_def]
    refine .commaSeparated (List.forall₂_map_right_iff.mpr (List.Forall₂.flip ?_))
    refine forall₂_of_mapM (fun p member part found => ?_) found
    exact projection_scanned (plain p.expr (Select.mem_expressions.mpr (.inl ⟨p, member, rfl⟩))) found

/-- The table and its alias are quoted tokens. -/
theorem fromClause_scanned : Scanned d (fromClause s) [.identifier s.table, .identifier s.tableAlias] ∧
    ((fromClause s).flatMap (Lexeme.chars d)).head?.all isBreak = true := by
  constructor
  · have named : Scanned d ([.identifier s.table] ++ [.plain " AS "] ++ [.identifier s.tableAlias]) _ :=
      (Scanned.identifier s.table).between (unquoted_of_both (by decide)) (by decide) (by decide)
        (.identifier s.tableAlias)
    exact named.before (unquoted_of_both (by decide)) (by decide)
  · rfl

/-- A clause of a word and an expression. -/
theorem wordClause_scanned (word : String) (unquoted : d.Unquoted word)
    (starts : word.toList.head?.any isBreak = true) (ends : word.toList.getLast?.any isBreak = true)
    {lexemes : List Lexeme} {qs : List Token} (inner : Scanned d lexemes qs) :
    Scanned d ([.plain word] ++ lexemes) qs ∧
      (([Lexeme.plain word] ++ lexemes).flatMap (Lexeme.chars d)).head?.all isBreak = true := by
  refine ⟨inner.before unquoted ends, ?_⟩
  rw [List.singleton_append, List.flatMap_cons, Lexeme.chars]
  cases written : word.toList with
  | nil =>
    rw [written] at starts
    cases starts
  | cons c rest =>
    rw [written] at starts
    exact starts

/-- The predicate starts behind a space. -/
theorem whereClause_scanned (plain : s.PlainNames d) {lexemes : List Lexeme}
    (written : d.whereClause s = .ok lexemes) :
    Scanned d lexemes (Expr.quotedTokensOption d s.predicate) ∧
      (lexemes.flatMap (Lexeme.chars d)).head?.all isBreak = true := by
  unfold whereClause at written
  split at written
  next predicate present =>
    obtain ⟨inner, found, rest⟩ := bind_eq_ok.mp written
    cases rest
    have plain := plain predicate (Select.mem_expressions.mpr (.inr (.inl present)))
    have condition := fitted_scanned .condition (node_scanned plain) inner found
    rw [present]
    exact wordClause_scanned " WHERE " (unquoted_of_both (by decide)) (by decide) (by decide) condition
  next none =>
    cases written
    rw [none]
    exact ⟨.nil, rfl⟩

theorem sortKey_scanned {o : SortKey String} (plain : o.expr.Everywhere (Expr.PlainNames d))
    {lexemes : List Lexeme} (written : d.sortKey o = .ok lexemes) :
    Scanned d lexemes (o.expr.quotedTokens d) := by
  obtain ⟨inner, found, rest⟩ := bind_eq_ok.mp written
  cases rest
  have value := value_scanned plain inner found
  cases o.ascending with
  | true =>
    rw [if_pos rfl, List.append_nil]
    exact value
  | false => exact value.after (unquoted_of_both (by decide)) (by decide)

/-- The orderings start behind a space. -/
theorem orderClause_scanned (plain : s.PlainNames d) {lexemes : List Lexeme}
    (written : d.orderClause s = .ok lexemes) :
    Scanned d lexemes (s.orderings.flatMap fun o => o.expr.quotedTokens d) ∧
      (lexemes.flatMap (Lexeme.chars d)).head?.all isBreak = true := by
  unfold orderClause at written
  split at written
  next none =>
    cases written
    rw [none]
    exact ⟨.nil, rfl⟩
  next =>
    obtain ⟨parts, found, rest⟩ := bind_eq_ok.mp written
    cases rest
    have keys : Scanned d (Lexeme.commaSeparated parts) (s.orderings.flatMap fun o => o.expr.quotedTokens d) := by
      rw [List.flatMap_def]
      refine .commaSeparated (List.forall₂_map_right_iff.mpr (List.Forall₂.flip ?_))
      refine forall₂_of_mapM (fun o member part found => ?_) found
      exact sortKey_scanned (plain o.expr (Select.mem_expressions.mpr (.inr (.inr (.inl ⟨o, member, rfl⟩))))) found
    exact wordClause_scanned " ORDER BY " (unquoted_of_both (by decide)) (by decide) (by decide) keys

/-- The row limit of a dialect that has it before the projections. -/
theorem topClause_scanned (plain : s.PlainNames d) {lexemes : List Lexeme} (written : d.topClause s = .ok lexemes) :
    Scanned d lexemes (if d = .sqlServer then Expr.quotedTokensOption d s.limit else []) ∧
      (lexemes.flatMap (Lexeme.chars d)).getLast?.all isBreak = true := by
  unfold topClause at written
  cases d with
  | sqlite =>
    cases written
    exact ⟨.nil, rfl⟩
  | sqlServer =>
    rw [if_pos rfl]
    cases present : s.limit with
    | none =>
      rw [present] at written
      cases written
      exact ⟨.nil, rfl⟩
    | some limit =>
      rw [present] at written
      obtain ⟨inner, found, rest⟩ := bind_eq_ok.mp written
      cases rest
      have plain := plain limit (Select.mem_expressions.mpr (.inr (.inr (.inr present))))
      have value := value_scanned plain inner found
      refine ⟨(value.before (unquoted_of_both (by decide)) (by decide)).after (unquoted_of_both (by decide))
        (by decide), ?_⟩
      rw [List.flatMap_append, List.flatMap_singleton, Lexeme.chars, List.getLast?_append]
      rfl

/-- The row limit of a dialect that has it at the end. -/
theorem limitClause_scanned (plain : s.PlainNames d) {lexemes : List Lexeme}
    (written : d.limitClause s = .ok lexemes) :
    Scanned d lexemes (if d = .sqlite then Expr.quotedTokensOption d s.limit else []) ∧
      (lexemes.flatMap (Lexeme.chars d)).head?.all isBreak = true := by
  unfold limitClause at written
  cases d with
  | sqlServer =>
    cases written
    exact ⟨.nil, rfl⟩
  | sqlite =>
    rw [if_pos rfl]
    cases present : s.limit with
    | none =>
      rw [present] at written
      cases written
      exact ⟨.nil, rfl⟩
    | some limit =>
      rw [present] at written
      obtain ⟨inner, found, rest⟩ := bind_eq_ok.mp written
      cases rest
      have plain := plain limit (Select.mem_expressions.mpr (.inr (.inr (.inr present))))
      exact wordClause_scanned " LIMIT " (unquoted_of_both (by decide)) (by decide) (by decide)
        (value_scanned plain inner found)

/-- A statement whose names have no quote marks is written as it should be read. -/
theorem statement_scanned (plain : s.PlainNames d) {lexemes : List Lexeme} (written : d.statement s = .ok lexemes) :
    Scanned d lexemes (s.quotedTokens d) := by
  obtain ⟨top, top', rest⟩ := bind_eq_ok.mp written
  obtain ⟨projections, projections', rest⟩ := bind_eq_ok.mp rest
  obtain ⟨condition, condition', rest⟩ := bind_eq_ok.mp rest
  obtain ⟨order, order', rest⟩ := bind_eq_ok.mp rest
  obtain ⟨limit, limit', rest⟩ := bind_eq_ok.mp rest
  cases rest
  obtain ⟨first, ends⟩ := topClause_scanned plain top'
  have selected := first.append (projections_scanned plain projections') (.inl ends)
  have started : Scanned d ([.plain "SELECT "] ++ (top ++ projections)) _ :=
    selected.before (unquoted_of_both (by decide)) (by decide)
  rw [← List.append_assoc] at started
  have sourced := started.clause (fromClause_scanned (s := s))
  have filtered := sourced.clause (whereClause_scanned plain condition')
  have ordered := filtered.clause (orderClause_scanned plain order')
  exact ordered.clause (limitClause_scanned plain limit')

end Dialect

end SqlShape
