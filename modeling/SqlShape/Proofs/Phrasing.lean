import SqlShape.Proofs.Grammar
import SqlShape.Proofs.Native
import SqlShape.Proofs.Tokens

/-!
# Expressions as they are read

Every expression stands for a phrase by its structure, whatever parentheses it is written with (`Dialect.phrase`). What
a place wants has its part in it: a condition in the place of a value is a choice between two truth values, and a stored
truth value in the place of a condition is compared with one. A chain of one connective is grouped from the left.

The tokens of the pieces that a command is written with are stated here, and so are the parts and tokens of each kind of
expression. Constants are read as their phrases.
-/

namespace SqlShape

open Grammar

/-! ## Phrases -/

/-- Two phrases with an operator between them. Of a connective, the operands of a chain are grouped from the left. -/
def Phrase.joined (op : BinaryOp) (x : Phrase) : Phrase → Phrase
  | .binary op' l r => if op.isLogical ∧ op' = op then .binary op (joined op x l) r else .binary op x (.binary op' l r)
  | y => .binary op x y

/-- A written number, with or without a sign. -/
def Phrase.signed (text : String) : Phrase :=
  match text.toList with
  | '-' :: rest => .number true (String.ofList rest)
  | _ => .number false text

/-- A truth value as a value of SQL Server. -/
def Phrase.bit (value : Bool) : Phrase :=
  .cast (.number false (if value then "1" else "0")) [.word "bit"]

/-- A truth value as a condition. -/
def Phrase.truth (value : Bool) : Phrase :=
  .binary .equal (.number false (if value then "1" else "0")) (.number false "1")

namespace Dialect

/-- The tokens of a store type. -/
def typeTokens (d : Dialect) (m : TypeMapping) : List Token :=
  Lexeme.tokens d (.plain m.storeType)

/-- The phrase of a constant. A list has none. -/
def literalPhrase (d : Dialect) (m : TypeMapping) : Value → Phrase
  | .null | .list _ => .null
  | .bool b =>
    match d with
    | .sqlServer => .bit b
    | .sqlite => .number false (if b then "1" else "0")
  | .byte b =>
    match d with
    | .sqlServer => .cast (.signed (toString b.toNat)) (d.typeTokens m)
    | .sqlite => .signed (toString b.toNat)
  | .int i => .signed (toString i.toInt)
  | .long i =>
    match d with
    | .sqlServer => .cast (.signed (toString i.toInt)) [.word "bigint"]
    | .sqlite => .signed (toString i.toInt)
  | .double x => .signed x.literal
  | .text s => .string (d.marksNational m) s
  | .bytes bs =>
    match d with
    | .sqlServer => .number false (String.ofList ('0' :: 'x' :: Lexeme.hexDigits bs))
    | .sqlite => .blob (String.ofList (Lexeme.hexDigits bs))

/-- The phrase of an expression, in a place that wants a condition or a value. -/
def placed (d : Dialect) (place : Place) (e : Expr String) (x : Phrase) : Phrase :=
  match place with
  | .condition =>
    if !e.isCondition && decide (e.type = .bool) then
      match e.truth? with
      | some value => .truth value
      | none => if d.separatesConditions then .binary .equal x (.bit true) else x
    else x
  | .value => if e.isCondition && d.separatesConditions then .choice x (.bit true) (.bit false) else x

mutual
/-- The phrase that an expression stands for, whatever the place. A membership in a parameter has no written form. -/
def phrase (d : Dialect) : Expr String → Phrase
  | .constant v m => d.literalPhrase m v
  | .parameter name _ _ => .placeholder ("@" ++ name)
  | .column table name _ _ => .column table name
  | .function name es _ _ => .call name (d.phrases es)
  | .binary op l r _ => .joined op (d.placed op.operandPlace l (d.phrase l)) (d.placed op.operandPlace r (d.phrase r))
  | .negation e _ => .negation (d.placed .condition e (d.phrase e))
  | .nullTest e negated _ => .nullTest (d.placed .value e (d.phrase e)) negated
  | .convert e m => .cast (d.placed .value e (d.phrase e)) (d.typeTokens m)
  | .inList item es negated _ => .inList (d.placed .value item (d.phrase item)) (d.phrases es) negated
  | .inParameter _ _ _ _ => .null
  | .like subject pattern escape _ =>
    .like (d.placed .value subject (d.phrase subject)) (d.placed .value pattern (d.phrase pattern))
      (d.phraseOption escape)
/-- The phrases of values in a row. -/
def phrases (d : Dialect) : List (Expr String) → List Phrase
  | [] => []
  | e :: es => d.placed .value e (d.phrase e) :: d.phrases es
/-- The phrase of a value that may be absent. -/
def phraseOption (d : Dialect) : Option (Expr String) → Option Phrase
  | none => none
  | some e => some (d.placed .value e (d.phrase e))
end

section Equations

variable (d : Dialect) (m : TypeMapping) (l r e s p : Expr String) (es : List (Expr String)) (o : Option (Expr String))
  (name : String) (negated : Bool)

theorem phrase_constant (v : Value) : d.phrase (.constant v m) = d.literalPhrase m v :=
  rfl

theorem phrase_parameter (t : LogicalType) : d.phrase (.parameter name t m) = .placeholder ("@" ++ name) :=
  rfl

theorem phrase_column (table : String) (nullable : Bool) :
    d.phrase (.column table name m nullable) = .column table name :=
  rfl

theorem phrase_function (nullable : Bool) : d.phrase (.function name es m nullable) = .call name (d.phrases es) :=
  rfl

/-- The operands of an operator stand in the places that it wants. -/
theorem phrase_binary (op : BinaryOp) :
    d.phrase (.binary op l r m) =
      .joined op (d.placed op.operandPlace l (d.phrase l)) (d.placed op.operandPlace r (d.phrase r)) :=
  rfl

/-- What is negated stands in the place of a condition. -/
theorem phrase_negation : d.phrase (.negation e m) = .negation (d.placed .condition e (d.phrase e)) :=
  rfl

theorem phrase_nullTest : d.phrase (.nullTest e negated m) = .nullTest (d.placed .value e (d.phrase e)) negated :=
  rfl

/-- What is converted stands in the place of a value, before the tokens of the store type. -/
theorem phrase_convert : d.phrase (.convert e m) = .cast (d.placed .value e (d.phrase e)) (d.typeTokens m) :=
  rfl

theorem phrase_inList :
    d.phrase (.inList e es negated m) = .inList (d.placed .value e (d.phrase e)) (d.phrases es) negated :=
  rfl

/-- Subject and pattern stand in the places of values. -/
theorem phrase_like :
    d.phrase (.like s p o m) =
      .like (d.placed .value s (d.phrase s)) (d.placed .value p (d.phrase p)) (d.phraseOption o) :=
  rfl

end Equations

/-- The phrase of an expression as a value. -/
def valuePhrase (d : Dialect) (e : Expr String) : Phrase :=
  d.placed .value e (d.phrase e)

/-- The phrase of an expression as a condition. -/
def conditionPhrase (d : Dialect) (e : Expr String) : Phrase :=
  d.placed .condition e (d.phrase e)

/-- Operands in a row are read in the places of values. -/
theorem phrases_eq_map (d : Dialect) (es : List (Expr String)) : d.phrases es = es.map d.valuePhrase := by
  induction es with
  | nil => rfl
  | cons e es later => rw [phrases, later, List.map_cons, valuePhrase]

/-! ## Tokens of pieces -/

/-- The tokens of a truth value as a value of SQL Server. -/
def bitTokens (digit : String) : List Token :=
  [.word "CAST", .symbol "(", .number digit, .word "AS", .word "bit", .symbol ")"]

section Pieces

variable (d : Dialect)

/-- The symbol of an operator is scanned to the operator's tokens. -/
theorem tokens_operator (op : BinaryOp) :
    Lexeme.tokens d (.plain (" " ++ op.symbol ++ " ")) = (Operator.binary op).tokens := by
  cases d <;> cases op <;> decide

theorem tokens_not : Lexeme.tokens d (.plain "NOT (") = [.word "NOT", .symbol "("] := by
  cases d <;> decide

theorem tokens_open : Lexeme.tokens d (.plain "(") = [.symbol "("] := by
  cases d <;> decide

theorem tokens_close : Lexeme.tokens d (.plain ")") = [.symbol ")"] := by
  cases d <;> decide

theorem tokens_comma : Lexeme.tokens d (.plain ", ") = [.symbol ","] := by
  cases d <;> decide

theorem tokens_cast : Lexeme.tokens d (.plain "CAST(") = [.word "CAST", .symbol "("] := by
  cases d <;> decide

theorem tokens_like : Lexeme.tokens d (.plain " LIKE ") = Operator.like.tokens := by
  cases d <;> decide

theorem tokens_escape : Lexeme.tokens d (.plain " ESCAPE ") = [.word "ESCAPE"] := by
  cases d <;> decide

/-- A null test is written as the operator that reads it, affirmed or negated. -/
theorem tokens_nullTest (negated : Bool) :
    Lexeme.tokens d (.plain (if negated then " IS NOT NULL" else " IS NULL")) = (Operator.nullTest negated).tokens := by
  cases d <;> cases negated <;> decide

/-- A list is opened as the operator that reads it, affirmed or negated. -/
theorem tokens_inList (negated : Bool) :
    Lexeme.tokens d (.plain (if negated then " NOT IN (" else " IN (")) = (Operator.inList negated).tokens := by
  cases d <;> cases negated <;> decide

/-- The comparison that makes a condition of a stored truth value. -/
theorem tokens_bit :
    Lexeme.tokens d (.plain " = CAST(1 AS bit)") = (Operator.binary .equal).tokens ++ bitTokens "1" := by
  cases d <;> decide

theorem tokens_case : Lexeme.tokens d (.plain "CASE WHEN ") = [.word "CASE", .word "WHEN"] := by
  cases d <;> decide

/-- The rest of a choice between the truth values, behind its condition. -/
theorem tokens_then : Lexeme.tokens d (.plain " THEN CAST(1 AS bit) ELSE CAST(0 AS bit) END") =
    .word "THEN" :: bitTokens "1" ++ .word "ELSE" :: bitTokens "0" ++ [.word "END"] := by
  cases d <;> decide +kernel

/-- A truth value as a condition is a comparison of numbers. -/
theorem tokens_truth (value : Bool) : (truthCondition value).flatMap (Lexeme.tokens d) =
    [.number (if value then "1" else "0")] ++ (Operator.binary .equal).tokens ++ [.number "1"] := by
  cases d <;> cases value <;> decide

/-- The functions of a dialect have words for names, none of them a word of the grammar. -/
theorem tokens_function {name : String} (offered : name ∈ d.functionNames) :
    Lexeme.tokens d (.plain (name ++ "(")) = [.word name, .symbol "("] ∧ isFunction name = true := by
  have sqlServer : ∀ name ∈ Dialect.sqlServer.functionNames,
      Lexeme.tokens .sqlServer (.plain (name ++ "(")) = [.word name, .symbol "("] ∧ isFunction name = true := by
    decide +kernel
  have sqlite : ∀ name ∈ Dialect.sqlite.functionNames,
      Lexeme.tokens .sqlite (.plain (name ++ "(")) = [.word name, .symbol "("] ∧ isFunction name = true := by
    decide +kernel
  cases d with
  | sqlServer => exact sqlServer name offered
  | sqlite => exact sqlite name offered

variable {d}

/-- The tokens of a plain lexeme are those that its text is scanned into. -/
theorem tokens_of_scan {text : String} {ts : List Token} (scanned : d.scan text.toList = some ts) :
    Lexeme.tokens d (.plain text) = ts := by
  rw [Lexeme.tokens, scanned, Option.getD_some]

/-- A store type of the dialect is read as one. -/
theorem tokens_type {m : TypeMapping} (known : d.Knows m) :
    Lexeme.tokens d (.plain (" AS " ++ m.storeType ++ ")")) = [.word "AS"] ++ d.typeTokens m ++ [.symbol ")"] ∧
      isType (d.typeTokens m) = true := by
  obtain ⟨storeType, type⟩ := m
  cases d with
  | sqlServer =>
    cases type with
    | sequence element => cases known
    | _ =>
      cases known
      decide +kernel
  | sqlite =>
    cases type with
    | sequence element => cases known
    | _ =>
      cases known
      decide +kernel

/-- A piece between one that ends with a break and one that starts with a break. -/
theorem tokens_between {first last middle : String} {ts us vs : List Token} (scanned : d.scan first.toList = some ts)
    (ends : first.toList.getLast?.all Scanner.isBreak = true) (scanned' : d.scan middle.toList = some us)
    (scanned'' : d.scan last.toList = some vs) (starts : last.toList.head?.all Scanner.isBreak = true) :
    Lexeme.tokens d (.plain (first ++ middle ++ last)) = ts ++ us ++ vs := by
  refine tokens_of_scan ?_
  rw [String.toList_append, String.toList_append]
  exact Scanner.scan_append (Scanner.scan_append scanned scanned' (.inl ends)) scanned'' (.inr starts)

/-- A written number is read as a phrase of its own. -/
theorem scan_signed {text : String} (negative : Bool) {numeral : List Char} (isNumeral : Scanner.Numeral numeral)
    (written : text.toList = (if negative then ['-'] else []) ++ numeral) :
    ∃ ts, d.scan text.toList = some ts ∧ leaf? (.signed text) = some ts := by
  cases negative with
  | true =>
    rw [if_pos rfl, List.singleton_append] at written
    have signed : Phrase.signed text = .number true (String.ofList numeral) := by
      rw [Phrase.signed, written]
      rfl
    rw [signed, written]
    exact ⟨_, isNumeral.scan_negative, rfl⟩
  | false =>
    rw [if_neg Bool.false_ne_true, List.nil_append] at written
    obtain ⟨c, rest, start, digit, -⟩ := isNumeral.started
    have signed : Phrase.signed text = .number false text := by
      rw [Phrase.signed, written, start]
      split
      next same =>
        cases same
        exact absurd digit (by decide)
      next => rfl
    have whole : String.ofList numeral = text := by
      rw [← written, String.ofList_toList]
    rw [signed, written]
    refine ⟨_, isNumeral.scan, ?_⟩
    rw [whole]
    rfl

/-- An integer is one numeral, with a minus sign before it where it is negative. -/
theorem scan_int (i : Int) : ∃ ts, d.scan (toString i).toList = some ts ∧ leaf? (.signed (toString i)) = some ts := by
  have written := toList_toString_int i
  by_cases negative : i < 0
  · rw [if_pos negative] at written
    exact scan_signed true (numeral_toDigits _) written
  · rw [if_neg negative] at written
    exact scan_signed false (numeral_toDigits _) written

/-- A finite double is one numeral, with a minus sign before it where it is negative. -/
theorem scan_double {x : Double} (finite : x.isFinite = true) :
    ∃ ts, d.scan x.literal.toList = some ts ∧ leaf? (.signed x.literal) = some ts := by
  obtain ⟨numeral, isNumeral, written⟩ := x.toList_literal finite
  exact scan_signed x.negative isNumeral written

end Pieces

/-! ## Constants -/

section Literals

variable {d : Dialect} {front behind : Nat}

/-- A truth value of SQL Server is read as a cast. -/
theorem reads_bit (value : Bool) :
    Reads d (d.category .value) front behind (bitTokens (if value then "1" else "0")) (.bit value) := by
  have digit : Reads d (d.category .value) 0 0 [.number (if value then "1" else "0")]
      (.number false (if value then "1" else "0")) := .leaf rfl
  have typed : isType [.word "bit"] = true := rfl
  exact .cast digit typed

/-- A number that is cast to a store type. -/
theorem reads_castNumber {text last : String} {ts type : List Token} (scanned : d.scan text.toList = some ts)
    (leaf : leaf? (.signed text) = some ts)
    (scanned' : d.scan last.toList = some ([.word "AS"] ++ type ++ [.symbol ")"]))
    (starts : last.toList.head?.all Scanner.isBreak = true) (typed : isType type = true) :
    Reads d (d.category .value) front behind (Lexeme.tokens d (.plain ("CAST(" ++ text ++ last)))
      (.cast (.signed text) type) := by
  have opening : d.scan "CAST(".toList = some [.word "CAST", .symbol "("] := by
    cases d <;> decide
  have tokens := tokens_between opening (by decide) scanned scanned' starts
  have inner : Reads d (d.category .value) 0 0 ts (.signed text) := .leaf leaf
  have read : Reads d (d.category .value) front behind _ _ := .cast inner typed
  rw [tokens]
  simpa only [List.append_assoc] using read

/-- The literal of a native constant is read as its phrase. -/
theorem literal_reads {m : TypeMapping} {v : Value} (known : d.Knows m) (typed : v.HasType m.type)
    (finite : ∀ x, v = .double x → x.isFinite = true) :
    Reads d (d.category .value) front behind ((d.literal m v).flatMap (Lexeme.tokens d)) (d.literalPhrase m v) := by
  have alone : ∀ {text : String} {ts : List Token}, d.scan text.toList = some ts → leaf? (.signed text) = some ts →
      Reads d (d.category .value) front behind ([Lexeme.plain text].flatMap (Lexeme.tokens d)) (.signed text) := by
    intro text ts scanned leaf
    rw [List.flatMap_singleton, tokens_of_scan scanned]
    exact .leaf leaf
  cases v with
  | null => cases d <;> exact .leaf rfl
  | bool b =>
    cases d with
    | sqlServer =>
      have tokens : Lexeme.tokens .sqlServer (.plain ("CAST(" ++ (if b then "1" else "0") ++ " AS bit)")) =
          bitTokens (if b then "1" else "0") := by
        cases b <;> decide
      change Reads .sqlServer _ front behind ([Lexeme.plain _].flatMap _) _
      rw [List.flatMap_singleton, tokens]
      exact reads_bit b
    | sqlite => cases b <;> exact .leaf rfl
  | byte b =>
    obtain ⟨ts, scanned, leaf⟩ := scan_int (d := d) b.toNat
    cases d with
    | sqlServer =>
      have mapped : m = ⟨"tinyint", .byte⟩ := by
        have type : m.type = .byte := by
          rcases typed with null | shown
          · cases null
          · exact (Option.some.inj shown).symm
        rw [Dialect.Knows, type] at known
        exact (Option.some.inj known).symm
      subst mapped
      have last : Dialect.sqlServer.scan " AS tinyint)".toList =
          some ([.word "AS"] ++ typeTokens .sqlServer ⟨"tinyint", .byte⟩ ++ [.symbol ")"]) := by decide
      have written : "CAST(" ++ toString b.toNat ++ " AS " ++ "tinyint" ++ ")" =
          "CAST(" ++ toString b.toNat ++ " AS tinyint)" := by
        rw [String.append_assoc, String.append_assoc]
        rfl
      change Reads .sqlServer _ front behind ([Lexeme.plain _].flatMap _) _
      rw [List.flatMap_singleton, written]
      exact reads_castNumber scanned leaf last (by decide) (by decide)
    | sqlite => exact alone scanned leaf
  | int i =>
    obtain ⟨ts, scanned, leaf⟩ := scan_int (d := d) i.toInt
    cases d <;> exact alone scanned leaf
  | long i =>
    obtain ⟨ts, scanned, leaf⟩ := scan_int (d := d) i.toInt
    cases d with
    | sqlServer =>
      change Reads .sqlServer _ front behind ([Lexeme.plain _].flatMap _) _
      rw [List.flatMap_singleton]
      have last : Dialect.sqlServer.scan " AS bigint)".toList =
          some ([.word "AS"] ++ [.word "bigint"] ++ [.symbol ")"]) := by decide
      exact reads_castNumber scanned leaf last (by decide) rfl
    | sqlite => exact alone scanned leaf
  | double x =>
    obtain ⟨ts, scanned, leaf⟩ := scan_double (d := d) (finite x rfl)
    cases d <;> exact alone scanned leaf
  | text s => cases d <;> exact .leaf rfl
  | bytes bs => cases d <;> exact .leaf rfl
  | list items =>
    have scalar := known.scalar
    rcases typed with null | shown
    · cases null
    · rw [Value.type?] at shown
      obtain ⟨element, -, same⟩ := Option.map_eq_some_iff.mp shown
      rw [← same] at scalar
      cases scalar

end Literals

/-! ## Written expressions -/

section Expressions

variable {d : Dialect} {e : Expr String} {es : List (Expr String)} {m : TypeMapping} {lexemes : List Lexeme}

/-- Parentheses are scanned as symbols around the tokens inside. -/
theorem tokens_parenthesized (lexemes : List Lexeme) : (parenthesized lexemes).flatMap (Lexeme.tokens d) =
    [.symbol "("] ++ lexemes.flatMap (Lexeme.tokens d) ++ [.symbol ")"] := by
  rw [parenthesized, List.flatMap_append, List.flatMap_append, List.flatMap_singleton, List.flatMap_singleton,
    tokens_open, tokens_close]

/-- Commas are scanned as symbols between the tokens of the parts. -/
theorem tokens_commaSeparated (parts : List (List Lexeme)) :
    (Lexeme.commaSeparated parts).flatMap (Lexeme.tokens d) =
      separated (parts.map fun part => part.flatMap (Lexeme.tokens d)) := by
  unfold Lexeme.commaSeparated separated
  induction parts with
  | nil => rfl
  | cons part parts later =>
    cases parts with
    | nil => rw [List.intercalate_singleton, List.map_singleton, List.intercalate_singleton]
    | cons next parts =>
      rw [List.intercalate_cons_cons, List.flatMap_append, List.flatMap_append, later, List.flatMap_singleton,
        tokens_comma, List.map_cons, List.map_cons, List.map_cons, List.intercalate_cons_cons]

/-- The results of steps in a row, each with what it was made of. -/
theorem pairs_of_mapM {ε α β : Type} {f : α → Except ε β} {items : List α} {results : List β}
    (all : items.mapM f = .ok results) :
    ∃ pairs : List (α × β), pairs.map Prod.fst = items ∧ pairs.map Prod.snd = results ∧
      ∀ p ∈ pairs, f p.1 = .ok p.2 := by
  have pairs := forall₂_of_mapM (fun _ _ _ found => found) all
  refine ⟨items.zip results, List.map_fst_zip (Nat.le_of_eq pairs.length_eq),
    List.map_snd_zip (Nat.le_of_eq pairs.length_eq.symm), ?_⟩
  exact fun p member => (List.forall₂_iff_zip.mp pairs).2 member

/-- Values in a row are written one by one, each in the place of a value. -/
theorem values_eq_mapM (es : List (Expr String)) : d.values es = es.mapM d.writeValue := by
  induction es with
  | nil => rfl
  | cons e es later =>
    rw [values, later, List.mapM_cons]
    rfl

/-- The tokens of a written value and its phrase. -/
def spelling (d : Dialect) (p : Expr String × List Lexeme) : List Token × Phrase :=
  (p.2.flatMap (Lexeme.tokens d), d.valuePhrase p.1)

/-- Values in a row are written one by one, with commas between them. -/
theorem values_written {parts : List (List Lexeme)} (written : d.values es = .ok parts) :
    ∃ pairs : List (Expr String × List Lexeme), pairs.map Prod.fst = es ∧
      (∀ p ∈ pairs, d.writeValue p.1 = .ok p.2) ∧
      (Lexeme.commaSeparated parts).flatMap (Lexeme.tokens d) = separated ((pairs.map d.spelling).map Prod.fst) ∧
      d.phrases es = (pairs.map d.spelling).map Prod.snd := by
  rw [values_eq_mapM] at written
  obtain ⟨pairs, rfl, rfl, each⟩ := pairs_of_mapM written
  refine ⟨pairs, rfl, each, ?_, ?_⟩
  · rw [tokens_commaSeparated, List.map_map, List.map_map]
    rfl
  · rw [phrases_eq_map, List.map_map, List.map_map]
    rfl

/-- A function call: its name, and its arguments in parentheses. -/
theorem function_written {name : String} {nullable : Bool} (offered : name ∈ d.functionNames)
    (written : d.node (.function name es m nullable) = .ok lexemes) :
    ∃ pairs : List (Expr String × List Lexeme), pairs.map Prod.fst = es ∧
      (∀ p ∈ pairs, d.writeValue p.1 = .ok p.2) ∧
      lexemes.flatMap (Lexeme.tokens d) =
        [.word name, .symbol "("] ++ separated ((pairs.map d.spelling).map Prod.fst) ++ [.symbol ")"] ∧
      d.phrases es = (pairs.map d.spelling).map Prod.snd := by
  unfold node at written
  obtain ⟨parts, found, rest⟩ := bind_eq_ok.mp written
  cases rest
  obtain ⟨pairs, same, each, tokens, phrases⟩ := values_written found
  refine ⟨pairs, same, each, ?_, phrases⟩
  rw [List.flatMap_append, List.flatMap_append, List.flatMap_singleton, List.flatMap_singleton,
    (tokens_function d offered).1, tokens_close, tokens]

/-- An operand is fitted into its place, and stands in parentheses where it has to. -/
theorem operand_written {op : BinaryOp} {isRight : Bool} (written : d.operand op isRight e (d.node e) = .ok lexemes) :
    ∃ inner, d.fitted op.operandPlace e (d.node e) = .ok inner ∧
      lexemes = if d.needsParentheses e op isRight op.operandPlace then parenthesized inner else inner := by
  obtain ⟨inner, found, rest⟩ := bind_eq_ok.mp written
  exact ⟨inner, found, (Except.ok.inj rest).symm⟩

/-- An operator between its operands. -/
theorem binary_written {op : BinaryOp} {l r : Expr String} (written : d.node (.binary op l r m) = .ok lexemes) :
    ∃ ls rs, d.operand op false l (d.node l) = .ok ls ∧ d.operand op true r (d.node r) = .ok rs ∧
      lexemes.flatMap (Lexeme.tokens d) =
        ls.flatMap (Lexeme.tokens d) ++ (Operator.binary op).tokens ++ rs.flatMap (Lexeme.tokens d) := by
  unfold node at written
  obtain ⟨ls, found, rest⟩ := bind_eq_ok.mp written
  obtain ⟨rs, found', rest⟩ := bind_eq_ok.mp rest
  cases rest
  refine ⟨ls, rs, found, found', ?_⟩
  rw [List.flatMap_append, List.flatMap_append, List.flatMap_singleton, tokens_operator]

/-- A negation has its operand in parentheses, whatever it is. -/
theorem negation_written (written : d.node (.negation e m) = .ok lexemes) :
    ∃ inner, d.writeCondition e = .ok inner ∧
      lexemes.flatMap (Lexeme.tokens d) =
        [.word "NOT"] ++ ([.symbol "("] ++ inner.flatMap (Lexeme.tokens d) ++ [.symbol ")"]) := by
  unfold node at written
  obtain ⟨inner, found, rest⟩ := bind_eq_ok.mp written
  cases rest
  refine ⟨inner, found, ?_⟩
  rw [List.flatMap_append, List.flatMap_append, List.flatMap_singleton, List.flatMap_singleton, tokens_not,
    tokens_close]
  rfl

/-- A null test behind its operand, which is in parentheses where it is an operator. -/
theorem nullTest_written {negated : Bool} (written : d.node (.nullTest e negated m) = .ok lexemes) :
    ∃ inner, d.writeValue e = .ok inner ∧
      lexemes.flatMap (Lexeme.tokens d) =
        (if isBinary e then parenthesized inner else inner).flatMap (Lexeme.tokens d)
          ++ (Operator.nullTest negated).tokens := by
  unfold node at written
  obtain ⟨inner, found, rest⟩ := bind_eq_ok.mp written
  cases rest
  refine ⟨inner, found, ?_⟩
  rw [List.flatMap_append, List.flatMap_singleton, tokens_nullTest]

/-- A conversion: the operand and the store type in parentheses. -/
theorem convert_written (known : d.Knows m) (written : d.node (.convert e m) = .ok lexemes) :
    ∃ inner, d.writeValue e = .ok inner ∧
      lexemes.flatMap (Lexeme.tokens d) = [.word "CAST", .symbol "("] ++ inner.flatMap (Lexeme.tokens d) ++ [.word "AS"]
        ++ d.typeTokens m ++ [.symbol ")"] := by
  unfold node at written
  obtain ⟨inner, found, rest⟩ := bind_eq_ok.mp written
  cases rest
  refine ⟨inner, found, ?_⟩
  rw [List.flatMap_append, List.flatMap_append, List.flatMap_singleton, List.flatMap_singleton, tokens_cast,
    (tokens_type known).1]
  simp only [List.append_assoc]

/-- A list behind its item: the values with commas between them. -/
theorem inList_written {negated : Bool} (some : es ≠ []) (written : d.node (.inList e es negated m) = .ok lexemes) :
    ∃ inner, ∃ pairs : List (Expr String × List Lexeme), d.writeValue e = .ok inner ∧ pairs.map Prod.fst = es ∧
      (∀ p ∈ pairs, d.writeValue p.1 = .ok p.2) ∧
      lexemes.flatMap (Lexeme.tokens d) = inner.flatMap (Lexeme.tokens d) ++ (Operator.inList negated).tokens
        ++ separated ((pairs.map d.spelling).map Prod.fst) ++ [.symbol ")"] ∧
      d.phrases es = (pairs.map d.spelling).map Prod.snd := by
  unfold node writeInList at written
  rw [List.isEmpty_eq_false_iff.mpr some, if_neg Bool.false_ne_true] at written
  obtain ⟨inner, found, rest⟩ := bind_eq_ok.mp written
  obtain ⟨parts, found', rest⟩ := bind_eq_ok.mp rest
  cases rest
  obtain ⟨pairs, same, each, tokens, phrases⟩ := values_written found'
  refine ⟨inner, pairs, found, same, each, ?_, phrases⟩
  rw [List.flatMap_append, List.flatMap_append, List.flatMap_append, List.flatMap_singleton, List.flatMap_singleton,
    tokens_inList, tokens_close, tokens]

/-- A pattern match, with the clause of its escape at the end. -/
theorem like_written {subject pattern : Expr String} {escape : Option (Expr String)}
    (written : d.node (.like subject pattern escape m) = .ok lexemes) :
    ∃ ss ps es, d.writeValue subject = .ok ss ∧ d.writeValue pattern = .ok ps ∧ d.escapeClause escape = .ok es ∧
      lexemes.flatMap (Lexeme.tokens d) = ss.flatMap (Lexeme.tokens d) ++ Operator.like.tokens
        ++ ps.flatMap (Lexeme.tokens d) ++ es.flatMap (Lexeme.tokens d) := by
  unfold node at written
  obtain ⟨ss, found, rest⟩ := bind_eq_ok.mp written
  obtain ⟨ps, found', rest⟩ := bind_eq_ok.mp rest
  obtain ⟨es, found'', rest⟩ := bind_eq_ok.mp rest
  cases rest
  refine ⟨ss, ps, es, found, found', found'', ?_⟩
  rw [List.flatMap_append, List.flatMap_append, List.flatMap_append, List.flatMap_singleton, tokens_like]

/-- The clause of an escape that is there. -/
theorem escapeClause_written (written : d.escapeClause (some e) = .ok lexemes) :
    ∃ inner, d.writeValue e = .ok inner ∧
      lexemes.flatMap (Lexeme.tokens d) = [.word "ESCAPE"] ++ inner.flatMap (Lexeme.tokens d) := by
  obtain ⟨inner, found, rest⟩ := bind_eq_ok.mp written
  cases rest
  refine ⟨inner, found, ?_⟩
  rw [List.flatMap_append, List.flatMap_singleton, tokens_escape]

end Expressions

end Dialect

/-! ## Joined phrases -/

namespace Phrase

/-- The operator that a phrase has between its parts. -/
def operator? : Phrase → Option BinaryOp
  | binary op _ _ => some op
  | _ => none

/-- Joined phrases have the operator that joins them on top, also where a chain is regrouped. -/
theorem operator?_joined (op : BinaryOp) (x y : Phrase) : (joined op x y).operator? = some op := by
  unfold joined
  split
  · split <;> rfl
  · rfl

/-- A phrase with another operator is joined as it is. -/
theorem joined_of_operator? {op : BinaryOp} {y : Phrase} (other : y.operator? ≠ some op) (x : Phrase) :
    joined op x y = binary op x y := by
  unfold joined
  split
  next op' l r =>
    refine if_neg fun same => ?_
    rw [same.2] at other
    exact other rfl
  next => rfl

/-- Only chains of a connective are regrouped. -/
theorem joined_of_not_isLogical {op : BinaryOp} (other : op.isLogical = false) (x y : Phrase) :
    joined op x y = binary op x y := by
  unfold joined
  split
  next => exact if_neg fun same => by rw [same.1] at other; cases other
  next => rfl

/-- A chain of a connective is grouped from the left. -/
theorem joined_chain {op : BinaryOp} (logical : op.isLogical = true) (x l r : Phrase) :
    joined op x (binary op l r) = binary op (joined op x l) r := by
  rw [joined, if_pos ⟨logical, rfl⟩]

/-- It does not matter which two of three phrases are joined first. -/
theorem joined_joined {op : BinaryOp} (logical : op.isLogical = true) (x y z : Phrase) :
    joined op x (joined op y z) = joined op (joined op x y) z := by
  fun_induction joined op y z with
  | case1 op' l r same below =>
    obtain ⟨-, rfl⟩ := same
    rw [joined_chain logical, joined_chain logical, below]
  | case2 op' l r other =>
    have other : (binary op' l r).operator? ≠ some op := fun same => other ⟨logical, Option.some.inj same⟩
    rw [joined_chain logical, joined_of_operator? other]
  | case3 z other =>
    have other : z.operator? ≠ some op := by
      intro same
      cases z with
      | binary op' l r => exact other op' l r rfl
      | _ => cases same
    rw [joined_chain logical, joined_of_operator? other]

end Phrase

end SqlShape
