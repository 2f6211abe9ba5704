import SqlShape.Proofs.Evaluation
import SqlShape.Proofs.Lowered
import SqlShape.Proofs.Patterns

/-!
# Searches in a text

A text is searched for a pattern anywhere, at its start or at its end. What is sent for a search is made of the text
functions of a dialect, which are given a reference meaning here: expressions have values in which a number has no width
and a text is its characters (`Expr.denote`). Of the functions those that a search is made of have a meaning, and the
extrema of integers.

The pattern of a search may be a constant or a parameter, and it is lowered to entirely different expressions for the
two: a constant to a pattern match or a test of its place, a parameter to a comparison with as many characters of the
text (`Search.byConstant`, `Search.byParameter`). Where the text is a constant as well, the search is decided at once.
-/

namespace SqlShape

/-! ## Reference values -/

/-- A value of the reference semantics. -/
inductive Datum where
  | null
  | truth (value : Bool)
  | number (value : Int)
  | text (characters : List Char)
  | bytes (values : List UInt8)
  /-- A value that no function computes with. -/
  | other (value : Value)
deriving DecidableEq

namespace Datum

/-- What a value is in the reference semantics. -/
def ofValue : Value → Datum
  | .null => null
  | .bool b => truth b
  | .byte b => number b.toNat
  | .int i => number i.toInt
  | .long i => number i.toInt
  | .text s => text s.toList
  | .bytes bs => bytes bs
  | v => other v

/-- A truth value; unknown is null. -/
def ofTruth : Option Bool → Datum
  | none => null
  | some b => truth b

/-- The truth value of a condition; `none` is unknown. -/
def truth? : Datum → Option Bool
  | truth b => some b
  | _ => none

def isNull : Datum → Bool
  | null => true
  | _ => false

@[simp]
theorem truth?_ofTruth (t : Option Bool) : (ofTruth t).truth? = t := by
  cases t <;> rfl

/-- Numbers in their order; of other values only that they are the same. -/
def order : Datum → Datum → Ordering
  | number m, number n => compare m n
  | x, y => if x = y then .eq else .lt

/-- A comparison, unknown where an operand is null. -/
def comparison (op : BinaryOp) (x y : Datum) : Option Bool :=
  if x.isNull || y.isNull then none else some (op.holds (order x y))

/-- The value of a binary operation. -/
def binary : BinaryOp → Datum → Datum → Datum
  | .and, x, y => ofTruth (Truth.conj x.truth? y.truth?)
  | .or, x, y => ofTruth (Truth.disj x.truth? y.truth?)
  | .add, number m, number n => number (m + n)
  | .subtract, number m, number n => number (m - n)
  | .add, _, _ | .subtract, _, _ => null
  | op, x, y => ofTruth (comparison op x y)

end Datum

namespace Text

/-- The place where a sequence first occurs in another, counted from one; zero where it does not occur. -/
def place {α : Type} [BEq α] (sought source : List α) : Nat :=
  match source.tails.findIdx? sought.isPrefixOf with
  | some index => index + 1
  | none => 0

/-- The last characters of a text; all of them where it has fewer. -/
def last (count : Nat) (s : List Char) : List Char :=
  s.drop (s.length - count)

end Text

namespace Dialect

/-- What the functions of a dialect yield on texts, bytes and integers. -/
def called : Dialect → String → List Datum → Datum
  | sqlServer, "LEN", [.text s] | sqlite, "length", [.text s] => .number s.length
  | sqlServer, "CHARINDEX", [.text sought, .text source] | sqlite, "instr", [.text source, .text sought] =>
    .number (Text.place sought source)
  | sqlServer, "CHARINDEX", [.bytes sought, .bytes source] | sqlite, "instr", [.bytes source, .bytes sought] =>
    .number (Text.place sought source)
  | sqlServer, "SUBSTRING", [.text s, .number 1, .number count]
  | sqlite, "substr", [.text s, .number 1, .number count] => .text (s.take count.toNat)
  | sqlServer, "RIGHT", [.text s, .number count] => .text (Text.last count.toNat s)
  | sqlite, "substr", [.text s, .number start] =>
    -- From a place that is counted from the end, where it is negative, or from the start.
    .text (if start < 0 then Text.last start.natAbs s else s.drop (start.toNat - 1))
  | sqlServer, "GREATEST", [.number m, .number n] | sqlite, "max", [.number m, .number n] => .number (max m n)
  | sqlServer, "LEAST", [.number m, .number n] | sqlite, "min", [.number m, .number n] => .number (min m n)
  | _, _, _ => .null

/-- What `substr` yields from a place on. -/
theorem called_substr (s : List Char) (start : Int) : sqlite.called "substr" [.text s, .number start] =
    .text (if start < 0 then Text.last start.natAbs s else s.drop (start.toNat - 1)) := by
  -- The places are told apart from the one that a head is taken from.
  rcases start with (_ | _ | n) | n <;> rfl

/-- The store type of a logical type. -/
def stored (d : Dialect) (t : LogicalType) : TypeMapping :=
  (d.catalog.find? t).getD ⟨"", t⟩

/-- Texts are stored under a mapping of their type. -/
theorem type_stored_text (d : Dialect) : (d.stored .text).type = .text := by
  cases d <;> rfl

/-- A pattern match, unknown where an operand is null. -/
def likened (d : Dialect) : Datum → Datum → Option Datum → Datum
  | .text s, .text pattern, some (.text [escape]) => .truth (d.isLike (some escape) pattern s)
  | .text s, .text pattern, none => .truth (d.isLike none pattern s)
  | _, _, _ => .null

end Dialect

namespace Expr

variable {ρ σ : Type}

mutual
/-- The value of an expression in the reference semantics of a dialect. Conversions and lists are in no search. -/
def denote (d : Dialect) (row : Row) (given : ρ → LogicalType → Value) : Expr ρ → Datum
  | constant v _ => .ofValue v
  | parameter ref t _ => .ofValue (given ref t)
  | column table name m _ => .ofValue (row table name m.type).1
  | function name arguments _ _ => d.called name (denoteAll d row given arguments)
  | binary op left right _ => .binary op (left.denote d row given) (right.denote d row given)
  | negation operand _ => .ofTruth (Truth.neg (operand.denote d row given).truth?)
  | nullTest operand negated _ => .truth ((operand.denote d row given).isNull != negated)
  | like subject pattern escape _ =>
    d.likened (subject.denote d row given) (pattern.denote d row given) (denoteOption d row given escape)
  | convert _ _ | inList _ _ _ _ | inParameter _ _ _ _ => .null
/-- The values of expressions in a row. -/
def denoteAll (d : Dialect) (row : Row) (given : ρ → LogicalType → Value) : List (Expr ρ) → List Datum
  | [] => []
  | e :: es => e.denote d row given :: denoteAll d row given es
/-- The value of an expression that may be absent. -/
def denoteOption (d : Dialect) (row : Row) (given : ρ → LogicalType → Value) : Option (Expr ρ) → Option Datum
  | none => none
  | some e => some (e.denote d row given)
end

/-- The mutual recursion over operands is a map. -/
theorem denoteAll_eq_map (d : Dialect) (row : Row) (given : ρ → LogicalType → Value) (es : List (Expr ρ)) :
    denoteAll d row given es = es.map (denote d row given) := by
  induction es with
  | nil => rfl
  | cons e es rest => rw [denoteAll, rest, List.map_cons]

end Expr

/-! ## Lowered searches -/

/-- The lowering of a dialect has the rules of the dialect. -/
theorem Dialect.rules_lowering {d : Dialect} {l : Lowering} (made : d.lowering = .ok l) : l.rules = d.rules := by
  obtain ⟨b, -, same⟩ := bind_eq_ok.mp made
  cases same
  rfl

/-- A text in a query, with its type stated or not. -/
def QueryExpr.ofText (stated : Bool) (p : String) : QueryExpr :=
  .constant (.text p) (if stated then some .text else none)

/-- The ways to search a text. -/
inductive Search where
  | anywhere
  | atStart
  | atEnd
deriving DecidableEq, Repr

namespace Search

/-- The method of a search. -/
def method : Search → MethodId
  | anywhere => ⟨.string, "Contains", 0⟩
  | atStart => ⟨.string, "StartsWith", 0⟩
  | atEnd => ⟨.string, "EndsWith", 0⟩

/-- A search of a text for a pattern. -/
def query (search : Search) (subject pattern : QueryExpr) : QueryExpr :=
  .call (some subject) search.method [pattern]

/-- A pattern is found in a text. -/
def finds : Search → List Char → List Char → Bool
  | anywhere, pattern, s => MethodRule.occursIn pattern s
  | atStart, pattern, s => pattern.isPrefixOf s
  | atEnd, pattern, s => pattern.isSuffixOf s

/-- The truth value of a search of a column; unknown where it holds no text. -/
def answer (search : Search) (pattern : List Char) : Datum → Option Bool
  | .text s => some (search.finds pattern s)
  | _ => none

/-- The pattern that a text is matched with. -/
def fragment (d : Dialect) (search : Search) (pattern : String) : String :=
  let escaped := d.escapePattern pattern.toList
  String.ofList (if search = atStart then escaped ++ ['%'] else '%' :: escaped)

/-- The test that a pattern has a place in a text. -/
def located (d : Dialect) (subject pattern : Expr String) : Expr String :=
  let operands := if d.functions.soughtFirst then [pattern, subject] else [subject, pattern]
  .binary .greater (.function d.functions.position operands (d.stored .int32) false)
    (.constant (.int 0) (d.stored .int32)) (d.stored .bool)

/-- What a search for a constant is lowered to. -/
def byConstant (d : Dialect) (search : Search) (subject : Expr String) (p : String) : Expr String :=
  match search with
  | anywhere =>
    if p = "" then .constant (.bool true) (d.stored .bool) else located d subject (.constant (.text p) (d.stored .text))
  | _ =>
    .like subject (.constant (.text (search.fragment d p)) (d.stored .text))
      (some (.constant (.text (String.ofList [d.functions.patternEscape])) (d.stored .text))) (d.stored .bool)

/-- The end of a text. -/
def tail (d : Dialect) (subject length : Expr String) : Expr String :=
  match d with
  | .sqlServer => .function "RIGHT" [subject, length] (d.stored .text) false
  | .sqlite =>
    let start := .binary .subtract (.constant (.int 0) (d.stored .int32)) length (d.stored .int32)
    .function "substr" [subject, start] (d.stored .text) false

/-- What a search for a parameter is lowered to. -/
def byParameter (d : Dialect) (search : Search) (subject : Expr String) (name : String) : Expr String :=
  let pattern := .parameter name .text (d.stored .text)
  let length := .function d.functions.textLength [pattern] (d.stored .int32) false
  match search with
  | anywhere =>
    .binary .or (located d subject pattern)
      (.binary .equal pattern (.constant (.text "") (d.stored .text)) (d.stored .bool)) (d.stored .bool)
  | atStart =>
    let head := .function d.functions.substring [subject, .constant (.int 1) (d.stored .int32), length]
      (d.stored .text) false
    .binary .equal head pattern (d.stored .bool)
  | atEnd => .binary .equal (tail d subject length) pattern (d.stored .bool)

/-- The rule of a search. -/
def rule (d : Dialect) (b : Builder) : Search → Expr String → Expr String → Except QueryError (Expr String)
  | anywhere => MethodRule.textContains d b
  | atStart => MethodRule.textStartsWith d b
  | atEnd => MethodRule.textEndsWith d b

section Rules

variable {d : Dialect} {search : Search}

/-- On two texts the rule for texts does what the search's own rule does. -/
theorem apply_strings {b : Builder} {e e' x : Expr String} (text : e.type = .text) (text' : e'.type = .text)
    (ruled : search.rule d b e e' = .ok x) :
    (MethodRule.strings d).apply b ⟨some e, search.method, [e']⟩ = .ok (some x) := by
  have argument : [e'].all MethodRule.isTextArgument = true := by
    rw [List.all_cons, MethodRule.isTextArgument, text']
    rfl
  have searched : MethodRule.lowerText d b ⟨some e, search.method, [e']⟩ e =
      MethodRule.lowerSearch ⟨some e, search.method, [e']⟩ (search.rule d b) e := by
    cases search <;> rfl
  refine bind_eq_ok.mpr ⟨e, rfl, ?_⟩
  simp only [text, argument, ne_eq, not_true_eq_false, Bool.not_true, Bool.false_eq_true, or_self, if_false, searched]
  refine bind_eq_ok.mpr ⟨e', rfl, ?_⟩
  simp only [text', ne_eq, not_true_eq_false, if_false]
  exact bind_eq_ok.mpr ⟨x, ruled, rfl⟩

/-- No rule but that of texts knows a search. -/
theorem lower_rules {b : Builder} {e e' x : Expr String} (text : e.type = .text) (text' : e'.type = .text)
    (ruled : search.rule d b e e' = .ok x) : d.rules.lower b ⟨some e, search.method, [e']⟩ = .ok (some x) := by
  have trial : d.rules.trial = [.bytes d, .membership, .strings d, .numbers d, .equality] := rfl
  have bytes : (MethodRule.bytes d).accepts search.method = false := by cases search <;> rfl
  have membership : MethodRule.membership.accepts search.method = false := by cases search <;> rfl
  have strings : (MethodRule.strings d).accepts search.method = true := by cases search <;> rfl
  unfold MethodRules.lower
  simp only [trial, MethodRules.firstOutcome, bytes, membership, strings, Bool.false_eq_true, if_false, if_true,
    apply_strings text text' ruled]

/-- A search of texts is lowered by its rule. -/
theorem lower_query {l : Lowering} (made : d.lowering = .ok l) {q q' : QueryExpr} {e e' x : Expr String}
    (lowered : (l.lower q).run = .ok (some e)) (lowered' : (l.lower q').run = .ok (some e')) (text : e.type = .text)
    (text' : e'.type = .text) (ruled : search.rule d l.builder e e' = .ok x) :
    (l.lower (search.query q q')).run = .ok (some x) := by
  have receiver : (l.lowerReceiver (some q)).run = .ok (some (some e)) := by
    rw [Lowering.lowerReceiver, map_eq_pure_bind]
    exact optionBind_eq_ok.mpr ⟨e, lowered, rfl⟩
  have arguments : (l.lowerAll [q']).run = .ok (some [e']) :=
    optionBind_eq_ok.mpr ⟨e', lowered', rfl⟩
  refine optionBind_eq_ok.mpr ⟨some e, receiver, optionBind_eq_ok.mpr ⟨[e'], arguments, ?_⟩⟩
  rw [Dialect.rules_lowering made]
  exact lower_rules text text' ruled

end Rules

variable {d : Dialect} {l : Lowering}

/-- A constant text is lowered to itself, whether or not its type is stated. -/
theorem lower_ofText (made : d.lowering = .ok l) (stated : Bool) (p : String) :
    (l.lower (.ofText stated p)).run = .ok (some (.constant (.text p) (d.stored .text))) := by
  cases stated <;> cases d <;> cases made <;> rfl

theorem lower_column (made : d.lowering = .ok l) (t c : String) (nullable : Bool) :
    (l.lower (.column t c .text nullable)).run = .ok (some (.column t c (d.stored .text) nullable)) := by
  cases d <;> cases made <;> rfl

theorem lower_parameter (made : d.lowering = .ok l) (name : String) :
    (l.lower (.parameter name .text)).run = .ok (some (.parameter name .text (d.stored .text))) := by
  cases d <;> cases made <;> rfl

/-- A search of a constant for a constant is decided. -/
theorem lower_constants (made : d.lowering = .ok l) (search : Search) (stated stated' : Bool) (s p : String) :
    (l.lower (search.query (.ofText stated s) (.ofText stated' p))).run =
      .ok (some (l.builder.truth (search.finds p.toList s.toList))) := by
  refine lower_query made (lower_ofText made stated s) (lower_ofText made stated' p) d.type_stored_text
    d.type_stored_text ?_
  cases search <;> rfl

/-- A search of a column for a constant is lowered by the search's own rule. -/
theorem lower_byConstant (made : d.lowering = .ok l) (search : Search) (t c p : String) (nullable stated : Bool) :
    (l.lower (search.query (.column t c .text nullable) (.ofText stated p))).run =
      .ok (some (search.byConstant d (.column t c (d.stored .text) nullable) p)) := by
  refine lower_query made (lower_column made t c nullable) (lower_ofText made stated p) d.type_stored_text
    d.type_stored_text ?_
  cases search with
  | anywhere =>
    unfold rule MethodRule.textContains byConstant
    by_cases empty : p = ""
    · subst empty
      cases d <;> cases made <;> rfl
    · simp only [MethodRule.textOf?, Expr.constant?, if_neg empty]
      cases d <;> cases made <;> rfl
  | _ => cases d <;> cases made <;> rfl

/-- A search of a column for a parameter is lowered by the search's own rule. -/
theorem lower_byParameter (made : d.lowering = .ok l) (search : Search) (t c name : String) (nullable : Bool) :
    (l.lower (search.query (.column t c .text nullable) (.parameter name .text))).run =
      .ok (some (search.byParameter d (.column t c (d.stored .text) nullable) name)) := by
  refine lower_query made (lower_column made t c nullable) (lower_parameter made name) d.type_stored_text rfl ?_
  cases search <;> cases d <;> cases made <;> rfl

/-- A match with an escaped fragment is the search for the fragment. -/
theorem isLike_fragment {search : Search} (anchored : search ≠ anywhere) (p : String) (s : List Char) :
    d.isLike (some d.functions.patternEscape) (search.fragment d p).toList s = search.finds p.toList s := by
  rw [Bool.eq_iff_iff]
  unfold fragment
  rw [String.toList_ofList]
  cases search with
  | anywhere => exact absurd rfl anchored
  | atStart => exact (d.isLike_fragment_any p.toList s).trans List.isPrefixOf_iff_prefix.symm
  | atEnd => exact (d.isLike_any_fragment p.toList s).trans List.isSuffixOf_iff_suffix.symm

/-- A value is matched with an escaped fragment where the search finds the fragment. -/
theorem likened_fragment {search : Search} (anchored : search ≠ anywhere) (p : String) (cell : Datum) :
    d.likened cell (.text (search.fragment d p).toList) (some (.text [d.functions.patternEscape])) =
      .ofTruth (search.answer p.toList cell) := by
  cases cell with
  | text s => exact congrArg Datum.truth (isLike_fragment anchored p s)
  | _ => rfl

/-- What a search for a constant at the start or the end means. -/
theorem denote_byConstant {search : Search} (anchored : search ≠ anywhere) (p : String) (subject : Expr String)
    (row : Row) (given : String → LogicalType → Value) :
    (search.byConstant d subject p).denote d row given =
      .ofTruth (search.answer p.toList (subject.denote d row given)) := by
  rw [← likened_fragment (d := d) anchored]
  cases search with
  | anywhere => exact absurd rfl anchored
  | _ => cases d <;> rfl

end Search

namespace Lowering

/-- Escaping is exact in every dialect: whatever characters a fragment has, a text matches the escaped fragment followed
by anything exactly if it starts with the fragment, and the escaped fragment preceded by anything exactly if it ends
with it. So a search of a column at its start or its end for a constant is true in a row exactly if the same search of
the text in that row is decided to be. -/
theorem escaped_fragment_matches_itself {d : Dialect} {l : Lowering} (made : d.lowering = .ok l) :
    (∀ f s : List Char,
      (d.isLike (some d.functions.patternEscape) (d.escapePattern f ++ ['%']) s = true ↔ f <+: s) ∧
      (d.isLike (some d.functions.patternEscape) ('%' :: d.escapePattern f) s = true ↔ f <:+ s)) ∧
    ∀ search : Search, search ≠ .anywhere → ∀ (t c p s : String) (nullable stated stated' : Bool), ∃ e value,
      (l.lower (search.query (.column t c .text nullable) (.ofText stated p))).run = .ok (some e) ∧
      (l.lower (search.query (.ofText stated' s) (.ofText stated p))).run = .ok (some (l.builder.truth value)) ∧
      ∀ (row : Row) (given : String → LogicalType → Value), (row t c .text).1 = .text s →
        e.denote d row given = .truth value := by
  refine ⟨fun f s => ⟨d.isLike_fragment_any f s, d.isLike_any_fragment f s⟩, ?_⟩
  intro search anchored t c p s nullable stated stated'
  refine ⟨_, _, Search.lower_byConstant made search t c p nullable stated,
    Search.lower_constants made search stated' stated s p, ?_⟩
  intro row given cell
  rw [Search.denote_byConstant anchored, Expr.denote, d.type_stored_text, cell]
  rfl

/-- A row whose text columns hold a text. -/
def labelled (s : String) : Row
  | _, _, .text => ⟨.text s, .inr rfl⟩
  | _, _, t => .nullIf t True

/-- All that has a meaning in a pattern stands for itself in a fragment: the first label starts with the fragment, and
the second does not, although the fragment, unescaped, would match it. -/
theorem escaped_fragment_of_wildcards : ∃ l e, Dialect.sqlServer.lowering = .ok l ∧
    (l.lower (Search.atStart.query (.column "i" "Label" .text true) (.ofText false "5%[a]_\\"))).run = .ok (some e) ∧
    (∀ given, e.denote .sqlServer (labelled "5%[a]_\\ off") given = .truth true) ∧
    ∀ given, e.denote .sqlServer (labelled "50 a!\\ off") given = .truth false := by
  obtain ⟨l, made⟩ : ∃ l, Dialect.sqlServer.lowering = .ok l := ⟨_, rfl⟩
  obtain ⟨-, searches⟩ := escaped_fragment_matches_itself made
  have search (s : String) := searches .atStart (by decide) "i" "Label" "5%[a]_\\" s true false true
  obtain ⟨e, value, lowered, folded, denotes⟩ := search "5%[a]_\\ off"
  obtain ⟨e', value', lowered', folded', denotes'⟩ := search "50 a!\\ off"
  obtain rfl : e = e' := Option.some.inj (Except.ok.inj (lowered.symm.trans lowered'))
  cases made
  obtain rfl : value = true := by cases folded; rfl
  obtain rfl : value' = false := by cases folded'; rfl
  exact ⟨_, e, rfl, lowered, fun given => denotes _ given rfl, fun given => denotes' _ given rfl⟩

end Lowering

end SqlShape
