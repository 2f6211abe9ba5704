import SqlShape.Command.Expression
import SqlShape.Proofs.Scanner

/-!
# The grammar of expressions

Tokens are read as a phrase between the operator in front of them and the operator behind them. Of two operators that
an operand stands between, the tighter one takes it, and of two that are equally tight the one in front. `Reads` states
the grammar in this way: an operator can be read only where the operator in front is looser and the operator behind no
tighter.

SQL Server has two categories, conditions and values, and all its predicates are equally tight. SQLite has one
category, and there `<` and its likes are tighter than the other predicates. What is read is the same whatever
derivation is found: a reader that looks at one operator at a time finds it (`Reads.parses`).
-/

namespace SqlShape

/-- A phrase of a command. -/
inductive Phrase where
  | null
  | number (negative : Bool) (text : String)
  | string (national : Bool) (text : String)
  | blob (digits : String)
  | placeholder (name : String)
  | column (table name : String)
  | call (name : String) (arguments : List Phrase)
  | cast (operand : Phrase) (type : List Token)
  | choice (condition yes no : Phrase)
  | binary (op : BinaryOp) (left right : Phrase)
  | negation (operand : Phrase)
  | nullTest (operand : Phrase) (negated : Bool)
  | inList (item : Phrase) (values : List Phrase) (negated : Bool)
  | like (subject pattern : Phrase) (escape : Option Phrase)
deriving Repr

/-! ## Operators -/

namespace Dialect

/-- How tight a binary operator is. -/
def level (d : Dialect) : BinaryOp → Nat
  | .or => 1
  | .and => 2
  | .equal | .notEqual => 4
  | .greater | .greaterEqual | .less | .lessEqual =>
    match d with
    | .sqlServer => 4
    | .sqlite => 5
  | .add | .subtract => 6

/-- How tight a negation is. -/
def notLevel : Nat :=
  3

/-- How tight null tests, memberships and pattern matches are. -/
def predicateLevel : Nat :=
  4

/-- How tight the escape clause of a pattern match is. -/
def escapeLevel : Nat :=
  5

/-- The category of what a place wants. -/
def category (d : Dialect) (place : Place) : Place :=
  if d.separatesConditions then place else .value

end Dialect

namespace BinaryOp

/-- The operator as a token. -/
def token : BinaryOp → Token
  | and => .word "AND"
  | or => .word "OR"
  | op => .symbol op.symbol

/-- What the operands have to be. -/
def operandPlace (op : BinaryOp) : Place :=
  if op.isLogical then .condition else .value

/-- What the operator makes. -/
def resultPlace (op : BinaryOp) : Place :=
  if op.isLogical || op.isComparison then .condition else .value

end BinaryOp

namespace Grammar

/-- An operator behind an operand. -/
inductive Operator where
  | binary (op : BinaryOp)
  | nullTest (negated : Bool)
  | inList (negated : Bool)
  | like
deriving DecidableEq, Repr

/-- How tight an operator is. -/
def Operator.level (d : Dialect) : Operator → Nat
  | binary op => d.level op
  | nullTest _ | inList _ | like => Dialect.predicateLevel

/-- The tokens of an operator. -/
def Operator.tokens : Operator → List Token
  | binary op => [op.token]
  | nullTest negated => [.word "IS"] ++ (if negated then [.word "NOT"] else []) ++ [.word "NULL"]
  | inList negated => (if negated then [.word "NOT"] else []) ++ [.word "IN", .symbol "("]
  | like => [.word "LIKE"]

/-- The operator that tokens begin with, and what is behind it. -/
def operator? : List Token → Option (Operator × List Token)
  | .word "IS" :: .word "NULL" :: ts => some (.nullTest false, ts)
  | .word "IS" :: .word "NOT" :: .word "NULL" :: ts => some (.nullTest true, ts)
  | .word "IN" :: .symbol "(" :: ts => some (.inList false, ts)
  | .word "NOT" :: .word "IN" :: .symbol "(" :: ts => some (.inList true, ts)
  | .word "LIKE" :: ts => some (.like, ts)
  | .word "AND" :: ts => some (.binary .and, ts)
  | .word "OR" :: ts => some (.binary .or, ts)
  | .symbol "=" :: ts => some (.binary .equal, ts)
  | .symbol "<>" :: ts => some (.binary .notEqual, ts)
  | .symbol ">" :: ts => some (.binary .greater, ts)
  | .symbol ">=" :: ts => some (.binary .greaterEqual, ts)
  | .symbol "<" :: ts => some (.binary .less, ts)
  | .symbol "<=" :: ts => some (.binary .lessEqual, ts)
  | .symbol "+" :: ts => some (.binary .add, ts)
  | .symbol "-" :: ts => some (.binary .subtract, ts)
  | _ => none

/-- The reader finds an operator at the start of its own tokens. -/
theorem operator?_tokens (o : Operator) (ts : List Token) : operator? (o.tokens ++ ts) = some (o, ts) := by
  cases o with
  | binary op => cases op <;> rfl
  | nullTest negated => cases negated <;> rfl
  | inList negated => cases negated <;> rfl
  | like => rfl

/-- An operator has a token at least. -/
theorem length_lt_tokens_append (o : Operator) (ts : List Token) : ts.length < (o.tokens ++ ts).length := by
  have taken : 0 < o.tokens.length := by
    cases o with
    | nullTest negated | inList negated => cases negated <;> decide
    | binary | like => exact Nat.one_pos
  rw [List.length_append]
  exact Nat.lt_add_of_pos_left taken

/-- How tight the operator is that tokens begin with; zero where they begin with none. An escape clause is taken by the
pattern match before it. -/
def lead (d : Dialect) (ts : List Token) : Nat :=
  match operator? ts with
  | some (o, _) => o.level d
  | none => if ts.head? = some (.word "ESCAPE") then Dialect.escapeLevel else 0

/-- The tokens of an operator lead with its level. -/
theorem lead_tokens (d : Dialect) (o : Operator) (ts : List Token) : lead d (o.tokens ++ ts) = o.level d := by
  unfold lead
  rw [operator?_tokens]

/-! ## What stands at the start -/

/-- The words of the grammar, which no function has for a name. -/
def reserved : List String :=
  ["AND", "AS", "BY", "CASE", "CAST", "DESC", "ELSE", "END", "ESCAPE", "FROM", "IN", "IS", "LIKE", "LIMIT", "NOT",
    "NULL", "OR", "ORDER", "SELECT", "THEN", "TOP", "WHEN", "WHERE"]

/-- A word that names a placeholder. -/
def isPlaceholder (word : String) : Bool :=
  word.toList.head? == some '@'

/-- A word that names a function. -/
def isFunction (word : String) : Bool :=
  !isPlaceholder word && !reserved.contains word

/-- What a token can be the start of. -/
inductive Start where
  | leaf (x : Phrase)
  | minus
  | identifier (name : String)
  | function (name : String)
  | cast
  | choice
  | negation
  | parenthesis
  | nothing

/-- What a token is the start of. -/
def start : Token → Start
  | .word w =>
    if isPlaceholder w then .leaf (.placeholder w)
    else if isFunction w then .function w
    else if w = "NULL" then .leaf .null
    else if w = "CAST" then .cast
    else if w = "CASE" then .choice
    else if w = "NOT" then .negation
    else .nothing
  | .number text => .leaf (.number false text)
  | .symbol s => if s = "-" then .minus else if s = "(" then .parenthesis else .nothing
  | .identifier name => .identifier name
  | .string national text => .leaf (.string national text)
  | .blob digits => .leaf (.blob digits)

/-- The tokens of a phrase that has no parts. -/
def leaf? : Phrase → Option (List Token)
  | .null => some [.word "NULL"]
  | .number negative text => some ((if negative then [.symbol "-"] else []) ++ [.number text])
  | .string national text => some [.string national text]
  | .blob digits => some [.blob digits]
  | .placeholder name => if isPlaceholder name then some [.word name] else none
  | .column table name => some [.identifier table, .symbol ".", .identifier name]
  | _ => none

/-- The tokens of a store type: a word, or a word and a size. -/
def isType : List Token → Bool
  | [.word _] | [.word _, .symbol "(", .word _, .symbol ")"] | [.word _, .symbol "(", .number _, .symbol ")"] => true
  | _ => false

/-- Parts with commas between them. -/
def separated (parts : List (List Token)) : List Token :=
  [.symbol ","].intercalate parts

/-- `Reads d place front behind ts x`: where an operator of strength `front` is in front and one of strength `behind`
is behind, the tokens are read as the phrase `x` of the category `place`. Where there is no operator the strength is
zero. -/
inductive Reads (d : Dialect) : Place → Nat → Nat → List Token → Phrase → Prop
  | leaf {front behind : Nat} {ts : List Token} {x : Phrase} (written : leaf? x = some ts) :
      Reads d (d.category .value) front behind ts x
  | call {front behind : Nat} {name : String} (free : isFunction name = true) (items : List (List Token × Phrase))
      (each : ∀ item ∈ items, Reads d (d.category .value) 0 0 item.1 item.2) :
      Reads d (d.category .value) front behind
        ([.word name, .symbol "("] ++ separated (items.map Prod.fst) ++ [.symbol ")"])
        (.call name (items.map Prod.snd))
  | cast {front behind : Nat} {ts type : List Token} {x : Phrase} (inner : Reads d (d.category .value) 0 0 ts x)
      (typed : isType type = true) :
      Reads d (d.category .value) front behind
        ([.word "CAST", .symbol "("] ++ ts ++ [.word "AS"] ++ type ++ [.symbol ")"]) (.cast x type)
  | choice {front behind : Nat} {cs ts us : List Token} {c x y : Phrase}
      (condition : Reads d (d.category .condition) 0 0 cs c) (yes : Reads d (d.category .value) 0 0 ts x)
      (no : Reads d (d.category .value) 0 0 us y) :
      Reads d (d.category .value) front behind
        ([.word "CASE", .word "WHEN"] ++ cs ++ [.word "THEN"] ++ ts ++ [.word "ELSE"] ++ us ++ [.word "END"])
        (.choice c x y)
  | parenthesized {front behind : Nat} {place : Place} {ts : List Token} {x : Phrase} (inner : Reads d place 0 0 ts x) :
      Reads d place front behind ([.symbol "("] ++ ts ++ [.symbol ")"]) x
  /-- The operator in front takes the operand unless it is looser; the operator behind does not unless it is tighter. -/
  | binary {front behind : Nat} {op : BinaryOp} {ts us : List Token} {x y : Phrase} (looser : front < d.level op)
      (noTighter : behind ≤ d.level op) (left : Reads d (d.category op.operandPlace) front (d.level op) ts x)
      (right : Reads d (d.category op.operandPlace) (d.level op) behind us y) :
      Reads d (d.category op.resultPlace) front behind (ts ++ (Operator.binary op).tokens ++ us) (.binary op x y)
  /-- Nothing in front takes a part of a negation. -/
  | negation {front behind : Nat} {ts : List Token} {x : Phrase} (looser : behind < Dialect.notLevel)
      (inner : Reads d (d.category .condition) Dialect.notLevel behind ts x) :
      Reads d (d.category .condition) front behind ([.word "NOT"] ++ ts) (.negation x)
  | nullTest {front behind : Nat} {negated : Bool} {ts : List Token} {x : Phrase}
      (looser : front < Dialect.predicateLevel) (noTighter : behind ≤ Dialect.predicateLevel)
      (inner : Reads d (d.category .value) front Dialect.predicateLevel ts x) :
      Reads d (d.category .condition) front behind (ts ++ (Operator.nullTest negated).tokens) (.nullTest x negated)
  | inList {front behind : Nat} {negated : Bool} {ts : List Token} {x : Phrase}
      (looser : front < Dialect.predicateLevel) (noTighter : behind ≤ Dialect.predicateLevel)
      (inner : Reads d (d.category .value) front Dialect.predicateLevel ts x) (items : List (List Token × Phrase))
      (some : items ≠ []) (each : ∀ item ∈ items, Reads d (d.category .value) 0 0 item.1 item.2) :
      Reads d (d.category .condition) front behind
        (ts ++ (Operator.inList negated).tokens ++ separated (items.map Prod.fst) ++ [.symbol ")"])
        (.inList x (items.map Prod.snd) negated)
  | like {front behind : Nat} {ts us : List Token} {x y : Phrase} (looser : front < Dialect.predicateLevel)
      (noTighter : behind ≤ Dialect.predicateLevel)
      (subject : Reads d (d.category .value) front Dialect.predicateLevel ts x)
      (pattern : Reads d (d.category .value) Dialect.predicateLevel behind us y) :
      Reads d (d.category .condition) front behind (ts ++ Operator.like.tokens ++ us) (.like x y none)
  | escaped {front behind : Nat} {ts us vs : List Token} {x y z : Phrase} (looser : front < Dialect.predicateLevel)
      (noTighter : behind ≤ Dialect.predicateLevel)
      (subject : Reads d (d.category .value) front Dialect.predicateLevel ts x)
      (pattern : Reads d (d.category .value) Dialect.predicateLevel Dialect.escapeLevel us y)
      (escape : Reads d (d.category .value) Dialect.predicateLevel behind vs z) :
      Reads d (d.category .condition) front behind (ts ++ Operator.like.tokens ++ us ++ [.word "ESCAPE"] ++ vs)
        (.like x y (some z))

/-! ## A reader

Every turn of the reader takes a token. A call on what another call left goes through `parseAfter`, `loopAfter` or
`itemsAfter`, which give up unless fewer tokens are left than there were. -/

/-- Takes a token that has to be there. -/
def expect (t : Token) : List Token → Option (List Token)
  | t' :: ts => if t' = t then some ts else none
  | [] => none

/-- Takes a store type. -/
def type? : List Token → Option (List Token × List Token)
  | .word name :: .symbol "(" :: size :: .symbol ")" :: ts => some ([.word name, .symbol "(", size, .symbol ")"], ts)
  | .word name :: ts => some ([.word name], ts)
  | _ => none

/-- Takes a number. -/
def number? : List Token → Option (String × List Token)
  | .number text :: ts => some (text, ts)
  | _ => none

/-- Takes the part of a column's name that is behind the table. -/
def qualified? : List Token → Option (String × List Token)
  | .symbol "." :: .identifier name :: ts => some (name, ts)
  | _ => none

mutual
/-- Reads a phrase as far as operators go that are tighter than `front`. -/
def parse (d : Dialect) (front : Nat) (ts : List Token) : Option (Phrase × List Token) :=
  match ts with
  | [] => none
  | t :: rest =>
    match start t with
    | .leaf x => loop d front x rest
    | .minus => do
      let (text, us) ← number? rest
      loopAfter d (t :: rest) front (.number true text) us
    | .identifier table => do
      let (name, us) ← qualified? rest
      loopAfter d (t :: rest) front (.column table name) us
    | .function name => do
      let us ← expect (.symbol "(") rest
      if us.head? = some (.symbol ")") then loopAfter d (t :: rest) front (.call name []) us.tail
      else do
        let (xs, us) ← itemsAfter d (t :: rest) us
        loopAfter d (t :: rest) front (.call name xs) us
    | .cast => do
      let us ← expect (.symbol "(") rest
      let (x, us) ← parseAfter d (t :: rest) 0 us
      let us ← expect (.word "AS") us
      let (type, us) ← type? us
      let us ← expect (.symbol ")") us
      loopAfter d (t :: rest) front (.cast x type) us
    | .choice => do
      let us ← expect (.word "WHEN") rest
      let (c, us) ← parseAfter d (t :: rest) 0 us
      let us ← expect (.word "THEN") us
      let (x, us) ← parseAfter d (t :: rest) 0 us
      let us ← expect (.word "ELSE") us
      let (y, us) ← parseAfter d (t :: rest) 0 us
      let us ← expect (.word "END") us
      loopAfter d (t :: rest) front (.choice c x y) us
    | .negation => do
      let (x, us) ← parse d Dialect.notLevel rest
      loopAfter d (t :: rest) front (.negation x) us
    | .parenthesis => do
      let (x, us) ← parse d 0 rest
      let us ← expect (.symbol ")") us
      loopAfter d (t :: rest) front x us
    | .nothing => none
termination_by 3 * ts.length + 1
/-- Goes on with operators behind a phrase that are tighter than `front`. -/
def loop (d : Dialect) (front : Nat) (x : Phrase) (ts : List Token) : Option (Phrase × List Token) :=
  match operator? ts with
  | none => some (x, ts)
  | some (o, us) =>
    if o.level d ≤ front then some (x, ts)
    else
      match o with
      | .binary op => do
        let (y, us) ← parseAfter d ts (d.level op) us
        loopAfter d ts front (.binary op x y) us
      | .nullTest negated => loopAfter d ts front (.nullTest x negated) us
      | .inList negated => do
        let (ys, us) ← itemsAfter d ts us
        loopAfter d ts front (.inList x ys negated) us
      | .like => do
        let (y, us) ← parseAfter d ts Dialect.predicateLevel us
        match expect (.word "ESCAPE") us with
        | none => loopAfter d ts front (.like x y none) us
        | some us => do
          let (z, us) ← parseAfter d ts Dialect.predicateLevel us
          loopAfter d ts front (.like x y (some z)) us
termination_by 3 * ts.length + 1
/-- Reads phrases with commas between them up to a closing parenthesis. -/
def items (d : Dialect) (ts : List Token) : Option (List Phrase × List Token) := do
  let (x, us) ← parse d 0 ts
  match expect (.symbol ",") us with
  | none =>
    let us ← expect (.symbol ")") us
    some ([x], us)
  | some us => do
    let (xs, us) ← itemsAfter d ts us
    some (x :: xs, us)
termination_by 3 * ts.length + 2
/-- `parse`, once a token of `all` is taken. -/
def parseAfter (d : Dialect) (all : List Token) (front : Nat) (ts : List Token) : Option (Phrase × List Token) :=
  if ts.length < all.length then parse d front ts else none
termination_by 3 * all.length
/-- `loop`, once a token of `all` is taken. -/
def loopAfter (d : Dialect) (all : List Token) (front : Nat) (x : Phrase) (ts : List Token) :
    Option (Phrase × List Token) :=
  if ts.length < all.length then loop d front x ts else none
termination_by 3 * all.length
/-- `items`, once a token of `all` is taken. -/
def itemsAfter (d : Dialect) (all : List Token) (ts : List Token) : Option (List Phrase × List Token) :=
  if ts.length < all.length then items d ts else none
termination_by 3 * all.length
end

variable {d : Dialect}

theorem expect_self (t : Token) (ts : List Token) : expect t (t :: ts) = some ts := by
  rw [expect, if_pos rfl]

/-- A word that no construct takes starts a function call. -/
theorem start_function {name : String} (free : isFunction name = true) : start (.word name) = .function name := by
  have other : ¬ isPlaceholder name = true := by
    unfold isFunction at free
    rw [Bool.and_eq_true, Bool.not_eq_true'] at free
    rw [free.1]
    exact Bool.false_ne_true
  rw [start, if_neg other, if_pos free]

/-- Parts in a row begin as the first one does. -/
theorem separated_cons {part us : List Token} {t : Token} (rest : List (List Token)) (begun : part = t :: us) :
    ∃ vs, separated (part :: rest) = t :: vs := by
  unfold separated
  cases rest with
  | nil => exact ⟨us, by rw [List.intercalate_singleton, begun]⟩
  | cons next rest =>
    rw [List.intercalate_cons_cons, begun]
    exact ⟨_, rfl⟩

/-- A type is read up to the parenthesis that closes the conversion. -/
theorem type?_append {type : List Token} (typed : isType type = true) (ts : List Token) :
    type? (type ++ .symbol ")" :: ts) = some (type, .symbol ")" :: ts) := by
  unfold isType at typed
  split at typed
  · rfl
  · rfl
  · rfl
  · cases typed

section After

variable {all ts : List Token} (fewer : ts.length < all.length)
include fewer

/-- The guard that makes the reader end holds whenever fewer tokens are left. -/
theorem parseAfter_of_lt (front : Nat) : parseAfter d all front ts = parse d front ts := by
  rw [parseAfter, if_pos fewer]

theorem loopAfter_of_lt (front : Nat) (x : Phrase) : loopAfter d all front x ts = loop d front x ts := by
  rw [loopAfter, if_pos fewer]

theorem itemsAfter_of_lt : itemsAfter d all ts = items d ts := by
  rw [itemsAfter, if_pos fewer]

end After

/-- The loop stops before an operator that is no tighter than the one in front. -/
theorem loop_stop {front : Nat} {x : Phrase} {ts : List Token} (stop : lead d ts ≤ front) :
    loop d front x ts = some (x, ts) := by
  rw [loop]
  unfold lead at stop
  cases found : operator? ts with
  | none => rfl
  | some pair =>
    rw [found] at stop
    exact if_pos stop

section Loop

variable {front : Nat} {x y : Phrase} {ts rest : List Token}

/-- The loop takes an operator that is tighter than the one in front. -/
theorem loop_binary {op : BinaryOp} (looser : front < d.level op) (right : parse d (d.level op) ts = some (y, rest))
    (fewer : rest.length ≤ ts.length) :
    loop d front x ((Operator.binary op).tokens ++ ts) = loop d front (.binary op x y) rest := by
  have taken := length_lt_tokens_append (.binary op) ts
  rw [loop, operator?_tokens]
  refine (if_neg (Nat.not_le.mpr looser)).trans ?_
  dsimp only [bind]
  rw [parseAfter_of_lt taken, right, Option.bind_some]
  exact loopAfter_of_lt (Nat.lt_of_le_of_lt fewer taken) front _

/-- The loop takes a null test and goes on with it. -/
theorem loop_nullTest (looser : front < Dialect.predicateLevel) (negated : Bool) :
    loop d front x ((Operator.nullTest negated).tokens ++ ts) = loop d front (.nullTest x negated) ts := by
  rw [loop, operator?_tokens]
  refine (if_neg (Nat.not_le.mpr looser)).trans ?_
  exact loopAfter_of_lt (length_lt_tokens_append _ ts) front _

/-- The loop takes a list and goes on with it. -/
theorem loop_inList (looser : front < Dialect.predicateLevel) (negated : Bool) {ys : List Phrase}
    (members : items d ts = some (ys, rest)) (fewer : rest.length ≤ ts.length) :
    loop d front x ((Operator.inList negated).tokens ++ ts) = loop d front (.inList x ys negated) rest := by
  have taken := length_lt_tokens_append (.inList negated) ts
  rw [loop, operator?_tokens]
  refine (if_neg (Nat.not_le.mpr looser)).trans ?_
  dsimp only [bind]
  rw [itemsAfter_of_lt taken, members, Option.bind_some]
  exact loopAfter_of_lt (Nat.lt_of_le_of_lt fewer taken) front _

/-- The loop takes a pattern match where nothing tighter and no escape follows. -/
theorem loop_like (looser : front < Dialect.predicateLevel)
    (pattern : parse d Dialect.predicateLevel ts = some (y, rest)) (fewer : rest.length ≤ ts.length)
    (low : lead d rest ≤ Dialect.predicateLevel) :
    loop d front x (Operator.like.tokens ++ ts) = loop d front (.like x y none) rest := by
  have taken := length_lt_tokens_append .like ts
  have unescaped : expect (.word "ESCAPE") rest = none := by
    cases rest with
    | nil => rfl
    | cons t rest =>
      refine if_neg ?_
      rintro rfl
      revert low
      exact (by decide : ¬ Dialect.escapeLevel ≤ Dialect.predicateLevel)
  rw [loop, operator?_tokens]
  refine (if_neg (Nat.not_le.mpr looser)).trans ?_
  dsimp only [bind]
  rw [parseAfter_of_lt taken, pattern, Option.bind_some]
  dsimp only
  rw [unescaped]
  exact loopAfter_of_lt (Nat.lt_of_le_of_lt fewer taken) front _

/-- The loop takes a pattern match with the escape behind it. -/
theorem loop_escaped (looser : front < Dialect.predicateLevel) {z : Phrase} {us : List Token}
    (pattern : parse d Dialect.predicateLevel ts = some (y, .word "ESCAPE" :: us))
    (escape : parse d Dialect.predicateLevel us = some (z, rest)) (fewer : us.length < ts.length)
    (fewer' : rest.length ≤ us.length) :
    loop d front x (Operator.like.tokens ++ ts) = loop d front (.like x y (some z)) rest := by
  have taken := length_lt_tokens_append .like ts
  have taken' := Nat.lt_trans fewer taken
  rw [loop, operator?_tokens]
  refine (if_neg (Nat.not_le.mpr looser)).trans ?_
  dsimp only [bind]
  rw [parseAfter_of_lt taken, pattern, Option.bind_some]
  dsimp only
  rw [expect_self]
  dsimp only
  rw [parseAfter_of_lt taken', escape, Option.bind_some]
  exact loopAfter_of_lt (Nat.lt_of_le_of_lt fewer' taken') front _

end Loop

/-- What the reader does with tokens that are read as a phrase: wherever it starts, it is behind them with the phrase in
its hands. -/
def Parses (d : Dialect) (front behind : Nat) (ts : List Token) (x : Phrase) : Prop :=
  ∀ p ≤ front, ∀ rest, lead d rest ≤ behind → parse d p (ts ++ rest) = loop d p x rest

namespace Parses

variable {front behind : Nat} {ts us : List Token} {x y : Phrase}

/-- The reader stops behind an operand. -/
theorem stops (read : Parses d front behind ts x) {rest : List Token} (low : lead d rest ≤ behind)
    (stop : lead d rest ≤ front) : parse d front (ts ++ rest) = some (x, rest) := by
  rw [read front (Nat.le_refl front) rest low, loop_stop stop]

/-- The reader stops behind a phrase that is ended by a token of its own. -/
theorem ends (read : Parses d 0 0 ts x) (t : Token) (rest : List Token) (ended : lead d (t :: rest) = 0) :
    parse d 0 (ts ++ t :: rest) = some (x, t :: rest) :=
  read.stops (Nat.le_of_eq ended) (Nat.le_of_eq ended)

/-- A leaf is read whatever is around it. -/
theorem leaf (written : leaf? x = some ts) : Parses d front behind ts x := by
  intro p _ rest _
  cases x with
  | null =>
    cases written
    rw [List.singleton_append, parse]
    rfl
  | number negative text =>
    cases written
    cases negative with
    | false =>
      rw [if_neg Bool.false_ne_true, List.nil_append, List.singleton_append, parse]
      rfl
    | true =>
      rw [if_pos rfl, List.singleton_append, List.cons_append, List.singleton_append, parse]
      exact loopAfter_of_lt (Nat.lt_add_of_pos_right Nat.two_pos) p _
  | string national text =>
    cases written
    rw [List.singleton_append, parse]
    rfl
  | blob digits =>
    cases written
    rw [List.singleton_append, parse]
    rfl
  | placeholder name =>
    obtain ⟨named, same⟩ := Option.ite_none_right_eq_some.mp written
    cases same
    have starts : start (.word name) = .leaf (.placeholder name) := if_pos named
    rw [List.singleton_append, parse]
    dsimp only
    rw [starts]
  | column table name =>
    cases written
    rw [List.cons_append, List.cons_append, List.singleton_append, parse]
    exact loopAfter_of_lt (Nat.lt_add_of_pos_right (Nat.succ_pos 2)) p _
  | _ => cases written

/-- Phrases with commas between them are read one by one. -/
theorem items {parts : List (List Token × Phrase)} (some : parts ≠ [])
    (each : ∀ part ∈ parts, Parses d 0 0 part.1 part.2) (rest : List Token) :
    Grammar.items d (separated (parts.map Prod.fst) ++ .symbol ")" :: rest) = .some (parts.map Prod.snd, rest) := by
  unfold separated
  induction parts with
  | nil => exact absurd rfl some
  | cons part parts later =>
    obtain ⟨here, others⟩ := List.forall_mem_cons.mp each
    cases parts with
    | nil =>
      have read := here.ends (.symbol ")") (rest) rfl
      rw [List.map_singleton, List.intercalate_singleton, Grammar.items, read]
      rfl
    | cons next parts =>
      have read := here.ends (.symbol ",")
        ([Token.symbol ","].intercalate ((next :: parts).map Prod.fst) ++ .symbol ")" :: rest) rfl
      have after := later (List.cons_ne_nil next parts) others
      rw [List.map_cons, List.map_cons, List.intercalate_cons_cons, ← List.map_cons, List.append_assoc,
        List.append_assoc, List.singleton_append, Grammar.items, read]
      dsimp only [bind, Option.bind]
      rw [expect_self]
      dsimp only
      rw [itemsAfter_of_lt, after]
      · rfl
      · simp only [List.length_cons, List.length_append]
        omega

/-- A call is read up to its closing parenthesis. -/
theorem call {name : String} (free : isFunction name = true) {parts : List (List Token × Phrase)}
    (started : ∀ part ∈ parts, ∃ t us, part.1 = t :: us ∧ start t ≠ .nothing)
    (each : ∀ part ∈ parts, Parses d 0 0 part.1 part.2) :
    Parses d front behind ([.word name, .symbol "("] ++ separated (parts.map Prod.fst) ++ [.symbol ")"])
      (.call name (parts.map Prod.snd)) := by
  intro p _ rest _
  rw [List.append_assoc, List.append_assoc, List.cons_append, List.singleton_append, parse]
  dsimp only
  rw [start_function free]
  dsimp only
  rw [expect_self]
  dsimp only [bind, Option.bind]
  cases parts with
  | nil => exact (if_pos rfl).trans (loopAfter_of_lt (Nat.lt_add_of_pos_right (Nat.succ_pos 2)) p _)
  | cons part parts =>
    have first : (separated ((part :: parts).map Prod.fst) ++ .symbol ")" :: rest).head? ≠ some (.symbol ")") := by
      obtain ⟨t, us, written, starts⟩ := started part List.mem_cons_self
      obtain ⟨vs, begun⟩ := separated_cons (parts.map Prod.fst) written
      rw [List.map_cons, begun]
      intro same
      cases same
      exact starts rfl
    rw [List.singleton_append, if_neg first, itemsAfter_of_lt, items (List.cons_ne_nil part parts) each]
    · refine loopAfter_of_lt ?_ p _
      simp only [List.length_cons, List.length_append]
      omega
    · exact Nat.lt_add_of_pos_right Nat.two_pos

/-- Inside the parentheses of a conversion everything is read. -/
theorem cast {type : List Token} (inner : Parses d 0 0 ts x) (typed : isType type = true) :
    Parses d front behind ([.word "CAST", .symbol "("] ++ ts ++ [.word "AS"] ++ type ++ [.symbol ")"])
      (.cast x type) := by
  intro p _ rest _
  have read := inner.ends (.word "AS") (type ++ .symbol ")" :: rest) rfl
  simp only [List.append_assoc, List.cons_append, List.nil_append]
  rw [parse]
  change ((parseAfter d _ 0 (ts ++ .word "AS" :: (type ++ .symbol ")" :: rest))).bind fun xr => _) = _
  rw [parseAfter_of_lt (Nat.lt_add_of_pos_right Nat.two_pos), read, Option.bind_some]
  dsimp only [bind]
  rw [expect_self, Option.bind_some, type?_append typed, Option.bind_some]
  dsimp only
  rw [expect_self, Option.bind_some, loopAfter_of_lt]
  simp only [List.length_cons, List.length_append]
  omega

/-- Between the words of a choice everything is read. -/
theorem choice {cs : List Token} {c : Phrase} (condition : Parses d 0 0 cs c) (yes : Parses d 0 0 ts x)
    (no : Parses d 0 0 us y) :
    Parses d front behind
      ([.word "CASE", .word "WHEN"] ++ cs ++ [.word "THEN"] ++ ts ++ [.word "ELSE"] ++ us ++ [.word "END"])
      (.choice c x y) := by
  intro p _ rest _
  have first := condition.ends (.word "THEN") (ts ++ .word "ELSE" :: (us ++ .word "END" :: rest)) rfl
  have second := yes.ends (.word "ELSE") (us ++ .word "END" :: rest) rfl
  have third := no.ends (.word "END") (rest) rfl
  simp only [List.append_assoc, List.cons_append, List.nil_append]
  rw [parse]
  change ((parseAfter d _ 0 (cs ++ .word "THEN" :: (ts ++ .word "ELSE" :: (us ++ .word "END" :: rest)))).bind
    fun cr => _) = _
  rw [parseAfter_of_lt (Nat.lt_add_of_pos_right Nat.two_pos), first, Option.bind_some]
  dsimp only [bind]
  rw [expect_self, Option.bind_some, parseAfter_of_lt, second, Option.bind_some]
  · dsimp only
    rw [expect_self, Option.bind_some, parseAfter_of_lt, third, Option.bind_some]
    · dsimp only
      rw [expect_self, Option.bind_some, loopAfter_of_lt]
      simp only [List.length_cons, List.length_append]
      omega
    · simp only [List.length_cons, List.length_append]
      omega
  · simp only [List.length_cons, List.length_append]
    omega

/-- Inside parentheses everything is read, and they are forgotten. -/
theorem parenthesized (inner : Parses d 0 0 ts x) :
    Parses d front behind ([.symbol "("] ++ ts ++ [.symbol ")"]) x := by
  intro p _ rest _
  have read := inner.ends (.symbol ")") (rest) rfl
  simp only [List.append_assoc, List.cons_append, List.nil_append]
  rw [parse]
  change ((parse d 0 (ts ++ .symbol ")" :: rest)).bind fun xr => _) = _
  rw [read, Option.bind_some]
  dsimp only [bind]
  rw [expect_self, Option.bind_some, loopAfter_of_lt]
  simp only [List.length_cons, List.length_append]
  omega

/-- An operator is tighter than what is in front of it and at least as tight as what follows. -/
theorem binary {op : BinaryOp} (looser : front < d.level op) (noTighter : behind ≤ d.level op)
    (left : Parses d front (d.level op) ts x) (right : Parses d (d.level op) behind us y) :
    Parses d front behind (ts ++ (Operator.binary op).tokens ++ us) (.binary op x y) := by
  intro p below rest low
  have here : lead d ((Operator.binary op).tokens ++ (us ++ rest)) ≤ d.level op := Nat.le_of_eq (lead_tokens d _ _)
  rw [List.append_assoc, List.append_assoc, left p below _ here]
  exact loop_binary (Nat.lt_of_le_of_lt below looser) (right.stops low (Nat.le_trans low noTighter))
    (List.suffix_append us rest).length_le

/-- A negation is tighter than what follows it. -/
theorem negation (looser : behind < Dialect.notLevel) (inner : Parses d Dialect.notLevel behind ts x) :
    Parses d front behind ([.word "NOT"] ++ ts) (.negation x) := by
  intro p _ rest low
  rw [List.singleton_append, List.cons_append, parse]
  change ((parse d Dialect.notLevel (ts ++ rest)).bind fun xr => _) = _
  rw [inner.stops low (Nat.le_of_lt (Nat.lt_of_le_of_lt low looser)), Option.bind_some]
  exact loopAfter_of_lt (Nat.lt_succ_of_le (List.suffix_append ts rest).length_le) p _

/-- A null test is tighter than what is in front of it. -/
theorem nullTest {negated : Bool} (looser : front < Dialect.predicateLevel)
    (inner : Parses d front Dialect.predicateLevel ts x) :
    Parses d front behind (ts ++ (Operator.nullTest negated).tokens) (.nullTest x negated) := by
  intro p below rest _
  have here : lead d ((Operator.nullTest negated).tokens ++ rest) ≤ Dialect.predicateLevel :=
    Nat.le_of_eq (lead_tokens d _ _)
  rw [List.append_assoc, inner p below _ here, loop_nullTest (Nat.lt_of_le_of_lt below looser)]

/-- A list is tighter than what is in front of it, and its items are read inside parentheses. -/
theorem inList {negated : Bool} (looser : front < Dialect.predicateLevel)
    (inner : Parses d front Dialect.predicateLevel ts x) {parts : List (List Token × Phrase)} (some : parts ≠ [])
    (each : ∀ part ∈ parts, Parses d 0 0 part.1 part.2) :
    Parses d front behind (ts ++ (Operator.inList negated).tokens ++ separated (parts.map Prod.fst) ++ [.symbol ")"])
      (.inList x (parts.map Prod.snd) negated) := by
  intro p below rest _
  have here : lead d ((Operator.inList negated).tokens ++ (separated (parts.map Prod.fst) ++ .symbol ")" :: rest)) ≤
      Dialect.predicateLevel := Nat.le_of_eq (lead_tokens d _ _)
  rw [List.append_assoc, List.append_assoc, List.append_assoc, List.singleton_append, inner p below _ here]
  refine loop_inList (Nat.lt_of_le_of_lt below looser) negated (items some each rest) ?_
  rw [List.length_append]
  exact Nat.le_trans (Nat.le_succ _) (Nat.le_add_left _ _)

/-- A pattern match is an operator of the level of predicates. -/
theorem like (looser : front < Dialect.predicateLevel) (noTighter : behind ≤ Dialect.predicateLevel)
    (subject : Parses d front Dialect.predicateLevel ts x) (pattern : Parses d Dialect.predicateLevel behind us y) :
    Parses d front behind (ts ++ Operator.like.tokens ++ us) (.like x y none) := by
  intro p below rest low
  have here : lead d (Operator.like.tokens ++ (us ++ rest)) ≤ Dialect.predicateLevel := Nat.le_of_eq (lead_tokens d _ _)
  have stop := Nat.le_trans low noTighter
  rw [List.append_assoc, List.append_assoc, subject p below _ here]
  exact loop_like (Nat.lt_of_le_of_lt below looser) (pattern.stops low stop) (List.suffix_append us rest).length_le stop

/-- The escape of a pattern match is read behind its pattern. -/
theorem escaped {vs : List Token} {z : Phrase} (looser : front < Dialect.predicateLevel)
    (noTighter : behind ≤ Dialect.predicateLevel) (subject : Parses d front Dialect.predicateLevel ts x)
    (pattern : Parses d Dialect.predicateLevel Dialect.escapeLevel us y)
    (escape : Parses d Dialect.predicateLevel behind vs z) :
    Parses d front behind (ts ++ Operator.like.tokens ++ us ++ [.word "ESCAPE"] ++ vs) (.like x y (some z)) := by
  intro p below rest low
  have here : lead d (Operator.like.tokens ++ (us ++ .word "ESCAPE" :: (vs ++ rest))) ≤ Dialect.predicateLevel :=
    Nat.le_of_eq (lead_tokens d _ _)
  -- no loop takes an escape clause, so the pattern ends before it
  have before : parse d Dialect.predicateLevel (us ++ .word "ESCAPE" :: (vs ++ rest)) =
      some (y, .word "ESCAPE" :: (vs ++ rest)) := by
    rw [pattern _ (Nat.le_refl _) _ (Nat.le_refl _), loop]
    rfl
  have after := escape.stops low (Nat.le_trans low noTighter)
  rw [List.append_assoc, List.append_assoc, List.append_assoc, List.append_assoc, List.singleton_append,
    subject p below _ here]
  refine loop_escaped (Nat.lt_of_le_of_lt below looser) before after ?_ (List.suffix_append vs rest).length_le
  exact (List.suffix_append us (.word "ESCAPE" :: (vs ++ rest))).length_le

end Parses

/-! ## One reading -/

namespace Reads

variable {place : Place} {front behind : Nat} {ts : List Token} {x y : Phrase}

/-- A phrase begins with a token that a phrase can begin with. -/
theorem started (read : Reads d place front behind ts x) : ∃ t us, ts = t :: us ∧ start t ≠ .nothing := by
  have more : ∀ {ts us : List Token}, (∃ t vs, ts = t :: vs ∧ start t ≠ .nothing) →
      ∃ t vs, ts ++ us = t :: vs ∧ start t ≠ .nothing := by
    rintro ts us ⟨t, vs, rfl, starts⟩
    exact ⟨t, vs ++ us, rfl, starts⟩
  induction read with
  | @leaf _ _ _ x written =>
    cases x with
    | number negative text =>
      cases written
      cases negative <;> exact ⟨_, _, rfl, by simp [start]⟩
    | placeholder name =>
      obtain ⟨named, same⟩ := Option.ite_none_right_eq_some.mp written
      cases same
      exact ⟨_, _, rfl, by simp [start, named]⟩
    | null =>
      cases written
      exact ⟨_, _, rfl, fun same => by cases same⟩
    | string | blob | column =>
      cases written
      exact ⟨_, _, rfl, by simp [start]⟩
    | _ => cases written
  | call free => exact ⟨_, _, rfl, by simp [start_function free]⟩
  | cast | choice | parenthesized | negation => exact ⟨_, _, rfl, fun same => by cases same⟩
  | binary _ _ _ _ left _ => exact more (more left)
  | nullTest _ _ _ inner => exact more inner
  | inList _ _ _ _ _ _ inner _ => exact more (more (more inner))
  | like _ _ _ _ subject _ => exact more (more subject)
  | escaped _ _ _ _ _ subject _ _ => exact more (more (more (more subject)))

/-- What the grammar reads, the reader finds. -/
theorem parses (read : Reads d place front behind ts x) : Parses d front behind ts x := by
  induction read with
  | leaf written => exact .leaf written
  | call free items each reads => exact .call free (fun item member => (each item member).started) reads
  | cast _ typed inner => exact .cast inner typed
  | choice _ _ _ condition yes no => exact .choice condition yes no
  | parenthesized _ inner => exact .parenthesized inner
  | binary looser noTighter _ _ left right => exact .binary looser noTighter left right
  | negation looser _ inner => exact .negation looser inner
  | nullTest looser _ _ inner => exact .nullTest looser inner
  | inList looser _ _ items some _ inner each => exact .inList looser inner some each
  | like looser noTighter _ _ subject pattern => exact .like looser noTighter subject pattern
  | escaped looser noTighter _ _ _ subject pattern escape => exact .escaped looser noTighter subject pattern escape

end Reads

end Grammar

end SqlShape
