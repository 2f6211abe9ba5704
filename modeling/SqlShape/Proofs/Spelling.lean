import Mathlib.Algebra.GroupWithZero.Nat
import SqlShape.Proofs.Grammar

/-!
# The tokens of a phrase

A phrase may be written with more parentheses or fewer, but it has the same other tokens, and its parentheses pair up:
the tokens spell the phrase (`Spells`). So do the tokens that are read as it (`Reads.spells`).

Where two operands are known to stand on both sides of an operator, tokens that are read as this operator are divided
at the same place (`append_inj_of_size`), and no pair of parentheses is around the whole of them
(`not_parenthesized`). So a reading is taken apart as its tokens were put together.
-/

namespace SqlShape

/-- A parenthesis. -/
def Token.isParenthesis : Token → Bool
  | .symbol s => s == "(" || s == ")"
  | _ => false

namespace Grammar

/-! ## Parentheses -/

/-- How many parentheses are open behind tokens, where `n` are open before them; `none` where one is closed that was not
opened. -/
def depth : Nat → List Token → Option Nat
  | n, [] => some n
  | n, t :: ts =>
    if t = .symbol "(" then depth (n + 1) ts
    else if t = .symbol ")" then if 0 < n then depth (n - 1) ts else none
    else depth n ts

/-- All parentheses pair up. -/
def Balanced (ts : List Token) : Prop :=
  ∀ n, depth n ts = some n

variable {ts us : List Token} {t : Token}

/-- A parenthesis that opens goes one deeper. -/
theorem depth_open (n : Nat) (ts : List Token) : depth n (.symbol "(" :: ts) = depth (n + 1) ts := by
  rw [depth, if_pos rfl]

/-- A parenthesis that closes goes back one. -/
theorem depth_close (n : Nat) (ts : List Token) : depth (n + 1) (.symbol ")" :: ts) = depth n ts := by
  rw [depth, if_neg (by decide), if_pos rfl, if_pos (Nat.succ_pos n), Nat.add_sub_cancel]

theorem depth_plain (plain : t.isParenthesis = false) (n : Nat) (ts : List Token) : depth n (t :: ts) = depth n ts := by
  have noOpening : t ≠ .symbol "(" := by
    rintro rfl
    cases plain
  have noClosing : t ≠ .symbol ")" := by
    rintro rfl
    cases plain
  rw [depth, if_neg noOpening, if_neg noClosing]

/-- A token is a parenthesis of one of the two kinds or none. -/
theorem token_cases (t : Token) : t = .symbol "(" ∨ t = .symbol ")" ∨ t.isParenthesis = false := by
  cases t with
  | symbol s =>
    by_cases opening : s = "("
    · exact .inl (congrArg Token.symbol opening)
    · by_cases closing : s = ")"
      · exact .inr (.inl (congrArg Token.symbol closing))
      · exact .inr (.inr (by simp only [Token.isParenthesis, beq_eq_false_iff_ne.mpr opening,
          beq_eq_false_iff_ne.mpr closing, Bool.or_self]))
  | _ => exact .inr (.inr rfl)

/-- The depth behind a text is the start for what follows. -/
theorem depth_append (n : Nat) (ts us : List Token) : depth n (ts ++ us) = (depth n ts).bind fun m => depth m us := by
  induction ts generalizing n with
  | nil => rfl
  | cons t ts later =>
    rw [List.cons_append]
    rcases token_cases t with rfl | rfl | plain
    · rw [depth_open, depth_open, later]
    · cases n with
      | zero => rfl
      | succ n => rw [depth_close, depth_close, later]
    · rw [depth_plain plain, depth_plain plain, later]

/-- One more open parenthesis stays open. -/
theorem depth_succ {n m : Nat} (reached : depth n ts = some m) : depth (n + 1) ts = some (m + 1) := by
  induction ts generalizing n with
  | nil =>
    cases reached
    rfl
  | cons t ts later =>
    rcases token_cases t with rfl | rfl | plain
    · rw [depth_open] at reached ⊢
      exact later reached
    · cases n with
      | zero => cases reached
      | succ n =>
        rw [depth_close] at reached ⊢
        exact later reached
    · rw [depth_plain plain] at reached ⊢
      exact later reached

/-- Balanced texts in a row are balanced. -/
theorem balanced_append (first : Balanced ts) (second : Balanced us) : Balanced (ts ++ us) := by
  intro n
  rw [depth_append, first n, Option.bind_some, second n]

/-- A text without parentheses is balanced. -/
theorem balanced_plain (plain : ∀ t ∈ ts, t.isParenthesis = false) : Balanced ts := by
  intro n
  induction ts with
  | nil => rfl
  | cons t ts later =>
    obtain ⟨here, others⟩ := List.forall_mem_cons.mp plain
    rw [depth_plain here, later others]

/-- Parentheses around a balanced text are balanced. -/
theorem balanced_parenthesized (inner : Balanced ts) : Balanced ([.symbol "("] ++ ts ++ [.symbol ")"]) := by
  intro n
  rw [List.append_assoc, List.singleton_append, depth_open, depth_append, inner (n + 1), Option.bind_some, depth_close]
  rfl

/-- No pair of parentheses is around the whole of tokens that begin with balanced ones. -/
theorem not_parenthesized {inner : List Token} (balanced : Balanced ts) (some : ts ≠ []) (more : us ≠ [])
    (paired : Balanced inner) : ts ++ us ≠ [.symbol "("] ++ inner ++ [.symbol ")"] := by
  intro same
  cases ts with
  | nil => exact some rfl
  | cons t ts =>
    rw [List.cons_append, List.append_assoc, List.singleton_append] at same
    obtain ⟨rfl, tail⟩ := List.cons.inj same
    -- what is behind the opening parenthesis would close it too early
    obtain ⟨rest, rfl⟩ : ∃ rest, inner = ts ++ rest := by
      rcases List.append_eq_append_iff.mp tail with ⟨rest, inner, -⟩ | ⟨rest, whole, last⟩
      · exact ⟨rest, inner⟩
      · cases rest with
        | nil => exact ⟨[], by rw [whole, List.append_nil, List.append_nil]⟩
        | cons t rest =>
          rw [List.cons_append] at last
          obtain ⟨-, empty⟩ := List.append_eq_nil_iff.mp (List.cons.inj last).2.symm
          exact absurd empty more
    have early := balanced 0
    rw [depth_open] at early
    have whole := paired 0
    rw [depth_append] at whole
    obtain ⟨m, reached, -⟩ := Option.bind_eq_some_iff.mp whole
    rw [depth_succ reached] at early
    cases early

/-! ## Other tokens -/

/-- The number of tokens that are no parentheses. -/
def size (ts : List Token) : Nat :=
  ts.countP fun t => !t.isParenthesis

/-- Sizes add up. -/
theorem size_append (ts us : List Token) : size (ts ++ us) = size ts + size us :=
  List.countP_append

theorem size_cons (plain : t.isParenthesis = false) (ts : List Token) : size (t :: ts) = size ts + 1 :=
  List.countP_cons_of_pos (by rw [plain]; rfl)

/-- Tokens do not go on with a parenthesis. -/
def Divides (ts : List Token) : Prop :=
  ∀ t ∈ ts.head?, t.isParenthesis = false

/-- Tokens are divided in one way into a part of a given size and a part that does not begin with a parenthesis. -/
theorem append_inj_of_size {ts' us' : List Token} (same : ts ++ us = ts' ++ us') (sizes : size ts = size ts')
    (divides : Divides us) (divides' : Divides us') : ts = ts' ∧ us = us' := by
  have stops : ∀ {ts us more rest : List Token},
      size ts = size (ts ++ more) → us = more ++ rest → Divides us → more = [] := by
    intro ts us more rest sizes begins divides
    cases more with
    | nil => rfl
    | cons t more =>
      have plain := divides t (by rw [begins]; rfl)
      rw [size_append, size_cons plain] at sizes
      omega
  rcases List.append_eq_append_iff.mp same with ⟨more, longer, behind⟩ | ⟨more, longer, behind⟩
  · obtain rfl := stops (longer ▸ sizes) behind divides
    rw [List.append_nil] at longer
    exact ⟨longer.symm, behind⟩
  · obtain rfl := stops (longer ▸ sizes.symm) behind divides'
    rw [List.append_nil] at longer
    exact ⟨longer, behind.symm⟩

/-! ## Parts with commas between them -/

/-- Each part counts one more for the comma behind it, but the last. -/
theorem size_separated (parts : List (List Token)) :
    size (separated parts) = (parts.map fun part => size part + 1).sum - 1 := by
  unfold separated
  induction parts with
  | nil => rfl
  | cons part parts later =>
    cases parts with
    | nil =>
      rw [List.intercalate_singleton, List.map_singleton, List.sum_singleton]
      rfl
    | cons next parts =>
      have comma : size [.symbol ","] = 1 := rfl
      simp only [List.map_cons, List.sum_cons] at later ⊢
      rw [List.intercalate_cons_cons, size_append, size_append, later, comma]
      omega

/-- Parts of the same sizes make texts of the same size. -/
theorem size_separated_congr {parts parts' : List (List Token)} (sizes : parts.map size = parts'.map size) :
    size (separated parts) = size (separated parts') := by
  have sums := congrArg (fun sizes => (sizes.map (· + 1)).sum - 1) sizes
  simp only [List.map_map] at sums
  rw [size_separated, size_separated]
  exact sums

/-- Balanced parts make a balanced text. -/
theorem balanced_separated {parts : List (List Token)} (each : ∀ part ∈ parts, Balanced part) :
    Balanced (separated parts) := by
  unfold separated
  induction parts with
  | nil => exact fun n => rfl
  | cons part parts later =>
    obtain ⟨here, others⟩ := List.forall_mem_cons.mp each
    cases parts with
    | nil =>
      rw [List.intercalate_singleton]
      exact here
    | cons next parts =>
      have comma : Balanced [.symbol ","] := fun n => rfl
      rw [List.intercalate_cons_cons]
      exact balanced_append (balanced_append here comma) (later others)

/-- Parts of the same sizes that make the same tokens are the same. -/
theorem separated_inj {parts parts' : List (List Token)} (sizes : parts.map size = parts'.map size)
    (same : separated parts = separated parts') : parts = parts' := by
  unfold separated at same
  induction parts generalizing parts' with
  | nil => exact (List.map_eq_nil_iff.mp sizes.symm).symm
  | cons part parts later =>
    cases parts' with
    | nil => cases sizes
    | cons part' parts' =>
      obtain ⟨first, rest⟩ := List.cons.inj sizes
      cases parts with
      | nil =>
        obtain rfl := List.map_eq_nil_iff.mp rest.symm
        rw [List.intercalate_singleton, List.intercalate_singleton] at same
        rw [same]
      | cons next parts =>
        cases parts' with
        | nil => cases rest
        | cons next' parts' =>
          have comma : ∀ ts, Divides ([.symbol ","] ++ ts) := fun ts t member => by cases member; rfl
          rw [List.intercalate_cons_cons, List.intercalate_cons_cons, List.append_assoc, List.append_assoc] at same
          obtain ⟨rfl, tail⟩ := append_inj_of_size same first (comma _) (comma _)
          rw [later rest (List.append_cancel_left tail)]

end Grammar

open Grammar

mutual
/-- The number of tokens of a phrase that are no parentheses. -/
def Phrase.size : Phrase → Nat
  | .null | .string _ _ | .blob _ | .placeholder _ => 1
  | .number negative _ => if negative then 2 else 1
  | .column _ _ => 3
  | .call _ xs => 1 + (Phrase.sizes xs - 1)
  | .cast x type => 1 + x.size + 1 + Grammar.size type
  | .choice c x y => 2 + c.size + 1 + x.size + 1 + y.size + 1
  | .binary _ x y => x.size + 1 + y.size
  | .negation x => 1 + x.size
  | .nullTest x negated => x.size + if negated then 3 else 2
  | .inList x xs negated => x.size + (if negated then 2 else 1) + (Phrase.sizes xs - 1)
  | .like x y escape => x.size + 1 + y.size + Phrase.sizeOption escape
/-- The number of tokens of phrases in a row, with a comma behind each. -/
def Phrase.sizes : List Phrase → Nat
  | [] => 0
  | x :: xs => x.size + 1 + Phrase.sizes xs
/-- The number of tokens of an escape clause. -/
def Phrase.sizeOption : Option Phrase → Nat
  | none => 0
  | some x => 1 + x.size
end

/-- The mutual recursion over the items of a phrase is a sum. -/
theorem Phrase.sizes_eq_sum (xs : List Phrase) : Phrase.sizes xs = (xs.map fun x => x.size + 1).sum := by
  induction xs with
  | nil => rfl
  | cons x xs later => rw [sizes, later, List.map_cons, List.sum_cons]

/-- Every phrase has a token that is no parenthesis. -/
theorem Phrase.size_pos (x : Phrase) : 0 < x.size := by
  cases x with
  | number | nullTest | inList =>
    rw [Phrase.size]
    split <;> omega
  | _ =>
    rw [Phrase.size]
    omega

namespace Grammar

/-- The tokens are those of the phrase, with parentheses that pair up. -/
structure Spells (ts : List Token) (x : Phrase) : Prop where
  size : size ts = x.size
  balanced : Balanced ts

/-- A phrase without parts has no parentheses. -/
theorem plain_leaf {ts : List Token} {x : Phrase} (written : leaf? x = some ts) :
    (∀ t ∈ ts, t.isParenthesis = false) ∧ size ts = x.size := by
  cases x with
  | number negative text =>
    cases written
    cases negative <;> simp [Phrase.size, Token.isParenthesis, size]
  | placeholder name =>
    obtain ⟨-, same⟩ := Option.ite_none_right_eq_some.mp written
    cases same
    simp [Phrase.size, Token.isParenthesis, size]
  | null | string | blob | column =>
    cases written
    simp [Phrase.size, Token.isParenthesis, size]
  | _ => cases written

namespace Spells

variable {ts us vs : List Token} {x y z : Phrase}

/-- Nothing is spelled by no token. -/
theorem ne_nil (spelled : Spells ts x) : ts ≠ [] := by
  rintro rfl
  exact absurd spelled.size (Nat.ne_of_lt x.size_pos)

theorem leaf (written : leaf? x = some ts) : Spells ts x := by
  obtain ⟨plain, size⟩ := plain_leaf written
  exact ⟨size, balanced_plain plain⟩

/-- Parentheses do not count. -/
theorem parenthesized (inner : Spells ts x) : Spells ([.symbol "("] ++ ts ++ [.symbol ")"]) x := by
  refine ⟨?_, balanced_parenthesized inner.balanced⟩
  rw [size_append, size_append, inner.size]
  exact Nat.zero_add _

/-- The sizes of parts are those of their phrases. -/
theorem map_size {items : List (List Token × Phrase)} (each : ∀ item ∈ items, Spells item.1 item.2) :
    (items.map Prod.fst).map Grammar.size = (items.map Prod.snd).map Phrase.size := by
  rw [List.map_map, List.map_map]
  exact List.map_congr_left fun item member => (each item member).size

/-- Phrases with commas between them. -/
theorem separated {items : List (List Token × Phrase)} (each : ∀ item ∈ items, Spells item.1 item.2) :
    Grammar.size (Grammar.separated (items.map Prod.fst)) = Phrase.sizes (items.map Prod.snd) - 1 ∧
      Balanced (Grammar.separated (items.map Prod.fst)) := by
  constructor
  · have sizes := congrArg (fun sizes => (sizes.map (· + 1)).sum - 1) (map_size each)
    simp only [List.map_map] at sizes
    rw [size_separated, Phrase.sizes_eq_sum, List.map_map, List.map_map]
    exact sizes
  · exact balanced_separated (List.forall_mem_map.mpr fun item member => (each item member).balanced)

/-- A call is spelled by its name and its arguments. -/
theorem call (name : String) {items : List (List Token × Phrase)} (each : ∀ item ∈ items, Spells item.1 item.2) :
    Spells ([.word name, .symbol "("] ++ Grammar.separated (items.map Prod.fst) ++ [.symbol ")"])
      (.call name (items.map Prod.snd)) := by
  obtain ⟨size, balanced⟩ := separated each
  constructor
  · rw [size_append, size_append, size, Phrase.size]
    rfl
  · have opening : Balanced [.word name] := fun n => rfl
    have whole := balanced_append opening (balanced_parenthesized balanced)
    simpa only [List.append_assoc, List.cons_append, List.nil_append] using whole

/-- A conversion is spelled by its operand and its type. -/
theorem cast {type : List Token} (inner : Spells ts x) (typed : isType type = true) :
    Spells ([.word "CAST", .symbol "("] ++ ts ++ [.word "AS"] ++ type ++ [.symbol ")"]) (.cast x type) := by
  have paired : Balanced type := by
    unfold isType at typed
    split at typed
    · exact fun n => rfl
    · exact fun n => rfl
    · exact fun n => rfl
    · cases typed
  constructor
  · simp only [size_append, inner.size, Phrase.size]
    rfl
  · have opening : Balanced [.word "CAST"] := fun n => rfl
    have label : Balanced [.word "AS"] := fun n => rfl
    have whole := balanced_append opening
      (balanced_parenthesized (balanced_append (balanced_append inner.balanced label) paired))
    simpa only [List.append_assoc, List.cons_append, List.nil_append] using whole

/-- A choice is spelled by its condition and its two outcomes. -/
theorem choice {c : Phrase} {cs : List Token} (condition : Spells cs c) (yes : Spells ts x) (no : Spells us y) :
    Spells ([.word "CASE", .word "WHEN"] ++ cs ++ [.word "THEN"] ++ ts ++ [.word "ELSE"] ++ us ++ [.word "END"])
      (.choice c x y) := by
  constructor
  · simp only [size_append, condition.size, yes.size, no.size, Phrase.size]
    rfl
  · have opening : Balanced [.word "CASE", .word "WHEN"] := fun n => rfl
    have word : ∀ w, Balanced [.word w] := fun w n => rfl
    have first := balanced_append (balanced_append opening condition.balanced) (word "THEN")
    have second := balanced_append (balanced_append first yes.balanced) (word "ELSE")
    exact balanced_append (balanced_append second no.balanced) (word "END")

/-- An operand, an operator without parentheses and what is behind it. -/
theorem balanced_operator (o : Operator) (plain : ∀ t ∈ o.tokens, t.isParenthesis = false) (first : Balanced ts)
    (second : Balanced us) : Balanced (ts ++ o.tokens ++ us) :=
  balanced_append (balanced_append first (balanced_plain plain)) second

/-- An operator is spelled between its operands. -/
theorem binary {op : BinaryOp} (left : Spells ts x) (right : Spells us y) :
    Spells (ts ++ (Operator.binary op).tokens ++ us) (.binary op x y) := by
  constructor
  · rw [size_append, size_append, left.size, right.size, Phrase.size]
    cases op <;> rfl
  · refine balanced_operator _ ?_ left.balanced right.balanced
    cases op <;> decide

theorem negation (inner : Spells ts x) : Spells ([.word "NOT"] ++ ts) (.negation x) := by
  constructor
  · rw [size_append, inner.size, Phrase.size]
    rfl
  · exact balanced_append (fun n => rfl) inner.balanced

theorem nullTest {negated : Bool} (inner : Spells ts x) :
    Spells (ts ++ (Operator.nullTest negated).tokens) (.nullTest x negated) := by
  constructor
  · rw [size_append, inner.size, Phrase.size]
    cases negated <;> rfl
  · refine balanced_append inner.balanced (balanced_plain ?_)
    cases negated <;> decide

/-- A list is spelled behind its item. -/
theorem inList {negated : Bool} (inner : Spells ts x) {items : List (List Token × Phrase)}
    (each : ∀ item ∈ items, Spells item.1 item.2) :
    Spells (ts ++ (Operator.inList negated).tokens ++ Grammar.separated (items.map Prod.fst) ++ [.symbol ")"])
      (.inList x (items.map Prod.snd) negated) := by
  obtain ⟨size, balanced⟩ := separated each
  constructor
  · rw [size_append, size_append, size_append, inner.size, size, Phrase.size]
    cases negated <;> rfl
  · have words : Balanced ((if negated then [.word "NOT"] else []) ++ [.word "IN"]) := by
      cases negated <;> exact fun n => rfl
    have whole := balanced_append (balanced_append inner.balanced words) (balanced_parenthesized balanced)
    simpa only [Operator.tokens, List.append_assoc, List.cons_append, List.nil_append] using whole

theorem like (subject : Spells ts x) (pattern : Spells us y) :
    Spells (ts ++ Operator.like.tokens ++ us) (.like x y none) := by
  constructor
  · rw [size_append, size_append, subject.size, pattern.size, Phrase.size, Phrase.sizeOption]
    rfl
  · exact balanced_operator .like (by decide) subject.balanced pattern.balanced

/-- A pattern match with an escape has it at the end. -/
theorem escaped (subject : Spells ts x) (pattern : Spells us y) (escape : Spells vs z) :
    Spells (ts ++ Operator.like.tokens ++ us ++ [.word "ESCAPE"] ++ vs) (.like x y (some z)) := by
  constructor
  · simp only [size_append, subject.size, pattern.size, escape.size, Phrase.size, Phrase.sizeOption]
    exact Nat.add_assoc _ 1 _
  · have matched := balanced_operator .like (by decide) subject.balanced pattern.balanced
    have word : Balanced [.word "ESCAPE"] := fun n => rfl
    exact balanced_append (balanced_append matched word) escape.balanced

end Spells

/-- Tokens that are read as a phrase spell it. -/
theorem Reads.spells {d : Dialect} {place : Place} {front behind : Nat} {ts : List Token} {x : Phrase}
    (read : Reads d place front behind ts x) : Spells ts x := by
  induction read with
  | leaf written => exact .leaf written
  | call _ items _ each => exact .call _ each
  | cast _ typed inner => exact .cast inner typed
  | choice _ _ _ condition yes no => exact .choice condition yes no
  | parenthesized _ inner => exact .parenthesized inner
  | binary _ _ _ _ left right => exact .binary left right
  | negation _ _ inner => exact .negation inner
  | nullTest _ _ _ inner => exact .nullTest inner
  | inList _ _ _ items _ _ inner each => exact .inList inner each
  | like _ _ _ _ subject pattern => exact .like subject pattern
  | escaped _ _ _ _ _ subject pattern escape => exact .escaped subject pattern escape

/-! ## Readings taken apart -/

/-- Parts that spell the same phrases and make the same tokens are the same. -/
theorem items_inj {items items' : List (List Token × Phrase)} (each : ∀ item ∈ items, Spells item.1 item.2)
    (each' : ∀ item ∈ items', Spells item.1 item.2) (phrases : items.map Prod.snd = items'.map Prod.snd)
    (same : separated (items.map Prod.fst) = separated (items'.map Prod.fst)) : items = items' := by
  have sizes : (items.map Prod.fst).map size = (items'.map Prod.fst).map size := by
    rw [Spells.map_size each, Spells.map_size each', phrases]
  have tokens := separated_inj sizes same
  rw [← List.zip_unzip items, ← List.zip_unzip items', List.unzip_eq_map, List.unzip_eq_map, tokens, phrases]

theorem tokens_ne_nil (o : Operator) : o.tokens ≠ [] := by
  cases o with
  | binary | like => exact List.cons_ne_nil _ _
  | nullTest => exact List.cons_ne_nil _ _
  | inList negated => cases negated <;> exact List.cons_ne_nil _ _

namespace Reads

variable {d : Dialect} {place : Place} {front behind : Nat} {ts us vs : List Token} {x y z : Phrase}

/-- No pair of parentheses is around the whole where an operator is behind an operand. -/
theorem not_parenthesized_operator (o : Operator) (spelled : Spells ts x) (balanced : Balanced us)
    (begins : ts ++ o.tokens <+: [.symbol "("] ++ us ++ [.symbol ")"]) : False := by
  obtain ⟨rest, same⟩ := begins
  have more : o.tokens ++ rest ≠ [] := List.append_ne_nil_of_left_ne_nil (tokens_ne_nil o) rest
  rw [List.append_assoc] at same
  exact not_parenthesized spelled.balanced spelled.ne_nil more balanced same

/-- What is read in parentheses is read without them. -/
theorem of_parenthesized (balanced : Balanced ts)
    (read : Reads d place front behind ([.symbol "("] ++ ts ++ [.symbol ")"]) x) : Reads d place 0 0 ts x := by
  generalize same : [.symbol "("] ++ ts ++ [.symbol ")"] = whole at read
  have apart : ∀ (o : Operator) {us : List Token} {y : Phrase}, Spells us y → ¬ us ++ o.tokens <+: whole := by
    intro o us y spelled begins
    rw [← same] at begins
    exact not_parenthesized_operator o spelled balanced begins
  cases read with
  | leaf written =>
    have plain := (plain_leaf written).1 (.symbol "(") (by rw [← same]; exact List.mem_cons_self)
    cases plain
  | call | cast | choice | negation => cases same
  | parenthesized inner =>
    have same : ts = _ := List.append_cancel_left (List.append_cancel_right same)
    rw [same]
    exact inner
  | binary _ _ left _ => exact absurd (List.prefix_append _ _) (apart (.binary _) left.spells)
  | nullTest _ _ inner => exact absurd List.prefix_rfl (apart (.nullTest _) inner.spells)
  | inList _ _ inner _ _ _ =>
    exact absurd ((List.prefix_append _ _).trans (List.prefix_append _ _)) (apart (.inList _) inner.spells)
  | like _ _ subject _ => exact absurd (List.prefix_append _ _) (apart .like subject.spells)
  | escaped _ _ subject _ _ =>
    refine absurd ?_ (apart .like subject.spells)
    exact (List.prefix_append _ _).trans ((List.prefix_append _ _).trans (List.prefix_append _ _))

/-- A negation is read as one only where its operand is read behind the word. -/
theorem of_negation (read : Reads d place front behind ([.word "NOT"] ++ ts) (.negation x)) :
    behind < Dialect.notLevel ∧ Reads d (d.category .condition) Dialect.notLevel behind ts x := by
  generalize same : [Token.word "NOT"] ++ ts = whole at read
  cases read with
  | leaf written => cases written
  | parenthesized => cases same
  | negation looser inner =>
    cases List.append_cancel_left same
    exact ⟨looser, inner⟩

/-- An operator starts with a token that divides. -/
theorem divides_operator (o : Operator) (ts : List Token) : Divides (o.tokens ++ ts) := by
  cases o with
  | binary op => cases op <;> (intro t member; cases member; rfl)
  | nullTest => intro t member; cases member; rfl
  | inList negated => cases negated <;> (intro t member; cases member; rfl)
  | like => intro t member; cases member; rfl

/-- An operator between spelled operands is read there: no other place divides the text into such sizes. -/
theorem of_binary {op : BinaryOp} (spelled : Spells ts x)
    (read : Reads d place front behind (ts ++ (Operator.binary op).tokens ++ us) (.binary op x y)) :
    front < d.level op ∧ behind ≤ d.level op ∧ Reads d (d.category op.operandPlace) front (d.level op) ts x ∧
      Reads d (d.category op.operandPlace) (d.level op) behind us y := by
  generalize same : ts ++ (Operator.binary op).tokens ++ us = whole at read
  cases read with
  | leaf written => cases written
  | parenthesized inner =>
    exact (not_parenthesized_operator (.binary op) spelled inner.spells.balanced (same ▸ List.prefix_append _ _)).elim
  | binary looser noTighter left right =>
    rw [List.append_assoc, List.append_assoc] at same
    obtain ⟨rfl, tail⟩ := append_inj_of_size same (spelled.size.trans left.spells.size.symm) (divides_operator _ _)
      (divides_operator _ _)
    cases List.append_cancel_left tail
    exact ⟨looser, noTighter, left, right⟩

/-- A null test behind a spelled operand is read there. -/
theorem of_nullTest {negated : Bool} (spelled : Spells ts x)
    (read : Reads d place front behind (ts ++ (Operator.nullTest negated).tokens) (.nullTest x negated)) :
    front < Dialect.predicateLevel ∧ behind ≤ Dialect.predicateLevel ∧
      Reads d (d.category .value) front Dialect.predicateLevel ts x := by
  generalize same : ts ++ (Operator.nullTest negated).tokens = whole at read
  cases read with
  | leaf written => cases written
  | parenthesized inner =>
    exact (not_parenthesized_operator (.nullTest negated) spelled inner.spells.balanced (same ▸ List.prefix_rfl)).elim
  | nullTest looser noTighter inner =>
    cases List.append_cancel_right same
    exact ⟨looser, noTighter, inner⟩

/-- A pattern match between spelled operands is read there. -/
theorem of_like (spelled : Spells ts x)
    (read : Reads d place front behind (ts ++ Operator.like.tokens ++ us) (.like x y none)) :
    front < Dialect.predicateLevel ∧ behind ≤ Dialect.predicateLevel ∧
      Reads d (d.category .value) front Dialect.predicateLevel ts x ∧
      Reads d (d.category .value) Dialect.predicateLevel behind us y := by
  generalize same : ts ++ Operator.like.tokens ++ us = whole at read
  cases read with
  | leaf written => cases written
  | parenthesized inner =>
    exact (not_parenthesized_operator .like spelled inner.spells.balanced (same ▸ List.prefix_append _ _)).elim
  | like looser noTighter subject pattern =>
    rw [List.append_assoc, List.append_assoc] at same
    obtain ⟨rfl, tail⟩ := append_inj_of_size same (spelled.size.trans subject.spells.size.symm) (divides_operator _ _)
      (divides_operator _ _)
    cases List.append_cancel_left tail
    exact ⟨looser, noTighter, subject, pattern⟩

/-- A pattern match with an escape is divided at its two words. -/
theorem of_escaped (spelled : Spells ts x) (spelled' : Spells us y)
    (read : Reads d place front behind (ts ++ Operator.like.tokens ++ us ++ [.word "ESCAPE"] ++ vs)
      (.like x y (some z))) :
    front < Dialect.predicateLevel ∧ behind ≤ Dialect.predicateLevel ∧
      Reads d (d.category .value) front Dialect.predicateLevel ts x ∧
      Reads d (d.category .value) Dialect.predicateLevel Dialect.escapeLevel us y ∧
      Reads d (d.category .value) Dialect.predicateLevel behind vs z := by
  generalize same : ts ++ Operator.like.tokens ++ us ++ [.word "ESCAPE"] ++ vs = whole at read
  cases read with
  | leaf written => cases written
  | parenthesized inner =>
    refine (not_parenthesized_operator .like spelled inner.spells.balanced ?_).elim
    rw [← same]
    exact (List.prefix_append _ _).trans ((List.prefix_append _ _).trans (List.prefix_append _ _))
  | escaped looser noTighter subject pattern escape =>
    have word : ∀ ts, Divides ([.word "ESCAPE"] ++ ts) := fun ts t member => by cases member; rfl
    simp only [List.append_assoc] at same
    obtain ⟨rfl, tail⟩ := append_inj_of_size same (spelled.size.trans subject.spells.size.symm)
      (divides_operator .like _) (divides_operator .like _)
    obtain ⟨rfl, last⟩ := append_inj_of_size (List.append_cancel_left tail)
      (spelled'.size.trans pattern.spells.size.symm) (word _) (word _)
    cases List.append_cancel_left last
    exact ⟨looser, noTighter, subject, pattern, escape⟩

/-- A list behind a spelled item is read there, and its values are read between the commas. -/
theorem of_inList {negated : Bool} {items : List (List Token × Phrase)} (spelled : Spells ts x)
    (each : ∀ item ∈ items, Spells item.1 item.2)
    (read : Reads d place front behind
      (ts ++ (Operator.inList negated).tokens ++ separated (items.map Prod.fst) ++ [.symbol ")"])
      (.inList x (items.map Prod.snd) negated)) :
    front < Dialect.predicateLevel ∧ behind ≤ Dialect.predicateLevel ∧
      Reads d (d.category .value) front Dialect.predicateLevel ts x ∧
      ∀ item ∈ items, Reads d (d.category .value) 0 0 item.1 item.2 := by
  generalize same :
    ts ++ (Operator.inList negated).tokens ++ separated (items.map Prod.fst) ++ [.symbol ")"] = whole at read
  generalize listed : Phrase.inList x (items.map Prod.snd) negated = phrase at read
  cases read with
  | leaf written =>
    rw [← listed] at written
    cases written
  | parenthesized inner =>
    refine (not_parenthesized_operator (.inList negated) spelled inner.spells.balanced ?_).elim
    rw [← same]
    exact (List.prefix_append _ _).trans (List.prefix_append _ _)
  | inList looser noTighter inner items' some each' =>
    obtain ⟨rfl, phrases, rfl⟩ := Phrase.inList.inj listed
    simp only [List.append_assoc] at same
    obtain ⟨rfl, tail⟩ := append_inj_of_size same (spelled.size.trans inner.spells.size.symm)
      (divides_operator _ _) (divides_operator _ _)
    have values := List.append_cancel_right (List.append_cancel_left tail)
    obtain rfl := items_inj each (fun item member => (each' item member).spells) phrases values
    exact ⟨looser, noTighter, inner, each'⟩
  | _ => cases listed

/-- The operand of a conversion is read inside the parentheses. -/
theorem of_cast {type : List Token} (spelled : Spells ts x)
    (read : Reads d place front behind ([.word "CAST", .symbol "("] ++ ts ++ [.word "AS"] ++ type ++ [.symbol ")"])
      (.cast x type)) : Reads d (d.category .value) 0 0 ts x := by
  generalize same : [.word "CAST", .symbol "("] ++ ts ++ [.word "AS"] ++ type ++ [.symbol ")"] = whole at read
  cases read with
  | leaf written => cases written
  | parenthesized => cases same
  | cast inner typed =>
    have word : ∀ ts, Divides ([.word "AS"] ++ ts) := fun ts t member => by cases member; rfl
    simp only [List.append_assoc] at same
    obtain ⟨rfl, -⟩ := append_inj_of_size (List.append_cancel_left same) (spelled.size.trans inner.spells.size.symm)
      (word _) (word _)
    exact inner

/-- The arguments of a call are read between the commas. -/
theorem of_call {name : String} {items : List (List Token × Phrase)} (each : ∀ item ∈ items, Spells item.1 item.2)
    (read : Reads d place front behind
      ([.word name, .symbol "("] ++ separated (items.map Prod.fst) ++ [.symbol ")"])
      (.call name (items.map Prod.snd))) :
    ∀ item ∈ items, Reads d (d.category .value) 0 0 item.1 item.2 := by
  generalize same : [.word name, .symbol "("] ++ separated (items.map Prod.fst) ++ [.symbol ")"] = whole at read
  generalize called : Phrase.call name (items.map Prod.snd) = phrase at read
  cases read with
  | leaf written =>
    rw [← called] at written
    cases written
  | parenthesized => cases same
  | call free items' each' =>
    obtain ⟨rfl, phrases⟩ := Phrase.call.inj called
    have same := List.append_cancel_left (List.append_cancel_right same)
    obtain rfl := items_inj each (fun item member => (each' item member).spells) phrases same
    exact each'
  | _ => cases called

end Reads

end Grammar

end SqlShape
