import Mathlib.Tactic.SplitIfs
import SqlShape.Dialect.Lexeme

/-!
# Scanning a command

A command is read from left to right by an automaton with one step for each character. Its state is the token in
progress; a character either extends that token or ends it and begins the next one. Quoted identifiers and text
literals end with a mark that is not written twice, so after a mark the automaton waits for the next character.

Two texts are scanned one after the other as they are scanned alone where a blank, a parenthesis or a comma stands at
the boundary (`scan_append`): these characters neither extend a token nor are extended. This is all that the proofs
about commands need to know of the automaton, beside the tokens of a single piece.
-/

namespace SqlShape

/-- A token of a command. -/
inductive Token where
  | word (text : String)
  | number (text : String)
  | symbol (text : String)
  | identifier (name : String)
  | string (national : Bool) (text : String)
  | blob (digits : String)
deriving DecidableEq, Repr

namespace Scanner

/-- What stands between quotes. -/
inductive Quote where
  | identifier
  | text (national : Bool)
  | blob
deriving DecidableEq, Repr

/-- The mark that ends a quote, unless it is written twice. -/
def Quote.closing (d : Dialect) : Quote → Char
  | identifier => d.identifierQuotes.2
  | text _ | blob => Lexeme.textQuote

/-- The token in progress. -/
inductive State where
  | between
  | word (chars : List Char)
  | number (chars : List Char)
  | symbol (chars : List Char)
  | inside (quote : Quote) (chars : List Char)
  /-- After a closing mark, which may turn out to be the first of two. -/
  | closed (quote : Quote) (chars : List Char)
deriving DecidableEq, Repr

/-- A character that a word can start with. -/
def isWordStart (c : Char) : Bool :=
  c.isAlpha || c == '_' || c == '@' || c == '#' || decide (127 < c.toNat)

/-- A character that a word can go on with. -/
def isWordPart (c : Char) : Bool :=
  isWordStart c || c.isDigit || c == '$'

/-- The quote that a word announces: national text on SQL Server, bytes on SQLite. -/
def announced? (d : Dialect) (word : List Char) : Option Quote :=
  match d with
  | .sqlServer => if word = ['N'] then some (.text true) else none
  | .sqlite => if word = ['X'] ∨ word = ['x'] then some .blob else none

/-- A number that a sign can go on with: a decimal one that ends in the mark of an exponent. -/
def takesSign (number : List Char) : Bool :=
  (number.getLast? == some 'e' || number.getLast? == some 'E') && !(['0', 'x'].isPrefixOf number)

/-- Two characters that make one symbol. -/
def isPair (first second : Char) : Bool :=
  [('<', '='), ('<', '>'), ('>', '='), ('!', '='), ('=', '='), ('|', '|'), ('-', '-'), ('/', '*')].contains
    (first, second)

/-- The token that a character begins. -/
def begins (d : Dialect) (c : Char) : State :=
  if c.isWhitespace then .between
  else if c = d.identifierQuotes.1 then .inside .identifier []
  else if c = Lexeme.textQuote then .inside (.text false) []
  else if c.isDigit then .number [c]
  else if isWordStart c then .word [c]
  else .symbol [c]

/-- The token in progress with a further character; `none` where the character does not belong to it. -/
def extend (d : Dialect) : State → Char → Option State
  | .between, _ => none
  | .word cs, c =>
    if c = Lexeme.textQuote then (announced? d cs).map (.inside · [])
    else if isWordPart c then some (.word (cs ++ [c]))
    else none
  | .number cs, c =>
    if isWordPart c || c == '.' || ((c == '+' || c == '-') && takesSign cs) then some (.number (cs ++ [c])) else none
  | .symbol [a], c => if isPair a c then some (.symbol [a, c]) else none
  | .symbol _, _ => none
  | .inside q cs, c => some (if c = q.closing d then .closed q cs else .inside q (cs ++ [c]))
  | .closed q cs, c => if c = q.closing d then some (.inside q (cs ++ [c])) else none

/-- The token that ends here. -/
def State.emit : State → List Token
  | .between | .inside _ _ => []
  | .word cs => [.word (String.ofList cs)]
  | .number cs => [.number (String.ofList cs)]
  | .symbol cs => [.symbol (String.ofList cs)]
  | .closed .identifier cs => [.identifier (String.ofList cs)]
  | .closed (.text national) cs => [.string national (String.ofList cs)]
  | .closed .blob cs => [.blob (String.ofList cs)]

/-- No quote is open. -/
def State.isOutside : State → Bool
  | .inside _ _ => false
  | _ => true

/-- One character: the token that it ends, and the token in progress after it. -/
def step (d : Dialect) (s : State) (c : Char) : List Token × State :=
  match extend d s c with
  | some s' => ([], s')
  | none => (s.emit, begins d c)

/-- The tokens that end within a text, and the token in progress after it. -/
def run (d : Dialect) (s : State) : List Char → List Token × State
  | [] => ([], s)
  | c :: cs =>
    let (ended, next) := step d s c
    let (later, last) := run d next cs
    (ended ++ later, last)

end Scanner

/-- The tokens of a text; `none` where a quote is left open. -/
def Dialect.scan (d : Dialect) (text : List Char) : Option (List Token) :=
  let (ended, last) := Scanner.run d .between text
  if last.isOutside then some (ended ++ last.emit) else none

namespace Scanner

variable {d : Dialect}

/-! ## Runs -/

theorem run_cons (s : State) (c : Char) (cs : List Char) :
    run d s (c :: cs) = ((step d s c).1 ++ (run d (step d s c).2 cs).1, (run d (step d s c).2 cs).2) :=
  rfl

/-- A run over two texts is a run over the first and then one over the second. -/
theorem run_append (s : State) (as bs : List Char) :
    run d s (as ++ bs) =
      ((run d s as).1 ++ (run d (run d s as).2 bs).1, (run d (run d s as).2 bs).2) := by
  induction as generalizing s with
  | nil => rfl
  | cons c as later => rw [List.cons_append, run_cons, run_cons, later, List.append_assoc]

/-- A character that belongs to the token in progress. -/
theorem run_of_extend {s s' : State} {c : Char} (more : extend d s c = some s') (cs : List Char) :
    run d s (c :: cs) = run d s' cs := by
  have extended : step d s c = ([], s') := by
    unfold step
    rw [more]
  rw [run_cons, extended]
  rfl

theorem step_of_cut {s : State} {c : Char} (cut : extend d s c = none) : step d s c = (s.emit, begins d c) := by
  unfold step
  rw [cut]

/-- The first character of a text. -/
theorem run_first (c : Char) (cs : List Char) : run d .between (c :: cs) = run d (begins d c) cs := by
  rw [run_cons, step_of_cut rfl]
  rfl

/-- A character that does not belong to the token in progress is read as if it came first. -/
theorem run_of_cut {s : State} {c : Char} (cut : extend d s c = none) (cs : List Char) :
    run d s (c :: cs) = (s.emit ++ (run d .between (c :: cs)).1, (run d .between (c :: cs)).2) := by
  rw [run_first, run_cons, step_of_cut cut]

theorem scan_eq_some {text : List Char} {ts : List Token} :
    d.scan text = some ts ↔
      (run d .between text).2.isOutside = true ∧ (run d .between text).1 ++ (run d .between text).2.emit = ts := by
  unfold Dialect.scan
  dsimp only
  split
  next outside => simp only [outside, Option.some.injEq, true_and]
  next inside => simp only [inside, Bool.false_eq_true, false_and, reduceCtorEq]

/-! ## Boundaries -/

/-- A blank, a parenthesis or a comma. -/
def isBreak (c : Char) : Bool :=
  c == ' ' || c == '(' || c == ')' || c == ','

theorem isBreak_iff {c : Char} : isBreak c = true ↔ c = ' ' ∨ c = '(' ∨ c = ')' ∨ c = ',' := by
  simp only [isBreak, Bool.or_eq_true, beq_iff_eq, or_assoc]

/-- No quote ends with such a character. -/
theorem ne_closing_of_isBreak {c : Char} (breaks : isBreak c = true) (q : Quote) : c ≠ q.closing d := by
  have mark : isBreak (q.closing d) = false := by
    cases q with
    | identifier => cases d <;> decide
    | text national => exact (by decide : isBreak Lexeme.textQuote = false)
    | blob => exact (by decide : isBreak Lexeme.textQuote = false)
  rintro rfl
  rw [mark] at breaks
  cases breaks

/-- Such a character ends every token that is not between quotes. -/
theorem extend_break {s : State} {c : Char} (outside : s.isOutside = true) (breaks : isBreak c = true) :
    extend d s c = none := by
  have notWord : isWordPart c = false := by
    rcases isBreak_iff.mp breaks with rfl | rfl | rfl | rfl <;> decide
  cases s with
  | between => rfl
  | word cs =>
    have notQuote : c ≠ Lexeme.textQuote := by
      rcases isBreak_iff.mp breaks with rfl | rfl | rfl | rfl <;> decide
    simp only [extend, notQuote, if_false, notWord, Bool.false_eq_true]
  | number cs =>
    have notSign : (c == '.') = false ∧ (c == '+') = false ∧ (c == '-') = false := by
      rcases isBreak_iff.mp breaks with rfl | rfl | rfl | rfl <;> decide
    simp only [extend, notWord, notSign, Bool.or_self, Bool.false_and, Bool.false_eq_true, if_false]
  | symbol cs =>
    have notPair : ∀ a, isPair a c = false := by
      intro a
      rcases isBreak_iff.mp breaks with rfl | rfl | rfl | rfl <;> simp [isPair]
    rcases cs with _ | ⟨a, _ | ⟨b, rest⟩⟩
    · rfl
    · simp only [extend, notPair, Bool.false_eq_true, if_false]
    · rfl
  | inside q cs => cases outside
  | closed q cs =>
    simp only [extend, ne_closing_of_isBreak breaks q, if_false]

/-- Such a character is a token of its own or none. -/
theorem extend_begins_break {c : Char} (breaks : isBreak c = true) (c' : Char) : extend d (begins d c) c' = none := by
  have begun : begins d c = .between ∨ begins d c = .symbol [c] ∧ ∀ c', isPair c c' = false := by
    rcases isBreak_iff.mp breaks with rfl | rfl | rfl | rfl
    · exact .inl rfl
    · exact .inr ⟨by cases d <;> decide, fun c' => by simp [isPair]⟩
    · exact .inr ⟨by cases d <;> decide, fun c' => by simp [isPair]⟩
    · exact .inr ⟨by cases d <;> decide, fun c' => by simp [isPair]⟩
  rcases begun with begun | ⟨begun, notPair⟩
  · rw [begun]
    rfl
  · rw [begun]
    simp only [extend, notPair, Bool.false_eq_true, if_false]

/-- A token that was begun by such a character is not extended, so the next text is read as if it came first. -/
theorem extend_run_break {text : List Char} {c : Char} (outside : (run d .between (text ++ [c])).2.isOutside = true)
    (breaks : isBreak c = true) (c' : Char) : extend d (run d .between (text ++ [c])).2 c' = none := by
  rw [run_append] at outside ⊢
  generalize (run d .between text).2 = s at outside ⊢
  by_cases open_ : s.isOutside = true
  · have last : (run d s [c]).2 = begins d c := by
      rw [run_cons, step_of_cut (extend_break open_ breaks)]
      rfl
    rw [last]
    exact extend_begins_break breaks c'
  · -- Between quotes the character would have stayed between quotes.
    exfalso
    cases s with
    | inside q cs =>
      have stays : extend d (.inside q cs) c = some (.inside q (cs ++ [c])) := by
        simp only [extend, ne_closing_of_isBreak breaks q, if_false]
      rw [run_of_extend stays] at outside
      cases outside
    | _ => exact open_ rfl

/-- A blank, a parenthesis or a comma stands at the boundary of two texts, or one of them is empty. -/
def Apart (first second : List Char) : Prop :=
  first.getLast?.all isBreak = true ∨ second.head?.all isBreak = true

/-- Texts that stand apart are scanned one after the other. -/
theorem scan_append {as bs : List Char} {ts us : List Token} (first : d.scan as = some ts)
    (second : d.scan bs = some us) (apart : Apart as bs) : d.scan (as ++ bs) = some (ts ++ us) := by
  obtain ⟨outside, rfl⟩ := scan_eq_some.mp first
  obtain ⟨outside', rfl⟩ := scan_eq_some.mp second
  cases bs with
  | nil => simpa only [run, State.emit, List.append_nil] using first
  | cons c bs =>
    have cut : extend d (run d .between as).2 c = none := by
      rcases apart with last | head
      · rcases as.eq_nil_or_concat with rfl | ⟨as, c', rfl⟩
        · rfl
        · rw [List.concat_eq_append] at outside last ⊢
          rw [List.getLast?_concat, Option.all_some] at last
          exact extend_run_break outside last c
      · exact extend_break outside head
    rw [scan_eq_some, run_append, run_of_cut cut]
    exact ⟨outside', by simp only [List.append_assoc]⟩

/-! ## Pieces between quotes -/

/-- A text whose marks are doubled stays between its quotes. -/
theorem run_doubled (q : Quote) (cs text rest : List Char) :
    run d (.inside q cs) (Dialect.doubled (q.closing d) text ++ rest) = run d (.inside q (cs ++ text)) rest := by
  induction text generalizing cs with
  | nil => rw [Dialect.doubled, List.nil_append, List.append_nil]
  | cons c text later =>
    have more : cs ++ c :: text = cs ++ [c] ++ text := by rw [List.append_assoc, List.singleton_append]
    by_cases mark : c = q.closing d
    · have first : extend d (.inside q cs) (q.closing d) = some (.closed q cs) := by
        simp only [extend, if_true]
      have second : extend d (.closed q cs) (q.closing d) = some (.inside q (cs ++ [c])) := by
        simp only [extend, if_true, mark]
      rw [Dialect.doubled, if_pos mark, List.cons_append, List.cons_append, run_of_extend first,
        run_of_extend second, later, more]
    · have only : extend d (.inside q cs) c = some (.inside q (cs ++ [c])) := by
        simp only [extend, mark, if_false]
      rw [Dialect.doubled, if_neg mark, List.cons_append, run_of_extend only, later, more]

/-- From its opening quote on, a quoted text is one token. -/
theorem run_quoted (q : Quote) (text : List Char) :
    run d (.inside q []) (Dialect.doubled (q.closing d) text ++ [q.closing d]) = ([], .closed q text) := by
  have last : extend d (.inside q text) (q.closing d) = some (.closed q text) := by
    simp only [extend, if_true]
  rw [run_doubled, List.nil_append, run_of_extend last, run]

/-- An identifier is read as it was before it was quoted. -/
theorem run_identifier (name : String) :
    run d .between (d.quoteIdentifier name).toList = ([], .closed .identifier name.toList) := by
  have opening : begins d d.identifierQuotes.1 = .inside .identifier [] := by
    cases d <;> decide
  unfold Dialect.quoteIdentifier Dialect.quoted
  rw [String.toList_ofList, run_first, opening]
  exact run_quoted .identifier name.toList

/-- A text literal is read as it was before it was quoted. -/
theorem run_text (text : List Char) :
    run d .between (Dialect.quoted Lexeme.textQuote Lexeme.textQuote text) = ([], .closed (.text false) text) := by
  have opening : begins d Lexeme.textQuote = .inside (.text false) [] := by
    cases d <;> decide
  unfold Dialect.quoted
  rw [run_first, opening]
  exact run_quoted (.text false) text

/-- A quoted text behind the word that announces it. -/
theorem run_announced (mark : Char) {q : Quote} (begun : begins d mark = .word [mark])
    (announces : announced? d [mark] = some q) (closing : q.closing d = Lexeme.textQuote) (text : List Char) :
    run d .between (mark :: Dialect.quoted Lexeme.textQuote Lexeme.textQuote text) = ([], .closed q text) := by
  have opening : extend d (.word [mark]) Lexeme.textQuote = some (.inside q []) := by
    simp only [extend, if_true, announces, Option.map_some]
  unfold Dialect.quoted
  rw [run_first, begun, run_of_extend opening, ← closing, run_quoted]

/-- The qualified name of a column is three tokens. -/
theorem scan_column (table name : String) :
    d.scan ((d.quoteIdentifier table).toList ++ '.' :: (d.quoteIdentifier name).toList) =
      some [.identifier table, .symbol ".", .identifier name] := by
  have point : extend d (.closed .identifier table.toList) '.' = none := by
    cases d <;> rfl
  have begun : begins d '.' = .symbol ['.'] := by
    cases d <;> decide
  -- The opening quote of the second name ends the point.
  obtain ⟨c, rest, quoted⟩ : ∃ c rest, (d.quoteIdentifier name).toList = c :: rest := by
    unfold Dialect.quoteIdentifier
    rw [String.toList_ofList]
    exact ⟨_, _, rfl⟩
  have cut : extend d (.symbol ['.']) c = none := by
    have alone : isPair '.' c = false := by simp [isPair]
    simp only [extend, alone, Bool.false_eq_true, if_false]
  have last := run_identifier (d := d) name
  rw [quoted] at last ⊢
  rw [scan_eq_some, run_append, run_identifier, run_of_cut point, run_first, begun, run_of_cut cut, last]
  exact ⟨rfl, by simp [State.emit]⟩

/-! ## Pieces without quotes -/

/-- A character that opens or closes a quote. -/
def isQuoteMark (d : Dialect) (c : Char) : Bool :=
  c == d.identifierQuotes.1 || c == d.identifierQuotes.2 || c == Lexeme.textQuote

/-- A token in progress that has no quotes around it. -/
def State.isPlain : State → Bool
  | .inside _ _ | .closed _ _ => false
  | _ => true

end Scanner

/-- A token that has no quotes around it. -/
def Token.isPlain : Token → Bool
  | .word _ | .number _ | .symbol _ => true
  | _ => false

namespace Scanner

variable {d : Dialect}

theorem begins_plain {c : Char} (unquoted : isQuoteMark d c = false) : (begins d c).isPlain = true := by
  simp only [isQuoteMark, Bool.or_eq_false_iff, beq_eq_false_iff_ne] at unquoted
  unfold begins
  rw [if_neg unquoted.1.1, if_neg unquoted.2]
  split_ifs <;> rfl

theorem extend_plain {s s' : State} {c : Char} (plain : s.isPlain = true) (unquoted : isQuoteMark d c = false)
    (more : extend d s c = some s') : s'.isPlain = true := by
  simp only [isQuoteMark, Bool.or_eq_false_iff, beq_eq_false_iff_ne] at unquoted
  cases s with
  | between => cases more
  | word cs =>
    rw [extend, if_neg unquoted.2, Option.ite_none_right_eq_some] at more
    obtain ⟨-, ⟨⟩⟩ := more
    rfl
  | number cs =>
    rw [extend, Option.ite_none_right_eq_some] at more
    obtain ⟨-, ⟨⟩⟩ := more
    rfl
  | symbol cs =>
    rcases cs with _ | ⟨a, _ | ⟨b, rest⟩⟩
    · cases more
    · rw [extend, Option.ite_none_right_eq_some] at more
      obtain ⟨-, ⟨⟩⟩ := more
      rfl
    · cases more
  | inside q cs => cases plain
  | closed q cs => cases plain

theorem emit_plain {s : State} (plain : s.isPlain = true) : ∀ t ∈ s.emit, t.isPlain = true := by
  cases s with
  | between => exact List.forall_mem_nil _
  | word cs => exact List.forall_mem_singleton.mpr rfl
  | number cs => exact List.forall_mem_singleton.mpr rfl
  | symbol cs => exact List.forall_mem_singleton.mpr rfl
  | inside q cs => cases plain
  | closed q cs => cases plain

/-- Outside of quotes and without quote marks all tokens are plain. -/
theorem run_plain {s : State} {text : List Char} (plain : s.isPlain = true)
    (unquoted : ∀ c ∈ text, isQuoteMark d c = false) :
    (run d s text).2.isPlain = true ∧ ∀ t ∈ (run d s text).1, t.isPlain = true := by
  induction text generalizing s with
  | nil => exact ⟨plain, List.forall_mem_nil _⟩
  | cons c text later =>
    obtain ⟨here, rest⟩ := List.forall_mem_cons.mp unquoted
    cases extended : extend d s c with
    | some s' =>
      rw [run_of_extend extended]
      exact later (extend_plain plain here extended) rest
    | none =>
      obtain ⟨last, tokens⟩ := later (begins_plain here) rest
      rw [run_of_cut extended, run_first]
      exact ⟨last, List.forall_mem_append.mpr ⟨emit_plain plain, tokens⟩⟩

/-- A text without quote marks is scanned to the end. -/
theorem exists_scan {text : List Char} (unquoted : ∀ c ∈ text, isQuoteMark d c = false) :
    ∃ ts, d.scan text = some ts ∧ ∀ t ∈ ts, t.isPlain = true := by
  obtain ⟨plain, tokens⟩ := run_plain (s := .between) rfl unquoted
  have outside : (run d .between text).2.isOutside = true := by
    cases last : (run d .between text).2 with
    | inside q cs =>
      rw [last] at plain
      cases plain
    | _ => rfl
  exact ⟨_, scan_eq_some.mpr ⟨outside, rfl⟩, List.forall_mem_append.mpr ⟨tokens, emit_plain plain⟩⟩

/-- Characters that a word goes on with. -/
theorem run_word {cs rest : List Char} (parts : ∀ c ∈ rest, isWordPart c = true) :
    run d (.word cs) rest = ([], .word (cs ++ rest)) := by
  induction rest generalizing cs with
  | nil => rw [run, List.append_nil]
  | cons c rest later =>
    obtain ⟨part, parts⟩ := List.forall_mem_cons.mp parts
    have notQuote : c ≠ Lexeme.textQuote := by
      rintro rfl
      revert part
      decide
    have more : extend d (.word cs) c = some (.word (cs ++ [c])) := by
      simp only [extend, notQuote, if_false, part, if_true]
    rw [run_of_extend more, later parts, List.append_assoc, List.singleton_append]

/-- Characters that a number goes on with, whatever came before. -/
theorem run_number {cs rest : List Char} (parts : ∀ c ∈ rest, isWordPart c = true ∨ c = '.') :
    run d (.number cs) rest = ([], .number (cs ++ rest)) := by
  induction rest generalizing cs with
  | nil => rw [run, List.append_nil]
  | cons c rest later =>
    obtain ⟨part, parts⟩ := List.forall_mem_cons.mp parts
    have more : extend d (.number cs) c = some (.number (cs ++ [c])) := by
      rcases part with part | rfl
      · simp only [extend, part, Bool.true_or, if_true]
      · simp only [extend, beq_self_eq_true, Bool.or_true, Bool.true_or, if_true]
    rw [run_of_extend more, later parts, List.append_assoc, List.singleton_append]

end Scanner

end SqlShape
