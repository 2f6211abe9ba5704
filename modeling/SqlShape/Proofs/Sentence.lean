import SqlShape.Proofs.Grammar

/-!
# The grammar of statements

A statement is read clause by clause. SQL Server has the row limit before the projections and in parentheses, SQLite at
the end. A statement without projections selects the number one. Tokens have one reading as a statement
(`Sentence.Reads.unique`).
-/

namespace SqlShape

/-- A statement as it is read. -/
structure Sentence where
  projections : List (Phrase × String)
  table : String
  tableAlias : String
  predicate : Option Phrase
  /-- The sort keys, each with whether it is ascending. -/
  orderings : List (Phrase × Bool)
  limit : Option Phrase

namespace Grammar

/-- The tokens behind a projection. -/
def aliasTokens (label : String) : List Token :=
  [.word "AS", .identifier label]

/-- The tokens behind a sort key. -/
def directionTokens (ascending : Bool) : List Token :=
  if ascending then [] else [.word "DESC"]

/-- A clause that may be absent. -/
inductive ReadsClause (d : Dialect) (place : Place) (opening closing : List Token) : List Token → Option Phrase → Prop
  | absent : ReadsClause d place opening closing [] none
  | present {ts : List Token} {x : Phrase} (inner : Reads d (d.category place) 0 0 ts x) :
      ReadsClause d place opening closing (opening ++ ts ++ closing) (some x)

/-- Values with commas between them, each with tokens behind it that say more about it. -/
inductive ReadsList {σ : Type} (d : Dialect) (behind : σ → List Token) : List Token → List (Phrase × σ) → Prop
  | items (parts : List (List Token × Phrase × σ)) (some : parts ≠ [])
      (each : ∀ part ∈ parts, Reads d (d.category .value) 0 0 part.1 part.2.1) :
      ReadsList d behind (separated (parts.map fun part => part.1 ++ behind part.2.2)) (parts.map Prod.snd)

/-- The projections. -/
inductive ReadsProjections (d : Dialect) : List Token → List (Phrase × String) → Prop
  | one : ReadsProjections d [.number "1"] []
  | items {ts : List Token} {ps : List (Phrase × String)} (read : ReadsList d aliasTokens ts ps) :
      ReadsProjections d ts ps

/-- The sort keys. -/
inductive ReadsOrderings (d : Dialect) : List Token → List (Phrase × Bool) → Prop
  | absent : ReadsOrderings d [] []
  | items {ts : List Token} {ks : List (Phrase × Bool)} (read : ReadsList d directionTokens ts ks) :
      ReadsOrderings d ([.word "ORDER", .word "BY"] ++ ts) ks

/-- The row limit, before the projections or at the end. -/
def ReadsLimit (d : Dialect) (before after : List Token) (limit : Option Phrase) : Prop :=
  match d with
  | .sqlServer => ReadsClause d .value [.word "TOP", .symbol "("] [.symbol ")"] before limit ∧ after = []
  | .sqlite => before = [] ∧ ReadsClause d .value [.word "LIMIT"] [] after limit

end Grammar

open Grammar

/-- The tokens are read as the statement. -/
inductive Sentence.Reads (d : Dialect) : List Token → Sentence → Prop
  | clauses {s : Sentence} {before projections predicate orderings after : List Token}
      (limited : ReadsLimit d before after s.limit) (selected : ReadsProjections d projections s.projections)
      (filtered : ReadsClause d .condition [.word "WHERE"] [] predicate s.predicate)
      (ordered : ReadsOrderings d orderings s.orderings) :
      Reads d
        ([.word "SELECT"] ++ before ++ projections
          ++ [.word "FROM", .identifier s.table, .word "AS", .identifier s.tableAlias]
          ++ predicate ++ orderings ++ after) s

namespace Grammar

/-! ## A reader -/

/-- Takes tokens that have to be there. -/
def expectAll : List Token → List Token → Option (List Token)
  | [], ts => some ts
  | t :: opening, ts => (expect t ts).bind (expectAll opening)

/-- Takes an identifier. -/
def identifier? : List Token → Option (String × List Token)
  | .identifier name :: ts => some (name, ts)
  | _ => none

/-- Takes the alias of a projection. -/
def alias? (ts : List Token) : Option (String × List Token) :=
  (expect (.word "AS") ts).bind identifier?

/-- Takes the direction of a sort key. -/
def direction (ts : List Token) : Option (Bool × List Token) :=
  match expect (.word "DESC") ts with
  | none => some (true, ts)
  | some ts => some (false, ts)

/-- Reads a clause that may be absent. -/
def clause (d : Dialect) (opening closing : List Token) (ts : List Token) : Option (Option Phrase × List Token) :=
  match expectAll opening ts with
  | none => some (none, ts)
  | some ts => do
    let (x, ts) ← parse d 0 ts
    let ts ← expectAll closing ts
    some (some x, ts)

/-- Reads values with commas between them and takes what is behind each. -/
def list {σ : Type} (d : Dialect) (suffix : List Token → Option (σ × List Token)) (ts : List Token) :
    Option (List (Phrase × σ) × List Token) := do
  let (x, us) ← parse d 0 ts
  let (s, us) ← suffix us
  match expect (.symbol ",") us with
  | none => some ([(x, s)], us)
  | some us =>
    if us.length < ts.length then do
      let (xs, us) ← list d suffix us
      some ((x, s) :: xs, us)
    else none
termination_by ts.length

/-- Reads the projections. -/
def projections (d : Dialect) (ts : List Token) : Option (List (Phrase × String) × List Token) := do
  let (_, rest) ← parse d 0 ts
  match expect (.word "AS") rest with
  | none => some ([], rest)
  | some _ => list d alias? ts

/-- Reads the sort keys. -/
def orderings (d : Dialect) (ts : List Token) : Option (List (Phrase × Bool) × List Token) :=
  match expectAll [.word "ORDER", .word "BY"] ts with
  | none => some ([], ts)
  | some ts => list d direction ts

/-- Reads a statement. -/
def sentence (d : Dialect) (ts : List Token) : Option Sentence := do
  let ts ← expect (.word "SELECT") ts
  let (top, ts) ← clause d [.word "TOP", .symbol "("] [.symbol ")"] ts
  let (projections, ts) ← projections d ts
  let ts ← expect (.word "FROM") ts
  let (table, ts) ← identifier? ts
  let (tableAlias, ts) ← alias? ts
  let (predicate, ts) ← clause d [.word "WHERE"] [] ts
  let (orderings, ts) ← orderings d ts
  let (last, ts) ← clause d [.word "LIMIT"] [] ts
  if ts = [] then some ⟨projections, table, tableAlias, predicate, orderings, top.or last⟩ else none

variable {d : Dialect}

/-- The reader takes an opening that is there. -/
theorem expectAll_append (opening ts : List Token) : expectAll opening (opening ++ ts) = some ts := by
  induction opening with
  | nil => rfl
  | cons t opening later => rw [List.cons_append, expectAll, expect_self, Option.bind_some, later]

/-- A clause is read, whether it is there or not. -/
theorem clause_append {place : Place} {opening closing ts : List Token} {x : Option Phrase}
    (read : ReadsClause d place opening closing ts x) (rest : List Token) (other : expectAll opening rest = none)
    (ends : lead d (closing ++ rest) = 0) : clause d opening closing (ts ++ rest) = some (x, rest) := by
  cases read with
  | absent =>
    unfold clause
    rw [List.nil_append, other]
  | present inner =>
    have ends := Nat.le_of_eq ends
    unfold clause
    rw [List.append_assoc, List.append_assoc, expectAll_append]
    dsimp only [bind]
    rw [inner.parses.stops ends ends, Option.bind_some, expectAll_append, Option.bind_some]

/-- What is behind a value ends the value and is read itself, before a comma or what follows the values. -/
structure Suffix {σ : Type} (d : Dialect) (behind : σ → List Token) (suffix : List Token → Option (σ × List Token))
    (rest : List Token) : Prop where
  ends : ∀ s, lead d (behind s ++ rest) = 0
  read : ∀ s, suffix (behind s ++ rest) = some (s, rest)

/-- A list is read up to a token that neither continues it nor belongs to its last part. -/
theorem list_append {σ : Type} {behind : σ → List Token} {suffix : List Token → Option (σ × List Token)}
    {ts rest : List Token} {xs : List (Phrase × σ)} (read : ReadsList d behind ts xs)
    (between : ∀ rest, Suffix d behind suffix (.symbol "," :: rest)) (last : Suffix d behind suffix rest)
    (other : expect (.symbol ",") rest = none) : list d suffix (ts ++ rest) = some (xs, rest) := by
  cases read with
  | items parts some each =>
    unfold separated
    induction parts with
    | nil => exact absurd rfl some
    | cons part parts later =>
      obtain ⟨here, others⟩ := List.forall_mem_cons.mp each
      cases parts with
      | nil =>
        have ends := Nat.le_of_eq (last.ends part.2.2)
        rw [List.map_singleton, List.map_singleton, List.intercalate_singleton, list, List.append_assoc,
          here.parses.stops ends ends]
        dsimp only [bind, Option.bind]
        rw [last.read]
        dsimp only
        rw [other]
      | cons next parts =>
        have after := later (List.cons_ne_nil next parts) others
        have comma := between
          ([Token.symbol ","].intercalate ((next :: parts).map fun part => part.1 ++ behind part.2.2) ++ rest)
        have ends := Nat.le_of_eq (comma.ends part.2.2)
        have written : [Token.symbol ","].intercalate
            ((part :: next :: parts).map fun part => part.1 ++ behind part.2.2) =
              part.1 ++ behind part.2.2 ++ [.symbol ","] ++
                [Token.symbol ","].intercalate ((next :: parts).map fun part => part.1 ++ behind part.2.2) := by
          rw [List.map_cons, List.map_cons, List.intercalate_cons_cons]
        rw [written, list, List.append_assoc, List.append_assoc, List.append_assoc, List.singleton_append,
          here.parses.stops ends ends]
        dsimp only [bind, Option.bind]
        rw [comma.read]
        dsimp only
        rw [expect_self]
        dsimp only
        rw [if_pos, after]
        · rfl
        · simp only [List.length_cons, List.length_append]
          omega

theorem suffix_alias (rest : List Token) : Suffix d aliasTokens alias? rest :=
  ⟨fun _ => rfl, fun _ => rfl⟩

/-- A direction is read where no operator and no further direction follows. -/
theorem suffix_direction {rest : List Token} (ends : lead d rest = 0) (other : expect (.word "DESC") rest = none) :
    Suffix d directionTokens direction rest := by
  constructor
  · intro ascending
    cases ascending with
    | true => exact ends
    | false => rfl
  · intro ascending
    cases ascending with
    | true =>
      unfold direction directionTokens
      rw [if_pos rfl, List.nil_append, other]
    | false => rfl

/-- The projections are read up to the clause behind them. -/
theorem projections_append {ts : List Token} {ps : List (Phrase × String)} (read : ReadsProjections d ts ps)
    (rest : List Token) (ends : lead d rest = 0) (other : expect (.word "AS") rest = none)
    (last : expect (.symbol ",") rest = none) : projections d (ts ++ rest) = some (ps, rest) := by
  cases read with
  | one =>
    have read : Parses d 0 0 [.number "1"] (.number false "1") := .leaf rfl
    have ends := Nat.le_of_eq ends
    unfold projections
    rw [read.stops ends ends]
    dsimp only [bind, Option.bind]
    rw [other]
  | items read =>
    have listed := list_append read (fun rest => suffix_alias _) (suffix_alias rest) last
    cases read with
    | items parts some each =>
      cases parts with
      | nil => exact absurd rfl some
      | cons part parts =>
        -- the first value is followed by its alias
        have labelled : ∃ us, separated ((part :: parts).map fun part => part.1 ++ aliasTokens part.2.2) ++ rest =
            part.1 ++ .word "AS" :: us := by
          unfold separated
          cases parts with
          | nil =>
            rw [List.map_singleton, List.intercalate_singleton, List.append_assoc]
            exact ⟨_, rfl⟩
          | cons next parts =>
            rw [List.map_cons, List.map_cons, List.intercalate_cons_cons, List.append_assoc, List.append_assoc,
              List.append_assoc]
            exact ⟨_, rfl⟩
        obtain ⟨us, labelled⟩ := labelled
        have first := (each part List.mem_cons_self).parses.ends (.word "AS") us rfl
        unfold projections
        rw [← labelled] at first
        rw [first]
        dsimp only [bind, Option.bind]
        rw [expect_self]
        exact listed

/-- The orderings are read up to the clause behind them. -/
theorem orderings_append {ts rest : List Token} {ks : List (Phrase × Bool)} (read : ReadsOrderings d ts ks)
    (ends : lead d rest = 0) (descending : expect (.word "DESC") rest = none)
    (order : expect (.word "ORDER") rest = none) (last : expect (.symbol ",") rest = none) :
    orderings d (ts ++ rest) = some (ks, rest) := by
  cases read with
  | absent =>
    have other : expectAll [.word "ORDER", .word "BY"] rest = none := by
      rw [expectAll, order, Option.bind_none]
    unfold orderings
    rw [List.nil_append, other]
  | items read =>
    unfold orderings
    rw [List.append_assoc, expectAll_append]
    exact list_append read (fun rest => suffix_direction rfl rfl) (suffix_direction ends descending) last

/-- Projections begin with a token that a phrase can begin with. -/
theorem ReadsProjections.started {ts : List Token} {ps : List (Phrase × String)} (read : ReadsProjections d ts ps) :
    ∃ t us, ts = t :: us ∧ start t ≠ .nothing := by
  cases read with
  | one => exact ⟨_, _, rfl, fun same => by cases same⟩
  | items read =>
    cases read with
    | items parts some each =>
      cases parts with
      | nil => exact absurd rfl some
      | cons part parts =>
        obtain ⟨t, us, begun, starts⟩ := (each part List.mem_cons_self).started
        have begun : part.1 ++ aliasTokens part.2.2 = t :: (us ++ aliasTokens part.2.2) := by
          rw [begun, List.cons_append]
        obtain ⟨vs, begun⟩ := separated_cons (parts.map fun part => part.1 ++ aliasTokens part.2.2) begun
        exact ⟨t, vs, begun, starts⟩

end Grammar

namespace Sentence

variable {d : Dialect} {ts : List Token} {s s' : Sentence}

/-- Both places of the row limit are read, one of them as absent. -/
theorem clauses_of_limit {before after : List Token} {limit : Option Phrase}
    (limited : ReadsLimit d before after limit) :
    ∃ top last, ReadsClause d .value [.word "TOP", .symbol "("] [.symbol ")"] before top ∧
      ReadsClause d .value [.word "LIMIT"] [] after last ∧ top.or last = limit := by
  cases d with
  | sqlServer =>
    obtain ⟨clause, rfl⟩ := limited
    exact ⟨limit, none, clause, .absent, Option.or_none⟩
  | sqlite =>
    obtain ⟨rfl, clause⟩ := limited
    exact ⟨none, limit, .absent, clause, rfl⟩

/-- What can follow a clause: nothing, or a clause that begins with one of these words. -/
def Follows (d : Dialect) (words : List String) (ts : List Token) : Prop :=
  lead d ts = 0 ∧ ∀ t, (∀ word ∈ words, t ≠ .word word) → expect t ts = none

/-- Behind the last ordering comes the row limit or nothing. -/
theorem follows_limit {closing after : List Token} {limit : Option Phrase}
    (read : ReadsClause d .value [.word "LIMIT"] closing after limit) : Follows d ["LIMIT"] after := by
  cases read with
  | absent => exact ⟨rfl, fun _ _ => rfl⟩
  | present inner => exact ⟨rfl, fun t other => if_neg (other "LIMIT" (by decide)).symm⟩

/-- Behind the predicate come the orderings, the row limit or nothing. -/
theorem follows_orderings {orderings after : List Token} {ks : List (Phrase × Bool)}
    (read : ReadsOrderings d orderings ks) (follows : Follows d ["LIMIT"] after) :
    Follows d ["ORDER", "LIMIT"] (orderings ++ after) := by
  cases read with
  | absent =>
    exact ⟨follows.1, fun t other => follows.2 t fun word member => other word (List.mem_cons_of_mem _ member)⟩
  | items read => exact ⟨rfl, fun t other => if_neg (other "ORDER" (by decide)).symm⟩

/-- What the grammar reads, the reader finds. -/
theorem Reads.sentence (read : Reads d ts s) : Grammar.sentence d ts = some s := by
  cases read with
  | @clauses s before projections predicate orderings after limited selected filtered ordered =>
    obtain ⟨top, last, first, final, both⟩ := clauses_of_limit limited
    have atEnd := follows_limit final
    have behindFilter := follows_orderings ordered atEnd
    have beforeFrom : expectAll [.word "TOP", .symbol "("]
        (projections ++ ([.word "FROM", .identifier s.table, .word "AS", .identifier s.tableAlias]
          ++ (predicate ++ (orderings ++ after)))) = none := by
      obtain ⟨t, us, rfl, starts⟩ := selected.started
      have other : t ≠ .word "TOP" := by
        rintro rfl
        exact starts rfl
      rw [List.cons_append, expectAll, expect, if_neg other, Option.bind_none]
    have readTop := clause_append first _ beforeFrom rfl
    have readProjections := projections_append selected ([.word "FROM", .identifier s.table, .word "AS",
      .identifier s.tableAlias] ++ (predicate ++ (orderings ++ after))) rfl rfl rfl
    have readFilter := clause_append filtered (orderings ++ after)
      (by rw [expectAll, behindFilter.2 _ (by decide), Option.bind_none]) behindFilter.1
    have readOrderings := orderings_append ordered atEnd.1 (atEnd.2 _ (by decide)) (atEnd.2 _ (by decide))
      (atEnd.2 _ (by decide))
    have readLimit := clause_append final [] rfl rfl
    rw [List.append_nil] at readLimit
    unfold Grammar.sentence
    simp only [List.append_assoc]
    rw [List.singleton_append, expect_self]
    dsimp only [bind, Option.bind]
    rw [readTop]
    dsimp only
    rw [readProjections]
    dsimp only [List.cons_append, List.nil_append]
    rw [expect_self]
    dsimp only [identifier?, alias?]
    rw [expect_self]
    dsimp only [Option.bind, identifier?]
    rw [readFilter]
    dsimp only
    rw [readOrderings]
    dsimp only
    rw [readLimit]
    dsimp only
    rw [if_pos rfl, both]

/-- Tokens are read as one statement. -/
theorem Reads.unique (first : Reads d ts s) (second : Reads d ts s') : s = s' :=
  Option.some.inj (first.sentence.symm.trans second.sentence)

/-- Tokens that are read as a statement are read as no other. -/
theorem Reads.reads_iff (read : Reads d ts s) (s' : Sentence) : Reads d ts s' ↔ s' = s := by
  refine ⟨fun other => other.unique read, ?_⟩
  rintro rfl
  exact read

end Sentence

end SqlShape
