import SqlShape.Proofs.Misreading
import SqlShape.Proofs.Sentence

/-!
# Statements as they are read

A statement stands for a sentence, clause by clause (`Dialect.sentence`). A statement of clear expressions is read as
its sentence (`tokens_read`). On SQLite, a statement that is read as its sentence has only legible expressions
(`tokens_legible`): what is written for the clauses has the sizes of what is read, so both are divided at the same
places.
-/

namespace SqlShape

open Grammar

namespace Dialect

variable {d : Dialect} {s : Select String} {lexemes : List Lexeme}

/-- A statement as it is to be read. -/
def sentence (d : Dialect) (s : Select String) : Sentence where
  projections := s.projections.map fun p => (d.valuePhrase p.expr, p.label)
  table := s.table
  tableAlias := s.tableAlias
  predicate := s.predicate.map d.conditionPhrase
  orderings := s.orderings.map fun o => (d.valuePhrase o.expr, o.ascending)
  limit := s.limit.map d.valuePhrase

/-! ## Written clauses -/

/-- The tokens of a written value, its phrase and what is noted behind it. -/
def noted {α σ : Type} (d : Dialect) (expr : α → Expr String) (note : α → σ) (p : α × List Lexeme) :
    List Token × Phrase × σ :=
  (p.2.flatMap (Lexeme.tokens d), d.valuePhrase (expr p.1), note p.1)

/-- What is noted of written parts does not depend on how they are written. -/
theorem map_noted {α σ : Type} (expr : α → Expr String) (note : α → σ) (pairs : List (α × List Lexeme)) :
    (pairs.map (d.noted expr note)).map Prod.snd =
      (pairs.map Prod.fst).map fun a => (d.valuePhrase (expr a), note a) := by
  rw [List.map_map, List.map_map]
  rfl

/-- Values in a row are written one by one, each with what is behind it. -/
theorem list_written {α σ : Type} {write : α → Written} {expr : α → Expr String} {note : α → σ}
    {behind : σ → List Token} {items : List α} {parts : List (List Lexeme)}
    (each : ∀ a lexemes, write a = .ok lexemes → ∃ inner, d.writeValue (expr a) = .ok inner ∧
      lexemes.flatMap (Lexeme.tokens d) = inner.flatMap (Lexeme.tokens d) ++ behind (note a))
    (written : items.mapM write = .ok parts) :
    ∃ pairs : List (α × List Lexeme), pairs.map Prod.fst = items ∧ (∀ p ∈ pairs, d.writeValue (expr p.1) = .ok p.2) ∧
      (Lexeme.commaSeparated parts).flatMap (Lexeme.tokens d) =
        separated ((pairs.map (d.noted expr note)).map fun part => part.1 ++ behind part.2.2) := by
  rw [tokens_commaSeparated]
  suffices found : ∃ pairs : List (α × List Lexeme), pairs.map Prod.fst = items ∧
      (∀ p ∈ pairs, d.writeValue (expr p.1) = .ok p.2) ∧
      parts.map (fun part => part.flatMap (Lexeme.tokens d)) =
        (pairs.map (d.noted expr note)).map fun part => part.1 ++ behind part.2.2 by
    obtain ⟨pairs, same, each, tokens⟩ := found
    exact ⟨pairs, same, each, congrArg separated tokens⟩
  have steps := forall₂_of_mapM (fun a _ lexemes => each a lexemes) written
  clear written
  induction steps with
  | nil => exact ⟨[], rfl, List.forall_mem_nil _, rfl⟩
  | @cons a part items parts here _ later =>
    obtain ⟨inner, found, tokens⟩ := here
    obtain ⟨pairs, same, others, tokens'⟩ := later
    refine ⟨(a, inner) :: pairs, congrArg (a :: ·) same, List.forall_mem_cons.mpr ⟨found, others⟩, ?_⟩
    rw [List.map_cons, List.map_cons, List.map_cons, tokens, tokens']
    rfl

/-- A projection is a value with its label. -/
theorem projection_written {p : Projection String} (written : d.projection p = .ok lexemes) :
    ∃ inner, d.writeValue p.expr = .ok inner ∧
      lexemes.flatMap (Lexeme.tokens d) = inner.flatMap (Lexeme.tokens d) ++ aliasTokens p.label := by
  have label : Lexeme.tokens d (.plain " AS ") = [.word "AS"] := by
    cases d <;> decide
  obtain ⟨inner, found, rest⟩ := bind_eq_ok.mp written
  cases rest
  refine ⟨inner, found, ?_⟩
  rw [List.flatMap_append, List.flatMap_cons, List.flatMap_singleton, label]
  rfl

/-- A statement without projections selects the number one. -/
theorem projections_written (written : d.projections s = .ok lexemes) :
    (s.projections = [] ∧ lexemes.flatMap (Lexeme.tokens d) = [.number "1"]) ∨
      ∃ pairs : List (Projection String × List Lexeme), pairs ≠ [] ∧ pairs.map Prod.fst = s.projections ∧
        (∀ p ∈ pairs, d.writeValue p.1.expr = .ok p.2) ∧
        lexemes.flatMap (Lexeme.tokens d) = separated
          ((pairs.map (d.noted Projection.expr Projection.label)).map fun part => part.1 ++ aliasTokens part.2.2) := by
  have one : Lexeme.tokens d (.plain "1") = [.number "1"] := by
    cases d <;> decide
  unfold projections at written
  split at written
  next none =>
    cases written
    exact .inl ⟨none, by rw [List.flatMap_singleton, one]⟩
  next some =>
    obtain ⟨parts, found, rest⟩ := bind_eq_ok.mp written
    cases rest
    obtain ⟨pairs, same, each, tokens⟩ := list_written (fun _ _ => projection_written) found
    refine .inr ⟨pairs, ?_, same, each, tokens⟩
    rintro rfl
    exact some same.symm

/-- A predicate is written as a condition behind its word. -/
theorem whereClause_written (written : d.whereClause s = .ok lexemes) :
    (s.predicate = none ∧ lexemes.flatMap (Lexeme.tokens d) = []) ∨
      ∃ e inner, s.predicate = some e ∧ d.writeCondition e = .ok inner ∧
        lexemes.flatMap (Lexeme.tokens d) = [.word "WHERE"] ++ inner.flatMap (Lexeme.tokens d) := by
  have opening : Lexeme.tokens d (.plain " WHERE ") = [.word "WHERE"] := by
    cases d <;> decide
  unfold whereClause at written
  split at written
  next e present =>
    obtain ⟨inner, found, rest⟩ := bind_eq_ok.mp written
    cases rest
    refine .inr ⟨e, inner, present, found, ?_⟩
    rw [List.flatMap_append, List.flatMap_singleton, opening]
  next absent =>
    cases written
    exact .inl ⟨absent, rfl⟩

/-- An ordering is a value; only the descending direction is written. -/
theorem sortKey_written {k : SortKey String} (written : d.sortKey k = .ok lexemes) :
    ∃ inner, d.writeValue k.expr = .ok inner ∧
      lexemes.flatMap (Lexeme.tokens d) = inner.flatMap (Lexeme.tokens d) ++ directionTokens k.ascending := by
  have descending : Lexeme.tokens d (.plain " DESC") = [.word "DESC"] := by
    cases d <;> decide
  obtain ⟨inner, found, rest⟩ := bind_eq_ok.mp written
  cases rest
  refine ⟨inner, found, ?_⟩
  rw [List.flatMap_append]
  cases k.ascending with
  | true => rfl
  | false =>
    rw [if_neg Bool.false_ne_true, List.flatMap_singleton, descending]
    rfl

/-- Orderings are written behind their words with commas between them. -/
theorem orderClause_written (written : d.orderClause s = .ok lexemes) :
    (s.orderings = [] ∧ lexemes.flatMap (Lexeme.tokens d) = []) ∨
      ∃ pairs : List (SortKey String × List Lexeme), pairs ≠ [] ∧ pairs.map Prod.fst = s.orderings ∧
        (∀ p ∈ pairs, d.writeValue p.1.expr = .ok p.2) ∧
        lexemes.flatMap (Lexeme.tokens d) = [.word "ORDER", .word "BY"] ++ separated
          ((pairs.map (d.noted SortKey.expr SortKey.ascending)).map fun part =>
            part.1 ++ directionTokens part.2.2) := by
  have opening : Lexeme.tokens d (.plain " ORDER BY ") = [.word "ORDER", .word "BY"] := by
    cases d <;> decide
  unfold orderClause at written
  split at written
  next none =>
    cases written
    exact .inl ⟨none, rfl⟩
  next some =>
    obtain ⟨parts, found, rest⟩ := bind_eq_ok.mp written
    cases rest
    obtain ⟨pairs, same, each, tokens⟩ := list_written (fun _ _ => sortKey_written) found
    refine .inr ⟨pairs, ?_, same, each, ?_⟩
    · rintro rfl
      exact some same.symm
    · rw [List.flatMap_append, List.flatMap_singleton, opening, tokens]

/-- The row limit is before the projections on SQL Server and at the end on SQLite. -/
theorem limit_written {top limit : List Lexeme} (written : d.topClause s = .ok top)
    (written' : d.limitClause s = .ok limit) :
    (s.limit = none ∧ top = [] ∧ limit = []) ∨
      ∃ e inner, s.limit = some e ∧ d.writeValue e = .ok inner ∧
        ((d = .sqlServer ∧ limit = [] ∧
            top.flatMap (Lexeme.tokens d) =
              [.word "TOP", .symbol "("] ++ inner.flatMap (Lexeme.tokens d) ++ [.symbol ")"]) ∨
          (d = .sqlite ∧ top = [] ∧
            limit.flatMap (Lexeme.tokens d) = [.word "LIMIT"] ++ inner.flatMap (Lexeme.tokens d))) := by
  unfold topClause at written
  unfold limitClause at written'
  cases present : s.limit with
  | none =>
    rw [present] at written written'
    cases d <;> cases written <;> cases written' <;> exact .inl ⟨rfl, rfl, rfl⟩
  | some e =>
    rw [present] at written written'
    cases d with
    | sqlServer =>
      have opening : Lexeme.tokens .sqlServer (.plain "TOP(") = [.word "TOP", .symbol "("] := by decide
      have closing : Lexeme.tokens .sqlServer (.plain ") ") = [.symbol ")"] := by decide
      cases written'
      obtain ⟨inner, found, rest⟩ := bind_eq_ok.mp written
      cases rest
      refine .inr ⟨e, inner, rfl, found, .inl ⟨rfl, rfl, ?_⟩⟩
      rw [List.flatMap_append, List.flatMap_append, List.flatMap_singleton, List.flatMap_singleton, opening, closing]
    | sqlite =>
      have opening : Lexeme.tokens .sqlite (.plain " LIMIT ") = [.word "LIMIT"] := by decide
      cases written
      obtain ⟨inner, found, rest⟩ := bind_eq_ok.mp written'
      cases rest
      refine .inr ⟨e, inner, rfl, found, .inr ⟨rfl, rfl, ?_⟩⟩
      rw [List.flatMap_append, List.flatMap_singleton, opening]

/-- A statement is written clause by clause. -/
theorem tokens_written {tokens : List Token} (written : d.tokens s = .ok tokens) :
    ∃ top projections condition order limit, d.topClause s = .ok top ∧ d.projections s = .ok projections ∧
      d.whereClause s = .ok condition ∧ d.orderClause s = .ok order ∧ d.limitClause s = .ok limit ∧
      tokens = [.word "SELECT"] ++ top.flatMap (Lexeme.tokens d) ++ projections.flatMap (Lexeme.tokens d)
          ++ [.word "FROM", .identifier s.table, .word "AS", .identifier s.tableAlias]
          ++ condition.flatMap (Lexeme.tokens d) ++ order.flatMap (Lexeme.tokens d)
          ++ limit.flatMap (Lexeme.tokens d) := by
  have select : Lexeme.tokens d (.plain "SELECT ") = [.word "SELECT"] := by
    cases d <;> decide
  have source : (fromClause s).flatMap (Lexeme.tokens d) =
      [.word "FROM", .identifier s.table, .word "AS", .identifier s.tableAlias] := by
    have opening : Lexeme.tokens d (.plain " FROM ") = [.word "FROM"] := by
      cases d <;> decide
    have label : Lexeme.tokens d (.plain " AS ") = [.word "AS"] := by
      cases d <;> decide
    rw [fromClause, List.flatMap_cons, List.flatMap_cons, List.flatMap_cons, List.flatMap_singleton, opening, label]
    rfl
  obtain ⟨lexemes, found, rest⟩ := bind_eq_ok.mp written
  cases rest
  obtain ⟨top, written₁, rest⟩ := bind_eq_ok.mp found
  obtain ⟨projections, written₂, rest⟩ := bind_eq_ok.mp rest
  obtain ⟨condition, written₃, rest⟩ := bind_eq_ok.mp rest
  obtain ⟨order, written₄, rest⟩ := bind_eq_ok.mp rest
  obtain ⟨limit, written₅, rest⟩ := bind_eq_ok.mp rest
  cases rest
  refine ⟨top, projections, condition, order, limit, written₁, written₂, written₃, written₄, written₅, ?_⟩
  simp only [List.flatMap_append, List.flatMap_singleton, select, source]

/-! ## Clauses that are read -/

section Reading

variable (clear : ∀ e ∈ s.expressions, e.Everywhere (Expr.Clear d))

include clear

/-- A clear value of the statement is read as its phrase. -/
theorem writeValue_reads {e : Expr String} (member : e ∈ s.expressions) (written : d.writeValue e = .ok lexemes) :
    Reads d (d.category .value) 0 0 (lexemes.flatMap (Lexeme.tokens d)) (d.valuePhrase e) :=
  value_reads (node_reads (clear e member)) written

/-- Clear values in a list are read one by one, each with what is noted behind it. -/
theorem list_reads {α σ : Type} {expr : α → Expr String} {note : α → σ} {behind : σ → List Token}
    {pairs : List (α × List Lexeme)} (some : pairs ≠ []) (members : ∀ p ∈ pairs, expr p.1 ∈ s.expressions)
    (each : ∀ p ∈ pairs, d.writeValue (expr p.1) = .ok p.2) :
    ReadsList d behind (separated ((pairs.map (d.noted expr note)).map fun part => part.1 ++ behind part.2.2))
      ((pairs.map Prod.fst).map fun a => (d.valuePhrase (expr a), note a)) := by
  rw [← map_noted]
  refine .items _ (fun none => some (List.map_eq_nil_iff.mp none)) (List.forall_mem_map.mpr fun p member => ?_)
  exact writeValue_reads clear (members p member) (each p member)

/-- The projections are read as those of the sentence. -/
theorem projections_read (written : d.projections s = .ok lexemes) :
    ReadsProjections d (lexemes.flatMap (Lexeme.tokens d)) (d.sentence s).projections := by
  unfold sentence
  rcases projections_written written with ⟨none, tokens⟩ | ⟨pairs, some, same, each, tokens⟩
  · rw [none, tokens]
    exact .one
  · have members : ∀ p ∈ pairs, p.1.expr ∈ s.expressions := fun p member =>
      Select.mem_expressions.mpr (.inl ⟨p.1, same ▸ List.mem_map_of_mem member, rfl⟩)
    rw [tokens, ← same]
    exact .items (list_reads clear some members each)

/-- The predicate is read as that of the sentence. It must be a truth value, for a condition is made of it. -/
theorem whereClause_reads (bool : ∀ e ∈ s.predicate, e.type = .bool) (written : d.whereClause s = .ok lexemes) :
    ReadsClause d .condition [.word "WHERE"] [] (lexemes.flatMap (Lexeme.tokens d)) (d.sentence s).predicate := by
  unfold sentence
  rcases whereClause_written written with ⟨absent, tokens⟩ | ⟨e, inner, present, found, tokens⟩
  · rw [absent, tokens]
    exact .absent
  · have clear := clear e (Select.mem_expressions.mpr (.inr (.inl present)))
    have read : ReadsClause d .condition [.word "WHERE"] [] _ _ :=
      .present (condition_reads (node_reads clear) (bool e present) found)
    rw [present, tokens]
    rwa [List.append_nil] at read

/-- The orderings are read as those of the sentence. -/
theorem orderClause_reads (written : d.orderClause s = .ok lexemes) :
    ReadsOrderings d (lexemes.flatMap (Lexeme.tokens d)) (d.sentence s).orderings := by
  unfold sentence
  rcases orderClause_written written with ⟨none, tokens⟩ | ⟨pairs, some, same, each, tokens⟩
  · rw [none, tokens]
    exact .absent
  · have members : ∀ p ∈ pairs, p.1.expr ∈ s.expressions := fun p member =>
      Select.mem_expressions.mpr (.inr (.inr (.inl ⟨p.1, same ▸ List.mem_map_of_mem member, rfl⟩)))
    rw [tokens, ← same]
    exact .items (list_reads clear some members each)

/-- The row limit is read as that of the sentence, wherever the dialect writes it. -/
theorem limit_reads {top limit : List Lexeme} (written : d.topClause s = .ok top)
    (written' : d.limitClause s = .ok limit) :
    ReadsLimit d (top.flatMap (Lexeme.tokens d)) (limit.flatMap (Lexeme.tokens d)) (d.sentence s).limit := by
  unfold sentence
  rcases limit_written written written' with ⟨absent, rfl, rfl⟩ | ⟨e, inner, present, found, places⟩
  · rw [absent]
    cases d with
    | sqlServer => exact ⟨.absent, rfl⟩
    | sqlite => exact ⟨rfl, .absent⟩
  · have read := writeValue_reads clear (Select.mem_expressions.mpr (.inr (.inr (.inr present)))) found
    rw [present]
    rcases places with ⟨rfl, rfl, tokens⟩ | ⟨rfl, rfl, tokens⟩
    · have clause : ReadsClause .sqlServer .value [.word "TOP", .symbol "("] [.symbol ")"] _ _ := .present read
      rw [tokens]
      exact ⟨clause, rfl⟩
    · have clause : ReadsClause .sqlite .value [.word "LIMIT"] [] _ _ := .present read
      rw [List.append_nil] at clause
      rw [tokens]
      exact ⟨rfl, clause⟩

end Reading

/-- The tokens of a statement of clear expressions are read as its sentence. -/
theorem tokens_read {tokens : List Token} (clear : ∀ e ∈ s.expressions, e.Everywhere (Expr.Clear d))
    (bool : ∀ e ∈ s.predicate, e.type = .bool) (written : d.tokens s = .ok tokens) :
    (d.sentence s).Reads d tokens := by
  obtain ⟨top, projections, condition, order, limit, written₁, written₂, written₃, written₄, written₅, rfl⟩ :=
    tokens_written written
  exact Sentence.Reads.clauses (limit_reads clear written₁ written₅) (projections_read clear written₂)
    (whereClause_reads clear bool written₃) (orderClause_reads clear written₄)

end Dialect

/-! ## Readings taken apart -/

namespace Grammar

variable {d : Dialect} {place : Place} {σ : Type} {behind : σ → List Token}
  {opening closing ts us rest rest' : List Token} {x : Phrase}

/-- What divides still does with a text behind it. -/
theorem divides_append (first : Divides ts) (second : Divides us) : Divides (ts ++ us) := by
  cases ts with
  | nil => exact second
  | cons t ts => exact first

/-- A clause starts with its first word or is empty, and so divides. -/
theorem ReadsClause.divides {x : Option Phrase} (read : ReadsClause d place opening closing ts x) (some : opening ≠ [])
    (begins : Divides opening) : Divides ts := by
  cases read with
  | absent =>
    intro t member
    cases member
  | present inner =>
    cases opening with
    | nil => exact absurd rfl some
    | cons t opening => exact begins

/-- The orderings start with their word or are empty. -/
theorem ReadsOrderings.divides {ks : List (Phrase × Bool)} (read : ReadsOrderings d ts ks) : Divides ts := by
  cases read with
  | absent =>
    intro t member
    cases member
  | items =>
    intro t member
    cases member
    rfl

theorem ReadsList.ne_nil {xs : List (Phrase × σ)} (read : ReadsList d behind ts xs) : xs ≠ [] := by
  cases read with
  | items parts some _ => exact fun none => some (List.map_eq_nil_iff.mp none)

/-- A clause is divided from what follows it where its phrase ends. -/
theorem ReadsClause.of_present (spelled : Spells ts x) (read : ReadsClause d place opening [] us (some x))
    (same : opening ++ ts ++ rest = us ++ rest') (divides : Divides rest) (divides' : Divides rest') :
    rest = rest' ∧ Reads d (d.category place) 0 0 ts x := by
  cases read with
  | present inner =>
    rw [List.append_nil, List.append_assoc, List.append_assoc] at same
    obtain ⟨rfl, tail⟩ := append_inj_of_size (List.append_cancel_left same)
      (spelled.size.trans inner.spells.size.symm) divides divides'
    exact ⟨tail, inner⟩

/-- Values with notes have the sizes of their phrases and notes. -/
theorem map_size_noted {parts : List (List Token × Phrase × σ)} (each : ∀ part ∈ parts, Spells part.1 part.2.1) :
    (parts.map fun part => part.1 ++ behind part.2.2).map size =
      (parts.map Prod.snd).map fun x => x.1.size + size (behind x.2) := by
  rw [List.map_map, List.map_map]
  refine List.map_congr_left fun part member => ?_
  rw [Function.comp, Function.comp, size_append, (each part member).size]

/-- Values in a row are divided from each other and from what follows them where their phrases end. -/
theorem ReadsList.of_parts {parts : List (List Token × Phrase × σ)} (each : ∀ part ∈ parts, Spells part.1 part.2.1)
    (read : ReadsList d behind us (parts.map Prod.snd))
    (same : separated (parts.map fun part => part.1 ++ behind part.2.2) ++ rest = us ++ rest')
    (divides : Divides rest) (divides' : Divides rest') :
    rest = rest' ∧ ∀ part ∈ parts, Reads d (d.category .value) 0 0 part.1 part.2.1 := by
  generalize notes : parts.map Prod.snd = xs at read
  cases read with
  | items parts' some each' =>
    have sizes : (parts.map fun part => part.1 ++ behind part.2.2).map size =
        (parts'.map fun part => part.1 ++ behind part.2.2).map size := by
      rw [map_size_noted each, map_size_noted fun part member => (each' part member).spells, notes]
    obtain ⟨listed, tail⟩ := append_inj_of_size same (size_separated_congr sizes) divides divides'
    have both := congrArg₂ List.zip (separated_inj sizes listed) notes
    rw [List.zip_map', List.zip_map'] at both
    have same : parts = parts' := by
      refine List.map_injective_iff.mpr (fun part part' same => ?_) both
      obtain ⟨tokens, noted⟩ := Prod.mk.inj same
      rw [noted] at tokens
      exact Prod.ext (List.append_cancel_right tokens) noted
    rw [same]
    exact ⟨tail, each'⟩

end Grammar

namespace Dialect

variable {s : Select String} {lexemes : List Lexeme} {us rest rest' : List Token}

section Legible

variable (regular : ∀ e ∈ s.expressions, e.Everywhere (Expr.Regular .sqlite))

include regular

/-- A value that is read as its phrase is legible. -/
theorem writeValue_legible {e : Expr String} (member : e ∈ s.expressions) (written : sqlite.writeValue e = .ok lexemes)
    (read : Reads .sqlite (category .sqlite .value) 0 0 (lexemes.flatMap (Lexeme.tokens .sqlite))
      (sqlite.valuePhrase e)) :
    e.Everywhere fun n => n.isLegible .sqlite = true :=
  (fitted_legible (node_legible (regular e member)) written read).legible

/-- A list that is read as its phrases is divided where it was written, so its values are legible one by one. -/
theorem list_legible {α σ : Type} {expr : α → Expr String} {note : α → σ} {behind : σ → List Token}
    {pairs : List (α × List Lexeme)} (members : ∀ p ∈ pairs, expr p.1 ∈ s.expressions)
    (each : ∀ p ∈ pairs, sqlite.writeValue (expr p.1) = .ok p.2)
    (read : ReadsList .sqlite behind us ((pairs.map Prod.fst).map fun a => (sqlite.valuePhrase (expr a), note a)))
    (same : separated ((pairs.map (sqlite.noted expr note)).map fun part => part.1 ++ behind part.2.2) ++ rest =
      us ++ rest')
    (divides : Divides rest) (divides' : Divides rest') :
    rest = rest' ∧ ∀ a ∈ pairs.map Prod.fst, (expr a).Everywhere fun n => n.isLegible .sqlite = true := by
  rw [← map_noted] at read
  have spelled : ∀ part ∈ pairs.map (sqlite.noted expr note), Spells part.1 part.2.1 :=
    List.forall_mem_map.mpr fun p member =>
      fitted_spells (node_spells (regular (expr p.1) (members p member))) (each p member)
  obtain ⟨tail, reads⟩ := read.of_parts spelled same divides divides'
  refine ⟨tail, List.forall_mem_map.mpr fun p member => ?_⟩
  exact writeValue_legible regular (members p member) (each p member) (reads _ (List.mem_map_of_mem member))

/-- The projections end where they were written to end, and are legible. -/
theorem projections_legible (written : sqlite.projections s = .ok lexemes)
    (read : ReadsProjections .sqlite us (sqlite.sentence s).projections)
    (same : lexemes.flatMap (Lexeme.tokens .sqlite) ++ rest = us ++ rest') (divides : Divides rest)
    (divides' : Divides rest') :
    rest = rest' ∧ ∀ p ∈ s.projections, p.expr.Everywhere fun n => n.isLegible .sqlite = true := by
  unfold sentence at read
  rcases projections_written written with ⟨none, tokens⟩ | ⟨pairs, some, listed, each, tokens⟩
  · rw [none] at read ⊢
    rw [tokens] at same
    cases read with
    | one => exact ⟨List.append_cancel_left same, List.forall_mem_nil _⟩
    | items read => exact absurd rfl read.ne_nil
  · have members : ∀ p ∈ pairs, p.1.expr ∈ s.expressions := fun p member =>
      Select.mem_expressions.mpr (.inl ⟨p.1, listed ▸ List.mem_map_of_mem member, rfl⟩)
    rw [← listed] at read ⊢
    rw [tokens] at same
    generalize found : (pairs.map Prod.fst).map _ = xs at read
    cases read with
    | one => exact absurd (List.map_eq_nil_iff.mp (List.map_eq_nil_iff.mp found)) some
    | items read =>
      rw [← found] at read
      exact list_legible regular members each read same divides divides'

/-- The predicate ends where it was written to end, and is legible. -/
theorem whereClause_legible (written : sqlite.whereClause s = .ok lexemes)
    (read : ReadsClause .sqlite .condition [.word "WHERE"] [] us (sqlite.sentence s).predicate)
    (same : lexemes.flatMap (Lexeme.tokens .sqlite) ++ rest = us ++ rest') (divides : Divides rest)
    (divides' : Divides rest') :
    rest = rest' ∧ ∀ e ∈ s.predicate, e.Everywhere fun n => n.isLegible .sqlite = true := by
  unfold sentence at read
  rcases whereClause_written written with ⟨absent, tokens⟩ | ⟨e, inner, present, found, tokens⟩
  · rw [absent] at read ⊢
    rw [tokens] at same
    cases read
    exact ⟨same, fun e member => by cases member⟩
  · have regular := regular e (Select.mem_expressions.mpr (.inr (.inl present)))
    rw [present] at read ⊢
    rw [tokens] at same
    obtain ⟨tail, read⟩ := ReadsClause.of_present (fitted_spells (node_spells regular) found) read same divides divides'
    refine ⟨tail, fun e' member => ?_⟩
    cases member
    exact (fitted_legible (node_legible regular) found read).legible

/-- The orderings end where they were written to end, and are legible. -/
theorem orderClause_legible (written : sqlite.orderClause s = .ok lexemes)
    (read : ReadsOrderings .sqlite us (sqlite.sentence s).orderings)
    (same : lexemes.flatMap (Lexeme.tokens .sqlite) ++ rest = us ++ rest') (divides : Divides rest)
    (divides' : Divides rest') :
    rest = rest' ∧ ∀ o ∈ s.orderings, o.expr.Everywhere fun n => n.isLegible .sqlite = true := by
  unfold sentence at read
  rcases orderClause_written written with ⟨none, tokens⟩ | ⟨pairs, some, listed, each, tokens⟩
  · rw [none] at read ⊢
    rw [tokens] at same
    cases read with
    | absent => exact ⟨same, List.forall_mem_nil _⟩
    | items read => exact absurd rfl read.ne_nil
  · have members : ∀ p ∈ pairs, p.1.expr ∈ s.expressions := fun p member =>
      Select.mem_expressions.mpr (.inr (.inr (.inl ⟨p.1, listed ▸ List.mem_map_of_mem member, rfl⟩)))
    rw [← listed] at read ⊢
    rw [tokens] at same
    generalize found : (pairs.map Prod.fst).map _ = xs at read
    cases read with
    | absent => exact absurd (List.map_eq_nil_iff.mp (List.map_eq_nil_iff.mp found)) some
    | items read =>
      rw [← found] at read
      rw [List.append_assoc, List.append_assoc] at same
      exact list_legible regular members each read (List.append_cancel_left same) divides divides'

/-- The row limit is the last clause, so nothing is left to divide. -/
theorem limit_legible {top limit : List Lexeme} (written : sqlite.topClause s = .ok top)
    (written' : sqlite.limitClause s = .ok limit)
    (read : ReadsClause .sqlite .value [.word "LIMIT"] [] us (sqlite.sentence s).limit)
    (same : limit.flatMap (Lexeme.tokens .sqlite) = us) :
    ∀ e ∈ s.limit, e.Everywhere fun n => n.isLegible .sqlite = true := by
  unfold sentence at read
  rcases limit_written written written' with ⟨absent, -, -⟩ | ⟨e, inner, present, found, places⟩
  · rw [absent]
    intro e member
    cases member
  · have member := Select.mem_expressions.mpr (.inr (.inr (.inr present)))
    have spelled := fitted_spells (node_spells (regular e member)) found
    have nothing : Divides [] := fun t member => by cases member
    rcases places with ⟨other, -, -⟩ | ⟨-, -, tokens⟩
    · cases other
    rw [present] at read ⊢
    rw [← same, tokens] at read
    obtain ⟨-, read⟩ := ReadsClause.of_present spelled read rfl nothing nothing
    intro e' inside
    cases inside
    exact writeValue_legible regular member found read

end Legible

/-- The clauses behind the predicate begin with words. -/
theorem divides_orderClause (written : sqlite.orderClause s = .ok lexemes) :
    Divides (lexemes.flatMap (Lexeme.tokens .sqlite)) := by
  intro t member
  rcases orderClause_written written with ⟨-, tokens⟩ | ⟨pairs, -, -, -, tokens⟩
  · rw [tokens] at member
    cases member
  · rw [tokens] at member
    cases member
    rfl

/-- The clause of the row limit starts with its word or is empty. -/
theorem divides_limitClause {top : List Lexeme} (written : sqlite.topClause s = .ok top)
    (written' : sqlite.limitClause s = .ok lexemes) : Divides (lexemes.flatMap (Lexeme.tokens .sqlite)) := by
  intro t member
  rcases limit_written written written' with ⟨-, -, rfl⟩ | ⟨e, inner, -, -, places⟩
  · cases member
  · rcases places with ⟨other, -, -⟩ | ⟨-, -, tokens⟩
    · cases other
    · rw [tokens] at member
      cases member
      rfl

/-- A statement whose tokens are read as its sentence has only legible expressions. -/
theorem tokens_legible {tokens : List Token} (regular : ∀ e ∈ s.expressions, e.Everywhere (Expr.Regular .sqlite))
    (written : sqlite.tokens s = .ok tokens) (read : (sqlite.sentence s).Reads .sqlite tokens) :
    ∀ e ∈ s.expressions, e.Everywhere fun n => n.isLegible .sqlite = true := by
  obtain ⟨top, projections, condition, order, limit, written₁, written₂, written₃, written₄, written₅, rfl⟩ :=
    tokens_written written
  have noTop : top.flatMap (Lexeme.tokens .sqlite) = [] := by
    cases written₁
    rfl
  have source : ∀ ts, Divides ([.word "FROM", .identifier s.table, .word "AS", .identifier s.tableAlias] ++ ts) :=
    fun ts t member => by cases member; rfl
  rw [noTop] at read
  generalize same : [Token.word "SELECT"] ++ [] ++ _ ++ _ ++ _ ++ _ ++ _ = whole at read
  cases read with
  | clauses limited selected filtered ordered =>
    obtain ⟨rfl, limited⟩ := limited
    simp only [List.append_assoc, List.nil_append] at same
    obtain ⟨behind, first⟩ := projections_legible regular written₂ selected (List.append_cancel_left same) (source _)
      (source _)
    have last := divides_limitClause written₁ written₅
    have last' := limited.divides (List.cons_ne_nil _ _) fun t member => by cases member; rfl
    obtain ⟨behind, second⟩ := whereClause_legible regular written₃ filtered (List.append_cancel_left behind)
      (divides_append (divides_orderClause written₄) last) (divides_append ordered.divides last')
    obtain ⟨behind, third⟩ := orderClause_legible regular written₄ ordered behind last last'
    have fourth := limit_legible regular written₁ written₅ limited behind
    intro e member
    rcases Select.mem_expressions.mp member with ⟨p, inside, rfl⟩ | inside | ⟨o, inside, rfl⟩ | inside
    · exact first p inside
    · exact second e inside
    · exact third o inside
    · exact fourth e inside

end Dialect

end SqlShape
