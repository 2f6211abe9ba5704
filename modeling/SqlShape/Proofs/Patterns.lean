import Mathlib.Data.List.Infix
import SqlShape.Dialect.Functions

/-!
# Patterns

What a pattern match means. A pattern is read twice. The escape character is taken first: the character behind it stands
for itself (`symbols`). Of what is left, a percent sign stands for any text, an underscore for any character and, where
the dialect has classes, brackets for the characters that they list (`pieces`). A pattern that ends in the middle,
behind an escape character or within brackets, matches nothing.

An escaped fragment is read back as its characters, one by one, whatever they are (`pieces_escapePattern`). So what a
fragment followed by anything matches is what starts with the fragment, and a fragment preceded by anything matches what
ends with it.
-/

namespace SqlShape

namespace Pattern

/-- A character of a pattern, with the meaning that it has there or for itself. -/
inductive Symbol where
  | plain (c : Char)
  | escaped (c : Char)
deriving DecidableEq, Repr

/-- The character of a symbol. -/
def Symbol.char : Symbol → Char
  | plain c | escaped c => c

/-- The symbols of a pattern, read from its start or from behind an escape character. -/
def symbols (escape : Option Char) : Bool → List Char → Option (List Symbol)
  | false, [] => some []
  | true, [] => none
  | true, c :: rest => (symbols escape false rest).map (.escaped c :: ·)
  | false, c :: rest =>
    if escape = some c then symbols escape true rest else (symbols escape false rest).map (.plain c :: ·)

/-- A part of a pattern: any text, any character, one character, or one of the characters of a class. -/
inductive Piece where
  | any
  | one
  | exactly (c : Char)
  | among (members : List Symbol)
deriving DecidableEq, Repr

/-- The pieces of a pattern, read from outside of brackets, or from within with the members that were read. -/
def pieces (classes : Bool) : Option (List Symbol) → List Symbol → Option (List Piece)
  | none, [] => some []
  | some _, [] => none
  | none, .escaped c :: rest => (pieces classes none rest).map (.exactly c :: ·)
  | none, .plain c :: rest =>
    if c = '%' then (pieces classes none rest).map (.any :: ·)
    else if c = '_' then (pieces classes none rest).map (.one :: ·)
    else if classes ∧ c = '[' then pieces classes (some []) rest
    else (pieces classes none rest).map (.exactly c :: ·)
  | some members, symbol :: rest =>
    if symbol = .plain ']' then (pieces classes none rest).map (.among members.reverse :: ·)
    else pieces classes (some (symbol :: members)) rest

/-- A character is among members or between the ends of a range. -/
def listed (c : Char) : List Symbol → Bool
  | first :: .plain '-' :: last :: rest => decide (first.char ≤ c ∧ c ≤ last.char) || listed c rest
  | member :: rest => decide (member.char = c) || listed c rest
  | [] => false

/-- A character is of a class; behind a caret the members are those that are not. -/
def inClass (c : Char) : List Symbol → Bool
  | .plain '^' :: members => !listed c members
  | members => listed c members

/-- A text is made up of pieces. -/
def fits : List Piece → List Char → Bool
  | [], s => s.isEmpty
  | .any :: rest, s => s.tails.any (fits rest)
  | .one :: rest, _ :: s => fits rest s
  | .exactly c :: rest, c' :: s => decide (c = c') && fits rest s
  | .among members :: rest, c :: s => inClass c members && fits rest s
  | _ :: _, [] => false

/-- Any text before the rest: the rest fits an end of the text. -/
theorem fits_any {rest : List Piece} {s : List Char} :
    fits (.any :: rest) s = true ↔ ∃ t, t <:+ s ∧ fits rest t = true := by
  simp only [fits, List.any_eq_true, List.mem_tails]

/-- Characters before the rest: the text starts with them, and the rest fits what follows. -/
theorem fits_exactly_append {f : List Char} {rest : List Piece} {s : List Char} :
    fits (f.map .exactly ++ rest) s = true ↔ ∃ t, s = f ++ t ∧ fits rest t = true := by
  induction f generalizing s with
  | nil => simp
  | cons c f later =>
    cases s with
    | nil => simp [fits]
    | cons c' s =>
      simp only [List.map_cons, List.cons_append, fits, Bool.and_eq_true, decide_eq_true_eq, later, List.cons.injEq]
      constructor
      · rintro ⟨rfl, t, rfl, holds⟩
        exact ⟨t, ⟨rfl, rfl⟩, holds⟩
      · rintro ⟨t, ⟨rfl, rfl⟩, holds⟩
        exact ⟨rfl, t, rfl, holds⟩

end Pattern

namespace Dialect

open Pattern

/-- Brackets in a pattern list characters. -/
def hasClasses : Dialect → Bool
  | sqlServer => true
  | sqlite => false

/-- The pieces of a pattern in a dialect. -/
def pieces (d : Dialect) (escape : Option Char) (pattern : List Char) : Option (List Piece) :=
  (symbols escape false pattern).bind (Pattern.pieces d.hasClasses none)

/-- A text matches a pattern. -/
def isLike (d : Dialect) (escape : Option Char) (pattern s : List Char) : Bool :=
  (d.pieces escape pattern).any (fits · s)

/-- The symbol as which a character of a fragment is read back. -/
def symbolOf (d : Dialect) (c : Char) : Symbol :=
  if c = d.functions.patternEscape ∨ c ∈ d.functions.wildcards then .escaped c else .plain c

theorem symbols_escapePattern (d : Dialect) (f rest : List Char) :
    symbols (some d.functions.patternEscape) false (d.escapePattern f ++ rest) =
      (symbols (some d.functions.patternEscape) false rest).map (f.map d.symbolOf ++ ·) := by
  induction f with
  | nil => simp [escapePattern]
  | cons c f later =>
    unfold escapePattern symbolOf
    by_cases special : c = d.functions.patternEscape ∨ c ∈ d.functions.wildcards
    · rw [if_pos special, List.cons_append, List.cons_append, symbols, if_pos rfl, symbols, later, Option.map_map,
        List.map_cons, if_pos special]
      rfl
    · have other : ¬some d.functions.patternEscape = some c := fun same =>
        special (.inl (Option.some.inj same).symm)
      rw [if_neg special, List.cons_append, symbols, if_neg other, later, Option.map_map, List.map_cons, if_neg special]
      rfl

/-- Every character with a meaning in patterns is among the wildcards. -/
theorem pieces_symbolOf (d : Dialect) (c : Char) (rest : List Symbol) :
    Pattern.pieces d.hasClasses none (d.symbolOf c :: rest) =
      (Pattern.pieces d.hasClasses none rest).map (.exactly c :: ·) := by
  unfold symbolOf
  split
  · rfl
  next plain =>
    obtain ⟨-, meaningless⟩ := not_or.mp plain
    cases d with
    | sqlServer =>
      obtain ⟨percent, underscore, bracket⟩ : c ≠ '%' ∧ c ≠ '_' ∧ c ≠ '[' := by
        simpa [functions] using meaningless
      rw [Pattern.pieces, if_neg percent, if_neg underscore, if_neg (bracket ·.2)]
    | sqlite =>
      obtain ⟨percent, underscore⟩ : c ≠ '%' ∧ c ≠ '_' := by
        simpa [functions] using meaningless
      rw [Pattern.pieces, if_neg percent, if_neg underscore, if_neg (Bool.false_ne_true ·.1)]

/-- An escaped fragment is read back as its characters. -/
theorem pieces_escapePattern (d : Dialect) (f rest : List Char) :
    d.pieces (some d.functions.patternEscape) (d.escapePattern f ++ rest) =
      (d.pieces (some d.functions.patternEscape) rest).map (f.map .exactly ++ ·) := by
  have marked : ∀ symbols, Pattern.pieces d.hasClasses none (f.map d.symbolOf ++ symbols) =
      (Pattern.pieces d.hasClasses none symbols).map (f.map .exactly ++ ·) := by
    intro symbols
    induction f with
    | nil => simp
    | cons c f later =>
      rw [List.map_cons, List.cons_append, pieces_symbolOf, later, Option.map_map]
      rfl
  unfold pieces
  rw [symbols_escapePattern, Option.bind_map, Option.map_bind]
  exact congrArg _ (funext marked)

/-- A fragment followed by anything matches what starts with it. -/
theorem isLike_fragment_any (d : Dialect) (f s : List Char) :
    d.isLike (some d.functions.patternEscape) (d.escapePattern f ++ ['%']) s = true ↔ f <+: s := by
  have any : d.pieces (some d.functions.patternEscape) ['%'] = some [.any] := by cases d <;> rfl
  unfold isLike
  rw [pieces_escapePattern, any, Option.map_some, Option.any_some, fits_exactly_append]
  constructor
  · rintro ⟨t, rfl, -⟩
    exact List.prefix_append f t
  · rintro ⟨t, rfl⟩
    exact ⟨t, rfl, fits_any.mpr ⟨[], List.nil_suffix, rfl⟩⟩

-- As a pattern, brackets are a class in SQL Server; escaped, they stand for themselves.
example : sqlServer.isLike (some '\\') ['[', 'a', ']', '%'] ['a', 'b'] = true ∧
    sqlServer.isLike (some '\\') (sqlServer.escapePattern ['[', 'a', ']'] ++ ['%']) ['a', 'b'] = false := by
  decide

/-- A fragment preceded by anything matches what ends with it. -/
theorem isLike_any_fragment (d : Dialect) (f s : List Char) :
    d.isLike (some d.functions.patternEscape) ('%' :: d.escapePattern f) s = true ↔ f <:+ s := by
  have read : d.pieces (some d.functions.patternEscape) ('%' :: d.escapePattern f) =
      (d.pieces (some d.functions.patternEscape) (d.escapePattern f)).map (.any :: ·) := by
    have plain : ¬some d.functions.patternEscape = some '%' := by cases d <;> decide
    unfold pieces
    rw [symbols, if_neg plain, Option.bind_map, Option.map_bind]
    rfl
  have fragment := d.pieces_escapePattern f []
  rw [List.append_nil, show d.pieces _ [] = some [] from rfl, Option.map_some] at fragment
  unfold isLike
  rw [read, fragment, Option.map_some, Option.any_some, fits_any]
  simp only [fits_exactly_append, fits, List.isEmpty_iff]
  constructor
  · rintro ⟨t, ends, _, rfl, rfl⟩
    rwa [List.append_nil] at ends
  · intro ends
    exact ⟨f, ends, [], (List.append_nil f).symm, rfl⟩

end Dialect

end SqlShape
