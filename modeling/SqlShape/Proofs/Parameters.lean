import SqlShape.Query.Shape

/-!
# The parameters of a shape

A shape declares a parameter with a type wherever it stands, at any depth. `Shape.parameters` lists the names that are
declared, in strictly ascending order, each with one of the types that it is declared with.
-/

namespace SqlShape

/-- Names with the types they are declared with. -/
abbrev Declarations :=
  String → LogicalType → Prop

namespace QueryExpr

/-- An expression declares a parameter that stands in it. -/
inductive Declares : QueryExpr → Declarations
  | parameter (name : String) (type : LogicalType) : Declares (.parameter name type) name type
  | left {op : BinaryOp} {l r : QueryExpr} {name : String} {type : LogicalType} (here : l.Declares name type) :
      Declares (.binary op l r) name type
  | right {op : BinaryOp} {l r : QueryExpr} {name : String} {type : LogicalType} (here : r.Declares name type) :
      Declares (.binary op l r) name type
  | not {operand : QueryExpr} {name : String} {type : LogicalType} (here : operand.Declares name type) :
      Declares (.not operand) name type
  | convert {operand : QueryExpr} {target : LogicalType} {name : String} {type : LogicalType}
      (here : operand.Declares name type) : Declares (.convert operand target) name type
  | receiver {e : QueryExpr} {method : MethodId} {arguments : List QueryExpr} {name : String} {type : LogicalType}
      (here : e.Declares name type) : Declares (.call (some e) method arguments) name type
  | argument {receiver : Option QueryExpr} {method : MethodId} {arguments : List QueryExpr} {e : QueryExpr}
      {name : String} {type : LogicalType} (member : e ∈ arguments) (here : e.Declares name type) :
      Declares (.call receiver method arguments) name type

/-- Induction over query expressions, with the operands in a list or an option met as members. -/
theorem memInduction {motive : QueryExpr → Prop} (constant : ∀ value type, motive (.constant value type))
    (parameter : ∀ name type, motive (.parameter name type))
    (column : ∀ table name type nullable, motive (.column table name type nullable))
    (binary : ∀ op left right, motive left → motive right → motive (.binary op left right))
    (not : ∀ operand, motive operand → motive (.not operand))
    (convert : ∀ operand target, motive operand → motive (.convert operand target))
    (call : ∀ receiver method arguments, (∀ e ∈ receiver, motive e) → (∀ e ∈ arguments, motive e) →
      motive (.call receiver method arguments)) (e : QueryExpr) : motive e := by
  refine @QueryExpr.rec motive (fun o => ∀ e ∈ o, motive e) (fun es => ∀ e ∈ es, motive e) constant parameter column
    binary not convert call ?_ ?_ (List.forall_mem_nil _) ?_ e
  · intro e member
    cases member
  · intro e here e' member
    cases member
    exact here
  · intro first rest here later
    exact List.forall_mem_cons.mpr ⟨here, later⟩

theorem mem_parametersList {pair : String × LogicalType} {es : List QueryExpr} :
    pair ∈ parametersList es ↔ ∃ e ∈ es, pair ∈ e.parameters := by
  induction es with
  | nil => simp [parametersList]
  | cons e es later => simp [parametersList, later]

/-- What an expression declares is what it lists. -/
theorem mem_parameters {e : QueryExpr} {name : String} {type : LogicalType} :
    (name, type) ∈ e.parameters ↔ e.Declares name type := by
  induction e using memInduction with
  | constant value type' | column table column type' nullable =>
    refine iff_of_false ?_ ?_
    · exact List.not_mem_nil
    · intro declared
      cases declared
  | parameter name' type' =>
    rw [parameters, List.mem_singleton]
    constructor
    · intro same
      cases same
      exact .parameter name type
    · intro declared
      cases declared
      rfl
  | binary op l r first second =>
    rw [parameters, List.mem_append, first, second]
    constructor
    · rintro (here | here)
      · exact .left here
      · exact .right here
    · intro declared
      cases declared with
      | left here => exact .inl here
      | right here => exact .inr here
  | not operand below =>
    rw [parameters, below]
    constructor
    · exact .not
    · intro declared
      cases declared with
      | not here => exact here
  | convert operand target below =>
    rw [parameters, below]
    constructor
    · exact .convert
    · intro declared
      cases declared with
      | convert here => exact here
  | call receiver method arguments first second =>
    rw [parameters, List.mem_append, mem_parametersList]
    constructor
    · rintro (here | ⟨e, member, here⟩)
      · cases receiver with
        | none => cases here
        | some e => exact .receiver ((first e rfl).mp here)
      · exact .argument member ((second e member).mp here)
    · intro declared
      cases declared with
      | receiver here => exact .inl ((first _ rfl).mpr here)
      | argument member here => exact .inr ⟨_, member, (second _ member).mpr here⟩

end QueryExpr

/-! ## Names in order -/

section Insert

variable {α : Type} {key : String} {value : α}

/-- The names of a list of pairs ascend. -/
def Ascending (pairs : List (String × α)) : Prop :=
  pairs.Pairwise fun a b => a.1 < b.1

/-- What is found first has the least name. -/
theorem Ascending.le_of_find? {pairs : List (String × α)} (ascending : Ascending pairs) {p : String × α → Bool}
    {first other : String × α} (found : pairs.find? p = some first) (member : other ∈ pairs) (holds : p other = true) :
    first.1 ≤ other.1 := by
  obtain ⟨-, before, after, rfl, earlier⟩ := List.find?_eq_some_iff_append.mp found
  rcases List.mem_append.mp member with left | right
  · have fails := earlier other left
    rw [holds] at fails
    cases fails
  · rcases List.mem_cons.mp right with rfl | behind
    · exact String.le_refl _
    · have below := List.rel_of_pairwise_cons (List.pairwise_append.mp ascending).2.1 behind
      exact String.not_lt.mp (String.lt_asymm below)

/-- Inserting adds only the pair that is inserted. -/
theorem mem_of_mem_insertNew {pair : String × α} {pairs : List (String × α)}
    (member : pair ∈ insertNew key value pairs) : pair = (key, value) ∨ pair ∈ pairs := by
  induction pairs with
  | nil => exact .inl (List.mem_singleton.mp member)
  | cons first rest later =>
    rw [insertNew] at member
    split at member
    · exact .inr member
    · split at member
      · exact List.mem_cons.mp member
      · rcases List.mem_cons.mp member with rfl | behind
        · exact .inr List.mem_cons_self
        · exact (later behind).imp_right (List.mem_cons_of_mem first)

/-- Inserting drops nothing. -/
theorem mem_insertNew_of_mem {pair : String × α} {pairs : List (String × α)} (member : pair ∈ pairs) :
    pair ∈ insertNew key value pairs := by
  induction pairs with
  | nil => cases member
  | cons first rest later =>
    rw [insertNew]
    split
    · exact member
    · split
      · exact List.mem_cons_of_mem _ member
      · rcases List.mem_cons.mp member with rfl | behind
        · exact List.mem_cons_self
        · exact List.mem_cons_of_mem _ (later behind)

/-- A key that is put into a list is there. -/
theorem exists_mem_insertNew (key : String) (value : α) (pairs : List (String × α)) :
    ∃ pair ∈ insertNew key value pairs, pair.1 = key := by
  induction pairs with
  | nil => exact ⟨_, List.mem_singleton_self _, rfl⟩
  | cons first rest later =>
    rw [insertNew]
    split
    next same => exact ⟨first, List.mem_cons_self, same.symm⟩
    next =>
      split
      · exact ⟨_, List.mem_cons_self, rfl⟩
      · obtain ⟨pair, member, same⟩ := later
        exact ⟨pair, List.mem_cons_of_mem _ member, same⟩

/-- A key is put where the names go on ascending. -/
theorem ascending_insertNew {pairs : List (String × α)} (ascending : Ascending pairs) :
    Ascending (insertNew key value pairs) := by
  induction pairs with
  | nil => exact List.pairwise_singleton _ _
  | cons first rest later =>
    obtain ⟨below, behind⟩ := List.pairwise_cons.mp ascending
    rw [insertNew]
    split
    · exact ascending
    next differs =>
      split
      next before =>
        refine List.pairwise_cons.mpr ⟨List.forall_mem_cons.mpr ⟨before, fun pair member => ?_⟩, ascending⟩
        exact String.lt_trans before (below pair member)
      next after =>
        refine List.pairwise_cons.mpr ⟨fun pair member => ?_, later behind⟩
        rcases mem_of_mem_insertNew member with rfl | old
        · -- The new name is another and not before the first, so it is behind it.
          exact String.not_le.mp fun reversed => differs (String.le_antisymm reversed (String.not_lt.mp after))
        · exact below pair old

/-- What putting keys into a list one by one makes of it. -/
structure Gathered (added found result : List (String × α)) : Prop where
  ascending : Ascending result
  old_or_new : ∀ pair ∈ result, pair ∈ found ∨ pair ∈ added
  old : ∀ pair ∈ found, pair ∈ result
  new : ∀ pair ∈ added, ∃ known ∈ result, known.1 = pair.1

/-- Pairs that are inserted one after the other are gathered by name. -/
theorem gathered_foldl (added found : List (String × α)) (ascending : Ascending found) :
    Gathered added found (added.foldl (fun found pair => insertNew pair.1 pair.2 found) found) := by
  induction added generalizing found with
  | nil => exact ⟨ascending, fun _ member => .inl member, fun _ member => member, List.forall_mem_nil _⟩
  | cons first rest later =>
    have gathered := later (insertNew first.1 first.2 found) (ascending_insertNew ascending)
    refine ⟨gathered.ascending, fun pair member => ?_, fun pair member => ?_, ?_⟩
    · rcases gathered.old_or_new pair member with inserted | behind
      · rcases mem_of_mem_insertNew inserted with rfl | old
        · exact .inr List.mem_cons_self
        · exact .inl old
      · exact .inr (List.mem_cons_of_mem first behind)
    · exact gathered.old pair (mem_insertNew_of_mem member)
    · refine List.forall_mem_cons.mpr ⟨?_, gathered.new⟩
      obtain ⟨known, member, same⟩ := exists_mem_insertNew first.1 first.2 found
      exact ⟨known, gathered.old known member, same⟩

end Insert

namespace Shape

/-- A shape declares what its expressions declare. -/
def Declares (s : Shape) : Declarations := fun name type =>
  ∃ q ∈ s.expressions, q.Declares name type

/-- A parameter stands somewhere in a shape. -/
def Mentions (s : Shape) (name : String) : Prop :=
  ∃ type, s.Declares name type

/-- An expression of a shape is a projection, the predicate, a sort key or the limit. -/
theorem mem_expressions {s : Shape} {q : QueryExpr} : q ∈ s.expressions ↔
    (∃ p ∈ s.projections, p.expression = q) ∨ q ∈ s.predicate ∨ (∃ o ∈ s.orderings, o.expression = q) ∨
      q ∈ s.limit := by
  simp only [expressions, List.mem_append, List.mem_map, Option.mem_toList, Option.mem_def, or_assoc]

variable {s : Shape}

/-- The parameters of a shape are gathered from its expressions. -/
theorem gathered_parameters (s : Shape) : Gathered (s.expressions.flatMap QueryExpr.parameters) [] s.parameters :=
  gathered_foldl _ [] List.Pairwise.nil

theorem mem_flatMap_parameters {name : String} {type : LogicalType} :
    (name, type) ∈ s.expressions.flatMap QueryExpr.parameters ↔ s.Declares name type := by
  rw [List.mem_flatMap]
  exact exists_congr fun q => and_congr_right fun _ => QueryExpr.mem_parameters

/-- A listed parameter is declared with its type. -/
theorem declares_of_mem_parameters {name : String} {type : LogicalType} (member : (name, type) ∈ s.parameters) :
    s.Declares name type := by
  rcases s.gathered_parameters.old_or_new _ member with none | listed
  · cases none
  · exact mem_flatMap_parameters.mp listed

/-- Every declared parameter is listed, with some type. -/
theorem exists_mem_parameters {name : String} (mentions : s.Mentions name) : ∃ type, (name, type) ∈ s.parameters := by
  obtain ⟨type, declared⟩ := mentions
  obtain ⟨known, member, rfl⟩ := s.gathered_parameters.new _ (mem_flatMap_parameters.mpr declared)
  exact ⟨known.2, member⟩

end Shape

end SqlShape
