import SqlShape.Proofs.CachedPlans
import SqlShape.Proofs.Declared
import SqlShape.Proofs.Delivery
import SqlShape.Proofs.Writing

/-!
# Parameters without a value

Before a shape is planned, its parameters are looked up, and the first in name order that has no value is reported. That
is the only report of a missing value. All later steps look up names of the lowered statement, and these come from the
shape: the places of the statement (`Select.Lowered.declared_of_mem_uses`), and the sources of the placeholders that are
left when the statement is specialized (`Select.specialize_sources`).
-/

namespace SqlShape

namespace Shape

/-- A parameter of a shape has no value. -/
def Lacks (s : Shape) (v : Bindings) (name : String) : Prop :=
  s.Mentions name ∧ v.get? name = none

/-- The first in name order of the parameters without a value. -/
structure FirstLacking (s : Shape) (v : Bindings) (name : String) : Prop where
  lacks : s.Lacks v name
  le : ∀ other, s.Lacks v other → name ≤ other

/-- There is one first parameter without a value. -/
theorem FirstLacking.unique {s : Shape} {v : Bindings} {name name' : String} (first : s.FirstLacking v name)
    (first' : s.FirstLacking v name') : name = name' :=
  String.le_antisymm (first.le name' first'.lacks) (first'.le name first.lacks)

/-- All parameters of a shape have values. -/
def Covered (s : Shape) (v : Bindings) : Prop :=
  ∀ name, ¬ s.Lacks v name

theorem Covered.get {s : Shape} {v : Bindings} (covered : s.Covered v) {name : String} (mentions : s.Mentions name) :
    v.get? name ≠ none :=
  fun unbound => covered name ⟨mentions, unbound⟩

end Shape

/-- What is looked up first: the parameters have values, or the first one without is reported. -/
theorem Compiler.requireParameters_cases (s : Shape) (v : Bindings) : requireParameters s v = .ok () ∧ s.Covered v ∨
    ∃ name, requireParameters s v = .error (.missingParameter name) ∧ s.FirstLacking v name := by
  unfold requireParameters
  split
  next name type found =>
    have mentions : s.Mentions name := ⟨type, Shape.declares_of_mem_parameters (List.mem_of_find?_eq_some found)⟩
    have unbound := List.find?_some found
    refine .inr ⟨name, rfl, ⟨mentions, Option.isNone_iff_eq_none.mp unbound⟩, ?_⟩
    rintro other ⟨mentions', unbound'⟩
    obtain ⟨type', listed⟩ := Shape.exists_mem_parameters mentions'
    exact s.gathered_parameters.ascending.le_of_find? found listed (Option.isNone_iff_eq_none.mpr unbound')
  next none =>
    refine .inl ⟨rfl, ?_⟩
    rintro name ⟨mentions, unbound⟩
    obtain ⟨type, listed⟩ := Shape.exists_mem_parameters mentions
    exact List.find?_eq_none.mp none _ listed (Option.isNone_iff_eq_none.mpr unbound)

theorem Compiler.requireParameters_eq_ok {s : Shape} {v : Bindings} :
    requireParameters s v = .ok () ↔ s.Covered v := by
  rcases requireParameters_cases s v with ⟨required, covered⟩ | ⟨name, refused, first⟩
  · exact iff_of_true required covered
  · refine iff_of_false ?_ fun covered => covered name first.lacks
    rw [refused]
    intro absurd
    cases absurd

/-! ## Steps that miss nothing -/

/-- A check is never refused for a missing value. -/
abbrev NeverMissing {α : Type} (x : Except QueryError α) : Prop :=
  RefusedOnly (fun refusal => ∀ name, refusal ≠ .missingParameter name) x

theorem QueryError.IsStructural.ne_missingParameter {refusal : QueryError} (structural : refusal.IsStructural) :
    ∀ name, refusal ≠ .missingParameter name := by
  rintro name rfl
  exact structural

/-- A source whose parameter has a value is resolved or refused for the value. -/
theorem Source.resolve_neverMissing {v : Bindings} (source : Source) (bound : v.get? source.parameter ≠ none) :
    NeverMissing (source.resolve v) := by
  have converts (name : String) (value : Value) (target : LogicalType) :
      NeverMissing (converted name value target) := by
    unfold converted
    split
    · exact .ok _
    · exact .error (by simp)
  have got : NeverMissing (v.get source.parameter) := by
    unfold Bindings.get
    split
    · exact .ok _
    next unbound => exact absurd unbound bound
  cases source with
  | value name type target =>
    refine RefusedOnly.bind ?_ fun value _ => converts name value _
    refine got.bind fun value _ => ?_
    dsimp only
    split
    · exact .error (by simp)
    · split
      · exact .ok _
      · exact .error (by simp)
  | element name index type =>
    refine got.bind fun value _ => ?_
    dsimp only
    split
    · exact converts name _ type
    · exact .error (by simp)

namespace Select

variable {b : Builder} {s : Select String} {options : SpecializationOptions} {v : Bindings}

/-- Every placeholder of a specialized statement reads a parameter of the statement. -/
theorem specialize_sources {outcome : Specialized} (run : s.specialize b options v = .ok outcome) :
    ∀ p ∈ outcome.placeholders, ∃ e ∈ s.expressions, p.source.parameter ∈ e.refs := by
  obtain ⟨t, progress, found, -, rfl⟩ := Specialization.specialize_outcome run
  have placed : ∀ x ∈ t.withoutTrivialPredicate.expressions,
      x.Everywhere (Expr.Placed progress.slots (s.expressions.flatMap Expr.refs)) := by
    intro x member
    obtain ⟨e, inside, comes⟩ := found.exists_mem (mem_withoutTrivialPredicate member)
    exact comes.placed (fun name referred => List.mem_flatMap.mpr ⟨e, inside, referred⟩)
  intro p member
  dsimp only [Specialization.outcomeOf] at member
  rw [placeholders_eq_map] at member
  obtain ⟨slot, inside, rfl⟩ := List.mem_map.mp member
  exact List.mem_flatMap.mp (placed_of_mem_slots placed inside).2

/-- A lowered statement is specialized without missing a value where its declared parameters have values. -/
theorem specialize_neverMissing {d : Dialect} {ps : Declarations} (serves : b.Serves d) (lowered : s.Lowered d b ps)
    (bound : ∀ name t, ps name t → v.get? name ≠ none) : NeverMissing (s.specialize b options v) := by
  rintro refusal refused name rfl
  obtain ⟨u, member, refuses⟩ := specialize_blames serves.coherent
    (fun e inside => ((lowered.expressions e inside).native serves).typed) refused
  obtain ⟨t, declared, -⟩ := lowered.declared_of_mem_uses serves member
  cases refuses with
  | missing unbound => exact bound u.name t declared unbound

end Select

namespace Compiler

variable {c : Compiler} {s : Shape} {v : Bindings} {l : Select String} {p : Plan}

/-- The names of a lowered statement are those of the shape. -/
theorem lower_lowered (lowering : c.dialect.lowering = .ok c.lowering) (found : c.lower s = .ok l) :
    l.Lowered c.dialect c.lowering.builder s.Declares :=
  Lowering.lowerShape_lowered (Lowering.serves_lowering lowering) found

/-- What a plan can be refused for: a parameter without a value, a place that does not take its value, or no value at
all, when the shape is lowered and when the statement is written. -/
theorem plan_refusedOnly {P : QueryError → Prop} (lowering : c.dialect.lowering = .ok c.lowering)
    (required : RefusedOnly P (requireParameters s v))
    (specialized : ∀ l, c.lower s = .ok l → RefusedOnly P (l.specialize c.lowering.builder c.options v))
    (structural : ∀ refusal : QueryError, refusal.IsStructural → P refusal) : RefusedOnly P (c.plan s v) := by
  have serves := Lowering.serves_lowering lowering
  refine required.bind fun _ _ => ?_
  refine ((Lowering.lowerShape_structural lowering s).mono structural).bind fun l found => ?_
  refine (specialized l found).bind fun special run => RefusedOnly.bind ?_ fun _ _ => .ok _
  -- No sequence is left to expand, so only a constant without a literal can be in the way.
  have expanded := Select.specialize_expanded serves.builder
    (fun e inside => ((Lowering.lowerShape_native serves found).expressions e inside).wellTypedIn) run
  refine c.dialect.commandText_refusedOnly fun e inside n node => (expanded e inside n node).writes ?_
  exact fun _ _ _ _ => structural _ trivial

/-- A plan, whatever values it was made for, is bound without missing one. -/
theorem bind_neverMissing {v₀ : Bindings} (lowering : c.dialect.lowering = .ok c.lowering) (found : c.lower s = .ok l)
    (planned : c.planOf l v₀ = .ok p) (covered : s.Covered v) : NeverMissing (p.bind v) := by
  obtain ⟨special, run, later⟩ := bind_eq_ok.mp planned
  obtain ⟨text, -, rest⟩ := bind_eq_ok.mp later
  cases rest
  refine RefusedOnly.mapM fun q member => (q.source.resolve_neverMissing ?_).bind fun _ _ => .ok _
  obtain ⟨e, inside, referred⟩ := Select.specialize_sources run q member
  have mentions : s.Mentions q.source.parameter :=
    (lower_lowered lowering found).declared_of_mem_refs (Lowering.serves_lowering lowering).builder inside referred
  exact covered.get mentions

/-- A plan misses a value exactly where the first parameter without one is reported. -/
theorem plan_eq_missing (lowering : c.dialect.lowering = .ok c.lowering) {name : String} :
    c.plan s v = .error (.missingParameter name) ↔ s.FirstLacking v name := by
  rcases requireParameters_cases s v with ⟨required, covered⟩ | ⟨name', required, first⟩
  · have never : NeverMissing (c.plan s v) := by
      refine plan_refusedOnly lowering ?_ (fun l found => ?_) fun _ => QueryError.IsStructural.ne_missingParameter
      · rw [required]
        exact .ok ()
      · exact Select.specialize_neverMissing (Lowering.serves_lowering lowering).builder (lower_lowered lowering found)
          fun name t declared => covered.get ⟨t, declared⟩
    exact iff_of_false (fun refused => never _ refused name rfl) fun first => covered name first.lacks
  · have refused : c.plan s v = .error (.missingParameter name') := by
      unfold plan
      rw [required]
      rfl
    rw [refused]
    constructor
    · intro same
      cases same
      exact first
    · intro first'
      rw [first'.unique first]

end Compiler

namespace Engine

variable {config : Config} {start : Engine} {s : Shape} {v : Bindings}

/-- The plan that an engine answers was made of the lowered shape, for some values. -/
theorem exists_planOf (made : ofConfig config = .ok start) {history : List Request} {p : Plan}
    (found : ((start.after history).plan s v).1 = .ok p) :
    ∃ l v₀, start.compiler.lower s = .ok l ∧ start.compiler.planOf l v₀ = .ok p := by
  rcases plan_cases made history s v with same | ⟨p', answer, reuses⟩
  · rw [same] at found
    obtain ⟨_, -, later⟩ := bind_eq_ok.mp found
    obtain ⟨l, lowered, planned⟩ := bind_eq_ok.mp later
    exact ⟨l, v, lowered, planned⟩
  · rw [answer] at found
    cases found
    obtain ⟨-, l, v₀, key, lowered, planned, -⟩ := reuses
    exact ⟨l, v₀, lowered, planned⟩

theorem plan_eq_missing (made : ofConfig config = .ok start) (history : List Request) (s : Shape) (v : Bindings)
    (name : String) :
    ((start.after history).plan s v).1 = .error (.missingParameter name) ↔ s.FirstLacking v name := by
  rcases plan_cases made history s v with same | ⟨p, found, required, -⟩
  · rw [same]
    exact Compiler.plan_eq_missing (lowering_ofConfig made)
  · -- A plan is looked for only when all parameters have values.
    refine iff_of_false ?_ ?_
    · rw [found]
      intro refused
      cases refused
    · exact fun first => Compiler.requireParameters_eq_ok.mp required name first.lacks

/-- An engine of any settings, after any history, is refused a plan for a missing value exactly where a parameter of the
shape has none, and then for the first of them in name order. Lowering is never refused for a missing value and brings
in no parameter of its own; where all parameters of the shape have values, no value is missing when the lowered
statement is specialized or when a plan is bound. -/
theorem plan_missing_iff (made : ofConfig config = .ok start) (history : List Request) (s : Shape) (v : Bindings) :
    (∀ name, ((start.after history).plan s v).1 = .error (.missingParameter name) ↔ s.FirstLacking v name) ∧
    ((∃ name, ((start.after history).plan s v).1 = .error (.missingParameter name)) ↔ ∃ name, s.Lacks v name) ∧
    NeverMissing ((start.after history).lower s).1 ∧
    (∀ l, ((start.after history).lower s).1 = .ok l →
      (∀ e ∈ l.expressions, ∀ name t m, .parameter name t m ∈ e.nodes → s.Mentions name) ∧
      (s.Covered v → NeverMissing (l.specialize start.compiler.lowering.builder start.compiler.options v))) ∧
    ∀ p, ((start.after history).plan s v).1 = .ok p → ∀ w, s.Covered w → NeverMissing (p.bind w) := by
  have lowering := lowering_ofConfig made
  have reported (name : String) := plan_eq_missing made history s v name
  refine ⟨reported, ⟨?_, ?_⟩, ?_, ?_, ?_⟩
  · rintro ⟨name, refused⟩
    exact ⟨name, ((reported name).mp refused).lacks⟩
  · rintro ⟨name, lacks⟩
    rcases Compiler.requireParameters_cases s v with ⟨-, covered⟩ | ⟨first, -, holds⟩
    · exact absurd lacks (covered name)
    · exact ⟨first, (reported first).mpr holds⟩
  · rw [lower_eq made]
    exact (Lowering.lowerShape_structural lowering s).mono fun _ => QueryError.IsStructural.ne_missingParameter
  · intro l found
    rw [lower_eq made] at found
    have serves := (Lowering.serves_lowering lowering).builder
    have lowered := Compiler.lower_lowered lowering found
    refine ⟨fun e inside name t m node => ?_, fun covered => ?_⟩
    · exact lowered.declared_of_mem_refs serves inside (List.mem_filterMap.mpr ⟨_, node, rfl⟩)
    · exact Select.specialize_neverMissing serves lowered fun name t declared => covered.get ⟨t, declared⟩
  · intro p found w covered
    obtain ⟨l, v₀, lowered, planned⟩ := exists_planOf made found
    exact Compiler.bind_neverMissing lowering lowered planned covered

/-- Of two parameters without a value the first in name order is reported, though the other is met first, and though the
cache has a plan for the shape. -/
theorem plan_missing_iff_raised : ∃ start, ofConfig {} = .ok start ∧
    ((start.after [.compile Lowering.raised Lowering.raisedValues]).plan Lowering.raised ⟨[("by", .int 1)]⟩).1 =
      .error (.missingParameter "ids") ∧ Lowering.raised.FirstLacking ⟨[("by", .int 1)]⟩ "ids" := by
  obtain ⟨start, made⟩ : ∃ start, ofConfig {} = .ok start := ⟨_, rfl⟩
  have refused : ((start.after [.compile Lowering.raised Lowering.raisedValues]).plan Lowering.raised
      ⟨[("by", .int 1)]⟩).1 = .error (.missingParameter "ids") := by
    cases made
    rfl
  exact ⟨start, made, refused, ((plan_missing_iff made _ _ _).1 "ids").mp refused⟩

end Engine

end SqlShape
