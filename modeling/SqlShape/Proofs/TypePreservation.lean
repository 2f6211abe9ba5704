import SqlShape.Proofs.Refusals

/-!
# Types from lowering to the final statement

Lowering makes well-typed expressions with store types of its dialect. When values are known, every expression of a
statement is replaced by one of the same type that is as well-typed, whatever was folded, expanded or dropped in it, and
no operand on the way has a type that a building function refuses: a refusal for a type is about a bound value.
-/

namespace SqlShape

/-- Other references leave a truth value alone. -/
theorem Expr.truth?_mapRef {ρ σ : Type} (f : ρ → σ) (e : Expr ρ) : (e.mapRef f).truth? = e.truth? := by
  cases e with
  | constant value m => cases value <;> rfl
  | _ => rfl

namespace Select

variable {ρ σ τ : Type}

/-- A predicate that always holds is dropped before or after references are replaced. -/
theorem withoutTrivialPredicate_mapRef (f : ρ → σ) (s : Select ρ) :
    (s.map (Expr.mapRef f)).withoutTrivialPredicate = s.withoutTrivialPredicate.map (Expr.mapRef f) := by
  have same : (s.map (Expr.mapRef f)).predicate.bind Expr.truth? = s.predicate.bind Expr.truth? := by
    change (s.predicate.map (Expr.mapRef f)).bind Expr.truth? = _
    cases s.predicate with
    | none => rfl
    | some e => exact Expr.truth?_mapRef f e
  unfold withoutTrivialPredicate
  rw [same]
  by_cases always : s.predicate.bind Expr.truth? = some true
  · rw [if_pos always, if_pos always]
    rfl
  · rw [if_neg always, if_neg always]

/-- What matches a statement, by a property of its expressions also after a function on each result. -/
theorem Matches.map {P : Expr ρ → Prop} {R : Expr ρ → Expr σ → Prop} {S : Expr ρ → Expr τ → Prop}
    {f : Expr σ → Expr τ} {s : Select ρ} {t : Select σ} (found : Matches R s t) (each : ∀ e ∈ s.expressions, P e)
    (implied : ∀ e x, P e → R e x → S e (f x)) : Matches S s (t.map f) := by
  have option : ∀ {o : Option (Expr ρ)} {o' : Option (Expr σ)}, (∀ e ∈ o, P e) → Option.Rel R o o' →
      Option.Rel S o (o'.map f) := by
    intro o o' holds related
    cases related with
    | none => exact .none
    | some here => exact .some (implied _ _ (holds _ rfl) here)
  constructor
  · have projected : ∀ p ∈ s.projections, P p.expr :=
      fun p member => each p.expr (mem_expressions.mpr (.inl ⟨p, member, rfl⟩))
    refine List.forall₂_map_right_iff.mpr (((List.forall₂_and_left _ _).mpr ⟨projected, found.projections⟩).imp ?_)
    exact fun p q holds => ⟨holds.2.1, implied _ _ holds.1 holds.2.2⟩
  · exact option (fun e inside => each e (mem_expressions.mpr (.inr (.inl inside)))) found.predicate
  · have ordered : ∀ o ∈ s.orderings, P o.expr :=
      fun o member => each o.expr (mem_expressions.mpr (.inr (.inr (.inl ⟨o, member, rfl⟩))))
    refine List.forall₂_map_right_iff.mpr (((List.forall₂_and_left _ _).mpr ⟨ordered, found.orderings⟩).imp ?_)
    exact fun o o' holds => ⟨holds.2.1, implied _ _ holds.1 holds.2.2⟩
  · exact option (fun e inside => each e (mem_expressions.mpr (.inr (.inr (.inr inside))))) found.limit

variable {d : Dialect} {b : Builder} {s : Select String} {options : SpecializationOptions} {v : Bindings}

/-- Known values keep the typing and the type of every expression; a predicate that always holds is dropped after. -/
theorem specialize_wellTypedIn (serves : b.Serves d) (typed : ∀ e ∈ s.expressions, e.WellTypedIn d)
    {outcome : Specialized} (run : s.specialize b options v = .ok outcome) :
    ∃ full : Select String, Matches (fun e x => x.WellTypedIn d ∧ x.type = e.type) s full ∧
      outcome.select = full.withoutTrivialPredicate := by
  obtain ⟨t, progress, found, -, rfl⟩ := Specialization.specialize_outcome run
  refine ⟨_, found.map typed ?_, (withoutTrivialPredicate_mapRef _ t).symm⟩
  intro e x typed' comes
  obtain ⟨kept, same⟩ := comes.wellTypedIn serves typed'
  exact ⟨kept.mapRef _, (Expr.type_mapRef _ x).trans same⟩

/-- A well-typed statement is refused for a type only where a bound value has the wrong one. -/
theorem specialize_typeMismatch (coherent : b.Coherent) (typed : ∀ e ∈ s.expressions, e.WellTyped)
    {operation : Operation} {t t' : LogicalType}
    (refused : s.specialize b options v = .error (.typeMismatch operation t t')) :
    ∃ name, operation = .binding name := by
  obtain ⟨u, -, refuses⟩ := specialize_blames coherent typed refused
  cases refuses
  exact ⟨u.name, rfl⟩

end Select

namespace Lowering

/-- For every dialect, lowering makes well-typed expressions, alone and in statements. For every well-typed statement,
whatever its values, specializing keeps the typing and the type of every expression, and it is never refused for the
type of an operand. -/
theorem lowers_and_specializes_wellTyped {d : Dialect} {l : Lowering} (made : d.lowering = .ok l) :
    (∀ q e, (l.lower q).run = .ok (some e) → e.WellTypedIn d) ∧
    (∀ shape s, l.lowerShape shape = .ok s → ∀ e ∈ s.expressions, e.WellTypedIn d) ∧
    ∀ s : Select String, (∀ e ∈ s.expressions, e.WellTypedIn d) → ∀ options v,
      (∀ outcome, s.specialize l.builder options v = .ok outcome → ∃ full : Select String,
        Select.Matches (fun e x => x.WellTypedIn d ∧ x.type = e.type) s full ∧
          outcome.select = full.withoutTrivialPredicate) ∧
      ∀ operation t t', s.specialize l.builder options v = .error (.typeMismatch operation t t') →
        ∃ name, operation = .binding name := by
  have serves := serves_lowering made
  refine ⟨?_, ?_, fun s typed options v => ⟨?_, ?_⟩⟩
  · intro q e lowered
    exact ((lower_lowered serves q e lowered).native serves.builder).wellTypedIn
  · intro shape s lowered e member
    exact ((lowerShape_native serves lowered).expressions e member).wellTypedIn
  · intro outcome run
    exact Select.specialize_wellTypedIn serves.builder typed run
  · intro operation t t' refused
    exact Select.specialize_typeMismatch serves.builder.coherent (fun e member => (typed e member).wellTyped) refused

/-- Rows with a raised score whose name does not start as a parameter says. -/
def raised : Shape :=
  ((Shape.ofTable "Items" "i").project "Raised"
    (.binary .add (.column "i" "Score" .int32 true) (.convert (.parameter "by" .int32) .int64))).filter
    (.not (.binary .or
      (.call (some (.column "i" "Name" .text true)) ⟨.string, "StartsWith", 0⟩ [.parameter "start" .text])
      (.call none ⟨.enumerable, "Contains", 1⟩ [.parameter "ids" (.sequence .byte), .column "i" "Id" .int32 false])))

/-- A sum in the wider type, a pattern and an expanded list. -/
theorem specializes_raised : ∃ l s outcome full, Dialect.sqlServer.lowering = .ok l ∧ l.lowerShape raised = .ok s ∧
    (∀ e ∈ s.expressions, e.WellTypedIn .sqlServer) ∧
    s.specialize l.builder ⟨"p", false⟩
      ⟨[("by", .int 1), ("start", .text "A"), ("ids", .list [.byte 1, .null])]⟩ = .ok outcome ∧
    Select.Matches (fun e x => x.WellTypedIn .sqlServer ∧ x.type = e.type) s full ∧
    outcome.select = full.withoutTrivialPredicate ∧ outcome.select.expressions.map Expr.type = [.int64, .bool] := by
  obtain ⟨l, made⟩ : ∃ l, Dialect.sqlServer.lowering = .ok l := ⟨_, rfl⟩
  obtain ⟨s, outcome, lowered, run, types⟩ : ∃ s outcome, l.lowerShape raised = .ok s ∧
      s.specialize l.builder ⟨"p", false⟩
        ⟨[("by", .int 1), ("start", .text "A"), ("ids", .list [.byte 1, .null])]⟩ = .ok outcome ∧
      outcome.select.expressions.map Expr.type = [.int64, .bool] := by
    cases made
    exact ⟨_, _, rfl, rfl, rfl⟩
  obtain ⟨-, shapes, keeps⟩ := lowers_and_specializes_wellTyped made
  have typed := shapes raised s lowered
  obtain ⟨full, found, same⟩ := (keeps s typed _ _).1 outcome run
  exact ⟨l, s, outcome, full, made, lowered, typed, run, found, same, types⟩

end Lowering

end SqlShape
