import SqlShape.Proofs.CachedPlans
import SqlShape.Proofs.Refusals

/-!
# Refusals through a plan cache

Values are checked while a statement is specialized. A plan that is found in the cache is not specialized again: only
its own placeholders check the values they are given. A place of the statement that left no placeholder in the plan is
then checked by nobody, so an engine with a cache may answer where the engine without one refuses
(`Engine.cached_answers_refused`).

That is all that gets past it: whenever an engine with a cache answers what is refused without it, no place with a wrong
value has a placeholder in the plan that was found (`Engine.cached_refuses_unless_overlooked`).
-/

namespace SqlShape

/-! ## Placeholders that check a place -/

/-- What is bound to a scalar or null is taken at every place where the parameter may stand. -/
theorem Bindings.admits_of_getScalar {v : Bindings} {u : ParameterUse} {value : Value}
    (found : v.getScalar u.name u.type = .ok value) (place : u.type.isSequence = true → u.isSource = true) :
    u.Admits v := by
  obtain ⟨value', got, -⟩ := bind_eq_ok.mp found
  obtain ⟨same, single, fits⟩ := getScalar_eq_ok found
  rw [valueOf_of_get got] at same
  subst same
  apply (ParameterUse.admits_of_get got).mpr
  cases kind : u.type with
  | sequence element =>
    rw [kind] at fits place
    -- A scalar that fits a sequence type is null.
    cases value' with
    | null => exact ⟨place rfl, trivial⟩
    | list items => cases single
    | _ => simp [Value.fits, Value.type?, LogicalType.widensTo] at fits
  | _ =>
    rw [kind] at fits
    exact ⟨single, fits⟩

/-- A place that takes some value is no sequence outside of a membership. -/
theorem ParameterUse.Admits.isSource {v : Bindings} {u : ParameterUse} (admits : u.Admits v)
    (sequence : u.type.isSequence = true) : u.isSource = true := by
  obtain ⟨value, -, takes⟩ := admits
  obtain ⟨element, kind⟩ := LogicalType.eq_sequence_of_isSequence sequence
  rw [kind] at takes
  exact takes.1

namespace Plan

/-- A plan has a placeholder for the parameter of a place, declared with its type. -/
def Holds (p : Plan) (u : ParameterUse) : Prop :=
  ∃ placeholder ∈ p.placeholders, ∃ target, placeholder.source = .value u.name u.type target

/-- A command is made only of values that the places with a placeholder take. -/
theorem admits_of_holds {p : Plan} {v v₀ : Bindings} {command : Command} {u : ParameterUse}
    (made : p.command v = .ok command) (taken : u.Admits v₀) (holds : p.Holds u) : u.Admits v := by
  obtain ⟨placeholder, member, target, source⟩ := holds
  obtain ⟨bound, binds, -⟩ := bind_eq_ok.mp made
  have each : ∀ q ∈ p.placeholders, ∃ b, q.bind v = .ok b :=
    forall_mem_of_forall₂ (forall₂_of_mapM (fun q _ b found => ⟨b, found⟩) binds).flip
  obtain ⟨b, found⟩ := each placeholder member
  obtain ⟨value, resolved, -⟩ := bind_eq_ok.mp found
  rw [source] at resolved
  obtain ⟨scalar, checked, -⟩ := bind_eq_ok.mp resolved
  exact Bindings.admits_of_getScalar checked taken.isSource

/-- A plan overlooks what is wrong with values: some place of the statement does not take its value, and the plan, which
was made for other values with the same null flags, holds a placeholder for no such place. -/
def Overlooks (p : Plan) (c : Compiler) (s : Shape) (v : Bindings) : Prop :=
  ∃ l v₀ key, c.lower s = .ok l ∧ c.planOf l v₀ = .ok p ∧ p.cacheability.key? v₀ = some key ∧
    p.cacheability.key? v = some key ∧ (∃ u ∈ l.uses, ¬ u.Admits v) ∧ ∀ u ∈ l.uses, ¬ u.Admits v → ¬ p.Holds u

end Plan

/-! ## Plans that are found -/

namespace Compiler

variable {c : Compiler} {l : Select String} {v v₀ : Bindings} {p : Plan}

/-- A plan for values with the same null flags is the plan for values that all places take. -/
theorem planOf_of_admits {d : Dialect} {ps : Declarations} (serves : c.lowering.builder.Serves d)
    (lowered : l.Lowered d c.lowering.builder ps) {key : List Bool} (made : c.planOf l v₀ = .ok p)
    (stored : p.cacheability.key? v₀ = some key) (asked : p.cacheability.key? v = some key)
    (admits : ∀ u ∈ l.uses, u.Admits v) : c.planOf l v = .ok p := by
  obtain ⟨r₀, special₀, later⟩ := bind_eq_ok.mp made
  obtain ⟨r, special⟩ : ∃ r, l.specialize c.lowering.builder c.options v = .ok r :=
    (Select.exists_specialize_iff serves lowered).mpr admits
  have kept : r₀.cacheability = p.cacheability := by
    obtain ⟨text, -, rest⟩ := bind_eq_ok.mp later
    cases rest
    rfl
  rw [← kept] at stored asked
  have same : r₀ = r := Select.specialize_eq_of_key?_eq special₀ special (Cacheability.ne_perValues_of_key? stored)
    (stored.trans asked.symm)
  subst same
  exact bind_eq_ok.mpr ⟨r₀, special, later⟩

/-- A plan that is found and gives a command where the compiler refuses overlooks what is wrong. -/
theorem Reuses.overlooks {s : Shape} {command : Command} {refusal : QueryError}
    (lowering : c.dialect.lowering = .ok c.lowering) (reuses : c.Reuses s v p) (made : p.command v = .ok command)
    (refused : c.compile s v = .error refusal) : p.Overlooks c s v := by
  obtain ⟨required, l, v₀, key, found, planned, stored, asked⟩ := reuses
  have serves := Lowering.serves_lowering lowering
  have lowered := Lowering.lowerShape_lowered serves found
  have taken : ∀ u ∈ l.uses, u.Admits v₀ := by
    obtain ⟨r₀, special₀, -⟩ := bind_eq_ok.mp planned
    exact Select.specialize_admits serves.builder lowered special₀
  refine ⟨l, v₀, key, found, planned, stored, asked, ?_, ?_⟩
  · by_contra all
    have admits : ∀ u ∈ l.uses, u.Admits v := by
      intro u member
      by_contra wrong
      exact all ⟨u, member, wrong⟩
    have direct : c.compile s v = .ok command := by
      refine bind_eq_ok.mpr ⟨p, bind_eq_ok.mpr ⟨(), required, bind_eq_ok.mpr ⟨l, found, ?_⟩⟩, made⟩
      exact planOf_of_admits serves.builder lowered planned stored asked admits
    rw [direct] at refused
    cases refused
  · intro u member wrong holds
    exact wrong (p.admits_of_holds made (taken u member) holds)

end Compiler

namespace Engine

variable {c : Compiler} {e : Engine}

/-- An engine with a faithful cache compiles as without it, or finds a plan that may serve. -/
theorem compile_cases (faithful : Faithful c e) (s : Shape) (v : Bindings) :
    (e.compile s v).1 = c.compile s v ∨ ∃ p, (e.compile s v).1 = p.command v ∧ c.Reuses s v p := by
  obtain ⟨owner, cache, rfl, kept⟩ := faithful
  have opened : (compile ⟨c, some cache⟩ s v).1 = ((c.planCached s v).run.run cache).1.bind (Plan.command · v) := rfl
  obtain ⟨-, same | ⟨p, found, reuses⟩⟩ := c.planCached_cases kept s v
  · left
    rw [opened, same]
    rfl
  · right
    refine ⟨p, ?_, reuses⟩
    rw [opened, found]
    rfl

/-- What is refused without a cache is refused with one, after any history, unless the cache has a plan that overlooks
what is wrong with the values. -/
theorem cached_refuses_unless_overlooked (config : Config) (enabled : config.cache.enabled = true) {cached : Engine}
    (made : ofConfig config = .ok cached) :
    ∃ direct, ofConfig { config with cache := { config.cache with enabled := false } } = .ok direct ∧
      ∀ (history : List Request) (s : Shape) (v : Bindings) (refusal : QueryError),
        (direct.compile s v).1 = .error refusal →
        (∃ refusal', ((cached.after history).compile s v).1 = .error refusal') ∨
        ∃ (p : Plan) (command : Command), p.Overlooks cached.compiler s v ∧ p.command v = .ok command ∧
          ((cached.after history).compile s v).1 = .ok command := by
  refine ⟨_, ofConfig_disabled made, ?_⟩
  intro history s v refusal refused
  have faithful := faithful_after (faithful_ofConfig enabled made) history
  have lowering := lowering_ofConfig made
  rcases compile_cases faithful s v with same | ⟨p, answer, reuses⟩
  · exact .inl ⟨refusal, same.trans refused⟩
  · rw [answer]
    cases outcome : p.command v with
    | error refusal' => exact .inl ⟨refusal', rfl⟩
    | ok command => exact .inr ⟨p, command, reuses.overlooks lowering outcome refused, outcome, rfl⟩

/-- Rows with a number below a bound, or all rows where a parameter is null. -/
def lowOrAll : Shape :=
  (Shape.ofTable "Items" "i").filter (.binary .or
    (.binary .equal (.parameter "all" .int32) (.constant .null (some .int32)))
    (.binary .less (.column "i" "Id" .int32 false) (.parameter "bound" .int32)))

/-- A cache answers what is refused without it: after all rows were asked for once, the bound is not looked at. -/
theorem cached_answers_refused :
    ∃ cached direct command refusal, ofConfig {} = .ok cached ∧ ofConfig { cache := { enabled := false } } = .ok direct ∧
      (direct.compile lowOrAll ⟨[("all", .null), ("bound", .text "x")]⟩).1 = .error refusal ∧
      ((cached.after [.compile lowOrAll ⟨[("all", .null), ("bound", .int 1)]⟩]).compile lowOrAll
        ⟨[("all", .null), ("bound", .text "x")]⟩).1 = .ok command := by
  obtain ⟨cached, made⟩ : ∃ cached, ofConfig {} = .ok cached := ⟨_, rfl⟩
  obtain ⟨direct, plain⟩ : ∃ direct, ofConfig { cache := { enabled := false } } = .ok direct := ⟨_, rfl⟩
  cases made
  cases plain
  exact ⟨_, _, _, _, rfl, rfl, rfl, rfl⟩

/-- The plan for all rows overlooks a bound that is a text. -/
theorem cached_refuses_lowOrAll :
    ∃ cached direct refusal p, ofConfig {} = .ok cached ∧ ofConfig { cache := { enabled := false } } = .ok direct ∧
      (direct.compile lowOrAll ⟨[("all", .null), ("bound", .text "x")]⟩).1 = .error refusal ∧
      Plan.Overlooks p cached.compiler lowOrAll ⟨[("all", .null), ("bound", .text "x")]⟩ := by
  obtain ⟨cached, made⟩ : ∃ cached, ofConfig {} = .ok cached := ⟨_, rfl⟩
  obtain ⟨direct, plain, refuses⟩ := cached_refuses_unless_overlooked {} rfl made
  obtain ⟨refusal, refused⟩ : ∃ refusal,
      (direct.compile lowOrAll ⟨[("all", .null), ("bound", .text "x")]⟩).1 = .error refusal := by
    cases plain
    exact ⟨_, rfl⟩
  have answered : ∃ command, ((cached.after [.compile lowOrAll ⟨[("all", .null), ("bound", .int 1)]⟩]).compile lowOrAll
      ⟨[("all", .null), ("bound", .text "x")]⟩).1 = .ok command := by
    cases made
    exact ⟨_, rfl⟩
  rcases refuses _ _ _ _ refused with ⟨refusal', again⟩ | ⟨p, command, overlooks, -⟩
  · obtain ⟨command, answer⟩ := answered
    rw [again] at answer
    cases answer
  · exact ⟨cached, direct, refusal, p, made, plain, refused, overlooks⟩

end Engine

end SqlShape
