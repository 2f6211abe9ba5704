import SqlShape.Cli.Parameters
import SqlShape.Proofs.CachedRefusals
import SqlShape.Proofs.MissingParameters

/-!
# Values from plain JSON

Plain JSON is read under the declared type of a parameter, so what is read conforms to that type exactly
(`Json.conforms_of_plainValue`). Lowering may use the parameter with another type, but only with one that the declared
type reaches, and there a conforming value is taken (`Value.Conforms.takes`). So values that were read for all
parameters of a shape are never the reason why it is refused, with or without a plan in the cache; what can be wrong is
only that a sequence stands outside of a membership (`Engine.compiles_plain`).
-/

namespace SqlShape

/-- A value is null, a scalar of exactly the type, or a list whose items conform to the type of the elements. -/
inductive Value.Conforms : LogicalType → Value → Prop
  | null (t : LogicalType) : Conforms t .null
  | scalar {t : LogicalType} {value : Value} (single : value.isList = false) (typed : value.type? = some t) :
      Conforms t value
  | list {element : LogicalType} {items : List Value} (each : ∀ item ∈ items, Conforms element item) :
      Conforms (.sequence element) (.list items)

/-! ## Reading -/

/-- What is read under a type conforms to it. -/
theorem Json.conforms_of_plainValue {t : LogicalType} {j : Json} {value : Value} (read : j.plainValue t = .ok value) :
    value.Conforms t := by
  -- Null is read first, whatever the type.
  have absent : ∀ {t value}, plainValue t .null = .ok value → value.Conforms t := by
    intro t value read
    rw [plainValue] at read
    cases read
    exact .null t
  induction t generalizing j value with
  | sequence element below =>
    by_cases null : j = .null
    · exact absent (null ▸ read)
    · simp only [plainValue] at read
      obtain ⟨items, -, later⟩ := bind_eq_ok.mp read
      obtain ⟨values, each, rest⟩ := bind_eq_ok.mp later
      cases rest
      refine .list fun value member => ?_
      obtain ⟨item, -, read⟩ := mapM_eq_ok each value member
      exact below read
  | _ =>
    by_cases null : j = .null
    · exact absent (null ▸ read)
    · simp only [plainValue] at read
      obtain ⟨_, -, rest⟩ := bind_eq_ok.mp read
      cases rest
      exact .scalar rfl rfl

/-- What is kept of items in a row was made of one of them. -/
theorem filterMapM_eq_ok {ε α β : Type} {f : α → Except ε (Option β)} {items : List α} {kept : List β}
    (made : items.filterMapM f = .ok kept) : ∀ b ∈ kept, ∃ a ∈ items, f a = .ok (some b) := by
  induction items generalizing kept with
  | nil =>
    rw [List.filterMapM_nil] at made
    cases made
    exact List.forall_mem_nil _
  | cons a rest later =>
    rw [List.filterMapM_cons] at made
    obtain ⟨found, here, made⟩ := bind_eq_ok.mp made
    cases found with
    | none =>
      intro b member
      obtain ⟨a', inside, found⟩ := later made b member
      exact ⟨a', List.mem_cons_of_mem a inside, found⟩
    | some b =>
      obtain ⟨others, remaining, done⟩ := bind_eq_ok.mp made
      cases done
      refine List.forall_mem_cons.mpr ⟨⟨a, List.mem_cons_self, here⟩, fun b' member => ?_⟩
      obtain ⟨a', inside, found⟩ := later remaining b' member
      exact ⟨a', List.mem_cons_of_mem a inside, found⟩

namespace Shape

variable {s : Shape} {v : Bindings}

/-- Every value that is bound from plain JSON conforms to a declared type of its parameter. -/
theorem conforms_of_bindPlain {given : List (String × Json)} (bound : s.bindPlain given = .ok v) {name : String}
    {value : Value} (member : (name, value) ∈ v.entries) : ∃ t, s.Declares name t ∧ value.Conforms t := by
  obtain ⟨entries, kept, rest⟩ := bind_eq_ok.mp bound
  cases rest
  obtain ⟨pair, -, made⟩ := filterMapM_eq_ok kept _ member
  dsimp only at made
  split at made
  · cases made
  next t known =>
    split at made
    next value' read =>
      cases made
      exact ⟨t, declares_of_mem_parameters (mem_of_lookup known), Json.conforms_of_plainValue read⟩
    next => cases made

/-- Every parameter of a shape has one type. -/
def SinglyTyped (s : Shape) : Prop :=
  ∀ name t t', s.Declares name t → s.Declares name t' → t = t'

/-- Types are compared over the parameters as the expressions list them. -/
theorem singlyTyped_iff : s.SinglyTyped ↔ ∀ p ∈ s.expressions.flatMap QueryExpr.parameters,
    ∀ q ∈ s.expressions.flatMap QueryExpr.parameters, p.1 = q.1 → p.2 = q.2 := by
  constructor
  · rintro single ⟨name, t⟩ member ⟨name', t'⟩ member' (rfl : name = name')
    exact single name t t' (mem_flatMap_parameters.mp member) (mem_flatMap_parameters.mp member')
  · intro single name t t' declared declared'
    exact single (name, t) (mem_flatMap_parameters.mpr declared) (name, t') (mem_flatMap_parameters.mpr declared') rfl

instance : Decidable s.SinglyTyped :=
  decidable_of_iff' _ singlyTyped_iff

/-- Every parameter of a shape is bound to a value that conforms to its type. -/
def Fed (s : Shape) (v : Bindings) : Prop :=
  ∀ name t, s.Declares name t → ∃ value, v.get? name = some value ∧ value.Conforms t

theorem Fed.covered (fed : s.Fed v) : s.Covered v := by
  rintro name ⟨⟨t, declared⟩, unbound⟩
  obtain ⟨value, bound, -⟩ := fed name t declared
  rw [unbound] at bound
  cases bound

/-- Values from plain JSON conform where every parameter has one type and a value. -/
theorem fed_of_bindPlain {given : List (String × Json)} (single : s.SinglyTyped) (bound : s.bindPlain given = .ok v)
    (covered : s.Covered v) : s.Fed v := by
  intro name t declared
  obtain ⟨value, found⟩ := Option.ne_none_iff_exists'.mp (covered.get ⟨t, declared⟩)
  obtain ⟨t', declared', conforms⟩ := conforms_of_bindPlain bound (mem_of_lookup found)
  cases single name t t' declared declared'
  exact ⟨value, found, conforms⟩

end Shape

/-! ## Taking -/

/-- A scalar may be bound to every type that its own reaches. -/
theorem Value.suits_of_type? {value : Value} {s t : LogicalType} (single : value.isList = false)
    (typed : value.type? = some s) (reaches : s.Reaches t) : value.Suits t := by
  refine ⟨single, ?_⟩
  have widens := LogicalType.widensTo_iff.mpr reaches.widens
  unfold fits
  rw [typed]
  cases s with
  | byte =>
    -- A byte widens to bytes and yet does not fit them.
    have apart : t ≠ .bytes := by
      intro bytes
      cases reaches.bytes bytes
    exact Bool.and_eq_true_iff.mpr ⟨decide_eq_true apart, widens⟩
  | _ => exact widens

/-- Only a sequence reaches a sequence, and only itself. -/
theorem LogicalType.Reaches.eq_of_sequence {s t : LogicalType} (reaches : s.Reaches t)
    (sequence : s.isSequence = true ∨ t.isSequence = true) : s = t := by
  cases reaches.widens with
  | refl => rfl
  | _ => rcases sequence with absurd | absurd <;> cases absurd

namespace Value.Conforms

theorem suits {value : Value} {s t : LogicalType} (conforms : value.Conforms s) (reaches : s.Reaches t)
    (scalar : t.isSequence = false) : value.Suits t := by
  cases conforms with
  | null => exact suits_null t
  | scalar single typed => exact suits_of_type? single typed reaches
  | list each =>
    cases reaches.eq_of_sequence (.inl rfl)
    cases scalar

/-- What conforms to a sequence of scalars is a list of nulls and of scalars that fit. -/
theorem listsOnly {value : Value} {element : LogicalType} (conforms : value.Conforms (.sequence element))
    (scalar : element.isSequence = false) : value.ListsOnly element := by
  cases conforms with
  | null => trivial
  | scalar single typed =>
    cases value with
    | list items => cases single
    | _ => cases typed
  | list each => exact fun item member => .inr ((each item member).suits (.refl element) scalar)

/-- A conforming value is taken at every place of a type that its own reaches, unless a sequence stands outside of a
membership. -/
theorem takes {value : Value} {s t : LogicalType} {isSource : Bool} (conforms : value.Conforms s)
    (reaches : s.Reaches t) (plain : ∀ element, t = .sequence element → element.isSequence = false)
    (place : t.isSequence = true → isSource = true) : t.Takes isSource value := by
  cases t with
  | sequence element =>
    cases reaches.eq_of_sequence (.inr rfl)
    exact ⟨place rfl, conforms.listsOnly (plain element rfl)⟩
  | _ => exact conforms.suits reaches rfl

end Value.Conforms

namespace Select

variable {d : Dialect} {b : Builder} {l : Select String} {s : Shape} {v : Bindings}

/-- The elements of a sequence that a lowered statement uses are scalars. -/
theorem Lowered.scalar_of_mem_uses {ps : Declarations} (serves : b.Serves d) (lowered : l.Lowered d b ps)
    {u : ParameterUse} (member : u ∈ l.uses) {element : LogicalType} (sequence : u.type = .sequence element) :
    element.isSequence = false := by
  obtain ⟨e, inside, here⟩ := List.mem_flatMap.mp member
  obtain ⟨m, node⟩ := Expr.exists_parameter_of_mem_uses here
  have typed := ((lowered.expressions e inside).native serves).typed _ node
  rw [sequence] at typed
  rw [typed.sequence_eq]
  exact typed.1

/-- Conforming values are admitted at every place of the lowered shape, unless a sequence stands outside of a
membership. -/
theorem Lowered.admits_of_fed (serves : b.Serves d) (lowered : l.Lowered d b s.Declares) (fed : s.Fed v)
    {u : ParameterUse} (member : u ∈ l.uses) (place : u.type.isSequence = true → u.isSource = true) : u.Admits v := by
  obtain ⟨t, declared, reaches⟩ := lowered.declared_of_mem_uses serves member
  obtain ⟨value, bound, conforms⟩ := fed u.name t declared
  exact ⟨value, bound, conforms.takes reaches (fun _ => lowered.scalar_of_mem_uses serves member) place⟩

end Select

/-- A refusal that is no value's fault: it is for no value at all, or for a sequence of the shape that stands outside of
a membership. -/
def QueryError.SparesValues (s : Shape) (refusal : QueryError) : Prop :=
  refusal.IsStructural ∨
    ∃ name element, s.Declares name (.sequence element) ∧ refusal = .unsupportedBinding name .outsideMembership

/-- Conforming values are refused only for a sequence outside of a membership. -/
theorem Select.specialize_spares {d : Dialect} {b : Builder} {l : Select String} {s : Shape} {v : Bindings}
    {options : SpecializationOptions} (serves : b.Serves d) (lowered : l.Lowered d b s.Declares) (fed : s.Fed v) :
    RefusedOnly (QueryError.SparesValues s) (l.specialize b options v) := by
  intro refusal refused
  obtain ⟨u, member, refuses⟩ := specialize_blames serves.coherent
    (fun e inside => ((lowered.expressions e inside).native serves).typed) refused
  by_cases place : u.type.isSequence = true → u.isSource = true
  · exact absurd (lowered.admits_of_fed serves fed member place) refuses.not_admits
  · -- What is left is a sequence outside of a membership.
    obtain ⟨sequence, outside⟩ := Classical.not_imp.mp place
    obtain ⟨t, declared, reaches⟩ := lowered.declared_of_mem_uses serves member
    cases refuses with
    | missing unbound => exact absurd ⟨⟨t, declared⟩, unbound⟩ (fed.covered u.name)
    | outside =>
      obtain ⟨element, kind⟩ := LogicalType.eq_sequence_of_isSequence sequence
      rw [reaches.eq_of_sequence (.inr sequence), kind] at declared
      exact .inr ⟨u.name, element, declared, rfl⟩
    | several scalar | misfit scalar =>
      rw [scalar] at sequence
      cases sequence
    | single _ source | nested _ source | element _ source => exact absurd source outside

namespace Compiler

variable {c : Compiler} {s : Shape} {l : Select String} {v : Bindings} {p : Plan}

/-- A plan for given values makes a command of them. -/
theorem command_of_planOf (lowering : c.dialect.lowering = .ok c.lowering) (found : c.lower s = .ok l)
    (planned : c.planOf l v = .ok p) : ∃ command, p.command v = .ok command := by
  have native := Lowering.lowerShape_native (Lowering.serves_lowering lowering) found
  obtain ⟨special, run, later⟩ := bind_eq_ok.mp planned
  obtain ⟨text, -, rest⟩ := bind_eq_ok.mp later
  cases rest
  obtain ⟨sent, binds, -⟩ := Select.specialize_binds (fun e inside => (native.expressions e inside).typed) run
  exact ⟨_, bind_eq_ok.mpr ⟨sent, binds, rfl⟩⟩

/-- Conforming values are not at fault where a compiler refuses a shape. -/
theorem compile_spares (lowering : c.dialect.lowering = .ok c.lowering) (fed : s.Fed v) :
    RefusedOnly (QueryError.SparesValues s) (c.compile s v) := by
  have planning : RefusedOnly (QueryError.SparesValues s) (c.plan s v) := by
    refine plan_refusedOnly lowering ?_ (fun l found => ?_) fun _ => .inl
    · rw [requireParameters_eq_ok.mpr fed.covered]
      exact .ok ()
    · exact Select.specialize_spares (Lowering.serves_lowering lowering).builder (lower_lowered lowering found) fed
  refine planning.bind fun p made => ?_
  obtain ⟨_, -, later⟩ := bind_eq_ok.mp made
  obtain ⟨l, found, planned⟩ := bind_eq_ok.mp later
  obtain ⟨command, made⟩ := command_of_planOf lowering found planned
  rw [made]
  exact .ok command

/-- A plan that is found makes a command of conforming values. -/
theorem Reuses.command (lowering : c.dialect.lowering = .ok c.lowering) (fed : s.Fed v) (reuses : c.Reuses s v p) :
    ∃ command, p.command v = .ok command := by
  obtain ⟨-, l, v₀, key, found, planned, stored, asked⟩ := reuses
  have serves := (Lowering.serves_lowering lowering).builder
  have lowered := lower_lowered lowering found
  -- The values of the plan were admitted, so no sequence stands outside of a membership.
  have admits : ∀ u ∈ l.uses, u.Admits v := by
    obtain ⟨special, run, -⟩ := bind_eq_ok.mp planned
    intro u member
    exact lowered.admits_of_fed serves fed member (Select.specialize_admits serves lowered run u member).isSource
  exact command_of_planOf lowering found (planOf_of_admits serves lowered planned stored asked admits)

end Compiler

namespace Engine

/-- Where every parameter of a shape has one type and all of them get values from plain JSON, every value conforms to
the type of its parameter, and an engine of any settings, after any history, refuses no value when it compiles the
shape: a refusal is for no value at all, or for a sequence that stands outside of a membership. -/
theorem compiles_plain {config : Config} {start : Engine} (made : ofConfig config = .ok start) (history : List Request)
    {s : Shape} (single : s.SinglyTyped) {given : List (String × Json)} {v : Bindings}
    (bound : s.bindPlain given = .ok v) (covered : s.Covered v) :
    (∀ name value, (name, value) ∈ v.entries → s.Mentions name ∧ ∀ t, s.Declares name t → value.Conforms t) ∧
    ∀ refusal, ((start.after history).compile s v).1 = .error refusal → refusal.SparesValues s := by
  have fed := Shape.fed_of_bindPlain single bound covered
  have lowering := lowering_ofConfig made
  refine ⟨fun name value member => ?_, fun refusal refused => ?_⟩
  · obtain ⟨t, declared, conforms⟩ := Shape.conforms_of_bindPlain bound member
    refine ⟨⟨t, declared⟩, fun t' declared' => ?_⟩
    cases single name t t' declared declared'
    exact conforms
  · change ((start.after history).plan s v).1.bind (Plan.command · v) = .error refusal at refused
    rcases plan_cases made history s v with same | ⟨p, found, reuses⟩
    · rw [same] at refused
      exact Compiler.compile_spares lowering fed refusal refused
    · obtain ⟨command, answer⟩ := reuses.command lowering fed
      rw [found] at refused
      change p.command v = .error refusal at refused
      rw [answer] at refused
      cases refused

/-- The rows that are raised, with a sequence as a column. -/
def raisedBeside : Shape :=
  Lowering.raised.project "Ids" (.parameter "ids" (.sequence .byte))

/-- Plain values for the rows that are raised, and one for another shape. -/
def plainRaised : List (String × Json) :=
  [("ids", .arr [.integer 1, .null]), ("by", .integer 1), ("other", .bool true), ("start", .str "A")]

def boundRaised : Bindings :=
  ⟨[("ids", .list [.byte 1, .null]), ("by", .int 1), ("start", .text "A")]⟩

/-- All values are read and conform, and what is refused is the column. -/
theorem compiles_plain_raisedBeside : ∃ start refusal, ofConfig {} = .ok start ∧ raisedBeside.SinglyTyped ∧
    raisedBeside.bindPlain plainRaised = .ok boundRaised ∧ raisedBeside.Covered boundRaised ∧
    (∀ t, raisedBeside.Declares "ids" t → Value.Conforms t (.list [.byte 1, .null])) ∧
    ((start.after [.compile Lowering.raised boundRaised]).compile raisedBeside boundRaised).1 = .error refusal ∧
    refusal.SparesValues raisedBeside := by
  obtain ⟨start, made⟩ : ∃ start, ofConfig {} = .ok start := ⟨_, rfl⟩
  have single : raisedBeside.SinglyTyped := by decide
  have bound : raisedBeside.bindPlain plainRaised = .ok boundRaised := rfl
  have covered : raisedBeside.Covered boundRaised := Compiler.requireParameters_eq_ok.mp rfl
  have refused : ((start.after [.compile Lowering.raised boundRaised]).compile raisedBeside boundRaised).1 =
      .error (.unsupportedBinding "ids" .outsideMembership) := by
    cases made
    rfl
  obtain ⟨conform, spares⟩ := compiles_plain made [.compile Lowering.raised boundRaised] single bound covered
  exact ⟨start, _, made, single, bound, covered, (conform "ids" _ List.mem_cons_self).2, refused, spares _ refused⟩

end Engine

end SqlShape
