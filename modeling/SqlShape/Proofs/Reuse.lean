import SqlShape.Dialect.Basic
import SqlShape.Proofs.Pass

/-!
# Reuse of a specialized statement

A specialized statement reports for which other values it may be used. The report is sound: two runs over one
statement, where the first reports no dependence on the values themselves and the second has the same null
flags for the parameters that the first consulted, end in the same statement, the same placeholders and the
same report.

The argument is about two whole runs at once. What a run has gathered stays gathered (`Disciplined.grows`), so
a question that the first run asked early is still in its report at the end; therefore the runs answer every
question alike and go the same way (`Disciplined.agrees`). Values reach a run only through the elements of a
sequence, and then the report says so.
-/

namespace SqlShape

namespace Specialization

variable {α β : Type}

/-- What was gathered is kept. -/
structure Progress.Grows (p q : Progress) : Prop where
  consulted : ∀ name ∈ p.consulted, name ∈ q.consulted
  expanded : p.expanded = true → q.expanded = true

/-- Nothing is lost where nothing is gathered. -/
theorem Progress.Grows.refl (p : Progress) : p.Grows p :=
  ⟨fun _ member => member, fun marked => marked⟩

/-- What is kept twice is kept. -/
theorem Progress.Grows.trans {p q r : Progress} (first : p.Grows q) (second : q.Grows r) : p.Grows r :=
  ⟨fun name member => second.consulted name (first.consulted name member),
    fun marked => second.expanded (first.expanded marked)⟩

/-- The names after an insertion. -/
theorem mem_insertName {name n : String} {names : List String} :
    n ∈ insertName name names ↔ n = name ∨ n ∈ names := by
  induction names with
  | nil => simp only [insertName, List.mem_cons]
  | cons first rest ih =>
    unfold insertName
    split
    next same =>
      subst same
      simp only [List.mem_cons, or_self_left]
    next =>
      split
      next => simp only [List.mem_cons]
      next =>
        simp only [List.mem_cons, ih]
        exact or_left_comm

/-- A placeholder adds to the slots only. -/
theorem placeholder_keeps {mapping : TypeMapping} {source : Source} {p q : Progress} {e : Expr Slot}
    (run : (placeholder mapping source).run p = .ok (e, q)) :
    q.consulted = p.consulted ∧ q.expanded = p.expanded := by
  obtain ⟨slot, p', registered, rest⟩ := run_bind_eq_ok.mp run
  obtain ⟨-, rfl⟩ := run_pure_eq_ok.mp rest
  rcases run_register_eq_ok.mp registered with ⟨-, rfl⟩ | ⟨-, -, rfl⟩
  · exact ⟨rfl, rfl⟩
  · exact ⟨rfl, rfl⟩

/-- Placeholders in a row add to the slots only. -/
theorem placeholders_keep {mapping : TypeMapping} {source : Nat → Source} (indices : List Nat) {p q : Progress}
    {es : List (Expr Slot)}
    (run : (indices.mapM fun index => placeholder mapping (source index)).run p = .ok (es, q)) :
    q.consulted = p.consulted ∧ q.expanded = p.expanded := by
  induction indices generalizing p es with
  | nil =>
    obtain ⟨-, rfl⟩ := run_pure_eq_ok.mp run
    exact ⟨rfl, rfl⟩
  | cons index rest ih =>
    rw [List.mapM_cons] at run
    obtain ⟨e, p', first, later⟩ := run_bind_eq_ok.mp run
    obtain ⟨es', p'', tail, last⟩ := run_bind_eq_ok.mp later
    obtain ⟨-, rfl⟩ := run_pure_eq_ok.mp last
    have here := placeholder_keeps first
    have there := ih tail
    exact ⟨there.1.trans here.1, there.2.trans here.2⟩

/-- Expanding a sequence leaves the mark. -/
theorem elementPlaceholders_expands {v : Bindings} {name : String} {type : LogicalType} {element : TypeMapping}
    {p q : Progress} {found : List (Expr Slot) × Bool}
    (run : (elementPlaceholders v name type element).run p = .ok (found, q)) :
    q.consulted = p.consulted ∧ q.expanded = true := by
  obtain ⟨values, p₁, read, run⟩ := run_bind_eq_ok.mp run
  obtain ⟨-, rfl⟩ := run_lift_eq_ok.mp read
  obtain ⟨_, p₂, marked, run⟩ := run_bind_eq_ok.mp run
  obtain rfl := run_expand_eq_ok.mp marked
  obtain ⟨chosen, p₃, checked, run⟩ := run_bind_eq_ok.mp run
  obtain ⟨-, rfl⟩ := run_lift_eq_ok.mp checked
  obtain ⟨es, p₄, placed, last⟩ := run_bind_eq_ok.mp run
  obtain ⟨-, rfl⟩ := run_pure_eq_ok.mp last
  exact placeholders_keep chosen.1 placed

/-- A run loses nothing of what was gathered before. -/
theorem Disciplined.grows {f : Bindings → Pass α} (disciplined : Disciplined f) {v : Bindings}
    {p q : Progress} {x : α} (run : (f v).run p = .ok (x, q)) : p.Grows q := by
  induction disciplined generalizing p q with
  | lift y =>
    obtain ⟨-, rfl⟩ := run_lift_eq_ok.mp run
    exact .refl p
  | bind _ _ ihFirst ihSecond =>
    obtain ⟨y, p', first, second⟩ := run_bind_eq_ok.mp run
    exact (ihFirst first).trans (ihSecond y second)
  | isNull name =>
    obtain ⟨value, p₁, read, run⟩ := run_bind_eq_ok.mp run
    obtain ⟨-, rfl⟩ := run_lift_eq_ok.mp read
    obtain ⟨_, p₂, recorded, last⟩ := run_bind_eq_ok.mp run
    obtain rfl := run_consult_eq_ok.mp recorded
    obtain ⟨-, rfl⟩ := run_pure_eq_ok.mp last
    exact ⟨fun n member => mem_insertName.mpr (.inr member), fun marked => marked⟩
  | scalar name type mapping convertTo =>
    obtain ⟨value, p₁, checked, placed⟩ := run_bind_eq_ok.mp run
    obtain ⟨-, rfl⟩ := run_lift_eq_ok.mp checked
    obtain ⟨consulted, expanded⟩ := placeholder_keeps placed
    exact ⟨fun n member => consulted ▸ member, fun marked => expanded ▸ marked⟩
  | elements name type element =>
    obtain ⟨consulted, expanded⟩ := elementPlaceholders_expands run
    exact ⟨fun n member => consulted ▸ member, fun _ => expanded⟩

/-- A parameter with a value is null as its value is. -/
theorem isNull_of_get {v : Bindings} {name : String} {value : Value} (found : v.get name = .ok value) :
    v.isNull name = value.isNull := by
  unfold Bindings.get at found
  unfold Bindings.isNull
  split at found
  next known =>
    cases found
    rw [known, Option.all_some]
  next => cases found

/-- Two runs from one start that have the same null flags for all that the first consulted end alike, unless the
first expanded a sequence. -/
theorem Disciplined.agrees {f : Bindings → Pass α} (disciplined : Disciplined f) {v₁ v₂ : Bindings}
    {p q₁ q₂ : Progress} {x₁ x₂ : α} (first : (f v₁).run p = .ok (x₁, q₁))
    (second : (f v₂).run p = .ok (x₂, q₂)) (unexpanded : q₁.expanded = false)
    (same : ∀ name ∈ q₁.consulted, v₁.isNull name = v₂.isNull name) : x₁ = x₂ ∧ q₁ = q₂ := by
  induction disciplined generalizing p q₁ q₂ with
  | lift y =>
    obtain ⟨found₁, rfl⟩ := run_lift_eq_ok.mp first
    obtain ⟨found₂, rfl⟩ := run_lift_eq_ok.mp second
    exact ⟨Except.ok.inj (found₁.symm.trans found₂), rfl⟩
  | bind _ later ihFirst ihSecond =>
    obtain ⟨y₁, p₁, head₁, tail₁⟩ := run_bind_eq_ok.mp first
    obtain ⟨y₂, p₂, head₂, tail₂⟩ := run_bind_eq_ok.mp second
    -- What holds of the end of the first run holds half-way through it, since nothing is lost.
    have kept : p₁.Grows q₁ := (later y₁).grows tail₁
    have unexpanded₁ : p₁.expanded = false := by
      cases marked : p₁.expanded with
      | false => rfl
      | true => rw [kept.expanded marked] at unexpanded; cases unexpanded
    obtain ⟨rfl, rfl⟩ := ihFirst head₁ head₂ unexpanded₁ fun name member => same name (kept.consulted name member)
    exact ihSecond y₁ tail₁ tail₂ unexpanded same
  | isNull name =>
    obtain ⟨value₁, p₁, read₁, run₁⟩ := run_bind_eq_ok.mp first
    obtain ⟨found₁, rfl⟩ := run_lift_eq_ok.mp read₁
    obtain ⟨_, p₂, recorded₁, last₁⟩ := run_bind_eq_ok.mp run₁
    obtain rfl := run_consult_eq_ok.mp recorded₁
    obtain ⟨rfl, rfl⟩ := run_pure_eq_ok.mp last₁
    obtain ⟨value₂, p₃, read₂, run₂⟩ := run_bind_eq_ok.mp second
    obtain ⟨found₂, rfl⟩ := run_lift_eq_ok.mp read₂
    obtain ⟨_, p₄, recorded₂, last₂⟩ := run_bind_eq_ok.mp run₂
    obtain rfl := run_consult_eq_ok.mp recorded₂
    obtain ⟨rfl, rfl⟩ := run_pure_eq_ok.mp last₂
    have flags := same name (mem_insertName.mpr (.inl rfl))
    rw [isNull_of_get found₁, isNull_of_get found₂] at flags
    exact ⟨flags, rfl⟩
  | scalar name type mapping convertTo =>
    obtain ⟨value₁, p₁, checked₁, placed₁⟩ := run_bind_eq_ok.mp first
    obtain ⟨-, rfl⟩ := run_lift_eq_ok.mp checked₁
    obtain ⟨value₂, p₂, checked₂, placed₂⟩ := run_bind_eq_ok.mp second
    obtain ⟨-, rfl⟩ := run_lift_eq_ok.mp checked₂
    have outcome := Except.ok.inj (placed₁.symm.trans placed₂)
    exact ⟨congrArg Prod.fst outcome, congrArg Prod.snd outcome⟩
  | elements name type element =>
    have marked := (elementPlaceholders_expands first).2
    rw [marked] at unexpanded
    cases unexpanded

end Specialization

/-- Equal keys are equal null flags, one by one. -/
theorem Cacheability.isNull_eq_of_key?_eq {names : List String} {v₁ v₂ : Bindings}
    (same : (byNullness names).key? v₁ = (byNullness names).key? v₂) :
    ∀ name ∈ names, v₁.isNull name = v₂.isNull name :=
  List.map_inj_left.mp (Option.some.inj same)

/-- What has a key may serve other values. -/
theorem Cacheability.ne_perValues_of_key? {report : Cacheability} {v : Bindings} {key : List Bool}
    (found : report.key? v = some key) : report ≠ .perValues := by
  rintro rfl
  cases found

/-- What is reported of a run tells it apart from runs with other null flags. -/
theorem Select.specialize_eq_of_key?_eq {b : Builder} {options : SpecializationOptions} {s : Select String}
    {v₁ v₂ : Bindings} {r₁ r₂ : Specialized} (first : s.specialize b options v₁ = .ok r₁)
    (second : s.specialize b options v₂ = .ok r₂) (reusable : r₁.cacheability ≠ .perValues)
    (same : r₁.cacheability.key? v₁ = r₁.cacheability.key? v₂) : r₁ = r₂ := by
  obtain ⟨visited₁, q₁, run₁, rfl⟩ := Specialization.specialize_eq_ok.mp first
  obtain ⟨visited₂, q₂, run₂, rfl⟩ := Specialization.specialize_eq_ok.mp second
  have unexpanded : q₁.expanded = false := by
    cases marked : q₁.expanded with
    | false => rfl
    | true =>
      refine absurd ?_ reusable
      simp only [Specialization.outcomeOf, Specialization.Progress.cacheability, marked, if_true]
  have flags : ∀ name ∈ q₁.consulted, v₁.isNull name = v₂.isNull name := by
    cases none : q₁.consulted.isEmpty with
    | true =>
      intro name member
      rw [List.isEmpty_iff.mp none] at member
      cases member
    | false =>
      have report : q₁.cacheability = .byNullness q₁.consulted := by
        simp only [Specialization.Progress.cacheability, unexpanded, none, Bool.false_eq_true, if_false]
      have keys : q₁.cacheability.key? v₁ = q₁.cacheability.key? v₂ := same
      rw [report] at keys
      exact Cacheability.isNull_eq_of_key?_eq keys
  obtain ⟨rfl, rfl⟩ := (Specialization.traverse_disciplined s).agrees run₁ run₂ unexpanded flags
  rfl

/-- The report of a specialized statement is sound. Another run with the same key, where the report gives one,
has the same outcome: the same statement, the same placeholders in the same order with the same sources, and
the same report. An outcome for all values is the outcome of every run. -/
theorem Select.specialize_determined_by_report (b : Builder) (options : SpecializationOptions)
    (s : Select String) {v₁ : Bindings} {r₁ : Specialized} (first : s.specialize b options v₁ = .ok r₁) :
    (r₁.cacheability ≠ .perValues → ∀ v₂ r₂, s.specialize b options v₂ = .ok r₂ →
      r₁.cacheability.key? v₁ = r₁.cacheability.key? v₂ → r₂ = r₁) ∧
    (r₁.cacheability = .byShape → ∀ v₂ r₂, s.specialize b options v₂ = .ok r₂ → r₂ = r₁) := by
  constructor
  · intro reusable v₂ r₂ second same
    exact (specialize_eq_of_key?_eq first second reusable same).symm
  · intro shape v₂ r₂ second
    have reusable : r₁.cacheability ≠ .perValues := by
      rw [shape]
      intro absurd
      cases absurd
    have same : r₁.cacheability.key? v₁ = r₁.cacheability.key? v₂ := by
      rw [shape]
      rfl
    exact (specialize_eq_of_key?_eq first second reusable same).symm

/-- The rows of a table whose nullable text is a given one. -/
def nameFilter : Select String where
  table := "Blogs"
  tableAlias := "b"
  projections := []
  predicate := some (.binary .equal (.column "b" "Name" ⟨"nvarchar(max)", .text⟩ true)
    (.parameter "name" .text ⟨"nvarchar(max)", .text⟩) ⟨"bit", .bool⟩)
  orderings := []
  limit := none

/-- Two texts for one parameter give one statement: the report names the parameter, and neither text is null. -/
theorem Select.specialize_nameFilter_same :
    ∃ r₁ r₂, nameFilter.specialize ⟨Dialect.sqlServer.catalog, ⟨"bit", .bool⟩⟩ ⟨"p", false⟩
        ⟨[("name", .text "a")]⟩ = .ok r₁ ∧
      nameFilter.specialize ⟨Dialect.sqlServer.catalog, ⟨"bit", .bool⟩⟩ ⟨"p", false⟩
        ⟨[("name", .text "b")]⟩ = .ok r₂ ∧
      r₁.cacheability = .byNullness ["name"] ∧ r₂ = r₁ := by
  obtain ⟨r₁, first, report⟩ : ∃ r₁, nameFilter.specialize ⟨Dialect.sqlServer.catalog, ⟨"bit", .bool⟩⟩
      ⟨"p", false⟩ ⟨[("name", .text "a")]⟩ = .ok r₁ ∧ r₁.cacheability = .byNullness ["name"] :=
    ⟨_, rfl, rfl⟩
  obtain ⟨r₂, second⟩ : ∃ r₂, nameFilter.specialize ⟨Dialect.sqlServer.catalog, ⟨"bit", .bool⟩⟩
      ⟨"p", false⟩ ⟨[("name", .text "b")]⟩ = .ok r₂ :=
    ⟨_, rfl⟩
  refine ⟨r₁, r₂, first, second, report, ?_⟩
  refine (specialize_determined_by_report _ _ nameFilter first).1 ?_ _ r₂ second ?_
  · rw [report]
    intro absurd
    cases absurd
  · rw [report]
    rfl

end SqlShape
