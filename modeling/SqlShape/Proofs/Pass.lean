import SqlShape.Proofs.Nodes
import SqlShape.Specialization

/-!
# What a pass can do

A pass may be refused and it gathers as it goes. The first section opens a run that was not refused: a
composed run is two runs in a row, and a step that only checks leaves what was gathered alone.

The second section says once what a reading asks of the bindings. `Disciplined` is closed under composition
and has three questions: whether a parameter is null, which is recorded; a placeholder for a scalar, whose
value is only checked; and the elements of a sequence, which marks the pass as expanded. `read_disciplined`
shows that both readings of every expression ask nothing else, so a property of all runs is proved once, by
induction on `Disciplined`, and never again by the cases of `read`.
-/

namespace SqlShape

/-- What two checks in a row yield. -/
theorem bind_eq_ok {ε α β : Type} {x : Except ε α} {f : α → Except ε β} {y : β} :
    x >>= f = .ok y ↔ ∃ a, x = .ok a ∧ f a = .ok y := by
  cases x with
  | error refusal =>
    constructor
    · intro outcome
      cases outcome
    · rintro ⟨a, absurd, -⟩
      cases absurd
  | ok a =>
    constructor
    · intro outcome
      exact ⟨a, rfl, outcome⟩
    · rintro ⟨a', same, outcome⟩
      cases same
      exact outcome

/-- Of two checks in a row, the first or the second is refused. -/
theorem bind_eq_error {ε α β : Type} {x : Except ε α} {f : α → Except ε β} {refusal : ε} :
    x >>= f = .error refusal ↔ x = .error refusal ∨ ∃ a, x = .ok a ∧ f a = .error refusal := by
  cases x with
  | error refusal' =>
    constructor
    · intro refused
      cases refused
      exact .inl rfl
    · rintro (refused | ⟨a, absurd, -⟩)
      · cases refused
        rfl
      · cases absurd
  | ok a =>
    constructor
    · intro refused
      exact .inr ⟨a, rfl, refused⟩
    · rintro (absurd | ⟨a', same, refused⟩)
      · cases absurd
      · cases same
        exact refused

namespace Specialization

variable {α β : Type}

/-! ## Runs that are not refused -/

/-- A composed run is two runs in a row. -/
theorem run_bind_eq_ok {f : Pass α} {g : α → Pass β} {p q : Progress} {y : β} :
    (f >>= g).run p = .ok (y, q) ↔ ∃ x p', f.run p = .ok (x, p') ∧ (g x).run p' = .ok (y, q) := by
  rw [StateT.run_bind]
  cases first : f.run p with
  | error refusal =>
    constructor
    · intro run
      cases run
    · rintro ⟨x, p', run, -⟩
      cases run
  | ok outcome =>
    obtain ⟨x, p'⟩ := outcome
    constructor
    · intro run
      exact ⟨x, p', rfl, run⟩
    · rintro ⟨x', p'', same, run⟩
      cases same
      exact run

/-- A composed run is refused in its first or in its second part. -/
theorem run_bind_eq_error {f : Pass α} {g : α → Pass β} {p : Progress} {refusal : QueryError} :
    (f >>= g).run p = .error refusal ↔
      f.run p = .error refusal ∨ ∃ x q, f.run p = .ok (x, q) ∧ (g x).run q = .error refusal := by
  rw [StateT.run_bind, bind_eq_error, Prod.exists]

/-- A step that only yields a value. -/
theorem run_pure_eq_ok {x y : α} {p q : Progress} :
    (pure x : Pass α).run p = .ok (y, q) ↔ x = y ∧ p = q := by
  constructor
  · intro run
    cases run
    exact ⟨rfl, rfl⟩
  · rintro ⟨rfl, rfl⟩
    rfl

/-- A step that only checks gathers nothing. -/
theorem run_lift_eq_ok {f : Except QueryError α} {p q : Progress} {x : α} :
    (liftM f : Pass α).run p = .ok (x, q) ↔ f = .ok x ∧ p = q := by
  cases f with
  | error refusal =>
    constructor
    · intro run
      cases run
    · rintro ⟨run, -⟩
      cases run
  | ok y =>
    constructor
    · intro run
      cases run
      exact ⟨rfl, rfl⟩
    · rintro ⟨same, rfl⟩
      cases same
      rfl

/-- Consulting a parameter gathers its name. -/
theorem run_consult_eq_ok {name : String} {p q : Progress} {x : Unit} :
    (consult name).run p = .ok (x, q) ↔ q = { p with consulted := insertName name p.consulted } := by
  constructor
  · intro run
    cases run
    rfl
  · rintro rfl
    rfl

/-- Expanding a sequence marks the pass. -/
theorem run_expand_eq_ok {p q : Progress} {x : Unit} :
    expand.run p = .ok (x, q) ↔ q = { p with expanded := true } := by
  constructor
  · intro run
    cases run
    rfl
  · rintro rfl
    rfl

/-- A slot under a known key is the one registered first; under a new key it is added. -/
theorem run_register_eq_ok {slot found : Slot} {p q : Progress} :
    (register slot).run p = .ok (found, q) ↔
      p.slots.find? (·.key = slot.key) = some found ∧ q = p ∨
      p.slots.find? (·.key = slot.key) = none ∧ found = slot ∧ q = { p with slots := p.slots ++ [slot] } := by
  cases known : p.slots.find? (·.key = slot.key) with
  | none =>
    have opened : (register slot).run p = .ok (slot, { p with slots := p.slots ++ [slot] }) := by
      simp only [register, StateT.run_bind, StateT.run_get, pure_bind, known, StateT.run_modify, StateT.run_pure]
      rfl
    rw [opened]
    constructor
    · intro run
      cases run
      exact .inr ⟨rfl, rfl, rfl⟩
    · rintro (⟨absurd, -⟩ | ⟨-, rfl, rfl⟩)
      · cases absurd
      · rfl
  | some registered =>
    have opened : (register slot).run p = .ok (registered, p) := by
      simp only [register, StateT.run_bind, StateT.run_get, pure_bind, known, StateT.run_pure]
      rfl
    rw [opened]
    constructor
    · intro run
      cases run
      exact .inl ⟨rfl, rfl⟩
    · rintro (⟨same, rfl⟩ | ⟨absurd, -⟩)
      · cases same
        rfl
      · cases absurd

/-! ## What a reading asks of the bindings -/

/-- A pass over given bindings that reaches them by three questions only. -/
inductive Disciplined : {α : Type} → (Bindings → Pass α) → Prop
  /-- A step that asks nothing. -/
  | lift {α : Type} (x : Except QueryError α) : Disciplined fun _ => (liftM x : Pass α)
  | bind {α β : Type} {f : Bindings → Pass α} {g : α → Bindings → Pass β} :
      Disciplined f → (∀ x, Disciplined (g x)) → Disciplined fun v => f v >>= fun x => g x v
  /-- Whether a parameter is null. The parameter is recorded. -/
  | isNull (name : String) : Disciplined fun v => do
      let value ← v.get name
      consult name
      return value.isNull
  /-- A placeholder for a scalar, whose value is only checked. A conversion that it takes over is a widening. -/
  | scalar (name : String) (type : LogicalType) (mapping : TypeMapping) (convertTo : Option LogicalType)
      (plain : type.isSequence = false) (widens : ∀ target ∈ convertTo, type.widensTo target = true) :
      Disciplined fun v => do
        let _ ← v.getScalar name type
        placeholder mapping (.value name type convertTo)
  /-- The elements of a sequence. The pass is marked as expanded. -/
  | elements (name : String) (type : LogicalType) (element : TypeMapping)
      (widens : type.widensTo element.type = true) :
      Disciplined fun v => elementPlaceholders v name type element

/-- The reading of expressions in a row is a reading of each. -/
theorem readAll_eq_map (s : Setting) (es : List (Expr String)) : readAll s es = es.map (read s) := by
  induction es with
  | nil => rfl
  | cons e es ih => rw [readAll, ih, List.map_cons]

namespace Disciplined

/-- A step that only yields a value. -/
theorem done (x : α) : Disciplined fun _ => (pure x : Pass α) :=
  lift (.ok x)

/-- A step whose outcome is sent through a function. -/
theorem map {f : Bindings → Pass α} (disciplined : Disciplined f) (g : α → β) :
    Disciplined fun v => do return g (← f v) :=
  disciplined.bind fun x => done (g x)

/-- A branch on what is known without the bindings. -/
theorem cond {c : Prop} [Decidable c] {f g : Bindings → Pass α} (yes : Disciplined f) (no : Disciplined g) :
    Disciplined fun v => if c then f v else g v := by
  by_cases holds : c
  · simpa only [if_pos holds] using yes
  · simpa only [if_neg holds] using no

/-- One step for each item of a list. -/
theorem mapM {γ : Type} {f : γ → Bindings → Pass α} (items : List γ) (each : ∀ c ∈ items, Disciplined (f c)) :
    Disciplined fun v => items.mapM fun c => f c v := by
  induction items with
  | nil => exact done []
  | cons c rest ih =>
    simp only [List.mapM_cons]
    refine (each c List.mem_cons_self).bind fun x => ?_
    refine (ih fun c' member => each c' (List.mem_cons_of_mem c member)).bind fun xs => ?_
    exact done (x :: xs)

/-- One step for an item that may be absent. -/
theorem mapMOption {γ : Type} {f : γ → Bindings → Pass α} (item : Option γ)
    (each : ∀ c ∈ item, Disciplined (f c)) : Disciplined fun v => item.mapM fun c => f c v := by
  cases item with
  | none => exact done none
  | some c =>
    simp only [Option.mapM_some, map_eq_pure_bind]
    exact (each c rfl).bind fun x => done (some x)

/-- A second question that is asked only where the first is answered no. -/
theorem orElse {f g : Bindings → Pass Bool} (first : Disciplined f) (second : Disciplined g) :
    Disciplined fun v => (do if ← f v then return true else g v) :=
  first.bind fun _ => cond (done true) second

end Disciplined

section Readings

variable {b : Builder} {relational : Bool}

open Disciplined

/-- Known nullness asks for the parameter below conversions. -/
theorem knownNullness_disciplined (e : Expr String) :
    Disciplined fun v => knownNullness ⟨b, relational, v⟩ e := by
  induction e with
  | parameter name type mapping =>
    simp only [knownNullness]
    refine cond (done none) ?_
    simpa only [bind_assoc, pure_bind] using (isNull name).map some
  | convert operand mapping ih => simpa only [knownNullness] using ih
  | constant value mapping => exact done (some value.isNull)
  | column table name mapping nullable => exact done _
  | function | binary | negation | nullTest | inList | inParameter | like => exact done none

/-- A question about several expressions asks about one after the other. -/
theorem anyMayBeNull_disciplined (es : List (Expr String))
    (each : ∀ e ∈ es, Disciplined fun v => mayBeNull ⟨b, relational, v⟩ e) :
    Disciplined fun v => anyMayBeNull ⟨b, relational, v⟩ es := by
  induction es with
  | nil =>
    simp only [anyMayBeNull]
    exact done false
  | cons e es ih =>
    simp only [anyMayBeNull]
    exact (each e List.mem_cons_self).orElse (ih fun e' member => each e' (List.mem_cons_of_mem e member))

/-- Possible nullness asks for the known nullness of operands. -/
theorem mayBeNull_disciplined (e : Expr String) :
    Disciplined fun v => mayBeNull ⟨b, relational, v⟩ e := by
  induction e with
  | constant value mapping =>
    simp only [mayBeNull]
    exact (knownNullness_disciplined _).map _
  | parameter name type mapping =>
    simp only [mayBeNull]
    exact (knownNullness_disciplined _).map _
  | column table name mapping nullable =>
    simp only [mayBeNull]
    exact done nullable
  | nullTest operand negated mapping ih =>
    simp only [mayBeNull]
    exact done false
  | function name arguments mapping nullable ih =>
    simp only [mayBeNull]
    exact cond (done true) (anyMayBeNull_disciplined arguments ih)
  | binary op left right mapping ihLeft ihRight =>
    simp only [mayBeNull]
    exact ihLeft.orElse ihRight
  | negation operand mapping ih => simpa only [mayBeNull] using ih
  | convert operand mapping ih => simpa only [mayBeNull] using ih
  | inList item values negated mapping ihItem ihValues =>
    simp only [mayBeNull]
    exact ihItem.orElse (anyMayBeNull_disciplined values ihValues)
  | inParameter item source negated mapping ihItem ihSource =>
    simp only [mayBeNull]
    exact ihItem.orElse ihSource
  | like subject pattern escape mapping ihSubject ihPattern ihEscape =>
    simp only [mayBeNull]
    refine ihSubject.orElse (ihPattern.orElse ?_)
    cases escape with
    | none =>
      simp only [escapeMayBeNull]
      exact done false
    | some e =>
      simp only [escapeMayBeNull]
      exact ihEscape e rfl

/-- The placeholder of a scalar parameter is one question. -/
theorem readParameter_disciplined (name : String) {type : LogicalType} (mapping : TypeMapping)
    {convertTo : Option LogicalType} (plain : type.isSequence = false)
    (widens : ∀ target ∈ convertTo, type.widensTo target = true) :
    Disciplined fun v => readParameter ⟨b, relational, v⟩ name type mapping convertTo := by
  simpa only [readParameter, bind_assoc] using (scalar name type mapping convertTo plain widens).map replaced

/-- A test for null asks for the known nullness, and then for what its operand asks. -/
theorem nullTest_disciplined (operand : Expr String) {visit : Bindings → Pass Visited} (negated : Bool)
    (mapping : TypeMapping) (visits : Disciplined visit) :
    Disciplined fun v => nullTest ⟨b, relational, v⟩ operand (visit v) negated mapping := by
  simp only [nullTest]
  refine (knownNullness_disciplined operand).bind fun known => ?_
  cases known with
  | some isNull => exact done _
  | none => exact visits.map _

/-- A negation asks what its operand asks. -/
theorem negateVisited_disciplined {visit : Bindings → Pass Visited} (written : Option TypeMapping)
    (visits : Disciplined visit) :
    Disciplined fun v => negateVisited ⟨b, relational, v⟩ (visit v) written := by
  simp only [negateVisited]
  refine visits.bind fun x => ?_
  have rebuilt := (lift (b.not x.expr)).map replaced
  cases written with
  | none => exact rebuilt
  | some mapping =>
    cases x.changed with
    | false => exact done _
    | true => exact rebuilt

/-- Null arms ask for the nullness of their operands and for what these ask. -/
theorem addNullArms_disciplined (x : Visited) (operands : List (Expr String × (Bindings → Reading)))
    (visits : ∀ o ∈ operands, Disciplined fun v => (o.2 v).asIs) :
    Disciplined fun v => addNullArms ⟨b, relational, v⟩ x (operands.map fun o => (o.1, o.2 v)) := by
  induction operands generalizing x with
  | nil =>
    simp only [List.map_nil, addNullArms]
    exact done _
  | cons o rest ih =>
    have later : ∀ x, Disciplined fun v =>
        addNullArms ⟨b, relational, v⟩ x (rest.map fun o => (o.1, o.2 v)) :=
      fun x => ih x fun o' member => visits o' (List.mem_cons_of_mem o member)
    simp only [List.map_cons, addNullArms]
    refine (knownNullness_disciplined o.1).bind fun known => ?_
    rcases known with _ | _ | _
    · refine (mayBeNull_disciplined o.1).bind fun nullable => cond ?_ (later x)
      refine (visits o List.mem_cons_self).bind fun y => ?_
      exact (lift (b.or x.expr (b.isNull y.expr))).bind fun joined => later (replaced joined)
    · exact later x
    · exact done _

/-- Null arms are added unless the database's treatment of null is kept. -/
theorem withNullArms_disciplined (x : Visited) (operands : List (Expr String × (Bindings → Reading)))
    (visits : ∀ o ∈ operands, Disciplined fun v => (o.2 v).asIs) :
    Disciplined fun v => withNullArms ⟨b, relational, v⟩ x (operands.map fun o => (o.1, o.2 v)) := by
  cases relational with
  | true => exact done x
  | false => exact addNullArms_disciplined x operands visits

/-- Which operands are completed depends on their possible nullness. -/
theorem nullableOperands_disciplined (equal : Bool) (left right : Expr String) :
    Disciplined fun v => nullableOperands ⟨b, relational, v⟩ equal left right := by
  cases relational with
  | true => exact done (false, false)
  | false =>
    refine (mayBeNull_disciplined left).bind fun nullable => cond (done (false, false)) ?_
    exact (mayBeNull_disciplined right).map fun second => (nullable, second)

/-- An equality asks for the nullness of its operands and for what these ask. -/
theorem equality_disciplined (equal : Bool) (left right : Expr String) {visitLeft visitRight : Bindings → Reading}
    (mapping : TypeMapping) (visitsLeft : Disciplined fun v => (visitLeft v).asIs)
    (visitsRight : Disciplined fun v => (visitRight v).asIs) :
    Disciplined fun v =>
      equality ⟨b, relational, v⟩ equal (left, visitLeft v) (right, visitRight v) mapping := by
  simp only [equality]
  refine (knownNullness_disciplined left).bind fun knownLeft => ?_
  refine (knownNullness_disciplined right).bind fun knownRight => ?_
  cases knownLeft == some true with
  | true =>
    cases knownRight == some true with
    | true => exact done _
    | false => exact visitsRight.map _
  | false =>
    cases knownRight == some true with
    | true => exact visitsLeft.map _
    | false =>
      refine (nullableOperands_disciplined equal left right).bind fun nullable => ?_
      exact visitsLeft.bind fun l => visitsRight.bind fun r => lift _

/-- A conversion is taken over by a scalar parameter that widens to its target. -/
theorem widensTo_of_convertedParameter? {operand : Expr String} {target : LogicalType}
    {found : String × LogicalType} (taken : convertedParameter? operand target = some found) :
    found.2.isSequence = false ∧ found.2.widensTo target = true := by
  unfold convertedParameter? at taken
  split at taken
  · split at taken
    next allowed =>
      cases taken
      simpa only [Bool.and_eq_true, Bool.not_eq_true'] using allowed
    next => cases taken
  · cases taken

/-- The mapping of the elements is one to which they widen. -/
theorem widensTo_elementMapping (item : Expr String) (mapping : TypeMapping) :
    mapping.type.widensTo (elementMapping item mapping).type = true := by
  unfold elementMapping
  split
  next taken =>
    rw [Bool.and_eq_true] at taken
    exact taken.2
  next => simp only [LogicalType.widensTo, decide_true, Bool.true_or]

/-- A membership is completed by the nullness of its item. -/
theorem completedMembership_disciplined (item : Expr String) (visited : Expr Slot) (hasNull negated : Bool)
    (membership : Expr Slot) :
    Disciplined fun v => completedMembership ⟨b, relational, v⟩ item visited hasNull negated membership := by
  have nullElement : Disciplined fun v => mayMatchNull ⟨b, relational, v⟩ item hasNull :=
    cond ((knownNullness_disciplined item).map _) (done false)
  have nullItem : Disciplined fun v => mayMissNull ⟨b, relational, v⟩ item negated := by
    cases negated with
    | false => exact done false
    | true =>
      cases relational with
      | false => exact mayBeNull_disciplined item
      | true => exact done false
  simp only [completedMembership]
  refine nullElement.bind fun found => ?_
  refine cond (cond (lift _) (lift _)) ?_
  refine nullItem.bind fun found => ?_
  exact cond (lift _) (done membership)

/-- A membership asks for the elements of its sequence and for what its item asks. -/
theorem expandMembership_disciplined (item : Expr String) {visit : Bindings → Reading} (name : String)
    (sequenceMapping : TypeMapping) (negated : Bool) (mapping : TypeMapping)
    (visits : Disciplined fun v => (visit v).asIs) :
    Disciplined fun v =>
      expandMembership ⟨b, relational, v⟩ (item, visit v) name sequenceMapping negated mapping := by
  simp only [expandMembership]
  refine (elements name _ _ (widensTo_elementMapping item sequenceMapping)).bind fun found => ?_
  refine visits.bind fun x => ?_
  exact (completedMembership_disciplined item x.expr found.2 negated _).map _

/-! ### Whole expressions -/

/-- The two readings of an expression, each asking only what `Disciplined` allows. -/
structure DisciplinedReading (reading : Bindings → Reading) : Prop where
  asIs : Disciplined fun v => (reading v).asIs
  negated : ∀ written, Disciplined fun v => (reading v).negated written

/-- What is negated by a negation above it. -/
theorem DisciplinedReading.negating {visit : Bindings → Pass Visited} (visits : Disciplined visit) :
    DisciplinedReading fun v => ⟨visit v, negateVisited ⟨b, relational, v⟩ (visit v)⟩ :=
  ⟨visits, fun written => negateVisited_disciplined written visits⟩

/-- Readings in a row ask one after the other. -/
theorem visitAll_disciplined (es : List (Expr String))
    (each : ∀ e ∈ es, DisciplinedReading fun v => read ⟨b, relational, v⟩ e) :
    Disciplined fun v => visitAll (readAll ⟨b, relational, v⟩ es) := by
  simp only [visitAll, readAll_eq_map, List.mapM_map]
  exact Disciplined.mapM es fun e member => (each e member).asIs

/-- A membership in a list asks what its item and the members of the list ask. -/
theorem visitList_disciplined {item : Bindings → Reading} (es : List (Expr String)) (negated : Bool)
    (mapping : TypeMapping) (first : DisciplinedReading item)
    (each : ∀ e ∈ es, DisciplinedReading fun v => read ⟨b, relational, v⟩ e) :
    Disciplined fun v => visitList (item v) (readAll ⟨b, relational, v⟩ es) negated mapping :=
  first.asIs.bind fun _ => (visitAll_disciplined es each).map _

/-- A membership in a parameter asks for its elements. -/
theorem visitMembership_disciplined (item source : Expr String) {visitItem visitSource : Bindings → Reading}
    (negated : Bool) (mapping : TypeMapping) (visitsItem : DisciplinedReading visitItem)
    (visitsSource : DisciplinedReading visitSource) :
    Disciplined fun v =>
      visitMembership ⟨b, relational, v⟩ (item, visitItem v) (source, visitSource v) negated mapping := by
  cases source with
  | parameter name type sequenceMapping =>
    exact expandMembership_disciplined item name sequenceMapping negated mapping visitsItem.asIs
  | _ => exact visitsItem.asIs.bind fun _ => visitsSource.asIs.map _

/-- A binary operation asks what its operands ask. -/
theorem visitBinary_disciplined (op : BinaryOp) {left right : Bindings → Reading} (mapping : TypeMapping)
    (first : DisciplinedReading left) (second : DisciplinedReading right) :
    Disciplined fun v => visitBinary ⟨b, relational, v⟩ op (left v) (right v) mapping := by
  simp only [visitBinary]
  exact first.asIs.bind fun _ => second.asIs.map _

/-- Both readings of a binary operation ask for the nullness of its operands and for what these ask. -/
theorem DisciplinedReading.binary (op : BinaryOp) (left right : Expr String) (mapping : TypeMapping)
    {visitLeft visitRight : Bindings → Reading} (first : DisciplinedReading visitLeft)
    (second : DisciplinedReading visitRight) :
    DisciplinedReading fun v =>
      ⟨readBinary ⟨b, relational, v⟩ op (left, visitLeft v) (right, visitRight v) mapping,
        negateBinary ⟨b, relational, v⟩ op (left, visitLeft v) (right, visitRight v) mapping⟩ := by
  have asIs : Disciplined fun v =>
      readBinary ⟨b, relational, v⟩ op (left, visitLeft v) (right, visitRight v) mapping := by
    cases op with
    | equal => exact equality_disciplined true left right mapping first.asIs second.asIs
    | notEqual => exact equality_disciplined false left right mapping first.asIs second.asIs
    | _ => exact visitBinary_disciplined _ mapping first second
  refine ⟨asIs, fun written => ?_⟩
  -- A connective is carried to its operands, an ordering gets its null arms, a sum is negated from outside.
  cases op with
  | and =>
    simp only [negateBinary]
    exact (first.negated none).bind fun l => (second.negated none).bind fun r =>
      (lift (b.or l.expr r.expr)).map _
  | or =>
    simp only [negateBinary]
    exact (first.negated none).bind fun l => (second.negated none).bind fun r =>
      (lift (b.and l.expr r.expr)).map _
  | equal => exact (equality_disciplined false left right mapping first.asIs second.asIs).map _
  | notEqual => exact (equality_disciplined true left right mapping first.asIs second.asIs).map _
  | add | subtract => exact negateVisited_disciplined written asIs
  | greater | greaterEqual | less | lessEqual =>
    refine (visitBinary_disciplined _ mapping first second).bind fun x => ?_
    refine (withNullArms_disciplined x [(left, visitLeft), (right, visitRight)] ?_).map _
    intro o member
    rcases List.mem_cons.mp member with rfl | later
    · exact first.asIs
    · rcases List.mem_singleton.mp later with rfl
      exact second.asIs

/-- Both readings of every expression ask nothing of the bindings but what `Disciplined` allows. -/
theorem read_disciplined (e : Expr String) : DisciplinedReading fun v => read ⟨b, relational, v⟩ e := by
  induction e with
  | constant value mapping =>
    simp only [read]
    exact .negating (done _)
  | column table name mapping nullable =>
    simp only [read]
    exact .negating (done _)
  | parameter name type mapping =>
    simp only [read]
    refine .negating ?_
    cases sequence : type.isSequence with
    | true => exact lift (.error _)
    | false => exact readParameter_disciplined name mapping sequence (by intro target member; cases member)
  | function name arguments mapping nullable ih =>
    simp only [read]
    exact .negating ((visitAll_disciplined arguments ih).map _)
  | binary op left right mapping ihLeft ihRight =>
    simp only [read]
    exact .binary op left right mapping ihLeft ihRight
  | negation operand mapping ih =>
    simp only [read]
    exact ⟨ih.negated (some mapping), fun _ => ih.asIs.map _⟩
  | nullTest operand negated mapping ih =>
    simp only [read]
    refine ⟨nullTest_disciplined operand negated mapping ih.asIs, fun _ => ?_⟩
    exact (lift _).bind fun _ => (nullTest_disciplined operand (!negated) b.boolMapping ih.asIs).map _
  | convert operand mapping ih =>
    simp only [read]
    refine .negating ?_
    cases taken : convertedParameter? operand mapping.type with
    | none => exact ih.asIs.map _
    | some found =>
      obtain ⟨plain, widens⟩ := widensTo_of_convertedParameter? taken
      refine readParameter_disciplined found.1 mapping plain ?_
      intro target member
      cases member
      exact widens
  | inList item values negated mapping ihItem ihValues =>
    simp only [read]
    refine ⟨visitList_disciplined values negated mapping ihItem ihValues, fun _ => ?_⟩
    refine (visitList_disciplined values (!negated) mapping ihItem ihValues).bind fun x => ?_
    have nullValue : Disciplined fun v => if negated then pure true else
        anyMayBeNull ⟨b, relational, v⟩ values :=
      cond (done true) (anyMayBeNull_disciplined values fun e _ => mayBeNull_disciplined e)
    refine nullValue.bind fun found => cond (done _) ?_
    refine (withNullArms_disciplined x [(item, fun v => read ⟨b, relational, v⟩ item)] ?_).map _
    intro o member
    rcases List.mem_singleton.mp member with rfl
    exact ihItem.asIs
  | inParameter item source negated mapping ihItem ihSource =>
    simp only [read]
    exact ⟨visitMembership_disciplined item source negated mapping ihItem ihSource,
      fun _ => visitMembership_disciplined item source (!negated) mapping ihItem ihSource⟩
  | like subject pattern escape mapping ihSubject ihPattern ihEscape =>
    simp only [read]
    have visit : Disciplined fun v => do
        let u ← (read ⟨b, relational, v⟩ subject).asIs
        let p ← (read ⟨b, relational, v⟩ pattern).asIs
        let e ← (readOption ⟨b, relational, v⟩ escape).mapM Reading.asIs
        return (⟨.like u.expr p.expr (e.map Visited.expr) mapping,
          u.changed || p.changed || e.any Visited.changed⟩ : Visited) := by
      refine ihSubject.asIs.bind fun u => ihPattern.asIs.bind fun p => ?_
      refine Disciplined.map ?_ _
      cases escape with
      | none => exact done none
      | some e =>
        simp only [readOption, Option.mapM_some, map_eq_pure_bind]
        exact (ihEscape e rfl).asIs.map some
    refine ⟨visit, fun written => ?_⟩
    refine (negateVisited_disciplined written visit).bind fun x => ?_
    refine withNullArms_disciplined x [(subject, fun v => read ⟨b, relational, v⟩ subject),
      (pattern, fun v => read ⟨b, relational, v⟩ pattern)] ?_
    intro o member
    rcases List.mem_cons.mp member with rfl | later
    · exact ihSubject.asIs
    · rcases List.mem_singleton.mp later with rfl
      exact ihPattern.asIs

/-- Specializing a statement asks what its expressions ask, one after the other. -/
theorem traverse_disciplined (s : Select String) :
    Disciplined fun v => s.traverse fun e => do return (← (read ⟨b, relational, v⟩ e).asIs).expr := by
  have visits : ∀ e, Disciplined fun v => do return (← (read ⟨b, relational, v⟩ e).asIs).expr :=
    fun e => (read_disciplined e).asIs.map Visited.expr
  simp only [Select.traverse]
  refine (Disciplined.mapM s.projections fun p _ => (visits p.expr).map (Projection.mk p.label)).bind fun _ => ?_
  refine (mapMOption s.predicate fun e _ => visits e).bind fun _ => ?_
  refine (Disciplined.mapM s.orderings fun o _ => (visits o.expr).map (SortKey.mk · o.ascending)).bind fun _ => ?_
  exact (mapMOption s.limit fun e _ => visits e).map _

end Readings

/-- What is written down of a run over a whole statement. -/
def outcomeOf (options : SpecializationOptions) (read : Select Slot) (progress : Progress) : Specialized where
  select := read.withoutTrivialPredicate.named options.namePrefix
  placeholders := read.withoutTrivialPredicate.placeholders options.namePrefix
  cacheability := progress.cacheability

/-- A specialized statement is the outcome of one run over the statement. -/
theorem specialize_eq_ok {b : Builder} {options : SpecializationOptions} {v : Bindings} {s : Select String}
    {outcome : Specialized} :
    s.specialize b options v = .ok outcome ↔ ∃ visited progress,
      (s.traverse fun e => do return (← (read ⟨b, options.relationalNulls, v⟩ e).asIs).expr).run .start
        = .ok (visited, progress) ∧ outcomeOf options visited progress = outcome := by
  unfold Select.specialize
  rw [bind_eq_ok]
  constructor
  · rintro ⟨⟨visited, progress⟩, run, last⟩
    exact ⟨visited, progress, run, Except.ok.inj last⟩
  · rintro ⟨visited, progress, run, rfl⟩
    exact ⟨(visited, progress), run, rfl⟩

end Specialization

end SqlShape
