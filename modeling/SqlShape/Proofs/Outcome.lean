import Mathlib.Data.List.Forall2
import Mathlib.Data.List.Nodup
import Mathlib.Logic.Relation
import SqlShape.Proofs.Exactness

/-!
# What a reading yields

`Progress.Step` says what a pass can do to what it has gathered: record a parameter, mark an expansion, or add a
slot under a new key. Every run of a reading is a sequence of such steps (`Disciplined.steps`).

`Outcome` says what can come out when an expression is read, for both readings at once: every node of the result
is one that was there, a condition put together from readings of the parts, or a placeholder for a parameter of
the expression. Which of these it is depends on the values and is left open. `read_outcome` is proved once, by the
cases of `read`; what holds of all results follows by induction on `Outcome`.
-/

namespace SqlShape

/-- The operands whose nullness decides about a condition. -/
def Expr.operands {ρ : Type} : Expr ρ → List (Expr ρ)
  | .binary _ l r _ => [l, r]
  | .inList item _ _ _ | .inParameter item _ _ _ => [item]
  | .like subject pattern _ _ => [subject, pattern]
  | _ => []

/-- Neither a constant, a parameter, a call nor a list of members. -/
def Expr.isOther {ρ : Type} : Expr ρ → Bool
  | .constant _ _ | .parameter _ _ _ | .function _ _ _ _ | .inList _ _ _ _ => false
  | _ => true

/-- What holds everywhere in a condition holds everywhere in the operands whose nullness decides about it. -/
theorem Expr.Everywhere.operands {ρ : Type} {P : Expr ρ → Prop} {e o : Expr ρ} (all : e.Everywhere P)
    (member : o ∈ e.operands) : o.Everywhere P := by
  cases e with
  | binary op l r m =>
    obtain ⟨-, left, right⟩ := Expr.everywhere_binary.mp all
    rcases List.mem_cons.mp member with rfl | last
    · exact left
    · obtain rfl := List.mem_singleton.mp last
      exact right
  | inList item es negated m =>
    obtain rfl := List.mem_singleton.mp member
    exact (Expr.everywhere_inList.mp all).2.1
  | inParameter item source negated m =>
    obtain rfl := List.mem_singleton.mp member
    exact (Expr.everywhere_inParameter.mp all).2.1
  | like subject pattern escape m =>
    obtain ⟨-, first, second, -⟩ := Expr.everywhere_like.mp all
    rcases List.mem_cons.mp member with rfl | last
    · exact first
    · obtain rfl := List.mem_singleton.mp last
      exact second
  | _ => cases member

/-! ## Conditions put together -/

namespace Builder

variable {b : Builder} {ρ : Type} {P : Expr ρ → Prop} {left right operand e : Expr ρ}

/-- A property of all nodes holds of a connective if it holds of the node on top. -/
theorem everywhere_logical {op : BinaryOp} (made : b.logical op left right = .ok e)
    (binary : left.type = .bool → right.type = .bool → P (.binary op left right b.boolMapping))
    (first : left.Everywhere P) (second : right.Everywhere P) : e.Everywhere P := by
  obtain ⟨left', right', rfl⟩ := logical_eq_ok made
  exact Expr.everywhere_binary.mpr ⟨binary left' right', first, second⟩

/-- A property of all nodes holds of a negation if it holds of what may come on top. -/
theorem everywhere_not (made : b.not operand = .ok e) (truth : ∀ value, P (b.truth value))
    (negation : operand.type = .bool → P (.negation operand b.boolMapping))
    (nullTest : ∀ inner negated, P (.nullTest inner negated b.boolMapping)) (below : operand.Everywhere P) :
    e.Everywhere P := by
  obtain ⟨typed, made⟩ := not_eq_ok made
  rcases made with ⟨value, m, -, rfl⟩ | ⟨m, rfl⟩ | ⟨inner, negated, m, rfl, rfl⟩ | rfl
  · exact Expr.everywhere_constant.mpr (truth _)
  · exact (Expr.everywhere_negation.mp below).2
  · exact Expr.everywhere_nullTest.mpr ⟨nullTest _ _, (Expr.everywhere_nullTest.mp below).2⟩
  · exact Expr.everywhere_negation.mpr ⟨negation typed, below⟩

end Builder

/-- Slots with one key have the same mapping and read the same parameter. -/
theorem Slot.eq_of_key_eq {s t : Slot} (same : s.key = t.key) :
    s.mapping = t.mapping ∧ s.source.parameter = t.source.parameter := by
  obtain ⟨m, source⟩ := s
  obtain ⟨m', source'⟩ := t
  cases source with
  | value =>
    cases source' with
    | value =>
      cases same
      exact ⟨rfl, rfl⟩
    | element => cases same
  | element =>
    cases source' with
    | value => cases same
    | element =>
      cases same
      exact ⟨rfl, rfl⟩

namespace Specialization

variable {α β γ : Type}

/-! ## Steps of a pass -/

/-- One step of gathering. -/
inductive Progress.Step : Progress → Progress → Prop
  | consult (p : Progress) (name : String) : Step p { p with consulted := insertName name p.consulted }
  | expand (p : Progress) : Step p { p with expanded := true }
  | register (p : Progress) (slot : Slot) (fresh : ∀ known ∈ p.slots, known.key ≠ slot.key) :
      Step p { p with slots := p.slots ++ [slot] }

/-- Steps in a row. -/
abbrev Progress.Steps : Progress → Progress → Prop :=
  Relation.ReflTransGen Progress.Step

/-- A placeholder takes no step, or adds its slot. -/
theorem placeholder_steps {mapping : TypeMapping} {source : Source} {p q : Progress} {e : Expr Slot}
    (run : (placeholder mapping source).run p = .ok (e, q)) : p.Steps q := by
  obtain ⟨slot, p', registered, rest⟩ := run_bind_eq_ok.mp run
  obtain ⟨-, rfl⟩ := run_pure_eq_ok.mp rest
  rcases run_register_eq_ok.mp registered with ⟨-, rfl⟩ | ⟨unknown, -, rfl⟩
  · exact .refl
  · refine .single (.register p _ fun known member same => ?_)
    exact List.find?_eq_none.mp unknown known member (decide_eq_true same)

/-- Placeholders for the elements of a sequence are registered one after the other. -/
theorem placeholders_steps {mapping : TypeMapping} {source : Nat → Source} (indices : List Nat) {p q : Progress}
    {es : List (Expr Slot)}
    (run : (indices.mapM fun index => placeholder mapping (source index)).run p = .ok (es, q)) : p.Steps q := by
  induction indices generalizing p es with
  | nil =>
    obtain ⟨-, rfl⟩ := run_pure_eq_ok.mp run
    exact .refl
  | cons index rest later =>
    rw [List.mapM_cons] at run
    obtain ⟨e, p', first, run⟩ := run_bind_eq_ok.mp run
    obtain ⟨es', p'', tail, last⟩ := run_bind_eq_ok.mp run
    obtain ⟨-, rfl⟩ := run_pure_eq_ok.mp last
    exact (placeholder_steps first).trans (later tail)

/-- A run takes steps and does nothing else to what was gathered. -/
theorem Disciplined.steps {f : Bindings → Pass α} (disciplined : Disciplined f) {v : Bindings} {p q : Progress}
    {x : α} (run : (f v).run p = .ok (x, q)) : p.Steps q := by
  induction disciplined generalizing p q with
  | lift y =>
    obtain ⟨-, rfl⟩ := run_lift_eq_ok.mp run
    exact .refl
  | bind _ _ first second =>
    obtain ⟨y, p', run₁, run₂⟩ := run_bind_eq_ok.mp run
    exact (first run₁).trans (second y run₂)
  | isNull name =>
    obtain ⟨value, p₁, read, run⟩ := run_bind_eq_ok.mp run
    obtain ⟨-, rfl⟩ := run_lift_eq_ok.mp read
    obtain ⟨_, p₂, recorded, last⟩ := run_bind_eq_ok.mp run
    obtain rfl := run_consult_eq_ok.mp recorded
    obtain ⟨-, rfl⟩ := run_pure_eq_ok.mp last
    exact .single (.consult p name)
  | scalar name type mapping convertTo =>
    obtain ⟨value, p₁, checked, placed⟩ := run_bind_eq_ok.mp run
    obtain ⟨-, rfl⟩ := run_lift_eq_ok.mp checked
    exact placeholder_steps placed
  | elements name type element =>
    obtain ⟨values, p₁, read, run⟩ := run_bind_eq_ok.mp run
    obtain ⟨-, rfl⟩ := run_lift_eq_ok.mp read
    obtain ⟨_, p₂, marked, run⟩ := run_bind_eq_ok.mp run
    obtain rfl := run_expand_eq_ok.mp marked
    obtain ⟨chosen, p₃, checked, run⟩ := run_bind_eq_ok.mp run
    obtain ⟨-, rfl⟩ := run_lift_eq_ok.mp checked
    obtain ⟨es, p₄, placed, last⟩ := run_bind_eq_ok.mp run
    obtain ⟨-, rfl⟩ := run_pure_eq_ok.mp last
    exact (Relation.ReflTransGen.single (.expand p)).trans (placeholders_steps chosen.1 placed)

/-- Slots that were gathered are kept. -/
theorem Progress.Steps.slots_subset {p q : Progress} (steps : p.Steps q) : p.slots ⊆ q.slots := by
  induction steps with
  | refl => exact List.Subset.refl _
  | tail _ step before =>
    cases step with
    | consult | expand => exact before
    | register slot => exact List.Subset.trans before (List.subset_append_left _ _)

/-- Slots under different keys stay so. -/
theorem Progress.Steps.keys_nodup {p q : Progress} (steps : p.Steps q) (before : (p.slots.map Slot.key).Nodup) :
    (q.slots.map Slot.key).Nodup := by
  induction steps with
  | refl => exact before
  | tail _ step before =>
    cases step with
    | consult | expand => exact before
    | register slot fresh =>
      rw [List.map_append, List.map_singleton, List.nodup_append]
      refine ⟨before, List.nodup_singleton _, ?_⟩
      rintro key known _ new rfl
      obtain rfl := List.mem_singleton.mp new
      obtain ⟨slot', member, same⟩ := List.mem_map.mp known
      exact fresh slot' member same

/-! ## Results -/

/-- A slot that was gathered for a parameter under a mapping. -/
structure Stands (S : List Slot) (name : String) (mapping : TypeMapping) (slot : Slot) : Prop where
  gathered : slot ∈ S
  parameter : slot.source.parameter = name
  mapping : slot.mapping = mapping

/-- What can come out when an expression is read, where the slots `S` have been gathered. -/
inductive Outcome (b : Builder) (S : List Slot) : Expr String → Expr Slot → Prop
  | constant (value : Value) (m : TypeMapping) : Outcome b S (.constant value m) (.constant value m)
  | column (table name : String) (m : TypeMapping) (nullable : Bool) :
      Outcome b S (.column table name m nullable) (.column table name m nullable)
  | parameter {name : String} {t : LogicalType} {m : TypeMapping} {slot : Slot} (scalar : t.isSequence = false)
      (stands : Stands S name m slot) : Outcome b S (.parameter name t m) (.parameter slot m.type m)
  | converted {name : String} {t : LogicalType} {m m' : TypeMapping} {slot : Slot} (stands : Stands S name m slot) :
      Outcome b S (.convert (.parameter name t m') m) (.parameter slot m.type m)
  | function {name : String} {m : TypeMapping} {nullable : Bool} (pairs : List (Expr String × Expr Slot))
      (each : ∀ pair ∈ pairs, Outcome b S pair.1 pair.2) :
      Outcome b S (.function name (pairs.map Prod.fst) m nullable) (.function name (pairs.map Prod.snd) m nullable)
  | convert {operand : Expr String} {x : Expr Slot} {m : TypeMapping} (below : Outcome b S operand x) :
      Outcome b S (.convert operand m) (.convert x m)
  /-- A comparison may come out turned around. -/
  | binary {op op' : BinaryOp} {l r : Expr String} {x y : Expr Slot} {m : TypeMapping}
      (same : op' = op ∨ op.negated? = some op') (first : Outcome b S l x) (second : Outcome b S r y) :
      Outcome b S (.binary op l r m) (.binary op' x y m)
  | nullTest {operand : Expr String} {x : Expr Slot} {negated negated' : Bool} {m : TypeMapping}
      (below : Outcome b S operand x) : Outcome b S (.nullTest operand negated m) (.nullTest x negated' m)
  | inList {item : Expr String} {x : Expr Slot} {negated negated' : Bool} {m : TypeMapping}
      (pairs : List (Expr String × Expr Slot)) (below : Outcome b S item x)
      (each : ∀ pair ∈ pairs, Outcome b S pair.1 pair.2) :
      Outcome b S (.inList item (pairs.map Prod.fst) negated m) (.inList x (pairs.map Prod.snd) negated' m)
  /-- The elements of a sequence. -/
  | elements {item : Expr String} {x : Expr Slot} {name : String} {t : LogicalType} {m sm : TypeMapping}
      {negated negated' : Bool} {slots : List Slot} (below : Outcome b S item x)
      (each : ∀ slot ∈ slots, Stands S name (elementMapping item sm) slot) (some : slots ≠ []) :
      Outcome b S (.inParameter item (.parameter name t sm) negated m)
        (.inList x (slots.map fun slot => .parameter slot (elementMapping item sm).type (elementMapping item sm))
          negated' m)
  | inParameter {item source : Expr String} {x y : Expr Slot} {negated negated' : Bool} {m : TypeMapping}
      (other : source.ref? = none) (first : Outcome b S item x) (second : Outcome b S source y) :
      Outcome b S (.inParameter item source negated m) (.inParameter x y negated' m)
  | like {subject pattern : Expr String} {x y : Expr Slot} {m : TypeMapping}
      (escape : Option (Expr String × Expr Slot)) (first : Outcome b S subject x) (second : Outcome b S pattern y)
      (third : ∀ pair ∈ escape, Outcome b S pair.1 pair.2) :
      Outcome b S (.like subject pattern (escape.map Prod.fst) m) (.like x y (escape.map Prod.snd) m)
  /-- A negation is read as its operand is, or kept. -/
  | operand {operand : Expr String} {x : Expr Slot} {m : TypeMapping} (below : Outcome b S operand x) :
      Outcome b S (.negation operand m) x
  | kept {operand : Expr String} {x : Expr Slot} {m : TypeMapping} (below : Outcome b S operand x) :
      Outcome b S (.negation operand m) (.negation x m)
  /-- A condition may be decided, be left to one of its sides, or be completed for null. -/
  | truth {e : Expr String} (value : Bool) (condition : e.isCondition = true) : Outcome b S e (b.truth value)
  | left {op : BinaryOp} {l r : Expr String} {x : Expr Slot} {m : TypeMapping} (logical : op.isLogical = true)
      (below : Outcome b S l x) : Outcome b S (.binary op l r m) x
  | right {op : BinaryOp} {l r : Expr String} {x : Expr Slot} {m : TypeMapping} (logical : op.isLogical = true)
      (below : Outcome b S r x) : Outcome b S (.binary op l r m) x
  | operandNull {e o : Expr String} {x : Expr Slot} {negated : Bool} (condition : e.isCondition = true)
      (operand : o ∈ e.operands) (below : Outcome b S o x) : Outcome b S e (.nullTest x negated b.boolMapping)
  | nullTested {operand : Expr String} {x : Expr Slot} {negated negated' : Bool} {m : TypeMapping}
      (below : Outcome b S operand x) :
      Outcome b S (.nullTest operand negated m) (.nullTest x negated' b.boolMapping)
  | logical {e : Expr String} {x y z : Expr Slot} {op : BinaryOp} (logical : op.isLogical = true)
      (first : Outcome b S e x) (second : Outcome b S e y) (made : b.logical op x y = .ok z) : Outcome b S e z
  | not {e : Expr String} {x y : Expr Slot} (below : Outcome b S e x) (made : b.not x = .ok y) : Outcome b S e y

/-- What can come out stays so when more slots are gathered. -/
theorem Outcome.mono {b : Builder} {S T : List Slot} (more : S ⊆ T) {e : Expr String} {x : Expr Slot}
    (found : Outcome b S e x) : Outcome b T e x := by
  have stands : ∀ {name : String} {m : TypeMapping} {slot : Slot}, Stands S name m slot → Stands T name m slot :=
    fun known => ⟨more known.gathered, known.parameter, known.mapping⟩
  induction found with
  | constant value m => exact .constant value m
  | column table name m nullable => exact .column table name m nullable
  | parameter scalar known => exact .parameter scalar (stands known)
  | converted known => exact .converted (stands known)
  | function pairs _ each => exact .function pairs each
  | convert _ below => exact .convert below
  | binary same _ _ first second => exact .binary same first second
  | nullTest _ below => exact .nullTest below
  | inList pairs _ _ below each => exact .inList pairs below each
  | elements _ each some below => exact .elements below (fun slot member => stands (each slot member)) some
  | inParameter other _ _ first second => exact .inParameter other first second
  | like escape _ _ _ first second third => exact .like escape first second third
  | operand _ below => exact .operand below
  | kept _ below => exact .kept below
  | truth value condition => exact .truth value condition
  | left logical _ below => exact .left logical below
  | right logical _ below => exact .right logical below
  | operandNull condition operand _ below => exact .operandNull condition operand below
  | nullTested _ below => exact .nullTested below
  | logical logical _ _ made first second => exact .logical logical first second made
  | not _ made below => exact .not below made

/-- A property of nodes carries over to what comes out. Constants, parameters, calls and lists of members are asked
for one by one; all other nodes have the property that is carried over to. -/
structure Carries (b : Builder) (S : List Slot) (P : Expr String → Prop) (Q : Expr Slot → Prop) : Prop where
  constant {value : Value} {m : TypeMapping} : P (.constant value m) → Q (.constant value m)
  truth (value : Bool) : Q (b.truth value)
  parameter {name : String} {t : LogicalType} {m m' : TypeMapping} {slot : Slot} :
    P (.parameter name t m') → Stands S name m slot → Q (.parameter slot m.type m)
  function {name : String} {es : List (Expr String)} {xs : List (Expr Slot)} {m : TypeMapping} {nullable : Bool} :
    P (.function name es m nullable) → Q (.function name xs m nullable)
  inList {item : Expr String} {x : Expr Slot} {pairs : List (Expr String × Expr Slot)} {negated negated' : Bool}
    {m : TypeMapping} : P (.inList item (pairs.map Prod.fst) negated m) → Q (.inList x (pairs.map Prod.snd) negated' m)
  elements {x : Expr Slot} {xs : List (Expr Slot)} {negated : Bool} {m : TypeMapping} :
    xs ≠ [] → Q (.inList x xs negated m)
  other (x : Expr Slot) : x.isOther = true → Q x

/-- What carries over holds everywhere in what comes out of an expression in which it holds everywhere. -/
theorem Outcome.everywhere {b : Builder} {S : List Slot} {P : Expr String → Prop} {Q : Expr Slot → Prop}
    (carries : Carries b S P Q) {e : Expr String} {x : Expr Slot} (found : Outcome b S e x) (all : e.Everywhere P) :
    x.Everywhere Q := by
  induction found with
  | constant => exact Expr.everywhere_constant.mpr (carries.constant all.here)
  | truth value => exact Expr.everywhere_constant.mpr (carries.truth value)
  | column => exact Expr.everywhere_column.mpr (carries.other _ rfl)
  | parameter _ stands => exact Expr.everywhere_parameter.mpr (carries.parameter all.here stands)
  | converted stands =>
    exact Expr.everywhere_parameter.mpr (carries.parameter (Expr.everywhere_convert.mp all).2.here stands)
  | function pairs _ each =>
    obtain ⟨here, operands⟩ := Expr.everywhere_function.mp all
    refine Expr.everywhere_function.mpr ⟨carries.function here, fun y member => ?_⟩
    obtain ⟨pair, inside, rfl⟩ := List.mem_map.mp member
    exact each pair inside (operands pair.1 (List.mem_map_of_mem inside))
  | convert _ below =>
    exact Expr.everywhere_convert.mpr ⟨carries.other _ rfl, below (Expr.everywhere_convert.mp all).2⟩
  | binary _ _ _ first second =>
    obtain ⟨-, left, right⟩ := Expr.everywhere_binary.mp all
    exact Expr.everywhere_binary.mpr ⟨carries.other _ rfl, first left, second right⟩
  | nullTest _ below | nullTested _ below =>
    exact Expr.everywhere_nullTest.mpr ⟨carries.other _ rfl, below (Expr.everywhere_nullTest.mp all).2⟩
  | inList pairs _ _ below each =>
    obtain ⟨here, item, values⟩ := Expr.everywhere_inList.mp all
    refine Expr.everywhere_inList.mpr ⟨carries.inList here, below item, fun y member => ?_⟩
    obtain ⟨pair, inside, rfl⟩ := List.mem_map.mp member
    exact each pair inside (values pair.1 (List.mem_map_of_mem inside))
  | elements _ each some below =>
    obtain ⟨-, item, source⟩ := Expr.everywhere_inParameter.mp all
    refine Expr.everywhere_inList.mpr ⟨carries.elements fun none => some (List.map_eq_nil_iff.mp none), below item,
      fun y member => ?_⟩
    obtain ⟨slot, inside, rfl⟩ := List.mem_map.mp member
    exact Expr.everywhere_parameter.mpr (carries.parameter source.here (each slot inside))
  | inParameter _ _ _ first second =>
    obtain ⟨-, item, source⟩ := Expr.everywhere_inParameter.mp all
    exact Expr.everywhere_inParameter.mpr ⟨carries.other _ rfl, first item, second source⟩
  | like escape _ _ _ first second third =>
    obtain ⟨-, subject, pattern, clause⟩ := Expr.everywhere_like.mp all
    refine Expr.everywhere_like.mpr ⟨carries.other _ rfl, first subject, second pattern, fun y member => ?_⟩
    obtain ⟨pair, present, rfl⟩ := Option.map_eq_some_iff.mp member
    exact third pair present (clause pair.1 (Option.mem_map_of_mem Prod.fst present))
  | operand _ below => exact below (Expr.everywhere_negation.mp all).2
  | kept _ below =>
    exact Expr.everywhere_negation.mpr ⟨carries.other _ rfl, below (Expr.everywhere_negation.mp all).2⟩
  | left _ _ below => exact below (Expr.everywhere_binary.mp all).2.1
  | right _ _ below => exact below (Expr.everywhere_binary.mp all).2.2
  | operandNull _ operand _ below =>
    exact Expr.everywhere_nullTest.mpr ⟨carries.other _ rfl, below (all.operands operand)⟩
  | logical _ _ _ made first second =>
    exact Builder.everywhere_logical made (fun _ _ => carries.other _ rfl) (first all) (second all)
  | not _ made below =>
    exact Builder.everywhere_not made carries.truth (fun _ => carries.other _ rfl) (fun _ _ => carries.other _ rfl)
      (below all)

/-! ## Slots that are gathered -/

variable {S : List Slot}

/-- A question only takes steps. -/
theorem Disciplined.gathers {f : Bindings → Pass α} (disciplined : Disciplined f) (v : Bindings) :
    Gathers S (f v) fun _ _ => True where
  yields before run := ⟨List.Subset.trans before (disciplined.steps run).slots_subset, trivial⟩
  refuses _ _ := trivial

/-! ## Rules at the leaves -/

/-- A placeholder is a leaf with a slot that stands for what was asked for. -/
theorem placeholder_gathers (mapping : TypeMapping) (source : Source) :
    Gathers S (placeholder mapping source) fun T e =>
      ∃ slot, Stands T source.parameter mapping slot ∧ e = .parameter slot mapping.type mapping := by
  have registered : Gathers S (register ⟨mapping, source⟩) fun T slot => Stands T source.parameter mapping slot := by
    refine triple_register (fun T before slot there same => ?_) fun T before => ?_
    · obtain ⟨same, reads⟩ := Slot.eq_of_key_eq same
      exact ⟨before, there, reads, same⟩
    · exact ⟨List.subset_append_of_subset_left _ before, List.mem_append_right _ (List.mem_singleton_self _), rfl, rfl⟩
  refine registered.bind fun T slot _ stands => gathers_pure fun U more => ?_
  exact ⟨slot, ⟨more stands.gathered, stands.parameter, stands.mapping⟩, rfl⟩

variable {s : Setting}

/-- Reading yields what can come out of `e`. -/
abbrev Reads (s : Setting) (S : List Slot) (f : Pass Visited) (e : Expr String) : Prop :=
  Gathers S f fun T x => Outcome s.builder T e x.expr

/-- The expression that is read by a negated reading: one below a written negation, or any. -/
def within (written : Option TypeMapping) (e : Expr String) : Expr String :=
  match written with
  | some m => .negation e m
  | none => e

/-- What comes out of an expression comes out of its negation. -/
theorem Outcome.within {b : Builder} {e : Expr String} {x : Expr Slot} (found : Outcome b S e x)
    (written : Option TypeMapping) : Outcome b S (within written e) x := by
  cases written with
  | none => exact found
  | some m => exact .operand found

/-- Both readings yield what can come out, from all slots on. -/
structure OutcomeReading (s : Setting) (e : Expr String) (reading : Reading) : Prop where
  asIs : ∀ S, Reads s S reading.asIs e
  negated : ∀ S written, Reads s S (reading.negated written) (within written e)

/-- A parameter becomes a placeholder whose slot is among those gathered. -/
theorem readParameter_gathers (name : String) (t : LogicalType) (m : TypeMapping)
    (convertTo : Option LogicalType) :
    Gathers S (readParameter s name t m convertTo) fun T x =>
      ∃ slot, Stands T name m slot ∧ x.expr = .parameter slot m.type m := by
  unfold readParameter
  refine Gathers.bind (gathers_lift fun _ _ _ _ => trivial) fun T _ _ _ => ?_
  refine (placeholder_gathers m (.value name t convertTo)).bind fun U e _ found => ?_
  obtain ⟨slot, stands, rfl⟩ := found
  exact gathers_pure fun W more => ⟨slot, ⟨more stands.gathered, stands.parameter, stands.mapping⟩, rfl⟩

/-- A null test comes out as a truth value or as a null test of what its operand comes out as. -/
theorem nullTest_reads {operand : Expr String} {visit : Pass Visited} (negated negated' : Bool)
    {m m' : TypeMapping} (visits : ∀ S, Reads s S visit operand) (kept : m' = m ∨ m' = s.builder.boolMapping) :
    Reads s S (nullTest s operand visit negated' m') (.nullTest operand negated m) := by
  refine Gathers.bind ((knownNullness_disciplined operand).gathers s.bindings) fun T known _ _ => ?_
  cases known with
  | some isNull => exact gathers_pure fun _ _ => .truth _ rfl
  | none =>
    refine (visits T).bind fun U x _ below => gathers_pure fun W more => ?_
    rcases kept with rfl | rfl
    · exact .nullTest (below.mono more)
    · exact .nullTested (below.mono more)

/-- What is negated afterwards comes out under a negation. -/
theorem negateVisited_reads {e : Expr String} {visit : Pass Visited} (written : Option TypeMapping)
    (visits : Reads s S visit e) : Reads s S (negateVisited s visit written) (within written e) := by
  refine Gathers.bind visits fun T x _ below => ?_
  have rebuilt : Reads s T (do return replaced (← s.builder.not x.expr)) (within written e) := by
    refine Gathers.bind (gathers_lift fun y made _ _ => made) fun U y more made => gathers_pure fun W last => ?_
    exact .not ((below.mono (List.Subset.trans more last)).within written) made
  cases written with
  | none => exact rebuilt
  | some m =>
    split
    next kept _ =>
      cases kept
      exact gathers_pure fun U more => .kept (below.mono more)
    next => exact rebuilt

/-- The negation of a pattern match is written above it. -/
theorem negateVisited_like {visit : Pass Visited} (written : Option TypeMapping)
    (visits : Gathers S visit fun _ x => ∃ subject pattern escape m, x.expr = .like subject pattern escape m) :
    Gathers S (negateVisited s visit written) fun _ x => ∃ operand m, x.expr = .negation operand m := by
  refine visits.bind fun T x _ shape => ?_
  obtain ⟨subject, pattern, escape, m, same⟩ := shape
  split
  · exact gathers_pure fun _ _ => ⟨_, _, rfl⟩
  · refine Gathers.bind (gathers_lift fun y made _ _ => made) fun U y _ made => gathers_pure fun _ _ => ?_
    rw [same] at made
    obtain ⟨-, cases⟩ := Builder.not_eq_ok made
    rcases cases with ⟨_, _, absurd, -⟩ | ⟨_, absurd⟩ | ⟨_, _, _, absurd, -⟩ | rfl
    · cases absurd
    · cases absurd
    · cases absurd
    · exact ⟨_, _, rfl⟩

/-- A connective over a truth value comes out as one of its sides or as a truth value. -/
theorem outcome_reduced {b : Builder} {T : List Slot} {e : Expr String} {x : Visited}
    (found : Outcome b T e x.expr)
    (sides : ∀ op l r m, x.expr = .binary op l r m → op.isLogical = true →
      e.isCondition = true ∧ Outcome b T e l ∧ Outcome b T e r) :
    Outcome b T e (x.reduced b).expr := by
  have logical : ∀ {op : BinaryOp} {value : Bool}, absorbing? op = some value → op.isLogical = true := by
    intro op value decides
    cases op with
    | and | or => rfl
    | _ => cases decides
  unfold Visited.reduced
  split
  next reduced simpler =>
    have reduces := reduces_of_reduce? simpler
    generalize same : x.expr = whole at reduces
    cases reduces with
    | decided decides _ => exact .truth _ (sides _ _ _ _ same (logical decides)).1
    | left decides _ => exact (sides _ _ _ _ same (logical decides)).2.1
    | right decides _ => exact (sides _ _ _ _ same (logical decides)).2.2
  next => exact found

/-- A condition made of two by a connective comes out, reduced or not. -/
theorem outcome_joined {b : Builder} {T : List Slot} {e : Expr String} {op : BinaryOp} {x y z : Expr Slot}
    (logical : op.isLogical = true) (condition : e.isCondition = true) (first : Outcome b T e x)
    (second : Outcome b T e y) (made : b.logical op x y = .ok z) :
    Outcome b T e ((replaced z).reduced b).expr := by
  refine outcome_reduced (x := replaced z) (.logical logical first second made) ?_
  obtain ⟨-, -, rfl⟩ := Builder.logical_eq_ok made
  intro op' l r m same _
  cases same
  exact ⟨condition, first, second⟩

/-- Null tests are joined to what came out, one for each operand that may be null. -/
theorem addNullArms_reads {e : Expr String} {x : Visited} {operands : List (Expr String × Reading)}
    (condition : e.isCondition = true) (found : Outcome s.builder S e x.expr)
    (sides : ∀ op l r m, x.expr = .binary op l r m → op.isLogical = true →
      Outcome s.builder S e l ∧ Outcome s.builder S e r)
    (each : ∀ o ∈ operands, (∀ T, Reads s T o.2.asIs o.1) ∧
      ∀ T y, Outcome s.builder T o.1 y → Outcome s.builder T e (.nullTest y false s.builder.boolMapping)) :
    Reads s S (addNullArms s x operands) e := by
  induction operands generalizing S x with
  | nil =>
    refine gathers_pure fun T more => outcome_reduced (found.mono more) fun op l r m same logical => ?_
    obtain ⟨left, right⟩ := sides op l r m same logical
    exact ⟨condition, left.mono more, right.mono more⟩
  | cons o rest later =>
    obtain ⟨operand, reading⟩ := o
    obtain ⟨⟨visits, tested⟩, rest'⟩ := List.forall_mem_cons.mp each
    have skip : ∀ T, S ⊆ T → Reads s T (addNullArms s x rest) e := fun T more =>
      later (found.mono more) (fun op l r m same logical =>
        ⟨(sides op l r m same logical).1.mono more, (sides op l r m same logical).2.mono more⟩) rest'
    refine Gathers.bind ((knownNullness_disciplined operand).gathers s.bindings) fun T known more _ => ?_
    rcases known with _ | _ | _
    · refine Gathers.bind ((mayBeNull_disciplined operand).gathers s.bindings) fun U may more' _ => ?_
      cases may with
      | false => exact skip U (List.Subset.trans more more')
      | true =>
        refine (visits U).bind fun W y more'' below => ?_
        refine Gathers.bind (gathers_lift fun z made _ _ => made) fun X z last made => ?_
        have before := found.mono (List.Subset.trans more (List.Subset.trans more' (List.Subset.trans more'' last)))
        have arm := tested X y.expr (below.mono last)
        refine later (.logical rfl before arm made) (fun op l r m same _ => ?_) rest'
        obtain ⟨-, -, rfl⟩ := Builder.logical_eq_ok made
        cases same
        exact ⟨before, arm⟩
    · exact skip T more
    · exact gathers_pure fun _ _ => .truth true condition

/-- With or without null tests, the condition comes out of the same expression. -/
theorem withNullArms_reads {e : Expr String} {x : Visited} {operands : List (Expr String × Reading)}
    (condition : e.isCondition = true) (found : Outcome s.builder S e x.expr)
    (sides : ∀ op l r m, x.expr = .binary op l r m → op.isLogical = true →
      Outcome s.builder S e l ∧ Outcome s.builder S e r)
    (each : ∀ o ∈ operands, (∀ T, Reads s T o.2.asIs o.1) ∧
      ∀ T y, Outcome s.builder T o.1 y → Outcome s.builder T e (.nullTest y false s.builder.boolMapping)) :
    Reads s S (withNullArms s x operands) e := by
  unfold withNullArms
  split
  · exact gathers_pure fun T more => found.mono more
  · exact addNullArms_reads condition found sides each

/-- A completed comparison is the comparison with null tests of its sides. -/
theorem outcome_completed {b : Builder} {T : List Slot} {e : Expr String} {equal : Bool} {comparison x : Visited}
    {left right : Expr Slot} {leftNullable rightNullable : Bool}
    (made : completed b equal comparison left right leftNullable rightNullable = .ok x)
    (found : Outcome b T e comparison.expr)
    (left' : ∀ negated, Outcome b T e (.nullTest left negated b.boolMapping))
    (right' : ∀ negated, Outcome b T e (.nullTest right negated b.boolMapping)) : Outcome b T e x.expr := by
  unfold completed at made
  split at made
  · obtain ⟨both, bothNull, later⟩ := bind_eq_ok.mp made
    obtain ⟨y, either, rest⟩ := bind_eq_ok.mp later
    cases rest
    exact .logical rfl found (.logical rfl (left' _) (right' _) bothNull) either
  · obtain ⟨y₁, first, later⟩ := bind_eq_ok.mp made
    obtain ⟨y₂, second, later⟩ := bind_eq_ok.mp later
    obtain ⟨y₃, third, later⟩ := bind_eq_ok.mp later
    obtain ⟨y₄, fourth, rest⟩ := bind_eq_ok.mp later
    cases rest
    refine .logical rfl ?_ (.logical rfl (left' _) (right' _) third) fourth
    exact .logical rfl (.logical rfl found (left' _) first) (right' _) second
  · obtain ⟨y, either, rest⟩ := bind_eq_ok.mp made
    cases rest
    exact .logical rfl found (left' _) either
  · obtain ⟨y, either, rest⟩ := bind_eq_ok.mp made
    cases rest
    exact .logical rfl found (right' _) either
  · cases made
    exact found

/-- An equation comes out as a truth value, as a null test or as a completed comparison. -/
theorem equality_reads (equal : Bool) {op : BinaryOp} {left right : Expr String × Reading} {m : TypeMapping}
    (same : equalityOp equal = op ∨ op.negated? = some (equalityOp equal))
    (first : ∀ S, Reads s S left.2.asIs left.1) (second : ∀ S, Reads s S right.2.asIs right.1) :
    Reads s S (equality s equal left right m) (.binary op left.1 right.1 m) := by
  have condition : (Expr.binary op left.1 right.1 m).isCondition = true := by
    cases op with
    | equal | notEqual => rfl
    | _ => cases equal <;> rcases same with absurd | absurd <;> cases absurd
  have leftNull : ∀ {T : List Slot} {x : Expr Slot} (negated : Bool), Outcome s.builder T left.1 x →
      Outcome s.builder T (.binary op left.1 right.1 m) (.nullTest x negated s.builder.boolMapping) :=
    fun _ below => .operandNull condition List.mem_cons_self below
  have rightNull : ∀ {T : List Slot} {x : Expr Slot} (negated : Bool), Outcome s.builder T right.1 x →
      Outcome s.builder T (.binary op left.1 right.1 m) (.nullTest x negated s.builder.boolMapping) :=
    fun _ below => .operandNull condition (List.mem_cons_of_mem _ List.mem_cons_self) below
  refine Gathers.bind ((knownNullness_disciplined left.1).gathers s.bindings) fun T knownLeft _ _ => ?_
  refine Gathers.bind ((knownNullness_disciplined right.1).gathers s.bindings) fun U knownRight _ _ => ?_
  dsimp only
  split
  · exact gathers_pure fun _ _ => .truth _ condition
  · exact (second U).bind fun W x _ below => gathers_pure fun X more => rightNull _ (below.mono more)
  · exact (first U).bind fun W x _ below => gathers_pure fun X more => leftNull _ (below.mono more)
  · refine Gathers.bind ((nullableOperands_disciplined equal left.1 right.1).gathers s.bindings)
      fun W flags _ _ => ?_
    refine (first W).bind fun X l _ left' => (second X).bind fun Y r more right' => ?_
    refine gathers_lift fun x made Z last => ?_
    have left' := left'.mono (List.Subset.trans more last)
    have right' := right'.mono last
    exact outcome_completed made (.binary same left' right') (fun _ => leftNull _ left') fun _ => rightNull _ right'

/-- The placeholders of a sequence are leaves with slots that stand for it. -/
theorem elementPlaceholders_gathers (v : Bindings) (name : String) (t : LogicalType) (element : TypeMapping) :
    Gathers S (elementPlaceholders v name t element) fun T found => ∃ slots : List Slot,
      found.1 = slots.map (fun slot => .parameter slot element.type element) ∧
      ∀ slot ∈ slots, Stands T name element slot := by
  unfold elementPlaceholders
  refine Gathers.bind (gathers_lift fun _ _ _ _ => trivial) fun T values _ _ => ?_
  refine gathers_expand.bind fun U _ _ _ => ?_
  refine Gathers.bind (gathers_lift fun _ _ _ _ => trivial) fun W numbered _ _ => ?_
  have stable : ∀ c ∈ numbered.1, ∀ T U (e : Expr Slot), T ⊆ U →
      (∃ slot, Stands T name element slot ∧ e = .parameter slot element.type element) →
      ∃ slot, Stands U name element slot ∧ e = .parameter slot element.type element := by
    rintro _ _ T U e more ⟨slot, stands, same⟩
    exact ⟨slot, ⟨more stands.gathered, stands.parameter, stands.mapping⟩, same⟩
  refine (Gathers.mapM stable fun index _ X _ =>
    placeholder_gathers element (.element name index element.type)).bind fun X es _ each => ?_
  refine gathers_pure fun Y more => ?_
  have leaves := forall_mem_of_forall₂ each
  clear each
  induction es with
  | nil => exact ⟨[], rfl, List.forall_mem_nil _⟩
  | cons e rest later =>
    obtain ⟨⟨slot, stands, rfl⟩, others⟩ := List.forall_mem_cons.mp leaves
    obtain ⟨slots, same, all⟩ := later others
    refine ⟨slot :: slots, congrArg (_ :: ·) same, List.forall_mem_cons.mpr ⟨?_, all⟩⟩
    exact ⟨more stands.gathered, stands.parameter, stands.mapping⟩

/-- A membership is completed by a test of its item for null, or stays as it is. -/
theorem completedMembership_gathers (item : Expr String) (visited membership : Expr Slot) (hasNull negated : Bool) :
    Gathers S (completedMembership s item visited hasNull negated membership) fun _ x => x = membership ∨
      ∃ op turned, op.isLogical = true ∧
        s.builder.logical op membership (.nullTest visited turned s.builder.boolMapping) = .ok x := by
  have joined : ∀ (op : BinaryOp) (turned : Bool), op.isLogical = true → ∀ T,
      Gathers T (liftM (s.builder.logical op membership (.nullTest visited turned s.builder.boolMapping))) fun _ x =>
        x = membership ∨ ∃ op turned, op.isLogical = true ∧
          s.builder.logical op membership (.nullTest visited turned s.builder.boolMapping) = .ok x :=
    fun op turned logical T => gathers_lift fun x made _ _ => .inr ⟨op, turned, logical, made⟩
  have asked : Gathers S (mayMatchNull s item hasNull) fun _ _ => True := by
    unfold mayMatchNull
    split
    · exact Gathers.bind ((knownNullness_disciplined item).gathers s.bindings) fun T _ _ _ =>
        gathers_pure fun _ _ => trivial
    · exact gathers_pure fun _ _ => trivial
  refine Gathers.bind asked fun T mayMatch _ _ => ?_
  cases mayMatch with
  | true =>
    cases negated with
    | true => exact joined .and true rfl T
    | false => exact joined .or false rfl T
  | false =>
    have asked : Gathers T (mayMissNull s item negated) fun _ _ => True := by
      unfold mayMissNull
      split
      · exact (mayBeNull_disciplined item).gathers s.bindings
      · exact gathers_pure fun _ _ => trivial
    refine Gathers.bind asked fun U mayMiss _ _ => ?_
    cases mayMiss with
    | true => exact joined .or false rfl U
    | false => exact gathers_pure fun _ _ => .inl rfl

/-- A membership in a parameter comes out as a truth value or as a list of placeholders with null tests. -/
theorem expandMembership_reads (item : Expr String × Reading) (name : String) (t : LogicalType)
    (sm : TypeMapping) (negated negated' : Bool) (m : TypeMapping) (below : ∀ S, Reads s S item.2.asIs item.1) :
    Reads s S (expandMembership s item name sm negated' m) (.inParameter item.1 (.parameter name t sm) negated m) := by
  refine (elementPlaceholders_gathers s.bindings name sm.type (elementMapping item.1 sm)).bind
    fun T found _ leaves => ?_
  obtain ⟨placeholders, hasNull⟩ := found
  obtain ⟨slots, leaves, each⟩ := leaves
  refine (below T).bind fun U x more visited => ?_
  have stands : ∀ slot ∈ slots, Stands U name (elementMapping item.1 sm) slot := fun slot member =>
    ⟨more (each slot member).gathered, (each slot member).parameter, (each slot member).mapping⟩
  have membership : ∀ W, U ⊆ W → Outcome s.builder W (.inParameter item.1 (.parameter name t sm) negated m)
      (if placeholders.isEmpty then s.builder.truth negated' else .inList x.expr placeholders negated' m) := by
    intro W more
    split
    · exact .truth _ rfl
    next some =>
      dsimp only at leaves
      subst leaves
      refine Outcome.mono more (.elements visited stands fun none => some ?_)
      rw [none]
      rfl
  refine (completedMembership_gathers item.1 x.expr _ hasNull negated').bind fun W y more' made => ?_
  refine gathers_pure fun X last => ?_
  have found := membership X (List.Subset.trans more' last)
  rcases made with rfl | ⟨op, turned, logical, made⟩
  · refine outcome_reduced (x := replaced _) found fun op l r m' same _ => ?_
    dsimp only [replaced] at same
    split at same
    · cases same
    · cases same
  · have tested : Outcome s.builder X (.inParameter item.1 (.parameter name t sm) negated m)
        (.nullTest x.expr turned s.builder.boolMapping) :=
      .operandNull rfl List.mem_cons_self (visited.mono (List.Subset.trans more' last))
    exact outcome_joined logical rfl found tested made

/-! ## Readings -/

/-- A reading that negates what it visits is one where the visit is. -/
theorem OutcomeReading.negating {e : Expr String} {visit : Pass Visited} (visits : ∀ S, Reads s S visit e) :
    OutcomeReading s e ⟨visit, negateVisited s visit⟩ :=
  ⟨visits, fun S written => negateVisited_reads written (visits S)⟩

/-- Results that match one by one are pairs. -/
theorem exists_pairs {R : α → β → Prop} {as : List α} {bs : List β} (each : List.Forall₂ R as bs) :
    ∃ pairs : List (α × β), as = pairs.map Prod.fst ∧ bs = pairs.map Prod.snd ∧ ∀ pair ∈ pairs, R pair.1 pair.2 := by
  refine ⟨as.zip bs, ?_, ?_, fun pair member => List.forall₂_zip each member⟩
  · exact (List.map_fst_zip (Nat.le_of_eq each.length_eq)).symm
  · exact (List.map_snd_zip (Nat.le_of_eq each.length_eq.symm)).symm

/-- Operands in a row come out one by one, in order. -/
theorem visitAll_gathers {es : List (Expr String)} (each : ∀ e ∈ es, OutcomeReading s e (read s e)) :
    Gathers S (visitAll (readAll s es)) fun T xs => ∃ pairs : List (Expr String × Expr Slot),
      es = pairs.map Prod.fst ∧ xs.map Visited.expr = pairs.map Prod.snd ∧
      ∀ pair ∈ pairs, Outcome s.builder T pair.1 pair.2 := by
  have read : Gathers S (es.mapM fun e => (read s e).asIs) fun T =>
      List.Forall₂ (fun e x => Outcome s.builder T e x.expr) es :=
    Gathers.mapM (fun _ _ T U x more found => found.mono more) fun e member T _ => (each e member).asIs T
  unfold visitAll
  rw [readAll_eq_map, List.mapM_map]
  refine read.mono fun T xs found => ?_
  exact exists_pairs (List.forall₂_map_right_iff.mpr found)

/-- A list comes out as a list. -/
theorem visitList_reads {item : Expr String} {es : List (Expr String)} (negated negated' : Bool) (m : TypeMapping)
    (below : OutcomeReading s item (read s item)) (each : ∀ e ∈ es, OutcomeReading s e (read s e)) :
    Gathers S (visitList (read s item) (readAll s es) negated' m) fun T x =>
      (∃ i vs, x.expr = .inList i vs negated' m) ∧ Outcome s.builder T (.inList item es negated m) x.expr := by
  refine (below.asIs S).bind fun T i _ visited => (visitAll_gathers each).bind fun U xs more all => ?_
  refine gathers_pure fun W last => ⟨⟨_, _, rfl⟩, ?_⟩
  obtain ⟨pairs, rfl, same, all⟩ := all
  dsimp only
  rw [same]
  exact .inList pairs (visited.mono (List.Subset.trans more last)) fun pair member => (all pair member).mono last

/-- A binary operation other than a connective is not reduced. -/
theorem visitBinary_reads {op op' : BinaryOp} {l r : Expr String} (m : TypeMapping)
    (same : op' = op ∨ op.negated? = some op') (first : OutcomeReading s l (read s l))
    (second : OutcomeReading s r (read s r)) :
    Reads s S (visitBinary s op' (read s l) (read s r) m) (.binary op l r m) := by
  refine (first.asIs S).bind fun T x _ left => (second.asIs T).bind fun U y more right => ?_
  refine gathers_pure fun W last => ?_
  have left := left.mono (List.Subset.trans more last)
  have right := right.mono last
  refine outcome_reduced (x := ⟨.binary op' x.expr y.expr m, x.changed || y.changed⟩) (.binary same left right) ?_
  intro op'' l' r' m' whole logical
  cases whole
  have kept : op' = op := by
    rcases same with same | turned
    · exact same
    · cases op <;> cases turned <;> cases logical
  subst kept
  refine ⟨?_, .left logical left, .right logical right⟩
  simp only [Expr.isCondition, logical, Bool.or_true]

/-- A membership is expanded where its source is a parameter and visited where it is not. -/
theorem visitMembership_reads {item source : Expr String} (negated negated' : Bool) (m : TypeMapping)
    (first : OutcomeReading s item (read s item)) (second : OutcomeReading s source (read s source)) :
    Reads s S (visitMembership s (item, read s item) (source, read s source) negated' m)
      (.inParameter item source negated m) := by
  have visited : source.ref? = none → Reads s S (do
      let i ← (read s item).asIs
      let v ← (read s source).asIs
      return replaced (.inParameter i.expr v.expr negated' m)) (.inParameter item source negated m) := by
    intro other
    refine (first.asIs S).bind fun T i _ below => (second.asIs T).bind fun U v more below' => ?_
    exact gathers_pure fun W last => .inParameter other (below.mono (List.Subset.trans more last)) (below'.mono last)
  cases source with
  | parameter name t sm => exact expandMembership_reads (item, read s item) name t sm negated negated' m first.asIs
  | _ => exact visited rfl

/-- Negated, a connective comes out over its negated sides and a comparison as the opposite one. -/
theorem OutcomeReading.binary (op : BinaryOp) {l r : Expr String} (m : TypeMapping)
    (first : OutcomeReading s l (read s l)) (second : OutcomeReading s r (read s r)) :
    OutcomeReading s (.binary op l r m) (read s (.binary op l r m)) := by
  have asIs : ∀ S, Reads s S (readBinary s op (l, read s l) (r, read s r) m) (.binary op l r m) := by
    intro S
    cases op with
    | equal => exact equality_reads true (.inl rfl) first.asIs second.asIs
    | notEqual => exact equality_reads false (.inl rfl) first.asIs second.asIs
    | _ => exact visitBinary_reads m (.inl rfl) first second
  refine ⟨asIs, fun S written => ?_⟩
  -- Both sides of a connective are read negated, and the connective is turned around.
  have connected : ∀ op' : BinaryOp, op.isLogical = true → op'.isLogical = true → Reads s S (do
      let x ← (read s l).negated none
      let y ← (read s r).negated none
      return (replaced (← s.builder.logical op' x.expr y.expr)).reduced s.builder)
      (within written (.binary op l r m)) := by
    intro op' logical logical'
    refine (first.negated S none).bind fun T x _ left => (second.negated T none).bind fun U y more right => ?_
    refine Gathers.bind (gathers_lift fun z made _ _ => made) fun W z more' made => gathers_pure fun X last => ?_
    have condition : (Expr.binary op l r m).isCondition = true := by
      simp only [Expr.isCondition, logical, Bool.or_true]
    have fromU := List.Subset.trans more' last
    have fromT := List.Subset.trans more fromU
    exact (outcome_joined logical' condition (.left logical (left.mono fromT)) (.right logical (right.mono fromU))
      made).within written
  have turned : ∀ equal : Bool, op.negated? = some (equalityOp equal) → Reads s S (do
      return replaced (← equality s equal (l, read s l) (r, read s r) m).expr) (within written (.binary op l r m)) :=
    fun equal opposite => (equality_reads equal (.inr opposite) first.asIs second.asIs).bind fun T x _ found =>
      gathers_pure fun U more => (found.mono more).within written
  have ordered : ∀ op' : BinaryOp, op.negated? = some op' → Reads s S (do
      let x ← visitBinary s op' (read s l) (read s r) m
      return replaced (← withNullArms s x [(l, read s l), (r, read s r)]).expr)
      (within written (.binary op l r m)) := by
    intro op' opposite
    have condition : (Expr.binary op l r m).isCondition = true := by
      cases op <;> first | rfl | cases opposite
    have compares : op'.isLogical = false := by
      cases op <;> cases opposite <;> rfl
    refine Gathers.bind (P := fun T x => Outcome s.builder T (.binary op l r m) x.expr ∧
      ∃ l' r', x.expr = .binary op' l' r' m) ?_ fun T x _ found => ?_
    · refine (first.asIs S).bind fun T x _ left => (second.asIs T).bind fun U y more right => ?_
      refine gathers_pure fun W last => ?_
      rw [reduced_binary compares]
      exact ⟨.binary (.inr opposite) (left.mono (List.Subset.trans more last)) (right.mono last), _, _, rfl⟩
    · obtain ⟨found, l', r', same⟩ := found
      refine Gathers.bind (withNullArms_reads condition found ?_ ?_) fun U y _ found => ?_
      · intro op'' l'' r'' m' whole logical
        rw [same] at whole
        cases whole
        rw [compares] at logical
        cases logical
      · refine List.forall_mem_cons.mpr ⟨⟨first.asIs, fun T y below => ?_⟩,
          List.forall_mem_singleton.mpr ⟨second.asIs, fun T y below => ?_⟩⟩
        · exact .operandNull condition List.mem_cons_self below
        · exact .operandNull condition (List.mem_cons_of_mem _ List.mem_cons_self) below
      · exact gathers_pure fun W more => (found.mono more).within written
  cases op with
  | and => exact connected .or rfl rfl
  | or => exact connected .and rfl rfl
  | equal => exact turned false rfl
  | notEqual => exact turned true rfl
  | add | subtract => exact negateVisited_reads written (asIs S)
  | greater => exact ordered .lessEqual rfl
  | greaterEqual => exact ordered .less rfl
  | less => exact ordered .greaterEqual rfl
  | lessEqual => exact ordered .greater rfl

theorem isCondition_within (written : Option TypeMapping) {e : Expr String} (condition : e.isCondition = true) :
    (within written e).isCondition = true := by
  cases written with
  | none => exact condition
  | some m => rfl

/-- Whether a member may be null is asked only where the membership is not negated, and no expression comes of it. -/
theorem mayHoldNull_gathers (negated : Bool) (es : List (Expr String)) :
    Gathers S (if negated then return true else anyMayBeNull s es) fun _ _ => True := by
  split
  · exact gathers_pure fun _ _ => trivial
  · exact (anyMayBeNull_disciplined es fun e _ => mayBeNull_disciplined e).gathers s.bindings

/-- A membership in a list, from its item and its members. -/
theorem OutcomeReading.inList {item : Expr String} {es : List (Expr String)} {negated : Bool} {m : TypeMapping}
    (below : OutcomeReading s item (read s item)) (each : ∀ e ∈ es, OutcomeReading s e (read s e)) :
    OutcomeReading s (.inList item es negated m) (read s (.inList item es negated m)) := by
  refine ⟨fun S => (visitList_reads negated negated m below each).mono fun T x found => found.2, fun S written => ?_⟩
  refine Gathers.bind (visitList_reads negated (!negated) m below each) fun T x _ found => ?_
  obtain ⟨⟨i, vs, same⟩, found⟩ := found
  refine Gathers.bind (mayHoldNull_gathers negated es) fun U kept more _ => ?_
  split
  · exact gathers_pure fun W last => (found.mono (List.Subset.trans more last)).within written
  · refine Gathers.bind (withNullArms_reads rfl (found.mono more) ?_ ?_) fun W y _ found => ?_
    · intro op l r m' whole
      rw [same] at whole
      cases whole
    · exact List.forall_mem_singleton.mpr
        ⟨below.asIs, fun T y visited => .operandNull rfl List.mem_cons_self visited⟩
    · exact gathers_pure fun X last => (found.mono last).within written

section Like

variable {subject pattern : Expr String} {escape : Option (Expr String)} {m : TypeMapping}

/-- The escape of a pattern match comes out, where it has one. -/
theorem readOption_gathers (each : ∀ e, escape = some e → OutcomeReading s e (read s e)) :
    Gathers S ((readOption s escape).mapM Reading.asIs) fun T o =>
      ∃ pair : Option (Expr String × Expr Slot), escape = pair.map Prod.fst ∧
        o.map Visited.expr = pair.map Prod.snd ∧ ∀ p ∈ pair, Outcome s.builder T p.1 p.2 := by
  cases escape with
  | none => exact gathers_pure fun _ _ => ⟨none, rfl, rfl, fun p absent => absurd absent (Option.not_mem_none p)⟩
  | some e =>
    rw [readOption, Option.mapM_some, map_eq_pure_bind]
    refine ((each e rfl).asIs S).bind fun T x _ found => gathers_pure fun U more => ?_
    refine ⟨some (e, x.expr), rfl, rfl, ?_⟩
    rintro p ⟨⟩
    exact found.mono more

/-- A pattern match comes out as one. -/
theorem visitLike_gathers (first : OutcomeReading s subject (read s subject))
    (second : OutcomeReading s pattern (read s pattern))
    (third : ∀ e, escape = some e → OutcomeReading s e (read s e)) :
    Gathers S (read s (.like subject pattern escape m)).asIs fun T x =>
      (∃ subject pattern escape m, x.expr = .like subject pattern escape m) ∧
        Outcome s.builder T (.like subject pattern escape m) x.expr := by
  refine (first.asIs S).bind fun T u _ subject' => (second.asIs T).bind fun U p more pattern' => ?_
  refine (readOption_gathers third).bind fun W o more' escape' => gathers_pure fun X last => ⟨⟨_, _, _, _, rfl⟩, ?_⟩
  obtain ⟨pair, rfl, same, all⟩ := escape'
  dsimp only
  rw [same]
  have fromU := List.Subset.trans more' last
  have fromT := List.Subset.trans more fromU
  exact .like pair (subject'.mono fromT) (pattern'.mono fromU) fun p member => (all p member).mono last

/-- A pattern match, from its operands. -/
theorem OutcomeReading.like (first : OutcomeReading s subject (read s subject))
    (second : OutcomeReading s pattern (read s pattern))
    (third : ∀ e, escape = some e → OutcomeReading s e (read s e)) :
    OutcomeReading s (.like subject pattern escape m) (read s (.like subject pattern escape m)) := by
  refine ⟨fun S => (visitLike_gathers first second third).mono fun _ _ found => found.2, fun S written => ?_⟩
  have visited := visitLike_gathers (S := S) (m := m) first second third
  have negated := (negateVisited_like (s := s) written (visited.mono fun _ _ found => found.1)).and
    (negateVisited_reads written (visited.mono fun _ _ found => found.2))
  refine negated.bind fun T x _ found => ?_
  obtain ⟨⟨operand, m', same⟩, found⟩ := found
  refine withNullArms_reads (isCondition_within written rfl) found ?_ ?_
  · intro op l r m'' whole
    rw [same] at whole
    cases whole
  · refine List.forall_mem_cons.mpr ⟨⟨first.asIs, fun T y below => ?_⟩,
      List.forall_mem_singleton.mpr ⟨second.asIs, fun T y below => ?_⟩⟩
    · exact (Outcome.operandNull rfl List.mem_cons_self below).within written
    · exact (Outcome.operandNull rfl (List.mem_cons_of_mem _ List.mem_cons_self) below).within written

end Like

/-- Both readings of every expression yield what can come out of it. -/
theorem read_outcome (e : Expr String) : OutcomeReading s e (read s e) := by
  induction e with
  | constant value m => exact .negating fun S => gathers_pure fun _ _ => .constant value m
  | column table name m nullable => exact .negating fun S => gathers_pure fun _ _ => .column table name m nullable
  | parameter name t m =>
    refine .negating fun S => ?_
    split
    · exact gathers_throw
    next scalar =>
      refine (readParameter_gathers name t m none).mono fun T x found => ?_
      obtain ⟨slot, stands, same⟩ := found
      rw [same]
      exact .parameter (Bool.not_eq_true _ ▸ scalar) stands
  | function name es m nullable each =>
    refine .negating fun S => (visitAll_gathers each).bind fun T xs _ all => gathers_pure fun U more => ?_
    obtain ⟨pairs, rfl, same, all⟩ := all
    dsimp only
    rw [same]
    exact .function pairs fun pair member => (all pair member).mono more
  | binary op l r m first second => exact .binary op m first second
  | negation operand m below =>
    refine ⟨fun S => below.negated S (some m), fun S written => ?_⟩
    exact (below.asIs S).bind fun T x _ found => gathers_pure fun U more =>
      (Outcome.operand (found.mono more)).within written
  | nullTest operand negated m below =>
    refine ⟨fun S => nullTest_reads negated negated below.asIs (.inl rfl), fun S written => ?_⟩
    refine Gathers.bind (gathers_lift fun _ _ _ _ => trivial) fun T _ _ _ => ?_
    exact (nullTest_reads negated (!negated) below.asIs (.inr rfl)).bind fun U x _ found =>
      gathers_pure fun W more => (found.mono more).within written
  | convert operand m below =>
    refine .negating fun S => ?_
    split
    next name t taken =>
      obtain ⟨m', rfl⟩ := eq_parameter_of_convertedParameter? taken
      refine (readParameter_gathers name t m (some m.type)).mono fun T x found => ?_
      obtain ⟨slot, stands, same⟩ := found
      rw [same]
      exact .converted stands
    next =>
      exact (below.asIs S).bind fun T x _ found => gathers_pure fun U more => .convert (found.mono more)
  | inList item es negated m below each => exact .inList below each
  | inParameter item source negated m first second =>
    refine ⟨fun S => visitMembership_reads negated negated m first second, fun S written => ?_⟩
    exact (visitMembership_reads negated (!negated) m first second).mono fun T x found => found.within written
  | like subject pattern escape m first second third => exact .like first second third

/-! ## Statements -/

/-- A statement is read expression by expression. -/
theorem traverse_gathers {f : Expr String → Pass (Expr Slot)} {R : List Slot → Expr String → Expr Slot → Prop}
    {t : Select String} (stable : ∀ T U e x, T ⊆ U → R T e x → R U e x)
    (each : ∀ e ∈ t.expressions, ∀ S, Gathers S (f e) fun T => R T e) :
    Gathers S (t.traverse f) fun T => Select.Matches (R T) t := by
  have projected : ∀ p ∈ t.projections, ∀ S, Gathers S (do return (⟨p.label, ← f p.expr⟩ : Projection Slot))
      fun T q => q.label = p.label ∧ R T p.expr q.expr := fun p member S =>
    (each p.expr (Select.mem_expressions.mpr (.inl ⟨p, member, rfl⟩)) S).bind
      fun T e _ holds => gathers_pure fun U more => ⟨rfl, stable T U _ e more holds⟩
  have ordered : ∀ o ∈ t.orderings, ∀ S, Gathers S (do return (⟨← f o.expr, o.ascending⟩ : SortKey Slot))
      fun T o' => o'.ascending = o.ascending ∧ R T o.expr o'.expr := fun o member S =>
    (each o.expr (Select.mem_expressions.mpr (.inr (.inr (.inl ⟨o, member, rfl⟩)))) S).bind
      fun T e _ holds => gathers_pure fun U more => ⟨rfl, stable T U _ e more holds⟩
  refine (Gathers.mapM (fun p _ T U q more holds => ⟨holds.1, stable T U _ _ more holds.2⟩)
    fun p member T _ => projected p member T).bind fun T projections _ first => ?_
  refine (Gathers.mapMOption (fun e _ T U x => stable T U e x) fun e inside =>
    each e (Select.mem_expressions.mpr (.inr (.inl inside))) T).bind
    fun U predicate more second => ?_
  refine (Gathers.mapM (fun o _ T U q more holds => ⟨holds.1, stable T U _ _ more holds.2⟩)
    fun o member T _ => ordered o member T).bind fun V orderings more' third => ?_
  refine (Gathers.mapMOption (fun e _ T U x => stable T U e x) fun e inside =>
    each e (Select.mem_expressions.mpr (.inr (.inr (.inr inside)))) V).bind
    fun W limit more'' fourth => gathers_pure fun X last => ?_
  have fromV := List.Subset.trans more'' last
  have fromU := List.Subset.trans more' fromV
  have fromT := List.Subset.trans more fromU
  constructor
  · exact first.imp fun p q holds => ⟨holds.1, stable T X _ _ fromT holds.2⟩
  · exact rel_imp (fun e x => stable U X e x fromU) second
  · exact third.imp fun o q holds => ⟨holds.1, stable V X _ _ fromV holds.2⟩
  · exact rel_imp (fun e x => stable W X e x last) fourth

/-- A specialized statement comes from a statement over slots that were gathered under different keys, and its
expressions are what can come out. -/
theorem specialize_outcome {b : Builder} {options : SpecializationOptions} {v : Bindings} {s : Select String}
    {outcome : Specialized} (run : s.specialize b options v = .ok outcome) :
    ∃ t progress, Select.Matches (Outcome b progress.slots) s t ∧ (progress.slots.map Slot.key).Nodup ∧
      outcomeOf options t progress = outcome := by
  obtain ⟨t, progress, traversed, made⟩ := specialize_eq_ok.mp run
  have visits : ∀ e ∈ s.expressions, ∀ S,
      Gathers S (do return (← (read ⟨b, options.relationalNulls, v⟩ e).asIs).expr) fun T => Outcome b T e := fun e _ S =>
    ((read_outcome (s := ⟨b, options.relationalNulls, v⟩) e).asIs S).bind fun T x _ found =>
      gathers_pure fun U more => found.mono more
  have gathers := traverse_gathers (S := []) (R := Outcome b) (fun T U e x more holds => holds.mono more) visits
  obtain ⟨-, found⟩ := gathers.yields (List.nil_subset _) traversed
  have steps := (traverse_disciplined s).steps traversed
  exact ⟨t, progress, found, steps.keys_nodup List.nodup_nil, made⟩

end Specialization

end SqlShape
