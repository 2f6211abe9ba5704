import Mathlib.Data.List.Nodup
import SqlShape.Proofs.Outcome

/-!
# The placeholders of a specialized statement

A specialized statement and its list of placeholders fit together: the placeholders are numbered without gaps in
the order in which the statement meets them, none is listed that the statement does not have and none is left out,
a leaf of the statement has the mapping of its entry, no two entries stand for the same value in the same mapping,
and every entry reads a parameter of the statement that was specialized.

The argument goes through the statement over slots. Its leaves are known from `Outcome`; numbering is injective on
its slots, so names occur in it exactly as slots do.
-/

namespace SqlShape

/-! ## Numbering a list -/

section Numbering

variable {α β : Type} [DecidableEq α] [DecidableEq β]

/-- Induction along the removal of repetitions: an item, then the later items that differ from it. -/
theorem eraseDupsInduction {motive : List α → Prop} (nil : motive [])
    (cons : ∀ a rest, motive (rest.filter fun b => !(b == a)) → motive (a :: rest)) (items : List α) :
    motive items := by
  cases items with
  | nil => exact nil
  | cons a rest => exact cons a rest (eraseDupsInduction nil cons _)
termination_by items.length
decreasing_by
  have bound := List.length_filter_le (fun b => !(b == a)) rest
  simp only [List.length_cons]
  omega

/-- Repetitions stay repetitions under a function that tells the items apart. -/
theorem map_eraseDups (f : α → β) {items : List α} (apart : ∀ a ∈ items, ∀ b ∈ items, f a = f b → a = b) :
    (items.map f).eraseDups = items.eraseDups.map f := by
  induction items using eraseDupsInduction with
  | nil => rfl
  | cons a rest later =>
    have others : (rest.map f).filter (fun c => !(c == f a)) = (rest.filter fun b => !(b == a)).map f := by
      rw [List.filter_map]
      refine congrArg (List.map f) (List.filter_congr fun b member => ?_)
      have same : f b = f a ↔ b = a :=
        ⟨apart b (List.mem_cons_of_mem a member) a List.mem_cons_self, congrArg f⟩
      simp only [Function.comp_apply, Bool.not_eq_eq_eq_not, Bool.not_not, beq_eq_beq, same]
    have inside : ∀ b ∈ rest.filter (fun b => !(b == a)), b ∈ a :: rest :=
      fun b member => List.mem_cons_of_mem a (List.mem_of_mem_filter member)
    have later := later fun b member c member' => apart b (inside b member) c (inside c member')
    rw [List.map_cons, List.eraseDups_cons, others, List.eraseDups_cons, List.map_cons, later]

/-- Without repetitions every item occurs once. -/
theorem nodup_eraseDups (items : List α) : items.eraseDups.Nodup := by
  induction items using eraseDupsInduction with
  | nil => exact List.nodup_nil
  | cons a rest later =>
    rw [List.eraseDups_cons, List.nodup_cons]
    refine ⟨fun member => ?_, later⟩
    have differs := List.of_mem_filter (List.mem_eraseDups.mp member)
    simp only [beq_self_eq_true, Bool.not_true, Bool.false_eq_true] at differs

/-- The places of the items of a list, each of which occurs once. -/
theorem map_idxOf_self {items : List α} (once : items.Nodup) :
    items.map items.idxOf = List.range items.length := by
  refine List.ext_getElem (by simp only [List.length_map, List.length_range]) fun i inside _ => ?_
  rw [List.getElem_map, List.getElem_range]
  exact once.idxOf_getElem i (by simpa only [List.length_map] using inside)

end Numbering

/-! ## Leaves -/

namespace Expr

variable {ρ σ : Type}

/-- With other references an expression has the same nodes, each with other references. -/
theorem nodes_mapRef (f : ρ → σ) (e : Expr ρ) : (e.mapRef f).nodes = e.nodes.map (mapRef f) := by
  have each : ∀ {es : List (Expr ρ)}, (∀ e ∈ es, (e.mapRef f).nodes = e.nodes.map (mapRef f)) →
      (es.map (mapRef f)).flatMap nodes = (es.flatMap nodes).map (mapRef f) := by
    intro es same
    rw [List.flatMap_map, List.map_flatMap]
    exact List.flatMap_congr same
  induction e with
  | constant value m => rfl
  | parameter ref t m => rfl
  | column table name m nullable => rfl
  | function name es m nullable same =>
    simp only [mapRef, mapRefList_eq_map, nodes, nodesList_eq_flatMap, each same, List.map_cons]
  | binary op l r m first second => simp only [mapRef, nodes, first, second, List.map_cons, List.map_append]
  | negation e m below => simp only [mapRef, nodes, below, List.map_cons]
  | nullTest e negated m below => simp only [mapRef, nodes, below, List.map_cons]
  | convert e m below => simp only [mapRef, nodes, below, List.map_cons]
  | inList item es negated m below same =>
    simp only [mapRef, mapRefList_eq_map, nodes, nodesList_eq_flatMap, below, each same, List.map_cons,
      List.map_append]
  | inParameter item source negated m first second =>
    simp only [mapRef, nodes, first, second, List.map_cons, List.map_append]
  | like subject pattern escape m first second third =>
    have present : (escape.map (mapRef f)).toList = escape.toList.map (mapRef f) := by
      cases escape with
      | none => rfl
      | some e => rfl
    have last := each fun e member => third e (Option.mem_toList.mp member)
    simp only [mapRef, mapRefOption_eq_map, nodes, nodesOption_eq_flatMap, first, second, present, last,
      List.map_cons, List.map_append]

/-- With other references an expression has a property everywhere if its own nodes have it so. -/
theorem everywhere_mapRef {P : Expr σ → Prop} {f : ρ → σ} {e : Expr ρ} :
    (e.mapRef f).Everywhere P ↔ e.Everywhere fun n => P (n.mapRef f) := by
  simp only [Everywhere, nodes_mapRef, List.forall_mem_map]

/-- Other references stand in the same order. -/
theorem refs_mapRef (f : ρ → σ) (e : Expr ρ) : (e.mapRef f).refs = e.refs.map f := by
  have leaf : ∀ n : Expr ρ, (n.mapRef f).ref? = n.ref?.map f := by
    intro n
    cases n with
    | parameter ref t m => rfl
    | _ => simp only [mapRef, ref?, Option.map_none]
  unfold refs
  rw [nodes_mapRef, List.filterMap_map, List.map_filterMap]
  exact List.filterMap_congr fun n _ => leaf n

/-- A leaf is placed: its slot was gathered for one of the named parameters, and the leaf has the mapping of the
slot and the type of that mapping. -/
def Placed (S : List Slot) (names : List String) : Expr Slot → Prop
  | parameter slot t m => slot ∈ S ∧ slot.mapping = m ∧ t = m.type ∧ slot.source.parameter ∈ names
  | _ => True

end Expr

namespace Specialization

/-- All leaves of what comes out of an expression are placed for its parameters. -/
theorem Outcome.placed {b : Builder} {S : List Slot} {e : Expr String} {x : Expr Slot} {names : List String}
    (found : Outcome b S e x) (known : e.refs ⊆ names) : x.Everywhere (Expr.Placed S names) := by
  have carries : Carries b S (fun n => ∀ name ∈ n.ref?, name ∈ names) (Expr.Placed S names) := by
    constructor
    case parameter =>
      rintro name t m m' slot member ⟨gathered, rfl, rfl⟩
      exact ⟨gathered, rfl, rfl, member _ rfl⟩
    case other =>
      intro x other
      cases x with
      | parameter => cases other
      | _ => trivial
    all_goals
      intros
      trivial
  refine found.everywhere carries fun n node name referred => known ?_
  exact List.mem_filterMap.mpr ⟨n, node, referred⟩

end Specialization

/-! ## Statements -/

namespace Select

/-- The expressions of a statement after a change of each. -/
theorem expressions_map {ρ σ : Type} (f : Expr ρ → Expr σ) (t : Select ρ) :
    (t.map f).expressions = t.expressions.map f := by
  have option : ∀ o : Option (Expr ρ), (o.map f).toList = o.toList.map f := by
    intro o
    cases o with
    | none => rfl
    | some e => rfl
  simp only [expressions, map, option, List.map_append, List.map_map, Function.comp_def]

/-- The name that a slot is given in a statement. -/
def nameOf (namePrefix : String) (t : Select Slot) (slot : Slot) : String :=
  placeholderName namePrefix (t.slots.idxOf slot)

theorem named_eq_map (namePrefix : String) (t : Select Slot) :
    t.named namePrefix = t.map (Expr.mapRef (t.nameOf namePrefix)) :=
  rfl

/-- An expression of the final statement is one of the statement that was read, with its placeholders named. -/
theorem exists_mapRef_of_mem_outcomeOf {options : SpecializationOptions} {t : Select Slot}
    {progress : Specialization.Progress} {e : Expr String}
    (member : e ∈ (Specialization.outcomeOf options t progress).select.expressions) :
    ∃ x ∈ t.expressions, ∃ f : Slot → String, e = x.mapRef f := by
  dsimp only [Specialization.outcomeOf] at member
  rw [named_eq_map, expressions_map] at member
  obtain ⟨x, inside, rfl⟩ := List.mem_map.mp member
  exact ⟨x, mem_withoutTrivialPredicate inside, _, rfl⟩

/-- Every slot of a statement is listed once. -/
theorem nodup_slots (t : Select Slot) : t.slots.Nodup :=
  nodup_eraseDups _

/-- The slots of a statement have different names. -/
theorem nameOf_inj {namePrefix : String} {t : Select Slot} {slot slot' : Slot} (member : slot ∈ t.slots)
    (same : t.nameOf namePrefix slot = t.nameOf namePrefix slot') : slot = slot' :=
  (List.idxOf_inj member).mp (placeholderName_inj same)

/-- The names in a statement stand where its slots stood. -/
theorem refs_named (namePrefix : String) (t : Select Slot) :
    (t.named namePrefix).expressions.flatMap Expr.refs =
      (t.expressions.flatMap Expr.refs).map (t.nameOf namePrefix) := by
  rw [named_eq_map, expressions_map, List.flatMap_map, List.map_flatMap]
  exact List.flatMap_congr fun e _ => Expr.refs_mapRef _ e

/-- There is one placeholder for each slot, under the name of the slot. -/
theorem placeholders_eq_map (namePrefix : String) (t : Select Slot) :
    t.placeholders namePrefix =
      t.slots.map fun slot => ⟨t.nameOf namePrefix slot, slot.mapping, slot.source⟩ := by
  unfold placeholders nameOf
  refine List.ext_getElem (by simp only [List.length_map, List.length_zipIdx]) fun i inside _ => ?_
  have inside : i < t.slots.length := by simpa only [List.length_map, List.length_zipIdx] using inside
  simp only [List.getElem_map, List.getElem_zipIdx, Nat.zero_add, t.nodup_slots.idxOf_getElem i inside]

/-- The placeholders of a statement are numbered. -/
theorem map_name_placeholders (namePrefix : String) (t : Select Slot) :
    (t.placeholders namePrefix).map Placeholder.name =
      (List.range (t.placeholders namePrefix).length).map (placeholderName namePrefix) := by
  rw [placeholders_eq_map, List.length_map, ← map_idxOf_self t.nodup_slots, List.map_map, List.map_map]
  rfl

/-- The placeholders of a statement are met in their order. -/
theorem eraseDups_refs_named (namePrefix : String) (t : Select Slot) :
    ((t.named namePrefix).expressions.flatMap Expr.refs).eraseDups =
      (t.placeholders namePrefix).map Placeholder.name := by
  have apart : ∀ slot ∈ t.expressions.flatMap Expr.refs, ∀ slot' ∈ t.expressions.flatMap Expr.refs,
      t.nameOf namePrefix slot = t.nameOf namePrefix slot' → slot = slot' :=
    fun slot member slot' _ same => nameOf_inj (List.mem_eraseDups.mpr member) same
  rw [refs_named, map_eraseDups _ apart, placeholders_eq_map, List.map_map]
  rfl

/-- The leaves of a statement whose slots are numbered have the mappings of their placeholders, if the leaves over
slots had those of their slots. -/
theorem leaf_named {namePrefix : String} {t : Select Slot} {S : List Slot} {names : List String}
    (placed : ∀ e ∈ t.expressions, e.Everywhere (Expr.Placed S names)) {e : Expr String}
    (member : e ∈ (t.named namePrefix).expressions) {name : String} {type : LogicalType} {m : TypeMapping}
    (leaf : .parameter name type m ∈ e.nodes) :
    ∃ p ∈ t.placeholders namePrefix, p.name = name ∧ p.mapping = m ∧ m.type = type := by
  rw [named_eq_map, expressions_map] at member
  obtain ⟨e, inside, rfl⟩ := List.mem_map.mp member
  rw [Expr.nodes_mapRef] at leaf
  obtain ⟨n, node, same⟩ := List.mem_map.mp leaf
  cases n with
  | parameter slot t' m' =>
    obtain ⟨rfl, rfl, rfl⟩ : t.nameOf namePrefix slot = name ∧ t' = type ∧ m' = m := by
      simpa only [Expr.mapRef, Expr.parameter.injEq] using same
    obtain ⟨-, mapped, typed, -⟩ := placed e inside _ node
    have referred : slot ∈ e.refs := List.mem_filterMap.mpr ⟨_, node, rfl⟩
    rw [placeholders_eq_map]
    exact ⟨_, List.mem_map_of_mem (mem_slots.mpr ⟨e, inside, referred⟩), rfl, mapped, typed.symm⟩
  | _ => simp only [Expr.mapRef, reduceCtorEq] at same

/-- A slot of a statement with placed leaves was gathered for a named parameter. -/
theorem placed_of_mem_slots {t : Select Slot} {S : List Slot} {names : List String}
    (placed : ∀ e ∈ t.expressions, e.Everywhere (Expr.Placed S names)) {slot : Slot} (member : slot ∈ t.slots) :
    slot ∈ S ∧ slot.source.parameter ∈ names := by
  obtain ⟨e, inside, referred⟩ := mem_slots.mp member
  obtain ⟨n, node, found⟩ := List.mem_filterMap.mp referred
  cases n with
  | parameter slot' t' m' =>
    cases found
    obtain ⟨gathered, -, -, named⟩ := placed e inside _ node
    exact ⟨gathered, named⟩
  | _ => cases found

/-- Specializing a statement keeps its placeholders in order: they are numbered in the order in which they are met,
every leaf has the mapping of its placeholder, no two placeholders stand for one value in one mapping, and each
reads a parameter of the statement. -/
theorem specialize_numbers_placeholders {b : Builder} {options : SpecializationOptions} {v : Bindings}
    {s : Select String} {outcome : Specialized} (run : s.specialize b options v = .ok outcome) :
    outcome.placeholders.map Placeholder.name =
      (List.range outcome.placeholders.length).map (placeholderName options.namePrefix) ∧
    (outcome.select.expressions.flatMap Expr.refs).eraseDups = outcome.placeholders.map Placeholder.name ∧
    (∀ e ∈ outcome.select.expressions, ∀ name type m, .parameter name type m ∈ e.nodes →
      ∃ p ∈ outcome.placeholders, p.name = name ∧ p.mapping = m ∧ m.type = type) ∧
    (outcome.placeholders.map fun p => Slot.key ⟨p.mapping, p.source⟩).Nodup ∧
    ∀ p ∈ outcome.placeholders, ∃ e ∈ s.expressions, p.source.parameter ∈ e.refs := by
  obtain ⟨t, progress, found, once, rfl⟩ := Specialization.specialize_outcome run
  have placed : ∀ e ∈ t.withoutTrivialPredicate.expressions,
      e.Everywhere (Expr.Placed progress.slots (s.expressions.flatMap Expr.refs)) := by
    intro x member
    obtain ⟨e, inside, comes⟩ := found.exists_mem (mem_withoutTrivialPredicate member)
    exact comes.placed fun name referred => List.mem_flatMap.mpr ⟨e, inside, referred⟩
  refine ⟨map_name_placeholders _ _, eraseDups_refs_named _ _, ?_, ?_, ?_⟩
  · intro e member name type m leaf
    exact leaf_named placed member leaf
  · -- The slots that are left were gathered under different keys.
    dsimp only [Specialization.outcomeOf]
    rw [placeholders_eq_map, List.map_map]
    refine (nodup_slots _).map_on fun slot member slot' member' same => ?_
    have gathered := (placed_of_mem_slots placed member).1
    have gathered' := (placed_of_mem_slots placed member').1
    exact List.inj_on_of_nodup_map once gathered gathered' same
  · intro p member
    dsimp only [Specialization.outcomeOf] at member
    rw [placeholders_eq_map] at member
    obtain ⟨slot, inside, rfl⟩ := List.mem_map.mp member
    exact List.mem_flatMap.mp (placed_of_mem_slots placed inside).2

end Select

namespace Blogs

/-- A statement whose parameters are named as placeholders are, with one that is also converted. -/
def crossed : Select String where
  table := "Blogs"
  tableAlias := "b"
  projections := [⟨"Wide", .convert (number "p1") ⟨"bigint", .int64⟩⟩, ⟨"Given", number "p1"⟩]
  predicate := some (.inParameter rank (.parameter "p0" (.sequence .int32) ⟨"int", .int32⟩) false ⟨"bit", .bool⟩)
  orderings := []
  limit := some (number "p1")

/-- A number and a list with a null. -/
def crossing : Bindings :=
  ⟨[("p0", .list [.int 7, .null, .int 9]), ("p1", .int 5)]⟩

/-- The placeholders are numbered as they are met, whatever the parameters are called. -/
theorem specialize_crossed_numbered :
    ∃ outcome, crossed.specialize builder ⟨"p", false⟩ crossing = .ok outcome ∧
      outcome.placeholders.map Placeholder.name = ["p0", "p1", "p2", "p3"] ∧
      (outcome.select.expressions.flatMap Expr.refs).eraseDups = ["p0", "p1", "p2", "p3"] ∧
      outcome.placeholders.map (Source.parameter ∘ Placeholder.source) = ["p1", "p1", "p0", "p0"] ∧
      (outcome.placeholders.map fun p => Slot.key ⟨p.mapping, p.source⟩).Nodup := by
  obtain ⟨outcome, run, sources⟩ : ∃ outcome, crossed.specialize builder ⟨"p", false⟩ crossing = .ok outcome ∧
      outcome.placeholders.map (Source.parameter ∘ Placeholder.source) = ["p1", "p1", "p0", "p0"] := ⟨_, rfl, by decide⟩
  obtain ⟨names, met, -, once, -⟩ := Select.specialize_numbers_placeholders run
  have count : outcome.placeholders.length = 4 := by
    rw [← List.length_map, sources]
    rfl
  have listed : outcome.placeholders.map Placeholder.name = ["p0", "p1", "p2", "p3"] := by
    rw [names, count]
    decide
  exact ⟨outcome, run, listed, met.trans listed, sources, once⟩

end Blogs

end SqlShape
