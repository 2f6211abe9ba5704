import SqlShape.Proofs.Slots

/-!
# Where parameters are used

A statement uses its parameters at places, and each place takes some values: a place of a scalar type takes a value
that fits it, and the sequence of a membership takes null or a list of such values (`ParameterUse.Admits`).

`Ends` follows both ends of a run: what it yields, and that it is refused only for a place that does not take its
value.
-/

namespace SqlShape

/-! ## Places that use parameters -/

/-- A place where a parameter is used. -/
structure ParameterUse where
  name : String
  type : LogicalType
  /-- The parameter is the sequence of a membership. -/
  isSource : Bool
deriving DecidableEq, Repr

namespace Expr

mutual
/-- The places where an expression uses parameters, in the order of `nodes`. -/
def uses : Expr String → List ParameterUse
  | constant _ _ | column _ _ _ _ => []
  | parameter name t _ => [⟨name, t, false⟩]
  | function _ es _ _ => usesList es
  | binary _ l r _ => l.uses ++ r.uses
  | negation e _ | nullTest e _ _ | convert e _ => e.uses
  | inList item values _ _ => item.uses ++ usesList values
  | inParameter item (parameter name t _) _ _ => item.uses ++ [⟨name, t, true⟩]
  | inParameter item source _ _ => item.uses ++ source.uses
  | like s p o _ => s.uses ++ p.uses ++ usesOption o
/-- The places in expressions in a row. -/
def usesList : List (Expr String) → List ParameterUse
  | [] => []
  | e :: es => e.uses ++ usesList es
/-- The places in an expression that may be absent. -/
def usesOption : Option (Expr String) → List ParameterUse
  | none => []
  | some e => e.uses
end

/-- The mutual recursion over operands gathers their places in order. -/
theorem usesList_eq_flatMap (es : List (Expr String)) : usesList es = es.flatMap uses := by
  induction es with
  | nil => rfl
  | cons e es rest => rw [usesList, rest, List.flatMap_cons]

theorem usesOption_eq_flatMap (o : Option (Expr String)) : usesOption o = o.toList.flatMap uses := by
  cases o with
  | none => rfl
  | some e => rw [usesOption, Option.toList_some, List.flatMap_singleton]

theorem uses_subset {e : Expr String} {es : List (Expr String)} (member : e ∈ es) : e.uses ⊆ es.flatMap uses :=
  fun _ here => List.mem_flatMap.mpr ⟨e, member, here⟩

/-- The name and the type of a parameter leaf. -/
def declared? : Expr String → Option (String × LogicalType)
  | parameter name t _ => some (name, t)
  | _ => none

/-- Each parameter leaf is one place, with the name and the type of the leaf. -/
theorem map_uses (e : Expr String) : e.uses.map (fun u => (u.name, u.type)) = e.nodes.filterMap declared? := by
  induction e with
  | constant | column | parameter => rfl
  | function name es m nullable each =>
    rw [uses, nodes, usesList_eq_flatMap, nodesList_eq_flatMap, List.filterMap_cons_none rfl, List.map_flatMap,
      List.filterMap_flatMap]
    exact List.flatMap_congr each
  | binary op l r m first second =>
    rw [uses, nodes, List.filterMap_cons_none rfl, List.map_append, List.filterMap_append, first, second]
  | negation e m below | nullTest e negated m below | convert e m below =>
    rw [uses, nodes, List.filterMap_cons_none rfl, below]
  | inList item es negated m first each =>
    rw [uses, nodes, usesList_eq_flatMap, nodesList_eq_flatMap, List.filterMap_cons_none rfl, List.map_append,
      List.filterMap_append, List.map_flatMap, List.filterMap_flatMap, first]
    exact congrArg _ (List.flatMap_congr each)
  | inParameter item source negated m first second =>
    rw [nodes, List.filterMap_cons_none rfl, List.filterMap_append, ← first, ← second]
    cases source with
    | _ => exact List.map_append.trans rfl
  | like s p o m first second third =>
    rw [uses, nodes, usesOption_eq_flatMap, nodesOption_eq_flatMap, List.filterMap_cons_none rfl, List.map_append,
      List.map_append, List.filterMap_append, List.filterMap_append, List.map_flatMap, List.filterMap_flatMap, first,
      second]
    exact congrArg _ (List.flatMap_congr fun e member => third e (Option.mem_toList.mp member))

/-- Each parameter of an expression is used at a place. -/
theorem exists_use_of_mem_refs {e : Expr String} {name : String} (referred : name ∈ e.refs) :
    ∃ u ∈ e.uses, u.name = name := by
  obtain ⟨leaf, node, ref⟩ := List.mem_filterMap.mp referred
  cases leaf with
  | parameter name' t m =>
    cases ref
    have declared : (name, t) ∈ e.nodes.filterMap declared? := List.mem_filterMap.mpr ⟨_, node, rfl⟩
    rw [← map_uses] at declared
    obtain ⟨u, member, same⟩ := List.mem_map.mp declared
    exact ⟨u, member, (Prod.mk.inj same).1⟩
  | _ => cases ref

end Expr

/-- The places where a statement uses parameters. -/
def Select.uses (s : Select String) : List ParameterUse :=
  s.expressions.flatMap Expr.uses

/-! ## Values that a place takes -/

namespace Value

/-- A scalar that may be bound to a parameter of a type. -/
def Suits (t : LogicalType) (value : Value) : Prop :=
  value.isList = false ∧ value.fits t = true

instance (t : LogicalType) (value : Value) : Decidable (value.Suits t) :=
  inferInstanceAs (Decidable (_ ∧ _))

/-- Null, or a list of nulls and of scalars of a type. -/
def ListsOnly (element : LogicalType) : Value → Prop
  | null => True
  | list items => ∀ item ∈ items, item.isNull = true ∨ item.Suits element
  | _ => False

instance (element : LogicalType) : DecidablePred (ListsOnly element)
  | null => inferInstanceAs (Decidable True)
  | list items => inferInstanceAs (Decidable (∀ item ∈ items, item.isNull = true ∨ item.Suits element))
  | bool _ | byte _ | int _ | long _ | double _ | text _ | bytes _ => inferInstanceAs (Decidable False)

/-- Null is a scalar of every type. -/
theorem suits_null (t : LogicalType) : Suits t null :=
  ⟨rfl, rfl⟩

end Value

/-- A place of a type takes a value. A sequence is taken only as the sequence of a membership. -/
def LogicalType.Takes (isSource : Bool) (value : Value) : LogicalType → Prop
  | .sequence element => isSource = true ∧ value.ListsOnly element
  | scalar => value.Suits scalar

instance (isSource : Bool) (value : Value) : DecidablePred (LogicalType.Takes isSource value)
  | .sequence element => inferInstanceAs (Decidable (isSource = true ∧ value.ListsOnly element))
  | .bool | .byte | .int32 | .int64 | .double | .text | .bytes => inferInstanceAs (Decidable (value.Suits _))

/-- Where no sequence is wanted, a source takes what any place takes. -/
theorem LogicalType.takes_scalar {isSource : Bool} {value : Value} {t : LogicalType} (scalar : t.isSequence = false) :
    t.Takes isSource value ↔ value.Suits t := by
  cases t with
  | sequence element => cases scalar
  | _ => exact Iff.rfl

namespace ParameterUse

/-- The parameter is bound to a value that the place takes. -/
def Admits (v : Bindings) (u : ParameterUse) : Prop :=
  ∃ value ∈ v.get? u.name, u.type.Takes u.isSource value

instance (v : Bindings) (u : ParameterUse) : Decidable (u.Admits v) :=
  match found : v.get? u.name with
  | none => isFalse (by rintro ⟨value, member, -⟩; rw [found] at member; cases member)
  | some value =>
    decidable_of_iff (u.type.Takes u.isSource value) (by simp only [Admits, found, Option.mem_some_iff, exists_eq_left'])

/-- What a parameter that has a value admits. -/
theorem admits_of_get {v : Bindings} {u : ParameterUse} {value : Value} (found : v.get u.name = .ok value) :
    u.Admits v ↔ u.type.Takes u.isSource value := by
  unfold Bindings.get at found
  unfold Admits
  split at found
  next known =>
    cases found
    simp only [known, Option.mem_some_iff, exists_eq_left']
  next => cases found

/-- A place does not take what its parameter is bound to, and what it is refused for. -/
inductive Refuses (v : Bindings) (u : ParameterUse) : QueryError → Prop
  | missing (unbound : v.get? u.name = none) : Refuses v u (.missingParameter u.name)
  /-- A sequence that no membership expands. -/
  | outside (sequence : u.type.isSequence = true) (place : u.isSource = false) :
      Refuses v u (.unsupportedBinding u.name .outsideMembership)
  | several {value : Value} (scalar : u.type.isSequence = false) (bound : v.get u.name = .ok value)
      (list : value.isList = true) : Refuses v u (.unsupportedBinding u.name .listForScalar)
  | misfit {value : Value} (scalar : u.type.isSequence = false) (bound : v.get u.name = .ok value)
      (apart : value.fits u.type = false) :
      Refuses v u (.typeMismatch (.binding u.name) u.type (value.typeOr u.type))
  | single {element : LogicalType} {value : Value} (sequence : u.type = .sequence element) (place : u.isSource = true)
      (bound : v.get u.name = .ok value) (present : value.isNull = false) (scalar : value.isList = false) :
      Refuses v u (.unsupportedBinding u.name .notAList)
  | nested {element : LogicalType} {values : List Value} {value : Value} {index : Nat}
      (sequence : u.type = .sequence element) (place : u.isSource = true) (bound : v.get u.name = .ok (.list values))
      (here : values[index]? = some value) (list : value.isList = true) :
      Refuses v u (.unsupportedBinding u.name (.nestedElement index))
  | element {element : LogicalType} {values : List Value} {value : Value} {index : Nat}
      (sequence : u.type = .sequence element) (place : u.isSource = true) (bound : v.get u.name = .ok (.list values))
      (here : values[index]? = some value) (present : value.isNull = false) (apart : value.fits element = false) :
      Refuses v u (.unsupportedBinding u.name (.elementType index element))

/-- A place that refuses a value does not take it. -/
theorem Refuses.not_admits {v : Bindings} {u : ParameterUse} {refusal : QueryError} (refuses : u.Refuses v refusal) :
    ¬ u.Admits v := by
  -- A list is taken only if every element is null or a scalar that fits.
  have elementwise {element : LogicalType} {values : List Value} {value : Value} {index : Nat}
      (sequence : u.type = .sequence element) (bound : v.get u.name = .ok (.list values))
      (here : values[index]? = some value) (wrong : ¬ (value.isNull = true ∨ value.Suits element)) : ¬ u.Admits v := by
    rw [admits_of_get bound, sequence]
    rintro ⟨-, all⟩
    exact wrong (all value (List.mem_of_getElem? here))
  cases refuses with
  | missing unbound =>
    rintro ⟨value, member, -⟩
    rw [unbound] at member
    cases member
  | outside sequence place =>
    rintro ⟨value, -, takes⟩
    obtain ⟨element, kind⟩ := LogicalType.eq_sequence_of_isSequence sequence
    rw [kind] at takes
    exact Bool.false_ne_true (place.symm.trans takes.1)
  | several scalar bound list =>
    rw [admits_of_get bound, LogicalType.takes_scalar scalar]
    exact fun suits => Bool.false_ne_true (suits.1.symm.trans list)
  | misfit scalar bound apart =>
    rw [admits_of_get bound, LogicalType.takes_scalar scalar]
    exact fun suits => Bool.false_ne_true (apart.symm.trans suits.2)
  | @single element value sequence place bound present scalar =>
    rw [admits_of_get bound, sequence]
    rintro ⟨-, lists⟩
    cases value with
    | null => cases present
    | list items => cases scalar
    | _ => exact lists
  | @nested element values value index sequence place bound here list =>
    refine elementwise sequence bound here ?_
    rintro (null | suits)
    · rw [Value.isNull_iff.mp null] at list
      cases list
    · exact Bool.false_ne_true (suits.1.symm.trans list)
  | element sequence place bound here present apart =>
    refine elementwise sequence bound here ?_
    rintro (null | suits)
    · exact Bool.false_ne_true (present.symm.trans null)
    · exact Bool.false_ne_true (apart.symm.trans suits.2)

end ParameterUse

/-- A refusal is for a place that does not take its value. -/
def Blames (v : Bindings) (us : List ParameterUse) (refusal : QueryError) : Prop :=
  ∃ u ∈ us, u.Refuses v refusal

theorem Blames.mono {v : Bindings} {us us' : List ParameterUse} (within : us ⊆ us') {refusal : QueryError}
    (blames : Blames v us refusal) : Blames v us' refusal := by
  obtain ⟨u, member, refuses⟩ := blames
  exact ⟨u, within member, refuses⟩

namespace Bindings

variable {v : Bindings} {name : String}

/-- A parameter without a value is missing at every place. -/
theorem get_eq_error {refusal : QueryError} (refused : v.get name = .error refusal) {u : ParameterUse}
    (here : u.name = name) : u.Refuses v refusal := by
  subst here
  unfold Bindings.get at refused
  split at refused
  · cases refused
  next unbound =>
    cases refused
    exact .missing unbound

/-- A scalar parameter yields a value exactly where its place takes one. -/
theorem getScalar_admits {t : LogicalType} (scalar : t.isSequence = false) {value : Value}
    (found : v.getScalar name t = .ok value) : (⟨name, t, false⟩ : ParameterUse).Admits v := by
  obtain ⟨value', got, -⟩ := bind_eq_ok.mp found
  obtain ⟨same, single, fits⟩ := getScalar_eq_ok found
  rw [valueOf_of_get got] at same
  subst same
  exact (ParameterUse.admits_of_get got).mpr ((LogicalType.takes_scalar scalar).mpr ⟨single, fits⟩)

/-- Reading a scalar is refused only where its place does not admit the value. -/
theorem getScalar_eq_error {t : LogicalType} (scalar : t.isSequence = false) {refusal : QueryError}
    (refused : v.getScalar name t = .error refusal) : (⟨name, t, false⟩ : ParameterUse).Refuses v refusal := by
  rcases bind_eq_error.mp refused with missing | ⟨value, got, later⟩
  · exact get_eq_error missing rfl
  · dsimp only at later
    split at later
    next several =>
      cases later
      exact .several scalar got several
    next =>
      split at later
      · cases later
      next misfit =>
        cases later
        exact .misfit scalar got (Bool.not_eq_true _ ▸ misfit)

end Bindings

namespace Specialization

/-! ## Both ends of a run -/

/-- Refusals are those for one of the given places. -/
def Contract.blaming (v : Bindings) (us : List ParameterUse) : Contract :=
  ⟨fun _ => True, Blames v us⟩

/-- Every run yields a result with a property, or is refused for one of the given places. -/
abbrev Ends (v : Bindings) (us : List ParameterUse) {α : Type} (f : Pass α) (post : α → Prop) : Prop :=
  Meets (.blaming v us) f post

variable {v : Bindings} {us : List ParameterUse} {α : Type}

/-- More places may be blamed. -/
theorem Ends.within {us' : List ParameterUse} {f : Pass α} {post : α → Prop} (ends : Ends v us f post)
    (more : us ⊆ us') : Ends v us' f post :=
  Triple.imp ends (fun _ => id) (fun _ _ => id) fun _ blames => blames.mono more

/-- A placeholder is never refused. -/
theorem placeholder_ends {mapping : TypeMapping} {source : Source} :
    Ends v us (placeholder mapping source) fun e => ∃ slot, e = .parameter slot mapping.type mapping := by
  have registered : Ends v us (register ⟨mapping, source⟩) fun _ => True :=
    triple_register (fun _ _ _ _ _ => ⟨trivial, trivial⟩) fun _ _ => ⟨trivial, trivial⟩
  exact registered.bind fun slot _ => meets_pure ⟨slot, rfl⟩

end Specialization

end SqlShape
