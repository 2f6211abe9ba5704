import SqlShape.Proofs.Evaluation
import SqlShape.Proofs.Triples

/-!
# What slots stand for

A slot is found by its key, and a key determines a value: the value of a parameter, or one element of it, in the
type of the slot's mapping. A slot resolves when its source yields that value. A pass over well-typed expressions
registers slots that resolve and no others, so a slot that is found again under its key stands for the value that
was asked for (`placeholder_yields`).

`Yields` is the triple in which readings are specified: from slots that resolve, a run that is not refused leaves
slots that resolve and yields a result with a property.
-/

namespace SqlShape

/-- The value that a key determines. -/
def SlotKey.valueIn (v : Bindings) : SlotKey → Value
  | .value name m _ => (v.valueOf name).convertedTo m.type
  | .element name index m => ((v.elementsOf name)[index]?.getD .null).convertedTo m.type

/-- The source of a slot yields the value of its key, null or of the type of the mapping. An element is not null. -/
structure Slot.Resolves (v : Bindings) (slot : Slot) : Prop where
  resolve : slot.source.resolve v = .ok (slot.key.valueIn v)
  typed : (slot.key.valueIn v).HasType slot.mapping.type
  present : ∀ name index t, slot.source = .element name index t → (slot.key.valueIn v).isNull = false

/-- While a statement is specialized: a slot stands for the value of its key. -/
def Context.ofSlots (d : Database) (row : Row) (v : Bindings) : Context Slot where
  database := d
  row := row
  parameter slot _ := slot.key.valueIn v

/-- All slots of an expression resolve. -/
def Expr.Supplied (v : Bindings) (e : Expr Slot) : Prop :=
  ∀ slot ∈ e.refs, slot.Resolves v

/-- A value with an image is converted to it. -/
theorem Source.converted_eq_ok {name : String} {value : Value} {t : LogicalType}
    (image : ∃ w, value.convertTo? t = some w) : Source.converted name value t = .ok (value.convertedTo t) := by
  obtain ⟨w, found⟩ := image
  unfold Source.converted Value.convertedTo
  rw [found]
  rfl

/-! ## Lists that match -/

/-- Results that match by a value have the same values. -/
theorem map_eq_map_of_forall₂ {α β γ : Type} {f : α → γ} {g : β → γ} {as : List α} {bs : List β}
    (each : List.Forall₂ (fun a b => g b = f a) as bs) : bs.map g = as.map f := by
  induction each with
  | nil => rfl
  | cons head _ rest => rw [List.map_cons, List.map_cons, head, rest]

/-- What holds of each result holds of all. -/
theorem forall_mem_of_forall₂ {α β : Type} {P : β → Prop} {as : List α} {bs : List β}
    (each : List.Forall₂ (fun _ b => P b) as bs) : ∀ b ∈ bs, P b := by
  induction each with
  | nil =>
    intro b member
    cases member
  | cons head _ rest => exact List.forall_mem_cons.mpr ⟨head, rest⟩

/-- What holds of all items that have a result. -/
theorem forall_mem_left_of_forall₂ {α β : Type} {P : α → Prop} {as : List α} {bs : List β}
    (each : List.Forall₂ (fun a _ => P a) as bs) : ∀ a ∈ as, P a :=
  forall_mem_of_forall₂ (List.Forall₂.flip each)

/-- What holds of a result that may be absent. -/
theorem forall_mem_of_rel {α β : Type} {P : β → Prop} {a : Option α} {b : Option β}
    (related : Option.Rel (fun _ b => P b) a b) : ∀ x ∈ b, P x := by
  cases related with
  | none => exact fun x absent => absurd absent (Option.not_mem_none x)
  | some holds =>
    rintro x ⟨⟩
    exact holds

/-- What holds of an item that has a result, if it is there. -/
theorem forall_mem_left_of_rel {α β : Type} {P : α → Prop} {a : Option α} {b : Option β}
    (related : Option.Rel (fun a _ => P a) a b) : ∀ x ∈ a, P x := by
  cases related with
  | none => exact fun x absent => absurd absent (Option.not_mem_none x)
  | some holds =>
    rintro x ⟨⟩
    exact holds

/-- A weaker relation. -/
theorem rel_imp {α β : Type} {R S : α → β → Prop} (implied : ∀ a b, R a b → S a b) {a : Option α} {b : Option β}
    (related : Option.Rel R a b) : Option.Rel S a b := by
  cases related with
  | none => exact .none
  | some holds => exact .some (implied _ _ holds)

/-- What holds of each step that succeeds holds of steps in a row that all succeed. -/
theorem forall₂_of_mapM {ε α β : Type} {f : α → Except ε β} {R : α → β → Prop} {items : List α} {results : List β}
    (each : ∀ a ∈ items, ∀ b, f a = .ok b → R a b) (all : items.mapM f = .ok results) :
    List.Forall₂ R items results := by
  induction items generalizing results with
  | nil =>
    cases all
    exact .nil
  | cons a items later =>
    obtain ⟨here, others⟩ := List.forall_mem_cons.mp each
    rw [List.mapM_cons] at all
    obtain ⟨b, found, rest⟩ := bind_eq_ok.mp all
    obtain ⟨bs, found', rest⟩ := bind_eq_ok.mp rest
    cases rest
    exact .cons (here b found) (later others found')

/-! ## What parameters hold -/

namespace Bindings

theorem valueOf_of_get {v : Bindings} {name : String} {value : Value} (found : v.get name = .ok value) :
    v.valueOf name = value := by
  unfold Bindings.get at found
  unfold valueOf
  split at found
  next known =>
    cases found
    rw [known]
    rfl
  next => cases found

/-- What a scalar parameter holds. -/
theorem getScalar_eq_ok {v : Bindings} {name : String} {t : LogicalType} {value : Value}
    (found : v.getScalar name t = .ok value) :
    v.valueOf name = value ∧ value.isList = false ∧ value.fits t = true := by
  unfold getScalar at found
  obtain ⟨value', got, later⟩ := bind_eq_ok.mp found
  dsimp only at later
  split at later
  · cases later
  next scalar =>
    split at later
    next fits =>
      cases later
      exact ⟨valueOf_of_get got, Bool.not_eq_true _ ▸ scalar, fits⟩
    next => cases later

end Bindings

namespace Specialization

/-! ## Slots that resolve -/

/-- All slots that were gathered resolve; any refusal is admitted. -/
def Contract.resolving (v : Bindings) : Contract :=
  ⟨fun S => ∀ slot ∈ S, slot.Resolves v, fun _ => True⟩

/-- At the start of a pass there are no slots. -/
theorem resolving_start (v : Bindings) : (Contract.resolving v).keeps Progress.start.slots :=
  List.forall_mem_nil _

/-- From slots that resolve, a run that is not refused leaves such slots and a result with a property. -/
abbrev Yields (v : Bindings) {α : Type} (f : Pass α) (post : α → Prop) : Prop :=
  Meets (.resolving v) f post

variable {v : Bindings} {α : Type}

/-- A check, of which only what it yields is followed. -/
theorem yields_lift {f : Except QueryError α} {post : α → Prop} (holds : ∀ x, f = .ok x → post x) :
    Yields v (liftM f) post :=
  meets_lift holds fun _ _ => trivial

/-! ## Placeholders -/

/-- A placeholder is a leaf with a slot under the key that was asked for. -/
theorem placeholder_yields {mapping : TypeMapping} {source : Source}
    (resolves : (⟨mapping, source⟩ : Slot).Resolves v) :
    Yields v (placeholder mapping source) fun e => ∃ slot, e = .parameter slot mapping.type mapping ∧
      slot.Resolves v ∧ slot.key = (⟨mapping, source⟩ : Slot).key := by
  have registered : Yields v (register ⟨mapping, source⟩) fun slot =>
      slot.Resolves v ∧ slot.key = (⟨mapping, source⟩ : Slot).key := by
    refine triple_register (fun S sound slot there same => ⟨sound, sound slot there, same⟩) fun S sound => ?_
    exact ⟨List.forall_mem_append.mpr ⟨sound, List.forall_mem_singleton.mpr resolves⟩, resolves, rfl⟩
  refine registered.bind fun slot found => meets_pure ?_
  exact ⟨slot, rfl, found⟩

/-- The placeholder of a scalar stands for the value in the type of its mapping. -/
theorem readParameter_yields (s : Setting) {name : String} {type : LogicalType} {mapping : TypeMapping}
    {convertTo : Option LogicalType} (widens : type.Widens mapping.type)
    (target : convertTo.getD type = mapping.type) :
    Yields s.bindings (readParameter s name type mapping convertTo) fun x =>
      (s.bindings.valueOf name).isList = false ∧ (s.bindings.valueOf name).fits type = true ∧
      ∃ slot, x.expr = .parameter slot mapping.type mapping ∧ slot.Resolves s.bindings ∧
        slot.key.valueIn s.bindings = (s.bindings.valueOf name).convertedTo mapping.type := by
  unfold readParameter
  refine Meets.bind (yields_lift fun _ found => found) fun value found => ?_
  obtain ⟨rfl, scalar, fits⟩ := Bindings.getScalar_eq_ok found
  have image := Value.convertTo?_of_fits fits scalar widens
  have resolves : (⟨mapping, .value name type convertTo⟩ : Slot).Resolves s.bindings := by
    refine ⟨bind_eq_ok.mpr ⟨_, found, ?_⟩, Value.hasType_of_image image, ?_⟩
    · rw [target]
      exact Source.converted_eq_ok image
    · intro name' index t other
      cases other
  refine (placeholder_yields resolves).bind fun e placed => meets_pure ?_
  obtain ⟨slot, rfl, resolved, key⟩ := placed
  refine ⟨scalar, fits, slot, rfl, resolved, ?_⟩
  rw [key]
  rfl

/-! ## Elements of a sequence -/

/-- The elements of a sequence are its values. -/
theorem elementsOf_of_sequenceValues {name : String} {values : List Value}
    (found : sequenceValues v name = .ok values) : v.elementsOf name = values := by
  unfold sequenceValues at found
  obtain ⟨value, got, later⟩ := bind_eq_ok.mp found
  unfold Bindings.elementsOf
  rw [Bindings.valueOf_of_get got]
  split at later
  · cases later
    rfl
  · cases later
    rfl
  · cases later

/-- What the check of numbered elements finds: the places of those that are not null, and whether one is. Those that
are not null are scalars that fit. -/
theorem sequenceElements_eq_ok {name : String} {type : LogicalType} {items : List (Value × Nat)}
    {indices : List Nat} {hasNull : Bool} (found : sequenceElements name type items = .ok (indices, hasNull)) :
    hasNull = items.any (·.1.isNull) ∧ indices = (items.filter (!·.1.isNull)).map Prod.snd ∧
      ∀ item ∈ items, item.1.isNull = true ∨ item.1.isList = false ∧ item.1.fits type = true := by
  induction items generalizing indices hasNull with
  | nil =>
    cases found
    refine ⟨rfl, rfl, ?_⟩
    intro item member
    cases member
  | cons item rest later =>
    obtain ⟨value, index⟩ := item
    unfold sequenceElements at found
    split at found
    next null =>
      obtain ⟨⟨indices', hasNull'⟩, found', same⟩ := bind_eq_ok.mp found
      cases same
      obtain ⟨-, places, fitting⟩ := later found'
      refine ⟨by rw [List.any_cons, null, Bool.true_or], ?_, ?_⟩
      · rw [List.filter_cons_of_neg (by simp only [null, Bool.not_true, Bool.false_eq_true, not_false_eq_true])]
        exact places
      · exact List.forall_mem_cons.mpr ⟨.inl null, fitting⟩
    next present =>
      rw [Bool.not_eq_true] at present
      split at found
      next => cases found
      next scalar =>
        split at found
        next fits =>
          obtain ⟨⟨indices', hasNull'⟩, found', same⟩ := bind_eq_ok.mp found
          cases same
          obtain ⟨any, places, fitting⟩ := later found'
          refine ⟨by rw [List.any_cons, present, Bool.false_or]; exact any, ?_, ?_⟩
          · rw [List.filter_cons_of_pos (by simp only [present, Bool.not_false]), List.map_cons, places]
          · exact List.forall_mem_cons.mpr ⟨.inr ⟨Bool.not_eq_true _ ▸ scalar, fits⟩, fitting⟩
        next => cases found

/-- An element with an image resolves to it. -/
theorem resolve_element {name : String} {values : List Value} {index : Nat} {value : Value} {t : LogicalType}
    (found : sequenceValues v name = .ok values) (here : values[index]? = some value)
    (image : ∃ w, value.convertTo? t = some w) :
    Source.resolve v (.element name index t) =
      .ok (((v.elementsOf name)[index]?.getD .null).convertedTo t) := by
  rw [elementsOf_of_sequenceValues found, here, Option.getD_some]
  unfold sequenceValues at found
  obtain ⟨whole, got, later⟩ := bind_eq_ok.mp found
  refine bind_eq_ok.mpr ⟨whole, got, ?_⟩
  split at later
  · cases later
    cases here
  · cases later
    dsimp only
    rw [here]
    exact Source.converted_eq_ok image
  · cases later

/-- The placeholders of a sequence stand for its elements that are not null, each in the type of the mapping. -/
theorem elementPlaceholders_yields {name : String} {type : LogicalType} {element : TypeMapping}
    (widens : type.Widens element.type) :
    Yields v (elementPlaceholders v name type element) fun found =>
      found.2 = (v.elementsOf name).any Value.isNull ∧
      (∀ (d : Database) (row : Row), found.1.map (Expr.eval (.ofSlots d row v)) =
        ((v.elementsOf name).filter (!·.isNull)).map (Value.convertedTo · element.type)) ∧
      (∀ e ∈ found.1, e.Supplied v) ∧
      ∀ value ∈ v.elementsOf name, value.isNull = true ∨ value.isList = false ∧ value.fits type = true := by
  unfold elementPlaceholders
  refine Meets.bind (yields_lift fun _ found => found) fun values found => ?_
  rw [elementsOf_of_sequenceValues found]
  refine meets_expand.bind fun _ _ => ?_
  refine Meets.bind (yields_lift fun _ found => found) fun numbered checked => ?_
  obtain ⟨indices, hasNull⟩ := numbered
  obtain ⟨any, places, fitting⟩ := sequenceElements_eq_ok checked
  have placed : ∀ index ∈ indices, Yields v (placeholder element (.element name index element.type)) fun e =>
      (∀ (d : Database) (row : Row), e.eval (.ofSlots d row v) =
        (values[index]?.getD .null).convertedTo element.type) ∧ e.Supplied v := by
    intro index member
    rw [places] at member
    obtain ⟨⟨value, index⟩, kept, rfl⟩ := List.mem_map.mp member
    obtain ⟨numbered, present⟩ := List.mem_filter.mp kept
    have resolves : (⟨element, .element name index element.type⟩ : Slot).Resolves v := by
      rcases fitting _ numbered with null | ⟨scalar, fits⟩
      · rw [null] at present
        cases present
      · have here := List.mk_mem_zipIdx_iff_getElem?.mp numbered
        have image := Value.convertTo?_of_fits fits scalar widens
        have same : (v.elementsOf name)[index]?.getD .null = value := by
          rw [elementsOf_of_sequenceValues found, here, Option.getD_some]
        refine ⟨resolve_element found here image, ?_, fun _ _ _ _ => ?_⟩
        · change (((v.elementsOf name)[index]?.getD .null).convertedTo element.type).HasType element.type
          rw [same]
          exact Value.hasType_of_image image
        · change (((v.elementsOf name)[index]?.getD .null).convertedTo element.type).isNull = false
          rw [same, Value.isNull_convertedTo]
          exact Bool.not_eq_true' _ ▸ present
    refine (placeholder_yields resolves).mono ?_
    rintro e ⟨slot, rfl, resolved, key⟩
    refine ⟨fun d row => ?_, ?_⟩
    · rw [← elementsOf_of_sequenceValues found]
      exact congrArg (SlotKey.valueIn v) key
    · intro slot' member
      cases List.mem_singleton.mp member
      exact resolved
  refine (Meets.mapM placed).bind fun es each => meets_pure ⟨?_, ?_, ?_, ?_⟩
  · calc hasNull = values.zipIdx.any (Value.isNull ∘ Prod.fst) := any
      _ = values.any Value.isNull := by rw [← List.any_map, List.zipIdx_map_fst]
  · intro d row
    calc es.map (Expr.eval (.ofSlots d row v))
        = indices.map fun index => (values[index]?.getD .null).convertedTo element.type :=
          map_eq_map_of_forall₂ (each.imp fun _ _ holds => holds.1 d row)
      _ = (values.zipIdx.filter (!·.1.isNull)).map fun item => item.1.convertedTo element.type := by
          rw [places, List.map_map]
          refine List.map_congr_left fun item kept => ?_
          have here := List.mk_mem_zipIdx_iff_getElem?.mp (List.mem_filter.mp kept).1
          rw [Function.comp_apply, here, Option.getD_some]
      _ = (values.filter (!·.isNull)).map (Value.convertedTo · element.type) := by
          conv_rhs => rw [← List.zipIdx_map_fst 0 values, List.filter_map, List.map_map]
          rfl
  · exact forall_mem_of_forall₂ (each.imp fun _ _ holds => holds.2)
  · intro value member
    rw [← List.zipIdx_map_fst 0 values] at member
    obtain ⟨item, numbered, rfl⟩ := List.mem_map.mp member
    exact fitting item numbered

end Specialization

end SqlShape
