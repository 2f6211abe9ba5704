import SqlShape.Plan
import SqlShape.Proofs.TypePreservation

/-!
# Values that are sent

Values are checked when a statement is specialized, and converted when its placeholders are bound. Whatever passes the
check is converted: on the values for which a statement was specialized its placeholders are all bound, in order, each
to null or to a value of the type of its mapping (`Lowering.specialized_delivers`). A slot that two places share keeps
the declared type of the first; that both places accept the value is enough, since the value is sent in the type of the
mapping, which they share.
-/

namespace SqlShape

/-- A value is sent for a placeholder: under its name and store type, as its source says, and null or of the type of the
mapping. For an element of a sequence it is not null. -/
structure Placeholder.Delivers (v : Bindings) (p : Placeholder) (sent : BoundParameter) : Prop where
  name : sent.name = p.name
  storeType : sent.storeType = p.mapping.storeType
  resolve : p.source.resolve v = .ok sent.value
  typed : sent.value.HasType p.mapping.type
  present : ∀ name index t, p.source = .element name index t → sent.value.isNull = false

namespace Select

variable {v : Bindings}

/-- The values of slots that resolve are delivered. -/
theorem delivers_bound {namePrefix : String} {s : Select Slot} (supplied : ∀ e ∈ s.expressions, e.Supplied v) :
    List.Forall₂ (Placeholder.Delivers v) (s.placeholders namePrefix) (s.bound namePrefix v) := by
  unfold placeholders bound
  rw [List.forall₂_map_left_iff, List.forall₂_map_right_iff, List.forall₂_same]
  rintro ⟨slot, index⟩ numbered
  have member : slot ∈ s.slots := List.mem_of_getElem? (List.mk_mem_zipIdx_iff_getElem?.mp numbered)
  obtain ⟨e, inside, referred⟩ := mem_slots.mp member
  have resolves := supplied e inside slot referred
  exact ⟨rfl, rfl, resolves.resolve, resolves.typed, resolves.present⟩

/-- The placeholders of a specialized statement are those of slots that resolve. -/
theorem specialize_supplied {b : Builder} {options : SpecializationOptions} {s : Select String} {outcome : Specialized}
    (typed : ∀ e ∈ s.expressions, e.WellTyped) (run : s.specialize b options v = .ok outcome) :
    ∃ t : Select Slot, outcome.placeholders = t.placeholders options.namePrefix ∧
      ∀ e ∈ t.expressions, e.Supplied v := by
  obtain ⟨t, progress, traversed, rfl⟩ := Specialization.specialize_eq_ok.mp run
  have visits : ∀ e ∈ s.expressions, Specialization.Yields v
      (do return (← (Specialization.read ⟨b, options.relationalNulls, v⟩ e).asIs).expr) fun x => x.Supplied v :=
    fun e member => (Specialization.read_supplies (s := ⟨b, options.relationalNulls, v⟩) (typed e member)).asIs.bind
      fun x holds => Specialization.meets_pure holds
  obtain ⟨-, found⟩ := (Specialization.traverse_meets visits).yields (Specialization.resolving_start v) traversed
  refine ⟨_, rfl, fun e member => ?_⟩
  exact found.forall_mem e (mem_withoutTrivialPredicate member)

/-- The placeholders of a specialized statement are bound on its own values. -/
theorem specialize_binds {b : Builder} {options : SpecializationOptions} {s : Select String} {outcome : Specialized}
    (typed : ∀ e ∈ s.expressions, e.WellTyped) (run : s.specialize b options v = .ok outcome) :
    ∃ sent, outcome.placeholders.mapM (Placeholder.bind v) = .ok sent ∧
      List.Forall₂ (Placeholder.Delivers v) outcome.placeholders sent := by
  obtain ⟨t, placeholders, supplied⟩ := specialize_supplied typed run
  rw [placeholders]
  exact ⟨_, bind_placeholders supplied, delivers_bound supplied⟩

end Select

namespace Lowering

/-- On the values for which a lowered statement was specialized, its placeholders are bound one by one in their order,
each to null or to a value of the type of its mapping; an element of a sequence is never null. -/
theorem specialized_delivers {d : Dialect} {l : Lowering} (made : d.lowering = .ok l) {shape : Shape}
    {s : Select String} (lowered : l.lowerShape shape = .ok s) (options : SpecializationOptions) (v : Bindings)
    {outcome : Specialized} (run : s.specialize l.builder options v = .ok outcome) (text : String) :
    ∃ sent, (⟨outcome.select, text, outcome.placeholders, outcome.cacheability⟩ : Plan).bind v = .ok sent ∧
      List.Forall₂ (Placeholder.Delivers v) outcome.placeholders sent := by
  have native := lowerShape_native (serves_lowering made) lowered
  exact Select.specialize_binds (fun e member => (native.expressions e member).wellTypedIn.wellTyped) run

/-- Values for the rows that are raised, with a null among the bytes. -/
def raisedValues : Bindings :=
  ⟨[("by", .int 1), ("start", .text "A"), ("ids", .list [.byte 1, .null])]⟩

/-- A number is sent as a long one, a text that stands in two places once, and of the bytes with a null one number. -/
theorem specialized_delivers_raised : ∃ l s outcome sent, Dialect.sqlServer.lowering = .ok l ∧
    l.lowerShape raised = .ok s ∧ s.specialize l.builder ⟨"p", false⟩ raisedValues = .ok outcome ∧
    List.Forall₂ (Placeholder.Delivers raisedValues) outcome.placeholders sent ∧
    sent.map BoundParameter.value = [.long 1, .text "A", .int 1] := by
  obtain ⟨l, made⟩ : ∃ l, Dialect.sqlServer.lowering = .ok l := ⟨_, rfl⟩
  obtain ⟨s, outcome, lowered, run⟩ : ∃ s outcome, l.lowerShape raised = .ok s ∧
      s.specialize l.builder ⟨"p", false⟩ raisedValues = .ok outcome := by
    cases made
    exact ⟨_, _, rfl, rfl⟩
  obtain ⟨sent, binds, delivered⟩ := specialized_delivers made lowered _ _ run ""
  refine ⟨l, s, outcome, sent, made, lowered, run, delivered, ?_⟩
  cases made
  cases lowered
  cases run
  cases binds
  rfl

end Lowering

end SqlShape
