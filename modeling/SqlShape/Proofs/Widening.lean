import SqlShape.Proofs.Delivery
import SqlShape.Proofs.Rounding

/-!
# Values in wider types

A value of a type has an image in every type to which that one widens. Different values have different images, with one
exception: two integers of 64 bits become the same double if they have the same nearest double (`Value.Merge`). So this
is also all that can be lost where a constant is put under the mapping of another operand, and where the value of a
parameter or an element of a sequence is sent in a wider type (`Lowering.Sends`). Below `2 ^ 53` nothing is lost.
-/

namespace SqlShape

namespace Value

/-- Two integers of 64 bits that are the same as doubles. -/
def Merge (t : LogicalType) (a b : Value) : Prop :=
  t = .double ∧ ∃ i j : Int64, a = .long i ∧ b = .long j ∧ Double.ofInt i.toInt = Double.ofInt j.toInt

variable {s t : LogicalType} {a b x y : Value}

theorem Merge.double (merge : Merge t a b) : t = .double :=
  merge.1

theorem Merge.type? (merge : Merge t a b) : a.type? = some .int64 := by
  obtain ⟨-, i, j, rfl, -⟩ := merge
  rfl

/-- Integers below `2 ^ 53` are no others as doubles. -/
theorem Merge.eq_of_small {i j : Int64} (merge : Merge t (.long i) (.long j))
    (small : i.toInt.natAbs < 2 ^ 53 ∨ j.toInt.natAbs < 2 ^ 53) : i = j := by
  obtain ⟨-, i', j', same, same', shared⟩ := merge
  cases same
  cases same'
  exact Int64.toInt_inj.mp (Double.eq_of_ofInt_eq small shared)

/-! ## Images -/

/-- A value has images in the types to which its own widens, and in no others. -/
theorem widens_of_convertTo? (typed : a.type? = some s) (image : a.convertTo? t = some x) : s.Widens t := by
  unfold convertTo? at image
  split at image
  case h_1 => cases typed
  case h_16 => cases image
  all_goals
    cases typed
    constructor

theorem isList_of_type? (typed : a.type? = some s) (scalar : s.isSequence = false) : a.isList = false := by
  cases a with
  | list items =>
    obtain ⟨element, -, rfl⟩ := Option.map_eq_some_iff.mp typed
    cases scalar
  | _ => rfl

theorem eq_byte_of_type? (typed : a.type? = some .byte) : ∃ c, a = .byte c := by
  cases a with
  | byte c => exact ⟨c, rfl⟩
  | list items => cases isList_of_type? typed rfl
  | _ => cases typed

theorem eq_int_of_type? (typed : a.type? = some .int32) : ∃ i, a = .int i := by
  cases a with
  | int i => exact ⟨i, rfl⟩
  | list items => cases isList_of_type? typed rfl
  | _ => cases typed

theorem eq_long_of_type? (typed : a.type? = some .int64) : ∃ i, a = .long i := by
  cases a with
  | long i => exact ⟨i, rfl⟩
  | list items => cases isList_of_type? typed rfl
  | _ => cases typed

/-- A value with an image is its own image in its own type. -/
theorem eq_of_convertTo?_type (typed : a.type? = some s) (image : a.convertTo? s = some x) : x = a := by
  refine Option.some.inj (image.symm.trans (convertTo?_type typed ?_))
  cases a with
  | null => cases typed
  | list items => cases image
  | _ =>
    cases typed
    rfl

/-- Different values of one type have different images, but for integers that merge. -/
theorem eq_or_merge_of_image (typed : a.type? = some s) (typed' : b.type? = some s) (image : a.convertTo? t = some x)
    (image' : b.convertTo? t = some x) : a = b ∨ Merge t a b := by
  cases widens_of_convertTo? typed image with
  | refl => exact .inl ((eq_of_convertTo?_type typed image).symm.trans (eq_of_convertTo?_type typed' image'))
  | byteInt =>
    obtain ⟨c, rfl⟩ := eq_byte_of_type? typed
    obtain ⟨c', rfl⟩ := eq_byte_of_type? typed'
    have numbers := congrArg Int32.toInt (int.inj (Option.some.inj (image.trans image'.symm)))
    rw [toInt_ofByte, toInt_ofByte] at numbers
    exact .inl (congrArg byte (UInt8.toNat_inj.mp (Int.ofNat.inj numbers)))
  | byteLong =>
    obtain ⟨c, rfl⟩ := eq_byte_of_type? typed
    obtain ⟨c', rfl⟩ := eq_byte_of_type? typed'
    have numbers := congrArg Int64.toInt (long.inj (Option.some.inj (image.trans image'.symm)))
    rw [toInt_longOfByte, toInt_longOfByte] at numbers
    exact .inl (congrArg byte (UInt8.toNat_inj.mp (Int.ofNat.inj numbers)))
  | byteDouble =>
    obtain ⟨c, rfl⟩ := eq_byte_of_type? typed
    obtain ⟨c', rfl⟩ := eq_byte_of_type? typed'
    have bound := c.toNat_lt
    have numbers := Double.eq_of_ofInt_eq (.inl (by omega)) (double.inj (Option.some.inj (image.trans image'.symm)))
    exact .inl (congrArg byte (UInt8.toNat_inj.mp (Int.ofNat.inj numbers)))
  | byteBytes =>
    obtain ⟨c, rfl⟩ := eq_byte_of_type? typed
    obtain ⟨c', rfl⟩ := eq_byte_of_type? typed'
    have single := bytes.inj (Option.some.inj (image.trans image'.symm))
    exact .inl (congrArg byte (List.head_eq_of_cons_eq single))
  | intLong =>
    obtain ⟨i, rfl⟩ := eq_int_of_type? typed
    obtain ⟨i', rfl⟩ := eq_int_of_type? typed'
    have numbers := congrArg Int64.toInt (long.inj (Option.some.inj (image.trans image'.symm)))
    rw [toInt_longOfInt, toInt_longOfInt] at numbers
    exact .inl (congrArg int (Int32.toInt_inj.mp numbers))
  | intDouble =>
    obtain ⟨i, rfl⟩ := eq_int_of_type? typed
    obtain ⟨i', rfl⟩ := eq_int_of_type? typed'
    have lower := i.le_toInt
    have upper := i.toInt_lt
    have numbers := Double.eq_of_ofInt_eq (.inl (by omega)) (double.inj (Option.some.inj (image.trans image'.symm)))
    exact .inl (congrArg int (Int32.toInt_inj.mp numbers))
  | longDouble =>
    obtain ⟨i, rfl⟩ := eq_long_of_type? typed
    obtain ⟨i', rfl⟩ := eq_long_of_type? typed'
    exact .inr ⟨rfl, i, i', rfl, rfl, double.inj (Option.some.inj (image.trans image'.symm))⟩

/-- Values of one type have one image exactly if they are one value, or integers that merge. -/
theorem image_eq_iff (typed : a.type? = some s) (typed' : b.type? = some s) (image : a.convertTo? t = some x)
    (image' : b.convertTo? t = some y) : x = y ↔ a = b ∨ Merge t a b := by
  constructor
  · rintro rfl
    exact eq_or_merge_of_image typed typed' image image'
  · rintro (rfl | ⟨rfl, i, j, rfl, rfl, shared⟩)
    · exact Option.some.inj (image.symm.trans image')
    · cases image
      cases image'
      exact congrArg double shared

/-- A value that is converted to a type which it then has was converted to its image. -/
theorem convertTo?_of_hasType (typed : a.type? = some s) (scalar : s.isSequence = false)
    (converted : (a.convertedTo t).HasType t) : a.convertTo? t = some (a.convertedTo t) := by
  unfold convertedTo at converted ⊢
  cases image : a.convertTo? t with
  | some w => rfl
  | none =>
    rw [image] at converted
    rcases converted with null | same
    · rw [Option.getD_none] at null
      rw [null] at typed
      cases typed
    · rw [Option.getD_none, typed] at same
      cases same
      rw [convertTo?_type typed scalar] at image
      cases image

/-- The image of a value shows the type that was asked for. -/
theorem type?_of_convertTo? (typed : a.type? = some s) (image : a.convertTo? t = some x) : x.type? = some t := by
  rcases hasType_of_convertTo? image with null | shown
  · have absent := isNull_of_convertTo? image
    rw [null] at absent
    cases a with
    | null => cases typed
    | _ => cases absent
  · exact shown

/-- Values of one type fit the same types. -/
theorem fits_eq_of_type? (typed : a.type? = some s) (typed' : b.type? = some s) (t : LogicalType) :
    a.fits t = b.fits t := by
  unfold fits
  rw [typed, typed']
  cases s <;> rfl

end Value

/-! ## Constants -/

namespace Builder

variable {a b : Value} {m m' : TypeMapping}

theorem retype_constant_of_fits (other : m ≠ m') (fits : a.fits m'.type = true) :
    (retype (.constant a m) m' : Expr String) = .constant (a.convertedTo m'.type) m' :=
  (if_neg other).trans (if_pos fits)

theorem retype_constant_of_kept (kept : m = m' ∨ a.fits m'.type = false) :
    (retype (.constant a m) m' : Expr String) = .constant a m := by
  rcases kept with same | misfit
  · exact if_pos same
  · by_cases same : m = m'
    · exact if_pos same
    · exact (if_neg same).trans (if_neg (Bool.not_eq_true _ ▸ misfit))

/-- Constants of one type are one constant under another mapping exactly if they were one before, or merge. -/
theorem retype_constant_eq_iff (typed : a.type? = some m.type) (typed' : b.type? = some m.type)
    (scalar : m.type.isSequence = false) :
    (retype (.constant a m) m' : Expr String) = retype (.constant b m) m' ↔ a = b ∨ Value.Merge m'.type a b := by
  by_cases kept : m = m' ∨ a.fits m'.type = false
  · have kept' : m = m' ∨ b.fits m'.type = false := by
      rwa [← Value.fits_eq_of_type? typed typed']
    -- Integers of 64 bits fit the type of doubles, so none merge here.
    have apart : ¬ Value.Merge m'.type a b := by
      intro merge
      have long : m.type = .int64 := Option.some.inj (typed.symm.trans merge.type?)
      rcases kept with same | misfit
      · rw [same, merge.double] at long
        cases long
      · obtain ⟨double, i, j, rfl, -⟩ := merge
        rw [double] at misfit
        cases misfit
    rw [retype_constant_of_kept kept, retype_constant_of_kept kept', or_iff_left apart, Expr.constant.injEq]
    exact and_iff_left rfl
  · obtain ⟨other, fits⟩ := not_or.mp kept
    rw [Bool.not_eq_false] at fits
    have fits' : b.fits m'.type = true := (Value.fits_eq_of_type? typed typed' _).symm.trans fits
    have image := Value.hasType_of_image (Value.convertTo?_of_fits fits (Value.isList_of_type? typed scalar) (.refl _))
    have image' :=
      Value.hasType_of_image (Value.convertTo?_of_fits fits' (Value.isList_of_type? typed' scalar) (.refl _))
    rw [retype_constant_of_fits other fits, retype_constant_of_fits other fits', Expr.constant.injEq, and_iff_left rfl]
    exact Value.image_eq_iff typed typed' (Value.convertTo?_of_hasType typed scalar image)
      (Value.convertTo?_of_hasType typed' scalar image')

end Builder

/-! ## Values that are sent -/

/-- The value that a source takes from the bindings, as it is bound. -/
def Source.taken (v : Bindings) : Source → Value
  | .value name _ _ => v.valueOf name
  | .element name index _ => (v.elementsOf name)[index]?.getD .null

/-- A slot stands for the value that its source takes, in the type of its mapping. -/
theorem Slot.valueIn_key (v : Bindings) (slot : Slot) :
    slot.key.valueIn v = (slot.source.taken v).convertedTo slot.mapping.type := by
  obtain ⟨m, source⟩ := slot
  cases source with
  | value name type convertTo => rfl
  | element name index type => rfl

/-- For a value that is bound another one is sent in a type: by a placeholder of a lowered shape that was specialized
for the bindings. The placeholder may stand for a parameter under its own mapping or that of another operand, for a
conversion of a parameter, or for an element of a sequence. -/
inductive Lowering.Sends (l : Lowering) (t : LogicalType) : Value → Value → Prop
  | placeholder {shape : Shape} {s : Select String} {options : SpecializationOptions} {v : Bindings}
      {outcome : Specialized} {p : Placeholder} {sent : Value} (lowered : l.lowerShape shape = .ok s)
      (run : s.specialize l.builder options v = .ok outcome) (member : p ∈ outcome.placeholders)
      (type : p.mapping.type = t) (resolved : p.source.resolve v = .ok sent) : Sends l t (p.source.taken v) sent

namespace Lowering

variable {d : Dialect} {l : Lowering} {s t : LogicalType} {a b x y : Value}

/-- What is sent for a scalar is its image. -/
theorem Sends.image (made : d.lowering = .ok l) (sends : l.Sends t a x) (typed : a.type? = some s)
    (scalar : s.isSequence = false) : a.convertTo? t = some x := by
  cases sends with
  | @placeholder shape s' options v outcome p sent lowered run member type resolved =>
    have native := lowerShape_native (serves_lowering made) lowered
    obtain ⟨final, placeholders, supplied⟩ := Select.specialize_supplied
      (fun e inside => (native.expressions e inside).wellTypedIn.wellTyped) run
    rw [placeholders] at member
    obtain ⟨⟨slot, index⟩, numbered, rfl⟩ := List.mem_map.mp member
    have placed : slot ∈ final.slots := List.mem_of_getElem? (List.mk_mem_zipIdx_iff_getElem?.mp numbered)
    obtain ⟨e, inside, referred⟩ := Select.mem_slots.mp placed
    have resolves := supplied e inside slot referred
    have value : x = (slot.source.taken v).convertedTo t := by
      rw [← type, ← slot.valueIn_key v]
      exact Except.ok.inj (resolved.symm.trans resolves.resolve)
    have converted := resolves.typed
    rw [slot.valueIn_key v, type] at converted
    rw [value]
    exact Value.convertTo?_of_hasType typed scalar converted

/-- Values of a scalar type that widens to another have images there that show the other type, and the images of two
values are the same exactly if the values are the same or are integers of 64 bits with the same nearest double. These
are at least `2 ^ 53` in magnitude. The same holds of two constants that are put under another mapping, whether by a
comparison, a membership or a pattern, and of what is sent in one type for two values of parameters or elements of
sequences. -/
theorem widening_merges_iff {d : Dialect} {l : Lowering} (made : d.lowering = .ok l) :
    (∀ s t : LogicalType, s.isSequence = false → s.widensTo t = true →
      ∀ a b : Value, a.type? = some s → b.type? = some s →
        ∃ x y, a.convertTo? t = some x ∧ b.convertTo? t = some y ∧ x.type? = some t ∧ y.type? = some t ∧
          (x = y ↔ a = b ∨ Value.Merge t a b)) ∧
    (∀ (t : LogicalType) (i j : Int64), i.toInt.natAbs < 2 ^ 53 ∨ j.toInt.natAbs < 2 ^ 53 →
      Value.Merge t (.long i) (.long j) → i = j) ∧
    (∀ (m m' : TypeMapping) (a b : Value), m.type.isSequence = false → a.type? = some m.type → b.type? = some m.type →
      ((Builder.retype (.constant a m) m' : Expr String) = Builder.retype (.constant b m) m' ↔
        a = b ∨ Value.Merge m'.type a b)) ∧
    ∀ (s t : LogicalType) (a b x y : Value), s.isSequence = false → a.type? = some s → b.type? = some s →
      l.Sends t a x → l.Sends t b y → (x = y ↔ a = b ∨ Value.Merge t a b) := by
  refine ⟨?_, ?_, ?_, ?_⟩
  · intro s t scalar widens a b typed typed'
    obtain ⟨x, image⟩ := Value.convertTo?_of_widens typed scalar (LogicalType.widensTo_iff.mp widens)
    obtain ⟨y, image'⟩ := Value.convertTo?_of_widens typed' scalar (LogicalType.widensTo_iff.mp widens)
    exact ⟨x, y, image, image', Value.type?_of_convertTo? typed image, Value.type?_of_convertTo? typed' image',
      Value.image_eq_iff typed typed' image image'⟩
  · intro t i j small merge
    exact merge.eq_of_small small
  · intro m m' a b scalar typed typed'
    exact Builder.retype_constant_eq_iff typed typed' scalar
  · intro s t a b x y scalar typed typed' sends sends'
    exact Value.image_eq_iff typed typed' (sends.image made typed scalar) (sends'.image made typed' scalar)

/-- The rows are raised by a number that is sent as a long one. -/
theorem sends_raised (made : Dialect.sqlServer.lowering = .ok l) (i : Int32) :
    ∃ sent, l.Sends .int64 (.int i) sent := by
  obtain ⟨v, given⟩ : ∃ v : Bindings, v = ⟨[("by", .int i), ("start", .text "A"), ("ids", .list [.byte 1])]⟩ :=
    ⟨_, rfl⟩
  obtain ⟨s, outcome, p, sent, lowered, run, member, type, taken, resolved⟩ : ∃ s outcome p sent,
      l.lowerShape raised = .ok s ∧ s.specialize l.builder ⟨"p", false⟩ v = .ok outcome ∧
      p ∈ outcome.placeholders ∧ p.mapping.type = .int64 ∧ p.source.taken v = .int i ∧
      p.source.resolve v = .ok sent := by
    cases made
    cases given
    exact ⟨_, _, _, _, rfl, rfl, .head _, rfl, rfl, rfl⟩
  exact ⟨sent, taken ▸ .placeholder lowered run member type resolved⟩

/-- The neighbours below `2 ^ 53` stay apart as doubles, and so do the numbers by which the rows are raised. -/
theorem widening_merges_iff_raised : ∃ l x y sent sent', Dialect.sqlServer.lowering = .ok l ∧
    (Value.long 9007199254740991).convertTo? .double = some x ∧
    (Value.long 9007199254740992).convertTo? .double = some y ∧ x ≠ y ∧
    (Builder.retype (.constant (.long 9007199254740991) ⟨"bigint", .int64⟩) ⟨"float", .double⟩ : Expr String) ≠
      Builder.retype (.constant (.long 9007199254740992) ⟨"bigint", .int64⟩) ⟨"float", .double⟩ ∧
    l.Sends .int64 (.int 1) sent ∧ l.Sends .int64 (.int 2) sent' ∧ sent ≠ sent' := by
  obtain ⟨l, made⟩ : ∃ l, Dialect.sqlServer.lowering = .ok l := ⟨_, rfl⟩
  obtain ⟨images, small, constants, placeholders⟩ := widening_merges_iff made
  have apart : ¬ ((Value.long 9007199254740991) = .long 9007199254740992 ∨
      Value.Merge .double (.long 9007199254740991) (.long 9007199254740992)) := by
    rintro (same | merge)
    · revert same
      decide
    · have same := small _ _ _ (.inl (by decide)) merge
      revert same
      decide
  obtain ⟨x, y, image, image', -, -, same⟩ := images .int64 .double rfl rfl (.long 9007199254740991)
    (.long 9007199254740992) rfl rfl
  obtain ⟨sent, sends₁⟩ := sends_raised made 1
  obtain ⟨sent', sends₂⟩ := sends_raised made 2
  refine ⟨l, x, y, sent, sent', made, image, image', fun equal => apart (same.mp equal), ?_, sends₁, sends₂, ?_⟩
  · exact fun equal => apart ((constants _ _ _ _ rfl rfl rfl).mp equal)
  · intro equal
    rcases (placeholders .int32 _ _ _ _ _ rfl rfl rfl sends₁ sends₂).mp equal with same | ⟨double, -⟩
    · revert same
      decide
    · cases double

/-- From `2 ^ 53` on two integers of 64 bits can be one double, though the type of the one widens to that of the other,
and then they are one constant. -/
theorem neighbours_merged : LogicalType.widensTo .int64 .double = true ∧
    (Value.long 9007199254740992) ≠ .long 9007199254740993 ∧
    (Value.long 9007199254740992).convertTo? .double = (Value.long 9007199254740993).convertTo? .double ∧
    (Builder.retype (.constant (.long 9007199254740992) ⟨"bigint", .int64⟩) ⟨"float", .double⟩ : Expr String) =
      Builder.retype (.constant (.long 9007199254740993) ⟨"bigint", .int64⟩) ⟨"float", .double⟩ := by
  refine ⟨rfl, by decide, ?_, ?_⟩
  · decide
  · rfl

end Lowering

end SqlShape
