import SqlShape.Value.Basic

/-!
# Conversion of values

`convertTo?` gives a value in another type. An image is null only for a null, and has the type that was asked for;
a value that fits a type has an image there and in every type to which that one widens; and conversion in two
steps is conversion in one, since the numbers in between are exact.
-/

namespace SqlShape

namespace LogicalType

/-- The widenings, one by one. -/
inductive Widens : LogicalType → LogicalType → Prop
  | refl (t : LogicalType) : Widens t t
  | byteInt : Widens .byte .int32
  | byteLong : Widens .byte .int64
  | byteDouble : Widens .byte .double
  | byteBytes : Widens .byte .bytes
  | intLong : Widens .int32 .int64
  | intDouble : Widens .int32 .double
  | longDouble : Widens .int64 .double

/-- The check finds the widenings. -/
theorem widensTo_iff {s t : LogicalType} : s.widensTo t = true ↔ s.Widens t := by
  constructor
  · intro widens
    rcases Bool.or_eq_true_iff.mp widens with same | listed
    · cases of_decide_eq_true same
      exact .refl s
    · split at listed
      case h_8 => cases listed
      all_goals constructor
  · intro widens
    cases widens with
    | refl => exact Bool.or_eq_true_iff.mpr (.inl (decide_eq_true rfl))
    | _ => rfl

/-- Two widenings in a row are one. -/
theorem Widens.trans {s t u : LogicalType} (first : s.Widens t) (second : t.Widens u) : s.Widens u := by
  cases first with
  | refl => exact second
  | _ =>
    cases second
    all_goals constructor

/-- A sequence type has a type of elements. -/
theorem eq_sequence_of_isSequence {t : LogicalType} (sequence : t.isSequence = true) :
    ∃ element, t = .sequence element := by
  cases t with
  | sequence element => exact ⟨element, rfl⟩
  | _ => cases sequence

end LogicalType

namespace Value

/-- A null or a value that shows the type. -/
def HasType (v : Value) (t : LogicalType) : Prop :=
  v = .null ∨ v.type? = some t

/-- A truth value or null. -/
theorem hasType_bool_iff {v : Value} : v.HasType .bool ↔ v = .null ∨ ∃ b, v = .bool b := by
  cases v with
  | null => simp only [HasType, true_or]
  | bool b => simp only [HasType, type?, or_true, reduceCtorEq, bool.injEq, exists_eq', or_true]
  | list items =>
    simp only [HasType, type?, reduceCtorEq, Option.map_eq_some_iff, and_false, exists_false, or_self]
  | _ => simp only [HasType, type?, reduceCtorEq, Option.some.injEq, exists_false, or_self]

/-- The image of a value has the type that was asked for. -/
theorem hasType_of_convertTo? {v w : Value} {t : LogicalType} (image : v.convertTo? t = some w) : w.HasType t := by
  unfold convertTo? at image
  split at image
  case h_1 =>
    cases image
    exact .inl rfl
  case h_16 => cases image
  all_goals
    cases image
    exact .inr rfl

/-- A value with an image is of the type once it is converted. -/
theorem hasType_of_image {v : Value} {t : LogicalType} (image : ∃ w, v.convertTo? t = some w) :
    (v.convertedTo t).HasType t := by
  obtain ⟨w, found⟩ := image
  unfold convertedTo
  rw [found]
  exact hasType_of_convertTo? found

/-- Only a null has the image null. -/
theorem isNull_of_convertTo? {v w : Value} {t : LogicalType} (image : v.convertTo? t = some w) :
    w.isNull = v.isNull := by
  unfold convertTo? at image
  split at image
  case h_16 => cases image
  all_goals
    cases image
    rfl

/-- Converted or left as it is, a value is null as before. -/
theorem isNull_convertedTo (v : Value) (t : LogicalType) : (v.convertedTo t).isNull = v.isNull := by
  unfold convertedTo
  cases image : v.convertTo? t with
  | none => rfl
  | some w => exact isNull_of_convertTo? image

/-- A value is its own image in its own type. -/
theorem convertTo?_type {v : Value} {t : LogicalType} (typed : v.type? = some t) (scalar : t.isSequence = false) :
    v.convertTo? t = some v := by
  cases v with
  | null => cases typed
  | list items =>
    obtain ⟨element, -, rfl⟩ := Option.map_eq_some_iff.mp typed
    cases scalar
  | _ =>
    cases typed
    rfl

/-! ## Images in wider types

The words in between hold the numbers that are converted. -/

/-- A byte as a word of 32 bits. -/
theorem toInt_ofByte (b : UInt8) : (Int32.ofInt b.toNat).toInt = b.toNat := by
  have bound := b.toNat_lt
  exact Int32.toInt_ofInt_of_le (by omega) (by omega)

/-- A byte as a word of 64 bits. -/
theorem toInt_longOfByte (b : UInt8) : (Int64.ofInt b.toNat).toInt = b.toNat := by
  have bound := b.toNat_lt
  exact Int64.toInt_ofInt_of_le (by omega) (by omega)

/-- A word of 32 bits as one of 64. -/
theorem toInt_longOfInt (i : Int32) : (Int64.ofInt i.toInt).toInt = i.toInt := by
  have lower := i.le_toInt
  have upper := i.toInt_lt
  exact Int64.toInt_ofInt_of_le (by omega) (by omega)

/-- A value of a type that widens to another has an image there. -/
theorem convertTo?_of_widens {v : Value} {s t : LogicalType} (typed : v.type? = some s)
    (scalar : s.isSequence = false) (widens : s.Widens t) : ∃ w, v.convertTo? t = some w := by
  cases v with
  | null => cases typed
  | list items =>
    obtain ⟨element, -, rfl⟩ := Option.map_eq_some_iff.mp typed
    cases scalar
  | _ =>
    cases typed
    cases widens
    all_goals exact ⟨_, rfl⟩

/-- A scalar that fits a type is null or shows a type that widens to it. -/
theorem widens_of_fits {v : Value} {t : LogicalType} (fits : v.fits t = true) (scalar : v.isList = false) :
    v = .null ∨ ∃ s, v.type? = some s ∧ s.isSequence = false ∧ s.Widens t := by
  cases v with
  | null => exact .inl rfl
  | list items => cases scalar
  | byte b =>
    obtain ⟨-, widens⟩ := Bool.and_eq_true_iff.mp fits
    exact .inr ⟨.byte, rfl, rfl, LogicalType.widensTo_iff.mp widens⟩
  | _ => exact .inr ⟨_, rfl, rfl, LogicalType.widensTo_iff.mp fits⟩

/-- A list fits no scalar type. -/
theorem isList_of_fits {v : Value} {t : LogicalType} (fits : v.fits t = true) (scalar : t.isSequence = false) :
    v.isList = false := by
  cases v with
  | list items =>
    rw [Value.fits, type?] at fits
    cases shown : firstType? items with
    | none =>
      rw [shown, scalar] at fits
      cases fits
    | some element =>
      rw [shown] at fits
      cases LogicalType.widensTo_iff.mp fits with
      | refl => cases scalar
  | _ => rfl

/-- A scalar that fits a type has an image in every type to which that one widens. -/
theorem convertTo?_of_fits {v : Value} {s t : LogicalType} (fits : v.fits s = true) (scalar : v.isList = false)
    (widens : s.Widens t) : ∃ w, v.convertTo? t = some w := by
  rcases widens_of_fits fits scalar with rfl | ⟨shown, typed, plain, fitted⟩
  · exact ⟨.null, rfl⟩
  · exact convertTo?_of_widens typed plain (fitted.trans widens)

/-- A value that fits a scalar type is of that type once it is converted. -/
theorem hasType_convertedTo {v : Value} {t : LogicalType} (fits : v.fits t = true) (scalar : t.isSequence = false) :
    (v.convertedTo t).HasType t :=
  hasType_of_image (convertTo?_of_fits fits (isList_of_fits fits scalar) (.refl t))

/-- Conversion in two steps is conversion in one. -/
theorem convertTo?_convertTo? {v w : Value} {s t : LogicalType} (image : v.convertTo? s = some w)
    (widens : s.Widens t) : w.convertTo? t = v.convertTo? t := by
  cases widens with
  | refl =>
    rw [image]
    rcases hasType_of_convertTo? image with rfl | typed
    · rfl
    · refine convertTo?_type typed ?_
      cases s with
      | sequence element =>
        cases v with
        | null =>
          cases image
          cases typed
        | _ => cases image
      | _ => rfl
  | byteInt | byteLong | byteDouble | byteBytes =>
    cases v with
    | null | byte b =>
      cases image
      rfl
    | _ => cases image
  | intLong =>
    cases v with
    | byte b =>
      cases image
      simp only [convertTo?, toInt_ofByte]
    | null | int i =>
      cases image
      rfl
    | _ => cases image
  | intDouble =>
    cases v with
    | byte b =>
      cases image
      simp only [convertTo?, toInt_ofByte]
    | null | int i =>
      cases image
      rfl
    | _ => cases image
  | longDouble =>
    cases v with
    | byte b =>
      cases image
      simp only [convertTo?, toInt_longOfByte]
    | int i =>
      cases image
      simp only [convertTo?, toInt_longOfInt]
    | null | long i =>
      cases image
      rfl
    | _ => cases image

end Value

end SqlShape
