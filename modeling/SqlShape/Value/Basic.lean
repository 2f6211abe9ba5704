import SqlShape.Double.Basic
import SqlShape.LogicalType

/-!
# Values

What a parameter is bound to and what a constant holds. Integers are fixed-width words, doubles are bit
patterns and so compare by them, and a list may hold anything, lists included.

`Value.type?` reads a type off a value: a null has none, and a list has the type of its first element that
has one. `convertTo?` gives the same value in another type, where it has one there. `fits` says whether a
value may be bound to a parameter of a type; it is stricter than `widensTo` in one case, since a byte is not
taken for bytes.
-/

namespace SqlShape

/-- A runtime value. -/
inductive Value where
  | null
  | bool (b : Bool)
  | byte (b : UInt8)
  | int (i : Int32)
  | long (i : Int64)
  | double (d : Double)
  | text (s : String)
  | bytes (bs : List UInt8)
  | list (items : List Value)
deriving Repr

namespace Value

mutual
/-- Structural equality as a check. -/
def same : Value → Value → Bool
  | null, null => true
  | bool a, bool b => decide (a = b)
  | byte a, byte b => decide (a = b)
  | int a, int b => decide (a = b)
  | long a, long b => decide (a = b)
  | double a, double b => decide (a = b)
  | text a, text b => decide (a = b)
  | bytes a, bytes b => decide (a = b)
  | list a, list b => sameItems a b
  | _, _ => false
/-- Structural equality of items, one by one. -/
def sameItems : List Value → List Value → Bool
  | [], [] => true
  | a :: as, b :: bs => same a b && sameItems as bs
  | _, _ => false
end

mutual
theorem same_iff : ∀ a b : Value, same a b = true ↔ a = b
  | list a, b => by
    cases b <;> simp [same, sameItems_iff a]
  | null, b | bool _, b | byte _, b | int _, b | long _, b | double _, b | text _, b | bytes _, b => by
    cases b <;> simp [same]
theorem sameItems_iff : ∀ as bs : List Value, sameItems as bs = true ↔ as = bs
  | [], bs => by cases bs <;> simp [sameItems]
  | a :: as, bs => by cases bs <;> simp [sameItems, same_iff a, sameItems_iff as]
end

instance : DecidableEq Value := fun a b => decidable_of_iff (same a b = true) (same_iff a b)

/-- The null value. -/
def isNull : Value → Bool
  | null => true
  | _ => false

mutual
/-- The logical type of a value, if it shows one. -/
def type? : Value → Option LogicalType
  | null => none
  | bool _ => some .bool
  | byte _ => some .byte
  | int _ => some .int32
  | long _ => some .int64
  | double _ => some .double
  | text _ => some .text
  | bytes _ => some .bytes
  | list items => (firstType? items).map LogicalType.sequence
/-- The type of the first item that shows one. -/
def firstType? : List Value → Option LogicalType
  | [] => none
  | v :: vs =>
    match v.type? with
    | some t => some t
    | none => firstType? vs
end

/-- The type of a value, or `fallback` where it shows none. -/
def typeOr (v : Value) (fallback : LogicalType) : LogicalType :=
  v.type?.getD fallback

/-- The same value in the type `target`. A null is a null of every type, and a list of none. -/
def convertTo? : Value → LogicalType → Option Value
  | null, _ => some null
  | byte b, .byte => some (byte b)
  | byte b, .int32 => some (int (Int32.ofInt b.toNat))
  | byte b, .int64 => some (long (Int64.ofInt b.toNat))
  | byte b, .double => some (double (Double.ofInt b.toNat))
  | byte b, .bytes => some (bytes [b])
  | int i, .int32 => some (int i)
  | int i, .int64 => some (long (Int64.ofInt i.toInt))
  | int i, .double => some (double (Double.ofInt i.toInt))
  | long i, .int64 => some (long i)
  | long i, .double => some (double (Double.ofInt i.toInt))
  | double d, .double => some (double d)
  | bool b, .bool => some (bool b)
  | text s, .text => some (text s)
  | bytes bs, .bytes => some (bytes bs)
  | _, _ => none

/-- The value in the type `target` where it has an image there, else the value as it is. -/
def convertedTo (v : Value) (target : LogicalType) : Value :=
  (v.convertTo? target).getD v

/-- A list value. -/
def isList : Value → Bool
  | list _ => true
  | _ => false

/-- The value may be bound to a parameter of the type `target`. -/
def fits (v : Value) (target : LogicalType) : Bool :=
  match v.type? with
  | none => !v.isList || target.isSequence
  | some .byte => decide (target ≠ .bytes) && LogicalType.byte.widensTo target
  | some t => t.widensTo target

/-- The double nearest to a number. -/
def toDouble? : Value → Option Double
  | byte b => some (Double.ofInt b.toNat)
  | int i => some (Double.ofInt i.toInt)
  | long i => some (Double.ofInt i.toInt)
  | double d => some d
  | _ => none

end Value

end SqlShape
