import Mathlib.Algebra.Group.Int.Defs
import SqlShape.Proofs.Documents
import SqlShape.Proofs.PlainParameters
import SqlShape.Proofs.Rounding

/-!
# Plain JSON there and back

Reading goes by the declared type and knows several spellings of one value: an integer for a double, pairs of
hexadecimal digits for bytes. Writing goes by the value and forgets the type. The two meet in the values that conform to
the type and hold finite doubles only: exactly these are read back from what is written for them
(`Value.plainValue_toPlainJson_iff`). Reading yields no others from a document whose numbers are kept
(`Json.isFinite_of_plainValue`), and no other documents are parsed.
-/

namespace SqlShape

/-- Items that are read back one by one are read back in a row. -/
theorem mapM_map_eq_ok {ε α β : Type} {read : β → Except ε α} {write : α → β} {items : List α}
    (each : ∀ a ∈ items, read (write a) = .ok a) : (items.map write).mapM read = .ok items := by
  induction items with
  | nil => rfl
  | cons a items later =>
    obtain ⟨here, others⟩ := List.forall_mem_cons.mp each
    rw [List.map_cons, List.mapM_cons]
    exact bind_eq_ok.mpr ⟨a, here, bind_eq_ok.mpr ⟨items, later others, rfl⟩⟩

/-- Items that are kept one by one are kept in a row. -/
theorem filterMapM_map_eq_ok {ε α β : Type} {read : β → Except ε (Option α)} {write : α → β} {items : List α}
    (each : ∀ a ∈ items, read (write a) = .ok (some a)) : (items.map write).filterMapM read = .ok items := by
  induction items with
  | nil => rfl
  | cons a items later =>
    obtain ⟨here, others⟩ := List.forall_mem_cons.mp each
    rw [List.map_cons, List.filterMapM_cons]
    exact bind_eq_ok.mpr ⟨some a, here, bind_eq_ok.mpr ⟨items, later others, rfl⟩⟩

namespace Value

mutual
/-- All doubles in a value are finite. -/
def isFinite : Value → Bool
  | double d => d.isFinite
  | list items => allFinite items
  | _ => true
/-- All doubles in values in a row are finite. -/
def allFinite : List Value → Bool
  | [] => true
  | v :: vs => v.isFinite && allFinite vs
end

theorem allFinite_iff {items : List Value} : allFinite items = true ↔ ∀ v ∈ items, v.isFinite = true := by
  induction items with
  | nil => exact iff_of_true rfl (List.forall_mem_nil _)
  | cons v vs rest => rw [allFinite, Bool.and_eq_true, rest, List.forall_mem_cons]

theorem toPlainItems_eq_map (items : List Value) : toPlainItems items = items.map toPlainJson := by
  induction items with
  | nil => rfl
  | cons v vs rest => rw [toPlainItems, rest, List.map_cons]

end Value

/-! ## Reading -/

namespace Json

theorem plainValue_null (t : LogicalType) : plainValue t .null = .ok .null := by
  rw [plainValue]

/-- What is read of a document whose numbers are kept has finite doubles only. -/
theorem isFinite_of_plainValue {t : LogicalType} {j : Json} {v : Value} (kept : j.Kept)
    (read : j.plainValue t = .ok v) : v.isFinite = true := by
  induction t generalizing j v with
  | double =>
    cases kept with
    | null =>
      rw [plainValue_null] at read
      cases read
      rfl
    | integer lower upper =>
      cases read
      have least : Int64.minValue.toInt = -2 ^ 63 := by decide
      have size : UInt64.size = 2 ^ 64 := by decide
      exact Double.isFinite_ofInt (by omega)
    | double finite =>
      cases read
      exact finite
    | _ => cases read
  | sequence element below =>
    cases kept with
    | null =>
      rw [plainValue_null] at read
      cases read
      rfl
    | arr each =>
      obtain ⟨_, items, later⟩ := bind_eq_ok.mp read
      cases items
      obtain ⟨values, all, rest⟩ := bind_eq_ok.mp later
      cases rest
      refine Value.allFinite_iff.mpr fun value member => ?_
      obtain ⟨item, inside, found⟩ := mapM_eq_ok all value member
      exact below (each item inside) found
    | _ => cases read
  | _ =>
    by_cases null : j = .null
    · rw [null, plainValue_null] at read
      cases read
      rfl
    · simp only [plainValue] at read
      obtain ⟨_, -, rest⟩ := bind_eq_ok.mp read
      cases rest
      rfl

variable {i lo hi : Int}

theorem plainInteger_integer (lower : Int64.minValue.toInt ≤ i) (upper : i ≤ Int64.maxValue.toInt) :
    (integer i).plainInteger = .ok i := by
  have held : (integer i).integerIn? Int64.minValue.toInt Int64.maxValue.toInt = some i := if_pos ⟨lower, upper⟩
  unfold plainInteger
  rw [held]

/-- An integer between bounds that a word of 64 bits holds is read as it is. -/
theorem plainIntegerIn_integer (lower : lo ≤ i) (upper : i ≤ hi) (least : Int64.minValue.toInt ≤ lo)
    (largest : hi ≤ Int64.maxValue.toInt) : (integer i).plainIntegerIn lo hi = .ok i := by
  refine bind_eq_ok.mpr ⟨i, plainInteger_integer (by omega) (by omega), ?_⟩
  rw [if_neg (by omega), if_neg (by omega)]
  rfl

/-- A byte is read back from its number. -/
theorem plainIntegerIn_byte (b : UInt8) : (integer b.toNat).plainIntegerIn 0 255 = .ok (b.toNat : Int) := by
  have bound := b.toNat_lt
  exact plainIntegerIn_integer (by omega) (by omega) (by decide) (by decide)

theorem plainBytes_numbers (bs : List UInt8) : (arr (bs.map fun b => integer b.toNat)).plainBytes = .ok bs := by
  refine mapM_map_eq_ok fun b _ => bind_eq_ok.mpr ⟨b.toNat, plainIntegerIn_byte b, ?_⟩
  rw [Int.toNat_natCast, UInt8.ofNat_toNat]
  rfl

end Json

/-! ## Writing -/

namespace Value

/-- What is written for a scalar is read back in its type, a double if it is finite. -/
theorem plainValue_of_scalar {t : LogicalType} {v : Value} (single : v.isList = false) (typed : v.type? = some t)
    (finite : v.isFinite = true) : v.toPlainJson.plainValue t = .ok v := by
  cases v with
  | null => cases typed
  | list items => cases single
  | bool b =>
    cases typed
    rfl
  | byte b =>
    cases typed
    refine bind_eq_ok.mpr ⟨b.toNat, Json.plainIntegerIn_byte b, ?_⟩
    rw [Int.toNat_natCast, UInt8.ofNat_toNat]
    rfl
  | int i =>
    cases typed
    refine bind_eq_ok.mpr ⟨i.toInt, ?_, by rw [Int32.ofInt_toInt]; rfl⟩
    exact Json.plainIntegerIn_integer i.minValue_le_toInt i.toInt_le (by decide) (by decide)
  | long i =>
    cases typed
    refine bind_eq_ok.mpr ⟨i.toInt, ?_, by rw [Int64.ofInt_toInt]; rfl⟩
    exact Json.plainInteger_integer i.minValue_le_toInt i.toInt_le
  | double d =>
    cases typed
    have finite : d.isFinite = true := finite
    rw [toPlainJson, if_pos finite]
    rfl
  | text s =>
    cases typed
    rfl
  | bytes bs =>
    cases typed
    exact bind_eq_ok.mpr ⟨bs, Json.plainBytes_numbers bs, rfl⟩

/-- What is written for a list is read item by item. -/
theorem plainValue_toPlainItems {element : LogicalType} {items values : List Value} :
    (Json.arr (toPlainItems items)).plainValue (.sequence element) = .ok (.list values) ↔
      (items.map toPlainJson).mapM (Json.plainValue element) = .ok values := by
  rw [toPlainItems_eq_map]
  constructor
  · intro read
    obtain ⟨_, written, later⟩ := bind_eq_ok.mp read
    cases written
    obtain ⟨values', all, rest⟩ := bind_eq_ok.mp later
    cases rest
    exact all
  · intro all
    exact bind_eq_ok.mpr ⟨_, rfl, bind_eq_ok.mpr ⟨values, all, rfl⟩⟩

/-- A value is read back from what is written for it exactly if it conforms to the type and has finite doubles only. -/
theorem plainValue_toPlainJson_iff {t : LogicalType} {v : Value} :
    v.toPlainJson.plainValue t = .ok v ↔ v.Conforms t ∧ v.isFinite = true := by
  constructor
  · intro read
    have conforms := Json.conforms_of_plainValue read
    refine ⟨conforms, ?_⟩
    induction conforms with
    | null t => rfl
    | @scalar t v single typed =>
      cases v with
      | double d =>
        cases typed
        by_cases finite : d.isFinite = true
        · exact finite
        · rw [toPlainJson, if_neg finite, Json.plainValue_null] at read
          cases read
      | list items => cases single
      | _ => rfl
    | list each below =>
      have all := plainValue_toPlainItems.mp read
      refine allFinite_iff.mpr fun item member => below item member ?_
      have pairs := forall₂_of_mapM (fun _ _ _ found => found) all
      rw [List.forall₂_map_left_iff, List.forall₂_same] at pairs
      exact pairs item member
  · rintro ⟨conforms, finite⟩
    induction conforms with
    | null t => exact Json.plainValue_null t
    | scalar single typed => exact plainValue_of_scalar single typed finite
    | list each below =>
      refine plainValue_toPlainItems.mpr (mapM_map_eq_ok fun item member => below item member ?_)
      exact allFinite_iff.mp finite item member

/-- What is written for a value that conforms to a type keeps its numbers: integers are words of at most 64 bits, and a
double that is not finite is written as null. -/
theorem Conforms.kept {t : LogicalType} {v : Value} (conforms : v.Conforms t) : v.toPlainJson.Kept := by
  have word : ((2 ^ 63 : Nat) : Int) ≤ UInt64.size := by decide
  induction conforms with
  | null t => exact .null
  | @scalar t v single typed =>
    cases v with
    | null => exact .null
    | bool b => exact .bool b
    | byte b =>
      have bound := b.toNat_lt
      exact .integer (Int.le_trans (by decide) (Int.natCast_nonneg _)) (by omega)
    | int i =>
      have lower := i.le_toInt
      have upper := i.toInt_lt
      exact .integer (Int.le_trans (by decide) lower) (by omega)
    | long i =>
      have upper := i.toInt_lt
      exact .integer i.minValue_le_toInt (by omega)
    | double d =>
      rw [toPlainJson]
      split
      next finite => exact .double finite
      next => exact .null
    | text s => exact .str s
    | bytes bs =>
      refine .arr fun j member => ?_
      obtain ⟨b, -, rfl⟩ := List.mem_map.mp member
      have bound := b.toNat_lt
      exact .integer (Int.le_trans (by decide) (Int.natCast_nonneg _)) (by omega)
    | list items => cases single
  | list each below =>
    rw [toPlainJson, toPlainItems_eq_map]
    refine .arr fun j member => ?_
    obtain ⟨item, inside, rfl⟩ := List.mem_map.mp member
    exact below item inside

/-- What was read is read back from what is written for it. -/
theorem plainValue_toPlainJson {t : LogicalType} {j : Json} {v : Value} (kept : j.Kept)
    (read : j.plainValue t = .ok v) : v.toPlainJson.plainValue t = .ok v :=
  plainValue_toPlainJson_iff.mpr ⟨Json.conforms_of_plainValue read, Json.isFinite_of_plainValue kept read⟩

end Value

/-! ## Parameter files -/

/-- Bound values in plain JSON by name. -/
def Bindings.toPlainJson (v : Bindings) : List (String × Json) :=
  v.entries.map fun entry => (entry.1, entry.2.toPlainJson)

/-- Values that a shape binds from documents whose numbers are kept are bound again from what is written for them. -/
theorem Shape.bindPlain_toPlainJson {s : Shape} {given : List (String × Json)} {v : Bindings}
    (kept : ∀ entry ∈ given, entry.2.Kept) (bound : s.bindPlain given = .ok v) :
    s.bindPlain v.toPlainJson = .ok v := by
  obtain ⟨entries, found, rest⟩ := bind_eq_ok.mp bound
  cases rest
  refine bind_eq_ok.mpr ⟨entries, filterMapM_map_eq_ok fun entry member => ?_, rfl⟩
  obtain ⟨⟨name, j⟩, inside, made⟩ := filterMapM_eq_ok found entry member
  dsimp only at made
  split at made
  · cases made
  next t known =>
    split at made
    next value read =>
      cases made
      dsimp only
      rw [known]
      dsimp only
      rw [Value.plainValue_toPlainJson (kept _ inside) read]
      rfl
    next => cases made

namespace Value

/-- What is read under a type from a document whose numbers are kept is written as a document of the same kind and read
back from it, bit by bit, however lists are nested and whatever the spelling was. The values that survive are exactly
those that conform to the type and have finite doubles only. So the values that a shape binds from the text of a
parameter file are bound again from what is written for them. -/
theorem plain_json_survives :
    (∀ (t : LogicalType) (j : Json) (v : Value), j.Kept → j.plainValue t = .ok v →
      v.toPlainJson.Kept ∧ v.toPlainJson.plainValue t = .ok v) ∧
    (∀ (t : LogicalType) (v : Value), v.toPlainJson.plainValue t = .ok v ↔ v.Conforms t ∧ v.isFinite = true) ∧
    ∀ (s : Shape) (source : String) (j : Json) (given : List (String × Json)) (v : Bindings),
      Json.parse? source = some j → j.normalized.fields? = some given → s.bindPlain given = .ok v →
        s.bindPlain v.toPlainJson = .ok v := by
  refine ⟨?_, ?_, ?_⟩
  · intro t j v kept read
    exact ⟨(Json.conforms_of_plainValue read).kept, plainValue_toPlainJson kept read⟩
  · intro t v
    exact plainValue_toPlainJson_iff
  · intro s source j given v parsed fields bound
    exact Shape.bindPlain_toPlainJson (Json.kept_of_fields? parsed fields) bound

/-- Numbers in two spellings, nested, and a null beside them. -/
def spelledNumbers : Json :=
  .arr [.arr [.integer 3, .double (Double.ofInt 3), .null], .null]

theorem kept_spelledNumbers : spelledNumbers.Kept := by
  refine .arr (List.forall_mem_cons.mpr ⟨.arr ?_, List.forall_mem_singleton.mpr .null⟩)
  refine List.forall_mem_cons.mpr ⟨.integer (by decide) (by decide), List.forall_mem_cons.mpr ⟨.double ?_, ?_⟩⟩
  · decide
  · exact List.forall_mem_singleton.mpr .null

/-- A parameter file for the rows that are raised, with a value for another shape. -/
def raisedFile : String :=
  "\x7b\"start\": \"A\", \"ids\": [1, null], \"other\": 0, \"by\": -2\x7d"

/-- An integer under the type of doubles is written as a double, and the values of a file are bound again. -/
theorem plain_json_survives_spelled :
    (∃ v : Value, spelledNumbers.Kept ∧ spelledNumbers.plainValue (.sequence (.sequence .double)) = .ok v ∧
      v = .list [.list [.double (Double.ofInt 3), .double (Double.ofInt 3), .null], .null] ∧
      v.toPlainJson.plainValue (.sequence (.sequence .double)) = .ok v) ∧
    ∃ (j : Json) (given : List (String × Json)) (v : Bindings), Json.parse? raisedFile = some j ∧
      j.normalized.fields? = some given ∧ Lowering.raised.bindPlain given = .ok v ∧
      v.entries = [("by", .int (-2)), ("ids", .list [.byte 1, .null]), ("start", .text "A")] ∧
      Lowering.raised.bindPlain v.toPlainJson = .ok v := by
  obtain ⟨reads, -, binds⟩ := plain_json_survives
  constructor
  · have read : spelledNumbers.plainValue (.sequence (.sequence .double)) =
        .ok (.list [.list [.double (Double.ofInt 3), .double (Double.ofInt 3), .null], .null]) := rfl
    exact ⟨_, kept_spelledNumbers, read, rfl, (reads _ _ _ kept_spelledNumbers read).2⟩
  · have parsed : Json.parse? raisedFile = some (.obj [("start", .str "A"), ("ids", .arr [.integer 1, .null]),
        ("other", .integer 0), ("by", .integer (-2))]) := by with_unfolding_all rfl
    exact ⟨_, _, _, parsed, rfl, rfl, rfl, binds _ _ _ _ _ parsed rfl rfl⟩

end Value

end SqlShape
