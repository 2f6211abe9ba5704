import SqlShape.Json.Reader

/-!
# Numbers of documents

A document keeps an integer in a word of 64 bits, signed or not, and every other number as a finite double
(`Json.Kept`). The reader makes no other documents: what is beyond the doubles is no word, and a step only moves what
was read before (`State.Kept.step`), so everything on the stack is kept at every point of a run. Putting fields in order
adds nothing to them.
-/

namespace SqlShape.Json

/-- Every number in a document is an integer of 64 bits, signed or not, or a finite double. -/
inductive Kept : Json → Prop
  | null : Kept null
  | bool (b : Bool) : Kept (bool b)
  | integer {i : Int} (lower : Int64.minValue.toInt ≤ i) (upper : i < UInt64.size) : Kept (integer i)
  | double {d : Double} (finite : d.isFinite = true) : Kept (double d)
  | str (s : String) : Kept (str s)
  | arr {items : List Json} (each : ∀ j ∈ items, Kept j) : Kept (arr items)
  | obj {fields : List (String × Json)} (each : ∀ field ∈ fields, Kept field.2) : Kept (obj fields)

/-! ## Words -/

namespace Token

/-- A token whose numbers are kept. -/
def Kept : Token → Prop
  | word value => value.Kept
  | _ => True

/-- A number is an integer where a word holds it, and else a double, which must be finite. -/
theorem kept_of_number? {p : Parts} {j : Json} (found : number? p = some j) : j.Kept := by
  unfold number? at found
  dsimp only at found
  generalize natOfDigits (p.whole ++ p.fraction.getD []) = digits at found
  generalize Double.ofDecimal p.negative digits _ = value at found
  have finite : (if value.isFinite then some (Json.double value) else none) = some j → j.Kept := by
    intro found
    split at found
    next finite =>
      cases found
      exact .double finite
    next => cases found
  split at found
  · exact finite found
  · split at found
    · split at found
      next held =>
        cases found
        exact .integer held.2 (Int.lt_of_le_of_lt (by omega) (Int.natCast_pos.mpr (by decide)))
      next => exact finite found
    · split at found
      next held =>
        cases found
        exact .integer (Int.le_trans (by decide) (Int.natCast_nonneg digits)) (Int.ofNat_lt.mpr held)
      next => exact finite found

theorem kept_of_word? {cs : List Char} {j : Json} (found : word? cs = some j) : j.Kept := by
  unfold word? at found
  split at found
  · cases found
    exact .bool true
  · cases found
    exact .bool false
  · cases found
    exact .null
  · obtain ⟨parts, -, number⟩ := Option.bind_eq_some_iff.mp found
    exact kept_of_number? number

/-- A punctuation mark holds no number. -/
theorem kept_of_punctuation? {c : Char} {t : Token} (found : punctuation? c = some t) : t.Kept := by
  unfold punctuation? at found
  split at found
  case h_7 => cases found
  all_goals
    cases found
    trivial

/-- All tokens of a text are kept, if those that were found before are. -/
theorem kept_of_tokens? {found : List Token} {cs : List Char} {ts : List Token} (read : tokens? found cs = some ts)
    (before : ∀ t ∈ found, t.Kept) : ∀ t ∈ ts, t.Kept := by
  fun_induction tokens? found cs with
  | case1 found =>
    cases read
    exact fun t member => before t (List.mem_reverse.mp member)
  | case2 found c rest space later => exact later read before
  | case3 => cases read
  | case4 found rest space s rest' body shorter later =>
    exact later read (List.forall_mem_cons.mpr ⟨trivial, before⟩)
  | case5 found c rest space noText t mark later =>
    exact later read (List.forall_mem_cons.mpr ⟨kept_of_punctuation? mark, before⟩)
  | case6 => cases read
  | case7 found c rest space noText noMark isWord value word shorter later =>
    exact later read (List.forall_mem_cons.mpr ⟨kept_of_word? word, before⟩)
  | case8 => cases read

end Token

/-! ## Runs of the reader -/

/-- What an open container holds is kept. -/
def Frame.Kept : Frame → Prop
  | array items => ∀ j ∈ items, j.Kept
  | object fields _ => ∀ field ∈ fields, field.2.Kept

namespace State

/-- Everything that was read is kept. -/
def Kept : State → Prop
  | value stack | firstItem stack | firstKey stack => ∀ frame ∈ stack, frame.Kept
  | afterItem items stack => (∀ j ∈ items, j.Kept) ∧ ∀ frame ∈ stack, frame.Kept
  | key fields stack | colon fields _ stack | afterField fields stack =>
    (∀ field ∈ fields, field.2.Kept) ∧ ∀ frame ∈ stack, frame.Kept
  | done v => v.Kept

/-- A value that ends is put where it belongs, on the stack or at the end. -/
theorem kept_finish {v : Json} {stack : List Frame} (value : v.Kept) (stacked : ∀ frame ∈ stack, frame.Kept) :
    (finish v stack).Kept := by
  cases stack with
  | nil => exact value
  | cons frame stack =>
    obtain ⟨here, outer⟩ := List.forall_mem_cons.mp stacked
    cases frame with
    | array items => exact ⟨List.forall_mem_cons.mpr ⟨value, here⟩, outer⟩
    | object fields k => exact ⟨List.forall_mem_cons.mpr ⟨value, here⟩, outer⟩

/-- The first token of a value starts it with nothing kept before. -/
theorem kept_start {t : Token} {stack : List Frame} {s : State} (token : t.Kept)
    (stacked : ∀ frame ∈ stack, frame.Kept) (started : start t stack = some s) : s.Kept := by
  cases t with
  | text k =>
    cases started
    exact kept_finish (.str k) stacked
  | word v =>
    cases started
    exact kept_finish token stacked
  | openArray | openObject =>
    change (if stack.length < maxDepth then _ else none) = some s at started
    split at started
    · cases started
      exact stacked
    · cases started
  | _ => cases started

/-- A step keeps everything. -/
theorem Kept.step {s s' : State} {t : Token} (kept : s.Kept) (token : t.Kept) (stepped : s.step t = some s') :
    s'.Kept := by
  cases s with
  | value stack => exact kept_start token kept stepped
  | firstItem stack =>
    have opened : ∀ frame ∈ Frame.array [] :: stack, frame.Kept :=
      List.forall_mem_cons.mpr ⟨List.forall_mem_nil _, kept⟩
    cases t with
    | closeArray =>
      cases stepped
      exact kept_finish (.arr (List.forall_mem_nil _)) kept
    | _ => exact kept_start token opened stepped
  | afterItem items stack =>
    cases t with
    | comma =>
      cases stepped
      exact List.forall_mem_cons.mpr kept
    | closeArray =>
      cases stepped
      exact kept_finish (.arr fun j member => kept.1 j (List.mem_reverse.mp member)) kept.2
    | _ => cases stepped
  | firstKey stack =>
    cases t with
    | closeObject =>
      cases stepped
      exact kept_finish (.obj (List.forall_mem_nil _)) kept
    | text k =>
      cases stepped
      exact ⟨List.forall_mem_nil _, kept⟩
    | _ => cases stepped
  | key fields stack =>
    cases t with
    | text k =>
      cases stepped
      exact kept
    | _ => cases stepped
  | colon fields k stack =>
    cases t with
    | colon =>
      cases stepped
      exact List.forall_mem_cons.mpr kept
    | _ => cases stepped
  | afterField fields stack =>
    cases t with
    | comma =>
      cases stepped
      exact kept
    | closeObject =>
      cases stepped
      exact kept_finish (.obj fun field member => kept.1 field (List.mem_reverse.mp member)) kept.2
    | _ => cases stepped
  | done v => cases stepped

/-- A run keeps everything. -/
theorem Kept.run {s s' : State} {ts : List Token} (kept : s.Kept) (tokens : ∀ t ∈ ts, t.Kept)
    (read : ts.foldlM State.step s = some s') : s'.Kept := by
  induction ts generalizing s with
  | nil =>
    cases read
    exact kept
  | cons t ts later =>
    obtain ⟨here, others⟩ := List.forall_mem_cons.mp tokens
    rw [List.foldlM_cons] at read
    obtain ⟨next, stepped, read⟩ := Option.bind_eq_some_iff.mp read
    exact later (kept.step here stepped) others read

end State

/-- The numbers of a document that was read are kept. -/
theorem kept_of_parse? {source : String} {j : Json} (read : parse? source = some j) : j.Kept := by
  obtain ⟨ts, tokens, rest⟩ := Option.bind_eq_some_iff.mp read
  obtain ⟨last, run, done⟩ := Option.bind_eq_some_iff.mp rest
  have kept : last.Kept :=
    State.Kept.run (s := .value []) (List.forall_mem_nil _) (Token.kept_of_tokens? tokens (List.forall_mem_nil _)) run
  cases last with
  | done v =>
    cases done
    exact kept
  | _ => cases done

/-! ## Fields in order -/

/-- Setting a field adds only that field. -/
theorem mem_of_mem_setField {α : Type} {key : String} {value : α} {fields : List (String × α)} {field : String × α}
    (member : field ∈ setField key value fields) : field = (key, value) ∨ field ∈ fields := by
  induction fields with
  | nil => exact .inl (List.mem_singleton.mp member)
  | cons first rest later =>
    obtain ⟨k, v⟩ := first
    unfold setField at member
    split at member
    · exact (List.mem_cons.mp member).imp_right (List.mem_cons_of_mem _)
    · split at member
      · exact List.mem_cons.mp member
      · rcases List.mem_cons.mp member with here | there
        · exact .inr (List.mem_cons.mpr (.inl here))
        · exact (later there).imp_right (List.mem_cons_of_mem _)

/-- Setting fields one after the other adds only these fields. -/
theorem mem_of_mem_foldl_setField {α : Type} {fields sorted : List (String × α)} {field : String × α}
    (member : field ∈ fields.foldl (fun sorted pair => setField pair.1 pair.2 sorted) sorted) :
    field ∈ fields ∨ field ∈ sorted := by
  induction fields generalizing sorted with
  | nil => exact .inr member
  | cons first rest later =>
    rcases later member with there | put
    · exact .inl (List.mem_cons_of_mem _ there)
    · exact (mem_of_mem_setField put).imp_left fun same => List.mem_cons.mpr (.inl same)

/-- Fields in order are among the fields. -/
theorem mem_of_mem_sortFields {α : Type} {fields : List (String × α)} {field : String × α}
    (member : field ∈ sortFields fields) : field ∈ fields :=
  (mem_of_mem_foldl_setField member).resolve_right List.not_mem_nil

/-- The mutual recursion over items is a map. -/
theorem normalizedItems_eq_map (items : List Json) : normalizedItems items = items.map normalized := by
  induction items with
  | nil => rfl
  | cons j js rest => rw [normalizedItems, rest, List.map_cons]

theorem normalizedFields_eq_map (fields : List (String × Json)) :
    normalizedFields fields = fields.map fun field => (field.1, field.2.normalized) := by
  induction fields with
  | nil => rfl
  | cons field fields rest => rw [normalizedFields, rest, List.map_cons]

/-- A document in key order keeps its numbers. -/
theorem Kept.normalized {j : Json} (kept : j.Kept) : j.normalized.Kept := by
  induction kept with
  | arr each below =>
    rw [Json.normalized, normalizedItems_eq_map]
    refine .arr fun j member => ?_
    obtain ⟨item, inside, rfl⟩ := List.mem_map.mp member
    exact below item inside
  | obj each below =>
    rw [Json.normalized, normalizedFields_eq_map]
    refine .obj fun field member => ?_
    obtain ⟨written, inside, rfl⟩ := List.mem_map.mp (mem_of_mem_sortFields member)
    exact below written inside
  | null => exact .null
  | bool b => exact .bool b
  | integer lower upper => exact .integer lower upper
  | double finite => exact .double finite
  | str s => exact .str s

/-- The numbers in the fields of a document that was read are kept. -/
theorem kept_of_fields? {source : String} {j : Json} {fields : List (String × Json)} (read : parse? source = some j)
    (given : j.normalized.fields? = some fields) : ∀ field ∈ fields, field.2.Kept := by
  have kept := (kept_of_parse? read).normalized
  cases document : j.normalized with
  | obj fields' =>
    rw [document] at given kept
    cases given
    cases kept with
    | obj each => exact each
  | _ =>
    rw [document] at given
    cases given

end SqlShape.Json
