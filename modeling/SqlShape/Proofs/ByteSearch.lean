import SqlShape.Proofs.SearchedRows

/-!
# Bytes that hold a byte

Whether bytes hold a byte is asked by the position function of a dialect, whose arguments are bytes: a constant becomes
a sequence of one byte when the query is lowered, the value of a parameter when it is bound. The bytes that are searched
are a column, a constant or a parameter (`Haystack`). In every row both forms have one truth value, by which the bytes
hold the byte or, being null, leave it unknown, and their negations take the same rows.
-/

namespace SqlShape

/-! ## Bytes that are searched -/

/-- Bytes as a value, or null. -/
def Value.ofBytes : Option (List UInt8) → Value
  | none => .null
  | some bs => .bytes bs

/-- Bytes that are absent are null. -/
theorem Value.ofBytes_eq_null {held : Option (List UInt8)} : ofBytes held = .null ↔ held = none := by
  cases held with
  | none => exact iff_of_true rfl rfl
  | some values => exact iff_of_false Value.noConfusion (Option.some_ne_none values)

/-- A byte in a query, with its type stated or not. -/
def QueryExpr.ofByte (stated : Bool) (b : UInt8) : QueryExpr :=
  .constant (.byte b) (if stated then some .byte else none)

/-- Bytes in a query. -/
inductive Haystack where
  | column (table name : String) (nullable : Bool)
  | null
  | constant (values : List UInt8) (stated : Bool)
  | parameter (name : String)
deriving DecidableEq, Repr

namespace Haystack

/-- The bytes as a part of a query. -/
def query : Haystack → QueryExpr
  | column table name nullable => .column table name .bytes nullable
  | null => .constant .null (some .bytes)
  | constant values stated => .constant (.bytes values) (if stated then some .bytes else none)
  | parameter name => .parameter name .bytes

/-- What the bytes are lowered to. -/
def lowered (d : Dialect) : Haystack → Expr String
  | column table name nullable => .column table name (d.stored .bytes) nullable
  | null => .constant .null (d.stored .bytes)
  | constant values _ => .constant (.bytes values) (d.stored .bytes)
  | parameter name => .parameter name .bytes (d.stored .bytes)

/-- The bytes are given in a row, or null is. A column that is declared without nulls has none. -/
def Holds (row : Row) (v : Bindings) (held : Option (List UInt8)) : Haystack → Prop
  | column table name nullable => (row table name .bytes).1 = .ofBytes held ∧ (nullable = false → held ≠ none)
  | null => held = none
  | constant values _ => held = some values
  | parameter name => v.get? name = some (.ofBytes held)

/-- The question whether the bytes hold a byte. -/
def asks (haystack : Haystack) (byte : QueryExpr) : QueryExpr :=
  .call none ⟨.enumerable, "Contains", 1⟩ [haystack.query, byte]

/-! ## Lowered questions -/

variable {d : Dialect} {l : Lowering}

/-- Each kind of haystack is lowered to its own expression. -/
theorem lower_query (made : d.lowering = .ok l) (haystack : Haystack) :
    (l.lower haystack.query).run = .ok (some (haystack.lowered d)) := by
  cases haystack with
  | constant values stated => cases stated <;> cases d <;> cases made <;> rfl
  | _ => cases d <;> cases made <;> rfl

/-- The first rule answers the question. -/
theorem lower_asks (made : d.lowering = .ok l) (haystack : Haystack) {q : QueryExpr} {e x : Expr String}
    (lowered : (l.lower q).run = .ok (some e))
    (ruled : MethodRule.bytesContain d l.builder ⟨none, ⟨.enumerable, "Contains", 1⟩, [haystack.lowered d, e]⟩ =
      .ok (some x)) : (l.lower (haystack.asks q)).run = .ok (some x) := by
  have trial : d.rules.trial = [.bytes d, .membership, .strings d, .numbers d, .equality] := rfl
  have accepts : (MethodRule.bytes d).accepts ⟨.enumerable, "Contains", 1⟩ = true := rfl
  have applied : (MethodRule.bytes d).apply l.builder
      ⟨none, ⟨.enumerable, "Contains", 1⟩, [haystack.lowered d, e]⟩ = .ok (some x) := ruled
  have first : d.rules.lower l.builder ⟨none, ⟨.enumerable, "Contains", 1⟩, [haystack.lowered d, e]⟩ =
      .ok (some x) := by
    unfold MethodRules.lower
    simp only [trial, MethodRules.firstOutcome, accepts, if_true, applied]
  have last : (l.lowerAll [q]).run = .ok (some [e]) := optionBind_eq_ok.mpr ⟨e, lowered, rfl⟩
  have arguments : (l.lowerAll [haystack.query, q]).run = .ok (some [haystack.lowered d, e]) :=
    optionBind_eq_ok.mpr ⟨_, lower_query made haystack, optionBind_eq_ok.mpr ⟨[e], last, rfl⟩⟩
  refine optionBind_eq_ok.mpr ⟨none, rfl, optionBind_eq_ok.mpr ⟨_, arguments, ?_⟩⟩
  rw [Dialect.rules_lowering made]
  exact first

/-- A search for a constant byte is lowered to a search for the bytes that it makes. -/
theorem lower_asks_constant (made : d.lowering = .ok l) (haystack : Haystack) (stated : Bool) (b : UInt8) :
    (l.lower (haystack.asks (.ofByte stated b))).run =
      .ok (some (Search.located d (haystack.lowered d) (.constant (.bytes [b]) (d.stored .bytes)))) := by
  have lowered : (l.lower (.ofByte stated b)).run = .ok (some (.constant (.byte b) (d.stored .byte))) := by
    cases stated <;> cases d <;> cases made <;> rfl
  refine lower_asks made haystack lowered ?_
  cases haystack <;> cases d <;> cases made <;> rfl

/-- A search for a parameter converts the byte that is bound to it. -/
theorem lower_asks_parameter (made : d.lowering = .ok l) (haystack : Haystack) (name : String) :
    (l.lower (haystack.asks (.parameter name .byte))).run =
      .ok (some (Search.located d (haystack.lowered d)
        (.convert (.parameter name .byte (d.stored .byte)) (d.stored .bytes)))) := by
  have lowered : (l.lower (.parameter name .byte)).run = .ok (some (.parameter name .byte (d.stored .byte))) := by
    cases d <;> cases made <;> rfl
  refine lower_asks made haystack lowered ?_
  cases haystack <;> cases d <;> cases made <;> rfl

end Haystack

/-! ## Operands of the position function -/

/-- A parameter that takes over a conversion. -/
theorem Specialization.operand_converted {d : Dialect} {row : Row} {s : Setting} {name : String} {type : LogicalType}
    {m m' : TypeMapping} {value image : Value} (scalar : type.isSequence = false)
    (widens : type.widensTo m.type = true) (bound : s.bindings.get? name = some value)
    (converts : value.convertTo? m.type = some image) :
    Operand d row s (.convert (.parameter name type m') m) (.ofValue image) := by
  have found : s.bindings.valueOf name = value := by
    rw [Bindings.valueOf, bound]
    rfl
  have taken : convertedParameter? (.parameter name type m') m.type = some (name, type) := by
    simp only [convertedParameter?, scalar, widens, Bool.not_false, Bool.and_self, if_true]
  have null : (Datum.ofValue image).isNull = value.isNull := by
    rw [Datum.isNull_ofValue, Value.isNull_of_convertTo? converts]
  refine ⟨?_, fun null' known => ?_, fun absent => ?_⟩
  · simp only [read, taken]
    refine Meets.mono (readParameter_yields s (LogicalType.widensTo_iff.mp widens) rfl) fun z placed => ?_
    obtain ⟨-, -, slot, placed, -, held⟩ := placed
    rw [placed, Expr.denote, Bindings.ofSlot, held, found, Value.convertedTo, converts, Option.getD_some]
  · rw [Expr.nullness?, Expr.nullness?, if_neg (Bool.eq_false_iff.mp scalar), found] at known
    cases known
    exact null
  · rw [Expr.mayBeNull, Expr.mayBeNull, Bool.or_eq_false_iff, found] at absent
    exact null.trans absent.2

/-- A comparison as it stands means the comparison of what its operands mean. -/
theorem Specialization.greater_means {d : Dialect} {row : Row} {s : Setting} {e e' : Expr String} {x y : Datum}
    {m : TypeMapping} (first : Operand d row s e x) (second : Operand d row s e' y) :
    Yields s.bindings (read s (.binary .greater e e' m)).asIs fun z =>
      z.expr.denote d row s.bindings.ofSlot = .ofTruth (Datum.comparison .greater x y) ∧ z.expr.truth? = none := by
  refine first.asIs.bind fun z left => second.asIs.bind fun z' right => meets_pure ?_
  rw [reduced_binary rfl]
  refine ⟨?_, rfl⟩
  rw [Expr.denote, left, right]
  rfl

/-- The parameters of a place are those of what is searched and of what is sought. -/
theorem Search.mem_uses_located {d : Dialect} {subject pattern : Expr String} {u : ParameterUse}
    (used : u ∈ (located d subject pattern).uses) : u ∈ subject.uses ∨ u ∈ pattern.uses := by
  cases d with
  | sqlServer =>
    have both : u ∈ (pattern.uses ++ (subject.uses ++ [])) ++ [] := used
    simp only [List.append_nil, List.mem_append] at both
    exact both.symm
  | sqlite =>
    have both : u ∈ (subject.uses ++ (pattern.uses ++ [])) ++ [] := used
    simpa only [List.append_nil, List.mem_append] using both

namespace Haystack

open SqlShape.Specialization

variable {d : Dialect} {row : Row} {s : Setting} {haystack : Haystack} {held : Option (List UInt8)}

/-- A haystack is worth the bytes that it holds. -/
theorem operand_lowered (holds : haystack.Holds row s.bindings held) :
    Operand d row s (haystack.lowered d) (.ofValue (.ofBytes held)) := by
  have typed : (d.stored .bytes).type = .bytes := by
    cases d <;> rfl
  cases haystack with
  | column table name nullable =>
    obtain ⟨cell, filled⟩ := holds
    rw [← cell]
    refine operand_column typed ?_
    intro declared null
    exact filled declared (Value.ofBytes_eq_null.mp (cell.symm.trans null))
  | null =>
    obtain rfl : held = none := holds
    exact operand_constant .null _
  | constant values stated =>
    obtain rfl : held = some values := holds
    exact operand_constant (.bytes values) _
  | parameter name =>
    refine operand_bound rfl typed holds ?_
    cases held <;> rfl

/-- The value of a parameter becomes a sequence of one byte. -/
theorem operand_byte {name : String} {b : UInt8} (bound : s.bindings.get? name = some (.byte b)) :
    Operand d row s (.convert (.parameter name .byte (d.stored .byte)) (d.stored .bytes)) (.bytes [b]) := by
  have widens : LogicalType.byte.widensTo (d.stored .bytes).type = true := by
    cases d <;> rfl
  have image : (Value.byte b).convertTo? (d.stored .bytes).type = some (.bytes [b]) := by
    cases d <;> rfl
  exact operand_converted rfl widens bound image

/-! ## The answer -/

/-- Whether bytes hold a byte; unknown for null. -/
def answer (b : UInt8) (held : Option (List UInt8)) : Option Bool :=
  held.map fun values => decide (b ∈ values)

/-- A byte has a place exactly where the bytes hold it. -/
theorem place_singleton_pos (b : UInt8) (values : List UInt8) : 0 < Text.place [b] values ↔ b ∈ values := by
  rw [Text.place_pos_any]
  induction values with
  | nil => simp
  | cons c values later =>
    rw [List.tails_cons, List.any_cons, Bool.or_eq_true, later, List.mem_cons]
    simp [List.isPrefixOf]

theorem operand_position {sought : Expr String} {b : UInt8} (holds : haystack.Holds row s.bindings held)
    (second : Operand d row s sought (.bytes [b])) :
    ∃ x, Operand d row s (.function d.functions.position
        (if d.functions.soughtFirst then [sought, haystack.lowered d] else [haystack.lowered d, sought])
        (d.stored .int32) false) x ∧
      Datum.comparison .greater x (.number 0) = answer b held := by
  have first : Operand d row s (haystack.lowered d) _ := operand_lowered holds
  cases held with
  | none =>
    refine ⟨.null, Search.operand_place first second ?_ id, rfl⟩
    cases d <;> rfl
  | some values =>
    refine ⟨.number (Text.place [b] values), Search.operand_place first second ?_ fun _ => rfl, ?_⟩
    · cases d <;> rfl
    · rw [Datum.comparison_pos]
      exact congrArg some (decide_eq_decide.mpr (place_singleton_pos b values))

theorem admits_lowered {v : Bindings} (holds : haystack.Holds row v held) :
    ∀ u ∈ (haystack.lowered d).uses, u.Admits v := by
  cases haystack with
  | parameter name =>
    refine List.forall_mem_singleton.mpr ⟨_, holds, ?_⟩
    cases held <;> exact ⟨rfl, rfl⟩
  | _ => exact List.forall_mem_nil _

/-- The predicate that is sent for a question has the answer as its value, and the negation takes the row by it. -/
theorem asks_answered {l : Lowering} {options : SpecializationOptions} {v : Bindings} {q : QueryExpr}
    {sought : Expr String} {b : UInt8} (made : d.lowering = .ok l) (table tableAlias : String)
    (lowered : (l.lower q).run = .ok (some (Search.located d (haystack.lowered d) sought)))
    (holds : haystack.Holds row v held) (admits : ∀ u ∈ sought.uses, u.Admits v)
    (second : Operand d row ⟨l.builder, options.relationalNulls, v⟩ sought (.bytes [b])) :
    l.predicateValue d options v row ((Shape.ofTable table tableAlias).filter q) =
        .ok (some (.ofTruth (answer b held))) ∧
      l.takes d options v row ((Shape.ofTable table tableAlias).filter (.not q)) =
        .ok (Truth.denied options.relationalNulls (answer b held)) := by
  have bool : (Search.located d (haystack.lowered d) sought).type = .bool := by
    cases d <;> rfl
  have negates : l.builder.not (Search.located d (haystack.lowered d) sought) =
      .ok (.negation (Search.located d (haystack.lowered d) sought) l.builder.boolMapping) := by
    cases d <;> cases made <;> rfl
  have uses : ∀ u ∈ (Search.located d (haystack.lowered d) sought).uses, u.Admits v := by
    intro u used
    rcases Search.mem_uses_located used with here | here
    · exact admits_lowered holds u here
    · exact admits u here
  have zero : Operand d row ⟨l.builder, options.relationalNulls, v⟩ (.constant (.int 0) (d.stored .int32))
      (.number 0) := operand_constant (.int 0) _
  obtain ⟨x, position, answers⟩ := operand_position holds second
  rw [← answers]
  constructor
  · exact Lowering.predicateValue_of_means made table tableAlias lowered bool uses (greater_means position zero)
  · exact (Lowering.takes_sent made table tableAlias lowered bool uses (sent_greater position zero rfl)
      (.inl negates)).2

/-- Whether bytes hold a byte is answered alike for the byte as a constant and as the value of a parameter. In every
dialect, with nulls completed or not, for a column, a constant or a parameter and whatever bytes it holds, the predicate
that is sent is true where they hold the byte, false where they do not, and unknown where they are null; and both
negations take the row where they do not hold it, those of null only if nulls are completed. -/
theorem byte_found_alike {d : Dialect} {l : Lowering} (made : d.lowering = .ok l) (options : SpecializationOptions)
    (table tableAlias : String) (haystack : Haystack) (b : UInt8) (stated : Bool) {name : String} {v v' : Bindings}
    {row : Row} {held : Option (List UInt8)} (holds : haystack.Holds row v held)
    (holds' : haystack.Holds row v' held) (bound : v'.get? name = some (.byte b)) :
    let filter (q : QueryExpr) := (Shape.ofTable table tableAlias).filter q
    let constant := haystack.asks (.ofByte stated b)
    let parameter := haystack.asks (.parameter name .byte)
    let truth := held.map fun values => decide (b ∈ values)
    l.predicateValue d options v row (filter constant) = .ok (some (.ofTruth truth)) ∧
      l.predicateValue d options v' row (filter parameter) = .ok (some (.ofTruth truth)) ∧
      l.takes d options v row (filter (.not constant)) = .ok (Truth.denied options.relationalNulls truth) ∧
      l.takes d options v' row (filter (.not parameter)) = .ok (Truth.denied options.relationalNulls truth) := by
  intro filter constant parameter truth
  have atOnce : Operand d row ⟨l.builder, options.relationalNulls, v⟩ (.constant (.bytes [b]) (d.stored .bytes))
      (.bytes [b]) := operand_constant (.bytes [b]) _
  obtain ⟨first, first'⟩ := asks_answered made table tableAlias (lower_asks_constant made haystack stated b) holds
    (List.forall_mem_nil _) atOnce
  have later : Operand d row ⟨l.builder, options.relationalNulls, v'⟩
      (.convert (.parameter name .byte (d.stored .byte)) (d.stored .bytes)) (.bytes [b]) := operand_byte bound
  obtain ⟨second, second'⟩ := asks_answered made table tableAlias (lower_asks_parameter made haystack name) holds'
    (List.forall_mem_singleton.mpr ⟨.byte b, bound, rfl, rfl⟩) later
  exact ⟨first, second, first', second'⟩

/-- Two bytes to search. -/
def pair : Bindings :=
  ⟨[("data", .bytes [1, 2])]⟩

/-- The second of them, to be sought. -/
def second : Bindings :=
  ⟨[("sought", .byte 2), ("data", .bytes [1, 2])]⟩

/-- The second of two bytes is found in the value of a parameter, so the negations leave the row out. -/
theorem byte_found_alike_pair : ∃ l, Dialect.sqlServer.lowering = .ok l ∧
    (parameter "data").Holds (Lowering.labelled "") pair (some [1, 2]) ∧
    (parameter "data").Holds (Lowering.labelled "") second (some [1, 2]) ∧
    l.predicateValue .sqlServer ⟨"p", false⟩ pair (Lowering.labelled "")
      ((Shape.ofTable "Items" "i").filter ((parameter "data").asks (.ofByte true 2))) = .ok (some (.truth true)) ∧
    l.predicateValue .sqlServer ⟨"p", false⟩ second (Lowering.labelled "")
      ((Shape.ofTable "Items" "i").filter ((parameter "data").asks (.parameter "sought" .byte))) =
        .ok (some (.truth true)) ∧
    l.takes .sqlServer ⟨"p", false⟩ pair (Lowering.labelled "")
      ((Shape.ofTable "Items" "i").filter (.not ((parameter "data").asks (.ofByte true 2)))) = .ok false ∧
    l.takes .sqlServer ⟨"p", false⟩ second (Lowering.labelled "")
      ((Shape.ofTable "Items" "i").filter (.not ((parameter "data").asks (.parameter "sought" .byte)))) = .ok false := by
  obtain ⟨l, made⟩ : ∃ l, Dialect.sqlServer.lowering = .ok l := ⟨_, rfl⟩
  have holds : (parameter "data").Holds (Lowering.labelled "") pair (some [1, 2]) := rfl
  have holds' : (parameter "data").Holds (Lowering.labelled "") second (some [1, 2]) := rfl
  have bound : second.get? "sought" = some (.byte 2) := rfl
  obtain ⟨found, found', left, left'⟩ := byte_found_alike made ⟨"p", false⟩ "Items" "i" (parameter "data") 2 true
    holds holds' bound
  exact ⟨l, made, holds, holds', found, found', left, left'⟩

end Haystack

end SqlShape
