import SqlShape.Proofs.Supply

/-!
# Statements and their placeholders

A statement is read expression by expression (`traverse_meets`), loses a predicate that always holds, and has its
slots numbered. Numbers give different names, so a placeholder finds under its name the value for which its slot
stands: the statement that is sent has the values of the statement over slots (`Select.eval_named`), and all its
placeholders are bound (`Select.bind_placeholders`).
-/

namespace SqlShape

/-! ## Names -/

/-- Different numbers give different names. -/
theorem placeholderName_inj {namePrefix : String} {i j : Nat}
    (same : placeholderName namePrefix i = placeholderName namePrefix j) : i = j := by
  have digits : Nat.toDigits 10 i = Nat.toDigits 10 j := by
    have decimals := (String.append_right_inj namePrefix).mp same
    rw [Nat.toString_eq_repr, Nat.toString_eq_repr, Nat.repr_eq_ofList_toDigits, Nat.repr_eq_ofList_toDigits]
      at decimals
    exact String.ofList_injective decimals
  calc i = Nat.ofDigitChars 10 (Nat.toDigits 10 i) 0 := (Nat.ofDigitChars_toDigits (by omega) (by omega)).symm
    _ = j := by rw [digits, Nat.ofDigitChars_toDigits (by omega) (by omega)]

namespace Select

variable {ρ σ : Type}

/-! ## Statements part by part -/

/-- What is present on one side has something present on the other. -/
theorem exists_mem_of_rel {α β : Type} {R : α → β → Prop} {o : Option α} {o' : Option β} (related : Option.Rel R o o') :
    ∀ b ∈ o', ∃ a ∈ o, R a b := by
  intro b inside
  cases related with
  | none => cases inside
  | some holds =>
    cases inside
    exact ⟨_, rfl, holds⟩

/-- Two statements whose expressions match one by one. -/
structure Matches (R : Expr ρ → Expr σ → Prop) (s : Select ρ) (t : Select σ) : Prop where
  projections : List.Forall₂ (fun p q => q.label = p.label ∧ R p.expr q.expr) s.projections t.projections
  predicate : Option.Rel R s.predicate t.predicate
  orderings : List.Forall₂ (fun o o' => o'.ascending = o.ascending ∧ R o.expr o'.expr) s.orderings t.orderings
  limit : Option.Rel R s.limit t.limit

theorem mem_expressions {s : Select ρ} {e : Expr ρ} : e ∈ s.expressions ↔
    (∃ p ∈ s.projections, p.expr = e) ∨ e ∈ s.predicate ∨ (∃ o ∈ s.orderings, o.expr = e) ∨ e ∈ s.limit := by
  simp only [expressions, List.mem_append, List.mem_map, Option.mem_toList, Option.mem_def, or_assoc]

namespace Matches

variable {R S : Expr ρ → Expr σ → Prop} {s : Select ρ} {t : Select σ}

theorem imp (implied : ∀ e e', R e e' → S e e') (found : Matches R s t) : Matches S s t where
  projections := found.projections.imp fun _ _ holds => ⟨holds.1, implied _ _ holds.2⟩
  predicate := rel_imp implied found.predicate
  orderings := found.orderings.imp fun _ _ holds => ⟨holds.1, implied _ _ holds.2⟩
  limit := rel_imp implied found.limit

/-- Every result matches an expression. -/
theorem exists_mem (found : Matches R s t) {e' : Expr σ} (member : e' ∈ t.expressions) :
    ∃ e ∈ s.expressions, R e e' := by
  have listed : ∀ {α β : Type} {Q : α → β → Prop} {as : List α} {bs : List β}, List.Forall₂ Q as bs →
      ∀ b ∈ bs, ∃ a ∈ as, Q a b := by
    intro α β Q as bs each
    induction each with
    | nil => exact List.forall_mem_nil _
    | cons head _ rest =>
      refine List.forall_mem_cons.mpr ⟨⟨_, List.mem_cons_self, head⟩, fun b member => ?_⟩
      obtain ⟨a, inside, holds⟩ := rest b member
      exact ⟨a, List.mem_cons_of_mem _ inside, holds⟩
  rcases mem_expressions.mp member with ⟨q, inside, rfl⟩ | inside | ⟨q, inside, rfl⟩ | inside
  · obtain ⟨p, there, -, holds⟩ := listed found.projections q inside
    exact ⟨p.expr, mem_expressions.mpr (.inl ⟨p, there, rfl⟩), holds⟩
  · obtain ⟨e, there, holds⟩ := exists_mem_of_rel found.predicate e' inside
    exact ⟨e, mem_expressions.mpr (.inr (.inl there)), holds⟩
  · obtain ⟨o, there, -, holds⟩ := listed found.orderings q inside
    exact ⟨o.expr, mem_expressions.mpr (.inr (.inr (.inl ⟨o, there, rfl⟩))), holds⟩
  · obtain ⟨e, there, holds⟩ := exists_mem_of_rel found.limit e' inside
    exact ⟨e, mem_expressions.mpr (.inr (.inr (.inr there))), holds⟩

/-- A property of all results. -/
theorem forall_mem {P : Expr σ → Prop} (found : Matches (fun _ e => P e) s t) : ∀ e ∈ t.expressions, P e := by
  intro e member
  rcases mem_expressions.mp member with ⟨p, inside, rfl⟩ | inside | ⟨o, inside, rfl⟩ | inside
  · exact forall_mem_of_forall₂ (found.projections.imp fun _ _ holds => holds.2) p inside
  · exact forall_mem_of_rel found.predicate e inside
  · exact forall_mem_of_forall₂ (found.orderings.imp fun _ _ holds => holds.2) o inside
  · exact forall_mem_of_rel found.limit e inside

/-- A property of all expressions that have a result. -/
theorem forall_mem_left {P : Expr ρ → Prop} (found : Matches (fun e _ => P e) s t) : ∀ e ∈ s.expressions, P e := by
  intro e member
  rcases mem_expressions.mp member with ⟨p, inside, rfl⟩ | inside | ⟨o, inside, rfl⟩ | inside
  · exact forall_mem_left_of_forall₂ (found.projections.imp fun _ _ holds => holds.2) p inside
  · exact forall_mem_left_of_rel found.predicate e inside
  · exact forall_mem_left_of_forall₂ (found.orderings.imp fun _ _ holds => holds.2) o inside
  · exact forall_mem_left_of_rel found.limit e inside

end Matches

/-- A statement matches what a function makes of its expressions. -/
theorem matches_map {R : Expr ρ → Expr σ → Prop} {f : Expr ρ → Expr σ} {s : Select ρ}
    (each : ∀ e ∈ s.expressions, R e (f e)) : Matches R s (s.map f) := by
  have option : ∀ {o : Option (Expr ρ)}, (∀ e ∈ o, R e (f e)) → Option.Rel R o (o.map f) := by
    intro o holds
    cases o with
    | none => exact .none
    | some e => exact .some (holds e rfl)
  constructor
  · refine List.forall₂_map_right_iff.mpr (List.forall₂_same.mpr fun p member => ⟨rfl, each p.expr ?_⟩)
    exact mem_expressions.mpr (.inl ⟨p, member, rfl⟩)
  · exact option fun e inside => each e (mem_expressions.mpr (.inr (.inl inside)))
  · refine List.forall₂_map_right_iff.mpr (List.forall₂_same.mpr fun o member => ⟨rfl, each o.expr ?_⟩)
    exact mem_expressions.mpr (.inr (.inr (.inl ⟨o, member, rfl⟩)))
  · exact option fun e inside => each e (mem_expressions.mpr (.inr (.inr (.inr inside))))

/-- Expressions of the same values make statements of the same values. -/
theorem eval_eq_of_matches {c : Context ρ} {c' : Context σ} {s : Select ρ} {t : Select σ}
    (found : Matches (fun e e' => e'.eval c' = e.eval c) s t) : t.eval c' = s.eval c := by
  have option : ∀ {o : Option (Expr ρ)} {o' : Option (Expr σ)},
      Option.Rel (fun e e' => e'.eval c' = e.eval c) o o' → o'.map (Expr.eval c') = o.map (Expr.eval c) := by
    intro o o' related
    cases related with
    | none => rfl
    | some same => exact congrArg some same
  unfold eval
  rw [option found.predicate, option found.limit]
  congr 1
  · refine map_eq_map_of_forall₂ (found.projections.imp fun p q same => ?_)
    rw [same.1, same.2]
  · refine map_eq_map_of_forall₂ (found.orderings.imp fun o o' same => ?_)
    rw [same.1, same.2]

/-- A predicate that always holds takes every row, as no predicate does. -/
theorem eval_withoutTrivialPredicate (c : Context ρ) (s : Select ρ) :
    s.withoutTrivialPredicate.eval c = s.eval c := by
  unfold withoutTrivialPredicate
  split
  next trivial =>
    obtain ⟨e, present, always⟩ := Option.bind_eq_some_iff.mp trivial
    have value : e.eval c = .bool true := by
      unfold Expr.truth? at always
      split at always
      · cases always
        rfl
      · cases always
    unfold eval
    rw [present, Option.map_some, Option.getD_some, value]
    rfl
  next => rfl

/-- Without a trivial predicate a statement has no new expressions. -/
theorem mem_withoutTrivialPredicate {s : Select ρ} {e : Expr ρ}
    (member : e ∈ s.withoutTrivialPredicate.expressions) : e ∈ s.expressions := by
  unfold withoutTrivialPredicate at member
  split at member
  · rcases mem_expressions.mp member with inside | absurd | inside
    · exact mem_expressions.mpr (.inl inside)
    · cases absurd
    · exact mem_expressions.mpr (.inr (.inr inside))
  · exact member

/-! ## Numbered slots -/

/-- The values that are sent for a statement over slots. -/
def bound (namePrefix : String) (v : Bindings) (s : Select Slot) : List BoundParameter :=
  s.slots.zipIdx.map fun (slot, index) =>
    ⟨placeholderName namePrefix index, slot.mapping.storeType, slot.key.valueIn v⟩

/-- A slot of a statement is among its slots. -/
theorem mem_slots {s : Select Slot} {slot : Slot} : slot ∈ s.slots ↔ ∃ e ∈ s.expressions, slot ∈ e.refs := by
  unfold slots
  rw [List.mem_eraseDups, List.mem_flatMap]

/-- Checks that all succeed. -/
theorem mapM_eq_ok_map {ε α β : Type} {f : α → Except ε β} {g : α → β} {items : List α}
    (each : ∀ x ∈ items, f x = .ok (g x)) : items.mapM f = .ok (items.map g) := by
  induction items with
  | nil => rfl
  | cons first rest later =>
    rw [List.mapM_cons, each first List.mem_cons_self, later fun x member => each x (List.mem_cons_of_mem _ member)]
    rfl

/-- Where all slots resolve, all placeholders are bound. -/
theorem bind_placeholders {namePrefix : String} {v : Bindings} {s : Select Slot}
    (supplied : ∀ e ∈ s.expressions, e.Supplied v) :
    (s.placeholders namePrefix).mapM (Placeholder.bind v) = .ok (s.bound namePrefix v) := by
  unfold placeholders bound
  rw [List.mapM_map]
  refine mapM_eq_ok_map ?_
  rintro ⟨slot, index⟩ numbered
  have member : slot ∈ s.slots := List.mem_of_getElem? (List.mk_mem_zipIdx_iff_getElem?.mp numbered)
  obtain ⟨e, inside, referred⟩ := mem_slots.mp member
  exact bind_eq_ok.mpr ⟨_, (supplied e inside slot referred).resolve, rfl⟩

/-- A placeholder finds the value of its slot. -/
theorem parameter_bound (d : Database) (row : Row) {namePrefix : String} {v : Bindings} {s : Select Slot}
    {slot : Slot} (member : slot ∈ s.slots) (t : LogicalType) :
    (Context.ofBound d row (s.bound namePrefix v)).parameter
      (placeholderName namePrefix (s.slots.idxOf slot)) t = slot.key.valueIn v := by
  have inside := List.idxOf_lt_length_iff.mpr member
  have found : (s.bound namePrefix v).find? (·.name = placeholderName namePrefix (s.slots.idxOf slot)) =
      some ⟨placeholderName namePrefix (s.slots.idxOf slot), slot.mapping.storeType, slot.key.valueIn v⟩ := by
    rw [List.find?_eq_some_iff_getElem]
    refine ⟨decide_eq_true rfl, s.slots.idxOf slot, ?_, ?_, ?_⟩
    · rw [bound, List.length_map, List.length_zipIdx]
      exact inside
    · simp only [bound, List.getElem_map, List.getElem_zipIdx, List.getElem_idxOf inside, Nat.zero_add]
    · intro j before
      simp only [bound, List.getElem_map, List.getElem_zipIdx, Nat.zero_add, Bool.not_eq_true',
        decide_eq_false_iff_not]
      exact fun same => Nat.ne_of_lt before (placeholderName_inj same)
  change (((s.bound namePrefix v).find? _).map BoundParameter.value).getD .null = _
  rw [found]
  rfl

/-- With its slots numbered and bound, a statement has the values that it has over slots. -/
theorem eval_named (d : Database) (row : Row) (namePrefix : String) (v : Bindings) (s : Select Slot) :
    (s.named namePrefix).eval (.ofBound d row (s.bound namePrefix v)) = s.eval (.ofSlots d row v) := by
  have same : ∀ e ∈ s.expressions,
      (e.mapRef fun slot => placeholderName namePrefix (s.slots.idxOf slot)).eval
        (.ofBound d row (s.bound namePrefix v)) = e.eval (.ofSlots d row v) := fun e member =>
    Expr.eval_mapRef e fun slot referred t => parameter_bound d row (mem_slots.mpr ⟨e, member, referred⟩) t
  exact eval_eq_of_matches (matches_map same)

end Select

namespace Specialization

/-- A statement is read expression by expression. -/
theorem traverse_meets {c : Contract} {f : Expr String → Pass (Expr Slot)} {R : Expr String → Expr Slot → Prop}
    {s : Select String} (each : ∀ e ∈ s.expressions, Meets c (f e) (R e)) :
    Meets c (s.traverse f) (Select.Matches R s) := by
  have projected : ∀ p ∈ s.projections, Meets c (do return (⟨p.label, ← f p.expr⟩ : Projection Slot)) fun q =>
      q.label = p.label ∧ R p.expr q.expr := fun p member =>
    (each p.expr (Select.mem_expressions.mpr (.inl ⟨p, member, rfl⟩))).bind fun e holds => meets_pure ⟨rfl, holds⟩
  have ordered : ∀ o ∈ s.orderings, Meets c (do return (⟨← f o.expr, o.ascending⟩ : SortKey Slot)) fun o' =>
      o'.ascending = o.ascending ∧ R o.expr o'.expr := fun o member =>
    (each o.expr (Select.mem_expressions.mpr (.inr (.inr (.inl ⟨o, member, rfl⟩))))).bind fun e holds =>
      meets_pure ⟨rfl, holds⟩
  refine (Meets.mapM projected).bind fun projections first => ?_
  refine (Meets.mapMOption fun e inside =>
    each e (Select.mem_expressions.mpr (.inr (.inl inside)))).bind fun predicate second => ?_
  refine (Meets.mapM ordered).bind fun orderings third => ?_
  refine (Meets.mapMOption fun e inside =>
    each e (Select.mem_expressions.mpr (.inr (.inr (.inr inside))))).bind fun limit fourth => ?_
  exact meets_pure ⟨first, second, third, fourth⟩

/-- What is shown of the readings of all expressions holds of a specialized statement over its slots. The statement that
is sent is this one with its slots numbered, and its placeholders are then all bound. -/
theorem specialize_reads {b : Builder} {options : SpecializationOptions} {v : Bindings} {s : Select String}
    {outcome : Specialized} {R : Expr String → Expr Slot → Prop}
    (typed : ∀ e ∈ s.expressions, e.WellTyped)
    (each : ∀ e ∈ s.expressions, Yields v (read ⟨b, options.relationalNulls, v⟩ e).asIs fun x => R e x.expr)
    (run : s.specialize b options v = .ok outcome) :
    ∃ t : Select Slot, Select.Matches R s t ∧ outcome.select = t.withoutTrivialPredicate.named options.namePrefix ∧
      outcome.placeholders.mapM (Placeholder.bind v) =
        .ok (t.withoutTrivialPredicate.bound options.namePrefix v) := by
  obtain ⟨t, progress, traversed, rfl⟩ := specialize_eq_ok.mp run
  have visits : ∀ e ∈ s.expressions, Yields v
      (do return (← (read ⟨b, options.relationalNulls, v⟩ e).asIs).expr) fun x => R e x ∧ x.Supplied v :=
    fun e member => Meets.bind ((each e member).and
      (read_supplies (s := ⟨b, options.relationalNulls, v⟩) (typed e member)).asIs) fun x holds => meets_pure holds
  obtain ⟨-, found⟩ := (traverse_meets visits).yields (resolving_start v) traversed
  have supplied := (found.imp fun _ _ holds => holds.2).forall_mem
  refine ⟨t, found.imp fun _ _ holds => holds.1, rfl, ?_⟩
  exact Select.bind_placeholders fun e member => supplied e (Select.mem_withoutTrivialPredicate member)

/-- With its placeholders bound, a specialized statement has the values that it has over its slots. -/
theorem specialize_matches {b : Builder} {options : SpecializationOptions} {v : Bindings} {s : Select String}
    {outcome : Specialized} {R : Expr String → Expr Slot → Prop}
    (typed : ∀ e ∈ s.expressions, e.WellTyped)
    (each : ∀ e ∈ s.expressions, Yields v (read ⟨b, options.relationalNulls, v⟩ e).asIs fun x => R e x.expr)
    (run : s.specialize b options v = .ok outcome) :
    ∃ t : Select Slot, Select.Matches R s t ∧
      outcome.placeholders.mapM (Placeholder.bind v) =
        .ok (t.withoutTrivialPredicate.bound options.namePrefix v) ∧
      ∀ (d : Database) (row : Row),
        outcome.select.eval (.ofBound d row (t.withoutTrivialPredicate.bound options.namePrefix v)) =
          t.eval (.ofSlots d row v) := by
  obtain ⟨t, found, same, binds⟩ := specialize_reads typed each run
  refine ⟨t, found, binds, fun d row => ?_⟩
  rw [same]
  exact (Select.eval_named d row _ v _).trans (Select.eval_withoutTrivialPredicate _ t)

end Specialization

/-! ## A statement

The blogs that are not of a given name with a low score and not of a listed rank. -/

namespace Blogs

/-- A builder for SQL Server. -/
def builder : Builder :=
  ⟨Dialect.sqlServer.catalog, ⟨"bit", .bool⟩⟩

theorem coherent_builder : builder.Coherent :=
  Builder.coherent_ofCatalog (d := .sqlServer) rfl

def name : Expr String :=
  .column "b" "Name" ⟨"nvarchar(max)", .text⟩ true

def score : Expr String :=
  .column "b" "Score" ⟨"int", .int32⟩ false

def rank : Expr String :=
  .column "b" "Rank" ⟨"int", .int32⟩ true

def marked : Expr String :=
  .column "b" "Marked" ⟨"bit", .bool⟩ true

def number (parameter : String) : Expr String :=
  .parameter parameter .int32 ⟨"int", .int32⟩

def scoresLow : Expr String :=
  .binary .less score (number "score") ⟨"bit", .bool⟩

def isNamed : Expr String :=
  .binary .equal name (.parameter "name" .text ⟨"nvarchar(max)", .text⟩) ⟨"bit", .bool⟩

def isListed : Expr String :=
  .inParameter rank (.parameter "ranks" (.sequence .int32) ⟨"int", .int32⟩) false ⟨"bit", .bool⟩

/-- Of the given name with a low score, or of a listed rank. -/
def isExcluded : Expr String :=
  .binary .or (.binary .and isNamed scoresLow ⟨"bit", .bool⟩) isListed ⟨"bit", .bool⟩

/-- Whether a low score is what the mark of a blog says, for some of the blogs. -/
def others : Select String where
  table := "Blogs"
  tableAlias := "b"
  projections := [⟨"Right", .binary .equal scoresLow marked ⟨"bit", .bool⟩⟩]
  predicate := some (.negation isExcluded ⟨"bit", .bool⟩)
  orderings := [⟨name, true⟩]
  limit := some (number "take")

theorem built_others : ∀ e ∈ others.expressions, builder.Built e := by
  have column {table column : String} {m : TypeMapping} {nullable : Bool} (scalar : m.type.isSequence = false) :
      builder.Built (.column table column m nullable : Expr String) := .columnWith scalar
  have binary {op : BinaryOp} {l r e : Expr String} (made : builder.binary op l r = .ok e) (first : builder.Built l)
      (second : builder.Built r) : builder.Built e := .binary first second made
  have number (parameter : String) : builder.Built (number parameter) :=
    .parameter (show builder.parameter parameter .int32 = .ok _ from rfl)
  have low : builder.Built scoresLow :=
    binary (show builder.binary .less score (Blogs.number "score") = .ok _ from rfl) (column rfl) (number "score")
  have named : builder.Built isNamed :=
    binary (show builder.binary .equal name (.parameter "name" .text ⟨"nvarchar(max)", .text⟩) = .ok _ from rfl)
      (column rfl) (.parameter (show builder.parameter "name" .text = .ok _ from rfl))
  have listed : builder.Built isListed :=
    .inParameter (column rfl) (.parameter (show builder.parameter "ranks" (.sequence .int32) = .ok _ from rfl))
      (show builder.inParameter rank _ false = .ok isListed from rfl)
  have both := binary (show builder.binary .and isNamed scoresLow = .ok _ from rfl) named low
  have excluded : builder.Built isExcluded :=
    binary (show builder.binary .or (.binary .and isNamed scoresLow ⟨"bit", .bool⟩) isListed = .ok _ from rfl) both
      listed
  refine List.forall_mem_cons.mpr ⟨?_, List.forall_mem_cons.mpr ⟨?_, List.forall_mem_cons.mpr ⟨?_, ?_⟩⟩⟩
  · exact binary (show builder.binary .equal scoresLow marked = .ok _ from rfl) low (column rfl)
  · exact .not excluded (show builder.not isExcluded = .ok _ from rfl)
  · exact column rfl
  · exact List.forall_mem_singleton.mpr (number "take")

/-- A row whose name is null. -/
def nameless : Row :=
  fun _ column t => Cell.nullIf t (column = "Name")

end Blogs

end SqlShape
