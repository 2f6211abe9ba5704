import SqlShape.Proofs.Nullness

/-!
# Questions about null are answered

If the parameters of an expression have values, both questions about null are answered, whatever was gathered before
(`Returns`). The second answer agrees with the first where that is known, although the two follow an expression along
different ways: the first passes through casts alone, the second through all operands. Together with what holds in every
row, this is all that the rules that complete a comparison for null build on.
-/

namespace SqlShape

namespace Specialization

/-! ## Steps that are never refused -/

/-- A step yields one result, whatever was gathered before. -/
def Returns {α : Type} (f : Pass α) (answer : α) : Prop :=
  ∀ p, ∃ q, f.run p = .ok (answer, q)

variable {α : Type}

/-- Where nothing is refused, a step that yields one result in all runs returns it. -/
theorem Meets.returns {f : Pass α} {answer : α} (meets : Meets .total f (· = answer)) : Returns f answer := by
  intro p
  cases run : f.run p with
  | error refusal => exact (meets.refuses trivial run).elim
  | ok outcome =>
    obtain ⟨x, q⟩ := outcome
    obtain ⟨-, rfl⟩ := meets.yields trivial run
    exact ⟨q, rfl⟩

/-- There is one result. -/
theorem Returns.unique {f : Pass α} {x y : α} (returns : Returns f x) (returns' : Returns f y) : x = y := by
  obtain ⟨q, run⟩ := returns .start
  obtain ⟨q', run'⟩ := returns' .start
  exact (Prod.mk.inj (Except.ok.inj (run.symm.trans run'))).1

/-! ## Questions about null -/

/-- All parameters of an expression have values. -/
def Bound (v : Bindings) (e : Expr String) : Prop :=
  ∀ name ∈ e.refs, ∃ value, v.get? name = some value

/-- No refusal has to be admitted where all parameters have values. -/
theorem Bound.admitsMissing {v : Bindings} {e : Expr String} (bound : Bound v e) :
    Contract.total.AdmitsMissing v e := by
  intro name referred refusal refused
  obtain ⟨value, found⟩ := bound name referred
  rw [Bindings.get, found] at refused
  cases refused

/-- If the parameters of an expression have values, whether it is null is answered as far as it is known, and so is
whether it may be null; the second answer is the first one where that is known. In every row without a null in a column
that is declared to hold none, an expression that is known to be null is null, one that is known not to be null is not,
and neither is one that cannot be null. An unknown truth value is null. -/
theorem nullness_answers_sound (s : Setting) (e : Expr String) (bound : Bound s.bindings e) :
    ∃ (known : Option Bool) (may : Bool), Returns (knownNullness s e) known ∧ Returns (mayBeNull s e) may ∧
      (∀ null, known = some null → may = null) ∧
      ∀ (d : Database) (row : Row), row.Respects e →
        (known = some true → e.eval (.ofBindings d row s.bindings) = .null) ∧
        (known = some false → e.eval (.ofBindings d row s.bindings) ≠ .null) ∧
        (may = false → e.eval (.ofBindings d row s.bindings) ≠ .null) := by
  have missing := bound.admitsMissing
  refine ⟨_, _, (knownNullness_meets missing).returns, (mayBeNull_meets missing).returns,
    fun _ known => Expr.mayBeNull_of_mem known, ?_⟩
  intro d row respects
  refine ⟨fun known => ?_, fun known => ?_, fun absent => Expr.neverNull absent d row respects⟩
  · exact Value.isNull_iff.mp (Expr.nullnessIs_of_mem known d row respects)
  · exact Expr.neverNull (Expr.mayBeNull_of_mem known) d row respects

/-- A number that is read as a long one. -/
def widened : Expr String :=
  .convert (.parameter "by" .int32 ⟨"int", .int32⟩) ⟨"bigint", .int64⟩

/-- A condition on a column without null, beside a test for null. -/
def listedOrUnset : Expr String :=
  .binary .or
    (.inList (.column "i" "Id" ⟨"int", .int32⟩ false) [.constant (.int 1) ⟨"int", .int32⟩] true ⟨"bit", .bool⟩)
    (.nullTest widened false ⟨"bit", .bool⟩) ⟨"bit", .bool⟩

/-- The number is null, so it is known to be null as a long one; the condition is true or false. -/
theorem nullness_answers_sound_listedOrUnset : ∃ (s : Setting) (row : Row), s.bindings.get? "by" = some .null ∧
    row.Respects listedOrUnset ∧ Returns (knownNullness s widened) (some true) ∧
    widened.eval (.ofBindings .small row s.bindings) = .null ∧ Returns (mayBeNull s listedOrUnset) false ∧
    listedOrUnset.eval (.ofBindings .small row s.bindings) ≠ .null := by
  obtain ⟨s, given⟩ : ∃ s : Setting, s.bindings = ⟨[("by", .null)]⟩ :=
    ⟨⟨⟨⟨"plain", fun _ => none⟩, ⟨"bit", .bool⟩⟩, false, _⟩, rfl⟩
  obtain ⟨row, respects⟩ : ∃ row : Row, row.Respects listedOrUnset := ⟨fun _ _ t => Cell.nullIf t False, by decide⟩
  have found : s.bindings.get? "by" = some .null := by
    rw [given]
    rfl
  have bound : Bound s.bindings widened := List.forall_mem_singleton.mpr ⟨_, found⟩
  have bound' : Bound s.bindings listedOrUnset := List.forall_mem_singleton.mpr ⟨_, found⟩
  obtain ⟨known, may, answers, -, -, holds⟩ := nullness_answers_sound s widened bound
  obtain ⟨known', may', -, answers', -, holds'⟩ := nullness_answers_sound s listedOrUnset bound'
  have null : known = some true := by
    rw [answers.unique (knownNullness_meets bound.admitsMissing).returns, given]
    rfl
  have present : may' = false := by
    rw [answers'.unique (mayBeNull_meets bound'.admitsMissing).returns, given]
    rfl
  subst null present
  -- The number stands in the condition, so a row that respects the condition respects the number.
  have inside : row.Respects widened := (Expr.everywhere_nullTest.mp (Expr.everywhere_binary.mp respects).2.2).2
  exact ⟨s, row, found, respects, answers, (holds .small row inside).1 rfl, answers',
    (holds' .small row respects).2.2 rfl⟩

end Specialization

end SqlShape
