import Mathlib.Data.List.Basic
import SqlShape.Dialect.Basic
import SqlShape.Method.Rule

/-!
# The order in which rules are tried

Rules come together one by one, or anew from rules that are there and more of them (`Assembly`). Whatever the history is,
they are tried in the order of their registration, stably sorted from the highest priority to the lowest. Two facts say
what that order is (`ByPriority`): priorities descend, and the rules of each priority stand as they were registered. No
two orders have both (`ByPriority.unique`), so it does not matter that the rules are put in order at every step.

A call is lowered by the first rule that handles it, one that knows its method and does not decline. Rules that do not
handle it count for nothing wherever they stand, since the others are in the order of their priorities by themselves
(`ByPriority.filter`).
-/

namespace SqlShape

namespace MethodRule

/-- The first rule has the same or a higher priority. -/
def precedes (r s : MethodRule) : Bool :=
  decide (s.priority ≤ r.priority)

/-- A rule handles a call: it knows the method, and it lowers the call or refuses it. -/
def handles (b : Builder) (c : MethodCall) (r : MethodRule) : Bool :=
  r.accepts c.method &&
    match r.apply b c with
    | .ok none => false
    | _ => true

/-- A call is left to other rules by one that does not know the method and by one that declines. -/
theorem handles_eq_false_iff {b : Builder} {c : MethodCall} {r : MethodRule} :
    r.handles b c = false ↔ r.accepts c.method = false ∨ r.apply b c = .ok none := by
  unfold handles
  rw [Bool.and_eq_false_iff]
  refine or_congr_right ?_
  split
  next declined => exact iff_of_true rfl declined
  next other => exact iff_of_false (by simp) other

end MethodRule

namespace MethodRules

theorem mem_insertRule {rule r : MethodRule} {rules : List MethodRule} (member : r ∈ insertRule rule rules) :
    r = rule ∨ r ∈ rules := by
  induction rules with
  | nil => exact .inl (List.mem_singleton.mp member)
  | cons first rest later =>
    rw [insertRule] at member
    split at member
    · rcases List.mem_cons.mp member with rfl | behind
      · exact .inr List.mem_cons_self
      · exact (later behind).imp_right (List.mem_cons_of_mem first)
    · exact List.mem_cons.mp member

theorem mem_registerAll {r : MethodRule} {rules : MethodRules} {added : List MethodRule}
    (member : r ∈ (rules.registerAll added).trial) : r ∈ rules.trial ∨ r ∈ added := by
  induction added generalizing rules with
  | nil => exact .inl member
  | cons rule added later =>
    rcases later member with earlier | behind
    · rcases mem_insertRule earlier with rfl | known
      · exact .inr List.mem_cons_self
      · exact .inl known
    · exact .inr (List.mem_cons_of_mem rule behind)

theorem insertRule_descends {trial : List MethodRule} (descends : trial.Pairwise fun r s => s.priority ≤ r.priority)
    (rule : MethodRule) : (insertRule rule trial).Pairwise fun r s => s.priority ≤ r.priority := by
  induction trial with
  | nil => exact List.pairwise_singleton _ _
  | cons r rest later =>
    obtain ⟨first, behind⟩ := List.pairwise_cons.mp descends
    rw [insertRule]
    split
    next below =>
      refine List.pairwise_cons.mpr ⟨?_, later behind⟩
      intro s member
      rcases mem_insertRule member with rfl | known
      · exact below
      · exact first s known
    next above =>
      refine List.pairwise_cons.mpr ⟨?_, descends⟩
      intro s member
      rcases List.mem_cons.mp member with rfl | known
      · omega
      · have := first s known
        omega

/-- Of the rules of one priority, the one that is put in comes last. -/
theorem filter_insertRule {trial : List MethodRule} (descends : trial.Pairwise fun r s => s.priority ≤ r.priority)
    (rule : MethodRule) (p : Nat) : (insertRule rule trial).filter (fun r => r.priority = p) =
      trial.filter (fun r => r.priority = p) ++ [rule].filter (fun r => r.priority = p) := by
  induction trial with
  | nil => rfl
  | cons r rest later =>
    obtain ⟨first, behind⟩ := List.pairwise_cons.mp descends
    rw [insertRule]
    split
    next below =>
      rw [List.filter_cons, List.filter_cons, later behind]
      split <;> rfl
    next above =>
      by_cases here : rule.priority = p
      · -- All that follow have a lower priority.
        have none : (r :: rest).filter (fun r => r.priority = p) = [] := by
          refine List.filter_eq_nil_iff.mpr fun s member => ?_
          simp only [decide_eq_true_eq]
          rcases List.mem_cons.mp member with rfl | known
          · omega
          · have := first s known
            omega
        rw [List.filter_cons, none]
        simp [here]
      · simp [List.filter_cons, here]

end MethodRules

/-- Priorities descend, and the rules of each priority stand in the order in which they were registered. -/
structure ByPriority (registered trial : List MethodRule) : Prop where
  descends : trial.Pairwise fun r s => s.priority ≤ r.priority
  stable : ∀ p, trial.filter (fun r => r.priority = p) = registered.filter (fun r => r.priority = p)

namespace ByPriority

variable {registered trial trial' : List MethodRule}

theorem mem_iff (sorted : ByPriority registered trial) {r : MethodRule} : r ∈ trial ↔ r ∈ registered := by
  have same := congrArg (r ∈ ·) (sorted.stable r.priority)
  simpa using same

/-- Priorities and the order within each of them leave no choice. -/
theorem unique (sorted : ByPriority registered trial) (sorted' : ByPriority registered trial') : trial = trial' := by
  induction trial generalizing registered trial' with
  | nil =>
    cases trial' with
    | nil => rfl
    | cons r rest =>
      have known : r ∈ registered := sorted'.mem_iff.mp List.mem_cons_self
      exact absurd (sorted.mem_iff.mpr known) List.not_mem_nil
  | cons r rest later =>
    cases trial' with
    | nil =>
      have known : r ∈ registered := sorted.mem_iff.mp List.mem_cons_self
      exact absurd (sorted'.mem_iff.mpr known) List.not_mem_nil
    | cons r' rest' =>
      obtain ⟨first, descends⟩ := List.pairwise_cons.mp sorted.descends
      obtain ⟨first', descends'⟩ := List.pairwise_cons.mp sorted'.descends
      -- Each of the two first rules is in the other order, and so not above its first rule.
      have below : r'.priority ≤ r.priority := by
        have member : r' ∈ r :: rest := sorted.mem_iff.mpr (sorted'.mem_iff.mp List.mem_cons_self)
        rcases List.mem_cons.mp member with rfl | behind
        · exact Nat.le_refl _
        · exact first r' behind
      have above : r.priority ≤ r'.priority := by
        have member : r ∈ r' :: rest' := sorted'.mem_iff.mpr (sorted.mem_iff.mp List.mem_cons_self)
        rcases List.mem_cons.mp member with rfl | behind
        · exact Nat.le_refl _
        · exact first' r behind
      have same (p : Nat) :
          (r :: rest).filter (fun r => r.priority = p) = (r' :: rest').filter (fun r => r.priority = p) :=
        (sorted.stable p).trans (sorted'.stable p).symm
      obtain rfl : r = r' := by
        have heads := same r.priority
        simp only [List.filter_cons, Nat.le_antisymm below above, decide_true, if_true] at heads
        exact (List.cons.inj heads).1
      have tails (p : Nat) : rest'.filter (fun r => r.priority = p) = rest.filter (fun r => r.priority = p) := by
        have whole := same p
        rw [List.filter_cons, List.filter_cons] at whole
        split at whole
        · exact (List.cons.inj whole).2.symm
        · exact whole.symm
      exact congrArg (r :: ·) (later ⟨descends, fun _ => rfl⟩ ⟨descends', tails⟩)

/-- A stable sort by priority is the order. -/
theorem mergeSort (registered : List MethodRule) :
    ByPriority registered (registered.mergeSort MethodRule.precedes) := by
  have transitive : ∀ r s t : MethodRule, r.precedes s = true → s.precedes t = true → r.precedes t = true := by
    intro r s t first second
    simp only [MethodRule.precedes, decide_eq_true_eq] at *
    omega
  have total : ∀ r s : MethodRule, (r.precedes s || s.precedes r) = true := by
    intro r s
    simp only [MethodRule.precedes, Bool.or_eq_true, decide_eq_true_eq]
    omega
  constructor
  · have sorted := List.pairwise_mergeSort transitive total registered
    simpa [MethodRule.precedes] using sorted
  · intro p
    -- Rules of one priority are a sorted sublist, so they stay one, and none is lost.
    have level : (registered.filter fun r => r.priority = p).Pairwise fun r s => r.precedes s = true := by
      refine List.pairwise_of_forall_mem_list ?_
      intro r here s there
      have atLevel := (List.mem_filter.mp here).2
      have atLevel' := (List.mem_filter.mp there).2
      simp only [MethodRule.precedes, decide_eq_true_eq] at *
      omega
    have kept := (List.sublist_mergeSort transitive total level List.filter_sublist).filter fun r => r.priority = p
    rw [List.filter_filter] at kept
    simp only [Bool.and_self] at kept
    exact (kept.eq_of_length ((List.mergeSort_perm registered _).filter _).length_eq.symm).symm

/-- The order is the stable sort. -/
theorem eq_mergeSort (sorted : ByPriority registered trial) :
    trial = registered.mergeSort MethodRule.precedes :=
  sorted.unique (mergeSort registered)

/-- Some of the rules are in the order of their priorities by themselves. -/
theorem filter (sorted : ByPriority registered trial) (q : MethodRule → Bool) :
    ByPriority (registered.filter q) (trial.filter q) := by
  constructor
  · exact sorted.descends.filter q
  · intro p
    rw [List.filter_comm, sorted.stable, List.filter_comm]

/-- Rules that were put in order before are in the order of their registration. -/
theorem trans {earlier added : List MethodRule} (first : ByPriority registered earlier)
    (second : ByPriority (earlier ++ added) trial) : ByPriority (registered ++ added) trial := by
  constructor
  · exact second.descends
  · intro p
    rw [second.stable, List.filter_append, List.filter_append, first.stable]

/-- The next rule goes behind those that have its priority or a higher one. -/
theorem insertRule (sorted : ByPriority registered trial) (rule : MethodRule) :
    ByPriority (registered ++ [rule]) (MethodRules.insertRule rule trial) := by
  constructor
  · exact MethodRules.insertRule_descends sorted.descends rule
  · intro p
    rw [MethodRules.filter_insertRule sorted.descends, sorted.stable, List.filter_append]

/-- Rules in a row are put in order one after the other. -/
theorem registerAll {rules : MethodRules} (sorted : ByPriority registered rules.trial) (added : List MethodRule) :
    ByPriority (registered ++ added) (rules.registerAll added).trial := by
  induction added generalizing registered rules with
  | nil => rwa [List.append_nil]
  | cons rule added later =>
    have first : ByPriority (registered ++ [rule]) (rules.register rule).trial := sorted.insertRule rule
    have next := later first
    rwa [List.append_assoc] at next

end ByPriority

/-! ## Histories of registrations -/

/-- How rules come together. -/
inductive Assembly where
  | empty
  | register (start : Assembly) (rule : MethodRule)
  /-- From the rules that are there and more of them, registered anew. -/
  | rebuild (start : Assembly) (added : List MethodRule)

namespace Assembly

/-- The rules that a history leads to. -/
def rules : Assembly → MethodRules
  | empty => .empty
  | register start rule => start.rules.register rule
  | rebuild start added => start.rules.rebuilt added

/-- The rules that were registered, the first one first. -/
def registered : Assembly → List MethodRule
  | empty => []
  | register start rule => start.registered ++ [rule]
  | rebuild start added => start.registered ++ added

/-- Every history keeps the rules in the order of their priorities. -/
theorem byPriority (a : Assembly) : ByPriority a.registered a.rules.trial := by
  have none : ByPriority [] MethodRules.empty.trial := ⟨.nil, fun _ => rfl⟩
  induction a with
  | empty => exact none
  | register start rule sorted => exact sorted.insertRule rule
  | rebuild start added sorted =>
    have anew := none.registerAll (start.rules.trial ++ added)
    rw [List.nil_append] at anew
    exact sorted.trans anew

end Assembly

/-! ## The rule that answers a call -/

namespace MethodRules

variable {b : Builder} {c : MethodCall}

/-- A call has the outcome of the first rule that handles it. -/
theorem firstOutcome_eq_find? (rules : List MethodRule) : firstOutcome b c rules =
    ((rules.find? (MethodRule.handles b c)).map fun r => r.apply b c).getD (.ok none) := by
  induction rules with
  | nil => rfl
  | cons r rest later =>
    rw [firstOutcome, List.find?_cons]
    by_cases known : r.accepts c.method = true
    · rw [if_pos known]
      split
      next declined =>
        rw [MethodRule.handles_eq_false_iff.mpr (.inr declined)]
        exact later
      next other =>
        have answers : r.handles b c = true := by
          rw [← Bool.not_eq_false, MethodRule.handles_eq_false_iff]
          rintro (unknown | declined)
          · exact absurd known (Bool.eq_false_iff.mp unknown)
          · exact other declined
        rw [answers]
        rfl
    · rw [if_neg known, MethodRule.handles_eq_false_iff.mpr (.inl (Bool.eq_false_iff.mpr known))]
      exact later

/-- Of the rules in two orders by priority, only those that handle a call matter for it. -/
theorem firstOutcome_congr {registered registered' trial trial' : List MethodRule}
    (sorted : ByPriority registered trial) (sorted' : ByPriority registered' trial')
    (same : registered.filter (MethodRule.handles b c) = registered'.filter (MethodRule.handles b c)) :
    firstOutcome b c trial = firstOutcome b c trial' := by
  have handling : trial.filter (MethodRule.handles b c) = trial'.filter (MethodRule.handles b c) :=
    (sorted.filter _).unique (same ▸ sorted'.filter _)
  rw [firstOutcome_eq_find?, firstOutcome_eq_find?, ← List.head?_filter, ← List.head?_filter, handling]

end MethodRules

namespace Assembly

/-- Rules are tried in the order of their registration, stably sorted from the highest priority to the lowest, and a call
has the outcome of the first one that handles it. So a rule that does not know the method of a call or declines it may be
added anywhere without a change to its outcome, and a refusal by one rule is not hidden by the rules behind it. -/
theorem tried_by_priority (a : Assembly) (b : Builder) (c : MethodCall) :
    a.rules.trial = a.registered.mergeSort MethodRule.precedes ∧
    a.rules.lower b c =
      ((a.rules.trial.find? (MethodRule.handles b c)).map fun r => r.apply b c).getD (.ok none) ∧
    (∀ (a' : Assembly) (before after : List MethodRule) (rule : MethodRule),
      rule.accepts c.method = false ∨ rule.apply b c = .ok none →
      a.registered = before ++ after → a'.registered = before ++ rule :: after →
      a'.rules.lower b c = a.rules.lower b c) ∧
    ∀ (earlier later : List MethodRule) (rule : MethodRule) (refusal : QueryError),
      a.rules.trial = earlier ++ rule :: later →
      (∀ r ∈ earlier, r.accepts c.method = false ∨ r.apply b c = .ok none) →
      rule.accepts c.method = true → rule.apply b c = .error refusal → a.rules.lower b c = .error refusal := by
  refine ⟨a.byPriority.eq_mergeSort, MethodRules.firstOutcome_eq_find? _, ?_, ?_⟩
  · intro a' before after rule unhandled here there
    refine MethodRules.firstOutcome_congr a'.byPriority a.byPriority ?_
    have left : rule.handles b c = false := MethodRule.handles_eq_false_iff.mpr unhandled
    rw [here, there, List.filter_append, List.filter_append, List.filter_cons, left, if_neg Bool.false_ne_true]
  · intro earlier later rule refusal order unhandled known refused
    have answers : rule.handles b c = true := by
      simp only [MethodRule.handles, known, refused, Bool.and_self]
    have passed : earlier.find? (MethodRule.handles b c) = none :=
      List.find?_eq_none.mpr fun r member =>
        Bool.eq_false_iff.mp (MethodRule.handles_eq_false_iff.mpr (unhandled r member))
    unfold MethodRules.lower
    rw [MethodRules.firstOutcome_eq_find?, order, List.find?_append, passed, List.find?_cons, answers]
    exact refused

/-- A rule for the calls of one method that has the same outcome for all of them. -/
def fixed (name : String) (priority : Nat) (outcome : Except QueryError (Option (Expr String))) : MethodRule :=
  ⟨name, priority, fun m => m.name == "Equals", fun _ _ => outcome⟩

/-- A truth value. -/
def yes : Expr String :=
  .constant (.bool true) ⟨"INTEGER", .bool⟩

/-- A call without operands. -/
def bareCall : MethodCall :=
  ⟨none, ⟨.object, "Equals", 0⟩, []⟩

/-- A rule of low priority, and two of equal priority that were added to it, of which the first one refuses. -/
def contested : Assembly :=
  .rebuild (.register .empty (fixed "low" 10 (.ok (some yes))))
    [fixed "refusing" 50 (.error (.invalidCall "Object.Equals" .noReceiver)), fixed "answering" 50 (.ok (some yes))]

/-- The same with a rule in between that declines and is tried first. -/
def declinedFirst : Assembly :=
  .rebuild (.register (.register .empty (fixed "low" 10 (.ok (some yes)))) (fixed "declining" 90 (.ok none)))
    [fixed "refusing" 50 (.error (.invalidCall "Object.Equals" .noReceiver)), fixed "answering" 50 (.ok (some yes))]

/-- The rule that refuses is asked before the one of the same priority that was registered behind it, and the one that
declines is asked before both and changes nothing. -/
theorem tried_by_priority_contested :
    let b : Builder := ⟨Dialect.sqlite.catalog, ⟨"INTEGER", .bool⟩⟩
    contested.rules.trial = contested.registered.mergeSort MethodRule.precedes ∧
    contested.rules.names = ["refusing", "answering", "low"] ∧
    declinedFirst.rules.names = ["declining", "refusing", "answering", "low"] ∧
    contested.rules.lower b bareCall = .error (.invalidCall "Object.Equals" .noReceiver) ∧
    declinedFirst.rules.lower b bareCall = contested.rules.lower b bareCall := by
  intro b
  obtain ⟨sorted, -, adds, refuses⟩ := tried_by_priority contested b bareCall
  refine ⟨sorted, rfl, rfl, refuses [] _ _ _ rfl (List.forall_mem_nil _) rfl rfl, ?_⟩
  exact adds declinedFirst [fixed "low" 10 (.ok (some yes))] _ (fixed "declining" 90 (.ok none)) (.inr rfl) rfl rfl

end Assembly

end SqlShape
