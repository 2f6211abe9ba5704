import Mathlib.Data.List.DropRight
import SqlShape.Proofs.Bookkeeping

/-!
# What the plan counter counts

A clearing sets the plan counter back, and handles from before it still reach their entries, which still keep plans. A
plan that is stored through such a handle is counted, and no shape of the cache has it: it strayed (`PlanCache.strays`).
Over every history the counter is the number of plans that the shapes have and of those that strayed since the last
clearing, so it is exact only where none did (`PlanCache.plans_counted_with_strays`). What strayed takes up room until
the next clearing.

From one clearing to the next, entries divide by their age (`PlanCache.Tallied`): a newer one belongs to a shape or is
detached, an older one belongs to no shape. A plan that is added is counted on exactly one side.
-/

namespace SqlShape

namespace CacheRequest

/-- A request to empty the cache. -/
def isClear : CacheRequest → Bool
  | clear => true
  | _ => false

/-- A history up to its last clearing; nothing of a history without one. -/
def uptoClear (history : List CacheRequest) : List CacheRequest :=
  history.rdropWhile fun request => !request.isClear

end CacheRequest

namespace PlanCache

/-- The plans that were stored since a clearing through handles from before it. -/
def strays (cleared c : PlanCache) : List (List Bool × Plan) :=
  (List.range cleared.entries.length).flatMap fun h => (c.entry h).plans.drop (cleared.entry h).plans.length

/-- Since a clearing: the shapes of the cache have the entries that are newer and not detached, entries only get plans,
and the counter is the number of plans that the shapes have and of those that strayed. -/
structure Tallied (cleared c : PlanCache) : Prop where
  older : cleared.entries.length ≤ c.entries.length
  newer : ∀ known ∈ c.shapes, cleared.entries.length ≤ known.2
  owned : ∀ h, cleared.entries.length ≤ h → (c.entry h).retained = true → h ∈ c.shapes.map Prod.snd
  grown : ∀ h, (cleared.entry h).plans <+: (c.entry h).plans
  counted : c.planCount = c.held.length + (strays cleared c).length

/-! ## Counting by handle -/

/-- Of lists by handle, one gets longer by one. -/
theorem length_flatMap_grown {β : Type} {handles : List Handle} (distinct : handles.Nodup) {f g : Handle → List β}
    {h : Handle} (others : ∀ h', h' ≠ h → g h' = f h') (longer : (g h).length = (f h).length + 1) :
    (handles.flatMap g).length = (handles.flatMap f).length + if h ∈ handles then 1 else 0 := by
  induction handles with
  | nil => rfl
  | cons first rest later =>
    obtain ⟨absent, distinct⟩ := List.nodup_cons.mp distinct
    have rests := later distinct
    rw [List.flatMap_cons, List.flatMap_cons, List.length_append, List.length_append, rests]
    by_cases here : first = h
    · subst here
      rw [if_neg absent, if_pos List.mem_cons_self, longer]
      omega
    · have same : h ∈ first :: rest ↔ h ∈ rest := by
        simp [Ne.symm here]
      rw [others first here, if_congr same rfl rfl]
      omega

theorem held_eq_flatMap (c : PlanCache) :
    c.held = (c.shapes.map Prod.snd).flatMap fun h => (c.entry h).plans := by
  rw [List.flatMap_map]
  rfl

variable {cleared c c' : PlanCache} {h : Handle} {e : Entry} {maxEntries : Nat}

/-- What a replaced entry shares with the new one is as before under every handle. -/
theorem shared_setEntry {β : Type} (f : Entry → β) (same : f e = f (c.entry h)) (h' : Handle) :
    f ((c.setEntry h e).entry h') = f (c.entry h') := by
  by_cases here : h' = h
  · subst here
    rcases entry_setEntry c h' h' e with changed | kept
    · rw [changed, same]
    · rw [kept]
  · rw [entry_setEntry_ne here]

/-! ## Requests between clearings -/

/-- Right after a clearing nothing is counted. -/
theorem tallied_cleared (shapes : cleared.shapes = []) (planCount : cleared.planCount = 0) :
    cleared.Tallied cleared where
  older := Nat.le_refl _
  newer := by
    rw [shapes]
    exact List.forall_mem_nil _
  owned h beyond retained := absurd (lt_of_retained retained) (Nat.not_lt.mpr beyond)
  grown h := List.prefix_refl _
  counted := by
    have none : strays cleared cleared = [] :=
      List.flatMap_eq_nil_iff.mpr fun h _ => List.drop_length
    rw [planCount, none, held, shapes]
    rfl

/-- Entries with the same plans have the same strays among them. -/
theorem strays_eq_of_plans (plans : ∀ h, (c'.entry h).plans = (c.entry h).plans) :
    strays cleared c' = strays cleared c :=
  List.flatMap_congr fun h _ => by rw [plans h]

/-- With the same plans, shapes and counter a cache is tallied as before. -/
theorem Tallied.same (tallied : cleared.Tallied c) (plans : ∀ h, (c'.entry h).plans = (c.entry h).plans)
    (retained : ∀ h, (c'.entry h).retained = true → (c.entry h).retained = true) (shapes : c'.shapes = c.shapes)
    (planCount : c'.planCount = c.planCount) (more : c.entries.length ≤ c'.entries.length) : cleared.Tallied c' where
  older := tallied.older.trans more
  newer := shapes ▸ tallied.newer
  owned h recent kept := shapes ▸ tallied.owned h recent (retained h kept)
  grown h := plans h ▸ tallied.grown h
  counted := by
    have held : c'.held = c.held := by
      rw [held_eq_flatMap, held_eq_flatMap, shapes]
      exact List.flatMap_congr fun h _ => plans h
    rw [planCount, held, strays_eq_of_plans plans, tallied.counted]

/-- An entry may be replaced by one with the same plans. -/
theorem Tallied.setEntry (tallied : cleared.Tallied c) (plans : e.plans = (c.entry h).plans)
    (retained : e.retained = (c.entry h).retained) : cleared.Tallied (c.setEntry h e) := by
  refine tallied.same (shared_setEntry Entry.plans plans) ?_ rfl rfl List.length_set.ge
  intro h' kept
  rwa [shared_setEntry Entry.retained retained] at kept

theorem Tallied.shapeEntry (tallied : cleared.Tallied c) (s : Shape) : cleared.Tallied (c.next (.shapeEntry s)) := by
  have same := c.same_next (.shapeEntry s) rfl
  revert same
  change (∀ h, (c.entry h).Same ((PlanCache.shapeEntry s c).2.entry h)) → cleared.Tallied (PlanCache.shapeEntry s c).2
  have more (retained : Bool) : c.entries.length ≤ (c.entries ++ [Entry.fresh retained]).length :=
    List.length_append ▸ Nat.le_add_right _ _
  unfold PlanCache.shapeEntry
  split
  · exact fun _ => tallied
  · dsimp only
    split
    next room =>
      intro same
      have newest := (entry_concat c (.fresh true) c.entries.length).trans (if_pos rfl)
      constructor
      · exact tallied.older.trans (more true)
      · exact List.forall_mem_cons.mpr ⟨tallied.older, tallied.newer⟩
      · intro h recent kept
        by_cases last : h = c.entries.length
        · exact last ▸ List.mem_cons_self
        · have old := (entry_concat c (.fresh true) h).trans (if_neg last)
          exact List.mem_cons_of_mem _ (tallied.owned h recent ((congrArg Entry.retained old).symm.trans kept))
      · exact fun h => (same h).plans ▸ tallied.grown h
      · rw [held_eq_of_cons same rfl (congrArg Entry.plans newest), strays_eq_of_plans fun h => (same h).plans]
        exact tallied.counted
    next full =>
      intro same
      refine tallied.same (fun h => (same h).plans) ?_ rfl rfl (more false)
      intro h kept
      by_cases last : h = c.entries.length
      · have detached := (entry_concat c (.fresh false) h).trans (if_pos last)
        exact absurd ((congrArg Entry.retained detached).symm.trans kept) Bool.false_ne_true
      · have old := (entry_concat c (.fresh false) h).trans (if_neg last)
        exact (congrArg Entry.retained old).symm.trans kept

variable {p : Plan} {v : Bindings} {answer : Bool}

/-- A plan that is added to an entry is one more of its shape, or strays where the entry is older than the clearing. -/
theorem Tallied.stores (tallied : cleared.Tallied c) (handles : (c.shapes.map Prod.snd).Nodup)
    (stores : Stores c h p v answer c') : cleared.Tallied c' := by
  cases stores with
  | refused reason => exact tallied
  | unkept retained => exact tallied.setEntry rfl rfl
  | known retained keyed agrees there => exact tallied.setEntry rfl rfl
  | @added key retained keyed agrees absent room =>
    have inside := lt_of_retained retained
    have here : (c.setEntry h ((c.entry h).adding key p)).entry h = (c.entry h).adding key p :=
      entry_setEntry_self inside
    have there {h' : Handle} (other : h' ≠ h) : (c.setEntry h ((c.entry h).adding key p)).entry h' = c.entry h' :=
      entry_setEntry_ne other
    constructor
    · exact tallied.older.trans List.length_set.ge
    · exact tallied.newer
    · intro h' recent kept
      refine tallied.owned h' recent ?_
      rwa [← shared_setEntry (c := c) (e := (c.entry h).adding key p) Entry.retained rfl h']
    · intro h'
      change (cleared.entry h').plans <+: ((c.setEntry h ((c.entry h).adding key p)).entry h').plans
      by_cases same : h' = h
      · rw [same, here]
        exact (tallied.grown h).trans (List.prefix_append _ _)
      · rw [there same]
        exact tallied.grown h'
    · have held : (c.setEntry h ((c.entry h).adding key p)).held.length =
          c.held.length + if h ∈ c.shapes.map Prod.snd then 1 else 0 := by
        rw [held_eq_flatMap, held_eq_flatMap]
        refine length_flatMap_grown handles (fun h' other => by rw [there other]) ?_
        rw [here]
        exact List.length_append
      have strayed : (strays cleared (c.setEntry h ((c.entry h).adding key p))).length =
          (strays cleared c).length + if h ∈ List.range cleared.entries.length then 1 else 0 := by
        refine length_flatMap_grown List.nodup_range (fun h' other => by rw [there other]) ?_
        rw [here, List.length_drop, List.length_drop]
        have longer : ((c.entry h).adding key p).plans.length = (c.entry h).plans.length + 1 := List.length_append
        have := (tallied.grown h).length_le
        omega
      have counted := tallied.counted
      change c.planCount + 1 = (c.setEntry h ((c.entry h).adding key p)).held.length +
        (strays cleared (c.setEntry h ((c.entry h).adding key p))).length
      rw [held, strayed]
      -- Exactly one of the two grows: an entry of a shape is not older than the clearing.
      by_cases recent : cleared.entries.length ≤ h
      · rw [if_pos (tallied.owned h recent retained), if_neg fun old => (List.mem_range.mp old).not_ge recent]
        omega
      · have unowned : h ∉ c.shapes.map Prod.snd := by
          intro member
          obtain ⟨known, present, rfl⟩ := List.mem_map.mp member
          exact recent (tallied.newer known present)
        rw [if_neg unowned, if_pos (List.mem_range.mpr (Nat.lt_of_not_le recent))]
        omega

/-- One request other than a clearing keeps the tally. -/
theorem Tallied.next (tallied : cleared.Tallied c) (balanced : c.Balanced maxEntries) {request : CacheRequest}
    (other : request.isClear = false) : cleared.Tallied (c.next request) := by
  cases request with
  | shapeEntry s => exact tallied.shapeEntry s
  | store h p v => exact tallied.stores balanced.handles (c.stores_store h p v)
  | lookup h v =>
    change cleared.Tallied (lookup h v c).2
    unfold lookup
    split <;> exact tallied.same (fun _ => rfl) (fun _ kept => kept) rfl rfl (Nat.le_refl _)
  | lowered h made =>
    change cleared.Tallied (lowered h made c).2
    unfold lowered
    dsimp only
    split
    · exact tallied
    · split
      · exact tallied.setEntry rfl rfl
      · exact tallied
  | clear => cases other

/-- Every history keeps the tally since its last clearing. -/
theorem tallied_after (maxEntries : Nat) (history : List CacheRequest) :
    ((empty maxEntries).after (CacheRequest.uptoClear history)).Tallied ((empty maxEntries).after history) := by
  induction history using List.reverseRecOn with
  | nil => exact tallied_cleared rfl rfl
  | append_singleton history request tallied =>
    have last : (empty maxEntries).after (history ++ [request]) = ((empty maxEntries).after history).next request :=
      List.foldl_append
    unfold CacheRequest.uptoClear
    by_cases clears : request.isClear = true
    · rw [List.rdropWhile_concat_neg _ _ _ (by simp [clears]), last]
      cases request with
      | clear => exact tallied_cleared rfl rfl
      | _ => cases clears
    · rw [List.rdropWhile_concat_pos _ _ _ (by simp [clears]), last]
      exact tallied.next (balanced_after (balanced_empty maxEntries) history) (Bool.eq_false_iff.mpr clears)

/-! ## The counter -/

/-- No plan strayed exactly if the entries from before the clearing have the plans that they had then. -/
theorem Tallied.strays_eq_nil_iff (tallied : cleared.Tallied c) :
    strays cleared c = [] ↔ ∀ h < cleared.entries.length, (c.entry h).plans = (cleared.entry h).plans := by
  unfold strays
  rw [List.flatMap_eq_nil_iff]
  refine forall_congr' fun h => imp_congr List.mem_range ?_
  rw [List.drop_eq_nil_iff]
  constructor
  · intro noMore
    exact ((tallied.grown h).eq_of_length_le noMore).symm
  · intro same
    rw [same]

/-- A plan for new null flags is kept where there is room for one more. -/
theorem store_fst (retained : (c.entry h).retained = true) {key : List Bool} (keyed : p.cacheability.key? v = some key)
    (agrees : (c.entry h).cacheability.getD p.cacheability = p.cacheability)
    (absent : (c.entry h).plans.lookup key = none) :
    ((store h p v).run c).1 = decide (c.planCount < c.maxEntries) := by
  change (store h p v c).1 = _
  unfold store
  simp only [retained, keyed, agrees, absent, Bool.not_true, Bool.false_eq_true, if_false, ne_eq, not_true_eq_false,
    Option.isSome_none]
  split
  next room => exact (decide_eq_true room).symm
  next full => exact (decide_eq_false full).symm

/-- Over every history the plan counter is the number of plans that the shapes of the cache have and of the plans that
were stored since the last clearing through handles from before it. So it counts what the cache holds exactly if no
entry from before the clearing got a plan since, and a new plan of a shape is kept exactly if the plans of the shapes
and those strays leave room for it. -/
theorem plans_counted_with_strays (maxEntries : Nat) (history : List CacheRequest) :
    let c := (empty maxEntries).after history
    let cleared := (empty maxEntries).after (CacheRequest.uptoClear history)
    c.stats.plans = c.held.length + (strays cleared c).length ∧
    (c.stats.plans = c.held.length ↔ ∀ h < cleared.entries.length, (c.entry h).plans = (cleared.entry h).plans) ∧
    ∀ known ∈ c.shapes, ∀ (p : Plan) (v : Bindings) (key : List Bool), p.cacheability.key? v = some key →
      (c.entry known.2).cacheability.getD p.cacheability = p.cacheability →
      (c.entry known.2).plans.lookup key = none →
      (((store known.2 p v).run c).1 = true ↔ c.held.length + (strays cleared c).length < maxEntries) := by
  intro c cleared
  have tallied : cleared.Tallied c := tallied_after maxEntries history
  have balanced : c.Balanced maxEntries := balanced_after (balanced_empty maxEntries) history
  have counted : c.stats.plans = c.held.length + (strays cleared c).length := tallied.counted
  refine ⟨counted, ?_, ?_⟩
  · rw [counted, Nat.add_eq_left, List.length_eq_zero_iff]
    exact tallied.strays_eq_nil_iff
  · intro known member p v key keyed agrees absent
    rw [store_fst (balanced.retained known member) keyed agrees absent, decide_eq_true_iff, balanced.bound,
      tallied.counted]

/-- The only shape gets a new entry after a clearing, and a plan is stored through the handle of its old one. -/
def strayStore : List CacheRequest :=
  [.shapeEntry (.ofTable "Items" "i"), .clear, .shapeEntry (.ofTable "Items" "i"), .store 0 wholeTable ⟨[]⟩]

/-- The shape has no plan and one is counted. With room for two, its plan is kept beside the stray. -/
theorem plans_counted_with_strays_beside :
    let c := (empty 2).after strayStore
    let cleared := (empty 2).after (CacheRequest.uptoClear strayStore)
    (Shape.ofTable "Items" "i", 1) ∈ c.shapes ∧ c.stats.plans = 1 ∧ c.held.length = 0 ∧
      (strays cleared c).length = 1 ∧ ((store 1 wholeTable ⟨[]⟩).run c).1 = true := by
  intro c cleared
  have member : (Shape.ofTable "Items" "i", 1) ∈ c.shapes := List.mem_cons_self
  obtain ⟨counted, -, keeps⟩ := plans_counted_with_strays 2 strayStore
  refine ⟨member, counted, rfl, rfl, ?_⟩
  exact (keeps _ member wholeTable ⟨[]⟩ [] rfl rfl rfl).mpr (by decide)

/-- The counter counts a plan that the cache does not hold: with room for one, the plan of the only shape is refused,
although no shape has a plan. -/
theorem stray_plan_takes_room :
    let c := (empty 1).after strayStore
    c.stats.plans ≠ c.held.length ∧ c.held = [] ∧ ((store 1 wholeTable ⟨[]⟩).run c).1 = false := by
  intro c
  have counted : c.stats.plans = 1 := rfl
  have held : c.held = [] := rfl
  refine ⟨?_, held, rfl⟩
  rw [counted, held]
  decide

end PlanCache

end SqlShape
