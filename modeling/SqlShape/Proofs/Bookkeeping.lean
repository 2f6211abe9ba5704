import Mathlib.Data.List.Find
import Mathlib.Data.List.Nodup
import SqlShape.Proofs.CachedPlans

/-!
# The books of a plan cache

A cache counts shapes and plans apart from where it keeps them: two counters stand beside the entries, and a handle
reaches its entry also when the cache has forgotten the shape. Over every history of requests, whatever handles they
use, the counters stay within the bound and above what is there, every entry keeps plans of one report only, and a
look-up finds the first plan that was stored under the handle for the same null flags (`PlanCache.keeps_books`).

All requests but one leave the plans of every entry as they are (`PlanCache.same_next`); what storing can do is said
once (`PlanCache.Stores`). The plan counter is a bound and no count: a plan that is stored through a handle from before
a clearing is counted, and no shape of the cache has it.
-/

namespace SqlShape

/-! ## Histories -/

/-- What a cache is asked for. A handle may be older than the last clearing, and its entry may be detached. -/
inductive CacheRequest where
  | shapeEntry (s : Shape)
  | lookup (h : Handle) (v : Bindings)
  | store (h : Handle) (p : Plan) (v : Bindings)
  | lowered (h : Handle) (made : Except QueryError (Select String))
  | clear

namespace CacheRequest

/-- A request for a plan. -/
def isLookup : CacheRequest → Bool
  | lookup _ _ => true
  | _ => false

/-- A request to keep a plan. -/
def isStore : CacheRequest → Bool
  | store _ _ _ => true
  | _ => false

end CacheRequest

namespace PlanCache

/-- The cache after a request. -/
def next (c : PlanCache) : CacheRequest → PlanCache
  | .shapeEntry s => ((shapeEntry s).run c).2
  | .lookup h v => ((lookup h v).run c).2
  | .store h p v => ((store h p v).run c).2
  | .lowered h made => ((lowered h made).run c).2
  | .clear => (clear.run c).2

/-- The cache after a history of requests, the first one first. -/
def after (c : PlanCache) (history : List CacheRequest) : PlanCache :=
  history.foldl next c

/-- The plan that a request puts under a handle, with its values, where the cache accepts it. -/
def accepted (c : PlanCache) (h : Handle) : CacheRequest → List (Plan × Bindings)
  | .store h' p v => if h' = h ∧ ((store h' p v).run c).1 = true then [(p, v)] else []
  | _ => []

/-- The plans that a history puts under a handle, each with its values, the first one first. -/
def stored (c : PlanCache) (h : Handle) : List CacheRequest → List (Plan × Bindings)
  | [] => []
  | request :: rest => c.accepted h request ++ (c.next request).stored h rest

/-- The plans that the shapes of the cache have. -/
def held (c : PlanCache) : List (List Bool × Plan) :=
  c.shapes.flatMap fun known => (c.entry known.2).plans

end PlanCache

/-! ## Entries -/

namespace Entry

/-- The plans of an entry have different keys and the report of the entry, and none is for its values only. A detached
entry has no plans. -/
structure Orderly (e : Entry) : Prop where
  keys : (e.plans.map Prod.fst).Nodup
  recorded : ∀ kept ∈ e.plans, e.cacheability = some kept.2.cacheability
  lasting : ∀ kept ∈ e.plans, kept.2.cacheability ≠ .perValues
  detached : e.retained = false → e.plans = []

/-- An entry keeps what was stored in it: under each key the first plan, all with one report that has keys. -/
structure Records (e : Entry) (stored : List (Plan × Bindings)) : Prop where
  retained : ∀ kept ∈ stored, e.retained = true
  recorded : ∀ kept ∈ stored, e.cacheability = some kept.1.cacheability
  lasting : ∀ kept ∈ stored, kept.1.cacheability ≠ .perValues
  found : ∀ key, e.plans.lookup key =
    (stored.find? fun kept => kept.1.cacheability.key? kept.2 = some key).map Prod.fst

/-- An entry has the plans of another, and is in the cache if that one is. -/
structure Same (e e' : Entry) : Prop where
  plans : e'.plans = e.plans
  cacheability : e'.cacheability = e.cacheability
  retained : e.retained = true → e'.retained = true

theorem Same.refl (e : Entry) : e.Same e :=
  ⟨rfl, rfl, id⟩

/-- The entry with a report, where it has none yet. -/
def recording (e : Entry) (report : Cacheability) : Entry :=
  { e with cacheability := some (e.cacheability.getD report) }

variable {e e' : Entry} {past : List (Plan × Bindings)}

/-- A fresh entry has no plans to be in disorder. -/
theorem orderly_fresh (retained : Bool) : (fresh retained).Orderly where
  keys := List.nodup_nil
  recorded := List.forall_mem_nil _
  lasting := List.forall_mem_nil _
  detached _ := rfl

/-- A fresh entry records nothing. -/
theorem records_fresh (retained : Bool) : (fresh retained).Records [] where
  retained := List.forall_mem_nil _
  recorded := List.forall_mem_nil _
  lasting := List.forall_mem_nil _
  found _ := rfl

/-- Order is about the plans and their keys, so it stays where these do. -/
theorem Orderly.same (orderly : e.Orderly) (same : e.Same e') : e'.Orderly where
  keys := same.plans ▸ orderly.keys
  recorded := by
    rw [same.plans, same.cacheability]
    exact orderly.recorded
  lasting := same.plans ▸ orderly.lasting
  detached := by
    intro apart
    rw [same.plans]
    refine orderly.detached (Bool.not_eq_true _ ▸ fun kept => ?_)
    exact Bool.false_ne_true (apart.symm.trans (same.retained kept))

/-- What was stored stays recorded where the plans stay. -/
theorem Records.same (records : e.Records past) (same : e.Same e') : e'.Records past where
  retained kept member := same.retained (records.retained kept member)
  recorded := by
    rw [same.cacheability]
    exact records.recorded
  lasting := records.lasting
  found := same.plans ▸ records.found

/-- A report is recorded beside the plans, which have it already. -/
theorem Orderly.recording (orderly : e.Orderly) (report : Cacheability) : (e.recording report).Orderly where
  keys := orderly.keys
  recorded kept member := by
    have known := orderly.recorded kept member
    simp only [Entry.recording, known, Option.getD_some]
  lasting := orderly.lasting
  detached := orderly.detached

/-- Noting what a plan depends on stores nothing. -/
theorem Records.recording (records : e.Records past) (report : Cacheability) : (e.recording report).Records past where
  retained := records.retained
  recorded kept member := by
    have known := records.recorded kept member
    simp only [Entry.recording, known, Option.getD_some]
  lasting := records.lasting
  found := records.found

/-- The entry with one more plan. -/
def adding (e : Entry) (key : List Bool) (p : Plan) : Entry :=
  { e.recording p.cacheability with plans := e.plans ++ [(key, p)] }

variable {p : Plan} {v : Bindings} {key : List Bool}

/-- A plan that is added under a new key keeps the order. -/
theorem Orderly.adding (orderly : e.Orderly) (retained : e.retained = true) (keyed : p.cacheability.key? v = some key)
    (agrees : (e.recording p.cacheability).cacheability = some p.cacheability) (absent : e.plans.lookup key = none) :
    (e.adding key p).Orderly where
  keys := by
    change ((e.plans ++ [(key, p)]).map Prod.fst).Nodup
    rw [List.map_append, List.map_singleton, ← List.concat_eq_append]
    refine List.Nodup.concat ?_ orderly.keys
    intro member
    obtain ⟨kept, there, rfl⟩ := List.mem_map.mp member
    simpa using List.lookup_eq_none_iff.mp absent kept there
  recorded kept member := by
    rcases List.mem_append.mp member with old | new
    · exact (orderly.recording p.cacheability).recorded kept old
    · cases List.mem_singleton.mp new
      exact agrees
  lasting kept member := by
    rcases List.mem_append.mp member with old | new
    · exact orderly.lasting kept old
    · cases List.mem_singleton.mp new
      exact Cacheability.ne_perValues_of_key? keyed
  detached apart := absurd (retained.symm.trans apart) Bool.false_ne_true.symm

/-- A plan that is accepted is found under its key if it is the first one. -/
theorem Records.append (records : e.Records past) (keyed : p.cacheability.key? v = some key)
    (agrees : (e.recording p.cacheability).cacheability = some p.cacheability) (retained : e'.retained = true)
    (same : e'.cacheability = (e.recording p.cacheability).cacheability)
    (found : ∀ key', e'.plans.lookup key' = (e.plans.lookup key').or (if key = key' then some p else none)) :
    e'.Records (past ++ [(p, v)]) where
  retained _ _ := retained
  recorded kept member := by
    rw [same]
    rcases List.mem_append.mp member with old | new
    · exact (records.recording p.cacheability).recorded kept old
    · cases List.mem_singleton.mp new
      exact agrees
  lasting kept member := by
    rcases List.mem_append.mp member with old | new
    · exact records.lasting kept old
    · cases List.mem_singleton.mp new
      exact Cacheability.ne_perValues_of_key? keyed
  found key' := by
    rw [found, records.found, List.find?_append, Option.map_or, List.find?_singleton, keyed]
    by_cases here : key = key'
    · simp [here]
    · simp [here]

/-- The first plan that was stored for the null flags of given values is the plan for them. -/
theorem Records.plan? (records : e.Records past) (v : Bindings) : e.plan? v =
    (past.find? fun kept => kept.1.cacheability.key? kept.2 = kept.1.cacheability.key? v).map Prod.fst := by
  unfold Entry.plan?
  cases recorded : e.cacheability with
  | none =>
    -- Nothing was stored without a report.
    cases past with
    | nil => rfl
    | cons kept rest =>
      have known := records.recorded kept List.mem_cons_self
      rw [recorded] at known
      cases known
  | some report =>
    change ((report.key? v).bind fun key => e.plans.lookup key) = _
    have reported : ∀ kept ∈ past, kept.1.cacheability = report := by
      intro kept member
      have known := records.recorded kept member
      rw [recorded] at known
      exact (Option.some.inj known).symm
    have same : past.find? (fun kept => kept.1.cacheability.key? kept.2 = kept.1.cacheability.key? v) =
        past.find? (fun kept => kept.1.cacheability.key? kept.2 = report.key? v) :=
      List.find?_congr fun kept member => by rw [reported kept member]
    rw [same]
    cases asked : report.key? v with
    | some key => exact records.found key
    | none =>
      -- Only a report without keys has none for some values, and nothing was stored with it.
      cases past with
      | nil => rfl
      | cons kept rest =>
        refine absurd ?_ (records.lasting kept List.mem_cons_self)
        rw [reported kept List.mem_cons_self]
        cases report with
        | perValues => rfl
        | _ => cases asked

end Entry

/-! ## What storing does -/

namespace PlanCache

/-- What a cache answers and becomes when it is asked to keep a plan. -/
inductive Stores (c : PlanCache) (h : Handle) (p : Plan) (v : Bindings) : Bool → PlanCache → Prop
  /-- Nothing changes for a detached entry or a plan without a key. -/
  | refused (reason : (c.entry h).retained = false ∨ p.cacheability.key? v = none) : Stores c h p v false c
  /-- The report differs, or there is no room: at most the report is kept. -/
  | unkept (retained : (c.entry h).retained = true) :
      Stores c h p v false (c.setEntry h ((c.entry h).recording p.cacheability))
  /-- There is a plan for the key. -/
  | known {key : List Bool} (retained : (c.entry h).retained = true) (keyed : p.cacheability.key? v = some key)
      (agrees : ((c.entry h).recording p.cacheability).cacheability = some p.cacheability)
      (there : ((c.entry h).plans.lookup key).isSome = true) :
      Stores c h p v true (c.setEntry h ((c.entry h).recording p.cacheability))
  /-- The plan is added and counted. -/
  | added {key : List Bool} (retained : (c.entry h).retained = true) (keyed : p.cacheability.key? v = some key)
      (agrees : ((c.entry h).recording p.cacheability).cacheability = some p.cacheability)
      (absent : (c.entry h).plans.lookup key = none) (room : c.planCount < c.maxEntries) :
      Stores c h p v true { c.setEntry h ((c.entry h).adding key p) with planCount := c.planCount + 1 }

/-- Storing does one of the things of `Stores`. -/
theorem stores_store (c : PlanCache) (h : Handle) (p : Plan) (v : Bindings) :
    Stores c h p v ((store h p v).run c).1 ((store h p v).run c).2 := by
  change Stores c h p v (store h p v c).1 (store h p v c).2
  unfold store
  dsimp only
  split
  next apart => exact .refused (.inl (Bool.not_eq_true' _ ▸ apart))
  next kept =>
    have retained : (c.entry h).retained = true := by simpa using kept
    split
    next keyed => exact .refused (.inr keyed)
    next key keyed =>
      split
      · exact .unkept retained
      next agrees =>
        have same : ((c.entry h).recording p.cacheability).cacheability = some p.cacheability :=
          congrArg some (Decidable.not_not.mp agrees)
        split
        next there => exact .known retained keyed same there
        next absent =>
          have missing : (c.entry h).plans.lookup key = none := Option.not_isSome_iff_eq_none.mp absent
          split
          next room => exact .added retained keyed same missing room
          next => exact .unkept retained

variable {c : PlanCache} {h h' : Handle} {e : Entry}

/-- Only a handle that was given out has an entry in the cache. -/
theorem lt_of_retained (retained : (c.entry h).retained = true) : h < c.entries.length := by
  by_contra outside
  unfold entry at retained
  rw [List.getElem?_eq_none (Nat.le_of_not_lt outside)] at retained
  cases retained

/-- An entry that is set is found. -/
theorem entry_setEntry_self (inside : h < c.entries.length) : (c.setEntry h e).entry h = e := by
  unfold entry setEntry
  rw [List.getElem?_set_self inside, Option.getD_some]

/-- The others stay. -/
theorem entry_setEntry_ne (other : h' ≠ h) : (c.setEntry h e).entry h' = c.entry h' := by
  unfold entry setEntry
  rw [List.getElem?_set_ne other.symm]

/-- A new entry is under the next handle, and nothing else changes. -/
theorem entry_concat (c : PlanCache) (e : Entry) (h : Handle) :
    ((c.entries ++ [e])[h]?).getD (.fresh false) = if h = c.entries.length then e else c.entry h := by
  unfold entry
  by_cases last : h = c.entries.length
  · subst last
    rw [if_pos rfl, List.getElem?_concat_length, Option.getD_some]
  · rw [if_neg last]
    rcases Nat.lt_or_gt_of_ne last with inside | outside
    · rw [List.getElem?_append_left inside]
    · rw [List.getElem?_eq_none (by simp; omega), List.getElem?_eq_none outside.le]

/-! ## Requests that keep the plans -/

/-- Setting an entry that has the same plans changes the plans of none. -/
theorem same_setEntry (same : (c.entry h).Same e) (h' : Handle) : (c.entry h').Same ((c.setEntry h e).entry h') := by
  by_cases here : h' = h
  · subst here
    rcases entry_setEntry c h' h' e with changed | kept
    · rw [changed]
      exact same
    · rw [kept]
      exact .refl _
  · rw [entry_setEntry_ne here]
    exact .refl _

/-- Only storing changes the plans of an entry. -/
theorem same_next (c : PlanCache) (request : CacheRequest) (other : request.isStore = false) (h : Handle) :
    (c.entry h).Same ((c.next request).entry h) := by
  have concat : ∀ retained, (c.entry h).Same (((c.entries ++ [.fresh retained])[h]?).getD (.fresh false)) := by
    intro retained
    rw [entry_concat]
    by_cases last : h = c.entries.length
    · rw [if_pos last, last]
      unfold entry
      rw [List.getElem?_eq_none (Nat.le_refl _)]
      exact ⟨rfl, rfl, fun kept => absurd kept Bool.false_ne_true⟩
    · rw [if_neg last]
      exact .refl _
  cases request with
  | shapeEntry s =>
    change (c.entry h).Same ((shapeEntry s c).2.entry h)
    unfold shapeEntry
    split
    · exact .refl _
    · dsimp only
      split
      · exact concat true
      · exact concat false
  | lookup h' v =>
    change (c.entry h).Same ((lookup h' v c).2.entry h)
    unfold lookup
    split <;> exact .refl _
  | store h' p v => cases other
  | lowered h' made =>
    change (c.entry h).Same ((lowered h' made c).2.entry h)
    unfold lowered
    dsimp only
    split
    · exact .refl _
    · split
      · refine same_setEntry ?_ h
        exact ⟨rfl, rfl, id⟩
      · exact .refl _
  | clear => exact .refl _

/-! ## Counters -/

/-- The counters of a cache stay within its bound and above what the cache holds. Every shape has its own entry. -/
structure Balanced (c : PlanCache) (maxEntries : Nat) : Prop where
  bound : c.maxEntries = maxEntries
  shapes : (c.shapes.map Prod.fst).Nodup
  handles : (c.shapes.map Prod.snd).Nodup
  retained : ∀ known ∈ c.shapes, (c.entry known.2).retained = true
  shapeCount_eq : c.shapeCount = c.shapes.length
  shapeCount_le : c.shapeCount ≤ maxEntries
  held_le : c.held.length ≤ c.planCount
  planCount_le : c.planCount ≤ maxEntries
  entries : ∀ h, (c.entry h).Orderly

/-- An empty cache has counted nothing. -/
theorem balanced_empty (maxEntries : Nat) : (empty maxEntries).Balanced maxEntries where
  bound := rfl
  shapes := List.nodup_nil
  handles := List.nodup_nil
  retained := List.forall_mem_nil _
  shapeCount_eq := rfl
  shapeCount_le := Nat.zero_le _
  held_le := Nat.le_refl _
  planCount_le := Nat.zero_le _
  entries _ := Entry.orderly_fresh false

variable {c' : PlanCache} {maxEntries : Nat}

/-- Entries with the same plans hold the same. -/
theorem held_eq_of_same (same : ∀ h, (c.entry h).Same (c'.entry h)) (shapes : c'.shapes = c.shapes) :
    c'.held = c.held := by
  unfold held
  rw [shapes]
  exact List.flatMap_congr fun known _ => (same known.2).plans

/-- A cache whose entries and shapes are those of another is as balanced. -/
theorem Balanced.same (balanced : c.Balanced maxEntries) (same : ∀ h, (c.entry h).Same (c'.entry h))
    (bound : c'.maxEntries = c.maxEntries) (shapes : c'.shapes = c.shapes) (shapeCount : c'.shapeCount = c.shapeCount)
    (planCount : c'.planCount = c.planCount) : c'.Balanced maxEntries where
  bound := bound.trans balanced.bound
  shapes := shapes ▸ balanced.shapes
  handles := shapes ▸ balanced.handles
  retained known member := (same known.2).retained (balanced.retained known (shapes ▸ member))
  shapeCount_eq := by rw [shapeCount, shapes, balanced.shapeCount_eq]
  shapeCount_le := shapeCount ▸ balanced.shapeCount_le
  held_le := by
    rw [held_eq_of_same same shapes, planCount]
    exact balanced.held_le
  planCount_le := planCount ▸ balanced.planCount_le
  entries h := (balanced.entries h).same (same h)

/-- A new shape holds nothing. -/
theorem held_eq_of_cons (same : ∀ h, (c.entry h).Same (c'.entry h)) {s : Shape}
    (shapes : c'.shapes = (s, h) :: c.shapes) (fresh : (c'.entry h).plans = []) : c'.held = c.held := by
  unfold held
  rw [shapes, List.flatMap_cons, fresh, List.nil_append]
  exact List.flatMap_congr fun known _ => (same known.2).plans

/-- Asking for the entry of a shape adds it as long as there is room. -/
theorem balanced_shapeEntry (balanced : c.Balanced maxEntries) (s : Shape) :
    (c.next (.shapeEntry s)).Balanced maxEntries := by
  have same := c.same_next (.shapeEntry s) rfl
  revert same
  change (∀ h, (c.entry h).Same ((shapeEntry s c).2.entry h)) → (shapeEntry s c).2.Balanced maxEntries
  unfold shapeEntry
  split
  · exact fun _ => balanced
  next unknown =>
    dsimp only
    split
    next room =>
      intro same
      -- The handle of the new shape is beyond all that were given out.
      have new : ∀ known ∈ c.shapes, known.2 ≠ c.entries.length :=
        fun known member => (lt_of_retained (balanced.retained known member)).ne
      have last := (entry_concat c (.fresh true) c.entries.length).trans (if_pos rfl)
      constructor
      · exact balanced.bound
      · refine List.nodup_cons.mpr ⟨?_, balanced.shapes⟩
        intro member
        obtain ⟨known, there, rfl⟩ := List.mem_map.mp member
        simpa using List.lookup_eq_none_iff.mp unknown known there
      · refine List.nodup_cons.mpr ⟨?_, balanced.handles⟩
        intro member
        obtain ⟨known, there, again⟩ := List.mem_map.mp member
        exact new known there again
      · intro known member
        rcases List.mem_cons.mp member with rfl | old
        · exact congrArg Entry.retained last
        · exact (same known.2).retained (balanced.retained known old)
      · exact congrArg (· + 1) balanced.shapeCount_eq
      · exact balanced.bound ▸ room
      · rw [held_eq_of_cons same rfl (congrArg Entry.plans last)]
        exact balanced.held_le
      · exact balanced.planCount_le
      · exact fun h => (balanced.entries h).same (same h)
    next =>
      intro same
      exact balanced.same same rfl rfl rfl rfl

/-- An entry with more plans adds them at most once, since no two shapes share an entry. -/
theorem held_setEntry_le (handles : (c.shapes.map Prod.snd).Nodup) {n : Nat}
    (more : e.plans.length ≤ (c.entry h).plans.length + n) : (c.setEntry h e).held.length ≤ c.held.length + n := by
  have each : ∀ shapes : List (Shape × Handle), (shapes.map Prod.snd).Nodup →
      (shapes.flatMap fun known => ((c.setEntry h e).entry known.2).plans).length ≤
        (shapes.flatMap fun known => (c.entry known.2).plans).length + n := by
    intro shapes
    induction shapes with
    | nil => exact fun _ => Nat.zero_le _
    | cons known rest ih =>
      intro distinct
      obtain ⟨absent, others⟩ := List.nodup_cons.mp distinct
      rw [List.flatMap_cons, List.flatMap_cons, List.length_append, List.length_append]
      by_cases here : known.2 = h
      · have unchanged : (rest.flatMap fun known => ((c.setEntry h e).entry known.2).plans) =
            rest.flatMap fun known => (c.entry known.2).plans := by
          refine List.flatMap_congr fun other member => ?_
          rw [entry_setEntry_ne]
          intro again
          exact absent (here ▸ again ▸ List.mem_map_of_mem member)
        have grown : ((c.setEntry h e).entry known.2).plans.length ≤ (c.entry known.2).plans.length + n := by
          rcases entry_setEntry c h known.2 e with changed | kept
          · rw [changed, here]
            exact more
          · rw [kept]
            exact Nat.le_add_right _ n
        rw [unchanged]
        omega
      · rw [entry_setEntry_ne here]
        have := ih others
        omega
  exact each c.shapes handles

/-- An entry may get as many plans more as are counted. -/
theorem Balanced.setEntry (balanced : c.Balanced maxEntries) (orderly : e.Orderly) (retained : e.retained = true)
    (n : Nat) (more : e.plans.length ≤ (c.entry h).plans.length + n) (room : c.planCount + n ≤ maxEntries) :
    Balanced { c.setEntry h e with planCount := c.planCount + n } maxEntries where
  bound := balanced.bound
  shapes := balanced.shapes
  handles := balanced.handles
  retained known member := by
    rcases entry_setEntry c h known.2 e with changed | kept
    · exact (congrArg Entry.retained changed).trans retained
    · exact (congrArg Entry.retained kept).trans (balanced.retained known member)
  shapeCount_eq := balanced.shapeCount_eq
  shapeCount_le := balanced.shapeCount_le
  held_le := (held_setEntry_le balanced.handles more).trans (Nat.add_le_add_right balanced.held_le n)
  planCount_le := room
  entries h' := by
    change ((c.setEntry h e).entry h').Orderly
    rcases entry_setEntry c h h' e with changed | kept
    · rw [changed]
      exact orderly
    · rw [kept]
      exact balanced.entries h'

variable {p : Plan} {v : Bindings} {answer : Bool}

/-- Storing counts a plan exactly where it adds one, and adds none where there is no room. -/
theorem Balanced.stores (balanced : c.Balanced maxEntries) (stores : Stores c h p v answer c') :
    c'.Balanced maxEntries := by
  have recorded := (balanced.entries h).recording p.cacheability
  cases stores with
  | refused reason => exact balanced
  | unkept retained => exact balanced.setEntry recorded retained 0 (Nat.le_refl _) balanced.planCount_le
  | known retained keyed agrees there =>
    exact balanced.setEntry recorded retained 0 (Nat.le_refl _) balanced.planCount_le
  | added retained keyed agrees absent room =>
    refine balanced.setEntry ((balanced.entries h).adding retained keyed agrees absent) retained 1 ?_ ?_
    · exact List.length_append.le
    · exact balanced.bound ▸ room

/-- One request keeps the counters balanced. -/
theorem balanced_next (balanced : c.Balanced maxEntries) (request : CacheRequest) :
    (c.next request).Balanced maxEntries := by
  cases request with
  | shapeEntry s => exact balanced_shapeEntry balanced s
  | store h p v => exact balanced.stores (c.stores_store h p v)
  | lookup h v =>
    have same := c.same_next (.lookup h v) rfl
    revert same
    change (∀ h', (c.entry h').Same ((lookup h v c).2.entry h')) → (lookup h v c).2.Balanced maxEntries
    unfold lookup
    split <;> exact fun same => balanced.same same rfl rfl rfl rfl
  | lowered h made =>
    have same := c.same_next (.lowered h made) rfl
    revert same
    change (∀ h', (c.entry h').Same ((lowered h made c).2.entry h')) → (lowered h made c).2.Balanced maxEntries
    unfold lowered
    dsimp only
    split
    · exact fun _ => balanced
    · split
      · exact fun same => balanced.same same rfl rfl rfl rfl
      · exact fun _ => balanced
  | clear =>
    exact {
      bound := balanced.bound
      shapes := List.nodup_nil
      handles := List.nodup_nil
      retained := List.forall_mem_nil _
      shapeCount_eq := rfl
      shapeCount_le := Nat.zero_le _
      held_le := Nat.le_refl _
      planCount_le := Nat.zero_le _
      entries := balanced.entries }

/-- Every history keeps the counters balanced. -/
theorem balanced_after (balanced : c.Balanced maxEntries) (history : List CacheRequest) :
    (c.after history).Balanced maxEntries := by
  induction history generalizing c with
  | nil => exact balanced
  | cons request rest ih => exact ih (balanced_next balanced request)

/-- Storing is neither a hit nor a miss. -/
theorem Stores.counters (stores : Stores c h p v answer c') : c'.hits = c.hits ∧ c'.misses = c.misses := by
  cases stores <;> exact ⟨rfl, rfl⟩

/-- One request counts itself if it is a look-up. -/
theorem counted_next (c : PlanCache) (request : CacheRequest) :
    (c.next request).hits + (c.next request).misses = c.hits + c.misses + if request.isLookup then 1 else 0 := by
  cases request with
  | shapeEntry s =>
    change (shapeEntry s c).2.hits + (shapeEntry s c).2.misses = _
    unfold shapeEntry
    split
    · rfl
    · dsimp only
      split <;> rfl
  | store h p v =>
    obtain ⟨hits, misses⟩ := (c.stores_store h p v).counters
    change ((store h p v).run c).2.hits + ((store h p v).run c).2.misses = _
    rw [hits, misses]
    rfl
  | lookup h v =>
    change (lookup h v c).2.hits + (lookup h v c).2.misses = c.hits + c.misses + 1
    unfold lookup
    split
    · exact Nat.add_right_comm c.hits 1 c.misses
    · rfl
  | lowered h made =>
    change (lowered h made c).2.hits + (lowered h made c).2.misses = _
    unfold lowered
    dsimp only
    split
    · rfl
    · split <;> rfl
  | clear => rfl

/-- A history counts its look-ups. -/
theorem counted_after (c : PlanCache) (history : List CacheRequest) :
    (c.after history).hits + (c.after history).misses = c.hits + c.misses + history.countP CacheRequest.isLookup := by
  induction history generalizing c with
  | nil => rfl
  | cons request rest ih =>
    have step := c.counted_next request
    have run := ih (c.next request)
    rw [List.countP_cons]
    change ((c.next request).after rest).hits + ((c.next request).after rest).misses = _
    omega

/-! ## What is found -/

variable {past : List (Plan × Bindings)}

/-- Storing under one handle leaves the entries of the others. -/
theorem Stores.entry_ne (stores : Stores c h p v answer c') (other : h' ≠ h) : c'.entry h' = c.entry h' := by
  cases stores with
  | refused => rfl
  | _ => exact entry_setEntry_ne other

/-- An entry keeps what is accepted, after what it kept before. -/
theorem Stores.records (stores : Stores c h p v answer c') (records : (c.entry h).Records past) :
    (c'.entry h).Records (past ++ if answer = true then [(p, v)] else []) := by
  have recorded := records.recording p.cacheability
  cases stores with
  | refused reason => simpa using records
  | unkept retained =>
    rw [entry_setEntry_self (lt_of_retained retained)]
    simpa using recorded
  | @known key retained keyed agrees there =>
    rw [entry_setEntry_self (lt_of_retained retained)]
    refine records.append keyed agrees retained rfl fun key' => ?_
    change (c.entry h).plans.lookup key' = _
    by_cases here : key = key'
    · subst here
      rw [Option.or_of_isSome there]
    · rw [if_neg here, Option.or_none]
  | @added key retained keyed agrees absent room =>
    change ((c.setEntry h ((c.entry h).adding key p)).entry h).Records (past ++ [(p, v)])
    rw [entry_setEntry_self (lt_of_retained retained)]
    refine records.append keyed agrees retained rfl fun key' => ?_
    change ((c.entry h).plans ++ [(key, p)]).lookup key' = _
    rw [List.lookup_append]
    congr 1
    by_cases here : key = key'
    · subst here
      rw [if_pos rfl, List.lookup_cons_self]
    · rw [if_neg here]
      refine List.lookup_eq_none_iff.mpr fun kept member => ?_
      cases List.mem_singleton.mp member
      simpa using Ne.symm here

/-- One request adds to what an entry keeps. -/
theorem records_next (records : (c.entry h).Records past) (request : CacheRequest) :
    ((c.next request).entry h).Records (past ++ c.accepted h request) := by
  cases request with
  | store h' p v =>
    have stores := c.stores_store h' p v
    change (((store h' p v).run c).2.entry h).Records
      (past ++ if h' = h ∧ ((store h' p v).run c).1 = true then [(p, v)] else [])
    by_cases here : h' = h
    · subst here
      simpa using stores.records records
    · rw [stores.entry_ne (Ne.symm here), if_neg (here ·.1), List.append_nil]
      exact records
  | _ =>
    refine (List.append_nil past).symm ▸ records.same (c.same_next _ rfl h)

/-- A history adds to what an entry keeps, request by request. -/
theorem records_after (records : (c.entry h).Records past) (history : List CacheRequest) :
    ((c.after history).entry h).Records (past ++ c.stored h history) := by
  induction history generalizing c past with
  | nil => exact (List.append_nil past).symm ▸ records
  | cons request rest ih =>
    have run := ih (records_next records request)
    rw [List.append_assoc] at run
    exact run

/-- What a look-up answers. -/
theorem lookup_fst (c : PlanCache) (h : Handle) (v : Bindings) : ((lookup h v).run c).1 = (c.entry h).plan? v := by
  change (lookup h v c).1 = _
  unfold lookup
  cases (c.entry h).plan? v <;> rfl

/-- Over every history the counters stay within the bound and above what the cache holds, and look-ups are counted.
A detached entry and a plan for its values only are refused, nothing of the kind is kept, and a look-up finds the
first plan that was stored under the handle for the same null flags. -/
theorem keeps_books (maxEntries : Nat) (history : List CacheRequest) :
    let c := (empty maxEntries).after history
    let stored := fun h => (empty maxEntries).stored h history
    c.Balanced maxEntries ∧
    c.hits + c.misses = history.countP CacheRequest.isLookup ∧
    (∀ h p v, (c.entry h).retained = false ∨ p.cacheability = .perValues → (store h p v).run c = (false, c)) ∧
    (∀ h, ∀ kept ∈ stored h, (c.entry h).retained = true ∧ kept.1.cacheability ≠ .perValues ∧
      (c.entry h).cacheability = some kept.1.cacheability) ∧
    ∀ h v, ((lookup h v).run c).1 =
      ((stored h).find? fun kept => kept.1.cacheability.key? kept.2 = kept.1.cacheability.key? v).map Prod.fst := by
  intro c stored
  have records : ∀ h, (c.entry h).Records (stored h) :=
    fun h => records_after (c := empty maxEntries) (Entry.records_fresh false) history
  refine ⟨balanced_after (balanced_empty maxEntries) history, ?_, ?_, ?_, ?_⟩
  · have counted := (empty maxEntries).counted_after history
    rw [counted]
    exact Nat.zero_add _
  · intro h p v reason
    change store h p v c = (false, c)
    unfold store
    rcases reason with apart | own
    · simp [apart]
    · simp [own, Cacheability.key?]
  · intro h kept member
    exact ⟨(records h).retained kept member, (records h).lasting kept member, (records h).recorded kept member⟩
  · intro h v
    rw [lookup_fst]
    exact (records h).plan? v

/-- A plan that reads a whole table. -/
def wholeTable : Plan :=
  ⟨⟨"Items", "i", [], none, [], none⟩, "SELECT * FROM \"Items\" AS i", [], .byShape⟩

/-- A plan is stored through the handle from before a clearing and takes the only room, so the handle of the same shape
from after it gets none. -/
def staleStore : List CacheRequest :=
  [.shapeEntry (.ofTable "Items" "i"), .clear, .shapeEntry (.ofTable "Items" "i"), .store 0 wholeTable ⟨[]⟩,
    .store 1 wholeTable ⟨[]⟩, .lookup 0 ⟨[]⟩]

/-- The plan is counted, is in no entry of the cache, and is found through the old handle only. -/
theorem keeps_books_staleStore :
    let c := (empty 1).after staleStore
    c.Balanced 1 ∧ c.held = [] ∧ c.planCount = 1 ∧ c.hits + c.misses = 1 ∧
      ((lookup 0 ⟨[]⟩).run c).1 = some wholeTable ∧ ((lookup 1 ⟨[]⟩).run c).1 = none := by
  intro c
  obtain ⟨balanced, counted, -, -, found⟩ := keeps_books 1 staleStore
  exact ⟨balanced, rfl, rfl, counted, found 0 ⟨[]⟩, found 1 ⟨[]⟩⟩

end PlanCache

end SqlShape
