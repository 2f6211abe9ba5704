import SqlShape.Compiler
import SqlShape.Proofs.Reuse

/-!
# Answers through a plan cache

An engine with a cache answers as the one without, whenever that one has an answer. The cache is faithful to its
compiler: what an entry keeps for a shape is what the compiler makes of that shape, and a plan stands under the
null flags of values for which it was made. Every request keeps the cache faithful (`Engine.faithful_next`), so it
is faithful after every history.

A plan that is found was made for other values with the same null flags. That it is the plan for the values at
hand is the soundness of the report (`Select.specialize_eq_of_key?_eq`).

Each handle has one shape for all time, also after the cache was cleared; `owner` says which. Handles are never
given out twice, so a handle from before a clearing cannot reach an entry made after it.
-/

namespace SqlShape

/-- A pair that a look-up finds is in the list. -/
theorem mem_of_lookup {κ ν : Type} [BEq κ] [LawfulBEq κ] {key : κ} {found : ν} {pairs : List (κ × ν)}
    (here : pairs.lookup key = some found) : (key, found) ∈ pairs := by
  obtain ⟨before, after, rfl, -⟩ := List.lookup_eq_some_iff.mp here
  exact List.mem_append_right before List.mem_cons_self

/-! ## Faithful caches -/

/-- What an entry keeps is what a compiler makes of a shape. -/
structure Entry.Faithful (c : Compiler) (s : Shape) (e : Entry) : Prop where
  lowered : ∀ l, e.lowered = some l → c.lower s = .ok l
  plans : ∀ key p, (key, p) ∈ e.plans → e.cacheability = some p.cacheability ∧
    ∃ l v, c.lower s = .ok l ∧ c.planOf l v = .ok p ∧ p.cacheability.key? v = some key

/-- A fresh entry keeps nothing. -/
theorem Entry.faithful_fresh (c : Compiler) (s : Shape) (retained : Bool) :
    (Entry.fresh retained).Faithful c s := by
  constructor
  · intro l kept
    cases kept
  · intro key p member
    cases member

namespace PlanCache

/-- Every entry is faithful to the shape that owns its handle. -/
structure Faithful (c : Compiler) (owner : Handle → Shape) (cache : PlanCache) : Prop where
  shapes : ∀ s h, (s, h) ∈ cache.shapes → h < cache.entries.length ∧ owner h = s
  entries : ∀ h, (cache.entry h).Faithful c (owner h)

variable {c : Compiler} {owner : Handle → Shape} {cache : PlanCache}

/-- An empty cache keeps nothing. -/
theorem faithful_empty (c : Compiler) (owner : Handle → Shape) (maxEntries : Nat) :
    (PlanCache.empty maxEntries).Faithful c owner := by
  constructor
  · intro s h member
    cases member
  · intro h
    exact Entry.faithful_fresh c (owner h) false

/-- The entry under a handle after an entry was replaced. -/
theorem entry_setEntry (cache : PlanCache) (h h' : Handle) (e : Entry) :
    (cache.setEntry h e).entry h' = e ∨ (cache.setEntry h e).entry h' = cache.entry h' := by
  unfold entry setEntry
  rw [List.getElem?_set]
  split
  next same =>
    subst same
    split
    next => exact .inl rfl
    next outside =>
      right
      rw [List.getElem?_eq_none (Nat.le_of_not_lt outside)]
  next => exact .inr rfl

/-- An entry may be replaced by another that is faithful. -/
theorem Faithful.setEntry (faithful : cache.Faithful c owner) {h : Handle} {e : Entry}
    (replaced : e.Faithful c (owner h)) : (cache.setEntry h e).Faithful c owner := by
  constructor
  · intro s h' member
    obtain ⟨bounded, owned⟩ := faithful.shapes s h' member
    refine ⟨?_, owned⟩
    simpa only [PlanCache.setEntry, List.length_set] using bounded
  · intro h'
    by_cases same : h' = h
    · subst same
      rcases entry_setEntry cache h' h' e with found | found
      · rw [found]
        exact replaced
      · rw [found]
        exact faithful.entries h'
    · have found : (cache.setEntry h e).entry h' = cache.entry h' := by
        unfold PlanCache.entry PlanCache.setEntry
        rw [List.getElem?_set_ne (Ne.symm same)]
      rw [found]
      exact faithful.entries h'

/-! ## What the operations of a cache do -/

/-- The handle of a shape is owned by it. -/
theorem faithful_shapeEntry (faithful : cache.Faithful c owner) (s : Shape) :
    ∃ owner', ((shapeEntry s).run cache).2.Faithful c owner' ∧ owner' ((shapeEntry s).run cache).1 = s := by
  have opened : (shapeEntry s).run cache = shapeEntry s cache := rfl
  rw [opened]
  unfold shapeEntry
  split
  next h known =>
    exact ⟨owner, faithful, (faithful.shapes s h (mem_of_lookup known)).2⟩
  next =>
    -- A new handle: it is past all entries, so no shape in the cache owns it.
    have grown : ∀ (retained : Bool) (shapes : List (Shape × Handle)) (count : Nat),
        (∀ s' h', (s', h') ∈ shapes → (s', h') = (s, cache.entries.length) ∨ (s', h') ∈ cache.shapes) →
        PlanCache.Faithful c (fun h => if h = cache.entries.length then s else owner h)
          { cache with entries := cache.entries ++ [.fresh retained], shapes := shapes, shapeCount := count } := by
      intro retained shapes count known
      constructor
      · intro s' h' member
        rcases known s' h' member with same | old
        · cases same
          refine ⟨?_, if_pos rfl⟩
          rw [List.length_append]
          exact Nat.lt_succ_self _
        · obtain ⟨bounded, owned⟩ := faithful.shapes s' h' old
          refine ⟨?_, ?_⟩
          · rw [List.length_append]
            exact Nat.lt_succ_of_lt bounded
          · rw [if_neg (Nat.ne_of_lt bounded)]
            exact owned
      · intro h
        rcases Nat.lt_trichotomy h cache.entries.length with before | rfl | after
        · have old := faithful.entries h
          simp only [if_neg (Nat.ne_of_lt before)]
          unfold PlanCache.entry at old ⊢
          rw [List.getElem?_append_left before]
          exact old
        · unfold PlanCache.entry
          rw [List.getElem?_concat_length]
          exact Entry.faithful_fresh c _ retained
        · unfold PlanCache.entry
          rw [List.getElem?_eq_none (by rw [List.length_append]; exact after)]
          exact Entry.faithful_fresh c _ false
    split
    next =>
      refine ⟨_, grown true _ _ ?_, if_pos rfl⟩
      intro s' h' member
      exact List.mem_cons.mp member
    next =>
      refine ⟨_, grown false _ _ ?_, if_pos rfl⟩
      intro s' h' member
      exact .inr member

/-- A look-up only counts. -/
theorem faithful_lookup (faithful : cache.Faithful c owner) (h : Handle) (v : Bindings) :
    ((lookup h v).run cache).2.Faithful c owner := by
  have opened : (lookup h v).run cache = lookup h v cache := rfl
  rw [opened]
  unfold lookup
  split
  · exact ⟨faithful.shapes, faithful.entries⟩
  · exact ⟨faithful.shapes, faithful.entries⟩

/-- A plan that is found was made of the shape, for values with the same null flags. -/
theorem plan_of_lookup (faithful : cache.Faithful c owner) {h : Handle} {v : Bindings} {p : Plan}
    (found : ((lookup h v).run cache).1 = some p) :
    ∃ l v₀ key, c.lower (owner h) = .ok l ∧ c.planOf l v₀ = .ok p ∧ p.cacheability.key? v₀ = some key ∧
      p.cacheability.key? v = some key := by
  have hit : (cache.entry h).plan? v = some p := by
    have opened : (lookup h v).run cache = lookup h v cache := rfl
    rw [opened] at found
    unfold lookup at found
    split at found
    next p' hit =>
      cases found
      exact hit
    next => cases found
  obtain ⟨report, recorded, later⟩ := Option.bind_eq_some_iff.mp hit
  obtain ⟨key, asked, kept⟩ := Option.bind_eq_some_iff.mp later
  obtain ⟨reported, l, v₀, lowered, made, stored⟩ := (faithful.entries h).plans key p (mem_of_lookup kept)
  have same : report = p.cacheability := Option.some.inj (recorded.symm.trans reported)
  subst same
  exact ⟨l, v₀, key, lowered, made, stored, asked⟩

/-- The lowered statement of an entry is what lowering its shape gives. -/
theorem faithful_lowered (faithful : cache.Faithful c owner) (h : Handle) :
    ((lowered h (c.lower (owner h))).run cache).1 = c.lower (owner h) ∧
      ((lowered h (c.lower (owner h))).run cache).2.Faithful c owner := by
  have opened : (lowered h (c.lower (owner h))).run cache = lowered h (c.lower (owner h)) cache := rfl
  have entry := faithful.entries h
  rw [opened]
  unfold lowered
  dsimp only
  cases kept : (cache.entry h).lowered with
  | some l => exact ⟨(entry.lowered l kept).symm, faithful⟩
  | none =>
    cases made : c.lower (owner h) with
    | ok l =>
      refine ⟨rfl, faithful.setEntry ⟨?_, entry.plans⟩⟩
      intro l' same
      cases same
      exact made
    | error refusal => exact ⟨rfl, faithful⟩

/-- A plan of the shape that owns a handle may be kept under it. -/
theorem faithful_store (faithful : cache.Faithful c owner) {h : Handle} {l : Select String} {v : Bindings}
    {p : Plan} (lowered : c.lower (owner h) = .ok l) (made : c.planOf l v = .ok p) :
    ((store h p v).run cache).2.Faithful c owner := by
  have opened : (store h p v).run cache = store h p v cache := rfl
  have entry := faithful.entries h
  rw [opened]
  unfold store
  dsimp only
  split
  · exact faithful
  · split
    next => exact faithful
    next key asked =>
      -- Recording the report changes nothing for the plans: an entry with plans has recorded theirs.
      have kept : Entry.Faithful c (owner h) { cache.entry h with
          cacheability := some ((cache.entry h).cacheability.getD p.cacheability) } := by
        refine ⟨entry.lowered, ?_⟩
        intro key' p' member
        obtain ⟨recorded, made'⟩ := entry.plans key' p' member
        refine ⟨?_, made'⟩
        rw [recorded, Option.getD_some]
      split
      · exact faithful.setEntry kept
      next agrees =>
        have same : (cache.entry h).cacheability.getD p.cacheability = p.cacheability :=
          Decidable.not_not.mp agrees
        split
        · exact faithful.setEntry kept
        · split
          · have added : Entry.Faithful c (owner h) { cache.entry h with
                cacheability := some ((cache.entry h).cacheability.getD p.cacheability)
                plans := (cache.entry h).plans ++ [(key, p)] } := by
              refine ⟨entry.lowered, ?_⟩
              intro key' p' member
              rcases List.mem_append.mp member with old | new
              · exact kept.plans key' p' old
              · cases List.mem_singleton.mp new
                exact ⟨congrArg some same, l, v, lowered, made, asked⟩
            have replaced := faithful.setEntry added
            exact ⟨replaced.shapes, replaced.entries⟩
          · exact faithful.setEntry kept

/-- Clearing forgets the shapes and leaves the entries to their handles. -/
theorem faithful_clear (faithful : cache.Faithful c owner) : (PlanCache.clear.run cache).2.Faithful c owner := by
  constructor
  · intro s h member
    cases member
  · exact faithful.entries

end PlanCache

/-! ## Steps over a cache -/

namespace Compiler

variable {α β : Type}

/-- A condition on what a step gives and on the cache that it leaves. -/
def Ensures (f : Cached α) (cache : PlanCache) (post : Except QueryError α → PlanCache → Prop) : Prop :=
  post (f.run.run cache).1 (f.run.run cache).2

/-- A condition on the first part of a composed step: the second part starts from the cache that it leaves, and a
refusal ends with it. -/
abbrev Continues (g : α → Cached β) (post : Except QueryError β → PlanCache → Prop) :
    Except QueryError α → PlanCache → Prop
  | .ok x, cache => Ensures (g x) cache post
  | .error refusal, cache => post (.error refusal) cache

/-- After a composed step. -/
theorem ensures_bind {f : Cached α} {g : α → Cached β} {cache : PlanCache}
    {post : Except QueryError β → PlanCache → Prop} (first : Ensures f cache (Continues g post)) :
    Ensures (f >>= g) cache post := by
  unfold Ensures at first ⊢
  rw [ExceptT.run_bind, StateT.run_bind]
  generalize f.run.run cache = left at first ⊢
  rcases left with ⟨refusal | x, cache'⟩
  · exact first
  · exact first

/-- After a check: the cache is as before. -/
theorem ensures_check {x : Except QueryError α} {cache : PlanCache} {post : Except QueryError α → PlanCache → Prop}
    (after : post x cache) : Ensures (liftM x) cache post :=
  after

/-- After an operation of the cache. -/
theorem ensures_state {f : StateM PlanCache α} {cache : PlanCache} {post : Except QueryError α → PlanCache → Prop}
    (after : post (.ok (f.run cache).1) (f.run cache).2) : Ensures (liftM f) cache post :=
  after

/-- After an operation of the cache that may be refused. -/
theorem ensures_mk {f : StateM PlanCache (Except QueryError α)} {cache : PlanCache}
    {post : Except QueryError α → PlanCache → Prop} (after : post (f.run cache).1 (f.run cache).2) :
    Ensures (ExceptT.mk f) cache post :=
  after

/-- The answer of a step that stands for a direct one: it is the direct answer where there is one, and the cache
is faithful. -/
def Answers (c : Compiler) (direct : Except QueryError α) (outcome : Except QueryError α) (cache : PlanCache) :
    Prop :=
  (∃ owner, cache.Faithful c owner) ∧ ∀ x, direct = .ok x → outcome = .ok x

/-- Two plans of a statement are one plan if the report of the first has one key for the values of both. -/
theorem planOf_eq_of_key?_eq {c : Compiler} {l : Select String} {v₁ v₂ : Bindings} {p₁ p₂ : Plan}
    {key : List Bool} (first : c.planOf l v₁ = .ok p₁) (second : c.planOf l v₂ = .ok p₂)
    (key₁ : p₁.cacheability.key? v₁ = some key) (key₂ : p₁.cacheability.key? v₂ = some key) : p₁ = p₂ := by
  unfold planOf at first second
  obtain ⟨r₁, special₁, later₁⟩ := bind_eq_ok.mp first
  obtain ⟨text₁, written₁, rest₁⟩ := bind_eq_ok.mp later₁
  obtain ⟨r₂, special₂, later₂⟩ := bind_eq_ok.mp second
  obtain ⟨text₂, written₂, rest₂⟩ := bind_eq_ok.mp later₂
  cases rest₁
  cases rest₂
  have same : r₁ = r₂ :=
    Select.specialize_eq_of_key?_eq special₁ special₂ (Cacheability.ne_perValues_of_key? key₁) (key₁.trans key₂.symm)
  subst same
  rw [written₁] at written₂
  cases written₂
  rfl

/-- A plan of a shape may serve given values: no parameter is missing, and the plan was made for values with the same
null flags. -/
def Reuses (c : Compiler) (s : Shape) (v : Bindings) (p : Plan) : Prop :=
  requireParameters s v = .ok () ∧
    ∃ l v₀ key, c.lower s = .ok l ∧ c.planOf l v₀ = .ok p ∧ p.cacheability.key? v₀ = some key ∧
      p.cacheability.key? v = some key

/-- A plan that may serve is the plan, where there is one. -/
theorem Reuses.eq {c : Compiler} {s : Shape} {v : Bindings} {p q : Plan} (reuses : c.Reuses s v p)
    (direct : c.plan s v = .ok q) : p = q := by
  obtain ⟨-, l, v₀, key, lowered, made, stored, asked⟩ := reuses
  obtain ⟨_, -, later⟩ := bind_eq_ok.mp direct
  obtain ⟨l', lowered', planned⟩ := bind_eq_ok.mp later
  rw [lowered] at lowered'
  cases lowered'
  exact planOf_eq_of_key?_eq made planned stored asked

/-- Lowering through a faithful cache ends as without it. -/
theorem lowerCached_eq (c : Compiler) {owner : Handle → Shape} {cache : PlanCache}
    (faithful : cache.Faithful c owner) (s : Shape) :
    Ensures (c.lowerCached s) cache fun outcome cache' => (∃ owner, cache'.Faithful c owner) ∧ outcome = c.lower s := by
  unfold lowerCached
  refine ensures_bind (ensures_state ?_)
  obtain ⟨owner', faithful', owned⟩ := PlanCache.faithful_shapeEntry faithful s
  obtain ⟨found, kept⟩ := PlanCache.faithful_lowered faithful' ((PlanCache.shapeEntry s).run cache).1
  rw [owned] at found kept
  exact ⟨⟨owner', kept⟩, found⟩

theorem lowerCached_answers (c : Compiler) {owner : Handle → Shape} {cache : PlanCache}
    (faithful : cache.Faithful c owner) (s : Shape) : Ensures (c.lowerCached s) cache (c.Answers (c.lower s)) := by
  obtain ⟨kept, same⟩ := c.lowerCached_eq faithful s
  exact ⟨kept, fun l direct => same.trans direct⟩

/-- Planning through a faithful cache ends as without it, or finds a plan that may serve. -/
theorem planCached_cases (c : Compiler) {owner : Handle → Shape} {cache : PlanCache}
    (faithful : cache.Faithful c owner) (s : Shape) (v : Bindings) :
    Ensures (c.planCached s v) cache fun outcome cache' => (∃ owner, cache'.Faithful c owner) ∧
      (outcome = c.plan s v ∨ ∃ p, outcome = .ok p ∧ c.Reuses s v p) := by
  unfold planCached
  refine ensures_bind (ensures_check ?_)
  cases required : requireParameters s v with
  | error refusal =>
    refine ⟨⟨owner, faithful⟩, .inl ?_⟩
    unfold plan
    rw [required]
    rfl
  | ok all =>
    have direct : c.plan s v = (c.lower s).bind fun l => c.planOf l v := by
      unfold plan
      rw [required]
      rfl
    rw [direct]
    obtain ⟨owner', faithful', owned⟩ := PlanCache.faithful_shapeEntry faithful s
    refine ensures_bind (ensures_state ?_)
    refine ensures_bind (ensures_state ?_)
    have counted := PlanCache.faithful_lookup faithful' ((PlanCache.shapeEntry s).run cache).1 v
    cases found : ((PlanCache.lookup ((PlanCache.shapeEntry s).run cache).1 v).run
        ((PlanCache.shapeEntry s).run cache).2).1 with
    | some kept =>
      -- A hit: the plan was made for other values with the same key.
      have made := PlanCache.plan_of_lookup faithful' found
      rw [owned] at made
      exact ⟨⟨owner', counted⟩, .inr ⟨kept, rfl, required, made⟩⟩
    | none =>
      -- A miss: the plan is made of the lowered statement, and kept where there is room.
      obtain ⟨same, kept⟩ := PlanCache.faithful_lowered counted ((PlanCache.shapeEntry s).run cache).1
      rw [owned] at same kept
      refine ensures_bind (ensures_mk ?_)
      rw [same]
      cases lowered : c.lower s with
      | error refusal =>
        rw [lowered] at kept
        exact ⟨⟨owner', kept⟩, .inl rfl⟩
      | ok l =>
        rw [lowered] at kept
        refine ensures_bind (ensures_check ?_)
        cases made : c.planOf l v with
        | error refusal => exact ⟨⟨owner', kept⟩, .inl made.symm⟩
        | ok p =>
          refine ensures_bind (ensures_state ?_)
          rw [← owned] at lowered
          exact ⟨⟨owner', PlanCache.faithful_store kept lowered made⟩, .inl made.symm⟩

/-- Planning through a faithful cache. -/
theorem planCached_answers (c : Compiler) {owner : Handle → Shape} {cache : PlanCache}
    (faithful : cache.Faithful c owner) (s : Shape) (v : Bindings) :
    Ensures (c.planCached s v) cache (c.Answers (c.plan s v)) := by
  obtain ⟨kept, outcome⟩ := c.planCached_cases faithful s v
  refine ⟨kept, fun q direct => ?_⟩
  rcases outcome with same | ⟨p, found, reuses⟩
  · exact same.trans direct
  · rw [found, reuses.eq direct]

/-- The compiler of checked settings has their dialect and names placeholders by an identifier. -/
theorem of_ofConfig {config : Config} {c : Compiler} (made : ofConfig config = .ok c) :
    c.dialect = config.dialect ∧ c.dialect.lowering = .ok c.lowering ∧
      Config.isIdentifier c.options.namePrefix = true := by
  unfold ofConfig at made
  split at made
  · cases made
  next checked =>
    obtain ⟨lowering, found, rest⟩ := bind_eq_ok.mp made
    cases rest
    refine ⟨rfl, found, ?_⟩
    unfold Config.check at checked
    split at checked
    · cases checked
    next valid => simpa only [Bool.not_eq_true', Bool.not_eq_false] using valid

end Compiler

/-! ## Engines and their histories -/

/-- What an engine is asked for. -/
inductive Request where
  | lower (s : Shape)
  | plan (s : Shape) (v : Bindings)
  | compile (s : Shape) (v : Bindings)
  | clear

namespace Engine

/-- The engine after a request. -/
def next (e : Engine) : Request → Engine
  | .lower s => (e.lower s).2
  | .plan s v => (e.plan s v).2
  | .compile s v => (e.compile s v).2
  | .clear => e.clear.getD e

/-- The engine after a history of requests, the first one first. -/
def after (e : Engine) (history : List Request) : Engine :=
  history.foldl next e

/-- An engine of a compiler, with a faithful cache. -/
def Faithful (c : Compiler) (e : Engine) : Prop :=
  ∃ owner cache, e = ⟨c, some cache⟩ ∧ cache.Faithful c owner

variable {α : Type} {c : Compiler} {e : Engine}

/-- An engine answers as its step over the cache does. -/
theorem run_answers {direct : Except QueryError α} {cached : Compiler.Cached α} {cache : PlanCache}
    (step : Compiler.Ensures cached cache (c.Answers direct)) :
    Faithful c (run ⟨c, some cache⟩ direct cached).2 ∧
      ∀ x, direct = .ok x → (run ⟨c, some cache⟩ direct cached).1 = .ok x := by
  obtain ⟨⟨owner, faithful⟩, answer⟩ := step
  exact ⟨⟨owner, _, rfl, faithful⟩, answer⟩

/-- Lowering by an engine with a faithful cache. -/
theorem lower_answers (faithful : Faithful c e) (s : Shape) :
    Faithful c (e.lower s).2 ∧ ∀ l, c.lower s = .ok l → (e.lower s).1 = .ok l := by
  obtain ⟨owner, cache, rfl, kept⟩ := faithful
  exact run_answers (c.lowerCached_answers kept s)

/-- Planning by an engine with a faithful cache. -/
theorem plan_answers (faithful : Faithful c e) (s : Shape) (v : Bindings) :
    Faithful c (e.plan s v).2 ∧ ∀ p, c.plan s v = .ok p → (e.plan s v).1 = .ok p := by
  obtain ⟨owner, cache, rfl, kept⟩ := faithful
  exact run_answers (c.planCached_answers kept s v)

/-- Compiling by an engine with a faithful cache. -/
theorem compile_answers (faithful : Faithful c e) (s : Shape) (v : Bindings) :
    Faithful c (e.compile s v).2 ∧ ∀ command, c.compile s v = .ok command → (e.compile s v).1 = .ok command := by
  obtain ⟨kept, answer⟩ := plan_answers faithful s v
  refine ⟨kept, ?_⟩
  intro command direct
  obtain ⟨p, planned, bound⟩ := bind_eq_ok.mp direct
  have opened : (e.compile s v).1 = (e.plan s v).1.bind (Plan.command · v) := rfl
  rw [opened, answer p planned]
  exact bound

/-- Every request keeps the cache faithful. -/
theorem faithful_next (faithful : Faithful c e) (request : Request) : Faithful c (e.next request) := by
  cases request with
  | lower s => exact (lower_answers faithful s).1
  | plan s v => exact (plan_answers faithful s v).1
  | compile s v => exact (compile_answers faithful s v).1
  | clear =>
    obtain ⟨owner, cache, rfl, kept⟩ := faithful
    exact ⟨owner, _, rfl, PlanCache.faithful_clear kept⟩

/-- So does every history. -/
theorem faithful_after (faithful : Faithful c e) (history : List Request) : Faithful c (e.after history) := by
  induction history generalizing e with
  | nil => exact faithful
  | cons request rest later => exact later (faithful_next faithful request)

/-- An engine starts with a faithful cache where its settings have one. -/
theorem faithful_ofConfig {config : Config} (enabled : config.cache.enabled = true)
    (made : ofConfig config = .ok e) :
    Faithful e.compiler e := by
  unfold ofConfig at made
  obtain ⟨compiler, -, rest⟩ := bind_eq_ok.mp made
  rw [enabled] at rest
  cases rest
  exact ⟨fun _ => .ofTable "" "", _, rfl, PlanCache.faithful_empty _ _ _⟩

/-- An engine without a cache is the same after every history. -/
theorem after_uncached (c : Compiler) (history : List Request) : after ⟨c, none⟩ history = ⟨c, none⟩ := by
  induction history with
  | nil => rfl
  | cons request rest later =>
    have same : next ⟨c, none⟩ request = ⟨c, none⟩ := by
      cases request <;> rfl
    change after (next ⟨c, none⟩ request) rest = _
    rw [same]
    exact later

/-- After every history an engine has its compiler, and no cache or a faithful one. -/
theorem after_ofConfig {config : Config} (made : ofConfig config = .ok e) (history : List Request) :
    e.after history = ⟨e.compiler, none⟩ ∨ Faithful e.compiler (e.after history) := by
  by_cases enabled : config.cache.enabled = true
  · exact .inr (faithful_after (faithful_ofConfig enabled made) history)
  · left
    unfold ofConfig at made
    obtain ⟨compiler, -, rest⟩ := bind_eq_ok.mp made
    rw [if_neg enabled] at rest
    cases rest
    exact after_uncached compiler history

/-- The compiler of settings lowers for its dialect. -/
theorem lowering_ofConfig {config : Config} (made : ofConfig config = .ok e) :
    e.compiler.dialect.lowering = .ok e.compiler.lowering := by
  obtain ⟨compiler, compiled, rest⟩ := bind_eq_ok.mp made
  cases rest
  exact (Compiler.of_ofConfig compiled).2.1

/-- After every history an engine lowers as its compiler does. -/
theorem lower_eq {config : Config} (made : ofConfig config = .ok e) (history : List Request) (s : Shape) :
    ((e.after history).lower s).1 = e.compiler.lower s := by
  rcases after_ofConfig made history with uncached | ⟨owner, cache, cached, kept⟩
  · rw [uncached]
    rfl
  · rw [cached]
    exact (e.compiler.lowerCached_eq kept s).2

/-- After every history an engine plans as its compiler does, or finds a plan that may serve. -/
theorem plan_cases {config : Config} (made : ofConfig config = .ok e) (history : List Request) (s : Shape)
    (v : Bindings) : ((e.after history).plan s v).1 = e.compiler.plan s v ∨
      ∃ p, ((e.after history).plan s v).1 = .ok p ∧ e.compiler.Reuses s v p := by
  rcases after_ofConfig made history with uncached | ⟨owner, cache, cached, kept⟩
  · rw [uncached]
    exact .inl rfl
  · rw [cached]
    exact (e.compiler.planCached_cases kept s v).2

/-- Without its cache, an engine has the same compiler. -/
theorem ofConfig_disabled {config : Config} (made : ofConfig config = .ok e) :
    ofConfig { config with cache := { config.cache with enabled := false } } = .ok ⟨e.compiler, none⟩ := by
  unfold ofConfig at made ⊢
  obtain ⟨compiler, compiled, rest⟩ := bind_eq_ok.mp made
  cases rest
  have same : Compiler.ofConfig { config with cache := { config.cache with enabled := false } } = .ok compiler := by
    unfold Compiler.ofConfig Config.check at compiled ⊢
    split at compiled
    next => cases compiled
    next checked =>
      split at checked
      next => cases checked
      next named =>
        rw [if_neg named]
        exact compiled
  rw [same]
  rfl

/-- A cache changes no answer. An engine with a cache, after any history, plans and compiles as the engine with
the same settings and no cache, wherever that one has an answer. -/
theorem cached_answers_direct (config : Config) (enabled : config.cache.enabled = true) {cached : Engine}
    (made : ofConfig config = .ok cached) :
    ∃ direct, ofConfig { config with cache := { config.cache with enabled := false } } = .ok direct ∧
      ∀ (history : List Request) (s : Shape) (v : Bindings),
        (∀ p, (direct.plan s v).1 = .ok p → ((cached.after history).plan s v).1 = .ok p) ∧
        (∀ command, (direct.compile s v).1 = .ok command →
          ((cached.after history).compile s v).1 = .ok command) := by
  refine ⟨_, ofConfig_disabled made, ?_⟩
  intro history s v
  have faithful := faithful_after (faithful_ofConfig enabled made) history
  exact ⟨(plan_answers faithful s v).2, (compile_answers faithful s v).2⟩

/-- The rows whose nullable name is a given one. -/
def byName : Shape :=
  (Shape.ofTable "Blogs" "b").filter (.binary .equal (.column "b" "Name" .text true) (.parameter "name" .text))

/-- After the null name, which leaves another plan in the cache, a text is compiled as it is without the cache;
so it is after a plan for another text, which has the same key. -/
theorem cached_answers_byName :
    ∃ cached direct command, ofConfig {} = .ok cached ∧ ofConfig { cache := { enabled := false } } = .ok direct ∧
      (direct.compile byName ⟨[("name", .text "a")]⟩).1 = .ok command ∧
      ((cached.after [.compile byName ⟨[("name", .null)]⟩, .clear, .plan byName ⟨[("name", .text "b")]⟩]).compile
        byName ⟨[("name", .text "a")]⟩).1 = .ok command := by
  obtain ⟨cached, made⟩ : ∃ cached, ofConfig {} = .ok cached := ⟨_, rfl⟩
  obtain ⟨direct, plain, same⟩ := cached_answers_direct {} rfl made
  obtain ⟨command, compiled⟩ : ∃ command, (direct.compile byName ⟨[("name", .text "a")]⟩).1 = .ok command := by
    cases plain
    exact ⟨_, rfl⟩
  exact ⟨cached, direct, command, made, plain, compiled, (same _ _ _).2 command compiled⟩

end Engine

end SqlShape
