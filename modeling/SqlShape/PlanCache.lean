import SqlShape.Plan
import SqlShape.Query.Shape

/-!
# The plan cache

A cache keeps one entry for each shape: its lowered statement and its plans, told apart by the null flags on
which they depend. Shapes and plans are each kept up to a bound. An entry for which there was no room is
detached: it can be used and keeps no plans.

Entries are reached by handles. A handle stays good after the cache is cleared, and a plan stored through it
still counts.
-/

namespace SqlShape

/-- What is kept for one shape. -/
structure Entry where
  lowered : Option (Select String)
  cacheability : Option Cacheability
  /-- Plans by null flags, in the order in which they were stored. -/
  plans : List (List Bool × Plan)
  /-- The entry is in the cache, not detached. -/
  retained : Bool

namespace Entry

/-- An entry that keeps nothing yet. -/
def fresh (retained : Bool) : Entry :=
  ⟨none, none, [], retained⟩

/-- The plan for given values. -/
def plan? (e : Entry) (b : Bindings) : Option Plan := do
  let c ← e.cacheability
  let key ← c.key? b
  e.plans.lookup key

end Entry

/-- The place of an entry among all that were handed out. -/
abbrev Handle :=
  Nat

/-- Entries by shape, with counters. -/
structure PlanCache where
  maxEntries : Nat
  /-- All entries that were handed out, by handle. -/
  entries : List Entry
  /-- The handles of the shapes in the cache. -/
  shapes : List (Shape × Handle)
  shapeCount : Nat
  planCount : Nat
  /-- Plans that were found. The counters have no bound: none is taken to wrap. -/
  hits : Nat
  misses : Nat

/-- The counters that a cache shows. -/
structure CacheStats where
  shapes : Nat
  plans : Nat
  hits : Nat
  misses : Nat
deriving DecidableEq, Repr

namespace PlanCache

/-- An empty cache with a bound. -/
def empty (maxEntries : Nat) : PlanCache :=
  ⟨maxEntries, [], [], 0, 0, 0, 0⟩

/-- The entry of a handle. A handle that was never given out has a detached one. -/
def entry (c : PlanCache) (h : Handle) : Entry :=
  (c.entries[h]?).getD (.fresh false)

/-- The cache with another entry under a handle. -/
def setEntry (c : PlanCache) (h : Handle) (e : Entry) : PlanCache :=
  { c with entries := c.entries.set h e }

/-- The handle of a shape, whose entry is made on first use. -/
def shapeEntry (s : Shape) : StateM PlanCache Handle := fun c =>
  match c.shapes.lookup s with
  | some h => (h, c)
  | none =>
    let h := c.entries.length
    if c.shapeCount < c.maxEntries then
      (h, { c with
        entries := c.entries ++ [.fresh true]
        shapes := (s, h) :: c.shapes
        shapeCount := c.shapeCount + 1 })
    else (h, { c with entries := c.entries ++ [.fresh false] })

/-- The plan of an entry for given values, counted as a hit or a miss. -/
def lookup (h : Handle) (b : Bindings) : StateM PlanCache (Option Plan) := fun c =>
  match (c.entry h).plan? b with
  | some p => (some p, { c with hits := c.hits + 1 })
  | none => (none, { c with misses := c.misses + 1 })

/-- Keeps a plan for the null flags of given values, and says whether one is kept for them. The first plan of
an entry fixes on what all its plans depend. -/
def store (h : Handle) (p : Plan) (b : Bindings) : StateM PlanCache Bool := fun c =>
  let e := c.entry h
  if !e.retained then (false, c)
  else
    match p.cacheability.key? b with
    | none => (false, c)
    | some key =>
      let recorded := e.cacheability.getD p.cacheability
      let e := { e with cacheability := some recorded }
      if recorded ≠ p.cacheability then (false, c.setEntry h e)
      else if (e.plans.lookup key).isSome then (true, c.setEntry h e)
      else if c.planCount < c.maxEntries then
        (true, { c.setEntry h { e with plans := e.plans ++ [(key, p)] } with planCount := c.planCount + 1 })
      else (false, c.setEntry h e)

/-- The lowered statement of an entry, made by `lower` where there is none. A refusal is not kept. -/
def lowered (h : Handle) (lower : Except QueryError (Select String)) :
    StateM PlanCache (Except QueryError (Select String)) := fun c =>
  let e := c.entry h
  match e.lowered with
  | some s => (.ok s, c)
  | none =>
    match lower with
    | .ok s => (.ok s, c.setEntry h { e with lowered := some s })
    | .error refusal => (.error refusal, c)

/-- Empties the cache. Hits and misses go on. -/
def clear : StateM PlanCache Unit := fun c =>
  ((), { c with shapes := [], shapeCount := 0, planCount := 0 })

/-- The counters. -/
def stats (c : PlanCache) : CacheStats :=
  ⟨c.shapes.length, c.planCount, c.hits, c.misses⟩

end PlanCache

end SqlShape
