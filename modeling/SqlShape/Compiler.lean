import SqlShape.Command.Statement
import SqlShape.Config
import SqlShape.Lowering
import SqlShape.PlanCache
import SqlShape.Specialization

/-!
# Compiling shapes

`Compiler` lowers a shape, specializes it for given values and writes the command. `Engine` does the same
through a plan cache, if it has one; what the cache learns is kept also when a step is refused.
-/

namespace SqlShape

/-- How shapes are compiled. -/
structure Compiler where
  dialect : Dialect
  lowering : Lowering
  options : SpecializationOptions

namespace Compiler

/-- The compiler of checked settings. -/
def ofConfig (c : Config) : Except QueryError Compiler := do
  match c.check with
  | .error fault => throw (.invalidConfiguration fault.message)
  | .ok () => return ⟨c.dialect, ← c.dialect.lowering, ⟨c.namePrefix, c.relationalNulls⟩⟩

/-- Lowers a shape. -/
def lower (c : Compiler) (s : Shape) : Except QueryError (Select String) :=
  c.lowering.lowerShape s

/-- Makes a plan of a lowered statement for given values. -/
def planOf (c : Compiler) (lowered : Select String) (b : Bindings) : Except QueryError Plan := do
  let special ← lowered.specialize c.lowering.builder c.options b
  let commandText ← c.dialect.commandText special.select
  return ⟨special.select, commandText, special.placeholders, special.cacheability⟩

/-- Refuses bindings that lack a parameter, naming the first in name order. -/
def requireParameters (s : Shape) (b : Bindings) : Except QueryError Unit :=
  match s.parameters.find? fun (name, _) => (b.get? name).isNone with
  | some (name, _) => .error (.missingParameter name)
  | none => .ok ()

/-- The plan of a shape for given values. -/
def plan (c : Compiler) (s : Shape) (b : Bindings) : Except QueryError Plan := do
  requireParameters s b
  c.planOf (← c.lower s) b

/-- The command of a shape for given values. -/
def compile (c : Compiler) (s : Shape) (b : Bindings) : Except QueryError Command := do
  (← c.plan s b).command b

/-! ## Through a cache -/

/-- A step over a cache that may be refused. The cache outlives the refusal. -/
abbrev Cached :=
  ExceptT QueryError (StateM PlanCache)

/-- The lowered statement of a shape. -/
def lowerCached (c : Compiler) (s : Shape) : Cached (Select String) := do
  let h ← PlanCache.shapeEntry s
  ExceptT.mk (PlanCache.lowered h (c.lower s))

/-- The plan of a shape for given values. -/
def planCached (c : Compiler) (s : Shape) (b : Bindings) : Cached Plan := do
  requireParameters s b
  let h ← PlanCache.shapeEntry s
  match ← PlanCache.lookup h b with
  | some p => return p
  | none =>
    let lowered ← ExceptT.mk (PlanCache.lowered h (c.lower s))
    let p ← c.planOf lowered b
    let _ ← PlanCache.store h p b
    return p

end Compiler

/-- A compiler with or without a plan cache. -/
structure Engine where
  compiler : Compiler
  cache : Option PlanCache

namespace Engine

/-- The engine of checked settings. -/
def ofConfig (c : Config) : Except QueryError Engine := do
  let compiler ← Compiler.ofConfig c
  return ⟨compiler, if c.cache.enabled then some (.empty c.cache.maxEntries) else none⟩

/-- Runs a step, through the cache where there is one. -/
def run {α : Type} (e : Engine) (direct : Except QueryError α) (cached : Compiler.Cached α) :
    Except QueryError α × Engine :=
  match e.cache with
  | none => (direct, e)
  | some cache =>
    let (outcome, cache) := cached.run.run cache
    (outcome, { e with cache := some cache })

/-- The lowered statement of a shape. -/
def lower (e : Engine) (s : Shape) : Except QueryError (Select String) × Engine :=
  e.run (e.compiler.lower s) (e.compiler.lowerCached s)

/-- The plan of a shape for given values. -/
def plan (e : Engine) (s : Shape) (b : Bindings) : Except QueryError Plan × Engine :=
  e.run (e.compiler.plan s b) (e.compiler.planCached s b)

/-- The command of a shape for given values. -/
def compile (e : Engine) (s : Shape) (b : Bindings) : Except QueryError Command × Engine :=
  let (outcome, e) := e.plan s b
  (outcome.bind (Plan.command · b), e)

/-- Empties the cache; `none` without one. -/
def clear (e : Engine) : Option Engine :=
  e.cache.map fun cache => { e with cache := some (PlanCache.clear.run cache).2 }

/-- The counters of the cache. -/
def stats? (e : Engine) : Option CacheStats :=
  e.cache.map PlanCache.stats

end Engine

end SqlShape
