import BriskModules.Module.Info

/-!
The cache of compiled modules.

Each module is compiled at most once. Its cell in the cache is made when the compilation
starts and filled when it ends, with a module or with a failure, and whoever requires the
module later gets what is in the cell. Requiring a module whose cell is still being filled
never completes.

Compiling happens in a session, which has the cache and, beside it, whatever else the
compilation keeps record of.

* `Cache.requireWith` compiles a module unless that has been done.
-/

namespace BriskModules

/-- What is in a cell of the cache. -/
inductive Cell (α : Type) where
  /-- The module is being compiled. -/
  | running
  | done (result : CompileResult α)

/-- The modules that have been required so far. -/
structure Cache (α : Type) where
  cells : Std.ExtTreeMap ModulePath (Cell α)

namespace Cache

variable {α : Type}

/-- Nothing has been required. -/
def empty : Cache α := ⟨∅⟩

/-- The number of modules that have been required. -/
def size (cache : Cache α) : Nat := cache.cells.size

/-- What became of a module, if it has been compiled. -/
def get? (cache : Cache α) (path : ModulePath) : Option (CompileResult α) :=
  match cache.cells[path]? with
  | some (.done result) => some result
  | _ => none

/-- Whether a module has been compiled, well or not. -/
def isCompiled (cache : Cache α) (path : ModulePath) : Bool := (cache.get? path).isSome

/-- Whether a module is being compiled. -/
def isRunning (cache : Cache α) (path : ModulePath) : Bool :=
  match cache.cells[path]? with
  | some .running => true
  | _ => false

/-- The modules that are being compiled. -/
def running (cache : Cache α) : List ModulePath := cache.cells.keys.filter cache.isRunning

/-- Makes the cell of a module. -/
def start (cache : Cache α) (path : ModulePath) : Cache α := ⟨cache.cells.insert path .running⟩

/-- Fills the cell of a module. -/
def finish (cache : Cache α) (path : ModulePath) (result : CompileResult α) : Cache α :=
  ⟨cache.cells.insert path (.done result)⟩

end Cache

/-- A cache and what is kept beside it. -/
structure Session (α τ : Type) where
  cache : Cache α
  record : τ

/-- Work in a session; there is no result if it never completes. -/
abbrev Work (α τ ρ : Type) := StateT (Session α τ) Option ρ

namespace Work

variable {α τ : Type}

/-- Changes the cache. -/
def changeCache (change : Cache α → Cache α) : Work α τ Unit :=
  modify fun session => ⟨change session.cache, session.record⟩

/-- Changes the record. -/
def changeRecord (change : τ → τ) : Work α τ Unit :=
  modify fun session => ⟨session.cache, change session.record⟩

/-- Work that never completes. -/
def stuck {ρ : Type} : Work α τ ρ := fun _ => none

end Work

/-- What becomes of a module: what its cell holds, and if it has none yet, what `compile`
makes of it. -/
def Cache.requireWith {α τ : Type} (path : ModulePath)
    (compile : Work α τ (CompileResult α)) : Work α τ (CompileResult α) := do
  match (← get).cache.cells[path]? with
  | some (.done result) => return result
  | some .running => Work.stuck
  | none =>
    Work.changeCache (·.start path)
    let result ← compile
    Work.changeCache (·.finish path result)
    return result

end BriskModules
