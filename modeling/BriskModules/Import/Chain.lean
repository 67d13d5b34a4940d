import BriskModules.Module.Path

/-!
Import chains: the modules that are being compiled on behalf of one another, the outermost
one first.
-/

namespace BriskModules

/-- The modules that are being compiled, the outermost one first. -/
structure ImportChain where
  modules : List ModulePath
deriving DecidableEq, Repr, Inhabited

namespace ImportChain

/-- The chain of no modules. -/
def empty : ImportChain := ⟨[]⟩

/-- A chain with one more module at its inner end. -/
def extend (chain : ImportChain) (module : ModulePath) : ImportChain :=
  ⟨chain.modules ++ [module]⟩

/-- The chain of the outermost module alone. -/
def root (module : ModulePath) : ImportChain := empty.extend module

/-- Whether a module is in a chain. -/
def contains (chain : ImportChain) (module : ModulePath) : Bool := module ∈ chain.modules

/-- The number of modules in a chain. -/
def length (chain : ImportChain) : Nat := chain.modules.length

/-- A chain as text. -/
def text (chain : ImportChain) : String :=
  Text.joined " -> " (chain.modules.map ModulePath.text)

end ImportChain

end BriskModules
