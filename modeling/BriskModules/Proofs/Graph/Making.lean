import BriskModules.Proofs.Graph.Growth

/-!
What a compiled module is made of.

A module that is compiled with success is made of the unit in its file and of the modules to
which the imports of this unit lead, which are in the cache by then. These tell all that is
recorded of the module, and nothing else plays a part.

* `ModuleInfo.Records`: what is recorded of a module, by its unit and its links;
* `Compiler.Makes`: a unit and links make a module;
* `Makes.unique`: in one file they make one module only;
* `Makes.mem_imports`: where an import of the unit leads is an import of the module;
* `Compiler.CompiledFrom`: a module has been made of the unit in its file and of modules in a
  cache;
* `Compilation.makes`, `Compilation.compiledFrom`: so is each module that is compiled.
-/

namespace BriskModules

variable {α : Type}

/-- What is recorded of a module tells of its unit and of the links that the imports of this
unit became. Importers see the singletons and the abstract types of its exports. -/
structure ModuleInfo.Records (info : ModuleInfo α) (path : ModulePath) (unit : CompilationUnit)
    (links : List (Link α)) : Prop where
  own : info.path = path
  imports : info.imports = links.map Link.target
  spec : info.spec = unit.spec
  symbols : info.symbols = .ofUnit unit
  singletons : ∀ name, name ∈ info.singletons ↔ name ∈ info.exports.singletons
  abstractTypes : ∀ name, name ∈ info.abstractTypes ↔ name ∈ info.exports.abstractTypes

namespace Compiler

variable (compiler : Compiler α) (fs : Filesystem)

/-- A unit and links make a module when it is compiled in a chain: the unit is in the file of
the module, the links are admissible and lead to different modules, one for each import, what is
recorded of the module are they, its exports have been inferred, and the frontend has accepted
it. -/
structure Makes (path : ModulePath) (chain : ImportChain) (unit : CompilationUnit)
    (links : List (Link α)) (info : ModuleInfo α) : Prop where
  parses : compiler.Parses fs path info.file unit
  declared : links.map Link.decl = unit.imports
  nodup : (links.map Link.target).Nodup
  admissible : ∀ link ∈ links, link.Admissible path
  records : info.Records path unit links
  exported : inferExports unit path (.ofUnit unit)
    (.collect unit ((Imports.empty chain).addLinks links))
    ((Imports.empty chain).addLinks links).internal = .ok info.exports
  accepted : compiler.frontend.check unit ((Imports.empty chain).addLinks links) info.exports =
    .ok info.checked

/-- A module has been made of the unit in its file and of modules in a cache. -/
def CompiledFrom (cache : Cache α) (path : ModulePath) (info : ModuleInfo α) : Prop :=
  ∃ chain unit links, compiler.Makes fs path chain unit links info ∧
    ∀ link ∈ links, cache.get? link.target = some (.ok link.module)

variable {compiler fs} {requires : Requiring α} {path target : ModulePath} {chain : ImportChain}
  {file : FileName} {unit : CompilationUnit} {links : List (Link α)} {info info' : ModuleInfo α}
  {before after : Session α (Journal α)}

/-- A file holds one unit only. -/
lemma Parses.unique {unit' : CompilationUnit} (h : compiler.Parses fs path file unit)
    (h' : compiler.Parses fs path file unit') : unit = unit' := by
  obtain ⟨text, hread, hparse⟩ := h
  obtain ⟨text', hread', hparse'⟩ := h'
  obtain rfl := Except.ok.inj (hread.symm.trans hread')
  exact Except.ok.inj (hparse.symm.trans hparse')

/-- The record of a module whose imports have become links to different modules. -/
lemma records_moduleInfo (hnodup : (links.map Link.target).Nodup) (exports : ExportContext)
    (checked : α) :
    (moduleInfo path file unit ((Imports.empty chain).addLinks links) exports checked).Records path
      unit links where
  own := rfl
  imports := Imports.paths_addLinks_empty chain hnodup
  spec := rfl
  symbols := rfl
  singletons _ := NameMap.mem_names
  abstractTypes _ := NameMap.mem_names

/-- What a unit and links make in a file is one thing only. -/
lemma Makes.unique (h : compiler.Makes fs path chain unit links info)
    (h' : compiler.Makes fs path chain unit links info') (hfile : info.file = info'.file) :
    info = info' := by
  have hexports := Except.ok.inj (h.exported.symm.trans h'.exported)
  have hchecked : info.checked = info'.checked :=
    Except.ok.inj (h.accepted.symm.trans (hexports ▸ h'.accepted))
  have hsingletons : info.singletons = info'.singletons := by
    refine Std.ExtTreeSet.ext_mem fun name => ?_
    rw [h.records.singletons, h'.records.singletons, hexports]
  have habstract : info.abstractTypes = info'.abstractTypes := by
    refine Std.ExtTreeSet.ext_mem fun name => ?_
    rw [h.records.abstractTypes, h'.records.abstractTypes, hexports]
  exact ModuleInfo.ext (h.records.own.trans h'.records.own.symm) hfile
    (h.records.imports.trans h'.records.imports.symm) (h.records.spec.trans h'.records.spec.symm)
    (h.records.symbols.trans h'.records.symbols.symm) hexports hsingletons habstract hchecked

/-- Where an import of the unit leads is an import of the module. -/
lemma Makes.mem_imports (h : compiler.Makes fs path chain unit links info) {decl : Import}
    (hdecl : decl ∈ unit.imports) (hresolve : resolveImport path decl.path = .ok target) :
    target ∈ info.imports := by
  rw [← h.declared] at hdecl
  obtain ⟨link, hlink, rfl⟩ := List.mem_map.mp hdecl
  rw [h.records.imports, ← Except.ok.inj ((h.admissible link hlink).resolves.symm.trans hresolve)]
  exact List.mem_map_of_mem hlink

/-- A compilation that succeeds makes a module of the unit in the file and of modules in the
cache. -/
lemma Compilation.makes (hreliable : requires.Reliable)
    (h : compiler.Compilation fs requires path chain file before (.ok info) after) :
    info.file = file ∧ ∃ unit links, compiler.Makes fs path chain unit links info ∧
      ∀ link ∈ links, after.cache.cells[link.target]? = some (.done (.ok link.module)) := by
  cases h with
  | @completed _ unit imports exports checked parses checks exported accepted =>
      obtain ⟨links, hdecls, rfl, hnodup, hlinks⟩ := checks.links hreliable
      refine ⟨rfl, unit, links, ?_, fun link hlink => (hlinks link hlink).2.2.2⟩
      exact ⟨parses, hdecls, hnodup, fun link hlink => (hlinks link hlink).1,
        records_moduleInfo hnodup exports checked, exported, accepted⟩

lemma Compilation.compiledFrom (hreliable : requires.Reliable)
    (h : compiler.Compilation fs requires path chain file before (.ok info) after) :
    info.file = file ∧ compiler.CompiledFrom fs after.cache path info := by
  obtain ⟨hfile, unit, links, hmakes, hstored⟩ := h.makes hreliable
  exact ⟨hfile, chain, unit, links, hmakes, fun link hlink =>
    (Cache.get?_eq_some_iff _ _).mpr (hstored link hlink)⟩

/-- A module that has been made has its own path. -/
lemma CompiledFrom.own {cache : Cache α} (h : compiler.CompiledFrom fs cache path info) :
    info.path = path := by
  obtain ⟨_, _, _, hmakes, -⟩ := h
  exact hmakes.records.own

lemma CompiledFrom.mono {cache cache' : Cache α} (hstays : cache.StaysIn cache')
    (h : compiler.CompiledFrom fs cache path info) : compiler.CompiledFrom fs cache' path info := by
  obtain ⟨chain, unit, links, hmakes, hstored⟩ := h
  exact ⟨chain, unit, links, hmakes, fun link hlink => hstays _ _ (hstored link hlink)⟩

end Compiler

end BriskModules
