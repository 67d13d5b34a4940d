import BriskModules.Proofs.Import.Answers
import BriskModules.Proofs.Import.Facts

/-!
Which module the facts of an import come from.

The modules of the imports are found by local name, and nothing keeps two imports from sharing
one. What is found under a local name is the module of the first import that has it, and the
facts of all imports with this local name are taken from there. If no two imports share a local
name, each import adds the facts of its own module.

* `Import.Supplies`: the names that an import makes known of the names of a module;
* `Imports.get?_addLinks`: what is found under a local name;
* `Facts.Supplied`, `Facts.SuppliedByFirst`: the names that links make known of their own modules,
  and of the modules that are found for them;
* `Facts.collect_of_checkImports`: the facts of a unit whose imports have been accepted;
* `Facts.collect_sharedLocalName`: the facts of an import that shares its local name are lost.
-/

namespace BriskModules

/-- An import makes a name known: behind its own local name for every name of the module, and by
itself for the names that it exposes. -/
def Import.Supplies (decl : Import) (names : NameSet) (name : String) : Prop :=
  (∃ inner ∈ names, name = decl.localName.id ++ "." ++ inner) ∨
    name ∈ decl.exposing.map (·.id) ∧ name ∈ names

lemma Facts.mem_importedNames_iff {decl : Import} {names : NameSet} {name : String} :
    name ∈ importedNames decl names ↔ decl.Supplies names name := by
  rw [importedNames, List.mem_append, List.mem_map, List.mem_filter, Import.Supplies,
    Std.ExtTreeSet.contains_iff_mem]
  simp only [Std.ExtTreeSet.mem_toList, @eq_comm _ name]

variable {α : Type}

/-- If no target comes twice, the module under a local name is that of the first link with this
local name. -/
lemma Imports.get?_addLinks (chain : ImportChain) {links : List (Link α)}
    (hdistinct : (links.map Link.target).Nodup) (localName : String) :
    ((empty chain).addLinks links).get? localName =
      (links.find? (·.decl.localName.id = localName)).map Link.module := by
  rw [get?_addLinks_empty]
  cases hfound : links.find? (·.decl.localName.id = localName) with
  | none => rfl
  | some link =>
      exact ((holds_addLinks chain hdistinct).modules link.target link.module).mpr
        ⟨link, List.mem_of_find?_eq_some hfound, rfl, rfl⟩

/-! ### The facts of imports -/

namespace Facts

/-- One of several links makes a name known of the names that are picked from its module. -/
def Supplied (links : List (Link α)) (pick : ModuleInfo α → NameSet) (name : String) : Prop :=
  ∃ link ∈ links, link.decl.Supplies (pick link.module) name

/-- One of several links makes a name known of the names that are picked from the module of the
first link with its local name. -/
def SuppliedByFirst (links : List (Link α)) (pick : ModuleInfo α → NameSet) (name : String) :
    Prop :=
  ∃ link ∈ links, ∃ first, links.find? (·.decl.localName.id = link.decl.localName.id) = some first ∧
    link.decl.Supplies (pick first.module) name

variable {links : List (Link α)} {pick : ModuleInfo α → NameSet} {name : String}

/-- The names that imports add are those of the modules that are found for them. -/
lemma adds_addLinks_iff (chain : ImportChain) (hdistinct : (links.map Link.target).Nodup) :
    Adds ((Imports.empty chain).addLinks links) pick (links.map Link.decl) name ↔
      SuppliedByFirst links pick name := by
  simp only [Adds, SuppliedByFirst, List.mem_map, exists_exists_and_eq_and,
    Imports.get?_addLinks chain hdistinct, Option.map_eq_some_iff, mem_importedNames_iff]

/-- If no two links share a local name, each is the first one with its own. -/
lemma suppliedByFirst_iff (hnames : (links.map (·.decl.localName.id)).Nodup) :
    SuppliedByFirst links pick name ↔ Supplied links pick name := by
  refine exists_congr fun link => and_congr_right fun hlink => ?_
  have hfound : links.find? (·.decl.localName.id = link.decl.localName.id) = some link :=
    (Imports.find?_eq_some_iff_of_nodup hnames).mpr ⟨hlink, rfl⟩
  simp only [hfound, Option.some.injEq, exists_eq_left']

/-- **The facts of a unit and where they come from**: once all imports have been accepted, the
facts are those of the unit and of each import, taken from the module of the first import with
the same local name. If no two imports share a local name, they are taken from the module that
was the answer when the import was required. -/
theorem collect_of_checkImports {σ : Type} {unit : CompilationUnit} {current : ModulePath}
    {chain : ImportChain} {require : Capability σ α} {before after : σ} {imports : Imports α}
    (h : (checkImports unit current chain require).run before = some (.ok imports, after)) :
    ∃ links, Answers require current chain unit.imports before links after ∧
      (∀ name,
        (name ∈ (collect unit imports).singletons ↔
          name ∈ (ofUnit unit).singletons ∨ SuppliedByFirst links ModuleInfo.singletons name) ∧
        (name ∈ (collect unit imports).abstractTypes ↔
          name ∈ (ofUnit unit).abstractTypes ∨
            SuppliedByFirst links ModuleInfo.abstractTypes name)) ∧
      ((unit.imports.map (·.localName.id)).Nodup → ∀ name,
        (name ∈ (collect unit imports).singletons ↔
          name ∈ (ofUnit unit).singletons ∨ Supplied links ModuleInfo.singletons name) ∧
        (name ∈ (collect unit imports).abstractTypes ↔
          name ∈ (ofUnit unit).abstractTypes ∨ Supplied links ModuleInfo.abstractTypes name)) := by
  obtain ⟨links, hanswers, rfl, hdistinct⟩ := answers_of_checkImports h
  have hfirst : ∀ name,
      (name ∈ (collect unit ((Imports.empty chain).addLinks links)).singletons ↔
        name ∈ (ofUnit unit).singletons ∨ SuppliedByFirst links ModuleInfo.singletons name) ∧
      (name ∈ (collect unit ((Imports.empty chain).addLinks links)).abstractTypes ↔
        name ∈ (ofUnit unit).abstractTypes ∨
          SuppliedByFirst links ModuleInfo.abstractTypes name) := by
    intro name
    rw [mem_singletons_collect, mem_abstractTypes_collect, ← hanswers.map_decl,
      adds_addLinks_iff chain hdistinct, adds_addLinks_iff chain hdistinct]
    exact ⟨Iff.rfl, Iff.rfl⟩
  refine ⟨links, hanswers, hfirst, fun hnames name => ?_⟩
  rw [← hanswers.map_decl, List.map_map] at hnames
  obtain ⟨hsingletons, habstract⟩ := hfirst name
  exact ⟨hsingletons.trans (or_congr_right (suppliedByFirst_iff hnames)),
    habstract.trans (or_congr_right (suppliedByFirst_iff hnames))⟩

/-- A unit that imports two modules, the second one under a given local name, and exposes a name
of that one. -/
def twoClocks (localName : String) : CompilationUnit where
  imports := [
    { localName := ⟨"c", {}⟩, path := "clock" },
    { localName := ⟨localName, {}⟩, path := "timer", exposing := [⟨"tick", {}⟩] }]

/-- The module at a path, with one singleton: `now` in a file called `clock`, and else `tick`. -/
def clockModule (path : ModulePath) : ModuleInfo Unit where
  path := path
  file := ⟨path.file ++ ".brk"⟩
  imports := []
  spec := some {}
  symbols := .empty
  exports := .empty
  singletons := .ofNames [if path.file = "clock" then "now" else "tick"]
  abstractTypes := ∅
  checked := ()

/-- A capability that answers with these modules. -/
def clockCapability : Capability Unit Unit := fun path _ =>
  (return .ok (clockModule path) : StateT Unit Option (CompileResult Unit))

/-- The links of the two imports. -/
def clockLinks (localName : String) : List (Link Unit) :=
  (twoClocks localName).imports.map fun decl =>
    ⟨decl, ⟨none, [], decl.path⟩, clockModule ⟨none, [], decl.path⟩⟩

/-- Under different local names the singletons of both modules are known. -/
theorem collect_of_checkImports_twoClocks :
    ((twoClocks "t").imports.map (·.localName.id)).Nodup ∧
    ∃ imports links, (checkImports (twoClocks "t") ⟨none, [], "a"⟩ (.root ⟨none, [], "a"⟩)
        clockCapability).run () = some (.ok imports, ()) ∧
      Answers clockCapability ⟨none, [], "a"⟩ (.root ⟨none, [], "a"⟩) (twoClocks "t").imports ()
        links () ∧
      ∀ name ∈ ["c.now", "t.tick", "tick"], name ∈ (collect (twoClocks "t") imports).singletons ∧
        Supplied links ModuleInfo.singletons name := by
  have hnames : ((twoClocks "t").imports.map (·.localName.id)).Nodup := by decide
  have hchecked : (checkImports (twoClocks "t") ⟨none, [], "a"⟩ (.root ⟨none, [], "a"⟩)
      clockCapability).run () =
        some (.ok ((Imports.empty (.root ⟨none, [], "a"⟩)).addLinks (clockLinks "t")), ()) := rfl
  obtain ⟨links, hanswers, -, hown⟩ := collect_of_checkImports hchecked
  refine ⟨hnames, _, links, hchecked, hanswers, fun name hname => ?_⟩
  have hknown : name ∈ (collect (twoClocks "t") ((Imports.empty (.root ⟨none, [], "a"⟩)).addLinks
      (clockLinks "t"))).singletons := by
    revert name
    decide +kernel
  have hforeign : name ∉ (ofUnit (twoClocks "t")).singletons := by
    revert name
    decide +kernel
  exact ⟨hknown, ((hown hnames name).1.mp hknown).resolve_left hforeign⟩

/-- Under one local name the singleton of the second module is not known, by neither name. -/
theorem collect_sharedLocalName :
    ∃ imports, (checkImports (twoClocks "c") ⟨none, [], "a"⟩ (.root ⟨none, [], "a"⟩)
        clockCapability).run () = some (.ok imports, ()) ∧
      Answers clockCapability ⟨none, [], "a"⟩ (.root ⟨none, [], "a"⟩) (twoClocks "c").imports ()
        (clockLinks "c") () ∧
      ∀ name ∈ ["c.tick", "tick"], ¬(name ∈ (collect (twoClocks "c") imports).singletons ↔
        name ∈ (ofUnit (twoClocks "c")).singletons ∨
          Supplied (clockLinks "c") ModuleInfo.singletons name) := by
  have hanswers : Answers clockCapability ⟨none, [], "a"⟩ (.root ⟨none, [], "a"⟩)
      (twoClocks "c").imports () (clockLinks "c") () :=
    .cons (by decide +kernel) rfl (.cons (by decide +kernel) rfl .nil)
  have hsupplies : ∀ name ∈ ["c.tick", "tick"],
      name ∈ importedNames
        { localName := ⟨"c", {}⟩, path := "timer", exposing := [⟨"tick", {}⟩] }
        (clockModule ⟨none, [], "timer"⟩).singletons := by
    decide +kernel
  have hmissing : ∀ name ∈ ["c.tick", "tick"], name ∉ (collect (twoClocks "c")
      ((Imports.empty (.root ⟨none, [], "a"⟩)).addLinks (clockLinks "c"))).singletons := by
    decide +kernel
  refine ⟨(Imports.empty (.root ⟨none, [], "a"⟩)).addLinks (clockLinks "c"), rfl, hanswers,
    fun name hname hiff => hmissing name hname (hiff.mpr (.inr ?_))⟩
  exact ⟨_, List.mem_cons_of_mem _ List.mem_cons_self,
    mem_importedNames_iff.mp (hsupplies name hname)⟩

end Facts

end BriskModules
