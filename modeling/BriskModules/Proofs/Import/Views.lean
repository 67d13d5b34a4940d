import BriskModules.Proofs.Import.Registry

/-!
Imports that are registered again.

The check of a module registers no path twice, but registering does not ask for that: a path may
come again under another local name or with another module. Modules, local names and internal paths
each have a rule of their own for it. A path keeps its first module, a pair of local name and path
is kept once, and a path is internal if any of the modules that it was registered with is. So the
internal paths are those with internal modules exactly if no path turns internal.

* `Link.Steady`: links of which no path turns internal;
* `localNames_addLinks_empty`: the pairs of local names and paths, each once;
* `map_fst_symbolTables`, `map_fst_exportScopes`: which paths have names and export scopes;
* `steady_iff`: when the internal paths are those with internal modules;
* `register_eq_of_pair`, `register_eq_self`: what a pair that is registered again changes;
* `views_addLinks` (**what is known of imports after any links**);
* `internal_turnedInternal`: a path that turns internal is known to be, and its module is not.
-/

namespace BriskModules

variable {α : Type}

namespace Link

/-- The local name of a link and the path that it stands for. -/
def pair (link : Link α) : String × ModulePath := (link.decl.localName.id, link.target)

/-- No path turns internal: where one of the links leads to an internal module, the first link with
the same target does too. -/
def Steady (links : List (Link α)) : Prop :=
  ∀ link ∈ links, link.module.isInternal = true →
    ∀ first ∈ links.find? (·.target = link.target), first.module.isInternal = true

instance (links : List (Link α)) : Decidable (Steady links) :=
  inferInstanceAs (Decidable (∀ link ∈ links, link.module.isInternal = true →
    ∀ first ∈ links.find? (·.target = link.target), first.module.isInternal = true))

/-- Among some links there is a first one with the target of each. -/
lemma exists_find?_target {links : List (Link α)} {path : ModulePath}
    (h : path ∈ links.map Link.target) :
    ∃ first ∈ links, links.find? (·.target = path) = some first ∧ first.target = path := by
  obtain ⟨link, hlink, rfl⟩ := List.mem_map.mp h
  cases hfirst : links.find? (·.target = link.target) with
  | none => exact absurd (List.find?_eq_none.mp hfirst link hlink) (by simp)
  | some first =>
      exact ⟨first, List.mem_of_find?_eq_some hfirst, rfl, by simpa using List.find?_some hfirst⟩

lemma target_mem_of_pair_mem {links : List (Link α)} {link : Link α}
    (h : link.pair ∈ links.map pair) : link.target ∈ links.map Link.target := by
  obtain ⟨other, hother, hsame⟩ := List.mem_map.mp h
  exact List.mem_map.mpr ⟨other, hother, congrArg Prod.snd hsame⟩

end Link

namespace Imports

open Link

/-! ### What is known after some links -/

/-- At the end of a list an item is kept only if it is not in front of it. -/
lemma eraseDups_concat {β : Type} [BEq β] [LawfulBEq β] (front : List β) (last : β) :
    (front ++ [last]).eraseDups =
      if last ∈ front then front.eraseDups else front.eraseDups ++ [last] := by
  rw [List.eraseDups_append]
  by_cases hlast : last ∈ front <;> simp [List.removeAll, List.eraseDups_cons, hlast]

/-- Each pair of a local name and a path is kept where it was registered first. -/
lemma localNames_addLinks_empty (chain : ImportChain) (links : List (Link α)) :
    ((empty chain).addLinks links).localNames = (links.map pair).eraseDups := by
  induction links using List.reverseRecOn with
  | nil => rfl
  | append_singleton front link ih =>
      have hlast : ((empty chain).addLinks (front ++ [link])).localNames =
          if link.pair ∈ ((empty chain).addLinks front).localNames then
            ((empty chain).addLinks front).localNames
          else ((empty chain).addLinks front).localNames ++ [link.pair] := by
        rw [addLinks_append]
        rfl
      rw [hlast, ih, List.map_append, List.map_singleton, eraseDups_concat]
      simp only [List.mem_eraseDups]

/-- The paths that have names are those that have modules. -/
lemma map_fst_symbolTables (imports : Imports α) :
    imports.symbolTables.map Prod.fst = imports.modules.keys := by
  rw [symbolTables, List.map_map, ← Std.ExtTreeMap.map_fst_toList_eq_keys]
  rfl

/-- The paths that have export scopes are those that have modules. -/
lemma map_fst_exportScopes (imports : Imports α) :
    imports.exportScopes.map Prod.fst = imports.modules.keys := by
  rw [exportScopes, List.map_map, ← Std.ExtTreeMap.map_fst_toList_eq_keys]
  rfl

variable {chain : ImportChain} {links : List (Link α)} {link : Link α} {path : ModulePath}

lemma mem_keys_addLinks_empty :
    path ∈ ((empty chain).addLinks links).modules.keys ↔ path ∈ links.map Link.target := by
  rw [Std.ExtTreeMap.mem_keys, Std.ExtTreeMap.mem_iff_contains]
  refine (contains_addLinks (empty chain) links path).trans ?_
  simp [contains_empty]

lemma module?_addLinks_empty :
    ((empty chain).addLinks links).module? path =
      (links.find? (·.target = path)).map Link.module := by
  rw [module?_addLinks, module?_empty, Option.none_or]

lemma contains_internal_addLinks_empty :
    ((empty chain).addLinks links).internal.contains path = true ↔
      ∃ link ∈ links, link.target = path ∧ link.module.isInternal = true := by
  rw [contains_internal_addLinks]
  simp [empty]

/-- The internal paths are those with internal modules exactly if no path turns internal. -/
lemma steady_iff :
    Steady links ↔ ∀ path, ((empty chain).addLinks links).internal.contains path = true ↔
      ∃ info, ((empty chain).addLinks links).module? path = some info ∧
        info.isInternal = true := by
  simp only [contains_internal_addLinks_empty, module?_addLinks_empty, Option.map_eq_some_iff]
  constructor
  · intro hsteady path
    constructor
    · rintro ⟨link, hlink, rfl, hinternal⟩
      obtain ⟨first, -, hfirst, -⟩ := exists_find?_target (List.mem_map_of_mem hlink)
      exact ⟨_, ⟨first, hfirst, rfl⟩, hsteady link hlink hinternal first hfirst⟩
    · rintro ⟨_, ⟨first, hfirst, rfl⟩, hinternal⟩
      exact ⟨first, List.mem_of_find?_eq_some hfirst, by simpa using List.find?_some hfirst,
        hinternal⟩
  · intro h link hlink hinternal first hfirst
    obtain ⟨_, ⟨_, hsame, rfl⟩, hmodule⟩ := (h link.target).mp ⟨link, hlink, rfl, hinternal⟩
    rwa [← Option.some.inj (hfirst.symm.trans hsame)] at hmodule

/-! ### Links that are registered again -/

/-- A pair that is registered again changes neither modules nor local names. -/
lemma register_eq_of_pair (chain : ImportChain) (hpair : link.pair ∈ links.map pair) :
    let imports := (empty chain).addLinks links
    let again := imports.register link.decl.localName.id link.target link.module
    again.modules = imports.modules ∧ again.localNames = imports.localNames := by
  intro imports again
  refine ⟨Std.ExtTreeMap.ext_getElem? fun path => ?_, if_pos ?_⟩
  · obtain ⟨first, -, hfirst, -⟩ := exists_find?_target (target_mem_of_pair_mem hpair)
    have hknown : imports.module? link.target = some first.module := by
      rw [module?_addLinks_empty, hfirst, Option.map_some]
    refine (module?_register imports _ _ _ path).trans ?_
    by_cases hpath : link.target = path
    · rw [← hpath, hknown]
      exact hknown.symm
    · rw [if_neg hpath, Option.or_none]
      rfl
  · rw [localNames_addLinks_empty, List.mem_eraseDups]
    exact hpair

/-- A pair that is registered again changes nothing if its path does not turn internal. -/
lemma register_eq_self (hpair : link.pair ∈ links.map pair) (hsteady : Steady (links ++ [link])) :
    ((empty chain).addLinks links).register link.decl.localName.id link.target link.module =
      (empty chain).addLinks links := by
  obtain ⟨hmodules, hnames⟩ := register_eq_of_pair chain hpair
  have hinternal : (((empty chain).addLinks links).register link.decl.localName.id link.target
      link.module).internal = ((empty chain).addLinks links).internal := by
    change (if link.module.isInternal then _ else _) = _
    split_ifs with hmodule
    · obtain ⟨first, hmem, hfirst, htarget⟩ :=
        exists_find?_target (target_mem_of_pair_mem hpair)
      have hfirst' : (links ++ [link]).find? (·.target = link.target) = some first := by
        rw [List.find?_append, hfirst, Option.some_or]
      have hknown : ((empty chain).addLinks links).internal.contains link.target = true :=
        contains_internal_addLinks_empty.mpr
          ⟨first, hmem, htarget, hsteady link (by simp) hmodule first hfirst'⟩
      refine Std.ExtTreeSet.ext_contains fun path => ?_
      by_cases hpath : link.target = path
      · simp [← hpath, hknown]
      · simp [hpath]
    · rfl
  exact Imports.ext rfl hmodules hnames hinternal

/-- **What is known of imports after any links**: a path has the module of the first link to it,
each pair of a local name and a path is kept where it came first, a local name stands for the path
of its first pair, and the paths that have names and export scopes are those of the links. The
internal paths are those with internal modules, and a pair that is registered again changes nothing,
as long as no path turns internal. -/
theorem views_addLinks (chain : ImportChain) (links : List (Link α)) :
    let imports := (empty chain).addLinks links
    (∀ path, imports.module? path = (links.find? (·.target = path)).map Link.module) ∧
    imports.localNames = (links.map pair).eraseDups ∧
    (∀ localName, imports.get? localName =
      (links.find? (·.decl.localName.id = localName)).bind fun link =>
        imports.module? link.target) ∧
    (∀ path, (path ∈ imports.symbolTables.map Prod.fst ↔ path ∈ links.map Link.target) ∧
      (path ∈ imports.exportScopes.map Prod.fst ↔ path ∈ links.map Link.target)) ∧
    (∀ path, imports.internal.contains path = true ↔
      ∃ link ∈ links, link.target = path ∧ link.module.isInternal = true) ∧
    (Steady links ↔ ∀ path, imports.internal.contains path = true ↔
      ∃ info, imports.module? path = some info ∧ info.isInternal = true) ∧
    ∀ link : Link α, link.pair ∈ links.map pair →
      let again := imports.register link.decl.localName.id link.target link.module
      again.modules = imports.modules ∧ again.localNames = imports.localNames ∧
        (Steady (links ++ [link]) → again = imports) := by
  refine ⟨fun path => module?_addLinks_empty, localNames_addLinks_empty chain links,
    get?_addLinks_empty chain links, fun path => ?_, fun path => contains_internal_addLinks_empty,
    steady_iff, fun link hpair => ?_⟩
  · rw [map_fst_symbolTables, map_fst_exportScopes]
    exact ⟨mem_keys_addLinks_empty, mem_keys_addLinks_empty⟩
  · obtain ⟨hmodules, hnames⟩ := register_eq_of_pair chain hpair
    exact ⟨hmodules, hnames, register_eq_self hpair⟩

/-- A link under a local name to one of several modules `m`, which has a number and may be
internal. -/
def numberedLink (localName : String) (number : ℕ) (internal : Bool) : Link ℕ where
  decl := { localName := ⟨localName, {}⟩, path := "m" }
  target := ⟨none, [], "m"⟩
  module := {
    path := ⟨none, [], "m"⟩
    file := ⟨"m.brk"⟩
    imports := []
    spec := some { isInternal := internal }
    symbols := .empty
    exports := .empty
    singletons := ∅
    abstractTypes := ∅
    checked := number }

/-- Of two links to one path under two local names the first module counts, which is internal. Both
names are kept, and a third link under the first name changes nothing. -/
theorem views_addLinks_numbered :
    let links := [numberedLink "a" 1 true, numberedLink "b" 2 false]
    let imports := (empty (.root ⟨none, [], "main"⟩)).addLinks links
    Steady links ∧
    imports.localNames = [("a", ⟨none, [], "m"⟩), ("b", ⟨none, [], "m"⟩)] ∧
    (imports.get? "b").map ModuleInfo.checked = some 1 ∧
    imports.internal.contains ⟨none, [], "m"⟩ = true ∧
    imports.register "a" ⟨none, [], "m"⟩ (numberedLink "a" 3 true).module = imports := by
  intro links imports
  have hsteady : Steady links := by decide
  obtain ⟨hmodule, hnames, hget, -, -, hviews, hagain⟩ :=
    views_addLinks (.root ⟨none, [], "main"⟩) links
  refine ⟨hsteady, hnames.trans (by decide), ?_, (hviews.mp hsteady _).mpr ⟨_, hmodule _, rfl⟩,
    (hagain (numberedLink "a" 3 true) (by decide)).2.2 (by decide)⟩
  rw [hget "b"]
  exact congrArg (Option.map ModuleInfo.checked) (hmodule ⟨none, [], "m"⟩)

/-- A path that is registered again with an internal module, under the same local name, is known to
be internal, and its module is not. -/
theorem internal_turnedInternal :
    let before := (empty (.root ⟨none, [], "main"⟩)).addLinks [numberedLink "m" 1 false]
    let after := before.addLinks [numberedLink "m" 2 true]
    before.internal.contains ⟨none, [], "m"⟩ = false ∧
    after.internal.contains ⟨none, [], "m"⟩ = true ∧
    ¬∀ path, after.internal.contains path = true ↔
      ∃ info, after.module? path = some info ∧ info.isInternal = true := by
  intro before after
  have hafter : after.internal.contains ⟨none, [], "m"⟩ = true := by decide +kernel
  refine ⟨by decide +kernel, hafter, fun h => ?_⟩
  obtain ⟨info, hinfo, hinternal⟩ := (h ⟨none, [], "m"⟩).mp hafter
  have hmodule : (after.module? ⟨none, [], "m"⟩).map ModuleInfo.isInternal = some false := by
    decide +kernel
  rw [hinfo, Option.map_some, hinternal] at hmodule
  cases hmodule

end Imports

end BriskModules
