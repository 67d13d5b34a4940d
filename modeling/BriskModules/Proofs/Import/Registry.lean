import BriskModules.Proofs.Import.Link

/-!
What is registered, told without registering.

The imports of a module hold several links if they know these links and nothing else: the
local names and targets in their order, the module of each target, and which targets are
internal. Registering links with different targets gives the only such imports.

* `Imports.Holds`: what imports that hold several links know;
* `module?_addLinks`, `contains_addLinks`, `contains_internal_addLinks`: what registering links
  adds, one path at a time;
* `lookup_localNames_addLinks`, `get?_addLinks_empty`: what local names stand for;
* `holds_addLinks`, `Holds.eq_addLinks`: links that are registered are held, and nothing else
  holds them;
* `artifacts_addLinks_empty`: what the frontend made of them, in their order.
-/

namespace BriskModules.Imports

attribute [ext] Imports

variable {α : Type}

/-- The imports of a module at the end of a chain hold several links and nothing else. -/
structure Holds (imports : Imports α) (chain : ImportChain) (links : List (Link α)) : Prop where
  chain : imports.chain = chain
  localNames : imports.localNames =
    links.map fun link => (link.decl.localName.id, link.target)
  distinct : (links.map Link.target).Nodup
  modules : ∀ path info, imports.module? path = some info ↔
    ∃ link ∈ links, link.target = path ∧ link.module = info
  internal : ∀ path, imports.internal.contains path = true ↔
    ∃ link ∈ links, link.target = path ∧ link.module.isInternal = true

@[simp]
lemma chain_addLinks (imports : Imports α) (links : List (Link α)) :
    (imports.addLinks links).chain = imports.chain := by
  induction links generalizing imports with
  | nil => rfl
  | cons link more ih => exact ih _

/-- If no two items share a key, an item is the first one with its key. -/
lemma find?_eq_some_iff_of_nodup {β γ : Type} [DecidableEq γ] {key : β → γ} {items : List β}
    (hdistinct : (items.map key).Nodup) {wanted : γ} {item : β} :
    items.find? (key · = wanted) = some item ↔ item ∈ items ∧ key item = wanted := by
  constructor
  · intro h
    exact ⟨List.mem_of_find?_eq_some h, by simpa using List.find?_some h⟩
  · rintro ⟨hmem, rfl⟩
    cases hfirst : items.find? (key · = key item) with
    | none => exact absurd (List.find?_eq_none.mp hfirst item hmem) (by simp)
    | some first =>
        have hkey : key first = key item := by simpa using List.find?_some hfirst
        rw [List.inj_on_of_nodup_map hdistinct (List.mem_of_find?_eq_some hfirst) hmem hkey]

/-- A path that is registered leads to the module that it led to before, and only if there was
none to the one that it is registered with. -/
lemma module?_register (imports : Imports α) (localName : String) (path : ModulePath)
    (info : ModuleInfo α) (other : ModulePath) :
    (imports.register localName path info).module? other =
      (imports.module? other).or (if path = other then some info else none) := by
  simp only [module?, register, Std.ExtTreeMap.getElem?_insertIfNew,
    Std.LawfulEqOrd.compare_eq_iff_eq]
  by_cases hpath : path = other
  · subst hpath
    cases hknown : imports.modules[path]? <;>
      simp [Std.ExtTreeMap.mem_iff_isSome_getElem?, hknown]
  · simp [hpath]

/-- A path leads to the module that it led to before, and only if there was none to the module of
the first link with this target. -/
lemma module?_addLinks (imports : Imports α) (links : List (Link α)) (path : ModulePath) :
    (imports.addLinks links).module? path =
      (imports.module? path).or ((links.find? (·.target = path)).map Link.module) := by
  induction links generalizing imports with
  | nil => simp [addLinks]
  | cons link more ih =>
      have hmore := ih (imports.register link.decl.localName.id link.target link.module)
      rw [module?_register] at hmore
      refine hmore.trans ?_
      by_cases htarget : link.target = path <;> cases imports.module? path <;> simp [htarget]

lemma module?_empty (chain : ImportChain) (path : ModulePath) :
    (empty chain : Imports α).module? path = none := by
  simp [module?, empty]

/-- A local name that is registered stands for the path that it stood for before, and only if
there was none for the one that it is registered with. -/
lemma lookup_localNames_register (imports : Imports α) (localName : String) (path : ModulePath)
    (info : ModuleInfo α) (other : String) :
    (imports.register localName path info).localNames.lookup other =
      (imports.localNames.lookup other).or (if localName = other then some path else none) := by
  have hnames : (imports.register localName path info).localNames =
      if (localName, path) ∈ imports.localNames then imports.localNames
      else imports.localNames ++ [(localName, path)] := rfl
  rw [hnames]
  by_cases hname : localName = other
  · subst hname
    rw [if_pos rfl]
    split_ifs with hpair
    · have hknown : (imports.localNames.lookup localName).isSome = true :=
        List.lookup_isSome_iff.mpr ⟨_, hpair, beq_self_eq_true localName⟩
      obtain ⟨found, hfound⟩ := Option.isSome_iff_exists.mp hknown
      rw [hfound, Option.some_or]
    · rw [List.lookup_append, List.lookup_cons_self]
  · rw [if_neg hname, Option.or_none]
    split_ifs
    · rfl
    · rw [List.lookup_append, List.lookup_cons, beq_eq_false_iff_ne.mpr (Ne.symm hname)]
      exact Option.or_none

/-- A local name stands for the path that it stood for before, and only if there was none for the
target of the first link that has it. -/
lemma lookup_localNames_addLinks (imports : Imports α) (links : List (Link α))
    (localName : String) :
    (imports.addLinks links).localNames.lookup localName =
      (imports.localNames.lookup localName).or
        ((links.find? (·.decl.localName.id = localName)).map Link.target) := by
  induction links generalizing imports with
  | nil => simp [addLinks]
  | cons link more ih =>
      have hmore := ih (imports.register link.decl.localName.id link.target link.module)
      rw [lookup_localNames_register] at hmore
      refine hmore.trans ?_
      by_cases hname : link.decl.localName.id = localName <;>
        cases imports.localNames.lookup localName <;> simp [hname]

/-- What is found under a local name is the module at the target of the first link that has it. -/
lemma get?_addLinks_empty (chain : ImportChain) (links : List (Link α)) (localName : String) :
    ((empty chain).addLinks links).get? localName =
      (links.find? (·.decl.localName.id = localName)).bind fun link =>
        ((empty chain).addLinks links).module? link.target := by
  have hnone : (empty chain : Imports α).localNames.lookup localName = none := rfl
  rw [get?, lookup_localNames_addLinks, hnone, Option.none_or, Option.bind_map]
  rfl

/-- The paths that are known are the targets of links, and those that were known before. -/
lemma contains_addLinks (imports : Imports α) (links : List (Link α)) (path : ModulePath) :
    (imports.addLinks links).contains path = true ↔
      imports.contains path = true ∨ path ∈ links.map Link.target := by
  induction links generalizing imports with
  | nil => simp [addLinks]
  | cons link more ih =>
      have hmore := ih (imports.register link.decl.localName.id link.target link.module)
      rw [contains_register] at hmore
      rw [List.map_cons, List.mem_cons]
      exact hmore.trans (by tauto)

/-- The targets that are known to be internal are those of links to internal modules. -/
lemma contains_internal_addLinks (imports : Imports α) (links : List (Link α))
    (path : ModulePath) :
    (imports.addLinks links).internal.contains path = true ↔
      imports.internal.contains path = true ∨
        ∃ link ∈ links, link.target = path ∧ link.module.isInternal = true := by
  induction links generalizing imports with
  | nil => simp [addLinks]
  | cons link more ih =>
      have hregister : (imports.register link.decl.localName.id link.target
          link.module).internal.contains path = true ↔
            imports.internal.contains path = true ∨
              link.target = path ∧ link.module.isInternal = true := by
        rw [register]
        by_cases hinternal : link.module.isInternal = true
        · simp [hinternal, or_comm]
        · simp [hinternal]
      have hmore := ih (imports.register link.decl.localName.id link.target link.module)
      rw [hregister] at hmore
      simpa [addLinks, or_assoc] using hmore

/-- Links with different targets are held once they are registered. -/
lemma holds_addLinks (chain : ImportChain) {links : List (Link α)}
    (hdistinct : (links.map Link.target).Nodup) :
    ((empty chain).addLinks links).Holds chain links where
  chain := chain_addLinks (empty chain) links
  localNames := by
    have hnodup : ((empty chain : Imports α).paths ++ links.map Link.target).Nodup := hdistinct
    exact localNames_addLinks hnodup
  distinct := hdistinct
  modules path info := by
    rw [module?_addLinks, module?_empty, Option.none_or, Option.map_eq_some_iff]
    exact exists_congr fun link => by
      rw [find?_eq_some_iff_of_nodup hdistinct, and_assoc]
  internal path := by
    rw [contains_internal_addLinks]
    simp [empty]

/-- What the frontend made of links with different targets is found in the order of the
links. -/
lemma artifacts_addLinks_empty (chain : ImportChain) {links : List (Link α)}
    (hdistinct : (links.map Link.target).Nodup) :
    ((empty chain).addLinks links).artifacts = links.map (·.module.checked) := by
  have hfound : ∀ link ∈ links, (((empty chain).addLinks links).module? link.target).map
      (link.target, ·) = some (link.target, link.module) := by
    intro link hlink
    have hmodule := ((holds_addLinks chain hdistinct).modules link.target link.module).mpr
      ⟨link, hlink, rfl, rfl⟩
    rw [hmodule, Option.map_some]
  rw [artifacts, inOrder, paths_addLinks_empty chain hdistinct, List.filterMap_map,
    Function.comp_def, List.filterMap_congr hfound, List.filterMap_eq_map', List.map_map]
  rfl

/-- If no target comes twice, a target is known to be internal iff the module there is. -/
lemma contains_internal_of_mem {chain : ImportChain} {links : List (Link α)} {link : Link α}
    (hnodup : (links.map Link.target).Nodup) (hlink : link ∈ links) :
    ((empty chain).addLinks links).internal.contains link.target = link.module.isInternal := by
  rw [Bool.eq_iff_iff, contains_internal_addLinks]
  constructor
  · rintro (hempty | ⟨other, hother, htarget, hinternal⟩)
    · simp [empty] at hempty
    · rwa [← List.inj_on_of_nodup_map hnodup hother hlink htarget]
  · exact fun hinternal => .inr ⟨link, hlink, rfl, hinternal⟩

/-- Nothing else holds the links. -/
lemma Holds.eq_addLinks {imports : Imports α} {chain : ImportChain} {links : List (Link α)}
    (h : imports.Holds chain links) : imports = (empty chain).addLinks links := by
  have hadded := holds_addLinks chain h.distinct
  refine Imports.ext (h.chain.trans hadded.chain.symm) ?_
    (h.localNames.trans hadded.localNames.symm) ?_
  · refine Std.ExtTreeMap.ext_getElem? fun path => Option.ext fun info => ?_
    exact (h.modules path info).trans (hadded.modules path info).symm
  · refine Std.ExtTreeSet.ext_contains fun path => ?_
    rw [Bool.eq_iff_iff]
    exact (h.internal path).trans (hadded.internal path).symm

end BriskModules.Imports
