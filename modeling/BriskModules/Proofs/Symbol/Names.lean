import BriskModules.Symbol.Table
import Mathlib.Tactic

/-!
The names of a unit, read off its members and imports.

The table of the names of a unit is described without tables: a name is declared by a
member, exposed by the specification, the local name of an import, or exposed by an import,
of which the last one counts.

* `NameMap.getElem?_foldl_insert`: of pairs with the same key the last one counts;
* `NameMap.getElem?_insert_eq_or`, `NameMap.getElem?_insertIfNew`: a pair that is inserted anyway,
  and one that is inserted unless its key is known;
* `NameMap.getElem?_filter_contains`: a table restricted to a set of names;
* `NameSet.mem_ite_insert`: a name that is inserted on a condition;
* `CompilationUnit.Declares`, `CompilationUnit.Hides`: names of members;
* `CompilationUnit.owner?`: the import that a name comes from;
* `isHidden_ofUnit`, `importedAs?_ofUnit`, `owner?_ofUnit`: the table knows these.
-/

namespace BriskModules

/-- Of pairs that are inserted one after the other, the last one with a key counts. -/
lemma NameMap.getElem?_foldl_insert {β : Type} (pairs : List (String × β)) (map : NameMap β)
    (name : String) :
    (pairs.foldl (fun map pair => map.insert pair.1 pair.2) map)[name]? =
      ((pairs.filter (·.1 = name)).getLast?.map (·.2)).or map[name]? := by
  induction pairs using List.reverseRecOn with
  | nil => simp
  | append_singleton front pair ih =>
      rw [List.foldl_append, List.foldl_cons, List.foldl_nil, Std.ExtTreeMap.getElem?_insert, ih,
        List.filter_append, List.getLast?_append]
      simp only [Std.LawfulEqOrd.compare_eq_iff_eq]
      by_cases hpair : pair.1 = name
      · simp [hpair]
      · simp [hpair]

/-- A pair that is inserted counts instead of what was there. -/
lemma NameMap.getElem?_insert_eq_or {β : Type} (map : NameMap β) (name other : String)
    (value : β) :
    (map.insert name value)[other]? =
      (if other = name then some value else none).or map[other]? := by
  rw [Std.ExtTreeMap.getElem?_insert]
  by_cases heq : other = name
  · simp [heq]
  · simp [heq, Ne.symm heq]

/-- A pair that is inserted unless its key is known changes nothing for the keys that are. -/
lemma NameMap.getElem?_insertIfNew {β : Type} (map : NameMap β) (name other : String)
    (value : β) :
    (map.insertIfNew name value)[other]? =
      map[other]?.or (if other = name then some value else none) := by
  rw [Std.ExtTreeMap.getElem?_insertIfNew]
  by_cases heq : other = name
  · subst heq
    cases hfound : map[other]? with
    | none =>
        have hnew : other ∉ map := by
          simp [← Std.ExtTreeMap.isSome_getElem?_iff_mem, hfound]
        simp [hnew]
    | some found =>
        have hold : other ∈ map := by
          simp [← Std.ExtTreeMap.isSome_getElem?_iff_mem, hfound]
        simp [hold]
  · simp [heq, Ne.symm heq]

/-- A table restricted to a set of names. -/
lemma NameMap.getElem?_filter_contains {β : Type} (map : NameMap β) (names : NameSet)
    (name : String) :
    (map.filter fun key _ => names.contains key)[name]? =
      if name ∈ names then map[name]? else none := by
  rw [Std.ExtTreeMap.getElem?_filter']
  cases map[name]? with
  | none => simp
  | some value => by_cases hmem : name ∈ names <;> simp [hmem]

/-- A set with one more name, if a condition holds. -/
lemma NameSet.mem_ite_insert (names : NameSet) (name other : String) (p : Prop) [Decidable p] :
    name ∈ (if p then names.insert other else names) ↔ name ∈ names ∨ other = name ∧ p := by
  split_ifs with h
  · rw [Std.ExtTreeSet.mem_insert, Std.LawfulEqOrd.compare_eq_iff_eq, or_comm, and_iff_left h]
  · simp only [h, and_false, or_false]

namespace CompilationUnit

variable (unit : CompilationUnit) (name : String)

/-- A name is declared by a member. -/
def Declares : Prop := name ∈ unit.members.map (·.name.id)

/-- A name is declared by a member and not exposed. -/
def Hides : Prop := unit.Declares name ∧ name ∉ unit.exposes

instance : Decidable (unit.Declares name) := inferInstanceAs (Decidable (name ∈ _))

instance : Decidable (unit.Hides name) := inferInstanceAs (Decidable (_ ∧ _))

/-- The imports that expose a name. -/
def exposers : List Import :=
  unit.imports.filter fun decl => name ∈ decl.exposing.map (·.id)

/-- The local name of the import that a name comes from: a declaration hides all imports, a
local name is its own, and of the imports that expose the name the last one counts. -/
def owner? : Option String :=
  if unit.Declares name then none
  else if name ∈ unit.imports.map (·.localName.id) then some name
  else (unit.exposers name).getLast?.map (·.localName.id)

end CompilationUnit

namespace SymbolTable

variable (unit : CompilationUnit) (name : String)

lemma isToplevel_ofUnit : (ofUnit unit).isToplevel name = decide (unit.Declares name) := by
  rw [Bool.eq_iff_iff, decide_eq_true_iff, isToplevel, ofUnit, Std.ExtTreeSet.contains_iff_mem,
    NameSet.mem_ofNames, CompilationUnit.Declares]

/-- The names that a unit exposes are those of its specification. -/
lemma isExposed_ofUnit : (ofUnit unit).isExposed name = decide (name ∈ unit.exposes) := by
  rw [Bool.eq_iff_iff, decide_eq_true_iff, isExposed, ofUnit, Std.ExtTreeSet.contains_iff_mem,
    NameSet.mem_ofNames]

lemma isHidden_ofUnit : (ofUnit unit).isHidden name = decide (unit.Hides name) := by
  rw [isHidden, isToplevel_ofUnit, isExposed_ofUnit, Bool.eq_iff_iff, decide_eq_true_iff,
    CompilationUnit.Hides]
  simp

lemma contains_modules_ofUnit :
    (ofUnit unit).modules.contains name = decide (name ∈ unit.imports.map (·.localName.id)) := by
  rw [Bool.eq_iff_iff, decide_eq_true_iff, ofUnit, Std.ExtTreeSet.contains_iff_mem,
    NameSet.mem_ofNames]

/-- Of the imports that expose a name the last one counts. -/
lemma getElem?_members_ofUnit :
    (ofUnit unit).members[name]? = (unit.exposers name).getLast?.map (·.localName.id) := by
  have hpairs : (((exposedMembers unit.imports).filter (·.1 = name)).getLast?.map (·.2)) =
      (unit.exposers name).getLast?.map (·.localName.id) := by
    rw [exposedMembers, CompilationUnit.exposers]
    induction unit.imports using List.reverseRecOn with
    | nil => rfl
    | append_singleton front decl ih =>
        rw [List.flatMap_append, List.filter_append, List.filter_append, List.getLast?_append,
          List.getLast?_append, List.flatMap_singleton, List.filter_map]
        by_cases hname : name ∈ decl.exposing.map (·.id)
        · have hne : decl.exposing.filter (fun exposed => exposed.id = name) ≠ [] := by
            obtain ⟨exposed, hexposed, rfl⟩ := List.mem_map.mp hname
            exact List.ne_nil_of_mem (List.mem_filter.mpr ⟨hexposed, by simp⟩)
          have hlast := List.getLast?_eq_some_getLast hne
          simp only [List.filter_cons, hname, decide_true, ↓reduceIte, List.filter_nil,
            List.getLast?_singleton, Option.some_or, List.getLast?_map, Function.comp_def, hlast,
            Option.map_some]
        · have hnil : decl.exposing.filter (fun exposed => exposed.id = name) = [] := by
            rw [List.filter_eq_nil_iff]
            intro exposed hexposed
            simpa using fun heq => hname (List.mem_map.mpr ⟨exposed, hexposed, heq⟩)
          simp only [List.filter_cons, hname, decide_false, Bool.false_eq_true, ↓reduceIte,
            List.filter_nil, List.getLast?_nil, Option.none_or, List.map_nil, Function.comp_def,
            hnil]
          exact ih
  rw [← hpairs, ofUnit, NameMap.getElem?_foldl_insert]
  simp

/-- The table knows what a name refers to: a declaration hides all imports, a local name hides
the members that imports expose, and of the imports that expose a name the last one counts. -/
lemma importedAs?_ofUnit :
    (ofUnit unit).importedAs? name =
      if unit.Declares name then none
      else if name ∈ unit.imports.map (·.localName.id) then some .wholeModule
      else (unit.exposers name).getLast?.map fun decl => .member decl.localName.id := by
  have htoplevel : (ofUnit unit).toplevel.contains name = decide (unit.Declares name) :=
    isToplevel_ofUnit unit name
  rw [importedAs?, htoplevel, contains_modules_ofUnit, getElem?_members_ofUnit, Option.map_map]
  simp only [decide_eq_true_eq]
  rfl

/-- The table knows which import a name comes from. -/
lemma owner?_ofUnit : (ofUnit unit).owner? name = unit.owner? name := by
  rw [owner?, importedAs?_ofUnit, CompilationUnit.owner?]
  split_ifs
  · rfl
  · rfl
  · rw [Option.map_map]
    rfl

end SymbolTable

end BriskModules
