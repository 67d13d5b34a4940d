import Std.Data.ExtTreeMap
import Std.Data.ExtTreeSet

/-!
Sets of names and tables under names, both in the order of the names.

Two sets with the same elements are equal, and so are two tables that agree at every
name; listing them follows the order of the code points.
-/

namespace BriskModules

/-- A set of names. -/
abbrev NameSet := Std.ExtTreeSet String

/-- A table under names. -/
abbrev NameMap (β : Type) := Std.ExtTreeMap String β

/-- The set of the given names. -/
def NameSet.ofNames (names : List String) : NameSet :=
  names.foldl (fun set name => set.insert name) ∅

/-- A set with the given names in addition. -/
def NameSet.insertAll (set : NameSet) (names : List String) : NameSet :=
  names.foldl (fun set name => set.insert name) set

/-- The set of the names of a table. -/
def NameMap.names {β : Type} (map : NameMap β) : NameSet :=
  NameSet.ofNames map.keys

/-- What a name is in after several have been added. -/
theorem NameSet.mem_insertAll {set : NameSet} {names : List String} {name : String} :
    name ∈ set.insertAll names ↔ name ∈ names ∨ name ∈ set := by
  unfold insertAll
  induction names generalizing set with
  | nil => simp
  | cons first more ih =>
    rw [List.foldl_cons, ih, Std.ExtTreeSet.mem_insert, List.mem_cons,
      Std.LawfulEqOrd.compare_eq_iff_eq]
    constructor
    · rintro (h | h | h)
      · exact .inl (.inr h)
      · exact .inl (.inl h.symm)
      · exact .inr h
    · rintro ((h | h) | h)
      · exact .inr (.inl h.symm)
      · exact .inl h
      · exact .inr (.inr h)

/-- A name is in the set of the given names iff it is one of them. -/
theorem NameSet.mem_ofNames {names : List String} {name : String} :
    name ∈ NameSet.ofNames names ↔ name ∈ names := by
  have added : name ∈ insertAll ∅ names ↔ name ∈ names ∨ name ∈ (∅ : NameSet) := mem_insertAll
  simpa [ofNames, insertAll] using added

/-- The names of a table are those under which it has something. -/
theorem NameMap.mem_names {β : Type} {map : NameMap β} {name : String} :
    name ∈ map.names ↔ name ∈ map := by
  rw [names, NameSet.mem_ofNames, Std.ExtTreeMap.mem_keys]

end BriskModules
