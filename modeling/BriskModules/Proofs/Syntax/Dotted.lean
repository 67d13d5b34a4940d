import BriskModules.Proofs.Text.Pieces
import BriskModules.Syntax.Tree

/-!
Dotted names of static and dynamic paths.

A singleton is known by a dotted name, a call of it by the names at the start of its callee with
dots in between, and its captures by static paths with dots between their names. These texts stand
for the same names: a text that is cut at its dots is joined to the same text again, and names
without dots are found again in the text that joins them.

* `Undotted`: names without dots;
* `StaticPath.ids_ofDotted`, `StaticPath.dotted_ofDotted`, `StaticPath.ids_ofDotted_dotted_iff`: a
  text is read as a path and written again, and a path is written and read again;
* `StaticPath.toDynamic`: the dynamic path with the names of a static one;
* `DynamicPath.LeadsWith`, `DynamicPath.exists_leadsWith`: the fields that a dynamic path starts
  with, as many as there are;
* `eq_of_joined_eq`: names without dots are told apart by the text that joins them;
* `dotted_agrees` (**dotted names agree across both kinds of paths**).
-/

namespace BriskModules

/-- None of some names has a dot in it. -/
def Undotted (ids : List String) : Prop := ∀ id ∈ ids, '.' ∉ id.toList

instance (ids : List String) : Decidable (Undotted ids) :=
  inferInstanceAs (Decidable (∀ id ∈ ids, '.' ∉ id.toList))

/-- Names without dots are told apart by the text that joins them. -/
lemma eq_of_joined_eq {ids others : List String} (hne : ids ≠ []) (hne' : others ≠ [])
    (h : Undotted ids) (h' : Undotted others) (heq : Text.joined "." ids = Text.joined "." others) :
    ids = others := by
  calc ids = Text.cut '.' (Text.joined "." ids) := (Text.cut_joined hne h).symm
    _ = Text.cut '.' (Text.joined "." others) := by rw [heq]
    _ = others := Text.cut_joined hne' h'

/-! ### Static paths -/

namespace StaticPath

/-- A text is read as the path of its parts. -/
lemma ids_ofDotted (text : String) : (ofDotted text).ids = Text.cut '.' text := by
  have hne : Text.cut '.' text ≠ [] := by
    simpa [Text.cut] using Text.pieces_ne_nil '.' text.toList
  obtain ⟨first, rest, hparts⟩ := List.exists_cons_of_ne_nil hne
  simp [ofDotted, ids, hparts, Function.comp_def]

/-- A text that is read as a path is what is written of the path. -/
lemma dotted_ofDotted (text : String) : (ofDotted text).dotted = text := by
  rw [dotted, ids_ofDotted]
  exact Text.joined_cut '.' text

/-- Exactly the paths of names without dots are read back from what is written of them. -/
lemma ids_ofDotted_dotted_iff (path : StaticPath) :
    (ofDotted path.dotted).ids = path.ids ↔ Undotted path.ids := by
  rw [ids_ofDotted]
  constructor
  · intro h id hid
    rw [← h] at hid
    exact Text.notMem_of_mem_cut hid
  · exact Text.cut_joined (List.cons_ne_nil _ _)

/-- The dynamic path with the same names: all but the first are fields. -/
def toDynamic (path : StaticPath) : DynamicPath := ⟨path.first, path.rest.map .field⟩

end StaticPath

/-! ### Dynamic paths -/

namespace DynamicPath

/-- Fields that a path starts with behind its first name, and there is no longer run of them. -/
structure LeadsWith (path : DynamicPath) (fields : List Name) : Prop where
  leads : fields.map .field <+: path.accesses
  longest : ∀ others : List Name, others.map .field <+: path.accesses → others <+: fields

/-- The static part of a path is its first name and the longest run of fields behind it. -/
lemma exists_leadsWith (path : DynamicPath) :
    ∃ fields, path.LeadsWith fields ∧ path.staticPart = path.first.id :: fields.map Name.id := by
  obtain ⟨first, accesses⟩ := path
  induction accesses with
  | nil =>
      refine ⟨[], ⟨List.nil_prefix, fun others hothers => ?_⟩, rfl⟩
      simpa using hothers
  | cons step more ih =>
      cases step with
      | field name =>
          obtain ⟨fields, ⟨hleads, hlongest⟩, hpart⟩ := ih
          have hids : leadingFields more = fields.map Name.id := (List.cons.inj hpart).2
          refine ⟨name :: fields, ⟨?_, fun others hothers => ?_⟩, ?_⟩
          · exact List.cons_prefix_cons.mpr ⟨rfl, hleads⟩
          · cases others with
            | nil => exact List.nil_prefix
            | cons other others =>
                obtain ⟨hname, hmore⟩ := List.cons_prefix_cons.mp hothers
                rw [Access.field.inj hname]
                exact List.cons_prefix_cons.mpr ⟨rfl, hlongest others hmore⟩
          · rw [staticPart, leadingFields, hids, List.map_cons]
      | _ =>
          -- no field comes first, so there is no run but the empty one
          refine ⟨[], ⟨List.nil_prefix, fun others hothers => ?_⟩, rfl⟩
          cases others with
          | nil => exact List.nil_prefix
          | cons other others => cases (List.cons_prefix_cons.mp hothers).1

/-- All names of a static path are the static part of the same dynamic path. -/
lemma staticPart_toDynamic (path : StaticPath) : path.toDynamic.staticPart = path.ids := by
  have hfields : ∀ names : List Name, leadingFields (names.map .field) = names.map Name.id := by
    intro names
    induction names with
    | nil => rfl
    | cons name more ih => rw [List.map_cons, leadingFields, ih, List.map_cons]
  exact congrArg (path.first.id :: ·) (hfields path.rest)

/-- A text is read as the same path of either kind. -/
lemma ofDotted_eq_toDynamic (text : String) :
    ofDotted text = (StaticPath.ofDotted text).toDynamic := by
  rw [ofDotted, StaticPath.ofDotted]
  cases Text.cut '.' text with
  | nil => rfl
  | cons first rest => simp [StaticPath.toDynamic]

end DynamicPath

/-! ### Both kinds of paths -/

/-- **Dotted names agree across both kinds of paths**: a text that is read as a path is written
again as it is, and has the same names as a static path and as the static part of a dynamic one;
exactly the paths of names without dots are read back from what is written of them. The static part
of a dynamic path is its first name and the longest run of fields behind it, joined by dots it is
what is written of a static path with the same names, and static parts of names without dots are
told apart by that. -/
theorem dotted_agrees (text : String) (path : StaticPath) (dynamic other : DynamicPath) :
    (StaticPath.ofDotted text).dotted = text ∧
    (DynamicPath.ofDotted text).staticPart = (StaticPath.ofDotted text).ids ∧
    ((StaticPath.ofDotted path.dotted).ids = path.ids ↔ Undotted path.ids) ∧
    (∃ fields, dynamic.LeadsWith fields ∧
      dynamic.staticPart = dynamic.first.id :: fields.map Name.id) ∧
    Text.joined "." path.toDynamic.staticPart = path.dotted ∧
    (Undotted dynamic.staticPart → Undotted other.staticPart →
      Text.joined "." dynamic.staticPart = Text.joined "." other.staticPart →
        dynamic.staticPart = other.staticPart) := by
  refine ⟨StaticPath.dotted_ofDotted text, ?_, path.ids_ofDotted_dotted_iff,
    dynamic.exists_leadsWith, ?_, eq_of_joined_eq (List.cons_ne_nil _ _) (List.cons_ne_nil _ _)⟩
  · rw [DynamicPath.ofDotted_eq_toDynamic, DynamicPath.staticPart_toDynamic]
  · rw [DynamicPath.staticPart_toDynamic, StaticPath.dotted]

/-- The static parts of `buf.slot[i].len` and of `buf.slot:reset` are joined to the same text, so
they are the same. -/
theorem dotted_agrees_slot :
    let indexed : DynamicPath := ⟨⟨"buf", {}⟩,
      [.field ⟨"slot", {}⟩, .index (.ofDotted "i"), .field ⟨"len", {}⟩]⟩
    let pointed : DynamicPath := ⟨⟨"buf", {}⟩, [.field ⟨"slot", {}⟩, .point ⟨"reset", {}⟩]⟩
    Undotted indexed.staticPart ∧ Undotted pointed.staticPart ∧
    Text.joined "." indexed.staticPart = Text.joined "." pointed.staticPart ∧
    indexed.staticPart = pointed.staticPart := by
  intro indexed pointed
  have hindexed : Undotted indexed.staticPart := by decide
  have hpointed : Undotted pointed.staticPart := by decide
  have hjoined : Text.joined "." indexed.staticPart = Text.joined "." pointed.staticPart := rfl
  obtain ⟨-, -, -, -, -, hequal⟩ := dotted_agrees "buf.slot" (.ofDotted "buf.slot") indexed pointed
  exact ⟨hindexed, hpointed, hjoined, hequal hindexed hpointed hjoined⟩

/-- A name with a dot in it is taken for two names. -/
example :
    Text.joined "." (DynamicPath.staticPart ⟨⟨"m.f", {}⟩, []⟩) =
      Text.joined "." (DynamicPath.ofDotted "m.f").staticPart := by
  decide +kernel

end BriskModules
