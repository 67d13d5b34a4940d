import BriskModules.Proofs.Export.Effect
import BriskModules.Proofs.Export.Errors

/-!
Hidden code does not interfere with what a unit exports.

Where nothing is revealed a reference has no effect, so bodies that are not evaluated during
compilation and the insides of members that are not exposed leave only their calls of
singletons behind. These commute with the references that have an effect: a call changes no
tag and no import of internals, and the owner of a required import hangs on its name only. A
walk can therefore be sorted, references first, and two units with the same references and
the same calls have the same exports, whatever else differs and wherever the calls stand.

* `Mention.singletonCall?`, `CompilationUnit.singletonCalls`: the calls of singletons;
* `Member.Alike`: members that differ in hidden code only;
* `refer_useSingleton_comm`: a reference and a call commute;
* `foldl_see_eq`: a walk, sorted;
* `Alike.shown_eq`, `Alike.seedMember_eq`: what alike members have in common;
* `inferExports_eq_of_alike`: units that are alike have the same exports.
-/

namespace BriskModules

/-! ### Calls of singletons -/

/-- The singleton that is called, with the captures, if one is. -/
def Mention.singletonCall? (facts : Facts) : Mention → Option (List String × List (List String))
  | .name .. => none
  | .call callee captures =>
    if facts.singletons.contains (Text.joined "." callee) then some (callee, captures) else none

/-- The call of a singleton that is seen, if one is. -/
def Sighting.singletonCall? (facts : Facts) (sighting : Sighting) :
    Option (List String × List (List String)) :=
  sighting.mention.singletonCall? facts

/-- The calls of singletons in a unit, in the order of the walk. -/
def CompilationUnit.singletonCalls (unit : CompilationUnit) (facts : Facts) :
    List (List String × List (List String)) :=
  unit.sightings.filterMap (Sighting.singletonCall? facts)

/-! ### Members that are alike -/

/-- How a member is declared. -/
inductive MemberForm where
  | var
  | type (kind : AbstractKind)
  | subprogram
  | prototype
deriving DecidableEq, Repr

namespace Member

/-- The form in which a member is declared; for a type, what it is declared as. -/
def form : Member → MemberForm
  | .var _ => .var
  | .type ⟨_, .struct _⟩ => .type .struct
  | .type ⟨_, .newType _⟩ => .type .newType
  | .type ⟨_, .opaqueType⟩ => .type .bare
  | .subprogram _ => .subprogram
  | .prototype _ => .prototype

/-- Members that differ in hidden code only: in a body that is not evaluated during
compilation, or, if they are not exposed, in all but their name, their form and whether they
are singletons. -/
inductive Alike (exposed : Bool) : Member → Member → Prop where
  | same (member : Member) : Alike exposed member member
  | body (decl : SubprogramDecl) (other : List Stmt) (runtime : decl.compileTime = false) :
      Alike exposed (.subprogram decl) (.subprogram { decl with body := other })
  | hidden {member other : Member} (unexposed : exposed = false)
      (name : other.name.id = member.name.id) (form : other.form = member.form)
      (singleton : other.isSingleton = member.isSingleton) : Alike exposed member other

end Member

/-! ### Sorting a walk -/

/-- The occurrence that is seen, if its place reveals anything. -/
def Sighting.shown? (sighting : Sighting) : Option Occurrence :=
  sighting.occurrence?.filter (·.visibility ≠ .invisible)

namespace Surroundings

variable (known : Surroundings)

/-- What follows from an occurrence. -/
def refer (context : ExportContext) (occurrence : Occurrence) : ExportContext :=
  known.reference occurrence.kind occurrence.visibility occurrence.exposing
    (occurrence.first :: occurrence.rest) occurrence.loc context

/-- What follows from a call of a singleton. -/
def useSingleton (context : ExportContext) (call : List String × List (List String)) :
    ExportContext :=
  known.singletonCall call.1 call.2 context

/-- A reference and a call commute. -/
lemma refer_useSingleton_comm (context : ExportContext) (occurrence : Occurrence)
    (call : List String × List (List String)) :
    known.refer (known.useSingleton context call) occurrence =
      known.useSingleton (known.refer context occurrence) call := by
  obtain ⟨callee, captures⟩ := call
  by_cases hsingleton : known.IsSingleton callee
  · have htag : (known.singletonCall callee captures context).tag? occurrence.first =
        context.tag? occurrence.first :=
      known.tag?_see context ⟨occurrence.exposing, occurrence.visibility, .call callee captures⟩ _
    have hinternal : (known.singletonCall callee captures context).internalImports =
        context.internalImports := known.internalImports_singletonCall context callee captures
    simp only [refer, useSingleton, reference_eq, known.demands_congr htag,
      known.reported_congr hinternal]
    simp only [singletonCall_eq, if_pos hsingleton]
    by_cases hvisibility : occurrence.visibility = .invisible
    · simp [hvisibility]
    · simp [hvisibility, known.required_comm]
  · simp [refer, useSingleton, singletonCall_eq, hsingleton]

/-- A sighting is a reference that has an effect, or a call of a singleton, or has no effect. -/
lemma see_cases (sighting : Sighting) :
    (∃ occurrence, sighting.shown? = some occurrence ∧
      sighting.singletonCall? known.facts = none ∧
        ∀ context, known.see context sighting = known.refer context occurrence) ∨
    (∃ call, sighting.shown? = none ∧ sighting.singletonCall? known.facts = some call ∧
      ∀ context, known.see context sighting = known.useSingleton context call) ∨
    (sighting.shown? = none ∧ sighting.singletonCall? known.facts = none ∧
      ∀ context, known.see context sighting = context) := by
  obtain ⟨exposing, visibility, mention⟩ := sighting
  cases mention with
  | name kind first rest loc sized =>
      by_cases hvisible : visibility.within sized = .invisible
      · refine .inr (.inr ⟨?_, rfl, fun context => ?_⟩)
        · simp [Sighting.shown?, Sighting.occurrence?, hvisible]
        · rw [see, follow, hvisible]
          rfl
      · refine .inl ⟨⟨kind, first, rest, loc, exposing, visibility.within sized⟩, ?_, rfl,
          fun context => rfl⟩
        simp [Sighting.shown?, Sighting.occurrence?, hvisible]
  | call callee captures =>
      by_cases hsingleton : known.facts.singletons.contains (Text.joined "." callee) = true
      · exact .inr (.inl ⟨(callee, captures), rfl, if_pos hsingleton, fun context => rfl⟩)
      · refine .inr (.inr ⟨rfl, if_neg hsingleton, fun context => ?_⟩)
        rw [see, follow, singletonCall_eq]
        exact if_neg hsingleton

/-- **A walk, sorted**: all references that have an effect may come first, and then all calls of
singletons. -/
lemma foldl_see_eq (sightings : List Sighting) (context : ExportContext) :
    sightings.foldl known.see context =
      (sightings.filterMap (Sighting.singletonCall? known.facts)).foldl known.useSingleton
        ((sightings.filterMap Sighting.shown?).foldl known.refer context) := by
  induction sightings generalizing context with
  | nil => rfl
  | cons sighting more ih =>
      rw [List.foldl_cons, ih]
      rcases known.see_cases sighting with ⟨occurrence, hshown, hcall, hsee⟩ |
        ⟨call, hshown, hcall, hsee⟩ | ⟨hshown, hcall, hsee⟩
      · rw [List.filterMap_cons_some hshown, List.filterMap_cons_none hcall, hsee,
          List.foldl_cons]
      · -- the call moves behind the references of all that follows
        have hmove : (more.filterMap Sighting.shown?).foldl known.refer
            (known.useSingleton context call) =
              known.useSingleton ((more.filterMap Sighting.shown?).foldl known.refer context)
                call :=
          List.foldl_hom (known.useSingleton · call)
            fun context occurrence => known.refer_useSingleton_comm context occurrence call
        rw [List.filterMap_cons_none hshown, List.filterMap_cons_some hcall, hsee,
          List.foldl_cons, hmove]
      · rw [List.filterMap_cons_none hshown, List.filterMap_cons_none hcall, hsee]

end Surroundings

/-! ### What alike members have in common -/

/-- Nothing is shown where nothing is revealed. -/
lemma Sighting.filterMap_shown?_of_invisible {sightings : List Sighting}
    (h : ∀ sighting ∈ sightings, sighting.visibility = .invisible) :
    sightings.filterMap Sighting.shown? = [] := by
  refine List.filterMap_eq_nil_iff.mpr fun sighting hsighting => ?_
  have hinvisible := h sighting hsighting
  obtain ⟨exposing, visibility, mention⟩ := sighting
  subst hinvisible
  cases mention with
  | name kind first rest loc sized => cases sized <;> rfl
  | call callee captures => rfl

namespace Member

variable (member other : Member) {exposed : Bool}

/-- What is mentioned in a member does not hang on whether it is exposed. -/
lemma map_mention_sightings (exposed' : Bool) :
    (member.sightings exposed).map Sighting.mention =
      (member.sightings exposed').map Sighting.mention := by
  cases member with
  | var decl => simp [sightings]
  | type decl =>
      obtain ⟨name, kind⟩ := decl
      cases kind <;> simp [sightings]
  | subprogram decl => simp [sightings, Function.comp_def]
  | prototype decl => simp [sightings]

/-- All in a member that is not exposed is invisible. -/
lemma visibility_of_mem_sightings {sighting : Sighting}
    (h : sighting ∈ member.sightings false) : sighting.visibility = .invisible := by
  cases member with
  | var decl =>
      obtain ⟨_, _, rfl⟩ := List.mem_map.mp h
      rfl
  | type decl =>
      obtain ⟨name, kind⟩ := decl
      cases kind with
      | struct fields =>
          obtain ⟨_, _, rfl⟩ := List.mem_map.mp h
          rfl
      | newType datatype =>
          obtain ⟨_, _, rfl⟩ := List.mem_map.mp h
          rfl
      | opaqueType => exact absurd h List.not_mem_nil
  | subprogram decl =>
      rcases List.mem_append.mp h with h | h
      · obtain ⟨_, _, rfl⟩ := List.mem_map.mp h
        rfl
      · obtain ⟨_, _, rfl⟩ := List.mem_map.mp h
        exact ite_self _
  | prototype decl =>
      obtain ⟨_, _, rfl⟩ := List.mem_map.mp h
      rfl

namespace Alike

variable {member other}

lemma name_eq (h : Alike exposed member other) : other.name.id = member.name.id := by
  cases h with
  | same => rfl
  | body => rfl
  | hidden _ name => exact name

/-- Alike members show the same occurrences. -/
lemma shown_eq (h : Alike exposed member other) :
    (other.sightings exposed).filterMap Sighting.shown? =
      (member.sightings exposed).filterMap Sighting.shown? := by
  cases h with
  | same => rfl
  | body decl body runtime =>
      have hbody : ∀ stmts : List Stmt, ((Mention.ofStmts stmts).map
          (Sighting.mk decl.name.id (Visibility.ofDeclaration exposed).weaken)).filterMap
            Sighting.shown? = [] := by
        refine fun stmts => Sighting.filterMap_shown?_of_invisible fun sighting hsighting => ?_
        obtain ⟨_, _, rfl⟩ := List.mem_map.mp hsighting
        cases exposed <;> rfl
      simp only [sightings, runtime, Bool.false_eq_true, ↓reduceIte, List.filterMap_append, hbody]
  | hidden unexposed =>
      subst unexposed
      rw [Sighting.filterMap_shown?_of_invisible fun _ => visibility_of_mem_sightings other,
        Sighting.filterMap_shown?_of_invisible fun _ => visibility_of_mem_sightings member]

/-- A form tells what is left of a type when its structure is withheld. -/
lemma abstractKind?_of_form (h : other.form = member.form) :
    other.abstractKind? = member.abstractKind? := by
  have hform : ∀ member : Member, member.abstractKind? =
      match member.form with
      | .type kind => some kind
      | _ => none := by
    intro member
    cases member with
    | type decl =>
        obtain ⟨name, kind⟩ := decl
        cases kind <;> rfl
    | var _ => rfl
    | subprogram _ => rfl
    | prototype _ => rfl
  rw [hform, hform, h]

/-- Alike members are noted in the same way before the walk. -/
lemma seedMember_eq (h : Alike exposed member other) (symbols : SymbolTable)
    (context : ExportContext) :
    seedMember symbols context other = seedMember symbols context member := by
  cases h with
  | same => rfl
  | body => rfl
  | hidden _ name form singleton =>
      simp only [seedMember, seedAbstractType, seedSingleton, name, singleton,
        abstractKind?_of_form form]

end Alike

end Member

/-! ### Units that are alike -/

/-- The walk through a unit follows what is seen in it, whatever tells which names are
exposed. -/
lemma collectExports_eq_foldl_sightings (unit : CompilationUnit) (current : ModulePath)
    (symbols : SymbolTable) (facts : Facts) (internal : ModuleSet) :
    collectExports unit current symbols facts internal =
      (unit.members.flatMap fun member =>
        member.sightings (symbols.isExposed member.name.id)).foldl
          (Surroundings.see ⟨symbols, facts, unit.isInternal⟩)
          (exportSeed unit current symbols internal) := by
  rw [collectExports, List.foldl_flatMap]
  congr 1
  funext context member
  exact Surroundings.member_eq_foldl _ member context

/-- The calls of singletons do not hang on what tells which names are exposed. -/
lemma CompilationUnit.singletonCalls_eq (unit : CompilationUnit) (symbols : SymbolTable)
    (facts : Facts) :
    (unit.members.flatMap fun member =>
      member.sightings (symbols.isExposed member.name.id)).filterMap
        (Sighting.singletonCall? facts) = unit.singletonCalls facts := by
  have hcalls : ∀ sightings : List Sighting, sightings.filterMap (Sighting.singletonCall? facts) =
      (sightings.map Sighting.mention).filterMap (Mention.singletonCall? facts) := by
    intro sightings
    rw [List.filterMap_map]
    rfl
  rw [singletonCalls, hcalls, hcalls, sightings, List.map_flatMap, List.map_flatMap]
  congr 2
  funext member
  exact member.map_mention_sightings _

section

variable {symbols : SymbolTable} {members members' : List Member}

/-- Members that are alike one by one. -/
abbrev MembersAlike (symbols : SymbolTable) : List Member → List Member → Prop :=
  List.Forall₂ fun member other => Member.Alike (symbols.isExposed member.name.id) member other

lemma MembersAlike.foldl_seedMember_eq (h : MembersAlike symbols members members')
    (context : ExportContext) :
    members'.foldl (seedMember symbols) context = members.foldl (seedMember symbols) context := by
  induction h generalizing context with
  | nil => rfl
  | cons alike _ ih => rw [List.foldl_cons, List.foldl_cons, alike.seedMember_eq, ih]

lemma MembersAlike.shown_eq (h : MembersAlike symbols members members') :
    (members'.flatMap fun member =>
        member.sightings (symbols.isExposed member.name.id)).filterMap Sighting.shown? =
      (members.flatMap fun member =>
        member.sightings (symbols.isExposed member.name.id)).filterMap Sighting.shown? := by
  induction h with
  | nil => rfl
  | cons alike _ ih =>
      rw [List.flatMap_cons, List.flatMap_cons, List.filterMap_append, List.filterMap_append, ih,
        alike.name_eq, alike.shown_eq]

end

section

variable {unit unit' : CompilationUnit} (current : ModulePath) (symbols : SymbolTable)
  (facts : Facts) (internal : ModuleSet)

/-- **Hidden code does not influence the interface**: two units with the same imports and the
same specification, whose members are alike one by one and which call the same singletons in
the same order, have the same exports or the same errors. -/
theorem inferExports_eq_of_alike (himports : unit'.imports = unit.imports)
    (hspec : unit'.spec = unit.spec)
    (hmembers : MembersAlike symbols unit.members unit'.members)
    (hcalls : unit'.singletonCalls facts = unit.singletonCalls facts) :
    inferExports unit' current symbols facts internal =
      inferExports unit current symbols facts internal := by
  have hinternal : unit'.isInternal = unit.isInternal := by
    rw [CompilationUnit.isInternal, hspec, CompilationUnit.isInternal]
  have hseed : exportSeed unit' current symbols internal =
      exportSeed unit current symbols internal := by
    rw [exportSeed, himports, hmembers.foldl_seedMember_eq, exportSeed]
  have hcollect : collectExports unit' current symbols facts internal =
      collectExports unit current symbols facts internal := by
    simp only [collectExports_eq_foldl_sightings, Surroundings.foldl_see_eq,
      CompilationUnit.singletonCalls_eq, hcalls, hmembers.shown_eq, hseed, hinternal]
  rw [inferExports, hcollect, inferExports]

end

/-- A module that calls a singleton in a value that is not exposed. -/
def callInValue : CompilationUnit where
  spec := some { exposes := [⟨"main", {}⟩] }
  members := [
    .var
      { name := ⟨"secret", {}⟩, permission := .const,
        init := some (.call ((Call.ofDotted "tick").withCaptures ["clock"])) },
    .subprogram { name := ⟨"main", {}⟩, kind := .activity },
    .prototype { name := ⟨"tick", {}⟩, kind := .activity, singleton := true }]

/-- The same module with the call in the body of what is exposed, and with a hidden name in
the size of an array that is not exposed. -/
def callInBody : CompilationUnit where
  spec := some { exposes := [⟨"main", {}⟩] }
  members := [
    .var
      { name := ⟨"secret", {}⟩, permission := .var,
        datatype := some (.array (.ofDotted "tick") .bool) },
    .subprogram
      { name := ⟨"main", {}⟩, kind := .activity,
        body := [.run none ((Call.ofDotted "tick").withCaptures ["clock"])] },
    .prototype { name := ⟨"tick", {}⟩, kind := .activity, singleton := true }]

/-- Moving a call from one hidden place to another one changes no export. -/
theorem inferExports_callInBody :
    MembersAlike (.ofUnit callInValue) callInValue.members callInBody.members ∧
      callInValue.singletonCalls (.ofUnit callInValue) = [(["tick"], [["clock"]])] ∧
      callInBody.singletonCalls (.ofUnit callInValue) = [(["tick"], [["clock"]])] ∧
      inferExports callInBody ⟨none, [], "a"⟩ (.ofUnit callInValue) (.ofUnit callInValue) ∅ =
        inferExports callInValue ⟨none, [], "a"⟩ (.ofUnit callInValue) (.ofUnit callInValue)
          ∅ := by
  have hmembers : MembersAlike (.ofUnit callInValue) callInValue.members callInBody.members :=
    .cons (.hidden (by decide) rfl rfl rfl) (.cons (.body _ _ rfl) (.cons (.same _) .nil))
  have hcalls : callInValue.singletonCalls (.ofUnit callInValue) = [(["tick"], [["clock"]])] := by
    decide
  have hcalls' : callInBody.singletonCalls (.ofUnit callInValue) = [(["tick"], [["clock"]])] := by
    decide
  exact ⟨hmembers, hcalls, hcalls', inferExports_eq_of_alike _ _ _ _ rfl rfl hmembers
    (hcalls'.trans hcalls.symm)⟩

end BriskModules
