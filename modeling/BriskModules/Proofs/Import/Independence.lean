import BriskModules.Proofs.Import.Trial

/-!
Imports that fail, and the others.

The verdict on an import depends on the targets accepted so far, and an import that fails adds none
to them, also if its module was required and compiled before it was turned down. So if a capability
is a function of what it is asked for, the others come to the same whether such an import is there
or not: without some of the imports that fail, there are the same verdicts on the rest, and without
all of them the imports are accepted.

* `Verdict.Right.unique`, `Trial.unique`: there is only one right verdict on each import;
* `Trial.of_sublist`: a trial without some of the imports that fail;
* `Capability.answering`: a capability that is a function;
* `checkImports_of_sublist` (**imports are checked independently of failing ones**).
-/

namespace BriskModules

variable {σ α : Type} {current : ModulePath} {chain : ImportChain} {earlier : List ModulePath}
  {verdict other : Verdict α} {verdicts others kept : List (Verdict α)}

/-! ### One verdict on each import -/

section Unique

variable {require : Capability σ α} {decls : List Import} {before after after' : σ}

/-- A verdict is told by the import, by what was required for it and by its error. -/
lemma Verdict.eq_of_inquiry (hdecl : verdict.decl = other.decl)
    (hinquiry : verdict.inquiry? = other.inquiry?) (herror : verdict.error? = other.error?) :
    verdict = other := by
  cases verdict with
  | refused | failed => cases other <;> simp_all [decl, inquiry?, error?]
  | accepted link =>
      cases other with
      | refused | failed => simp_all [decl, inquiry?, error?]
      | accepted link' =>
          obtain ⟨decl, target, info⟩ := link
          obtain ⟨decl', target', info'⟩ := link'
          simp_all [Verdict.decl, inquiry?]

/-- The same is required for an import by two right verdicts, and the capability is left in the same
state. -/
lemma Verdict.Right.inquiry_eq (hright : verdict.Right current chain earlier)
    (hright' : other.Right current chain earlier) (hdecl : verdict.decl = other.decl)
    (hserved : Served require chain before verdict.inquiry?.toList after)
    (hserved' : Served require chain before other.inquiry?.toList after') :
    verdict.inquiry? = other.inquiry? ∧ after = after' := by
  have hasked : ∀ target, (∃ answer, verdict.inquiry? = some ⟨target, answer⟩) ↔
      ∃ answer, other.inquiry? = some ⟨target, answer⟩ := fun target => by
    rw [hright.asked, hright'.asked, hdecl]
  cases hinquiry : verdict.inquiry? with
  | none =>
      cases hother : other.inquiry? with
      | none =>
          rw [hinquiry] at hserved
          rw [hother] at hserved'
          cases hserved
          cases hserved'
          exact ⟨rfl, rfl⟩
      | some inquiry =>
          obtain ⟨answer, hanswer⟩ := (hasked inquiry.target).mpr ⟨inquiry.answer, hother⟩
          rw [hinquiry] at hanswer
          cases hanswer
  | some inquiry =>
      obtain ⟨target, answer⟩ := inquiry
      obtain ⟨answer', hother⟩ := (hasked target).mp ⟨answer, hinquiry⟩
      rw [hinquiry] at hserved
      rw [hother] at hserved'
      obtain _ | ⟨hanswered, _ | _⟩ := hserved
      obtain _ | ⟨hanswered', _ | _⟩ := hserved'
      obtain ⟨rfl, rfl⟩ := Prod.mk.inj (Option.some.inj (hanswered.symm.trans hanswered'))
      exact ⟨hother.symm, rfl⟩

/-- There is only one right verdict on an import. -/
lemma Verdict.Right.unique (hright : verdict.Right current chain earlier)
    (hright' : other.Right current chain earlier) (hdecl : verdict.decl = other.decl)
    (hserved : Served require chain before verdict.inquiry?.toList after)
    (hserved' : Served require chain before other.inquiry?.toList after') :
    verdict = other ∧ after = after' := by
  obtain ⟨hinquiry, hafter⟩ := hright.inquiry_eq hright' hdecl hserved hserved'
  refine ⟨eq_of_inquiry hdecl hinquiry (Option.ext fun error => ?_), hafter⟩
  rw [hright.blamed, hright'.blamed, hdecl, hinquiry]

/-- Two trials of the same imports are the same. -/
lemma Trial.unique (htrial : Trial require current chain earlier decls before verdicts after)
    (htrial' : Trial require current chain earlier decls before others after') :
    verdicts = others ∧ after = after' := by
  induction decls generalizing earlier before verdicts others with
  | nil =>
      obtain ⟨rfl, rfl⟩ := trial_nil_iff.mp htrial
      obtain ⟨rfl, rfl⟩ := trial_nil_iff.mp htrial'
      exact ⟨rfl, rfl⟩
  | cons decl more ih =>
      obtain ⟨verdict, rest, middle, rfl, hdecl, hright, hserved, hrest⟩ :=
        trial_cons_iff.mp htrial
      obtain ⟨other, rest', middle', rfl, hdecl', hright', hserved', hrest'⟩ :=
        trial_cons_iff.mp htrial'
      obtain ⟨rfl, rfl⟩ := hright.unique hright' (hdecl.trans hdecl'.symm) hserved hserved'
      obtain ⟨rfl, hafter⟩ := ih hrest hrest'
      exact ⟨rfl, hafter⟩

end Unique

/-! ### Without imports that fail -/

/-- If fewer verdicts have the same links, the first one has none if it is left out. -/
lemma Verdict.link?_eq_none_of_sublist (hkept : kept.Sublist verdicts)
    (hlinks : kept.filterMap link? = (verdict :: verdicts).filterMap link?) :
    verdict.link? = none := by
  have hlength := (hkept.filterMap link?).length_le
  rw [hlinks, filterMap_cons_toList] at hlength
  cases hlink : verdict.link? with
  | none => rfl
  | some link => simp [hlink] at hlength

/-- A trial without some of the imports that fail, if the capability has no state. -/
lemma Trial.of_sublist {require : Capability Unit α}
    (htrial : Trial require current chain earlier (verdicts.map Verdict.decl) () verdicts ())
    (hkept : kept.Sublist verdicts)
    (hlinks : kept.filterMap Verdict.link? = verdicts.filterMap Verdict.link?) :
    Trial require current chain earlier (kept.map Verdict.decl) () kept () := by
  induction hkept generalizing earlier with
  | slnil => exact htrial
  | @cons kept rest verdict hmore ih =>
      obtain ⟨_, _, _, hsplit, -, -, -, hrest⟩ := trial_cons_iff.mp htrial
      obtain ⟨rfl, rfl⟩ := List.cons.inj hsplit
      have hnone := Verdict.link?_eq_none_of_sublist hmore hlinks
      -- what is left out has added nothing to the targets accepted so far
      have htargets : Verdict.targets [verdict] = [] := by
        rw [Verdict.targets, List.filterMap_cons_none hnone]
        rfl
      rw [htargets, List.append_nil] at hrest
      rw [List.filterMap_cons_none hnone] at hlinks
      exact ih hrest hlinks
  | @cons_cons kept rest verdict hmore ih =>
      obtain ⟨_, _, _, hsplit, -, hright, hserved, hrest⟩ := trial_cons_iff.mp htrial
      obtain ⟨rfl, rfl⟩ := List.cons.inj hsplit
      rw [filterMap_cons_toList, filterMap_cons_toList] at hlinks
      exact trial_cons_iff.mpr ⟨verdict, kept, (), rfl, rfl, hright, hserved,
        ih hrest (List.append_cancel_left hlinks)⟩

/-- The imports that are accepted are some of all imports. -/
lemma Verdict.map_accepted_sublist (verdicts : List (Verdict α)) :
    ((verdicts.filterMap link?).map accepted).Sublist verdicts := by
  induction verdicts with
  | nil => exact .slnil
  | cons verdict rest ih =>
      cases verdict with
      | refused | failed => exact .cons _ ih
      | accepted link => exact .cons_cons _ ih

/-! ### Capabilities that are functions -/

/-- A capability that answers from its arguments alone. -/
def Capability.answering (answer : ModulePath → ImportChain → CompileResult α) :
    Capability Unit α :=
  fun target chain => return answer target chain

/-- With a capability that always answers, a check comes to the conclusion of a trial. -/
lemma exists_trial_answering (unit : CompilationUnit) (current : ModulePath) (chain : ImportChain)
    (answer : ModulePath → ImportChain → CompileResult α) :
    ∃ verdicts result,
      Trial (Capability.answering answer) current chain [] unit.imports () verdicts () ∧
      (checkImports unit current chain (Capability.answering answer).noted).run ((), []) =
        some (result, ((), Inquiry.calls chain (verdicts.filterMap Verdict.inquiry?))) ∧
      Concludes chain verdicts result := by
  cases hrun : (checkImports unit current chain (Capability.answering answer).noted).run
      ((), []) with
  | none =>
      have hplain :
          (checkImports unit current chain (Capability.answering answer)).run () = none := by
        rw [checkImports_eq_map_noted, hrun]
        rfl
      obtain ⟨_, _, _, _, _, _, -, -, -, hnone⟩ := checkImports_eq_none_iff.mp hplain
      cases hnone
  | some found =>
      obtain ⟨result, ⟨⟩, calls⟩ := found
      obtain ⟨verdicts, htrial, rfl, hresult⟩ := checkImports_noted_eq_some_iff.mp hrun
      exact ⟨verdicts, result, htrial, rfl, hresult⟩

/-- **Imports are checked independently of failing ones**: there is one right verdict on each import
of a unit, and without some of the imports that fail, there are the same verdicts on the others, the
same is required for them, and the check comes to their conclusion. Without all that fail it
succeeds, and exactly the links of the others are registered, in their order. -/
theorem checkImports_of_sublist (unit : CompilationUnit) (current : ModulePath)
    (chain : ImportChain) (answer : ModulePath → ImportChain → CompileResult α) :
    let require := Capability.answering answer
    let run := fun decls =>
      (checkImports { unit with imports := decls } current chain require.noted).run ((), [])
    ∃ verdicts : List (Verdict α), verdicts.map Verdict.decl = unit.imports ∧
      (∀ kept : List (Verdict α), kept.Sublist verdicts →
        kept.filterMap Verdict.link? = verdicts.filterMap Verdict.link? →
          (∀ others, Trial require current chain [] (kept.map Verdict.decl) () others () ↔
            others = kept) ∧
          ∃ result, Concludes chain kept result ∧ run (kept.map Verdict.decl) =
            some (result, ((), Inquiry.calls chain (kept.filterMap Verdict.inquiry?)))) ∧
      ∃ imports, imports.Holds chain (verdicts.filterMap Verdict.link?) ∧
        run ((verdicts.filterMap Verdict.link?).map Link.decl) = some (.ok imports,
          ((), (verdicts.filterMap Verdict.link?).map fun link =>
            (link.target, chain.extend link.target))) := by
  intro require run
  obtain ⟨verdicts, -, htrial, -⟩ := exists_trial_answering unit current chain answer
  have hkept : ∀ kept : List (Verdict α), kept.Sublist verdicts →
      kept.filterMap Verdict.link? = verdicts.filterMap Verdict.link? →
        (∀ others, Trial require current chain [] (kept.map Verdict.decl) () others () ↔
          others = kept) ∧
        ∃ result, Concludes chain kept result ∧ run (kept.map Verdict.decl) =
          some (result, ((), Inquiry.calls chain (kept.filterMap Verdict.inquiry?))) := by
    intro kept hsub hlinks
    have hsame := (htrial.each ▸ htrial).of_sublist hsub hlinks
    obtain ⟨others, result, hothers, hrun, hresult⟩ := exists_trial_answering
      { unit with imports := kept.map Verdict.decl } current chain answer
    obtain ⟨rfl, -⟩ := hothers.unique hsame
    refine ⟨fun others => ⟨fun h => (h.unique hsame).1, ?_⟩, result, hresult, hrun⟩
    rintro rfl
    exact hsame
  refine ⟨verdicts, htrial.each, hkept, ?_⟩
  -- the imports that are accepted are left when all that fail are left out
  obtain ⟨hlinks, herrors⟩ := Verdict.filterMap_map_accepted (verdicts.filterMap Verdict.link?)
  obtain ⟨-, result, hresult, hrun⟩ := hkept _ (Verdict.map_accepted_sublist verdicts) hlinks
  cases hresult with
  | failed fails => exact absurd herrors fails
  | @passed links imports accepted holds =>
      obtain rfl : verdicts.filterMap Verdict.link? = links :=
        List.map_injective_iff.mpr (fun _ _ => Verdict.accepted.inj) accepted
      refine ⟨imports, holds, ?_⟩
      simpa only [List.map_map, List.filterMap_map, Function.comp_def, Verdict.decl,
        Verdict.inquiry?, List.filterMap_eq_map', Inquiry.calls] using hrun

/-- A whitebox import of another package fails, and the next import of the same module is accepted
as its first one. -/
example :
    let answer : ModulePath → ImportChain → CompileResult Unit := fun path _ => .ok {
      path
      file := path.implementationFile
      imports := []
      spec := some {}
      symbols := .empty
      exports := .empty
      singletons := ∅
      abstractTypes := ∅
      checked := () }
    let decls : List Import := [
      { localName := ⟨"a", {}⟩, path := "@lib/m", whitebox := true },
      { localName := ⟨"b", {}⟩, path := "@lib/m" },
      { localName := ⟨"c", {}⟩, path := "@lib/m" }]
    ((checkImports { imports := decls } ⟨none, [], "main"⟩ (.root ⟨none, [], "main"⟩)
        (Capability.answering answer)).run ()).map (fun (result, _) => result.map fun _ => ()) =
      some (.error
        [.illegalWhitebox ⟨some "lib", [], "m"⟩ {}, .multiple ⟨some "lib", [], "m"⟩ {}]) :=
  rfl

end BriskModules
