import BriskModules.Proofs.Import.Verdict

/-!
The verdicts on all imports of a module.

Imports are tried one after the other. A trial tells the verdicts apart from the check: one for
each import, right after the earlier ones, while the capability answers what they require, in
their order and nothing else. A check of imports comes to the conclusion of their trial, and
does not come back iff the trial is stuck.

* `Trial`, `Stuck`: the verdicts on several imports, and a trial that the capability leaves
  without an answer;
* `Concludes`: what verdicts come to;
* `checkImports_eq_some_iff`, `checkImports_eq_none_iff`: checks told as trials;
* `Capability.noted`: a capability whose calls are noted;
* `checkImports_verdicts`: which calls a check makes, and what it returns.
-/

namespace BriskModules

variable {σ α : Type}

/-- The verdicts on several imports after `earlier` targets have been accepted: one for each
import, all of them right, and the capability has answered what was required for them and
nothing else. -/
structure Trial (require : Capability σ α) (current : ModulePath) (chain : ImportChain)
    (earlier : List ModulePath) (decls : List Import) (before : σ) (verdicts : List (Verdict α))
    (after : σ) : Prop where
  each : verdicts.map Verdict.decl = decls
  right : ∀ front verdict back, verdicts = front ++ verdict :: back →
    verdict.Right current chain (earlier ++ Verdict.targets front)
  served : Served require chain before (verdicts.filterMap Verdict.inquiry?) after

/-- The trial of several imports is stuck on one of them: the capability does not come back
when its module is required. -/
def Stuck (require : Capability σ α) (current : ModulePath) (chain : ImportChain)
    (earlier : List ModulePath) (decls : List Import) (before : σ) : Prop :=
  ∃ front decl back verdicts state target, decls = front ++ decl :: back ∧
    Trial require current chain earlier front before verdicts state ∧
      decl.Requires current chain (earlier ++ Verdict.targets verdicts) target ∧
        (require target (chain.extend target)).run state = none

/-- What verdicts come to: all errors in order if there are any, and else the imports that hold
all links. -/
inductive Concludes (chain : ImportChain) (verdicts : List (Verdict α)) :
    Except (List ImportError) (Imports α) → Prop where
  | failed (fails : verdicts.filterMap Verdict.error? ≠ []) :
      Concludes chain verdicts (.error (verdicts.filterMap Verdict.error?))
  | passed {links : List (Link α)} {imports : Imports α}
      (accepted : verdicts = links.map .accepted) (holds : imports.Holds chain links) :
      Concludes chain verdicts (.ok imports)

/-! ### The check of several imports -/

section Trial

variable {require : Capability σ α} {current : ModulePath} {chain : ImportChain}
  {earlier : List ModulePath} {decl : Import} {more decls : List Import}
  {verdicts : List (Verdict α)} {before after : σ}

lemma served_append_iff {inquiries others : List (Inquiry α)} :
    Served require chain before (inquiries ++ others) after ↔
      ∃ middle, Served require chain before inquiries middle ∧
        Served require chain middle others after := by
  induction inquiries generalizing before with
  | nil => exact ⟨fun h => ⟨before, .nil, h⟩, fun ⟨_, .nil, h⟩ => h⟩
  | cons inquiry more ih =>
      constructor
      · rintro (_ | ⟨hanswered, hrest⟩)
        obtain ⟨middle, hmore, hothers⟩ := ih.mp hrest
        exact ⟨middle, .cons hanswered hmore, hothers⟩
      · rintro ⟨middle, _ | ⟨hanswered, hmore⟩, hothers⟩
        exact .cons hanswered (ih.mpr ⟨middle, hmore, hothers⟩)

lemma trial_nil_iff :
    Trial require current chain earlier [] before verdicts after ↔
      verdicts = [] ∧ before = after := by
  constructor
  · rintro ⟨heach, -, hserved⟩
    obtain rfl := List.map_eq_nil_iff.mp heach
    cases hserved
    exact ⟨rfl, rfl⟩
  · rintro ⟨rfl, rfl⟩
    exact ⟨rfl, by simp, .nil⟩

lemma Verdict.targets_cons (verdict : Verdict α) (rest : List (Verdict α)) :
    targets (verdict :: rest) = targets [verdict] ++ targets rest := by
  cases verdict <;> rfl

lemma filterMap_cons_toList {β γ : Type} (f : β → Option γ) (first : β) (rest : List β) :
    (first :: rest).filterMap f = (f first).toList ++ rest.filterMap f := by
  rw [List.filterMap_eq_flatMap_toList, List.flatMap_cons, List.filterMap_eq_flatMap_toList]

/-- A trial of several imports starts with the verdict on the first one. -/
lemma trial_cons_iff :
    Trial require current chain earlier (decl :: more) before verdicts after ↔
      ∃ verdict rest middle, verdicts = verdict :: rest ∧ verdict.decl = decl ∧
        verdict.Right current chain earlier ∧
          Served require chain before verdict.inquiry?.toList middle ∧
            Trial require current chain (earlier ++ Verdict.targets [verdict]) more middle rest
              after := by
  constructor
  · rintro ⟨heach, hright, hserved⟩
    cases verdicts with
    | nil => cases heach
    | cons verdict rest =>
        obtain ⟨rfl, rfl⟩ := List.cons.inj heach
        rw [filterMap_cons_toList, served_append_iff] at hserved
        obtain ⟨middle, hfirst, hlater⟩ := hserved
        refine ⟨verdict, rest, middle, rfl, rfl, ?_, hfirst, rfl, ?_, hlater⟩
        · simpa [Verdict.targets] using hright [] verdict rest rfl
        · intro front other back hrest
          rw [List.append_assoc, ← Verdict.targets_cons]
          exact hright (verdict :: front) other back (by rw [hrest, List.cons_append])
  · rintro ⟨verdict, rest, middle, rfl, rfl, hfirst, hserved, rfl, hlater, hrest⟩
    refine ⟨rfl, fun front other back hsplit => ?_, ?_⟩
    · cases front with
      | nil =>
          obtain ⟨rfl, rfl⟩ := List.cons.inj hsplit
          simpa [Verdict.targets] using hfirst
      | cons first front =>
          obtain ⟨rfl, hmore⟩ := List.cons.inj hsplit
          rw [Verdict.targets_cons, ← List.append_assoc]
          exact hlater front other back hmore
    · rw [filterMap_cons_toList, served_append_iff]
      exact ⟨middle, hserved, hrest⟩

/-- A trial is stuck on its first import or on a later one. -/
lemma stuck_cons_iff :
    Stuck require current chain earlier (decl :: more) before ↔
      (∃ target, decl.Requires current chain earlier target ∧
        (require target (chain.extend target)).run before = none) ∨
      ∃ verdict middle, verdict.decl = decl ∧ verdict.Right current chain earlier ∧
        Served require chain before verdict.inquiry?.toList middle ∧
          Stuck require current chain (earlier ++ Verdict.targets [verdict]) more middle := by
  constructor
  · rintro ⟨front, last, back, verdicts, state, target, hdecls, htrial, hrequires, hnone⟩
    cases front with
    | nil =>
        obtain ⟨rfl, rfl⟩ := List.cons.inj hdecls
        obtain ⟨rfl, rfl⟩ := trial_nil_iff.mp htrial
        exact .inl ⟨target, by simpa [Verdict.targets] using hrequires, hnone⟩
    | cons first front =>
        obtain ⟨rfl, rfl⟩ := List.cons.inj hdecls
        obtain ⟨verdict, rest, middle, rfl, hdecl, hright, hserved, hrest⟩ :=
          trial_cons_iff.mp htrial
        rw [Verdict.targets_cons, ← List.append_assoc] at hrequires
        exact .inr ⟨verdict, middle, hdecl, hright, hserved, front, last, back, rest, state,
          target, rfl, hrest, hrequires, hnone⟩
  · rintro (⟨target, hrequires, hnone⟩ | ⟨verdict, middle, hdecl, hright, hserved, front, last,
      back, rest, state, target, rfl, hrest, hrequires, hnone⟩)
    · exact ⟨[], decl, more, [], before, target, rfl, trial_nil_iff.mpr ⟨rfl, rfl⟩,
        by simpa [Verdict.targets] using hrequires, hnone⟩
    · rw [List.append_assoc, ← Verdict.targets_cons] at hrequires
      exact ⟨decl :: front, last, back, verdict :: rest, state, target, rfl,
        trial_cons_iff.mpr ⟨verdict, rest, middle, rfl, hdecl, hright, hserved, hrest⟩,
        hrequires, hnone⟩

variable {imports imports' : Imports α} {errors : List ImportError} {middle : σ}

lemma checkEach_of_checkImport_none
    (h : (checkImport current require decl imports).run before = none) :
    (checkEach current require (decl :: more) imports).run before = none := by
  rw [checkEach, StateT.run_bind, h]
  rfl

/-- A verdict registers its link and leaves its error behind, and the check goes on. -/
lemma checkEach_of_checkImport_some {verdict : Verdict α}
    (h : (checkImport current require verdict.decl imports).run before =
      some (verdict.outcome, middle)) :
    (checkEach current require (verdict.decl :: more) imports).run before =
      ((checkEach current require more (imports.addLinks verdict.link?.toList)).run middle).map
        fun ((imports', errors), after) =>
          ((imports', verdict.error?.toList ++ errors), after) := by
  rw [checkEach, StateT.run_bind, h]
  cases verdict with
  | refused decl error | failed decl inquiry error =>
      exact (Option.map_eq_bind (x := (checkEach current require more imports).run middle)).symm
  | accepted link => exact Option.map_id'.symm

/-- What is known after a verdict are the targets accepted so far. -/
lemma contains_addLinks_verdict
    (hearlier : ∀ path, imports.contains path = true ↔ path ∈ earlier) (verdict : Verdict α)
    (path : ModulePath) :
    (imports.addLinks verdict.link?.toList).contains path = true ↔
      path ∈ earlier ++ Verdict.targets [verdict] := by
  cases verdict <;> simp [Imports.addLinks, Verdict.targets, Verdict.link?, hearlier, or_comm]

/-- Checking several imports is a trial of them. -/
lemma checkEach_eq_some_iff
    (hearlier : ∀ path, imports.contains path = true ↔ path ∈ earlier) :
    (checkEach current require decls imports).run before = some ((imports', errors), after) ↔
      ∃ verdicts, Trial require current imports.chain earlier decls before verdicts after ∧
        imports' = imports.addLinks (verdicts.filterMap Verdict.link?) ∧
          errors = verdicts.filterMap Verdict.error? := by
  -- what the imports know stays the list of the targets accepted so far
  induction decls generalizing imports imports' earlier errors before with
  | nil =>
      simp only [checkEach, StateT.run_pure, Option.pure_def, Option.some.injEq, Prod.mk.injEq,
        trial_nil_iff]
      constructor
      · rintro ⟨⟨rfl, rfl⟩, rfl⟩
        exact ⟨[], ⟨rfl, rfl⟩, rfl, rfl⟩
      · rintro ⟨_, ⟨rfl, rfl⟩, rfl, rfl⟩
        exact ⟨⟨rfl, rfl⟩, rfl⟩
  | cons decl more ih =>
      constructor
      · intro h
        cases hcheck : (checkImport current require decl imports).run before with
        | none =>
            rw [checkEach_of_checkImport_none hcheck] at h
            cases h
        | some first =>
            obtain ⟨outcome, middle⟩ := first
            obtain ⟨verdict, rfl, hright, hserved, rfl⟩ :=
              exists_right_of_checkImport hearlier hcheck
            rw [checkEach_of_checkImport_some hcheck, Option.map_eq_some_iff] at h
            obtain ⟨⟨⟨later, laterErrors⟩, last⟩, hlater, heq⟩ := h
            obtain ⟨⟨rfl, rfl⟩, rfl⟩ : (later = imports' ∧
                verdict.error?.toList ++ laterErrors = errors) ∧ last = after := by
              simpa using heq
            obtain ⟨rest, hrest, rfl, rfl⟩ :=
              (ih (contains_addLinks_verdict hearlier verdict)).mp hlater
            rw [Imports.chain_addLinks] at hrest
            exact ⟨verdict :: rest,
              trial_cons_iff.mpr ⟨verdict, rest, middle, rfl, rfl, hright, hserved, hrest⟩,
              by rw [filterMap_cons_toList, Imports.addLinks_append],
              (filterMap_cons_toList _ _ _).symm⟩
      · rintro ⟨verdicts, htrial, rfl, rfl⟩
        obtain ⟨verdict, rest, middle, rfl, rfl, hright, hserved, hrest⟩ :=
          trial_cons_iff.mp htrial
        rw [← Imports.chain_addLinks imports verdict.link?.toList] at hrest
        rw [checkEach_of_checkImport_some (checkImport_of_right hearlier hright hserved),
          (ih (contains_addLinks_verdict hearlier verdict)).mpr ⟨rest, hrest, rfl, rfl⟩,
          filterMap_cons_toList, filterMap_cons_toList, Imports.addLinks_append]
        rfl

/-- Checking several imports does not come back iff their trial is stuck. -/
lemma checkEach_eq_none_iff
    (hearlier : ∀ path, imports.contains path = true ↔ path ∈ earlier) :
    (checkEach current require decls imports).run before = none ↔
      Stuck require current imports.chain earlier decls before := by
  induction decls generalizing imports earlier before with
  | nil =>
      constructor
      · intro h
        cases h
      · rintro ⟨front, decl, back, verdicts, state, target, hdecls, -⟩
        simp at hdecls
  | cons decl more ih =>
      rw [stuck_cons_iff, ← checkImport_eq_none_iff hearlier]
      constructor
      · intro h
        cases hcheck : (checkImport current require decl imports).run before with
        | none => exact .inl rfl
        | some first =>
            obtain ⟨outcome, middle⟩ := first
            obtain ⟨verdict, rfl, hright, hserved, rfl⟩ :=
              exists_right_of_checkImport hearlier hcheck
            rw [checkEach_of_checkImport_some hcheck, Option.map_eq_none_iff,
              ih (contains_addLinks_verdict hearlier verdict), Imports.chain_addLinks] at h
            exact .inr ⟨verdict, middle, rfl, hright, hserved, h⟩
      · rintro (hcheck | ⟨verdict, middle, rfl, hright, hserved, hstuck⟩)
        · exact checkEach_of_checkImport_none hcheck
        · rw [checkEach_of_checkImport_some (checkImport_of_right hearlier hright hserved),
            Option.map_eq_none_iff, ih (contains_addLinks_verdict hearlier verdict),
            Imports.chain_addLinks]
          exact hstuck

/-- The imports that a trial accepts have targets that are new and different from one
another. -/
lemma Trial.nodup_targets
    (h : Trial require current chain earlier decls before verdicts after) :
    (Verdict.targets verdicts).Nodup ∧ ∀ target ∈ Verdict.targets verdicts, target ∉ earlier := by
  induction decls generalizing earlier verdicts before with
  | nil =>
      obtain ⟨rfl, -⟩ := trial_nil_iff.mp h
      simp [Verdict.targets]
  | cons decl more ih =>
      obtain ⟨verdict, rest, middle, rfl, -, hright, -, hrest⟩ := trial_cons_iff.mp h
      obtain ⟨hnodup, hnew⟩ := ih hrest
      cases verdict with
      | refused _ error | failed _ inquiry error =>
          exact ⟨hnodup, by simpa [Verdict.targets, Verdict.link?] using hnew⟩
      | accepted link =>
          have hrequires := (hright.asked link.target).mp ⟨.ok link.module, rfl⟩
          simp only [List.mem_append, not_or] at hnew
          rw [Verdict.targets_cons]
          refine ⟨List.nodup_cons.mpr ⟨fun hmem => ?_, hnodup⟩, List.forall_mem_cons.mpr
            ⟨hrequires.single, fun target htarget => (hnew target htarget).1⟩⟩
          exact (hnew link.target hmem).2 List.mem_cons_self

end Trial

/-! ### The check of all imports -/

section Conclusion

variable {unit : CompilationUnit} {current : ModulePath} {chain : ImportChain}
  {require : Capability σ α} {before after : σ}

/-- Verdicts without errors accept all imports. -/
lemma Verdict.eq_map_accepted {verdicts : List (Verdict α)}
    (h : verdicts.filterMap error? = []) : verdicts = (verdicts.filterMap link?).map .accepted := by
  induction verdicts with
  | nil => rfl
  | cons verdict rest ih =>
      rw [filterMap_cons_toList, List.append_eq_nil_iff] at h
      obtain ⟨hfirst, hrest⟩ := h
      cases verdict with
      | refused _ error | failed _ inquiry error => cases hfirst
      | accepted link => exact congrArg (accepted link :: ·) (ih hrest)

lemma Verdict.filterMap_map_accepted (links : List (Link α)) :
    (links.map accepted).filterMap link? = links ∧ (links.map accepted).filterMap error? = [] := by
  induction links with
  | nil => exact ⟨rfl, rfl⟩
  | cons link more ih => exact ⟨congrArg (link :: ·) ih.1, ih.2⟩

/-- Nothing has been accepted before the first import. -/
lemma contains_empty_iff (path : ModulePath) :
    (Imports.empty chain : Imports α).contains path = true ↔ path ∈ ([] : List ModulePath) := by
  simp [Imports.contains_empty]

/-- A check of imports comes to the conclusion of their trial. -/
lemma checkImports_eq_some_iff {result : Except (List ImportError) (Imports α)} :
    (checkImports unit current chain require).run before = some (result, after) ↔
      ∃ verdicts, Trial require current chain [] unit.imports before verdicts after ∧
        Concludes chain verdicts result := by
  have hrun : (checkImports unit current chain require).run before = some (result, after) ↔
      ∃ imports errors,
        (checkEach current require unit.imports (Imports.empty chain)).run before =
          some ((imports, errors), after) ∧
        (if errors = [] then .ok imports else .error errors) = result := by
    simp [checkImports]
  rw [hrun]
  constructor
  · rintro ⟨imports, errors, hcheck, rfl⟩
    obtain ⟨verdicts, htrial, rfl, rfl⟩ := (checkEach_eq_some_iff contains_empty_iff).mp hcheck
    refine ⟨verdicts, htrial, ?_⟩
    split_ifs with hnone
    · exact .passed (Verdict.eq_map_accepted hnone)
        (Imports.holds_addLinks chain htrial.nodup_targets.1)
    · exact .failed hnone
  · rintro ⟨verdicts, htrial, hresult⟩
    refine ⟨_, _, (checkEach_eq_some_iff contains_empty_iff).mpr ⟨verdicts, htrial, rfl, rfl⟩, ?_⟩
    cases hresult with
    | failed fails => rw [if_neg fails]
    | @passed links _ accepted holds =>
        obtain ⟨hlinks, herrors⟩ := Verdict.filterMap_map_accepted links
        rw [accepted, herrors, hlinks, if_pos rfl, holds.eq_addLinks]

lemma checkImports_eq_none_iff :
    (checkImports unit current chain require).run before = none ↔
      Stuck require current chain [] unit.imports before := by
  have hrun : (checkImports unit current chain require).run before = none ↔
      (checkEach current require unit.imports (Imports.empty chain)).run before = none := by
    simp [checkImports]
  rw [hrun, checkEach_eq_none_iff contains_empty_iff]
  rfl

/-! ### Noted calls -/

/-- A capability that also keeps a note of each call. -/
def Capability.noted (require : Capability σ α) :
    Capability (σ × List (ModulePath × ImportChain)) α :=
  fun target chain (state, calls) =>
    (require target chain state).map fun (answer, state) =>
      (answer, (state, calls ++ [(target, chain)]))

/-- The calls by which inquiries are made at the end of a chain. -/
def Inquiry.calls (chain : ImportChain) (inquiries : List (Inquiry α)) :
    List (ModulePath × ImportChain) :=
  inquiries.map fun inquiry => (inquiry.target, chain.extend inquiry.target)

lemma noted_eq_some_iff {target : ModulePath} {extended : ImportChain}
    {answer : CompileResult α} {calls : List (ModulePath × ImportChain)}
    {state : σ × List (ModulePath × ImportChain)} :
    (require.noted target extended).run (before, calls) = some (answer, state) ↔
      (require target extended).run before = some (answer, state.1) ∧
        state.2 = calls ++ [(target, extended)] := by
  obtain ⟨after, calls'⟩ := state
  change Option.map _ ((require target extended).run before) = _ ↔ _
  rw [Option.map_eq_some_iff]
  constructor
  · rintro ⟨⟨answer', after'⟩, hrun, heq⟩
    obtain ⟨rfl, rfl, rfl⟩ : answer' = answer ∧ after' = after ∧
        calls ++ [(target, extended)] = calls' := by simpa using heq
    exact ⟨hrun, rfl⟩
  · rintro ⟨hrun, rfl⟩
    exact ⟨(answer, after), hrun, rfl⟩

/-- What is noted are the calls for the inquiries. -/
lemma served_noted_iff {inquiries : List (Inquiry α)}
    {calls calls' : List (ModulePath × ImportChain)} :
    Served require.noted chain (before, calls) inquiries (after, calls') ↔
      Served require chain before inquiries after ∧
        calls' = calls ++ Inquiry.calls chain inquiries := by
  induction inquiries generalizing before calls with
  | nil =>
      rw [Inquiry.calls, List.map_nil, List.append_nil]
      constructor
      · rintro ⟨⟩
        exact ⟨.nil, rfl⟩
      · rintro ⟨⟨⟩, rfl⟩
        exact .nil
  | cons inquiry more ih =>
      have hcalls : ∀ calls, calls ++ Inquiry.calls chain (inquiry :: more) =
          calls ++ [(inquiry.target, chain.extend inquiry.target)] ++
            Inquiry.calls chain more := by
        simp [Inquiry.calls]
      rw [hcalls]
      constructor
      · intro h
        cases h with
        | @cons _ middle _ _ _ answered rest =>
            obtain ⟨middle, noted⟩ := middle
            obtain ⟨hanswered, rfl⟩ := noted_eq_some_iff.mp answered
            obtain ⟨hrest, hlater⟩ := ih.mp rest
            exact ⟨.cons hanswered hrest, hlater⟩
      · rintro ⟨_ | ⟨hanswered, hrest⟩, rfl⟩
        exact .cons (noted_eq_some_iff.mpr ⟨hanswered, rfl⟩) (ih.mpr ⟨hrest, rfl⟩)

/-- A trial with notes is a trial that notes the calls for what is required. -/
lemma trial_noted_iff {earlier : List ModulePath} {decls : List Import}
    {verdicts : List (Verdict α)} {calls calls' : List (ModulePath × ImportChain)} :
    Trial require.noted current chain earlier decls (before, calls) verdicts (after, calls') ↔
      Trial require current chain earlier decls before verdicts after ∧
        calls' = calls ++ Inquiry.calls chain (verdicts.filterMap Verdict.inquiry?) := by
  constructor
  · rintro ⟨heach, hright, hserved⟩
    obtain ⟨hserved, hcalls⟩ := served_noted_iff.mp hserved
    exact ⟨⟨heach, hright, hserved⟩, hcalls⟩
  · rintro ⟨⟨heach, hright, hserved⟩, hcalls⟩
    exact ⟨heach, hright, served_noted_iff.mpr ⟨hserved, hcalls⟩⟩

lemma checkImports_noted_eq_some_iff {result : Except (List ImportError) (Imports α)}
    {calls : List (ModulePath × ImportChain)} :
    (checkImports unit current chain require.noted).run (before, []) =
        some (result, (after, calls)) ↔
      ∃ verdicts, Trial require current chain [] unit.imports before verdicts after ∧
        calls = Inquiry.calls chain (verdicts.filterMap Verdict.inquiry?) ∧
          Concludes chain verdicts result := by
  rw [checkImports_eq_some_iff]
  exact exists_congr fun verdicts => by rw [trial_noted_iff, List.nil_append, and_assoc]

/-- Taking notes has no influence on a check. -/
lemma checkImports_eq_map_noted :
    (checkImports unit current chain require).run before =
      ((checkImports unit current chain require.noted).run (before, [])).map
        fun (result, (after, _)) => (result, after) := by
  refine Option.ext fun (result, after) => ?_
  rw [checkImports_eq_some_iff, Option.map_eq_some_iff]
  constructor
  · rintro ⟨verdicts, htrial, hresult⟩
    exact ⟨(result, (after, _)),
      checkImports_noted_eq_some_iff.mpr ⟨verdicts, htrial, rfl, hresult⟩, rfl⟩
  · rintro ⟨⟨result', after', calls⟩, hcheck, heq⟩
    obtain ⟨rfl, rfl⟩ := Prod.mk.inj heq
    obtain ⟨verdicts, htrial, -, hresult⟩ := checkImports_noted_eq_some_iff.mp hcheck
    exact ⟨verdicts, htrial, hresult⟩

/-- The imports of a unit are checked right, whatever the capability does. If the check comes
back, there is one right verdict on each import; what was required for the imports, in their
order, is all that the capability was called for; and the errors, or else the links, of the
verdicts are returned. The check does not come back iff the capability does not when it is
called for an import. Watching the calls changes nothing. -/
theorem checkImports_verdicts (unit : CompilationUnit) (current : ModulePath)
    (chain : ImportChain) (require : Capability σ α) (before : σ) :
    (∀ result after calls,
      (checkImports unit current chain require.noted).run (before, []) =
          some (result, (after, calls)) ↔
        ∃ verdicts, Trial require current chain [] unit.imports before verdicts after ∧
          calls = Inquiry.calls chain (verdicts.filterMap Verdict.inquiry?) ∧
            Concludes chain verdicts result) ∧
    ((checkImports unit current chain require.noted).run (before, []) = none ↔
      Stuck require current chain [] unit.imports before) ∧
    (checkImports unit current chain require).run before =
      ((checkImports unit current chain require.noted).run (before, [])).map
        fun (result, (after, _)) => (result, after) := by
  refine ⟨fun result after calls => checkImports_noted_eq_some_iff, ?_, checkImports_eq_map_noted⟩
  have hnone : (checkImports unit current chain require).run before = none ↔
      Stuck require current chain [] unit.imports before := checkImports_eq_none_iff
  rwa [checkImports_eq_map_noted, Option.map_eq_none_iff] at hnone

/-- A module that could not be compiled for one import is required again for the next one. -/
example :
    ((checkImports
        { imports := [{ localName := ⟨"a", {}⟩, path := "m" },
            { localName := ⟨"b", {}⟩, path := "./m" }] }
        ⟨none, [], "main"⟩ (.root ⟨none, [], "main"⟩)
        (Capability.noted fun target _ =>
          (return .error ⟨target, []⟩ : StateT Unit Option (CompileResult Unit)))).run
      ((), [])).map (fun (_, (_, calls)) => calls.map Prod.fst) =
        some [⟨none, [], "m"⟩, ⟨none, [], "m"⟩] :=
  rfl

end Conclusion

end BriskModules
