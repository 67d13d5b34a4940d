import BriskModules.Proofs.Import.Grammar

/-!
Import texts, walked from name to name.

Resolving an import counts the steps up at its start and takes as many directories off at once.
A walk does not look ahead: it stands in a package, some directories down, and each name of the
text takes it one directory up, one down, or nowhere. Both lead to the same module, and a walk
that has no directory left to go up from is an import that leads outside the source root.

* `Place`, `Place.enter?`: where a walk stands, and where a name takes it;
* `ModulePath.setOut`, `ModulePath.walk?`: the walk along the text of an import;
* `foldlM_up`, `foldlM_down`: where steps up take a walk, and where identifiers do;
* `exists_setOut_eq`: what a walk along the text of an import path passes;
* `walk?_eq_resolve`: it ends where the import path leads;
* `resolveImport_walk` (**imports are resolved as they are walked**).
-/

namespace BriskModules

/-- Where a walk stands: in a package, some directories down. -/
structure Place where
  package : Option String
  dirs : List String
deriving DecidableEq, Repr

/-- Where a name takes a walk: two dots lead out of the last directory, if there is one, a dot
stays, and any other name leads down into a directory. -/
def Place.enter? (place : Place) (name : String) : Option Place :=
  if name = ".." then
    if place.dirs = [] then none else some ⟨place.package, place.dirs.dropLast⟩
  else if name = "." then some place
  else some ⟨place.package, place.dirs ++ [name]⟩

namespace ModulePath

/-- Where the walk along the text of an import starts, and the text that is left to walk: a
slash takes it to the root of the own package, and `@` to that of the package named behind. -/
def setOut (current : ModulePath) (text : String) : Place × String :=
  match text.toList with
  | '/' :: rest => (⟨current.package, []⟩, String.ofList rest)
  | '@' :: rest =>
    (⟨some (String.ofList (rest.takeWhile (· ≠ '/'))), []⟩,
      String.ofList (rest.dropWhile (· ≠ '/')).tail)
  | _ => (⟨current.package, current.dirs⟩, text)

/-- The module at the end of the walk along the text of an import, which enters one name after
the other and finds its file under the last one; none if it goes up from a root. -/
def walk? (current : ModulePath) (text : String) : Option ModulePath :=
  let (start, rest) := current.setOut text
  let names := Text.cut '/' rest
  (names.dropLast.foldlM Place.enter? start).map fun place =>
    ⟨place.package, place.dirs, names.getLastD ""⟩

end ModulePath

/-! ### Steps up and steps down -/

namespace Place

/-- Steps up from a place take off as many directories, if there are that many. -/
lemma foldlM_up (levels : ℕ) (place : Place) :
    (List.replicate levels "..").foldlM enter? place =
      if place.dirs.length < levels then none
      else some ⟨place.package, place.dirs.take (place.dirs.length - levels)⟩ := by
  induction levels generalizing place with
  | zero => simp
  | succ levels ih =>
      rw [List.replicate_succ, List.foldlM_cons]
      by_cases hroot : place.dirs = []
      · simp [enter?, hroot]
      · have hlength : 0 < place.dirs.length := List.length_pos_of_ne_nil hroot
        have henter : place.enter? ".." = some ⟨place.package, place.dirs.dropLast⟩ := by
          simp [enter?, hroot]
        have hkept : place.dirs.dropLast.take (place.dirs.length - 1 - levels) =
            place.dirs.take (place.dirs.length - (levels + 1)) := by
          rw [List.dropLast_eq_take, List.take_take]
          congr 1
          omega
        rw [henter, Option.bind_eq_bind, Option.bind_some, ih]
        simp only [List.length_dropLast, hkept]
        split_ifs <;> first | rfl | omega

/-- Identifiers lead down, one directory each. -/
lemma foldlM_down {names : List String} (h : ∀ name ∈ names, isIdentifier name = true)
    (place : Place) :
    names.foldlM enter? place = some ⟨place.package, place.dirs ++ names⟩ := by
  induction names generalizing place with
  | nil => simp
  | cons name more ih =>
      have hdot : '.' ∉ name.toList := notMem_of_isIdentifier (h name (.head more)) (by decide)
      have hup : name ≠ ".." := by rintro rfl; simp at hdot
      have hhere : name ≠ "." := by rintro rfl; simp at hdot
      have henter : place.enter? name = some ⟨place.package, place.dirs ++ [name]⟩ := by
        simp [enter?, hup, hhere]
      rw [List.foldlM_cons, henter, Option.bind_eq_bind, Option.bind_some,
        ih fun other hother => h other (.tail name hother), List.append_assoc,
        List.singleton_append]

end Place

/-! ### The names of an import path -/

namespace ImportPath

open Grammar

/-- The text of names is cut into these names. -/
lemma cut_body {dirs : List String} {file : String}
    (h : ∀ name ∈ dirs ++ [file], '/' ∉ name.toList) :
    Text.cut '/' (String.ofList (body dirs file)) = dirs ++ [file] := by
  have htext : String.ofList (body dirs file) = Text.joined (String.singleton '/')
      (dirs ++ [file]) := by
    rw [← String.toList_inj, String.toList_ofList, Text.toList_joined, body_eq]
  rw [htext, Text.cut_joined (by simp) h]

variable {path : ImportPath} {front : List Char} {text : String}

/-- A walk starts where the module is unless there is a slash or `@` in front. -/
lemma setOut_eq_here (current : ModulePath) {c : Char} {rest : List Char}
    (htext : text.toList = c :: rest) (hslash : c ≠ '/') (hat : c ≠ '@') :
    current.setOut text = (⟨current.package, current.dirs⟩, text) := by
  rw [ModulePath.setOut, htext]
  split <;> simp_all

/-- The text of an import path that goes up is cut into the steps up and the names. -/
lemma eq_ofList_body_up {levels : ℕ} (h : path.Spelt front text.toList)
    (hup : path.start = .up levels) :
    text = String.ofList (body (List.replicate levels ".." ++ path.dirs) path.file) := by
  have hstart := h.start
  rw [hup] at hstart
  cases hstart with
  | up levels =>
      rw [← String.toList_inj, String.toList_ofList, h.text_eq, body, body, List.flatMap_append,
        List.flatMap_replicate, List.append_assoc]
      rfl

/-- A walk along the text of an import path passes some marks, and then the directories of that
path; behind the marks it stands where the path starts to lead down. -/
lemma exists_setOut_eq (h : path.Spelt front text.toList) (current : ModulePath) :
    ∃ (start : Place) (marks : List String),
      current.setOut text = (start, String.ofList (body (marks ++ path.dirs) path.file)) ∧
      (∀ mark ∈ marks, '/' ∉ mark.toList) ∧
      (marks.foldlM Place.enter? start).map
          (fun place => ⟨place.package, place.dirs ++ path.dirs, path.file⟩) =
        (path.resolve current).toOption := by
  obtain ⟨start, dirs, file⟩ := path
  have hstart := h.start
  have htext := h.text_eq
  cases hstart with
  | @package name hname =>
      have hslash : '/' ∉ name.toList :=
        notMem_of_isIdentifier (mem_identifier.mp hname) (by decide)
      have hname' : ∀ c ∈ name.toList, decide (c ≠ '/') = true := by
        rintro c hc
        exact decide_eq_true fun heq => hslash (heq ▸ hc)
      refine ⟨⟨some name, []⟩, [], ?_, by simp, rfl⟩
      rw [ModulePath.setOut, htext, List.cons_append, List.append_assoc]
      simp only [List.takeWhile_append_of_pos hname', List.dropWhile_append_of_pos hname']
      simp
  | root =>
      refine ⟨⟨current.package, []⟩, [], ?_, by simp, rfl⟩
      rw [ModulePath.setOut, htext]
      rfl
  | up levels =>
      have hdots : text.toList =
          '.' :: '.' :: '/' :: ((List.replicate levels "../".toList).flatten ++ body dirs file) :=
        htext
      refine ⟨⟨current.package, current.dirs⟩, List.replicate (levels + 1) "..", ?_, by simp, ?_⟩
      · rw [setOut_eq_here current hdots (by decide) (by decide), ← eq_ofList_body_up h rfl]
      · rw [Place.foldlM_up]
        simp only [resolve]
        split_ifs <;> rfl
  | marked =>
      refine ⟨⟨current.package, current.dirs⟩, ["."], ?_, by decide, rfl⟩
      rw [setOut_eq_here current htext (by decide) (by decide), ← String.ofList_toList (s := text),
        htext]
      rfl
  | bare =>
      obtain ⟨c, rest, hbody, hc⟩ := exists_body_eq h.dirs h.file
      refine ⟨⟨current.package, current.dirs⟩, [], ?_, by simp, rfl⟩
      rw [setOut_eq_here current (htext.trans hbody) (by rintro rfl; cases hc)
        (by rintro rfl; cases hc), ← String.ofList_toList (s := text), htext]
      rfl

/-- The names in the text of an import path have no slash in them, and neither have its marks. -/
lemma slash_notMem_of_spelt (h : path.Spelt front text.toList) {marks : List String}
    (hmarks : ∀ mark ∈ marks, '/' ∉ mark.toList) :
    ∀ name ∈ (marks ++ path.dirs) ++ [path.file], '/' ∉ name.toList := by
  have hidentifier : ∀ {name : String}, name.toList ∈ identifier → '/' ∉ name.toList :=
    fun hname => notMem_of_isIdentifier (mem_identifier.mp hname) (by decide)
  simp only [List.mem_append, List.mem_singleton]
  rintro name ((hmark | hdir) | rfl)
  · exact hmarks name hmark
  · exact hidentifier (h.dirs name hdir)
  · exact hidentifier h.file

/-- The walk along the text of an import path ends where the import path leads. -/
lemma walk?_eq_resolve (h : path.Spelt front text.toList) (current : ModulePath) :
    current.walk? text = (path.resolve current).toOption := by
  obtain ⟨start, marks, hsetOut, hmarks, hresolve⟩ := exists_setOut_eq h current
  rw [ModulePath.walk?, hsetOut, ← hresolve]
  simp only [cut_body (slash_notMem_of_spelt h hmarks), List.dropLast_concat,
    List.foldlM_append, List.getLastD_concat]
  cases marks.foldlM Place.enter? start with
  | none => rfl
  | some place =>
      simp [Place.foldlM_down fun dir hdir => mem_identifier.mp (h.dirs dir hdir)]

/-! ### Imports that lead outside -/

/-- An import path leads nowhere only if it goes up too far. -/
lemma eq_of_resolve_error {current : ModulePath} {error : OutsideRoot}
    (h : path.resolve current = .error error) :
    ∃ levels, path.start = .up levels ∧ error = ⟨path, levels, current⟩ := by
  cases hstart : path.start with
  | up levels =>
      simp only [resolve, hstart] at h
      split_ifs at h
      exact ⟨levels, rfl, (Except.error.inj h).symm⟩
  | package name => simp [resolve, hstart] at h
  | root => simp [resolve, hstart] at h
  | here => simp [resolve, hstart] at h

/-- The steps up of an import path are the names of two dots in its text. -/
lemma count_up_of_spelt {levels : ℕ} (h : path.Spelt front text.toList)
    (hup : path.start = .up levels) : (Text.cut '/' text).dropLast.count ".." = levels := by
  have hnames : Text.cut '/' text = List.replicate levels ".." ++ path.dirs ++ [path.file] := by
    conv_lhs => rw [eq_ofList_body_up h hup]
    exact cut_body (slash_notMem_of_spelt h (by simp))
  have hdirs : path.dirs.count ".." = 0 := by
    refine List.count_eq_zero.mpr fun hmem => ?_
    have hdots := mem_identifier.mp (h.dirs ".." hmem)
    exact absurd hdots (by decide)
  rw [hnames, List.dropLast_concat, List.count_append, hdirs, List.count_replicate_self,
    Nat.add_zero]

/-- An import path that goes up is written as it was read. -/
lemma text_of_spelt_up {levels : ℕ} (h : path.Spelt front text.toList)
    (hup : path.start = .up levels) : path.text = text := by
  have hstart := h.start
  rw [hup] at hstart
  rw [text_of_spelt h]
  cases hstart with
  | up levels => exact if_neg (by simp [List.replicate_succ])

/-- Only a text that starts with `@` leads into a package that it names. -/
lemma head?_of_spelt_package {name : String} (h : path.Spelt front text.toList)
    (hpackage : path.start = .package name) : text.toList.head? = some '@' := by
  have hstart := h.start
  rw [hpackage] at hstart
  rw [h.text_eq]
  cases hstart with
  | package => rfl

end ImportPath

/-- **Imports are resolved as they are walked**: an import leads to a module exactly if the walk
along its text ends there. It leads outside the source root exactly if the walk goes up from a
root, and the error tells the text, how many steps up are in it, and the module it stands in. Only
with `@` in front does it lead into another package, and from a well-formed module it leads to
well-formed ones only. -/
theorem resolveImport_walk (current : ModulePath) {text : String} {read : ImportPath}
    (h : ImportPath.parse text = .ok read) :
    (∀ target, resolveImport current text = .ok target ↔ current.walk? text = some target) ∧
    (∀ error, resolveImport current text = .error error ↔ current.walk? text = none ∧
      error = .outsideRoot ⟨read, (Text.cut '/' text).dropLast.count "..", current⟩) ∧
    (current.walk? text = none → read.text = text) ∧
    ∀ target, resolveImport current text = .ok target →
      (target.package ≠ current.package → text.toList.head? = some '@') ∧
      (current.WellFormed → target.WellFormed) := by
  obtain ⟨front, hspelt⟩ := ImportPath.spelt_of_parse h
  have hwalk := ImportPath.walk?_eq_resolve hspelt current
  cases hresolve : read.resolve current with
  | ok target =>
      have himport : resolveImport current text = .ok target := by
        simp only [resolveImport, h, hresolve]
      rw [hwalk, himport, hresolve]
      refine ⟨fun other => by simp [Except.toOption], fun error => by simp [Except.toOption],
        by simp [Except.toOption], fun other hother => ?_⟩
      obtain rfl := Except.ok.inj hother
      refine ⟨fun hpackage => ?_, fun hcurrent =>
        ImportPath.wellFormed_of_resolve (ImportPath.wellFormed_of_parse h) hcurrent hresolve⟩
      rcases ImportPath.eq_of_resolve hresolve with ⟨name, hstart, -⟩ | ⟨kept, rfl⟩
      · exact ImportPath.head?_of_spelt_package hspelt hstart
      · exact absurd rfl hpackage
  | error error =>
      obtain ⟨levels, hup, rfl⟩ := ImportPath.eq_of_resolve_error hresolve
      have himport : resolveImport current text =
          .error (.outsideRoot ⟨read, levels, current⟩) := by
        simp only [resolveImport, h, hresolve]
      rw [hwalk, himport, hresolve, ImportPath.count_up_of_spelt hspelt hup]
      refine ⟨by simp [Except.toOption], fun error => ?_,
        fun _ => ImportPath.text_of_spelt_up hspelt hup, by simp⟩
      simp [Except.toOption, eq_comm]

/-- From `ctrl/loops/pid` of a package, `../../io/adc` leads to the root and down again, and
`../../../io/adc` leads outside. -/
theorem resolveImport_walk_pid :
    let current : ModulePath := ⟨some "plant", ["ctrl", "loops"], "pid"⟩
    resolveImport current "../../io/adc" = .ok ⟨some "plant", ["io"], "adc"⟩ ∧
    ∃ read, ImportPath.parse "../../../io/adc" = .ok read ∧ read.text = "../../../io/adc" ∧
      resolveImport current "../../../io/adc" = .error (.outsideRoot ⟨read, 3, current⟩) := by
  intro current
  obtain ⟨hinside, -⟩ := resolveImport_walk current
    (show ImportPath.parse "../../io/adc" = .ok ⟨.up 2, ["io"], "adc"⟩ by decide)
  have hparse : ImportPath.parse "../../../io/adc" = .ok ⟨.up 3, ["io"], "adc"⟩ := by decide
  obtain ⟨-, houtside, htext, -⟩ := resolveImport_walk current hparse
  have hwalk : current.walk? "../../../io/adc" = none := by decide
  exact ⟨(hinside _).mpr (by decide), _, hparse, htext hwalk, (houtside _).mpr ⟨hwalk, by decide⟩⟩

end BriskModules
