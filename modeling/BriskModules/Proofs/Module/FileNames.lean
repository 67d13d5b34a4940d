import BriskModules.Proofs.Module.Naming

/-!
File names that tell modules.

The files of a well-formed module are named by its segments, and a file below the source root is a
module by the names that lead to it. Neither loses anything: identifiers have no dots and no slashes
in them, so that no name is taken for another one, and what is no identifier is told in the error.
Only a package and a directory look the same in a file name, since there is no mark between them.

* `components_relativeFile`, `text_relativeFile`: the name of a file of a well-formed module;
* `components_relativeFile_eq_iff`: file names tell the segments and nothing else;
* `relativeFile_injective` (**file names identify modules**);
* `IsSourceName`: what the names of source files look like;
* `deriveModulePath_join` (**names below the source root are module paths**).
-/

namespace BriskModules

/-! ### The files of modules -/

namespace ModulePath

variable {path other : ModulePath} {extension : String}

/-- The name of a file of a well-formed module has the segments as its components. -/
lemma components_relativeFile (hpath : path.WellFormed) (hextension : IsExtension extension) :
    (path.relativeFile extension).components =
      (path.package.toList ++ path.dirs ++ [path.baseName extension]).map .named := by
  rw [FileName.components_of_ofPart? (hpath.ofPart?_of_mem_parts hextension),
    hpath.parts_relativeFile hextension]

/-- The name of a file of a well-formed module is written as the segments between slashes, with the
extension behind a dot. -/
lemma text_relativeFile (hpath : path.WellFormed) (hextension : IsExtension extension) :
    (path.relativeFile extension).text = Text.joined "/" path.segments ++ "." ++ extension := by
  calc (path.relativeFile extension).text
      = Text.joined "/" (path.relativeFile extension).parts := (Text.joined_cut '/' _).symm
    _ = Text.joined "/"
          (path.package.toList ++ path.dirs ++ [path.file ++ ("." ++ extension)]) := by
      rw [hpath.parts_relativeFile hextension, baseName, String.append_assoc]
    _ = Text.joined "/" path.segments ++ ("." ++ extension) := Text.joined_concat_append '/' _ _ _
    _ = Text.joined "/" path.segments ++ "." ++ extension := (String.append_assoc ..).symm

/-- The name of a file of a well-formed module tells the segments and nothing else. -/
lemma components_relativeFile_eq_iff (hpath : path.WellFormed) (hother : other.WellFormed)
    (hextension : IsExtension extension) :
    (path.relativeFile extension).components = (other.relativeFile extension).components ↔
      path.segments = other.segments := by
  rw [components_relativeFile hpath hextension, components_relativeFile hother hextension,
    map_named_injective.eq_iff]
  constructor
  · intro h
    obtain ⟨hfront, hbase⟩ := List.append_inj' h rfl
    rw [segments, segments, hfront, file_eq_of_baseName (List.singleton_inj.mp hbase)]
  · intro h
    obtain ⟨hfront, hfile⟩ := List.append_inj' h rfl
    rw [hfront, baseName, baseName, List.singleton_inj.mp hfile]

/-- Segments tell a module if it is known whether it is in a package. -/
lemma eq_of_segments (hpackage : path.package.isSome = other.package.isSome)
    (h : path.segments = other.segments) : path = other := by
  obtain ⟨package, dirs, file⟩ := path
  obtain ⟨package', dirs', file'⟩ := other
  obtain ⟨hfront, hfile⟩ := List.append_inj' h rfl
  obtain rfl : file = file' := List.singleton_inj.mp hfile
  cases package <;> cases package'
  · obtain rfl : dirs = dirs' := hfront
    rfl
  · cases hpackage
  · cases hpackage
  · obtain ⟨rfl, rfl⟩ := List.cons.inj hfront
    rfl

/-- **File names identify modules**: two well-formed modules that are both in a package, or both in
none, are the same if files of them with one extension have the same name, and two of one package
are if their implementations have. The name of a file is written as the segments between slashes,
with the extension behind a dot. -/
theorem relativeFile_injective :
    (∀ path other : ModulePath, path.WellFormed → other.WellFormed → path ≠ other →
      (path.package.isSome = other.package.isSome →
        (∀ extension, IsExtension extension →
          (path.relativeFile extension).components ≠ (other.relativeFile extension).components) ∧
        path.interfaceFile.components ≠ other.interfaceFile.components ∧
        path.sourceFileC.components ≠ other.sourceFileC.components ∧
        path.headerFileC.components ≠ other.headerFileC.components) ∧
      (path.package = other.package →
        path.implementationFile.components ≠ other.implementationFile.components)) ∧
    ∀ (path : ModulePath) (extension : String), path.WellFormed → IsExtension extension →
      (path.relativeFile extension).text = Text.joined "/" path.segments ++ "." ++ extension := by
  refine ⟨fun path other hpath hother hne => ⟨fun hpackage => ?_, fun hpackage hsame => ?_⟩,
    fun path extension hpath hextension => text_relativeFile hpath hextension⟩
  · have hdiffer : ∀ extension, IsExtension extension →
        (path.relativeFile extension).components ≠ (other.relativeFile extension).components :=
      fun extension hextension hsame => hne <| eq_of_segments hpackage <|
        (components_relativeFile_eq_iff hpath hother hextension).mp hsame
    exact ⟨hdiffer, hdiffer _ isExtension_interface, hdiffer "c" ⟨by decide, by decide⟩,
      hdiffer "h" ⟨by decide, by decide⟩⟩
  · have hsegments := (components_relativeFile_eq_iff hpath.withoutPackage hother.withoutPackage
      isExtension_implementation).mp hsame
    have hwithout : path.withoutPackage = other.withoutPackage := eq_of_segments rfl hsegments
    obtain ⟨package, dirs, file⟩ := path
    obtain ⟨package', dirs', file'⟩ := other
    obtain ⟨-, rfl, rfl⟩ := ModulePath.mk.inj hwithout
    exact hne (congrArg (ModulePath.mk · dirs file) hpackage)

/-- The modules `io/adc` and `adc` of a package have interfaces and implementations under different
names. -/
theorem relativeFile_injective_adc :
    (⟨some "plant", ["io"], "adc"⟩ : ModulePath).interfaceFile.text = "plant/io/adc.brh" ∧
    interfaceFile ⟨some "plant", ["io"], "adc"⟩ ≠ interfaceFile ⟨some "plant", [], "adc"⟩ ∧
    implementationFile ⟨some "plant", ["io"], "adc"⟩ ≠
      implementationFile ⟨some "plant", [], "adc"⟩ := by
  have hpath : WellFormed ⟨some "plant", ["io"], "adc"⟩ := by decide
  obtain ⟨hdifferent, htext⟩ := relativeFile_injective
  obtain ⟨hnames, himplementations⟩ :=
    hdifferent _ ⟨some "plant", [], "adc"⟩ hpath (by decide) (by decide)
  refine ⟨(htext _ _ hpath isExtension_interface).trans (by decide), fun hsame => ?_,
    fun hsame => himplementations rfl (congrArg FileName.components hsame)⟩
  exact (hnames rfl).2.1 (congrArg FileName.components hsame)

/-- A package and a directory of one name look the same. -/
example : interfaceFile ⟨some "io", [], "adc"⟩ = interfaceFile ⟨none, ["io"], "adc"⟩ := by
  decide

end ModulePath

/-! ### Names below the source root -/

/-- What the name of a source file looks like: there is a stem that is not empty, and behind a dot
the extension of an implementation or of an interface. -/
def IsSourceName (name stem : String) : Prop :=
  stem ≠ "" ∧
    (name = stem ++ "." ++ implementationExtension ∨ name = stem ++ "." ++ interfaceExtension)

lemma sourceStem?_eq_some_iff_isSourceName {name stem : String} :
    sourceStem? name = some stem ↔ IsSourceName name stem := by
  rw [sourceStem?_eq_some_iff]
  constructor
  · rintro ⟨extension, hsplit, hextension⟩
    obtain ⟨hstem, -, -, rfl⟩ := FileName.splitExtension_eq_some_iff.mp hsplit
    rcases hextension with rfl | rfl
    · exact ⟨hstem, .inl rfl⟩
    · exact ⟨hstem, .inr rfl⟩
  · rintro ⟨hstem, hname⟩
    have hsplit : ∀ extension, '.' ∉ extension.toList → extension ≠ "" →
        name = stem ++ "." ++ extension → splitExtension name = (stem, some extension) := by
      rintro extension hdot hne rfl
      exact FileName.splitExtension_append hstem hdot
        (FileName.append_extension_ne_up hne hdot stem)
    rcases hname with hname | hname
    · exact ⟨_, hsplit _ (by decide) (by decide) hname, .inl rfl⟩
    · exact ⟨_, hsplit _ (by decide) (by decide) hname, .inr rfl⟩

/-- **Names below the source root are module paths**: a source file under a name of any depth below
any root has the module path of the directories in this name and its own stem, or all of the names
that are unfit are told, in their order; any other file is refused. So the implementation of a
well-formed module below any root has this module as its module path. What the file system, which
has no links, holds does not matter. -/
theorem deriveModulePath_join (fs : Filesystem) (root : FileName) (package : Option String) :
    (∀ (file : FileName) (dirs : List String) (name : String),
      file.components = (dirs ++ [name]).map .named →
        ((∀ stem, ¬IsSourceName name stem) →
          deriveModulePath fs (root.join file) root package =
            .error (.notSource (root.join file))) ∧
        ∀ stem, IsSourceName name stem →
          deriveModulePath fs (root.join file) root package =
            if ModulePath.WellFormed ⟨package, dirs, stem⟩ then .ok ⟨package, dirs, stem⟩
            else .error (.invalidNames
              ((package.toList ++ dirs ++ [stem]).filter fun segment => ¬isIdentifier segment))) ∧
    ∀ path : ModulePath, path.WellFormed → path.package = package →
      deriveModulePath fs (root.join path.implementationFile) root package = .ok path := by
  refine ⟨fun file dirs name hfile => ?_, ?_⟩
  · have hway := relativeToRoot_join hfile fs root
    refine ⟨fun hnone => ?_, fun stem hstem =>
      deriveModulePath_of_named hway (sourceStem?_eq_some_iff_isSourceName.mpr hstem)⟩
    have hstem : sourceStem? name = none := Option.eq_none_iff_forall_ne_some.mpr fun stem hstem =>
      hnone stem (sourceStem?_eq_some_iff_isSourceName.mp hstem)
    simp only [deriveModulePath, hway, stemOfWay?_map_named, hstem]
  · rintro path hpath rfl
    exact deriveModulePath_join_implementationFile hpath fs root

/-- Below a root that is spelled with dots, a file has the module path of its name, names that are
unfit are told, and a name that has an extension only is no source file. -/
theorem deriveModulePath_join_adc :
    let fs := Filesystem.empty ["w", "lib"]
    let root : FileName := ⟨"../src/."⟩
    deriveModulePath fs (root.join ⟨"io//adc.brk"⟩) root (some "plant") =
      .ok ⟨some "plant", ["io"], "adc"⟩ ∧
    deriveModulePath fs (root.join ⟨"my-io/x/9.brh"⟩) root (some "plant") =
      .error (.invalidNames ["my-io", "9"]) ∧
    deriveModulePath fs (root.join ⟨"io/.brk"⟩) root (some "plant") =
      .error (.notSource (root.join ⟨"io/.brk"⟩)) := by
  intro fs root
  obtain ⟨hderived, -⟩ := deriveModulePath_join fs root (some "plant")
  have hstem : sourceStem? ".brk" = none := by decide
  have hnone : ∀ stem, ¬IsSourceName ".brk" stem := by
    simp [← sourceStem?_eq_some_iff_isSourceName, hstem]
  refine ⟨(hderived ⟨"io//adc.brk"⟩ ["io"] _ (by decide)).2 "adc" ⟨by decide, .inl rfl⟩,
    (hderived ⟨"my-io/x/9.brh"⟩ ["my-io", "x"] _ (by decide)).2 "9" ⟨by decide, .inr rfl⟩,
    (hderived ⟨"io/.brk"⟩ ["io"] _ (by decide)).1 hnone⟩

end BriskModules
