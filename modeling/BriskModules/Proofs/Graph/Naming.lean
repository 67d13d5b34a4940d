import BriskModules.Proofs.Graph.Agreement
import BriskModules.Proofs.Graph.Nesting
import BriskModules.Proofs.Module.Naming

/-!
Modules under their own names.

A compiler that searches nothing but its source root looks for a module of the own package under
one name, below the root. What it finds there has the module path back. And a file that has a
module path lies where this name leads, so the module is found, and found with the same text, unless
the name is too long to be opened: a file can have a short name while the root has a long one.

* `Compiler.ownFile`, `locate_eq_ite`: the one name for a module;
* `locate_deriveModulePath` (**a module is found under its own name**);
* `FileName.dotted`: names of any length for the current directory.
-/

namespace BriskModules

namespace Compiler

variable {α : Type} {compiler : Compiler α} {fs : Filesystem} {path : ModulePath}

variable (compiler) in
/-- The name under which the implementation of a module is looked for below the source root. -/
def ownFile (path : ModulePath) : FileName :=
  compiler.options.sourceRoot.join path.implementationFile

/-- If only the source root is searched, one name is tried for a module of the own package. -/
lemma locate_eq_ite (hsource : compiler.options.sourcePath = ⟨[compiler.options.sourceRoot]⟩)
    (hpackage : path.package = compiler.options.package) :
    compiler.locate fs path =
      if fs.isReadable (compiler.ownFile path) then .ok (compiler.ownFile path)
      else .error ⟨path, [compiler.notFound path [compiler.ownFile path]]⟩ := by
  have hown : compiler.isOwn path = true := by
    rw [isOwn, ModulePath.isInPackage, hpackage, decide_eq_true_eq]
  have hsearch : compiler.search fs path =
      SearchPath.findIn fs path.implementationFile [compiler.options.sourceRoot] := by
    rw [search, if_pos hown, SearchPath.findImplementation, SearchPath.find, hsource]
    rfl
  rw [locate, hsearch, SearchPath.findIn, ← ownFile]
  by_cases hreadable : fs.isReadable (compiler.ownFile path) = true
  · simp [hreadable]
  · simp [hreadable, SearchPath.findIn]

/-- **A module is found under its own name.** If only the source root is searched, a file that is
found for a module of the own package has the module path back. And in a tree, which has no links,
where a source file that may be opened has a module path, the one name that is tried for this module
leads to the file, and the module is found under it unless it is too long to be opened. -/
theorem locate_deriveModulePath (compiler : Compiler α) (fs : Filesystem)
    (hsource : compiler.options.sourcePath = ⟨[compiler.options.sourceRoot]⟩) :
    (∀ path file, path.WellFormed → path.package = compiler.options.package →
      compiler.locate fs path = .ok file →
        deriveModulePath fs file compiler.options.sourceRoot compiler.options.package =
          .ok path) ∧
    (fs.IsTree → ∀ file path, fs.isReadable file = true →
      file.extension? = some implementationExtension →
      deriveModulePath fs file compiler.options.sourceRoot compiler.options.package =
        .ok path →
      fs.follow (compiler.ownFile path) = fs.follow file ∧
        ((compiler.ownFile path).text.utf8ByteSize < Filesystem.pathLimit →
          compiler.locate fs path = .ok (compiler.ownFile path) ∧
            fs.readText (compiler.ownFile path) = fs.readText file) ∧
        (Filesystem.pathLimit ≤ (compiler.ownFile path).text.utf8ByteSize →
          compiler.locate fs path =
            .error ⟨path, [compiler.notFound path [compiler.ownFile path]]⟩)) := by
  constructor
  · intro path file hpath hpackage hlocate
    rw [locate_eq_ite hsource hpackage] at hlocate
    split_ifs at hlocate
    obtain rfl := Except.ok.inj hlocate
    rw [← hpackage]
    exact deriveModulePath_join_implementationFile hpath fs _
  · intro htree file path hreadable hextension hderived
    obtain ⟨-, hpackage⟩ := ModulePath.wellFormed_of_deriveModulePath hderived
    obtain ⟨hshort, location, content, hfollow, hentry, hcontent⟩ :=
      Filesystem.isReadable_iff.mp hreadable
    have hsame : fs.follow (compiler.ownFile path) = .ok location :=
      follow_join_implementationFile htree hfollow (by simp [hentry]) hextension hderived
    refine ⟨hsame.trans hfollow.symm, fun hlimit => ?_, fun hlimit => ?_⟩
    · have hown : fs.isReadable (compiler.ownFile path) = true :=
        Filesystem.isReadable_iff.mpr ⟨hlimit, location, content, hsame, hentry, hcontent⟩
      refine ⟨by rw [locate_eq_ite hsource hpackage, if_pos hown], ?_⟩
      rw [Filesystem.readText, Filesystem.readText, Filesystem.locate_eq_follow hlimit,
        Filesystem.locate_eq_follow hshort, hsame, hfollow]
    · have hown : ¬fs.isReadable (compiler.ownFile path) = true :=
        fun hfound => Nat.not_lt.mpr hlimit (Filesystem.isReadable_iff.mp hfound).1
      rw [locate_eq_ite hsource hpackage, if_neg hown]

/-- A compiler with a source root, and nothing else to search. -/
def below (root : FileName) : Compiler Unit :=
  ofSyntaxTrees { sourceRoot := root, sourcePath := ⟨[root]⟩ }

/-- The module of a file that lies two directories below the root is found, and is the one of the
file under which it is found. -/
theorem locate_deriveModulePath_adc :
    (below ⟨"./src"⟩).options.sourcePath = ⟨[(below ⟨"./src"⟩).options.sourceRoot]⟩ ∧
      sampleTree.IsTree ∧
      (below ⟨"./src"⟩).locate sampleTree ⟨none, ["io"], "adc"⟩ = .ok ⟨"./src/io/adc.brk"⟩ ∧
      sampleTree.readText ⟨"./src/io/adc.brk"⟩ =
        sampleTree.readText ⟨"/w/src/../src//io/adc.brk"⟩ ∧
      deriveModulePath sampleTree ⟨"./src/io/adc.brk"⟩ ⟨"./src"⟩ none =
        .ok ⟨none, ["io"], "adc"⟩ := by
  have htree : sampleTree.IsTree := by decide +kernel
  obtain ⟨hback, hfound⟩ := locate_deriveModulePath (below ⟨"./src"⟩) sampleTree rfl
  have hown : (below ⟨"./src"⟩).ownFile ⟨none, ["io"], "adc"⟩ = ⟨"./src/io/adc.brk"⟩ := by
    decide +kernel
  have hmixed := (hfound htree ⟨"/w/src/../src//io/adc.brk"⟩ ⟨none, ["io"], "adc"⟩
    (by decide +kernel) (by decide +kernel) (by decide +kernel)).2
  rw [hown] at hmixed
  obtain ⟨hlocate, htext⟩ := hmixed.1 (by decide +kernel)
  have hderived := hback ⟨none, ["io"], "adc"⟩ _ (by decide) rfl hlocate
  exact ⟨rfl, htree, hlocate, htext, hderived⟩

end Compiler

/-! ### A root under a long name -/

namespace FileName

/-- The current directory, spelled with a number of dots. -/
def dotted (n : ℕ) : FileName :=
  ⟨String.ofList ((List.replicate n ['.']).flatMap (· ++ ['/']))⟩

lemma parts_dotted (n : ℕ) : (dotted n).parts = List.replicate n "." ++ [""] := by
  have hdot : ∀ part ∈ List.replicate n ['.'], '/' ∉ part := by simp
  have hpieces := Text.pieces_ended hdot []
  rw [List.append_nil] at hpieces
  rw [FileName.parts, Text.cut, dotted, String.toList_ofList, hpieces]
  simp [Text.pieces]

lemma isAbsolute_dotted (n : ℕ) : (dotted n).isAbsolute = false := by
  rw [← Bool.not_eq_true, isAbsolute_eq_true_iff, parts_dotted]
  cases n <;> simp [List.replicate_succ]

lemma steps_dotted (n : ℕ) : (dotted n).steps = [] := by
  rw [steps_eq, isAbsolute_dotted, parts_dotted]
  simp [Component.ofPart?]

lemma utf8ByteSize_dotted (n : ℕ) : (dotted n).text.utf8ByteSize = 2 * n := by
  induction n with
  | zero => rfl
  | succ n ih =>
      have htext : (dotted (n + 1)).text = "./" ++ (dotted n).text := by
        rw [← String.toList_inj]
        simp [dotted, List.replicate_succ]
      rw [htext, String.utf8ByteSize_append, ih]
      have hdot : "./".utf8ByteSize = 2 := rfl
      omega

/-- Names with dots in front of them are longer by these. -/
lemma utf8ByteSize_join_le (n : ℕ) {file : FileName} (h : file.isAbsolute = false) :
    2 * n + file.text.utf8ByteSize ≤ ((dotted n).join file).text.utf8ByteSize := by
  rw [← utf8ByteSize_dotted, join, if_neg (by simp [h])]
  split_ifs
  · rw [String.utf8ByteSize_append]
  · simp only [String.utf8ByteSize_append]
    omega

/-- Any number of dots leads to the current directory. -/
lemma follow_dotted {n : ℕ} (hn : n ≠ 0) {fs : Filesystem}
    (h : fs.isDirectory fs.current = true) : fs.follow (dotted n) = .ok fs.current := by
  have hzero : '\x00' ∉ (dotted n).text.toList := by
    rw [zero_notMem_text_iff, steps_dotted]
    simp
  have hempty : (dotted n).text ≠ "" := by
    intro hempty
    have hsize := utf8ByteSize_dotted n
    rw [hempty, String.utf8ByteSize_empty] at hsize
    omega
  rw [Filesystem.follow, if_neg hzero, if_neg hempty, Filesystem.origin, isAbsolute_dotted,
    parts_dotted]
  refine Filesystem.foldlM_step_of_ofPart?_eq_none h fun part hpart => if_pos ?_
  rcases List.mem_append.mp hpart with hdot | hlast
  · exact .inr (List.eq_of_mem_replicate hdot)
  · exact .inl (List.mem_singleton.mp hlast)

end FileName

namespace Compiler

open FileName in
/-- A module is not found if the spelling of the source root is too long for the names below
it, though the root and the file of the module can be opened. -/
theorem locate_dotted :
    (below (dotted 2046)).options.sourcePath = ⟨[(below (dotted 2046)).options.sourceRoot]⟩ ∧
      sampleTree.IsTree ∧ sampleTree.locate (dotted 2046) = .ok ["w"] ∧
      sampleTree.isReadable ⟨"main.brk"⟩ = true ∧
      extension? ⟨"main.brk"⟩ = some implementationExtension ∧
      deriveModulePath sampleTree ⟨"main.brk"⟩ (dotted 2046) none = .ok ⟨none, [], "main"⟩ ∧
      ∀ found, (below (dotted 2046)).locate sampleTree ⟨none, [], "main"⟩ ≠ .ok found := by
  have hroot : sampleTree.locate (dotted 2046) = .ok ["w"] := by
    rw [Filesystem.locate_eq_follow (by rw [utf8ByteSize_dotted]; decide)]
    exact follow_dotted (by decide) (by decide +kernel)
  have hway : relativeToRoot sampleTree ⟨"main.brk"⟩ (dotted 2046) = some [.named "main.brk"] := by
    rw [relativeToRoot, writtenWay?_eq_some_iff.mpr
      ⟨show _ = _ ++ [.named "main.brk"] by rw [steps_dotted]; decide, by simp⟩]
  have hderived : deriveModulePath sampleTree ⟨"main.brk"⟩ (dotted 2046) none =
      .ok ⟨none, [], "main"⟩ :=
    (deriveModulePath_of_way hway (by decide +kernel) none).trans (if_pos (by decide))
  refine ⟨rfl, by decide +kernel, hroot, by decide +kernel, by decide +kernel, hderived, ?_⟩
  intro found hfound
  have hname : ModulePath.implementationFile ⟨none, [], "main"⟩ = ⟨"main.brk"⟩ := by decide +kernel
  have hlong : 2 * 2046 + 8 ≤
      ((below (dotted 2046)).ownFile ⟨none, [], "main"⟩).text.utf8ByteSize := by
    rw [ownFile, hname]
    exact utf8ByteSize_join_le 2046 (show isAbsolute ⟨"main.brk"⟩ = false by decide)
  rw [locate_eq_ite rfl rfl, if_neg] at hfound
  · cases hfound
  · intro hopened
    have hshort := (Filesystem.isReadable_iff.mp hopened).1
    rw [Filesystem.pathLimit] at hshort
    omega

end Compiler

end BriskModules
