import BriskModules.Proofs.Import.Path
import BriskModules.Proofs.Text.Pieces
import Mathlib.Computability.Language

/-!
The grammar of import paths, and the reader against it.

The reader works on the parts between the slashes. The grammar here is a language in the
sense of Kleene over single characters, and knows nothing of parts.

* `Grammar.identifier`, `Grammar.importPath`: the languages;
* `mem_identifier`: what is accepted as an identifier is the language;
* `ImportStart.Written`, `ImportPath.Spelt`: how a text is put together from a start,
  directories and a file;
* `ImportStart.Cut`: how a start is cut into parts;
* `mem_importPath_iff`: the texts that are put together so are the language;
* `readStart_of_written`, `written_of_readStart`, `cut_of_readStart`: the start that is read
  against the start of the text;
* `parse_grammar` (**the reader is the grammar**): exactly the texts of the grammar are
  read, in the only way there is to take them apart, and writing is the way back.
-/

namespace BriskModules

open Computability

/-! ### The languages -/

namespace Grammar

/-- One of some characters. -/
def oneOf (chars : Char → Prop) : Language Char := {text | ∃ c, chars c ∧ text = [c]}

/-- `A-Z` or `a-z`. -/
def IsLetter (c : Char) : Prop := ('A' ≤ c ∧ c ≤ 'Z') ∨ ('a' ≤ c ∧ c ≤ 'z')

/-- `0-9`. -/
def IsDigit (c : Char) : Prop := '0' ≤ c ∧ c ≤ '9'

/-- `_*[A-Za-z]+[_A-Za-z0-9]*`, but not the reserved word. -/
def identifier : Language Char :=
  (oneOf (· = '_'))∗ * (oneOf IsLetter * (oneOf IsLetter)∗) *
    (oneOf fun c => c = '_' ∨ IsLetter c ∨ IsDigit c)∗ - {"brisk".toList}

/-- A slash. -/
def slash : Language Char := {['/']}

/-- One step up: `../`. -/
def ascent : Language Char := {"../".toList}

/-- The start of an import path: `@`, an identifier and a slash, or a slash, or steps up,
or `./`, or nothing. -/
def lead : Language Char :=
  oneOf (· = '@') * identifier * slash + slash + ascent * ascent∗ + {"./".toList} + 1

/-- An import path: its start, identifiers with a slash behind each, and an identifier. -/
def importPath : Language Char := lead * (identifier * slash)∗ * identifier

/-- Repeated choices are choices for every character. -/
lemma mem_kstar_oneOf {chars : Char → Prop} {text : List Char} :
    text ∈ (oneOf chars)∗ ↔ ∀ c ∈ text, chars c := by
  rw [Language.mem_kstar]
  constructor
  · rintro ⟨words, rfl, hwords⟩ c hc
    obtain ⟨word, hword, hc⟩ := List.mem_flatten.mp hc
    obtain ⟨d, hd, rfl⟩ := hwords word hword
    rwa [List.mem_singleton.mp hc]
  · intro h
    refine ⟨text.map ([·]), by simp [← List.flatMap_def], ?_⟩
    rintro _ hword
    obtain ⟨c, hc, rfl⟩ := List.mem_map.mp hword
    exact ⟨c, h c hc, rfl⟩

/-- A fixed word, repeated. -/
lemma mem_kstar_singleton {word text : List Char} :
    text ∈ ({word} : Language Char)∗ ↔ ∃ n, text = (List.replicate n word).flatten := by
  rw [Language.mem_kstar]
  constructor
  · rintro ⟨words, rfl, hwords⟩
    exact ⟨words.length, by rw [← List.eq_replicate_of_mem hwords]⟩
  · rintro ⟨n, rfl⟩
    exact ⟨_, rfl, fun other hother => List.eq_of_mem_replicate hother⟩

lemma isAlpha_iff (c : Char) : c.isAlpha = true ↔ IsLetter c := by
  have hupper : c.isUpper = true ↔ 'A' ≤ c ∧ c ≤ 'Z' := decide_eq_true_iff
  have hlower : c.isLower = true ↔ 'a' ≤ c ∧ c ≤ 'z' :=
    Bool.and_eq_true_iff.trans (and_congr decide_eq_true_iff decide_eq_true_iff)
  exact Bool.or_eq_true_iff.trans (or_congr hupper hlower)

lemma isWordChar_iff (c : Char) :
    isWordChar c = true ↔ c = '_' ∨ IsLetter c ∨ IsDigit c := by
  simp [isWordChar, Char.isAlphanum, isAlpha_iff, Char.isDigit, IsDigit, Char.le_def]

/-- The words that are written like identifiers. -/
lemma isIdentifierWord_iff (word : List Char) :
    isIdentifierWord word = true ↔
      word ∈ (oneOf (· = '_'))∗ * (oneOf IsLetter * (oneOf IsLetter)∗) *
        (oneOf fun c => c = '_' ∨ IsLetter c ∨ IsDigit c)∗ := by
  simp only [Language.mem_mul, mem_kstar_oneOf]
  constructor
  · intro h
    rw [isIdentifierWord] at h
    split at h
    · rename_i c rest hrest
      rw [Bool.and_eq_true, isAlpha_iff, List.all_eq_true] at h
      have hword := List.takeWhile_append_dropWhile (p := fun c => decide (c = '_')) (l := word)
      rw [hrest] at hword
      -- one letter is enough for `[A-Za-z]+`: the last class has all letters too
      refine ⟨word.takeWhile (· = '_') ++ [c], ⟨_, ?_, [c], ⟨[c], ⟨c, h.1, rfl⟩, [], ?_, rfl⟩, rfl⟩,
        rest, fun d hd => (isWordChar_iff d).mp (h.2 d hd), by simpa using hword⟩
      · exact fun d hd => of_decide_eq_true (List.all_eq_true.mp List.all_takeWhile d hd)
      · simp
    · simp at h
  · rintro ⟨_, ⟨underscores, hunderscores, _, ⟨_, ⟨c, hc, rfl⟩, letters, hletters, rfl⟩, rfl⟩,
      others, hothers, rfl⟩
    -- the first letter is where the underscores end
    have hne : c ≠ '_' := by
      rintro rfl
      exact absurd hc (by simp [IsLetter])
    have hdrop : (underscores ++ ([c] ++ letters) ++ others).dropWhile (fun c => decide (c = '_')) =
        c :: (letters ++ others) := by
      rw [List.append_assoc, List.dropWhile_append_of_pos (by simpa using hunderscores)]
      simp [hne]
    rw [isIdentifierWord, hdrop]
    simp only [Bool.and_eq_true, isAlpha_iff, List.all_eq_true, List.mem_append]
    refine ⟨hc, fun d hd => ?_⟩
    rcases hd with hd | hd
    · exact (isWordChar_iff d).mpr (.inr (.inl (hletters d hd)))
    · exact (isWordChar_iff d).mpr (hothers d hd)

/-- What is accepted as an identifier is the language of identifiers. -/
lemma mem_identifier {text : String} : text.toList ∈ identifier ↔ isIdentifier text = true := by
  have hreserved : text.toList ∈ ({"brisk".toList} : Language Char) ↔ text = reservedWord :=
    Set.mem_singleton_iff.trans String.toList_inj
  rw [identifier, Language.mem_sub, ← isIdentifierWord_iff, hreserved, isIdentifier,
    Bool.and_eq_true, decide_eq_true_eq, and_comm]

end Grammar

/-! ### Texts that are put together -/

open Grammar

/-- How the start of an import path is written. -/
inductive ImportStart.Written : ImportStart → List Char → Prop where
  | package {name : String} (h : name.toList ∈ identifier) :
      Written (.package name) ('@' :: (name.toList ++ ['/']))
  | root : Written .root ['/']
  | up (levels : ℕ) :
      Written (.up (levels + 1)) (List.replicate (levels + 1) "../".toList).flatten
  | marked : Written .here "./".toList
  | bare : Written .here []

/-- How the start of an import path is cut into parts. -/
inductive ImportStart.Cut : ImportStart → List (List Char) → Prop where
  | package {name : String} (h : isIdentifier name = true) :
      Cut (.package name) ['@' :: name.toList]
  | root : Cut .root [[]]
  | up (levels : ℕ) : Cut (.up (levels + 1)) (List.replicate (levels + 1) ['.', '.'])
  | marked : Cut .here [['.']]
  | bare : Cut .here []

/-- The parts of a start are what is written of it, with a slash behind each. -/
lemma ImportStart.Cut.written {start : ImportStart} {front : List (List Char)}
    (h : start.Cut front) : start.Written (front.flatMap (· ++ ['/'])) := by
  cases h with
  | package hname => simpa using ImportStart.Written.package (mem_identifier.mpr hname)
  | root => exact .root
  | up levels => simpa [List.flatMap_replicate] using ImportStart.Written.up levels
  | marked => exact .marked
  | bare => exact .bare

/-- The names of an import path as they are written: a slash behind each directory. -/
def ImportPath.body (dirs : List String) (file : String) : List Char :=
  dirs.flatMap (fun dir => dir.toList ++ ['/']) ++ file.toList

/-- The text is the import path, with `front` as its start. -/
structure ImportPath.Spelt (path : ImportPath) (front text : List Char) : Prop where
  start : path.start.Written front
  dirs : ∀ dir ∈ path.dirs, dir.toList ∈ identifier
  file : path.file.toList ∈ identifier
  text_eq : text = front ++ body path.dirs path.file

/-- The starts that can be written are the language of the starts. -/
lemma mem_lead_iff {front : List Char} :
    front ∈ lead ↔ ∃ start : ImportStart, start.Written front := by
  simp only [lead, Language.mem_add, Language.mem_mul, Language.mem_one]
  constructor
  · rintro ((((⟨_, ⟨_, ⟨_, rfl, rfl⟩, name, hname, rfl⟩, _, rfl, rfl⟩ | h) | h) | h) | rfl)
    · have hname' : (String.ofList name).toList ∈ identifier := by simpa using hname
      exact ⟨_, by simpa using ImportStart.Written.package hname'⟩
    · exact ⟨.root, by rw [Set.mem_singleton_iff.mp h]; exact .root⟩
    · obtain ⟨_, hfirst, more, hmore, rfl⟩ := h
      obtain ⟨levels, rfl⟩ := mem_kstar_singleton.mp hmore
      rw [Set.mem_singleton_iff.mp hfirst]
      exact ⟨_, .up levels⟩
    · exact ⟨.here, by rw [Set.mem_singleton_iff.mp h]; exact .marked⟩
    · exact ⟨.here, .bare⟩
  · rintro ⟨start, hstart⟩
    cases hstart with
    | @package name hname =>
        exact .inl (.inl (.inl (.inl ⟨'@' :: name.toList, ⟨['@'], ⟨_, rfl, rfl⟩, _, hname, rfl⟩,
          ['/'], rfl, rfl⟩)))
    | root => exact .inl (.inl (.inl (.inr rfl)))
    | up levels =>
        exact .inl (.inl (.inr ⟨_, rfl, _, mem_kstar_singleton.mpr ⟨levels, rfl⟩, rfl⟩))
    | marked => exact .inl (.inr rfl)
    | bare => exact .inr rfl

/-- Directories with a slash behind each. -/
lemma mem_dirs_iff {text : List Char} :
    text ∈ (identifier * slash)∗ ↔ ∃ dirs : List String,
      (∀ dir ∈ dirs, dir.toList ∈ identifier) ∧
        text = dirs.flatMap fun dir => dir.toList ++ ['/'] := by
  rw [Language.mem_kstar]
  constructor
  · rintro ⟨words, rfl, hwords⟩
    induction words with
    | nil => exact ⟨[], by simp⟩
    | cons word more ih =>
        obtain ⟨dirs, hdirs, hmore⟩ := ih fun other hother => hwords other (.tail word hother)
        obtain ⟨name, hname, _, rfl, rfl⟩ := Language.mem_mul.mp (hwords word (.head more))
        refine ⟨String.ofList name :: dirs, ?_, by simp [hmore]⟩
        exact List.forall_mem_cons.mpr ⟨by simpa using hname, hdirs⟩
  · rintro ⟨dirs, hdirs, rfl⟩
    refine ⟨dirs.map fun dir => dir.toList ++ ['/'], by rw [List.flatMap_def], ?_⟩
    intro _ hword
    obtain ⟨dir, hdir, rfl⟩ := List.mem_map.mp hword
    exact Language.mem_mul.mpr ⟨_, hdirs dir hdir, _, rfl, rfl⟩

/-- The texts that are put together as import paths are the language of import paths. -/
lemma mem_importPath_iff {text : List Char} :
    text ∈ importPath ↔ ∃ path : ImportPath, ∃ front, path.Spelt front text := by
  simp only [importPath, Language.mem_mul]
  constructor
  · rintro ⟨_, ⟨front, hfront, _, hdirs, rfl⟩, file, hfile, rfl⟩
    obtain ⟨start, hstart⟩ := mem_lead_iff.mp hfront
    obtain ⟨dirs, hnames, rfl⟩ := mem_dirs_iff.mp hdirs
    exact ⟨⟨start, dirs, String.ofList file⟩, front, hstart, hnames, by simpa using hfile,
      by simp [ImportPath.body]⟩
  · rintro ⟨path, front, h⟩
    refine ⟨_, ⟨front, mem_lead_iff.mpr ⟨_, h.start⟩, _, mem_dirs_iff.mpr ⟨_, h.dirs, rfl⟩, rfl⟩,
      _, h.file, ?_⟩
    rw [h.text_eq, ImportPath.body, List.append_assoc]

/-! ### The start of an import path, read and written -/

namespace ImportPath

/-- Steps up are counted, and the parts behind them left. -/
lemma splitAscent_eq (parts : List (List Char)) :
    parts = List.replicate (splitAscent parts).1 ['.', '.'] ++ (splitAscent parts).2 := by
  fun_induction splitAscent parts with
  | case1 next more levels rest hsplit ih =>
      rw [hsplit] at ih
      rw [List.replicate_succ, List.cons_append, ← ih]
  | case2 parts hparts => rfl

/-- Steps up before a part that is none are counted to the last. -/
lemma splitAscent_replicate {name : List Char} (hname : name ≠ ['.', '.']) (levels : ℕ)
    (more : List (List Char)) :
    splitAscent (List.replicate levels ['.', '.'] ++ name :: more) = (levels, name :: more) := by
  induction levels with
  | zero => rw [List.replicate_zero, List.nil_append, splitAscent.eq_2]; simp_all
  | succ levels ih =>
      obtain ⟨next, rest, hparts⟩ := List.exists_cons_of_ne_nil
        (l := List.replicate levels ['.', '.'] ++ name :: more) (by simp)
      rw [List.replicate_succ, List.cons_append, hparts, splitAscent, ← hparts, ih]

/-- The parts that are left are not another step up. -/
lemma splitAscent_snd_ne (parts more : List (List Char)) (next : List Char) :
    (splitAscent parts).2 ≠ ['.', '.'] :: next :: more := by
  fun_induction splitAscent parts with
  | case1 next more levels rest hsplit ih => rwa [hsplit] at ih
  | case2 parts hparts => exact hparts next more

/-- A part is left behind the steps up. -/
lemma splitAscent_snd_ne_nil {parts : List (List Char)} (h : parts ≠ []) :
    (splitAscent parts).2 ≠ [] := by
  fun_induction splitAscent parts with
  | case1 next more levels rest hsplit ih =>
      have hrest := ih (by simp)
      rwa [hsplit] at hrest
  | case2 parts hparts => exact h

/-- The start that is read is cut into the parts before those that are left, and the column is
behind them. -/
lemma cut_of_readStart {parts rest : List (List Char)} {start : ImportStart} {column : ℕ}
    (h : readStart parts = .ok (start, column, rest)) :
    ∃ front, parts = front ++ rest ∧ start.Cut front ∧
      column = (front.flatMap (· ++ ['/'])).length + 1 := by
  unfold readStart at h
  split at h
  · rename_i package more
    obtain ⟨⟨name, left⟩, hname, h⟩ := bind_eq_ok.mp h
    simp only at h
    split_ifs at h with hslash
    cases h
    have hpackage : package = name.toList := by simpa [hslash.1] using append_of_readName hname
    subst hpackage
    exact ⟨_, rfl, .package (isIdentifier_of_readName hname), by simp⟩
  · cases h
    exact ⟨[[]], rfl, .root, rfl⟩
  · cases h
    exact ⟨[['.']], rfl, .marked, rfl⟩
  · split at h
    · rename_i hsplit
      cases h
      have hparts := splitAscent_eq parts
      rw [hsplit] at hparts
      exact ⟨[], hparts, .bare, rfl⟩
    · rename_i levels _ hlevels hsplit
      cases h
      have hparts := splitAscent_eq parts
      rw [hsplit] at hparts
      obtain ⟨n, rfl⟩ := Nat.exists_eq_succ_of_ne_zero (n := levels) hlevels
      refine ⟨_, hparts, .up n, ?_⟩
      simp [List.flatMap_replicate, mul_comm]

/-- The start that is read is written in the parts before those that are left. -/
lemma written_of_readStart {parts rest : List (List Char)} {start : ImportStart} {column : ℕ}
    (h : readStart parts = .ok (start, column, rest)) :
    ∃ front, parts = front ++ rest ∧ start.Written (front.flatMap (· ++ ['/'])) := by
  obtain ⟨front, hparts, hcut, -⟩ := cut_of_readStart h
  exact ⟨front, hparts, hcut.written⟩

/-- Steps up before a name, or a name at once: all of the steps are read. -/
lemma readStart_ascent {name : String} (hname : isIdentifier name = true) (levels : ℕ)
    (more : List (List Char)) :
    readStart (List.replicate levels ['.', '.'] ++ name.toList :: more) =
      match levels with
      | 0 => .ok (.here, 1, name.toList :: more)
      | levels + 1 => .ok (.up (levels + 1), 3 * (levels + 1) + 1, name.toList :: more) := by
  have hat : '@' ∉ name.toList := notMem_of_isIdentifier hname (by decide)
  have hdot : '.' ∉ name.toList := notMem_of_isIdentifier hname (by decide)
  have hne : name.toList ≠ [] := by simpa using ne_empty_of_isIdentifier hname
  have hnotUp : name.toList ≠ ['.', '.'] := fun heq => hdot (by rw [heq]; simp)
  have hsplit := splitAscent_replicate hnotUp levels more
  rw [readStart.eq_4, hsplit]
  · cases levels <;> rfl
  -- none of the other starts: they would show in the first part
  all_goals
    rintro first others hparts
    cases levels with
    | zero =>
        have hfirst := (List.cons.inj hparts).1
        simp_all
    | succ levels => simp [List.replicate_succ] at hparts

/-- A start that is written before a name is read, and the name is left. -/
lemma readStart_of_written {start : ImportStart} {front : List Char} (h : start.Written front)
    {name : String} (hname : isIdentifier name = true) (more : List (List Char)) :
    ∃ column, ∃ parts : List (List Char), (∀ part ∈ parts, '/' ∉ part) ∧
      front = parts.flatMap (· ++ ['/']) ∧
      readStart (parts ++ name.toList :: more) = .ok (start, column, name.toList :: more) := by
  cases h with
  | @package package hpackage =>
      have hpackage := mem_identifier.mp hpackage
      have hslash : '/' ∉ package.toList := notMem_of_isIdentifier hpackage (by decide)
      refine ⟨package.toList.length + 3, ['@' :: package.toList], by simpa using hslash,
        by simp, ?_⟩
      simp [readStart, readName_of_isIdentifier hpackage, bind, Except.bind]
  | root => exact ⟨_, [[]], by simp, rfl, rfl⟩
  | up levels =>
      refine ⟨_, List.replicate (levels + 1) ['.', '.'], by simp, ?_,
        readStart_ascent hname (levels + 1) more⟩
      rw [List.flatMap_replicate]
      rfl
  | marked => exact ⟨_, [['.']], by simp, rfl, rfl⟩
  | bare => exact ⟨_, [], by simp, rfl, readStart_ascent hname 0 more⟩

/-! ### The reader and the grammar -/

/-- The parts of the names of an import path. -/
lemma body_eq (dirs : List String) (file : String) :
    body dirs file = ['/'].intercalate ((dirs ++ [file]).map String.toList) := by
  rw [List.map_append, List.map_singleton, Text.intercalate_concat, body, List.flatMap_map]

/-- The names of an import path start with a character of an identifier. -/
lemma exists_body_eq {dirs : List String} {file : String}
    (hdirs : ∀ dir ∈ dirs, dir.toList ∈ identifier) (hfile : file.toList ∈ identifier) :
    ∃ c rest, body dirs file = c :: rest ∧ isWordChar c = true := by
  obtain ⟨name, rest, hname, hbody⟩ : ∃ (name : String) (rest : List Char),
      isIdentifier name = true ∧ body dirs file = name.toList ++ rest := by
    cases dirs with
    | nil => exact ⟨file, [], mem_identifier.mp hfile, by simp [body]⟩
    | cons dir more =>
        exact ⟨dir, '/' :: body more file, mem_identifier.mp (hdirs dir (.head more)), by
          simp [body]⟩
  obtain ⟨c, others, hc, hword⟩ := exists_cons_of_isIdentifier hname
  exact ⟨c, others ++ rest, by rw [hbody, hc, List.cons_append], hword⟩

/-- What is read is put together to the text. -/
lemma spelt_of_parse {text : String} {path : ImportPath} (h : parse text = .ok path) :
    ∃ front, path.Spelt front text.toList := by
  obtain ⟨⟨start, column, parts⟩, hstart, h⟩ := bind_eq_ok.mp h
  obtain ⟨⟨dirs, file⟩, hsegments, h⟩ := bind_eq_ok.mp h
  cases h
  obtain ⟨front, hparts, hwritten⟩ := written_of_readStart hstart
  obtain ⟨rfl, hdirs, hfile⟩ := readSegments_eq_ok.mp hsegments
  refine ⟨_, hwritten, fun dir hdir => mem_identifier.mpr (hdirs dir hdir),
    mem_identifier.mpr hfile, ?_⟩
  calc text.toList
      = ['/'].intercalate (front ++ (dirs ++ [file]).map String.toList) := by
        rw [← hparts, Text.intercalate_pieces]
    _ = front.flatMap (· ++ ['/']) ++ body dirs file := by
        rw [List.map_append, List.map_singleton, ← List.append_assoc, Text.intercalate_concat,
          List.flatMap_append, List.append_assoc, body, List.flatMap_map]

/-- A text that is put together to an import path is read as that path. -/
lemma parse_of_spelt {text : String} {path : ImportPath} {front : List Char}
    (h : path.Spelt front text.toList) : parse text = .ok path := by
  have hdirs : ∀ dir ∈ path.dirs, isIdentifier dir = true := fun dir hdir =>
    mem_identifier.mp (h.dirs dir hdir)
  have hfile := mem_identifier.mp h.file
  have hnames : ∀ name ∈ path.dirs ++ [path.file], isIdentifier name = true := by
    simpa [or_imp, forall_and] using ⟨hdirs, hfile⟩
  obtain ⟨first, more, hfirst⟩ := List.exists_cons_of_ne_nil (l := path.dirs ++ [path.file])
    (by simp)
  obtain ⟨column, parts, hslash, rfl, hstart⟩ := readStart_of_written h.start
    (hnames first (by simp [hfirst])) (more.map String.toList)
  rw [← List.map_cons, ← hfirst] at hstart
  have hpieces : Text.pieces '/' text.toList =
      parts ++ (path.dirs ++ [path.file]).map String.toList := by
    rw [h.text_eq, Text.pieces_ended hslash, body_eq, Text.pieces_intercalate (by simp)]
    intro part hpart
    obtain ⟨name, hname, rfl⟩ := List.mem_map.mp hpart
    exact notMem_of_isIdentifier (hnames name hname) (by decide)
  have hsegments : readSegments column _ = .ok (path.dirs, path.file) :=
    readSegments_eq_ok.mpr ⟨rfl, hdirs, hfile⟩
  rw [parse, hpieces]
  exact bind_eq_ok.mpr ⟨_, hstart, bind_eq_ok.mpr ⟨_, hsegments, rfl⟩⟩

/-! ### Writing as the way back -/

lemma toList_text (path : ImportPath) :
    path.text.toList = path.start.text.toList ++ body path.dirs path.file := by
  rw [text, String.toList_append, body_eq, ← Text.toList_joined]
  rfl

lemma toList_text_up (levels : ℕ) :
    (ImportStart.up levels).text.toList = (List.replicate levels "../".toList).flatten := by
  rw [ImportStart.text, String.toList_join, List.flatMap_replicate]

/-- A start is written as in the text, with a mark where the text has none. -/
lemma toList_text_of_written {start : ImportStart} {front : List Char}
    (h : start.Written front) :
    start.text.toList = if front = [] then "./".toList else front := by
  cases h with
  | @package name hname => simp [ImportStart.text]
  | root => rfl
  | up levels => rw [toList_text_up, if_neg (by simp [List.replicate_succ])]
  | marked => rfl
  | bare => rfl

/-- Written out, an import path is the text it was read from, with a mark where the text has
no start. -/
lemma text_of_spelt {text : String} {path : ImportPath} {front : List Char}
    (h : path.Spelt front text.toList) :
    path.text = if front = [] then "./" ++ text else text := by
  rw [← String.toList_inj, toList_text, toList_text_of_written h.start]
  split_ifs with hfront
  · rw [String.toList_append, h.text_eq, hfront, List.nil_append]
  · rw [h.text_eq]

/-- Written out, an import path of identifiers is put together from its own start. -/
lemma spelt_text {path : ImportPath} (h : path.WellFormed)
    (hup : ∀ levels, path.start = .up levels → 1 ≤ levels) :
    path.Spelt path.start.text.toList path.text.toList := by
  refine ⟨?_, fun dir hdir => mem_identifier.mpr (h.dirs dir hdir), mem_identifier.mpr h.file,
    toList_text path⟩
  cases hstart : path.start with
  | package name =>
      have hwritten := ImportStart.Written.package (mem_identifier.mpr (h.package name hstart))
      simpa [ImportStart.text] using hwritten
  | root => exact .root
  | up levels =>
      obtain ⟨levels, rfl⟩ := Nat.exists_eq_add_of_le' (hup levels hstart)
      rw [toList_text_up]
      exact .up levels
  | here => exact .marked

/-- **Exactly the texts of the grammar are import paths, and writing is the way back**: the
texts that are read are the language; what is read is the only way to put the text together
from a start, directories and a file; written out it is the text again, with `./` before a
text that has no start; and every import path of identifiers, with a step up if it goes up,
is read back from what is written of it. -/
theorem parse_grammar (text : String) (path : ImportPath) :
    ((∃ read, parse text = .ok read) ↔ text.toList ∈ importPath) ∧
    (parse text = .ok path ↔ ∃ front, path.Spelt front text.toList) ∧
    (∀ front, path.Spelt front text.toList →
      (∀ other back, other.Spelt back text.toList → other = path ∧ back = front) ∧
      path.text = if front = [] then "./" ++ text else text) ∧
    (path.WellFormed → (∀ levels, path.start = .up levels → 1 ≤ levels) →
      parse path.text = .ok path) := by
  have hread : ∀ read, parse text = .ok read ↔ ∃ front, read.Spelt front text.toList :=
    fun read => ⟨spelt_of_parse, fun ⟨front, h⟩ => parse_of_spelt h⟩
  refine ⟨?_, hread path, fun front h => ⟨fun other back hother => ?_, text_of_spelt h⟩,
    fun hnames hup => parse_of_spelt (spelt_text hnames hup)⟩
  · rw [mem_importPath_iff]
    exact exists_congr hread
  · have hpath : other = path :=
      Except.ok.inj ((parse_of_spelt hother).symm.trans (parse_of_spelt h))
    subst hpath
    have htexts := hother.text_eq.symm.trans h.text_eq
    exact ⟨rfl, List.append_cancel_right htexts⟩

/-- `../../io/adc` is an import path in one way, and `io/adc` is written `./io/adc`. -/
theorem parse_grammar_adc :
    "../../io/adc".toList ∈ importPath ∧
    parse (ImportPath.text ⟨.up 2, ["io"], "adc"⟩) = .ok ⟨.up 2, ["io"], "adc"⟩ ∧
    (∃ front, Spelt ⟨.here, ["io"], "adc"⟩ front "io/adc".toList ∧
      ImportPath.text ⟨.here, ["io"], "adc"⟩ = if front = [] then "./io/adc" else "io/adc") := by
  have hup := parse_grammar "../../io/adc" ⟨.up 2, ["io"], "adc"⟩
  have hhere := parse_grammar "io/adc" ⟨.here, ["io"], "adc"⟩
  obtain ⟨front, hfront⟩ := hhere.2.1.mp (by decide)
  refine ⟨hup.1.mp ⟨⟨.up 2, ["io"], "adc"⟩, by decide⟩, hup.2.2.2 ?_ ?_,
    front, hfront, (hhere.2.2.1 front hfront).2⟩
  · exact ⟨by simp, by decide, by decide⟩
  · rintro _ ⟨⟩
    decide

end ImportPath

end BriskModules
