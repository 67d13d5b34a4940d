import BriskModules.Import.Error
import BriskModules.Proofs.Import.Grammar

/-!
What is at the column of an error in an import path.

An accepted text is one that is read as an import path. What stands before the column is the
beginning of an accepted text, but with the token at the column it is not any more. The token is
a run of characters of identifiers, or of dots, and the character behind the run.

* `run`, `token`, `run_stops`: the token at the start of a text, and that it has characters which
  do not fit together;
* `Follows`, `exists_follows`: what becomes of the parts of a text, if the text is changed behind
  a token only;
* `Accepted`, `Accepted.exists_parts`, `accepted_of_cut`: the parts of an accepted text;
* `cases_of_cut`, `not_cut_of_readStart`: the start that is read is as long as possible;
* `Stops`, `stops_of_readSegments`, `exists_of_readStart`: where reading stops;
* `Stops.pieces_ne`, `pieces_ne_of_package`: no accepted text has the same token there;
* `Stops.viable`, `viable_of_package`: what has been read can be completed;
* `atFault_of_parse` (**the column is where the text is at fault**);
* `AtFault.column_le`: how large the column in the source can be.
-/

namespace BriskModules

open Grammar

/-! ### Tokens -/

namespace ImportPath

/-- The characters of identifiers at the start of a text, or the dots if there are none. -/
def run (text : List Char) : List Char :=
  if text.takeWhile isWordChar = [] then text.takeWhile (· = '.') else text.takeWhile isWordChar

/-- The run at the start of a text and the character behind it. -/
def token (text : List Char) : List Char := text.take ((run text).length + 1)

lemma run_isPrefix (text : List Char) : run text <+: text := by
  rw [run]
  split_ifs
  · exact List.takeWhile_prefix _
  · exact List.takeWhile_prefix _

/-- A run ends at a slash. -/
lemma run_append_slash (text more : List Char) : run (text ++ '/' :: more) = run text := by
  have hstop : ∀ p : Char → Bool, p '/' = false →
      (text ++ '/' :: more).takeWhile p = text.takeWhile p := by
    intro p hp
    rw [List.takeWhile_append]
    split_ifs with hall
    · rw [List.takeWhile_cons_of_neg (by simp [hp]), List.append_nil]
      exact ((List.takeWhile_prefix p).eq_of_length hall).symm
    · rfl
  rw [run, run, hstop _ (by decide), hstop _ (by decide)]

/-- A run and the character behind it are neither all of an identifier nor all dots. -/
lemma run_stops {text : List Char} {c : Char} (h : run text ++ [c] <+: text) :
    (∃ d ∈ run text ++ [c], isWordChar d = false) ∧ ∃ d ∈ run text ++ [c], d ≠ '.' := by
  have hnext : ∀ p : Char → Bool, run text = text.takeWhile p → p c = false := by
    intro p hp
    obtain ⟨left, hleft⟩ := h
    rw [hp, List.append_assoc, List.singleton_append] at hleft
    have hdrop : text.dropWhile p = c :: left :=
      List.append_cancel_left (List.takeWhile_append_dropWhile.trans hleft.symm)
    have hnot := List.head?_dropWhile_not p text
    rwa [hdrop] at hnot
  by_cases hword : text.takeWhile isWordChar = []
  · have hrun : run text = text.takeWhile (· = '.') := by rw [run, if_pos hword]
    have hdot : c ≠ '.' := of_decide_eq_false (hnext _ hrun)
    refine ⟨?_, c, by simp, hdot⟩
    cases hdots : run text with
    | nil => exact ⟨c, by simp, hnext _ (hdots.trans hword.symm)⟩
    | cons d more =>
        have hd : d ∈ text.takeWhile (· = '.') := by simp [← hrun, hdots]
        have hdot : d = '.' := by simpa using List.mem_takeWhile_imp hd
        exact ⟨d, by simp, by rw [hdot]; decide⟩
  · have hrun : run text = text.takeWhile isWordChar := by rw [run, if_neg hword]
    refine ⟨⟨c, by simp, hnext _ hrun⟩, ?_⟩
    obtain ⟨d, more, hd⟩ := List.exists_cons_of_ne_nil hword
    have hmem : d ∈ text.takeWhile isWordChar := by simp [hd]
    refine ⟨d, by simp [hrun, hmem], ?_⟩
    rintro rfl
    exact absurd (List.mem_takeWhile_imp hmem) (by decide)

/-- What a part and the parts behind it can become in a text that is the same as far as the token
at the start of the part. -/
inductive Follows (rest : List Char) (more : List (List Char)) :
    List Char → List (List Char) → Prop where
  /-- The token ends within the part. -/
  | within {c : Char} {other : List Char} {others : List (List Char)}
      (h : run rest ++ [c] <+: rest) : Follows rest more (run rest ++ [c] ++ other) others
  /-- The token ends with the slash behind the part. -/
  | whole {others : List (List Char)} (hmore : more ≠ []) : Follows rest more rest others

variable {rest rest' : List Char} {more more' : List (List Char)}

/-- Only what is left as it was, before a slash, can be all of an identifier. -/
lemma Follows.eq_of_words (h : Follows rest more rest' more')
    (hwords : ∀ c ∈ rest', isWordChar c = true) : rest' = rest ∧ more ≠ [] := by
  cases h with
  | within hrun =>
      obtain ⟨⟨d, hd, hnot⟩, -⟩ := run_stops hrun
      rw [hwords d (List.mem_append_left _ hd)] at hnot
      cases hnot
  | whole hmore => exact ⟨rfl, hmore⟩

/-- The end of an identifier is left as it was, before a slash. -/
lemma Follows.eq_of_isIdentifier (h : Follows rest more rest' more') {front : List Char}
    (hidentifier : isIdentifier (String.ofList (front ++ rest')) = true) :
    rest' = rest ∧ more ≠ [] := by
  have hwords := isWordChar_of_isIdentifier hidentifier
  rw [String.toList_ofList] at hwords
  exact h.eq_of_words fun c hc => hwords c (List.mem_append_right _ hc)

/-- Only what is left as it was, before a slash, can be dots. -/
lemma Follows.eq_of_dots (h : Follows rest more rest' more')
    (hdots : ∀ c ∈ rest', c = '.') : rest' = rest ∧ more ≠ [] := by
  cases h with
  | within hrun =>
      obtain ⟨-, d, hd, hnot⟩ := run_stops hrun
      exact absurd (hdots d (List.mem_append_left _ hd)) hnot
  | whole hmore => exact ⟨rfl, hmore⟩

/-- The first character is the same. -/
lemma Follows.head?_eq (h : Follows rest more rest' more') : rest'.head? = rest.head? := by
  cases h with
  | @within c other others hrun =>
      obtain ⟨left, hleft⟩ := hrun
      conv_rhs => rw [← hleft]
      cases run rest <;> rfl
  | whole => rfl

lemma run_append_parts (rest : List Char) (more : List (List Char)) :
    run (rest ++ more.flatMap ('/' :: ·)) = run rest := by
  cases more with
  | nil => simp
  | cons next others => exact run_append_slash rest _

/-- A token that ends within a part. -/
lemma token_within {c : Char} (h : run rest ++ [c] <+: rest) :
    token (rest ++ more.flatMap ('/' :: ·)) = run rest ++ [c] := by
  obtain ⟨left, hleft⟩ := h
  calc token (rest ++ more.flatMap ('/' :: ·))
      = (run rest ++ [c] ++ (left ++ more.flatMap ('/' :: ·))).take ((run rest).length + 1) := by
        rw [token, run_append_parts, ← List.append_assoc, hleft]
    _ = run rest ++ [c] := List.take_left' (by simp)

/-- A token that ends with the slash behind a part. -/
lemma token_whole (h : run rest = rest) (hmore : more ≠ []) :
    token (rest ++ more.flatMap ('/' :: ·)) = rest ++ ['/'] := by
  obtain ⟨next, others, rfl⟩ := List.exists_cons_of_ne_nil hmore
  rw [token, run_append_parts, h, List.flatMap_cons, List.cons_append, List.append_cons]
  exact List.take_left' (by simp)

/-- A text that starts as another one as far as a token is cut into the same parts in front of that
token, and the part with the token follows the other one. -/
lemma exists_follows {front : List Char} {lead : List (List Char)}
    (hlead : ∀ part ∈ lead, '/' ∉ part) (hpart : '/' ∉ front ++ rest)
    (hends : run (rest ++ more.flatMap ('/' :: ·)) ≠ rest ++ more.flatMap ('/' :: ·))
    (after : List Char) :
    ∃ rest' more', Follows rest more rest' more' ∧
      Text.pieces '/' (lead.flatMap (· ++ ['/']) ++ front ++
        token (rest ++ more.flatMap ('/' :: ·)) ++ after) = lead ++ (front ++ rest') :: more' := by
  rw [run_append_parts] at hends
  obtain ⟨left, hleft⟩ := run_isPrefix rest
  cases left with
  | cons c left =>
      have hstart : run rest ++ [c] <+: rest := ⟨left, by simpa using hleft⟩
      have hslash : '/' ∉ front ++ (run rest ++ [c]) := by
        intro hmem
        rcases List.mem_append.mp hmem with hmem | hmem
        · exact hpart (List.mem_append_left _ hmem)
        · exact hpart (List.mem_append_right _ (hstart.subset hmem))
      obtain ⟨other, others, hpieces⟩ := Text.pieces_append_of_notMem hslash after
      refine ⟨run rest ++ [c] ++ other, others, .within hstart, ?_⟩
      rw [token_within hstart, List.append_assoc, List.append_assoc, Text.pieces_ended hlead,
        ← List.append_assoc, hpieces, List.append_assoc]
  | nil =>
      rw [List.append_nil] at hleft
      have hmore : more ≠ [] := by
        rintro rfl
        simp [hleft] at hends
      refine ⟨rest, Text.pieces '/' after, .whole hmore, ?_⟩
      rw [token_whole hleft hmore, List.append_assoc, List.append_assoc,
        Text.pieces_ended hlead, ← List.append_assoc, ← List.append_assoc,
        List.append_assoc _ ['/'], List.singleton_append, Text.pieces_append_sep,
        Text.pieces_of_notMem hpart, List.singleton_append]

/-! ### Accepted texts -/

/-- The text is read as an import path. -/
def Accepted (text : List Char) : Prop := ∃ path, parse (String.ofList text) = .ok path

/-- An accepted text is cut into the parts of a start and identifiers. -/
lemma Accepted.exists_parts {text : List Char} (h : Accepted text) :
    ∃ (start : ImportStart) (lead names : List (List Char)), start.Cut lead ∧ names ≠ [] ∧
      (∀ name ∈ names, isIdentifier (String.ofList name) = true) ∧
      Text.pieces '/' text = lead ++ names := by
  obtain ⟨path, h⟩ := h
  obtain ⟨⟨start, column, parts⟩, hstart, h⟩ := bind_eq_ok.mp h
  obtain ⟨⟨dirs, file⟩, hsegments, -⟩ := bind_eq_ok.mp h
  obtain ⟨lead, hparts, hcut, -⟩ := cut_of_readStart hstart
  obtain ⟨rfl, hdirs, hfile⟩ := readSegments_eq_ok.mp hsegments
  refine ⟨start, lead, (dirs ++ [file]).map String.toList, hcut, by simp, ?_,
    by simpa using hparts⟩
  simpa [or_imp, forall_and] using ⟨hdirs, hfile⟩

/-- The parts of a start with a slash behind each, identifiers with a slash behind each, and an
identifier are an accepted text. -/
lemma accepted_of_cut {start : ImportStart} {lead dirs : List (List Char)} {file : List Char}
    (hlead : start.Cut lead) (hdirs : ∀ dir ∈ dirs, isIdentifier (String.ofList dir) = true)
    (hfile : isIdentifier (String.ofList file) = true) :
    Accepted ((lead ++ dirs).flatMap (· ++ ['/']) ++ file) := by
  refine ⟨⟨start, dirs.map String.ofList, String.ofList file⟩, parse_of_spelt ⟨hlead.written,
    ?_, mem_identifier.mpr hfile, ?_⟩⟩
  · intro dir hdir
    obtain ⟨name, hname, rfl⟩ := List.mem_map.mp hdir
    exact mem_identifier.mpr (hdirs name hname)
  · simp [body, List.flatMap_map]

/-! ### The start that is read is the longest -/

/-- No part of a start begins like an identifier. -/
lemma not_word_of_cut {start : ImportStart} {lead : List (List Char)} (h : start.Cut lead)
    {c : Char} {others : List Char} (hpart : c :: others ∈ lead) : isWordChar c = false := by
  cases h with
  | package hname =>
      rw [(List.cons.inj (List.mem_singleton.mp hpart)).1]
      decide
  | root => simp at hpart
  | up levels =>
      rw [(List.cons.inj (List.eq_of_mem_replicate hpart)).1]
      decide
  | marked =>
      rw [(List.cons.inj (List.mem_singleton.mp hpart)).1]
      decide
  | bare => simp at hpart

/-- What stands at the end of the parts of a start: two dots behind nothing but two dots, or the
only part. -/
lemma cases_of_cut {start : ImportStart} {lead : List (List Char)} {last : List Char}
    (h : start.Cut (lead ++ [last])) :
    (lead = [] ∧ (last.head? = some '@' ∨ last = [] ∨ last = ['.'])) ∨
      (∃ levels, lead = List.replicate levels ['.', '.']) ∧ last = ['.', '.'] := by
  generalize hall : lead ++ [last] = all at h
  have hsingle : ∀ only, all = [only] → lead = [] ∧ last = only := by
    rintro only rfl
    obtain ⟨hlead, hlast⟩ := List.append_inj' (hall.trans (List.nil_append [only]).symm) rfl
    exact ⟨hlead, List.singleton_inj.mp hlast⟩
  cases h with
  | package hname =>
      obtain ⟨hlead, rfl⟩ := hsingle _ rfl
      exact .inl ⟨hlead, .inl rfl⟩
  | root => exact .inl ((hsingle _ rfl).imp_right fun hlast => .inr (.inl hlast))
  | marked => exact .inl ((hsingle _ rfl).imp_right fun hlast => .inr (.inr hlast))
  | up levels =>
      have hdots : ∀ other ∈ lead ++ [last], other = ['.', '.'] := by
        rw [hall]
        exact fun other => List.eq_of_mem_replicate
      exact .inr ⟨⟨_, List.eq_replicate_of_mem fun other hother => hdots other (by simp [hother])⟩,
        hdots last (by simp)⟩
  | bare => simp at hall

/-- The parts of a start as far as one of them are a start. -/
lemma exists_cut_of_cut {start : ImportStart} {lead more : List (List Char)} {part : List Char}
    (h : start.Cut (lead ++ part :: more)) : ∃ other : ImportStart, other.Cut (lead ++ [part]) := by
  cases more with
  | nil => exact ⟨start, h⟩
  | cons next others =>
      generalize hall : lead ++ part :: next :: others = all at h
      cases h with
      | up levels =>
          have hdots : ∀ other ∈ lead ++ [part], other = ['.', '.'] := by
            intro other hother
            refine List.eq_of_mem_replicate (n := levels + 1) (hall ▸ ?_)
            rw [List.append_cons]
            exact List.mem_append_left _ hother
          rw [List.eq_replicate_of_mem hdots, List.length_append, List.length_singleton]
          exact ⟨_, .up lead.length⟩
      | _ =>
          have hlength := congrArg List.length hall
          simp only [List.length_append, List.length_cons, List.length_nil] at hlength
          omega

/-- Behind the start there is a part left. -/
lemma ne_nil_of_readStart {parts left : List (List Char)} {start : ImportStart} {column : ℕ}
    (h : readStart parts = .ok (start, column, left)) (hne : parts ≠ []) : left ≠ [] := by
  unfold readStart at h
  split at h
  · obtain ⟨⟨name, left⟩, -, h⟩ := bind_eq_ok.mp h
    simp only at h
    split_ifs at h with hslash
    cases h
    exact hslash.2
  · cases h
    simp
  · cases h
    simp
  · have hleft := splitAscent_snd_ne_nil hne
    split at h
    · rename_i hsplit
      cases h
      rwa [hsplit] at hleft
    · rename_i hsplit
      cases h
      rwa [hsplit] at hleft

lemma head?_ne_of_readStart {part : List Char} {more : List (List Char)} {start : ImportStart}
    {column : ℕ} (h : readStart (part :: more) = .ok (start, column, part :: more)) :
    part.head? ≠ some '@' := by
  intro hhead
  obtain ⟨package, rfl⟩ := List.head?_eq_some_iff.mp hhead
  obtain ⟨⟨name, left⟩, -, h⟩ := bind_eq_ok.mp h
  simp only at h
  split_ifs at h
  have hmore := (Prod.mk.inj (Prod.mk.inj (Except.ok.inj h)).2).2
  exact List.cons_ne_self _ _ hmore.symm

/-- A part that is left with another one behind it could not belong to the start. -/
lemma not_cut_of_readStart {lead more : List (List Char)} {part next : List Char}
    {start other : ImportStart} {column : ℕ}
    (h : readStart (lead ++ part :: next :: more) = .ok (start, column, part :: next :: more)) :
    ¬other.Cut (lead ++ [part]) := by
  intro hcut
  rcases cases_of_cut hcut with ⟨rfl, hhead | rfl | rfl⟩ | ⟨⟨levels, rfl⟩, rfl⟩
  · exact head?_ne_of_readStart h hhead
  · have hparts := (Prod.mk.inj (Prod.mk.inj (Except.ok.inj h)).2).2
    exact List.cons_ne_self _ _ hparts.symm
  · have hparts := (Prod.mk.inj (Prod.mk.inj (Except.ok.inj h)).2).2
    exact List.cons_ne_self _ _ hparts.symm
  · have hsteps : List.replicate levels ['.', '.'] ++ ['.', '.'] :: next :: more =
        ['.', '.'] :: (List.replicate levels ['.', '.'] ++ next :: more) := by
      rw [List.append_cons, ← List.replicate_succ', List.replicate_succ, List.cons_append]
    have hne := splitAscent_snd_ne
      (['.', '.'] :: (List.replicate levels ['.', '.'] ++ next :: more)) more next
    rw [hsteps, readStart.eq_4 _ (by simp) (by simp) (by simp)] at h
    split at h
    · rename_i hsplit
      cases h
      exact hne (by rw [hsplit])
    · rename_i hsplit
      cases h
      exact hne (by rw [hsplit])

/-! ### Where reading stops -/

lemma bind_eq_error {ε α β : Type} {first : Except ε α} {next : α → Except ε β} {e : ε} :
    (first >>= next) = .error e ↔ first = .error e ∨ ∃ a, first = .ok a ∧ next a = .error e := by
  cases first <;> simp [bind, Except.bind]

lemma column_of_readName {kind : NameKind} {column : ℕ} {ended : Bool} {part : List Char}
    {error : ImportPathError} (h : readName kind column ended part = .error error) :
    error.column = column := by
  simp only [readName] at h
  split_ifs at h
  all_goals exact congrArg ImportPathError.column (Except.error.inj h).symm

/-- Behind identifiers and the beginning `front` of a part that is none, nothing more can be
read. -/
structure Stops (dirs : List (List Char)) (front rest : List Char) : Prop where
  before : ∀ dir ∈ dirs, isIdentifier (String.ofList dir) = true
  start : front = [] ∨ isIdentifier (String.ofList front) = true
  whole : isIdentifier (String.ofList (front ++ rest)) = false

/-- Reading stops in a part that is no identifier, at its start or behind an identifier. -/
lemma stops_of_readSegment {column : ℕ} {ended : Bool} {part : List Char}
    {error : ImportPathError} (h : readSegment column ended part = .error error) :
    ∃ front rest, Stops [] front rest ∧ part = front ++ rest ∧
      error.column = column + front.length := by
  have hpart : isIdentifier (String.ofList part) = false := by
    by_contra hidentifier
    have hok : readSegment column ended part = .ok (String.ofList part) :=
      readSegment_eq_ok.mpr ⟨String.toList_ofList.symm, Bool.of_not_eq_false hidentifier⟩
    rw [h] at hok
    cases hok
  rcases bind_eq_error.mp h with hname | ⟨⟨name, left⟩, hname, h⟩
  · exact ⟨[], part, ⟨by simp, .inl rfl, hpart⟩, rfl, column_of_readName hname⟩
  · cases left with
    | nil => cases h
    | cons c more =>
        cases h
        have hparts := append_of_readName hname
        have hname : isIdentifier (String.ofList name.toList) = true := by
          simpa using isIdentifier_of_readName hname
        exact ⟨name.toList, c :: more, ⟨by simp, .inr hname, hparts ▸ hpart⟩, hparts, rfl⟩

/-- Reading directories and a file stops in the first part that is no identifier. -/
lemma stops_of_readSegments {parts : List (List Char)} {column : ℕ} {error : ImportPathError}
    (hne : parts ≠ []) (h : readSegments column parts = .error error) :
    ∃ dirs front rest more, Stops dirs front rest ∧ parts = dirs ++ (front ++ rest) :: more ∧
      error.column = column + (dirs.flatMap (· ++ ['/']) ++ front).length := by
  induction parts generalizing column with
  | nil => exact absurd rfl hne
  | cons part more ih =>
      rcases hmore : more with _ | ⟨next, others⟩
      · subst hmore
        rcases bind_eq_error.mp h with hpart | ⟨_, -, h⟩
        · obtain ⟨front, rest, hstops, rfl, hcolumn⟩ := stops_of_readSegment hpart
          exact ⟨[], front, rest, [], hstops, rfl, hcolumn⟩
        · cases h
      · rw [hmore, readSegments, ← hmore] at h
        case x_1 => simp
        rcases bind_eq_error.mp h with hpart | ⟨dir, hdir, h⟩
        · obtain ⟨front, rest, hstops, rfl, hcolumn⟩ := stops_of_readSegment hpart
          exact ⟨[], front, rest, _, hstops, rfl, hcolumn⟩
        rcases bind_eq_error.mp h with h | ⟨_, -, h⟩
        · obtain ⟨rfl, hdir⟩ := readSegment_eq_ok.mp hdir
          obtain ⟨dirs, front, rest, behind, hstops, hparts, hcolumn⟩ := ih (by simp [hmore]) h
          have hdir : isIdentifier (String.ofList dir.toList) = true := by
            rwa [String.ofList_toList]
          refine ⟨dir.toList :: dirs, front, rest, behind,
            ⟨List.forall_mem_cons.mpr ⟨hdir, hstops.before⟩, hstops.start, hstops.whole⟩,
            by rw [← hmore, hparts]; rfl, ?_⟩
          simp only [hcolumn, List.flatMap_cons, List.length_append, List.length_singleton]
          omega
        · cases h

/-- Reading the start stops at the name of a package, or behind it if there is no slash. -/
lemma exists_of_readStart {parts : List (List Char)} {error : ImportPathError}
    (h : readStart parts = .error error) :
    ∃ front rest more, parts = ('@' :: front ++ rest) :: more ∧
      error.column = front.length + 2 ∧
      (front = [] ∨ isIdentifier (String.ofList front) = true) ∧
      (isIdentifier (String.ofList (front ++ rest)) = true → more = []) := by
  unfold readStart at h
  split at h
  · rename_i package more
    have hok : isIdentifier (String.ofList package) = true →
        readName .package 2 (more ≠ []) package = .ok (String.ofList package, []) := by
      intro hidentifier
      rw [← readName_of_isIdentifier hidentifier, String.toList_ofList]
    rcases bind_eq_error.mp h with hname | ⟨⟨name, left⟩, hname, h⟩
    · refine ⟨[], package, more, rfl, column_of_readName hname, .inl rfl, fun hidentifier => ?_⟩
      have herror := hname.symm.trans (hok hidentifier)
      cases herror
    · simp only at h
      split_ifs at h with hslash
      cases h
      have hpackage := append_of_readName hname
      refine ⟨name.toList, left, more, by rw [hpackage]; rfl, rfl,
        .inr (by simpa using isIdentifier_of_readName hname), fun hidentifier => ?_⟩
      rw [← hpackage] at hidentifier
      have hname := hname.symm.trans (hok hidentifier)
      by_contra hmore
      exact hslash ⟨(Prod.mk.inj (Except.ok.inj hname)).2, hmore⟩
  · cases h
  · cases h
  · split at h
    · cases h
    · cases h

/-! ### No accepted text has the same token there -/

/-- Where reading stops behind the start, what follows is not in the start either. -/
lemma Stops.not_mem_start {lead dirs : List (List Char)} {front : List Char}
    {start other : ImportStart} {column : ℕ} (h : Stops dirs front rest)
    (hstart : readStart (lead ++ (dirs ++ (front ++ rest) :: more)) =
      .ok (start, column, dirs ++ (front ++ rest) :: more))
    (hfollows : Follows rest more rest' more') :
    ¬other.Cut (lead ++ dirs ++ [front ++ rest']) := by
  intro hcut
  -- nothing in a start begins like an identifier, so reading has stopped right behind the start
  have hname : ∀ name others : List Char, isIdentifier (String.ofList name) = true →
      name ++ others ∉ lead ++ dirs ++ [front ++ rest'] := by
    intro name others hname hmem
    obtain ⟨c, letters, hcons, hword⟩ := exists_cons_of_isIdentifier hname
    rw [String.toList_ofList] at hcons
    subst hcons
    rw [not_word_of_cut hcut hmem] at hword
    cases hword
  have hdirs : dirs = [] := by
    refine List.eq_nil_iff_forall_not_mem.mpr fun dir hdir => ?_
    exact hname dir [] (h.before dir hdir) (by simp [hdir])
  have hfront : front = [] := by
    refine h.start.resolve_right fun hfront => ?_
    exact hname front rest' hfront (by simp)
  subst hdirs hfront
  simp only [List.append_nil, List.nil_append] at hcut hstart
  have hdots : (∀ c ∈ rest', c = '.') → False := by
    intro hdots
    obtain ⟨rfl, hmore⟩ := hfollows.eq_of_dots hdots
    obtain ⟨next, others, rfl⟩ := List.exists_cons_of_ne_nil hmore
    exact not_cut_of_readStart hstart hcut
  rcases cases_of_cut hcut with ⟨rfl, hhead | rfl | rfl⟩ | ⟨-, rfl⟩
  · exact head?_ne_of_readStart hstart (hfollows.head?_eq ▸ hhead)
  all_goals exact hdots (by simp)

/-- Where reading stops behind the start, no accepted text has the same parts as far as the
token. -/
lemma Stops.pieces_ne {lead dirs : List (List Char)} {front accepted : List Char}
    {start : ImportStart} {column : ℕ} (h : Stops dirs front rest)
    (hstart : readStart (lead ++ (dirs ++ (front ++ rest) :: more)) =
      .ok (start, column, dirs ++ (front ++ rest) :: more))
    (hfollows : Follows rest more rest' more') (haccepted : Accepted accepted) :
    Text.pieces '/' accepted ≠ lead ++ dirs ++ (front ++ rest') :: more' := by
  intro hpieces
  obtain ⟨other, front', names, hcut, -, hnames, hparts⟩ := haccepted.exists_parts
  have hnot : front ++ rest' ∉ names := by
    intro hmem
    have hidentifier := hnames _ hmem
    obtain ⟨rfl, -⟩ := hfollows.eq_of_isIdentifier hidentifier
    rw [h.whole] at hidentifier
    cases hidentifier
  -- the part is in the start of the accepted text, or among its names
  rcases List.append_eq_append_iff.mp (hpieces.symm.trans hparts) with
    ⟨behind, rfl, hmore⟩ | ⟨behind, -, rfl⟩
  · cases behind with
    | nil =>
        rw [List.nil_append] at hmore
        exact hnot (hmore ▸ List.mem_cons_self)
    | cons part others =>
        obtain ⟨rfl, -⟩ := List.cons.inj hmore
        obtain ⟨shorter, hshorter⟩ := exists_cut_of_cut hcut
        exact h.not_mem_start hstart hfollows hshorter
  · exact hnot (by simp)

/-- Where reading stops in the name of a package or behind it, no accepted text has the same parts
as far as the token. -/
lemma pieces_ne_of_package {front accepted : List Char}
    (hends : isIdentifier (String.ofList (front ++ rest)) = true → more = [])
    (hfollows : Follows rest more rest' more') (haccepted : Accepted accepted) :
    Text.pieces '/' accepted ≠ ('@' :: front ++ rest') :: more' := by
  intro hpieces
  obtain ⟨start, lead, names, hcut, -, hnames, hparts⟩ := haccepted.exists_parts
  rw [hparts] at hpieces
  cases hcut with
  | @package name hname =>
      have htext : name.toList = front ++ rest' := (List.cons.inj (List.cons.inj hpieces).1).2
      rw [← String.ofList_toList (s := name), htext] at hname
      obtain ⟨rfl, hmore⟩ := hfollows.eq_of_isIdentifier hname
      exact hmore (hends hname)
  | bare =>
      rw [List.nil_append] at hpieces
      obtain ⟨c, others, hcons, hword⟩ := exists_cons_of_isIdentifier
        (hnames ('@' :: front ++ rest') (by simp [hpieces]))
      rw [String.toList_ofList] at hcons
      rw [← (List.cons.inj hcons).1] at hword
      exact absurd hword (by decide)
  | root => cases hpieces
  | up levels => cases hpieces
  | marked => cases hpieces

/-! ### What has been read can be completed -/

/-- Behind the start, what has been read can be completed with at most one more letter. -/
lemma Stops.viable {lead dirs : List (List Char)} {front : List Char} {start : ImportStart}
    (h : Stops dirs front rest) (hlead : start.Cut lead) :
    ∃ after, Accepted ((lead ++ dirs).flatMap (· ++ ['/']) ++ front ++ after) := by
  rcases h.start with rfl | hfront
  · exact ⟨['a'], by
      rw [List.append_nil]
      exact accepted_of_cut hlead h.before (by decide)⟩
  · exact ⟨[], by rw [List.append_nil]; exact accepted_of_cut hlead h.before hfront⟩

/-- Behind the name of a package, what has been read can be completed. -/
lemma viable_of_package {front : List Char}
    (h : front = [] ∨ isIdentifier (String.ofList front) = true) :
    ∃ after, Accepted ('@' :: front ++ after) := by
  have hpackage : ∀ name : List Char, isIdentifier (String.ofList name) = true →
      Accepted ('@' :: name ++ "/a".toList) := by
    intro name hname
    have hdirs : ∀ dir ∈ ([] : List (List Char)), isIdentifier (String.ofList dir) = true := by simp
    have hfile : isIdentifier (String.ofList ['a']) = true := by decide
    simpa using accepted_of_cut (.package hname) hdirs hfile
  rcases h with rfl | hfront
  · exact ⟨_, hpackage ['a'] (by decide)⟩
  · exact ⟨_, hpackage front hfront⟩

/-! ### What the column points at -/

/-- The column is where a text is at fault: what is before it is not, and with the token at it no
text is accepted any more. -/
structure AtFault (text : List Char) (column : ℕ) : Prop where
  one_le : 1 ≤ column
  le_length : column ≤ text.length + 1
  /-- What stands before the column is the beginning of an accepted text. -/
  viable : ∃ accepted, Accepted accepted ∧ text.take (column - 1) <+: accepted
  rejected : ¬Accepted text
  /-- No accepted text begins like the text as far as the token at the column, if there is a
  character behind the run. -/
  stuck : run (text.drop (column - 1)) ≠ text.drop (column - 1) →
    ∀ accepted, Accepted accepted →
      ¬text.take (column - 1) ++ token (text.drop (column - 1)) <+: accepted

/-- A text is at fault in one of its parts if what is before it is viable, and no accepted text has
the same parts as far as the token in that part. -/
lemma atFault_of_pieces {text front rest : List Char} {lead more : List (List Char)} {column : ℕ}
    (hpieces : Text.pieces '/' text = lead ++ (front ++ rest) :: more)
    (hcolumn : column = (lead.flatMap (· ++ ['/']) ++ front).length + 1)
    (hrejected : ¬Accepted text)
    (hviable : ∃ after, Accepted (lead.flatMap (· ++ ['/']) ++ front ++ after))
    (hstuck : ∀ rest' more', Follows rest more rest' more' → ∀ accepted, Accepted accepted →
      Text.pieces '/' accepted ≠ lead ++ (front ++ rest') :: more') : AtFault text column := by
  have htext : text = lead.flatMap (· ++ ['/']) ++ front ++ (rest ++ more.flatMap ('/' :: ·)) := by
    rw [← Text.intercalate_pieces '/' text, hpieces, Text.intercalate_append_cons]
    simp only [List.append_assoc]
  have htake : text.take (column - 1) = lead.flatMap (· ++ ['/']) ++ front := by
    rw [htext, List.take_left' (by omega)]
  have hdrop : text.drop (column - 1) = rest ++ more.flatMap ('/' :: ·) := by
    rw [htext, List.drop_left' (by omega)]
  have hslash : ∀ part ∈ lead ++ (front ++ rest) :: more, '/' ∉ part := by
    rw [← hpieces]
    exact fun part => Text.notMem_of_mem_pieces
  refine ⟨by omega, ?_, ?_, hrejected, ?_⟩
  · rw [hcolumn, htext]
    exact Nat.succ_le_succ (List.prefix_append _ _).length_le
  · obtain ⟨after, hafter⟩ := hviable
    exact ⟨_, hafter, htake ▸ List.prefix_append _ after⟩
  · rintro hends accepted haccepted ⟨after, rfl⟩
    rw [hdrop] at hends
    rw [htake, hdrop] at haccepted
    obtain ⟨rest', more', hfollows, hparts⟩ := exists_follows
      (fun part hpart => hslash part (List.mem_append_left _ hpart))
      (hslash (front ++ rest) (by simp)) hends after
    exact hstuck rest' more' hfollows _ haccepted hparts

/-- **The column of an error is where the text is at fault**: it is in the text or right behind it;
what is before it is the beginning of an accepted text; and no accepted text begins with that and
the token at the column. A run that reaches the end of the text is no token, and then it is the
text itself that is not accepted. -/
theorem atFault_of_parse {text : String} {error : ImportPathError}
    (h : parse text = .error error) : AtFault text.toList error.column := by
  have hrejected : ¬Accepted text.toList := by
    rintro ⟨path, hpath⟩
    rw [String.ofList_toList, h] at hpath
    cases hpath
  rcases bind_eq_error.mp h with hstart | ⟨⟨start, column, parts⟩, hstart, h⟩
  · obtain ⟨front, rest, more, hpieces, hcolumn, hfront, hends⟩ := exists_of_readStart hstart
    have hparts : Text.pieces '/' text.toList = [] ++ ('@' :: front ++ rest) :: more := hpieces
    exact atFault_of_pieces hparts (by simpa using hcolumn) hrejected (viable_of_package hfront)
      fun rest' more' hfollows accepted haccepted => pieces_ne_of_package hends hfollows haccepted
  · rcases bind_eq_error.mp h with hsegments | ⟨_, -, h⟩
    · obtain ⟨lead, hpieces, hcut, rfl⟩ := cut_of_readStart hstart
      obtain ⟨dirs, front, rest, more, hstops, rfl, hcolumn⟩ := stops_of_readSegments
        (ne_nil_of_readStart hstart (Text.pieces_ne_nil '/' text.toList)) hsegments
      rw [hpieces] at hstart
      have hparts : Text.pieces '/' text.toList = lead ++ dirs ++ (front ++ rest) :: more := by
        rw [hpieces, List.append_assoc]
      refine atFault_of_pieces hparts ?_ hrejected (hstops.viable hcut)
        fun rest' more' hfollows accepted haccepted => hstops.pieces_ne hstart hfollows haccepted
      simp only [hcolumn, List.flatMap_append, List.length_append]
      omega
    · cases h

/-- In `a/brisk/b` the reserved word is at fault: no accepted text begins with `a/brisk/`. -/
theorem atFault_of_parse_reserved :
    parse "a/brisk/b" = .error ⟨.invalidName .segment "brisk", 3⟩ ∧
    AtFault "a/brisk/b".toList 3 ∧
    ∀ accepted, Accepted accepted → ¬"a/brisk/".toList <+: accepted := by
  have hparse : parse "a/brisk/b" = .error ⟨.invalidName .segment "brisk", 3⟩ := by decide
  have hfault := atFault_of_parse hparse
  exact ⟨hparse, hfault, hfault.stuck (by decide)⟩

/-- A malformed path is pointed at no further than right behind it, so the column in the source is a
machine word if the path ends in front of the last one. -/
lemma AtFault.column_le {text : String} {fault : ImportPathError} {loc : Loc}
    (h : AtFault text.toList fault.column) (file : Span) :
    ∀ diagnostic ∈ (ImportError.invalidPath text fault loc).toDiagnostics file,
      diagnostic.span.column ≤ loc.column.toNat + text.length + 1 := by
  intro diagnostic hdiagnostic
  obtain rfl := List.mem_singleton.mp hdiagnostic
  have hle : fault.column ≤ text.length + 1 := String.length_toList ▸ h.le_length
  exact Nat.add_le_add_left hle loc.column.toNat

end ImportPath

end BriskModules
