import BriskModules.Json.Basic
import BriskModules.Json.Shape
import Mathlib.Tactic

/-!
Abridged JSON values.

The same data can be written as different JSON values: the members of a record may come in any
order, and members that hold the default of their field may be left out if the field allows it.
Which objects are records, and which members are fields with a default, depends on what the
value is read as, so it is told by a schema. Decoders are to give the same for all of them.

* `Json.Abridged`: a value with members in another order and some defaults left out, anywhere;
* `Abridged.eq_self`, `Abridged.elements`, `Abridged.exists_content`, `Abridged.exists_members`:
  what an abridged value looks like, by the kind of value;
* `Json.Reads`: a decoder gives the same for all abridged forms of a value;
* `Reads.list`, `Reads.option`, `Told.required`, `Told.defaulted`: how decoders are put together.
-/

namespace BriskModules.Json

variable {ν α β γ : Type}

/-- What the content of a variant looks like, if there is any. -/
def Payload.shape? : Payload ν → Option (Shape ν)
  | .nothing => none
  | .value shape => some shape
  | .fields record => some (.named record)

/-- What the content of a choice looks like under a tag. -/
def Schema.content? (schema : Schema ν) (name : ν) (tag : String) : Option (Shape ν) :=
  match schema name with
  | .record _ _ => none
  | .choice variants => (variants.find? (·.name = tag)).bind (·.payload.shape?)

/-- What becomes of a member of a record: it has another content or is left out. -/
structure Edit (ν : Type) where
  field : Field ν
  before : Json
  after : Option Json

/-- A value is an abridged form of another one: in all records that it contains, as far as the
schema tells, members may come in another order, and those that need not be there may be left out
if they hold the default of their shape. -/
inductive Abridged (schema : Schema ν) (default? : Shape ν → Option Json) :
    Shape ν → Json → Json → Prop where
  | same {shape : Shape ν} {value : Json} : Abridged schema default? shape value value
  | option {shape : Shape ν} {value value' : Json}
      (content : Abridged schema default? shape value value') :
      Abridged schema default? (.option shape) value value'
  | list {element : Shape ν} (pairs : List (Json × Json))
      (elements : ∀ pair ∈ pairs, Abridged schema default? element pair.1 pair.2) :
      Abridged schema default? (.list element) (.array (pairs.map Prod.fst))
        (.array (pairs.map Prod.snd))
  | pair {first second : Shape ν} {value value' other other' : Json}
      (former : Abridged schema default? first value value')
      (latter : Abridged schema default? second other other') :
      Abridged schema default? (.pair first second) (.array [value, other])
        (.array [value', other'])
  | variant {name : ν} {tag : String} {shape : Shape ν} {content content' : Json}
      (tagged : schema.content? name tag = some shape)
      (inner : Abridged schema default? shape content content') :
      Abridged schema default? (.named name) (.object [(tag, content)])
        (.object [(tag, content')])
  | record {name : ν} {title : String} {fields : List (Field ν)}
      {members : List (String × Json)} (edits : List (Edit ν))
      (titled : schema name = .record title fields)
      (permuted : members.Perm (edits.map fun edit => (edit.field.name, edit.before)))
      (known : ∀ edit ∈ edits, edit.field ∈ fields)
      (kept : ∀ edit ∈ edits, ∀ content, edit.after = some content →
        Abridged schema default? edit.field.shape edit.before content)
      (omitted : ∀ edit ∈ edits, edit.after = none →
        edit.field.presence ≠ .required ∧ default? edit.field.shape = some edit.before) :
      Abridged schema default? (.named name) (.object members)
        (.object (edits.filterMap fun edit => edit.after.map (edit.field.name, ·)))

/-! ### Depths -/

lemma depth_pos (value : Json) : 0 < value.depth := by
  cases value <;> simp [depth]

lemma depth_le_of_mem_elements {elements : List Json} {value : Json} (h : value ∈ elements) :
    value.depth ≤ depthOfElements elements := by
  induction elements with
  | nil => cases h
  | cons first rest ih =>
      rw [depthOfElements]
      rcases List.mem_cons.mp h with rfl | h
      · exact le_max_left _ _
      · exact (ih h).trans (le_max_right _ _)

lemma depth_le_of_member? {members : List (String × Json)} {name : String} {value : Json}
    (h : member? members name = some value) : value.depth ≤ depthOfMembers members := by
  induction members with
  | nil => cases h
  | cons first rest ih =>
      obtain ⟨key, content⟩ := first
      rw [depthOfMembers]
      rw [member?, List.lookup_cons] at h
      split at h
      · obtain rfl := Option.some.inj h
        exact le_max_left _ _
      · exact (ih h).trans (le_max_right _ _)

/-! ### What abridged values look like -/

section Forms

variable {schema : Schema ν} {default? : Shape ν → Option Json} {shape : Shape ν} {name : ν}
  {tag : String} {value value' content : Json} {members : List (String × Json)} {limit : ℕ}

/-- A value without elements and members is not abridged. -/
lemma Abridged.eq_self (h : Abridged schema default? shape value value')
    (harray : value.elements? = none) (hobject : value.members? = none) : value' = value := by
  induction h with
  | same => rfl
  | option _ ih => exact ih harray hobject
  | list => cases harray
  | pair => cases harray
  | variant => cases hobject
  | record => cases hobject

/-- Only null is an abridged form of null, and of nothing else. -/
lemma Abridged.eq_null_iff (h : Abridged schema default? shape value value') :
    value' = .null ↔ value = .null := by
  induction h with
  | same => rfl
  | option _ ih => exact ih
  | list => simp
  | pair => simp
  | variant => simp
  | record => simp

/-- The elements of a list are abridged one by one. -/
lemma Abridged.exists_elements {element : Shape ν} {elements : List Json}
    (h : Abridged schema default? (.list element) (.array elements) value') :
    ∃ elements', value' = .array elements' ∧
      List.Forall₂ (Abridged schema default? element) elements elements' := by
  cases h with
  | same => exact ⟨elements, rfl, List.forall₂_same.mpr fun _ _ => .same⟩
  | list _ habridged =>
      refine ⟨_, rfl, ?_⟩
      rw [List.forall₂_map_left_iff, List.forall₂_map_right_iff, List.forall₂_same]
      exact habridged

/-- Both values of a pair are abridged. -/
lemma Abridged.exists_pair {first second : Shape ν} {other : Json}
    (h : Abridged schema default? (.pair first second) (.array [value, other]) value') :
    ∃ former latter, value' = .array [former, latter] ∧
      Abridged schema default? first value former ∧
        Abridged schema default? second other latter := by
  cases h with
  | same => exact ⟨value, other, rfl, .same, .same⟩
  | pair hformer hlatter => exact ⟨_, _, rfl, hformer, hlatter⟩

/-- The content of a choice is abridged below its tag. -/
lemma Abridged.exists_content (htagged : schema.content? name tag = some shape)
    (h : Abridged schema default? (.named name) (.object [(tag, content)]) value') :
    ∃ content', value' = .object [(tag, content')] ∧
      Abridged schema default? shape content content' := by
  generalize hvalue : Json.object [(tag, content)] = value at h
  cases h with
  | same => exact ⟨content, hvalue.symm, .same⟩
  | variant htagged' hinner =>
      simp only [object.injEq, List.cons.injEq, Prod.mk.injEq, and_true] at hvalue
      obtain ⟨rfl, rfl⟩ := hvalue
      rw [htagged] at htagged'
      exact ⟨_, rfl, Option.some.inj htagged' ▸ hinner⟩
  | record _ htitled =>
      simp [Schema.content?, htitled] at htagged

/-! ### Abridged records -/

/-- What an abridged record tells of a field with some content: an abridged form of it, or nothing
if the content is the default of a field that may be left out. -/
inductive Told (schema : Schema ν) (default? : Shape ν → Option Json) (limit : ℕ)
    (members : List (String × Json)) (field : Field ν) (content : Json) : Prop where
  | kept {content' : Json} (found : member? members field.name = some content')
      (abridged : Abridged schema default? field.shape content content')
      (bounded : content'.depth ≤ limit)
  | omitted (missing : member? members field.name = none)
      (optional : field.presence ≠ .required)
      (isDefault : default? field.shape = some content)

/-- What an abridged record tells of all fields, one after the other. -/
def Tells (schema : Schema ν) (default? : Shape ν → Option Json) (limit : ℕ)
    (members : List (String × Json)) : List (Field ν) → List Json → Prop
  | field :: fields, content :: contents =>
    Told schema default? limit members field content ∧
      Tells schema default? limit members fields contents
  | _, _ => True

lemma tells_of_told {fields : List (Field ν)} {contents : List Json}
    (h : ∀ entry ∈ fields.zip contents, Told schema default? limit members entry.1 entry.2) :
    Tells schema default? limit members fields contents := by
  induction fields generalizing contents with
  | nil => trivial
  | cons field fields ih =>
      cases contents with
      | nil => trivial
      | cons content contents =>
          rw [List.zip_cons_cons, List.forall_mem_cons] at h
          exact ⟨h.1, ih h.2⟩

/-- The members of a record: the names of its fields with a content for each. -/
def entries (fields : List (Field ν)) (contents : List Json) : List (String × Json) :=
  (fields.zip contents).map fun entry => (entry.1.name, entry.2)

/-- The fields of a record have different names. -/
def Schema.Distinct (schema : Schema ν) : Prop :=
  ∀ name title fields, schema name = .record title fields → (fields.map Field.name).Nodup

/-- What is found under a name is what stands there, if only one thing does. -/
lemma member?_eq {found : Option Json}
    (h : ∀ content, (tag, content) ∈ members ↔ found = some content) :
    member? members tag = found := by
  cases hfound : member? members tag with
  | none =>
      cases found with
      | none => rfl
      | some content =>
          have hne := List.lookup_eq_none_iff.mp hfound _ ((h content).mpr rfl)
          simp at hne
  | some content =>
      obtain ⟨front, rest, rfl, -⟩ := List.lookup_eq_some_iff.mp hfound
      exact ((h content).mp (by simp)).symm

/-- The fields of a record hold their contents. -/
lemma member?_entries {fields : List (Field ν)} {contents : List Json}
    (hdistinct : ((fields.zip contents).map (·.1.name)).Nodup) {entry : Field ν × Json}
    (h : entry ∈ fields.zip contents) :
    member? (entries fields contents) entry.1.name = some entry.2 := by
  refine member?_eq fun content => ?_
  simp only [entries, List.mem_map, Prod.mk.injEq, Option.some.injEq]
  constructor
  · rintro ⟨other, hother, hname, rfl⟩
    rw [List.inj_on_of_nodup_map hdistinct h hother hname.symm]
  · rintro rfl
    exact ⟨entry, h, rfl, rfl⟩

/-- After the members have been edited, a field holds what has become of its member. -/
lemma member?_edited {edits : List (Edit ν)}
    (hdistinct : (edits.map fun edit => edit.field.name).Nodup) {edit : Edit ν} (h : edit ∈ edits) :
    member? (edits.filterMap fun edit => edit.after.map (edit.field.name, ·)) edit.field.name =
      edit.after := by
  refine member?_eq fun content => ?_
  simp only [List.mem_filterMap, Option.map_eq_some_iff, Prod.mk.injEq]
  constructor
  · rintro ⟨other, hother, _, hafter, hname, rfl⟩
    rw [List.inj_on_of_nodup_map hdistinct h hother hname.symm, hafter]
  · rintro hafter
    exact ⟨edit, h, content, hafter, rfl, rfl⟩

/-- An abridged record tells of all its fields. -/
lemma Abridged.exists_members (hschema : schema.Distinct) {title : String}
    {fields : List (Field ν)} {contents : List Json} (htitled : schema name = .record title fields)
    (hlength : fields.length = contents.length)
    (h : Abridged schema default? (.named name) (.object (entries fields contents)) value')
    (hdepth : value'.depth ≤ limit) :
    ∃ members, value' = .object members ∧
      Tells schema default? limit members fields contents := by
  have hnames : (fields.zip contents).map (·.1.name) = fields.map Field.name := calc
    (fields.zip contents).map (·.1.name)
      = ((fields.zip contents).map Prod.fst).map Field.name := List.map_map.symm
    _ = fields.map Field.name := by rw [List.map_fst_zip hlength.le]
  have hdistinct : ((fields.zip contents).map (·.1.name)).Nodup :=
    hnames ▸ hschema name title fields htitled
  have hbounded : ∀ {members tag content}, value' = .object members →
      member? members tag = some content → content.depth ≤ limit := by
    rintro members tag content rfl hfound
    have hcontent := depth_le_of_member? hfound
    rw [depth] at hdepth
    omega
  generalize hvalue : Json.object (entries fields contents) = value at h
  cases h with
  | same =>
      refine ⟨_, hvalue.symm, tells_of_told fun entry hentry => ?_⟩
      have hfound := member?_entries hdistinct hentry
      exact .kept hfound .same (hbounded hvalue.symm hfound)
  | variant htagged => simp [Schema.content?, htitled] at htagged
  | @record _ _ fields' members edits htitled' hpermuted hknown hkept homitted =>
      obtain rfl : fields = fields' := by
        rw [htitled] at htitled'
        cases htitled'
        rfl
      obtain rfl := object.inj hvalue
      have hedits : (edits.map fun edit => edit.field.name).Nodup := by
        have hperm := hpermuted.map Prod.fst
        simp only [entries, List.map_map, Function.comp_def] at hperm
        exact hperm.nodup_iff.mp hdistinct
      refine ⟨_, rfl, tells_of_told fun entry hentry => ?_⟩
      -- The edit of this member is of the same field, since no two fields share a name.
      obtain ⟨edit, hedit, heq⟩ := List.mem_map.mp
        (hpermuted.mem_iff.mp (List.mem_map_of_mem hentry))
      obtain ⟨hname, hbefore⟩ := Prod.mk.inj heq
      have hfield : edit.field = entry.1 :=
        List.inj_on_of_nodup_map (hschema name title fields htitled) (hknown edit hedit)
          (List.of_mem_zip hentry).1 hname
      have hfound := member?_edited hedits hedit
      rw [← hfield, ← hbefore]
      cases hafter : edit.after with
      | some content =>
          rw [hafter] at hfound
          exact .kept hfound (hkept edit hedit content hafter) (hbounded rfl hfound)
      | none =>
          obtain ⟨hoptional, hdefault⟩ := homitted edit hedit hafter
          exact .omitted (hfound.trans hafter) hoptional hdefault

end Forms

/-! ### Decoders -/

/-- A decoder gives the same for all abridged forms of a content that are nested no deeper than
a limit. -/
def Reads (schema : Schema ν) (default? : Shape ν → Option Json) (limit : ℕ) (shape : Shape ν)
    (decode : Json → Option α) (content : Json) (data : α) : Prop :=
  ∀ value, Abridged schema default? shape content value → value.depth ≤ limit →
    decode value = some data

section Decoders

variable {schema : Schema ν} {default? : Shape ν → Option Json} {limit : ℕ} {shape : Shape ν}
  {decode : Json → Option α} {content : Json} {data : α} {members : List (String × Json)}
  {name : String}

lemma Reads.mono {limit' : ℕ} (hlimit : limit ≤ limit')
    (h : Reads schema default? limit' shape decode content data) :
    Reads schema default? limit shape decode content data :=
  fun value habridged hdepth => h value habridged (hdepth.trans hlimit)

/-- No value is nested less than one level deep. -/
lemma reads_zero : Reads schema default? 0 shape decode content data :=
  fun value _ hdepth => absurd (depth_pos value) hdepth.not_gt

/-- A value without elements and members is read as it is. -/
lemma reads_leaf (harray : content.elements? = none) (hobject : content.members? = none)
    (hdecode : decode content = some data) :
    Reads schema default? limit shape decode content data := by
  intro value h _
  rw [h.eq_self harray hobject, hdecode]

/-- A choice is read if it is read from the abridged forms of the content below its tag. -/
lemma Reads.below {which : ν} {tag : String} (htagged : schema.content? which tag = some shape)
    (h : Reads schema default? limit shape (fun content => decode (.object [(tag, content)]))
      content data) :
    Reads schema default? (limit + 1) (.named which) decode (.object [(tag, content)]) data := by
  intro value habridged hdepth
  obtain ⟨content', rfl, hinner⟩ := habridged.exists_content htagged
  simp only [depth, depthOfMembers] at hdepth
  exact h content' hinner (by omega)

/-- A choice is read if the content below its tag is. -/
lemma Reads.tagged {which : ν} {tag : String} {decodeContent : Json → Option β} {inner : β}
    (htagged : schema.content? which tag = some shape)
    (hreads : Reads schema default? limit shape decodeContent content inner)
    (hdecode : ∀ content', decodeContent content' = some inner →
      decode (.object [(tag, content')]) = some data) :
    Reads schema default? (limit + 1) (.named which) decode (.object [(tag, content)]) data :=
  .below htagged fun content' hinner hdepth => hdecode content' (hreads content' hinner hdepth)

/-- A record is read if it is read from what is told of its fields. -/
lemma Reads.record (hschema : schema.Distinct) (contents : List Json) {which : ν} {title : String}
    {fields : List (Field ν)} (htitled : schema which = .record title fields)
    (hlength : fields.length = contents.length)
    (hcontent : content = .object (entries fields contents))
    (hdecode : ∀ members, Tells schema default? limit members fields contents →
      decode (.object members) = some data) :
    Reads schema default? limit (.named which) decode content data := by
  subst hcontent
  intro value habridged hdepth
  obtain ⟨members, rfl, htells⟩ := habridged.exists_members hschema htitled hlength hdepth
  exact hdecode members htells

/-- A pair is read from what both of its values are read as. -/
lemma Reads.pair {other : Shape ν} {decode' : Json → Option β} {content' : Json} {data' : β}
    (h : Reads schema default? limit shape decode content data)
    (h' : Reads schema default? limit other decode' content' data') {decodePair : Json → Option γ}
    {both : γ} (hdecode : ∀ former latter, decode former = some data → decode' latter = some data' →
      decodePair (.array [former, latter]) = some both) :
    Reads schema default? limit (.pair shape other) decodePair (.array [content, content'])
      both := by
  intro value habridged hdepth
  obtain ⟨former, latter, rfl, hformer, hlatter⟩ := habridged.exists_pair
  simp only [depth, depthOfElements] at hdepth
  exact hdecode former latter (h former hformer (by omega)) (h' latter hlatter (by omega))

/-- A list is read if its elements are. -/
lemma Reads.list {encode : α → Json} {items : List α}
    (h : ∀ item ∈ items, Reads schema default? limit shape decode (encode item) item) :
    Reads schema default? limit (.list shape) (list? decode) (.array (items.map encode))
      items := by
  intro value habridged hdepth
  obtain ⟨elements, rfl, helements⟩ := habridged.exists_elements
  have hbounded : ∀ element ∈ elements, element.depth ≤ limit := by
    intro element helement
    have := depth_le_of_mem_elements helement
    rw [depth] at hdepth
    omega
  -- The depth of the whole list says nothing of the shorter ones that the induction goes through.
  clear hdepth habridged
  simp only [list?, elements?, Option.bind_some]
  rw [List.forall₂_map_left_iff] at helements
  induction helements with
  | nil => rfl
  | @cons item element items elements hitem _ ih =>
      have hfirst := h item List.mem_cons_self element hitem
        (hbounded element List.mem_cons_self)
      have hrest := ih (fun item hitem => h item (List.mem_cons_of_mem _ hitem))
        fun element helement => hbounded element (List.mem_cons_of_mem _ helement)
      simp [List.mapM_cons, hfirst, hrest]

/-- What may be absent is read if it is read when it is there, and is not null then. -/
lemma Reads.option {encode : α → Json} {item : Option α}
    (h : ∀ data ∈ item, Reads schema default? limit shape decode (encode data) data)
    (hnull : ∀ data, encode data ≠ .null) :
    Reads schema default? limit (.option shape) (option? decode) (ofOption encode item) item := by
  intro value habridged hdepth
  cases item with
  | none =>
      rw [habridged.eq_null_iff.mpr rfl]
      rfl
  | some data =>
      rw [ofOption] at habridged
      have hne : value ≠ .null := fun heq => hnull data (habridged.eq_null_iff.mp heq)
      have hinner : Abridged schema default? shape (encode data) value := by
        cases habridged with
        | same => exact .same
        | option inner => exact inner
      rw [option?]
      · rw [h data rfl value hinner hdepth]
        rfl
      · exact hne

/-- A field that has to be there is read from its content. -/
lemma Told.required (h : Told schema default? limit members ⟨name, shape, .required⟩ content)
    (hreads : Reads schema default? limit shape decode content data) :
    required? decode members name = some data := by
  cases h with
  | kept found abridged bounded =>
      simp only [required?, found, Option.bind_some, hreads _ abridged bounded]
  | omitted _ optional => exact absurd rfl optional

/-- A field that may be left out is read from its content, or the content is its default. -/
lemma Told.defaulted {presence : Presence}
    (h : Told schema default? limit members ⟨name, shape, presence⟩ content)
    (hreads : Reads schema default? limit shape decode content data) {default : α}
    (hdefault : default? shape = some content → data = default) :
    defaulted? decode default members name = some data := by
  cases h with
  | kept found abridged bounded => simp only [defaulted?, found, hreads _ abridged bounded]
  | omitted missing _ isDefault => simp only [defaulted?, missing, hdefault isDefault]

end Decoders

end BriskModules.Json
