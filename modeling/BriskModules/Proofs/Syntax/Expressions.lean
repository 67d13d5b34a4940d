import BriskModules.Proofs.Json.Abridged
import BriskModules.Syntax.Encoding
import BriskModules.Syntax.Schema

/-!
Types and expressions are read back from their encodings.

A part of a syntax tree is read from its encoding and from all abridged forms of it. What has no
parts of its own kind is read whatever it is nested in. Types and expressions contain one another,
so decoders of both are taken together: if they read what is nested no deeper than a limit, then
one step of decoding reads what is nested one level deeper.

* `Syntax.Abridged`, `Syntax.Reads`: abridged forms of encodings, and decoders that read them;
* `reads_record`: the records of the schema;
* `reads_word`, `reads_byte`, `reads_signedWord`: integers over their whole ranges;
* `Faithful`: decoders of types and expressions that are nested no deeper than a limit;
* `Faithful.typeStep`, `Faithful.exprStep`: one step of decoding;
* `reads_typeSpec`, `reads_expr`, `reads_dynamicPath`, `reads_call`: types, expressions and their
  parts are read.
-/

namespace BriskModules

/-! ### Encodings -/

lemma UnaryOp.ofTag?_tag (op : UnaryOp) : UnaryOp.ofTag? op.tag = some op := by
  cases op <;> rfl

lemma BinaryOp.ofTag?_tag (op : BinaryOp) : BinaryOp.ofTag? op.tag = some op := by
  cases op <;> rfl

@[simp]
lemma Access.listToJson_eq (accesses : List Access) :
    Access.listToJson accesses = accesses.map Access.toJson := by
  induction accesses with
  | nil => rfl
  | cons access more ih => rw [Access.listToJson, ih, List.map_cons]

@[simp]
lemma DynamicPath.listToJson_eq (paths : List DynamicPath) :
    DynamicPath.listToJson paths = paths.map DynamicPath.toJson := by
  induction paths with
  | nil => rfl
  | cons path more ih => rw [DynamicPath.listToJson, ih, List.map_cons]

@[simp]
lemma Expr.listToJson_eq (exprs : List Expr) : Expr.listToJson exprs = exprs.map Expr.toJson := by
  induction exprs with
  | nil => rfl
  | cons expr more ih => rw [Expr.listToJson, ih, List.map_cons]

/-- A field of a structure with its value, as an array of both. -/
def Expr.fieldToJson (field : Name × Expr) : Json := .array [field.1.toJson, field.2.toJson]

@[simp]
lemma Expr.fieldsToJson_eq (fields : List (Name × Expr)) :
    Expr.fieldsToJson fields = fields.map Expr.fieldToJson := by
  induction fields with
  | nil => rfl
  | cons field more ih => rw [Expr.fieldsToJson, ih, List.map_cons, Expr.fieldToJson]

lemma Expr.toJson_struct (datatype : Option TypeSpec) (fields : List (Name × Expr)) :
    (Expr.struct datatype fields).toJson = .tagged "Struct"
      (.object [("datatype", Json.ofOption TypeSpec.toJson datatype),
        ("fields", .array (fields.map Expr.fieldToJson))]) := by
  cases datatype <;> simp [Expr.toJson, Json.ofOption]

lemma TypeSpec.toJson_ne_null (spec : TypeSpec) : spec.toJson ≠ .null := by
  cases spec <;> simp [TypeSpec.toJson, Json.tagged]

lemma DynamicPath.toJson_ne_null (path : DynamicPath) : path.toJson ≠ .null := by
  cases path
  simp [DynamicPath.toJson]

lemma Expr.toJson_ne_null (expr : Expr) : expr.toJson ≠ .null := by
  cases expr with
  | struct datatype fields => simp [Expr.toJson_struct, Json.tagged]
  | _ => simp [Expr.toJson, Json.tagged]

namespace Syntax

open Json (Shape)

variable {α : Type} {limit : ℕ}

/-- The default of a field of some shape. -/
def default? : Shape Part → Option Json
  | .bool => some (.bool false)
  | .list _ => some (.array [])
  | .option _ => some .null
  | .named .loc => some (Loc.toJson {})
  | _ => none

/-- A value is an abridged form of another one that is read as a part of a syntax tree. -/
abbrev Abridged := Json.Abridged schema default?

/-- A decoder reads a part of a syntax tree from all abridged forms of its encoding. -/
abbrev Reads (limit : ℕ) (shape : Shape Part) (decode : Json → Option α) (content : Json)
    (data : α) : Prop :=
  Json.Reads schema default? limit shape decode content data

lemma distinct_schema : Json.Schema.Distinct schema := by
  intro which title fields h
  cases which <;> cases h <;> decide

/-- A record is read if it is read from what is told of its fields. -/
lemma reads_record (contents : List Json) {which : Part} {title : String}
    {fields : List (Json.Field Part)} {decode : Json → Option α} {content : Json} {data : α}
    (htitled : schema which = .record title fields) (hlength : fields.length = contents.length)
    (hcontent : content = .object (Json.entries fields contents))
    (hdecode : ∀ members, Json.Tells schema default? limit members fields contents →
      decode (.object members) = some data) :
    Reads limit (.named which) decode content data :=
  .record distinct_schema contents htitled hlength hcontent hdecode

/-! ### Values without parts -/

lemma reads_string (text : String) :
    Reads limit .string Json.string? (.string text) text :=
  Json.reads_leaf rfl rfl rfl

lemma reads_bool (value : Bool) : Reads limit .bool Json.bool? (.bool value) value :=
  Json.reads_leaf rfl rfl rfl

lemma intWithin?_int {least greatest n : ℤ} (hleast : least ≤ n) (hgreatest : n ≤ greatest) :
    (Json.int n).intWithin? least greatest = some n := by
  simp [Json.intWithin?, Json.int?, hleast, hgreatest]

lemma reads_word {kind : Json.IntegerKind} (word : UInt64) :
    Reads limit (.integer kind) Json.word? (.ofWord word) word := by
  refine Json.reads_leaf rfl rfl ?_
  have hlt := word.toNat_lt_size
  rw [Json.word?, Json.ofWord, intWithin?_int (by omega) (by omega)]
  simp

lemma reads_byte {kind : Json.IntegerKind} (width : UInt8) :
    Reads limit (.integer kind) Json.byte? (.ofWidth width) width := by
  refine Json.reads_leaf rfl rfl ?_
  have hlt := width.toNat_lt_size
  rw [Json.byte?, Json.ofWidth, intWithin?_int (by omega) (by omega)]
  simp

lemma reads_signedWord {kind : Json.IntegerKind} (word : Int64) :
    Reads limit (.integer kind) Json.signedWord? (.int word.toInt) word := by
  refine Json.reads_leaf rfl rfl ?_
  rw [Json.signedWord?, intWithin?_int word.minValue_le_toInt word.toInt_le, Option.map_some,
    Int64.ofInt_toInt]

lemma reads_double (bits : UInt64) : Reads limit .float Json.double? (.float bits) bits :=
  Json.reads_leaf rfl rfl rfl

/-- The name of an alternative without content. -/
lemma reads_bare {shape : Shape Part} {ofTag? : String → Option α} {tag : String} {data : α}
    (h : ofTag? tag = some data) :
    Reads limit shape (·.bare?.bind ofTag?) (.string tag) data :=
  Json.reads_leaf rfl rfl h

/-! ### Defaults -/

lemma bool_of_isDefault {value : Bool} (h : default? .bool = some (.bool value)) :
    value = false := by
  simpa [default?] using h.symm

lemma list_of_isDefault {shape : Shape Part} {encode : α → Json} {items : List α}
    (h : default? (.list shape) = some (.array (items.map encode))) : items = [] := by
  simpa [default?] using h.symm

lemma option_of_isDefault {shape : Shape Part} {encode : α → Json} {item : Option α}
    (hnull : ∀ data, encode data ≠ .null)
    (h : default? (.option shape) = some (Json.ofOption encode item)) : item = none := by
  cases item with
  | none => rfl
  | some data => exact absurd (Option.some.inj h).symm (hnull data)

/-! ### Names and paths -/

lemma reads_loc (loc : Loc) : Reads limit (part .loc) Loc.ofJson? loc.toJson loc := by
  refine reads_record [.ofWord loc.line, .ofWord loc.column] rfl rfl rfl ?_
  rintro members ⟨hline, hcolumn, -⟩
  simp only [Loc.ofJson?, Json.members?, Option.bind_eq_bind, Option.bind_some, Option.pure_def,
    hline.required (reads_word _), hcolumn.required (reads_word _)]

lemma loc_of_isDefault {loc : Loc} (h : default? (part .loc) = some loc.toJson) : loc = {} := by
  have hread : Loc.ofJson? loc.toJson = some loc := reads_loc loc _ .same le_rfl
  rw [← Option.some.inj h] at hread
  exact (Option.some.inj hread).symm

lemma reads_name (name : Name) : Reads limit (part .name) Name.ofJson? name.toJson name := by
  refine reads_record [.string name.id, name.loc.toJson] rfl rfl rfl ?_
  rintro members ⟨hid, hloc, -⟩
  simp only [Name.ofJson?, Json.members?, Option.bind_eq_bind, Option.bind_some, Option.pure_def,
    hid.required (reads_string _), hloc.defaulted (reads_loc _) loc_of_isDefault]

lemma reads_names (names : List Name) :
    Reads limit (parts .name) (Json.list? Name.ofJson?) (Name.listToJson names) names :=
  Json.Reads.list fun name _ => reads_name name

lemma reads_staticPath (path : StaticPath) :
    Reads limit (part .staticPath) StaticPath.ofJson? path.toJson path := by
  refine reads_record [path.first.toJson, Name.listToJson path.rest] rfl rfl rfl ?_
  rintro members ⟨hfirst, hrest, -⟩
  simp only [StaticPath.ofJson?, Json.members?, Option.bind_eq_bind, Option.bind_some,
    Option.pure_def, hfirst.required (reads_name _),
    hrest.defaulted (reads_names _) list_of_isDefault]

/-! ### Literals and operators -/

lemma reads_literal (literal : Literal) :
    Reads limit (part .literal) Literal.ofJson? literal.toJson literal := by
  refine Json.Reads.mono limit.le_succ ?_
  cases literal with
  | bool flag =>
      refine .tagged rfl (reads_bool flag) fun content hcontent => ?_
      simp [Literal.ofJson?, Json.alternative?, hcontent]
  | int word =>
      refine .tagged rfl (reads_signedWord word) fun content hcontent => ?_
      simp [Literal.ofJson?, Json.alternative?, hcontent]
  | float bits =>
      refine .tagged rfl (reads_double bits) fun content hcontent => ?_
      simp [Literal.ofJson?, Json.alternative?, hcontent]
  | bits word =>
      refine .tagged rfl (reads_word word) fun content hcontent => ?_
      simp [Literal.ofJson?, Json.alternative?, hcontent]

/-! ### Types and expressions -/

/-- Decoders that read types and expressions nested no deeper than a limit. -/
structure Faithful (inner : Decoders) (limit : ℕ) : Prop where
  type : ∀ spec, Reads limit (part .typeSpec) inner.type spec.toJson spec
  expr : ∀ expr, Reads limit (part .expr) inner.expr expr.toJson expr

namespace Faithful

variable {inner : Decoders} (h : Faithful inner limit)
include h

lemma access (access : Access) : Reads limit (part .access) inner.access access.toJson access := by
  refine Json.Reads.mono limit.le_succ ?_
  cases access with
  | field name =>
      refine .tagged rfl (reads_name name) fun content hcontent => ?_
      simp [Decoders.access, Json.alternative?, hcontent]
  | index index =>
      refine .tagged rfl (h.expr index) fun content hcontent => ?_
      simp [Decoders.access, Json.alternative?, hcontent]
  | point name =>
      refine .tagged rfl (reads_name name) fun content hcontent => ?_
      simp [Decoders.access, Json.alternative?, hcontent]

lemma path (path : DynamicPath) :
    Reads limit (part .dynamicPath) inner.path path.toJson path := by
  obtain ⟨first, accesses⟩ := path
  rw [DynamicPath.toJson, Access.listToJson_eq]
  refine reads_record [first.toJson, .array (accesses.map Access.toJson)] rfl rfl rfl ?_
  rintro members ⟨hfirst, haccesses, -⟩
  simp only [Decoders.path, Json.members?, Option.bind_eq_bind, Option.bind_some, Option.pure_def,
    hfirst.required (reads_name _),
    haccesses.defaulted (.list fun access _ => h.access access) list_of_isDefault]

lemma call (call : Call) : Reads limit (part .call) inner.call call.toJson call := by
  obtain ⟨callee, captures, inputs, outputs, loc⟩ := call
  rw [Call.toJson, Expr.listToJson_eq, DynamicPath.listToJson_eq]
  refine reads_record [callee.toJson, .array (captures.map StaticPath.toJson),
    .array (inputs.map Expr.toJson), .array (outputs.map DynamicPath.toJson), loc.toJson]
    rfl rfl rfl ?_
  rintro members ⟨hcallee, hcaptures, hinputs, houtputs, hloc, -⟩
  simp only [Decoders.call, Json.members?, Option.bind_eq_bind, Option.bind_some, Option.pure_def,
    hcallee.required (h.path _),
    hcaptures.defaulted (.list fun path _ => reads_staticPath path) list_of_isDefault,
    hinputs.defaulted (.list fun expr _ => h.expr expr) list_of_isDefault,
    houtputs.defaulted (.list fun path _ => h.path path) list_of_isDefault,
    hloc.defaulted (reads_loc _) loc_of_isDefault]

lemma field (field : Name × Expr) :
    Reads limit (.pair (part .name) (part .expr)) inner.field (Expr.fieldToJson field) field := by
  refine .pair (reads_name field.1) (h.expr field.2) fun name expr hname hexpr => ?_
  simp [Decoders.field, Json.elements?, hname, hexpr]

/-- A type is read if types and expressions are that are nested one level less deep. -/
lemma typeStep (spec : TypeSpec) :
    Reads (limit + 1) (part .typeSpec) inner.typeStep spec.toJson spec := by
  cases spec with
  | bool => exact Json.reads_leaf rfl rfl rfl
  | int width =>
      refine .tagged rfl (reads_byte width) fun content hcontent => ?_
      simp [Decoders.typeStep, Json.alternative?, hcontent]
  | nat width =>
      refine .tagged rfl (reads_byte width) fun content hcontent => ?_
      simp [Decoders.typeStep, Json.alternative?, hcontent]
  | bits width =>
      refine .tagged rfl (reads_byte width) fun content hcontent => ?_
      simp [Decoders.typeStep, Json.alternative?, hcontent]
  | float width =>
      refine .tagged rfl (reads_byte width) fun content hcontent => ?_
      simp [Decoders.typeStep, Json.alternative?, hcontent]
  | named path =>
      refine .tagged rfl (reads_staticPath path) fun content hcontent => ?_
      simp [Decoders.typeStep, Json.alternative?, hcontent]
  | array size element =>
      rw [TypeSpec.toJson]
      refine .below rfl (reads_record [size.toJson, element.toJson] rfl rfl rfl ?_)
      rintro members ⟨hsize, helement, -⟩
      simp [Decoders.typeStep, Json.alternative?, Json.members?, hsize.required (h.expr _),
        helement.required (h.type _)]
  | slice element =>
      rw [TypeSpec.toJson]
      refine .tagged rfl (h.type element) fun content hcontent => ?_
      simp [Decoders.typeStep, Json.alternative?, hcontent]

/-- So is an expression. -/
lemma exprStep (expr : Expr) : Reads (limit + 1) (part .expr) inner.exprStep expr.toJson expr := by
  cases expr with
  | literal literal =>
      refine .tagged rfl (reads_literal literal) fun content hcontent => ?_
      simp [Decoders.exprStep, Json.alternative?, hcontent]
  | path path =>
      refine .tagged rfl (h.path path) fun content hcontent => ?_
      simp [Decoders.exprStep, Json.alternative?, hcontent]
  | prev path =>
      refine .tagged rfl (h.path path) fun content hcontent => ?_
      simp [Decoders.exprStep, Json.alternative?, hcontent]
  | call call =>
      refine .tagged rfl (h.call call) fun content hcontent => ?_
      simp [Decoders.exprStep, Json.alternative?, hcontent]
  | unary op operand =>
      refine .below rfl (reads_record [.string op.tag, operand.toJson] rfl rfl rfl ?_)
      rintro members ⟨hop, hoperand, -⟩
      simp [Decoders.exprStep, Json.alternative?, Json.members?,
        hop.required (reads_bare (UnaryOp.ofTag?_tag op)), hoperand.required (h.expr _)]
  | binary op lhs rhs =>
      refine .below rfl (reads_record [.string op.tag, lhs.toJson, rhs.toJson] rfl rfl rfl ?_)
      rintro members ⟨hop, hlhs, hrhs, -⟩
      simp [Decoders.exprStep, Json.alternative?, Json.members?,
        hop.required (reads_bare (BinaryOp.ofTag?_tag op)), hlhs.required (h.expr _),
        hrhs.required (h.expr _)]
  | convert expr target =>
      refine .below rfl (reads_record [expr.toJson, target.toJson] rfl rfl rfl ?_)
      rintro members ⟨hexpr, htarget, -⟩
      simp [Decoders.exprStep, Json.alternative?, Json.members?, hexpr.required (h.expr _),
        htarget.required (h.type _)]
  | array elements =>
      rw [Expr.toJson, Expr.listToJson_eq]
      refine .tagged rfl (.list fun expr _ => h.expr expr) fun content hcontent => ?_
      simp [Decoders.exprStep, Json.alternative?, hcontent]
  | struct datatype fields =>
      rw [Expr.toJson_struct]
      refine .below rfl (reads_record [Json.ofOption TypeSpec.toJson datatype,
        .array (fields.map Expr.fieldToJson)] rfl rfl rfl ?_)
      rintro members ⟨hdatatype, hfields, -⟩
      have hdatatype := hdatatype.defaulted
        (.option (fun spec _ => h.type spec) TypeSpec.toJson_ne_null)
        (option_of_isDefault TypeSpec.toJson_ne_null)
      simp [Decoders.exprStep, Json.alternative?, Json.members?, hdatatype,
        hfields.required (.list fun field _ => h.field field)]

end Faithful

/-- The decoders for a depth read all types and expressions that are not nested deeper. -/
lemma faithful_within (depth : ℕ) : Faithful (Decoders.within depth) depth := by
  -- The decoders recur on a bound for the depth of the value that they read, so the induction is
  -- on this bound and not on the tree.
  induction depth with
  | zero => exact ⟨fun _ => Json.reads_zero, fun _ => Json.reads_zero⟩
  | succ depth ih => exact ⟨ih.typeStep, ih.exprStep⟩

lemma reads_typeSpec (spec : TypeSpec) :
    Reads limit (part .typeSpec) TypeSpec.ofJson? spec.toJson spec :=
  fun value h _ => (faithful_within value.depth).type spec value h le_rfl

lemma reads_expr (expr : Expr) : Reads limit (part .expr) Expr.ofJson? expr.toJson expr :=
  fun value h _ => (faithful_within value.depth).expr expr value h le_rfl

lemma reads_dynamicPath (path : DynamicPath) :
    Reads limit (part .dynamicPath) DynamicPath.ofJson? path.toJson path :=
  fun value h _ => (faithful_within value.depth).path path value h le_rfl

lemma reads_call (call : Call) : Reads limit (part .call) Call.ofJson? call.toJson call :=
  fun value h _ => (faithful_within value.depth).call call value h le_rfl

end Syntax

end BriskModules
