import BriskModules.Proofs.Syntax.Expressions

/-!
Compilation units are read back from their encodings.

Declarations, statements and whole units are put together from what can be read already.
Statements contain statements, so they are read by induction on how deep they are nested.

* `reads_decodeStep`, `reads_stmt`: statements;
* `reads_member`, `reads_import`, `reads_moduleSpec`: the parts of a compilation unit;
* `CompilationUnit.json_roundTrip` (**syntax trees survive their JSON form**).
-/

namespace BriskModules

/-! ### Encodings -/

lemma Permission.ofTag?_tag (permission : Permission) :
    Permission.ofTag? permission.tag = some permission := by
  cases permission <;> rfl

lemma SubprogramKind.ofTag?_tag (kind : SubprogramKind) :
    SubprogramKind.ofTag? kind.tag = some kind := by
  cases kind <;> rfl

@[simp]
lemma Stmt.listToJson_eq (stmts : List Stmt) : Stmt.listToJson stmts = stmts.map Stmt.toJson := by
  induction stmts with
  | nil => rfl
  | cons stmt more ih => rw [Stmt.listToJson, ih, List.map_cons]

@[simp]
lemma Stmt.threadsToJson_eq (threads : List (List Stmt)) :
    Stmt.threadsToJson threads = threads.map fun thread => .array (thread.map Stmt.toJson) := by
  induction threads with
  | nil => rfl
  | cons thread more ih => rw [Stmt.threadsToJson, ih, Stmt.listToJson_eq, List.map_cons]

lemma ModuleSpec.toJson_ne_null (spec : ModuleSpec) : spec.toJson ≠ .null := by
  simp [ModuleSpec.toJson]

namespace Syntax

variable {limit : ℕ}

/-! ### Variables and types -/

/-- An optional type, which may be left out. -/
lemma reads_optionalType (spec : Option TypeSpec) :
    Reads limit (maybe .typeSpec) (Json.option? TypeSpec.ofJson?)
      (Json.ofOption TypeSpec.toJson spec) spec :=
  .option (fun spec _ => reads_typeSpec spec) TypeSpec.toJson_ne_null

/-- An optional expression, which may be left out. -/
lemma reads_optionalExpr (expr : Option Expr) :
    Reads limit (maybe .expr) (Json.option? Expr.ofJson?) (Json.ofOption Expr.toJson expr) expr :=
  .option (fun expr _ => reads_expr expr) Expr.toJson_ne_null

lemma reads_varDecl (decl : VarDecl) :
    Reads limit (part .varDecl) VarDecl.ofJson? decl.toJson decl := by
  refine reads_record [decl.name.toJson, .string decl.permission.tag,
    Json.ofOption TypeSpec.toJson decl.datatype, Json.ofOption Expr.toJson decl.init] rfl rfl rfl ?_
  rintro members ⟨hname, hpermission, hdatatype, hinit, -⟩
  simp [VarDecl.ofJson?, Json.members?, hname.required (reads_name _),
    hpermission.required (reads_bare (Permission.ofTag?_tag _)),
    hdatatype.defaulted (reads_optionalType _) (option_of_isDefault TypeSpec.toJson_ne_null),
    hinit.defaulted (reads_optionalExpr _) (option_of_isDefault Expr.toJson_ne_null)]

lemma reads_typeDeclKind (kind : TypeDeclKind) :
    Reads limit (part .typeDeclKind) TypeDeclKind.ofJson? kind.toJson kind := by
  refine Json.Reads.mono limit.le_succ ?_
  cases kind with
  | struct fields =>
      refine .tagged rfl (.list fun decl _ => reads_varDecl decl) fun content hcontent => ?_
      simp [TypeDeclKind.ofJson?, Json.alternative?, hcontent]
  | newType spec =>
      refine .tagged rfl (reads_typeSpec spec) fun content hcontent => ?_
      simp [TypeDeclKind.ofJson?, Json.alternative?, hcontent]
  | opaqueType => exact Json.reads_leaf rfl rfl rfl

lemma reads_typeDecl (decl : TypeDecl) :
    Reads limit (part .typeDecl) TypeDecl.ofJson? decl.toJson decl := by
  refine reads_record [decl.name.toJson, decl.kind.toJson] rfl rfl rfl ?_
  rintro members ⟨hname, hkind, -⟩
  simp [TypeDecl.ofJson?, Json.members?, hname.required (reads_name _),
    hkind.required (reads_typeDeclKind _)]

/-! ### Statements -/

/-- A statement is read if the statements in it are, which are nested one level less deep. -/
lemma reads_decodeStep {inner : Json → Option Stmt}
    (h : ∀ stmt, Reads limit (part .stmt) inner stmt.toJson stmt) (stmt : Stmt) :
    Reads (limit + 1) (part .stmt) (Stmt.decodeStep inner) stmt.toJson stmt := by
  have hstmts : ∀ stmts : List Stmt, Reads limit (parts .stmt) (Json.list? inner)
      (.array (stmts.map Stmt.toJson)) stmts := fun stmts => .list fun stmt _ => h stmt
  cases stmt with
  | var decl =>
      refine .tagged rfl (reads_varDecl decl) fun content hcontent => ?_
      simp [Stmt.decodeStep, Json.alternative?, hcontent]
  | assign lhs rhs =>
      refine .below rfl (reads_record [lhs.toJson, rhs.toJson] rfl rfl rfl ?_)
      rintro members ⟨hlhs, hrhs, -⟩
      simp [Stmt.decodeStep, Json.alternative?, Json.members?,
        hlhs.required (reads_dynamicPath _), hrhs.required (reads_expr _)]
  | call call =>
      refine .tagged rfl (reads_call call) fun content hcontent => ?_
      simp [Stmt.decodeStep, Json.alternative?, hcontent]
  | run receiver call =>
      refine .below rfl (reads_record [Json.ofOption DynamicPath.toJson receiver, call.toJson]
        rfl rfl rfl ?_)
      rintro members ⟨hreceiver, hcall, -⟩
      have hreceiver := hreceiver.defaulted
        (.option (fun path _ => reads_dynamicPath path) DynamicPath.toJson_ne_null)
        (option_of_isDefault DynamicPath.toJson_ne_null)
      simp [Stmt.decodeStep, Json.alternative?, Json.members?, hreceiver,
        hcall.required (reads_call _)]
  | cond condition thenBranch elseBranch =>
      rw [Stmt.toJson, Stmt.listToJson_eq, Stmt.listToJson_eq]
      refine .below rfl (reads_record [condition.toJson, .array (thenBranch.map Stmt.toJson),
        .array (elseBranch.map Stmt.toJson)] rfl rfl rfl ?_)
      rintro members ⟨hcondition, hthen, helse, -⟩
      simp [Stmt.decodeStep, Json.alternative?, Json.members?,
        hcondition.required (reads_expr _), hthen.required (hstmts _), helse.required (hstmts _)]
  | whileLoop condition body =>
      rw [Stmt.toJson, Stmt.listToJson_eq]
      refine .below rfl (reads_record [condition.toJson, .array (body.map Stmt.toJson)]
        rfl rfl rfl ?_)
      rintro members ⟨hcondition, hbody, -⟩
      simp [Stmt.decodeStep, Json.alternative?, Json.members?,
        hcondition.required (reads_expr _), hbody.required (hstmts _)]
  | repeatLoop body condition =>
      rw [Stmt.toJson, Stmt.listToJson_eq]
      refine .below rfl (reads_record [.array (body.map Stmt.toJson),
        Json.ofOption Expr.toJson condition] rfl rfl rfl ?_)
      rintro members ⟨hbody, hcondition, -⟩
      simp [Stmt.decodeStep, Json.alternative?, Json.members?, hbody.required (hstmts _),
        hcondition.defaulted (reads_optionalExpr _) (option_of_isDefault Expr.toJson_ne_null)]
  | await condition =>
      refine .tagged rfl (reads_expr condition) fun content hcontent => ?_
      simp [Stmt.decodeStep, Json.alternative?, hcontent]
  | abort condition body =>
      rw [Stmt.toJson, Stmt.listToJson_eq]
      refine .below rfl (reads_record [condition.toJson, .array (body.map Stmt.toJson)]
        rfl rfl rfl ?_)
      rintro members ⟨hcondition, hbody, -⟩
      simp [Stmt.decodeStep, Json.alternative?, Json.members?,
        hcondition.required (reads_expr _), hbody.required (hstmts _)]
  | cobegin threads =>
      rw [Stmt.toJson, Stmt.threadsToJson_eq]
      refine .tagged rfl (.list fun thread _ => hstmts thread) fun content hcontent => ?_
      simp [Stmt.decodeStep, Json.alternative?, hcontent]
  | assertion condition =>
      refine .tagged rfl (reads_expr condition) fun content hcontent => ?_
      simp [Stmt.decodeStep, Json.alternative?, hcontent]
  | ret value =>
      refine .tagged rfl (reads_optionalExpr value) fun content hcontent => ?_
      simp [Stmt.decodeStep, Json.alternative?, hcontent]

lemma reads_decodeWithin (depth : ℕ) (stmt : Stmt) :
    Reads depth (part .stmt) (Stmt.decodeWithin depth) stmt.toJson stmt := by
  induction depth generalizing stmt with
  | zero => exact Json.reads_zero
  | succ depth ih => exact reads_decodeStep ih stmt

lemma reads_stmt (stmt : Stmt) : Reads limit (part .stmt) Stmt.ofJson? stmt.toJson stmt :=
  fun value h _ => reads_decodeWithin value.depth stmt value h le_rfl

lemma reads_stmts (stmts : List Stmt) :
    Reads limit (parts .stmt) (Json.list? Stmt.ofJson?) (.array (stmts.map Stmt.toJson)) stmts :=
  .list fun stmt _ => reads_stmt stmt

/-! ### Subprograms -/

lemma reads_paramDecl (decl : ParamDecl) :
    Reads limit (part .paramDecl) ParamDecl.ofJson? decl.toJson decl := by
  refine reads_record [decl.name.toJson, decl.datatype.toJson] rfl rfl rfl ?_
  rintro members ⟨hname, hdatatype, -⟩
  simp [ParamDecl.ofJson?, Json.members?, hname.required (reads_name _),
    hdatatype.required (reads_typeSpec _)]

lemma reads_paramDecls (decls : List ParamDecl) :
    Reads limit (parts .paramDecl) (Json.list? ParamDecl.ofJson?) (ParamDecl.listToJson decls)
      decls :=
  Json.Reads.list fun decl _ => reads_paramDecl decl

lemma reads_subprogramDecl (decl : SubprogramDecl) :
    Reads limit (part .subprogramDecl) SubprogramDecl.ofJson? decl.toJson decl := by
  rw [SubprogramDecl.toJson, Stmt.listToJson_eq]
  refine reads_record [decl.name.toJson, .string decl.kind.tag, .bool decl.singleton,
    .bool decl.compileTime, ParamDecl.listToJson decl.inputs, ParamDecl.listToJson decl.outputs,
    Json.ofOption TypeSpec.toJson decl.result, .array (decl.body.map Stmt.toJson)] rfl rfl rfl ?_
  rintro members ⟨hname, hkind, hsingleton, hcompileTime, hinputs, houtputs, hresult, hbody, -⟩
  simp [SubprogramDecl.ofJson?, Json.members?, hname.required (reads_name _),
    hkind.required (reads_bare (SubprogramKind.ofTag?_tag _)),
    hsingleton.defaulted (reads_bool _) bool_of_isDefault,
    hcompileTime.defaulted (reads_bool _) bool_of_isDefault,
    hinputs.defaulted (reads_paramDecls _) list_of_isDefault,
    houtputs.defaulted (reads_paramDecls _) list_of_isDefault,
    hresult.defaulted (reads_optionalType _) (option_of_isDefault TypeSpec.toJson_ne_null),
    hbody.defaulted (reads_stmts _) list_of_isDefault]

lemma reads_prototypeDecl (decl : PrototypeDecl) :
    Reads limit (part .prototypeDecl) PrototypeDecl.ofJson? decl.toJson decl := by
  refine reads_record [decl.name.toJson, .string decl.kind.tag, .bool decl.singleton,
    ParamDecl.listToJson decl.inputs, ParamDecl.listToJson decl.outputs,
    Json.ofOption TypeSpec.toJson decl.result] rfl rfl rfl ?_
  rintro members ⟨hname, hkind, hsingleton, hinputs, houtputs, hresult, -⟩
  simp [PrototypeDecl.ofJson?, Json.members?, hname.required (reads_name _),
    hkind.required (reads_bare (SubprogramKind.ofTag?_tag _)),
    hsingleton.defaulted (reads_bool _) bool_of_isDefault,
    hinputs.defaulted (reads_paramDecls _) list_of_isDefault,
    houtputs.defaulted (reads_paramDecls _) list_of_isDefault,
    hresult.defaulted (reads_optionalType _) (option_of_isDefault TypeSpec.toJson_ne_null)]

lemma reads_member (member : Member) :
    Reads limit (part .member) Member.ofJson? member.toJson member := by
  refine Json.Reads.mono limit.le_succ ?_
  cases member with
  | var decl =>
      refine .tagged rfl (reads_varDecl decl) fun content hcontent => ?_
      simp [Member.ofJson?, Json.alternative?, hcontent]
  | type decl =>
      refine .tagged rfl (reads_typeDecl decl) fun content hcontent => ?_
      simp [Member.ofJson?, Json.alternative?, hcontent]
  | subprogram decl =>
      refine .tagged rfl (reads_subprogramDecl decl) fun content hcontent => ?_
      simp [Member.ofJson?, Json.alternative?, hcontent]
  | prototype decl =>
      refine .tagged rfl (reads_prototypeDecl decl) fun content hcontent => ?_
      simp [Member.ofJson?, Json.alternative?, hcontent]

/-! ### Compilation units -/

lemma reads_moduleSpec (spec : ModuleSpec) :
    Reads limit (part .moduleSpec) ModuleSpec.ofJson? spec.toJson spec := by
  refine reads_record [.bool spec.isInternal, Name.listToJson spec.exposes, spec.loc.toJson]
    rfl rfl rfl ?_
  rintro members ⟨hinternal, hexposes, hloc, -⟩
  simp [ModuleSpec.ofJson?, Json.members?,
    hinternal.defaulted (reads_bool _) bool_of_isDefault,
    hexposes.defaulted (reads_names _) list_of_isDefault,
    hloc.defaulted (reads_loc _) loc_of_isDefault]

lemma reads_import (decl : Import) :
    Reads limit (part .import) Import.ofJson? decl.toJson decl := by
  refine reads_record [decl.localName.toJson, .string decl.path, decl.pathLoc.toJson,
    .bool decl.whitebox, Name.listToJson decl.exposing, decl.loc.toJson] rfl rfl rfl ?_
  rintro members ⟨hlocalName, hpath, hpathLoc, hwhitebox, hexposing, hloc, -⟩
  simp [Import.ofJson?, Json.members?, hlocalName.required (reads_name _),
    hpath.required (reads_string _), hpathLoc.defaulted (reads_loc _) loc_of_isDefault,
    hwhitebox.defaulted (reads_bool _) bool_of_isDefault,
    hexposing.defaulted (reads_names _) list_of_isDefault,
    hloc.defaulted (reads_loc _) loc_of_isDefault]

lemma reads_compilationUnit (unit : CompilationUnit) :
    Reads limit (part .compilationUnit) CompilationUnit.ofJson? unit.toJson unit := by
  refine reads_record [.array (unit.imports.map Import.toJson),
    Json.ofOption ModuleSpec.toJson unit.spec, .array (unit.members.map Member.toJson)]
    rfl rfl rfl ?_
  rintro members ⟨himports, hspec, hmembers, -⟩
  have hspec := hspec.defaulted
    (.option (fun spec _ => reads_moduleSpec spec) ModuleSpec.toJson_ne_null)
    (option_of_isDefault ModuleSpec.toJson_ne_null)
  simp [CompilationUnit.ofJson?, Json.members?, hspec,
    himports.defaulted (.list fun decl _ => reads_import decl) list_of_isDefault,
    hmembers.defaulted (.list fun member _ => reads_member member) list_of_isDefault]

end Syntax

namespace CompilationUnit

open Syntax

/-- **Syntax trees survive their JSON form**: a compilation unit is decoded from its encoding, and
from every abridged form of it, in which members of objects come in another order and fields that
may be left out and hold their default are left out, in any of the objects. -/
theorem json_roundTrip (unit : CompilationUnit) :
    ofJson? unit.toJson = some unit ∧
      ∀ value, Abridged (part .compilationUnit) unit.toJson value →
        ofJson? value = ofJson? unit.toJson := by
  have hread : ∀ value, Abridged (part .compilationUnit) unit.toJson value →
      ofJson? value = some unit :=
    fun value h => reads_compilationUnit unit value h le_rfl
  have hself := hread unit.toJson .same
  exact ⟨hself, fun value h => (hread value h).trans hself.symm⟩

/-- A unit that imports one module under its own name. -/
def importing (name : String) : CompilationUnit :=
  { imports := [{ localName := ⟨name, {}⟩, path := name }] }

/-- Such a unit with nothing but what has to be there, and the import written back to front. -/
def shortImporting (name : String) : Json :=
  .object [("imports", .array [.object [("path", .string name),
    ("local_name", .object [("id", .string name)])]])]

lemma abridged_shortImporting (name : String) :
    Abridged (part .compilationUnit) (importing name).toJson (shortImporting name) := by
  have hname : Abridged (part .name) (Name.toJson ⟨name, {}⟩) (.object [("id", .string name)]) := by
    refine .record [⟨required "id" .string, .string name, some (.string name)⟩,
      ⟨defaulted "loc" (part .loc), Loc.toJson {}, none⟩] rfl (.refl _) (by simp) ?_ ?_
    · simp [Json.Abridged.same]
    · simp [defaulted, part, default?]
  have himport : Abridged (part .import) (Import.toJson { localName := ⟨name, {}⟩, path := name })
      (.object [("path", .string name), ("local_name", .object [("id", .string name)])]) := by
    refine .record [⟨required "path" .string, .string name, some (.string name)⟩,
      ⟨required "local_name" (part .name), Name.toJson ⟨name, {}⟩,
        some (.object [("id", .string name)])⟩,
      ⟨defaulted "path_loc" (part .loc), Loc.toJson {}, none⟩,
      ⟨defaulted "whitebox" .bool, .bool false, none⟩,
      ⟨defaulted "exposing" (parts .name), .array [], none⟩,
      ⟨defaulted "loc" (part .loc), Loc.toJson {}, none⟩] rfl (.swap _ _ _) (by simp) ?_ ?_
    · simpa [Json.Abridged.same, required] using hname
    · simp [defaulted, part, parts, default?]
  have himports := Json.Abridged.list [(_, _)] (List.forall_mem_singleton.mpr himport)
  refine .record [⟨defaulted "imports" (parts .import), _, some _⟩,
    ⟨defaulted "spec" (maybe .moduleSpec), .null, none⟩,
    ⟨defaulted "members" (parts .member), .array [], none⟩] rfl (.refl _) (by simp) ?_ ?_
  · refine List.forall_mem_cons.mpr ⟨?_, by simp⟩
    rintro content ⟨⟩
    exact himports
  · simp [defaulted, maybe, parts, default?]

/-- A short form of a unit is read as what it is short for. -/
theorem json_roundTrip_shortImporting :
    Abridged (part .compilationUnit) (importing "m").toJson (shortImporting "m") ∧
      ofJson? (shortImporting "m") = some (importing "m") := by
  have habridged := abridged_shortImporting "m"
  obtain ⟨hself, hsame⟩ := json_roundTrip (importing "m")
  exact ⟨habridged, (hsame _ habridged).trans hself⟩

end CompilationUnit

end BriskModules
