import BriskModules.Export.Inference
import BriskModules.Proofs.Symbol.Names

/-!
What the parts of a unit mention, listed in the order of the walk.

The walk that infers exports does the same for every name that it comes by, and for every
call. So the names and calls of a syntax tree are listed first, each name with a mark
whether it stands in the size of an array, and the walk is shown to follow the list.

* `Mention`: a name that is referred to, or a call;
* `Mention.ofType`, `Mention.ofExpr`, `Mention.ofStmt`: what a tree mentions;
* `Sighting`: a mention in a member, and how much its place reveals;
* `CompilationUnit.sightings`: all mentions of a unit;
* `collectExports_eq_foldl`: the walk follows the sightings.
-/

namespace BriskModules

/-- Something that a walk comes by. -/
inductive Mention where
  /-- The first name of a path with the fields right behind it, or an extension member;
  `sized` tells whether it stands in the size of an array. -/
  | name (kind : ReferenceKind) (first : String) (rest : List String) (loc : Loc) (sized : Bool)
  /-- A call, by the static part of the callee, with its captures. -/
  | call (callee : List String) (captures : List (List String))

namespace Mention

/-- The mention of a static path. -/
def ofStatic (sized : Bool) (path : StaticPath) : Mention :=
  .name .explicit path.first.id (path.rest.map (·.id)) path.first.loc sized

mutual

/-- What a type mentions. The size of an array is marked as such. -/
def ofType (sized : Bool) : TypeSpec → List Mention
  | .bool => []
  | .int _ => []
  | .nat _ => []
  | .bits _ => []
  | .float _ => []
  | .named path => [ofStatic sized path]
  | .array size element => ofExpr true size ++ ofType sized element
  | .slice element => ofType sized element

/-- What a step of a path mentions. -/
def ofAccess (sized : Bool) : Access → List Mention
  | .field _ => []
  | .index index => ofExpr sized index
  | .point member => [.name .implicit member.id [] member.loc sized]

/-- What several steps of a path mention. -/
def ofAccesses (sized : Bool) : List Access → List Mention
  | [] => []
  | step :: more => ofAccess sized step ++ ofAccesses sized more

/-- What a dynamic path mentions. -/
def ofPath (sized : Bool) : DynamicPath → List Mention
  | ⟨first, steps⟩ =>
    .name .explicit first.id (DynamicPath.leadingFields steps) first.loc sized ::
      ofAccesses sized steps

/-- What several dynamic paths mention. -/
def ofPaths (sized : Bool) : List DynamicPath → List Mention
  | [] => []
  | path :: more => ofPath sized path ++ ofPaths sized more

/-- What a call mentions: the callee, the call itself, and what is handed over. -/
def ofCall (sized : Bool) : Call → List Mention
  | ⟨callee, captures, inputs, outputs, _⟩ =>
    ofPath sized callee ++
      (.call callee.staticPart (captures.map StaticPath.ids) ::
        (captures.map (ofStatic sized) ++ (ofExprs sized inputs ++ ofPaths sized outputs)))

/-- What an expression mentions. -/
def ofExpr (sized : Bool) : Expr → List Mention
  | .literal _ => []
  | .path path => ofPath sized path
  | .prev path => ofPath sized path
  | .call target => ofCall sized target
  | .unary _ operand => ofExpr sized operand
  | .binary _ lhs rhs => ofExpr sized lhs ++ ofExpr sized rhs
  | .convert operand target => ofExpr sized operand ++ ofType sized target
  | .array elements => ofExprs sized elements
  | .struct none values => ofFields sized values
  | .struct (some datatype) values => ofType sized datatype ++ ofFields sized values

/-- What several expressions mention. -/
def ofExprs (sized : Bool) : List Expr → List Mention
  | [] => []
  | value :: more => ofExpr sized value ++ ofExprs sized more

/-- What the fields of a structure mention. -/
def ofFields (sized : Bool) : List (Name × Expr) → List Mention
  | [] => []
  | (_, value) :: more => ofExpr sized value ++ ofFields sized more

end

/-- What the declaration of a variable mentions. -/
def ofVarDecl (decl : VarDecl) : List Mention :=
  decl.datatype.toList.flatMap (ofType false) ++ decl.init.toList.flatMap (ofExpr false)

mutual

/-- What a statement mentions. -/
def ofStmt : Stmt → List Mention
  | .var decl => ofVarDecl decl
  | .assign lhs rhs => ofPath false lhs ++ ofExpr false rhs
  | .call target => ofCall false target
  | .run receiver target => receiver.toList.flatMap (ofPath false) ++ ofCall false target
  | .cond condition thenBranch elseBranch =>
    ofExpr false condition ++ (ofStmts thenBranch ++ ofStmts elseBranch)
  | .whileLoop condition body => ofExpr false condition ++ ofStmts body
  | .repeatLoop body condition => ofStmts body ++ condition.toList.flatMap (ofExpr false)
  | .await condition => ofExpr false condition
  | .abort condition body => ofExpr false condition ++ ofStmts body
  | .cobegin threads => ofThreads threads
  | .assertion condition => ofExpr false condition
  | .ret value => value.toList.flatMap (ofExpr false)

/-- What several statements mention. -/
def ofStmts : List Stmt → List Mention
  | [] => []
  | first :: more => ofStmt first ++ ofStmts more

/-- What statements that run side by side mention. -/
def ofThreads : List (List Stmt) → List Mention
  | [] => []
  | thread :: more => ofStmts thread ++ ofThreads more

end

/-- What the signature of a subprogram mentions. -/
def ofSignature (inputs outputs : List ParamDecl) (result : Option TypeSpec) : List Mention :=
  (inputs ++ outputs).flatMap (fun decl => ofType false decl.datatype) ++
    result.toList.flatMap (ofType false)

end Mention

/-! ### Sightings -/

/-- The visibility at a place that may stand in the size of an array. -/
def Visibility.within (visibility : Visibility) (sized : Bool) : Visibility :=
  if sized then visibility.strengthen else visibility

lemma Visibility.strengthen_within (visibility : Visibility) (sized : Bool) :
    (visibility.within sized).strengthen = visibility.within true := by
  cases visibility <;> cases sized <;> rfl

/-- A mention in a member, and how much the part of the member reveals in which it stands. -/
structure Sighting where
  /-- The member. -/
  exposing : String
  visibility : Visibility
  mention : Mention

/-- What is seen in the parts of a member, which is exposed or not: the value of a variable
starts with everything, any other declaration with the name only, and a body that is not
evaluated during compilation reveals less. -/
def Member.sightings (exposed : Bool) : Member → List Sighting
  | .var decl => (Mention.ofVarDecl decl).map (⟨decl.name.id, .ofValue exposed, ·⟩)
  | .type ⟨name, .struct fields⟩ =>
    (fields.flatMap Mention.ofVarDecl).map (⟨name.id, .ofDeclaration exposed, ·⟩)
  | .type ⟨name, .newType datatype⟩ =>
    (Mention.ofType false datatype).map (⟨name.id, .ofDeclaration exposed, ·⟩)
  | .type ⟨_, .opaqueType⟩ => []
  | .subprogram decl =>
    (Mention.ofSignature decl.inputs decl.outputs decl.result).map
        (⟨decl.name.id, .ofDeclaration exposed, ·⟩) ++
      (Mention.ofStmts decl.body).map
        (⟨decl.name.id, if decl.compileTime then .ofDeclaration exposed
          else (Visibility.ofDeclaration exposed).weaken, ·⟩)
  | .prototype decl =>
    (Mention.ofSignature decl.inputs decl.outputs decl.result).map
      (⟨decl.name.id, .ofDeclaration exposed, ·⟩)

/-- What is seen in a unit, member by member. -/
def CompilationUnit.sightings (unit : CompilationUnit) : List Sighting :=
  unit.members.flatMap fun member => member.sightings (member.name.id ∈ unit.exposes)

/-! ### The walk follows what is mentioned -/

namespace Surroundings

variable (known : Surroundings) (visibility : Visibility) (exposing : String)

/-- What follows from a mention. -/
def follow (context : ExportContext) : Mention → ExportContext
  | .name kind first rest loc sized =>
    known.reference kind (visibility.within sized) exposing (first :: rest) loc context
  | .call callee captures => known.singletonCall callee captures context

lemma staticPaths_eq_foldl (sized : Bool) (paths : List StaticPath) (context : ExportContext) :
    known.staticPaths (visibility.within sized) exposing paths context =
      (paths.map (Mention.ofStatic sized)).foldl (known.follow visibility exposing) context := by
  rw [List.foldl_map]
  rfl

mutual

lemma type_eq_foldl (sized : Bool) : ∀ (datatype : TypeSpec) (context : ExportContext),
    known.type (visibility.within sized) exposing datatype context =
      (Mention.ofType sized datatype).foldl (known.follow visibility exposing) context
  | .bool, _ => rfl
  | .int _, _ => rfl
  | .nat _, _ => rfl
  | .bits _, _ => rfl
  | .float _, _ => rfl
  | .named _, _ => rfl
  | .array size element, context => by
      rw [type, Mention.ofType, List.foldl_append, Visibility.strengthen_within,
        expr_eq_foldl true size, type_eq_foldl sized element]
  | .slice element, context => by
      rw [type, Mention.ofType, type_eq_foldl sized element]

lemma access_eq_foldl (sized : Bool) : ∀ (step : Access) (context : ExportContext),
    known.access (visibility.within sized) exposing step context =
      (Mention.ofAccess sized step).foldl (known.follow visibility exposing) context
  | .field _, _ => rfl
  | .index index, context => by rw [access, Mention.ofAccess, expr_eq_foldl sized index]
  | .point _, _ => rfl

lemma accesses_eq_foldl (sized : Bool) : ∀ (steps : List Access) (context : ExportContext),
    known.accesses (visibility.within sized) exposing steps context =
      (Mention.ofAccesses sized steps).foldl (known.follow visibility exposing) context
  | [], _ => rfl
  | step :: more, context => by
      rw [accesses, Mention.ofAccesses, List.foldl_append, access_eq_foldl sized step,
        accesses_eq_foldl sized more]

lemma path_eq_foldl (sized : Bool) : ∀ (target : DynamicPath) (context : ExportContext),
    known.path (visibility.within sized) exposing target context =
      (Mention.ofPath sized target).foldl (known.follow visibility exposing) context
  | ⟨first, steps⟩, context => by
      rw [path, Mention.ofPath, List.foldl_cons, accesses_eq_foldl sized steps]
      rfl

lemma paths_eq_foldl (sized : Bool) : ∀ (targets : List DynamicPath) (context : ExportContext),
    known.paths (visibility.within sized) exposing targets context =
      (Mention.ofPaths sized targets).foldl (known.follow visibility exposing) context
  | [], _ => rfl
  | target :: more, context => by
      rw [paths, Mention.ofPaths, List.foldl_append, path_eq_foldl sized target,
        paths_eq_foldl sized more]

lemma call_eq_foldl (sized : Bool) : ∀ (target : Call) (context : ExportContext),
    known.call (visibility.within sized) exposing target context =
      (Mention.ofCall sized target).foldl (known.follow visibility exposing) context
  | ⟨callee, captures, inputs, outputs, _⟩, context => by
      rw [call, Mention.ofCall, List.foldl_append, List.foldl_cons, List.foldl_append,
        List.foldl_append, path_eq_foldl sized callee, staticPaths_eq_foldl,
        exprs_eq_foldl sized inputs, paths_eq_foldl sized outputs]
      rfl

lemma expr_eq_foldl (sized : Bool) : ∀ (value : Expr) (context : ExportContext),
    known.expr (visibility.within sized) exposing value context =
      (Mention.ofExpr sized value).foldl (known.follow visibility exposing) context
  | .literal _, _ => rfl
  | .path target, context => by rw [expr, Mention.ofExpr, path_eq_foldl sized target]
  | .prev target, context => by rw [expr, Mention.ofExpr, path_eq_foldl sized target]
  | .call target, context => by rw [expr, Mention.ofExpr, call_eq_foldl sized target]
  | .unary _ operand, context => by rw [expr, Mention.ofExpr, expr_eq_foldl sized operand]
  | .binary _ lhs rhs, context => by
      rw [expr, Mention.ofExpr, List.foldl_append, expr_eq_foldl sized lhs,
        expr_eq_foldl sized rhs]
  | .convert operand target, context => by
      rw [expr, Mention.ofExpr, List.foldl_append, expr_eq_foldl sized operand,
        type_eq_foldl sized target]
  | .array elements, context => by rw [expr, Mention.ofExpr, exprs_eq_foldl sized elements]
  | .struct none values, context => by rw [expr, Mention.ofExpr, fields_eq_foldl sized values]
  | .struct (some datatype) values, context => by
      rw [expr, Mention.ofExpr, List.foldl_append, type_eq_foldl sized datatype,
        fields_eq_foldl sized values]

lemma exprs_eq_foldl (sized : Bool) : ∀ (values : List Expr) (context : ExportContext),
    known.exprs (visibility.within sized) exposing values context =
      (Mention.ofExprs sized values).foldl (known.follow visibility exposing) context
  | [], _ => rfl
  | value :: more, context => by
      rw [exprs, Mention.ofExprs, List.foldl_append, expr_eq_foldl sized value,
        exprs_eq_foldl sized more]

lemma fields_eq_foldl (sized : Bool) : ∀ (values : List (Name × Expr)) (context : ExportContext),
    known.fields (visibility.within sized) exposing values context =
      (Mention.ofFields sized values).foldl (known.follow visibility exposing) context
  | [], _ => rfl
  | (_, value) :: more, context => by
      rw [fields, Mention.ofFields, List.foldl_append, expr_eq_foldl sized value,
        fields_eq_foldl sized more]

end

lemma type?_eq_foldl (datatype : Option TypeSpec) (context : ExportContext) :
    known.type? visibility exposing datatype context =
      (datatype.toList.flatMap (Mention.ofType false)).foldl (known.follow visibility exposing)
        context := by
  cases datatype with
  | none => rfl
  | some datatype =>
      rw [Option.toList_some, List.flatMap_singleton]
      exact type_eq_foldl known visibility exposing false datatype context

lemma expr?_eq_foldl (value : Option Expr) (context : ExportContext) :
    known.expr? visibility exposing value context =
      (value.toList.flatMap (Mention.ofExpr false)).foldl (known.follow visibility exposing)
        context := by
  cases value with
  | none => rfl
  | some value =>
      rw [Option.toList_some, List.flatMap_singleton]
      exact expr_eq_foldl known visibility exposing false value context

lemma path?_eq_foldl (target : Option DynamicPath) (context : ExportContext) :
    known.path? visibility exposing target context =
      (target.toList.flatMap (Mention.ofPath false)).foldl (known.follow visibility exposing)
        context := by
  cases target with
  | none => rfl
  | some target =>
      rw [Option.toList_some, List.flatMap_singleton]
      exact path_eq_foldl known visibility exposing false target context

lemma varDecl_eq_foldl (decl : VarDecl) (context : ExportContext) :
    known.varDecl visibility exposing decl context =
      (Mention.ofVarDecl decl).foldl (known.follow visibility exposing) context := by
  rw [varDecl, Mention.ofVarDecl, List.foldl_append, type?_eq_foldl, expr?_eq_foldl]

lemma varDecls_eq_foldl (decls : List VarDecl) (context : ExportContext) :
    known.varDecls visibility exposing decls context =
      (decls.flatMap Mention.ofVarDecl).foldl (known.follow visibility exposing) context := by
  rw [varDecls, List.foldl_flatMap]
  simp only [varDecl_eq_foldl]

lemma signature_eq_foldl (inputs outputs : List ParamDecl) (result : Option TypeSpec)
    (context : ExportContext) :
    known.signature visibility exposing inputs outputs result context =
      (Mention.ofSignature inputs outputs result).foldl (known.follow visibility exposing)
        context := by
  have hparams : ∀ (decls : List ParamDecl) (context : ExportContext),
      known.params visibility exposing decls context =
        (decls.flatMap fun decl => Mention.ofType false decl.datatype).foldl
          (known.follow visibility exposing) context := by
    intro decls context
    rw [params, List.foldl_flatMap]
    simp only [← type_eq_foldl]
    rfl
  rw [signature, Mention.ofSignature, List.foldl_append, List.flatMap_append,
    List.foldl_append, type?_eq_foldl, hparams, hparams]

mutual

lemma stmt_eq_foldl : ∀ (first : Stmt) (context : ExportContext),
    known.stmt visibility exposing first context =
      (Mention.ofStmt first).foldl (known.follow visibility exposing) context
  | .var decl, context => by rw [stmt, Mention.ofStmt, varDecl_eq_foldl]
  | .assign lhs rhs, context => by
      rw [stmt, Mention.ofStmt, List.foldl_append, ← expr_eq_foldl, ← path_eq_foldl]
      rfl
  | .call target, context => by
      rw [stmt, Mention.ofStmt, ← call_eq_foldl]
      rfl
  | .run receiver target, context => by
      rw [stmt, Mention.ofStmt, List.foldl_append, path?_eq_foldl, ← call_eq_foldl]
      rfl
  | .cond condition thenBranch elseBranch, context => by
      rw [stmt, Mention.ofStmt, List.foldl_append, List.foldl_append, ← expr_eq_foldl,
        stmts_eq_foldl thenBranch, stmts_eq_foldl elseBranch]
      rfl
  | .whileLoop condition body, context => by
      rw [stmt, Mention.ofStmt, List.foldl_append, ← expr_eq_foldl, stmts_eq_foldl body]
      rfl
  | .repeatLoop body condition, context => by
      rw [stmt, Mention.ofStmt, List.foldl_append, expr?_eq_foldl, stmts_eq_foldl body]
  | .await condition, context => by
      rw [stmt, Mention.ofStmt, ← expr_eq_foldl]
      rfl
  | .abort condition body, context => by
      rw [stmt, Mention.ofStmt, List.foldl_append, ← expr_eq_foldl, stmts_eq_foldl body]
      rfl
  | .cobegin branches, context => by rw [stmt, Mention.ofStmt, threads_eq_foldl branches]
  | .assertion condition, context => by
      rw [stmt, Mention.ofStmt, ← expr_eq_foldl]
      rfl
  | .ret value, context => by rw [stmt, Mention.ofStmt, expr?_eq_foldl]

lemma stmts_eq_foldl : ∀ (body : List Stmt) (context : ExportContext),
    known.stmts visibility exposing body context =
      (Mention.ofStmts body).foldl (known.follow visibility exposing) context
  | [], _ => rfl
  | first :: more, context => by
      rw [stmts, Mention.ofStmts, List.foldl_append, stmt_eq_foldl first, stmts_eq_foldl more]

lemma threads_eq_foldl : ∀ (branches : List (List Stmt)) (context : ExportContext),
    known.threads visibility exposing branches context =
      (Mention.ofThreads branches).foldl (known.follow visibility exposing) context
  | [], _ => rfl
  | thread :: more, context => by
      rw [threads, Mention.ofThreads, List.foldl_append, stmts_eq_foldl thread,
        threads_eq_foldl more]

end

/-- What follows from a sighting. -/
def see (context : ExportContext) (sighting : Sighting) : ExportContext :=
  known.follow sighting.visibility sighting.exposing context sighting.mention

/-- The walk through a member follows what is seen in it. -/
lemma member_eq_foldl (decl : Member) (context : ExportContext) :
    known.member context decl =
      (decl.sightings (known.symbols.isExposed decl.name.id)).foldl known.see context := by
  cases decl with
  | var decl =>
      rw [member, Member.sightings, List.foldl_map, varDecl_eq_foldl]
      rfl
  | type decl =>
      obtain ⟨name, kind⟩ := decl
      cases kind with
      | struct fields =>
          rw [member, Member.sightings, List.foldl_map, varDecls_eq_foldl]
          rfl
      | newType datatype =>
          rw [member, Member.sightings, List.foldl_map]
          exact type_eq_foldl known (known.declared name.id) name.id false datatype context
      | opaqueType => rfl
  | subprogram decl =>
      rw [member, Member.sightings, List.foldl_append, List.foldl_map, List.foldl_map,
        stmts_eq_foldl, signature_eq_foldl]
      rfl
  | prototype decl =>
      rw [member, Member.sightings, List.foldl_map, signature_eq_foldl]
      rfl

end Surroundings

/-- The walk through a unit follows what is seen in it. -/
lemma collectExports_eq_foldl (unit : CompilationUnit) (current : ModulePath) (facts : Facts)
    (internal : ModuleSet) :
    collectExports unit current (.ofUnit unit) facts internal =
      unit.sightings.foldl (Surroundings.see ⟨.ofUnit unit, facts, unit.isInternal⟩)
        (exportSeed unit current (.ofUnit unit) internal) := by
  rw [collectExports, CompilationUnit.sightings, List.foldl_flatMap]
  congr 1
  funext context member
  simp only [Surroundings.member_eq_foldl, SymbolTable.isExposed_ofUnit]

end BriskModules
