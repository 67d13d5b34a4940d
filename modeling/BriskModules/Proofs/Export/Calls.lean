import BriskModules.Proofs.Export.Mention

/-!
The calls in a unit, listed in the order in which a walk comes by them.

A call stands behind the calls in the indices of its callee, and before the calls in what is
handed over to it. The calls are listed as they stand in the syntax tree, whatever their
places reveal, and they are shown to be just the calls that the tree mentions.

* `Call.inType`, `Call.inExpr`, `Call.inCall`, `Call.inStmt`: the calls in a syntax tree;
* `CompilationUnit.calls`: all calls in a unit;
* `Call.key`: the name by which the callee of a call is known;
* `Call.site`: what a walk sees of a call;
* `CompilationUnit.filterMap_site?_sightings`: a walk through a unit sees its calls.
-/

namespace BriskModules

namespace Call

/-! ### The calls in a syntax tree -/

mutual

/-- The calls in a type, which stand in the sizes of arrays. -/
def inType : TypeSpec → List Call
  | .bool => []
  | .int _ => []
  | .nat _ => []
  | .bits _ => []
  | .float _ => []
  | .named _ => []
  | .array size element => inExpr size ++ inType element
  | .slice element => inType element

/-- The calls in a step of a path. -/
def inAccess : Access → List Call
  | .field _ => []
  | .index index => inExpr index
  | .point _ => []

/-- The calls in several steps of a path. -/
def inAccesses : List Access → List Call
  | [] => []
  | step :: more => inAccess step ++ inAccesses more

/-- The calls in a dynamic path, which stand in its indices. -/
def inPath : DynamicPath → List Call
  | ⟨_, steps⟩ => inAccesses steps

/-- The calls in several dynamic paths. -/
def inPaths : List DynamicPath → List Call
  | [] => []
  | path :: more => inPath path ++ inPaths more

/-- A call with the calls in it: those in the indices of the callee stand before it, and those
in what is handed over behind it. -/
def inCall : Call → List Call
  | ⟨callee, captures, inputs, outputs, loc⟩ =>
    inPath callee ++
      (⟨callee, captures, inputs, outputs, loc⟩ :: (inExprs inputs ++ inPaths outputs))

/-- The calls in an expression. -/
def inExpr : Expr → List Call
  | .literal _ => []
  | .path path => inPath path
  | .prev path => inPath path
  | .call target => inCall target
  | .unary _ operand => inExpr operand
  | .binary _ lhs rhs => inExpr lhs ++ inExpr rhs
  | .convert operand target => inExpr operand ++ inType target
  | .array elements => inExprs elements
  | .struct none values => inFields values
  | .struct (some datatype) values => inType datatype ++ inFields values

/-- The calls in several expressions. -/
def inExprs : List Expr → List Call
  | [] => []
  | value :: more => inExpr value ++ inExprs more

/-- The calls in the fields of a structure. -/
def inFields : List (Name × Expr) → List Call
  | [] => []
  | (_, value) :: more => inExpr value ++ inFields more

end

/-- The calls in the declaration of a variable. -/
def inVarDecl (decl : VarDecl) : List Call :=
  decl.datatype.toList.flatMap inType ++ decl.init.toList.flatMap inExpr

mutual

/-- The calls in a statement. -/
def inStmt : Stmt → List Call
  | .var decl => inVarDecl decl
  | .assign lhs rhs => inPath lhs ++ inExpr rhs
  | .call target => inCall target
  | .run receiver target => receiver.toList.flatMap inPath ++ inCall target
  | .cond condition thenBranch elseBranch =>
    inExpr condition ++ (inStmts thenBranch ++ inStmts elseBranch)
  | .whileLoop condition body => inExpr condition ++ inStmts body
  | .repeatLoop body condition => inStmts body ++ condition.toList.flatMap inExpr
  | .await condition => inExpr condition
  | .abort condition body => inExpr condition ++ inStmts body
  | .cobegin threads => inThreads threads
  | .assertion condition => inExpr condition
  | .ret value => value.toList.flatMap inExpr

/-- The calls in several statements. -/
def inStmts : List Stmt → List Call
  | [] => []
  | first :: more => inStmt first ++ inStmts more

/-- The calls in statements that run side by side. -/
def inThreads : List (List Stmt) → List Call
  | [] => []
  | thread :: more => inStmts thread ++ inThreads more

end

/-- The calls in the signature of a subprogram. -/
def inSignature (inputs outputs : List ParamDecl) (result : Option TypeSpec) : List Call :=
  (inputs ++ outputs).flatMap (fun decl => inType decl.datatype) ++ result.toList.flatMap inType

end Call

/-- The calls in a member. -/
def Member.calls : Member → List Call
  | .var decl => Call.inVarDecl decl
  | .type ⟨_, .struct fields⟩ => fields.flatMap Call.inVarDecl
  | .type ⟨_, .newType datatype⟩ => Call.inType datatype
  | .type ⟨_, .opaqueType⟩ => []
  | .subprogram decl =>
    Call.inSignature decl.inputs decl.outputs decl.result ++ Call.inStmts decl.body
  | .prototype decl => Call.inSignature decl.inputs decl.outputs decl.result

/-- The calls in a unit, in the order of the walk. -/
def CompilationUnit.calls (unit : CompilationUnit) : List Call :=
  unit.members.flatMap Member.calls

/-- The name by which the callee is known: the static part of its path. -/
def Call.key (call : Call) : String := Text.joined "." call.callee.staticPart

/-! ### What a walk sees of them -/

/-- What a walk sees of a call: the static part of the callee, and the captures. -/
abbrev CallSite := List String × List (List String)

/-- What a walk sees of a call. -/
def Call.site (call : Call) : CallSite :=
  (call.callee.staticPart, call.captures.map StaticPath.ids)

/-- The call that is mentioned, if one is. -/
def Mention.site? : Mention → Option CallSite
  | .name .. => none
  | .call callee captures => some (callee, captures)

/-- The call that is seen, if one is. -/
def Sighting.site? (sighting : Sighting) : Option CallSite := sighting.mention.site?

namespace Mention

lemma filterMap_site?_ofStatic (sized : Bool) (paths : List StaticPath) :
    (paths.map (ofStatic sized)).filterMap site? = [] := by
  rw [List.filterMap_map]
  exact List.filterMap_eq_nil_iff.mpr fun _ _ => rfl

mutual

lemma filterMap_site?_ofType (sized : Bool) : ∀ datatype : TypeSpec,
    (ofType sized datatype).filterMap site? = (Call.inType datatype).map Call.site
  | .bool => rfl
  | .int _ => rfl
  | .nat _ => rfl
  | .bits _ => rfl
  | .float _ => rfl
  | .named _ => rfl
  | .array size element => by
      rw [ofType, Call.inType, List.filterMap_append, List.map_append,
        filterMap_site?_ofExpr true size, filterMap_site?_ofType sized element]
  | .slice element => by
      rw [ofType, Call.inType, filterMap_site?_ofType sized element]

lemma filterMap_site?_ofAccess (sized : Bool) : ∀ step : Access,
    (ofAccess sized step).filterMap site? = (Call.inAccess step).map Call.site
  | .field _ => rfl
  | .index index => by rw [ofAccess, Call.inAccess, filterMap_site?_ofExpr sized index]
  | .point _ => rfl

lemma filterMap_site?_ofAccesses (sized : Bool) : ∀ steps : List Access,
    (ofAccesses sized steps).filterMap site? = (Call.inAccesses steps).map Call.site
  | [] => rfl
  | step :: more => by
      rw [ofAccesses, Call.inAccesses, List.filterMap_append, List.map_append,
        filterMap_site?_ofAccess sized step, filterMap_site?_ofAccesses sized more]

lemma filterMap_site?_ofPath (sized : Bool) : ∀ target : DynamicPath,
    (ofPath sized target).filterMap site? = (Call.inPath target).map Call.site
  | ⟨first, steps⟩ => by
      rw [ofPath, Call.inPath, List.filterMap_cons_none rfl, filterMap_site?_ofAccesses sized steps]

lemma filterMap_site?_ofPaths (sized : Bool) : ∀ targets : List DynamicPath,
    (ofPaths sized targets).filterMap site? = (Call.inPaths targets).map Call.site
  | [] => rfl
  | target :: more => by
      rw [ofPaths, Call.inPaths, List.filterMap_append, List.map_append,
        filterMap_site?_ofPath sized target, filterMap_site?_ofPaths sized more]

/-- Captures are static paths, so there is no call in them. -/
lemma filterMap_site?_ofCall (sized : Bool) : ∀ target : Call,
    (ofCall sized target).filterMap site? = (Call.inCall target).map Call.site
  | ⟨callee, captures, inputs, outputs, _⟩ => by
      have hsite : site? (.call callee.staticPart (captures.map StaticPath.ids)) =
          some (callee.staticPart, captures.map StaticPath.ids) := rfl
      rw [ofCall, Call.inCall, List.filterMap_append, List.filterMap_cons_some hsite,
        List.filterMap_append, List.filterMap_append, filterMap_site?_ofStatic, List.nil_append,
        filterMap_site?_ofPath sized callee, filterMap_site?_ofExprs sized inputs,
        filterMap_site?_ofPaths sized outputs, List.map_append, List.map_cons, List.map_append]
      rfl

lemma filterMap_site?_ofExpr (sized : Bool) : ∀ value : Expr,
    (ofExpr sized value).filterMap site? = (Call.inExpr value).map Call.site
  | .literal _ => rfl
  | .path target => by rw [ofExpr, Call.inExpr, filterMap_site?_ofPath sized target]
  | .prev target => by rw [ofExpr, Call.inExpr, filterMap_site?_ofPath sized target]
  | .call target => by rw [ofExpr, Call.inExpr, filterMap_site?_ofCall sized target]
  | .unary _ operand => by rw [ofExpr, Call.inExpr, filterMap_site?_ofExpr sized operand]
  | .binary _ lhs rhs => by
      rw [ofExpr, Call.inExpr, List.filterMap_append, List.map_append,
        filterMap_site?_ofExpr sized lhs, filterMap_site?_ofExpr sized rhs]
  | .convert operand target => by
      rw [ofExpr, Call.inExpr, List.filterMap_append, List.map_append,
        filterMap_site?_ofExpr sized operand, filterMap_site?_ofType sized target]
  | .array elements => by rw [ofExpr, Call.inExpr, filterMap_site?_ofExprs sized elements]
  | .struct none values => by rw [ofExpr, Call.inExpr, filterMap_site?_ofFields sized values]
  | .struct (some datatype) values => by
      rw [ofExpr, Call.inExpr, List.filterMap_append, List.map_append,
        filterMap_site?_ofType sized datatype, filterMap_site?_ofFields sized values]

lemma filterMap_site?_ofExprs (sized : Bool) : ∀ values : List Expr,
    (ofExprs sized values).filterMap site? = (Call.inExprs values).map Call.site
  | [] => rfl
  | value :: more => by
      rw [ofExprs, Call.inExprs, List.filterMap_append, List.map_append,
        filterMap_site?_ofExpr sized value, filterMap_site?_ofExprs sized more]

lemma filterMap_site?_ofFields (sized : Bool) : ∀ values : List (Name × Expr),
    (ofFields sized values).filterMap site? = (Call.inFields values).map Call.site
  | [] => rfl
  | (_, value) :: more => by
      rw [ofFields, Call.inFields, List.filterMap_append, List.map_append,
        filterMap_site?_ofExpr sized value, filterMap_site?_ofFields sized more]

end

/-- What holds of the parts of a tree holds of a list of such parts. -/
lemma filterMap_site?_flatMap {β : Type} (parts : List β) {mentions : β → List Mention}
    {calls : β → List Call}
    (h : ∀ part, (mentions part).filterMap site? = (calls part).map Call.site) :
    (parts.flatMap mentions).filterMap site? = (parts.flatMap calls).map Call.site := by
  rw [List.filterMap_flatMap, List.map_flatMap]
  simp only [h]

lemma filterMap_site?_ofVarDecl (decl : VarDecl) :
    (ofVarDecl decl).filterMap site? = (Call.inVarDecl decl).map Call.site := by
  rw [ofVarDecl, Call.inVarDecl, List.filterMap_append, List.map_append,
    filterMap_site?_flatMap _ (filterMap_site?_ofType false),
    filterMap_site?_flatMap _ (filterMap_site?_ofExpr false)]

lemma filterMap_site?_ofSignature (inputs outputs : List ParamDecl) (result : Option TypeSpec) :
    (ofSignature inputs outputs result).filterMap site? =
      (Call.inSignature inputs outputs result).map Call.site := by
  rw [ofSignature, Call.inSignature, List.filterMap_append, List.map_append,
    filterMap_site?_flatMap _ fun decl : ParamDecl => filterMap_site?_ofType false decl.datatype,
    filterMap_site?_flatMap _ (filterMap_site?_ofType false)]

mutual

lemma filterMap_site?_ofStmt : ∀ first : Stmt,
    (ofStmt first).filterMap site? = (Call.inStmt first).map Call.site
  | .var decl => by rw [ofStmt, Call.inStmt, filterMap_site?_ofVarDecl]
  | .assign lhs rhs => by
      rw [ofStmt, Call.inStmt, List.filterMap_append, List.map_append, filterMap_site?_ofPath,
        filterMap_site?_ofExpr]
  | .call target => by rw [ofStmt, Call.inStmt, filterMap_site?_ofCall]
  | .run receiver target => by
      rw [ofStmt, Call.inStmt, List.filterMap_append, List.map_append,
        filterMap_site?_flatMap _ (filterMap_site?_ofPath false), filterMap_site?_ofCall]
  | .cond condition thenBranch elseBranch => by
      rw [ofStmt, Call.inStmt, List.filterMap_append, List.filterMap_append, List.map_append,
        List.map_append, filterMap_site?_ofExpr, filterMap_site?_ofStmts thenBranch,
        filterMap_site?_ofStmts elseBranch]
  | .whileLoop condition body => by
      rw [ofStmt, Call.inStmt, List.filterMap_append, List.map_append, filterMap_site?_ofExpr,
        filterMap_site?_ofStmts body]
  | .repeatLoop body condition => by
      rw [ofStmt, Call.inStmt, List.filterMap_append, List.map_append,
        filterMap_site?_ofStmts body, filterMap_site?_flatMap _ (filterMap_site?_ofExpr false)]
  | .await condition => by rw [ofStmt, Call.inStmt, filterMap_site?_ofExpr]
  | .abort condition body => by
      rw [ofStmt, Call.inStmt, List.filterMap_append, List.map_append, filterMap_site?_ofExpr,
        filterMap_site?_ofStmts body]
  | .cobegin threads => by rw [ofStmt, Call.inStmt, filterMap_site?_ofThreads threads]
  | .assertion condition => by rw [ofStmt, Call.inStmt, filterMap_site?_ofExpr]
  | .ret value => by
      rw [ofStmt, Call.inStmt, filterMap_site?_flatMap _ (filterMap_site?_ofExpr false)]

lemma filterMap_site?_ofStmts : ∀ body : List Stmt,
    (ofStmts body).filterMap site? = (Call.inStmts body).map Call.site
  | [] => rfl
  | first :: more => by
      rw [ofStmts, Call.inStmts, List.filterMap_append, List.map_append,
        filterMap_site?_ofStmt first, filterMap_site?_ofStmts more]

lemma filterMap_site?_ofThreads : ∀ threads : List (List Stmt),
    (ofThreads threads).filterMap site? = (Call.inThreads threads).map Call.site
  | [] => rfl
  | thread :: more => by
      rw [ofThreads, Call.inThreads, List.filterMap_append, List.map_append,
        filterMap_site?_ofStmts thread, filterMap_site?_ofThreads more]

end

end Mention

/-- A call is seen in a member whether it is exposed or not. -/
lemma Member.filterMap_site?_sightings (member : Member) (exposed : Bool) :
    (member.sightings exposed).filterMap Sighting.site? = member.calls.map Call.site := by
  have hmap : ∀ (exposing : String) (visibility : Visibility) (mentions : List Mention),
      (mentions.map (Sighting.mk exposing visibility)).filterMap Sighting.site? =
        mentions.filterMap Mention.site? := by
    intro exposing visibility mentions
    rw [List.filterMap_map]
    rfl
  cases member with
  | var decl => rw [sightings, calls, hmap, Mention.filterMap_site?_ofVarDecl]
  | type decl =>
      obtain ⟨name, kind⟩ := decl
      cases kind with
      | struct fields =>
          rw [sightings, calls, hmap,
            Mention.filterMap_site?_flatMap _ Mention.filterMap_site?_ofVarDecl]
      | newType datatype => rw [sightings, calls, hmap, Mention.filterMap_site?_ofType]
      | opaqueType => rfl
  | subprogram decl =>
      rw [sightings, calls, List.filterMap_append, List.map_append, hmap, hmap,
        Mention.filterMap_site?_ofSignature, Mention.filterMap_site?_ofStmts]
  | prototype decl => rw [sightings, calls, hmap, Mention.filterMap_site?_ofSignature]

/-- **A walk sees all calls of a unit**, whatever their places reveal, and in their order. -/
lemma CompilationUnit.filterMap_site?_sightings (unit : CompilationUnit) :
    unit.sightings.filterMap Sighting.site? = unit.calls.map Call.site := by
  rw [sightings, calls, List.filterMap_flatMap, List.map_flatMap]
  simp only [Member.filterMap_site?_sightings]

end BriskModules
