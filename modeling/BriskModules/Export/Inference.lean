import BriskModules.Export.Context
import BriskModules.Export.Visibility
import BriskModules.Import.Resolution
import BriskModules.Symbol.Facts
import BriskModules.Symbol.Table

/-!
What a module exports, found out by a walk through its members.

Every name that is referred to in the syntax tree of a member is revealed more or less,
depending on whether the member is exposed and on the place of the reference. A walk
through all members in their order collects what follows from that: hidden types and
singletons that are revealed by name are exported by name, imported names that are
revealed are required by importers, and hidden names as well as names from internal
imports must not be revealed fully. Calls of singletons are collected whatever they
reveal.

* `inferExports` is the walk, from the exposed names of the unit to the finished context.
-/

namespace BriskModules

/-- How a name is referred to. -/
inductive ReferenceKind where
  | explicit
  /-- As an extension member, behind a colon. -/
  | implicit
deriving DecidableEq, Repr

/-- What is known around a walk: the names of the unit, the facts about names, and
whether the module is internal to its package. -/
structure Surroundings where
  symbols : SymbolTable
  facts : Facts
  isInternal : Bool

namespace Surroundings

variable (known : Surroundings)

/-! ### References -/

/-- Notes a name as required if it is imported. -/
def requireIfImported (name : String) (context : ExportContext) : ExportContext :=
  match known.symbols.importedAs? name with
  | some .wholeModule => context.requireImport name none
  | some (.member owner) => context.requireImport name (some owner)
  | none => context

/-- The error for a name that is revealed fully although it comes from an import that gives
access to internals. -/
def internalLeak? (exposing : String) (path : List String) (loc : Loc)
    (context : ExportContext) : Option ExportError := do
  if known.isInternal then none
  else
    let owner ← known.symbols.owner? (← path.head?)
    let name := known.symbols.declaringName path
    match ← context.internalImports[owner]? with
    | .transitive => return .internalModuleRequired name owner exposing loc
    | .whitebox => return .importInternalRequired name owner exposing loc

/-- Reports a leak of internals if there is one. -/
def checkInternalLeak (exposing : String) (path : List String) (loc : Loc)
    (context : ExportContext) : ExportContext :=
  match known.internalLeak? exposing path loc context with
  | some error => context.report error
  | none => context

/-- The error for a hidden name that is revealed fully. -/
def lessAccessible (kind : ReferenceKind) (name exposing : String) (loc : Loc) : ExportError :=
  match kind with
  | .explicit => .nameLessAccessible name exposing loc
  | .implicit => .implicitNameLessAccessible name exposing loc

/-- Whether a hidden name may be exported by name. -/
def mayStayOpaque (name : String) (context : ExportContext) : Bool :=
  known.facts.abstractTypes.contains name || context.isByNameSingleton name

/-- What follows from a reference to the declaration at the end of a path. -/
def reference (kind : ReferenceKind) (visibility : Visibility) (exposing : String)
    (path : List String) (loc : Loc) (context : ExportContext) : ExportContext :=
  match path with
  | [] => context
  | first :: _ =>
    match visibility with
    | .invisible => context
    | .semitransparent =>
      known.requireIfImported first <|
        if known.symbols.isHidden first && known.mayStayOpaque first context then
          context.exportName first
        else context
    | .transparent =>
      known.checkInternalLeak exposing path loc <|
        known.requireIfImported first <|
          if known.symbols.isHidden first then
            context.report
              (lessAccessible kind (known.symbols.declaringName path) exposing loc)
          else context

/-- What follows from a static path. -/
def staticPath (visibility : Visibility) (exposing : String) (path : StaticPath)
    (context : ExportContext) : ExportContext :=
  known.reference .explicit visibility exposing path.ids path.first.loc context

/-- What follows from several static paths. -/
def staticPaths (visibility : Visibility) (exposing : String) (paths : List StaticPath)
    (context : ExportContext) : ExportContext :=
  paths.foldl (fun context path => known.staticPath visibility exposing path context) context

/-- What follows from a call if the callee is a singleton: its identity has to reach the
place of the call, whatever that reveals. -/
def singletonCall (callee : List String) (captures : List (List String))
    (context : ExportContext) : ExportContext :=
  let key := Text.joined "." callee
  if known.facts.singletons.contains key then
    (known.requireIfImported (callee.headD "") context).recordUsage key
      (captures.map (Text.joined "."))
  else context

/-! ### Types and expressions -/

mutual

/-- What follows from a type. The size of an array is known when compiling. -/
def type (visibility : Visibility) (exposing : String) :
    TypeSpec → ExportContext → ExportContext
  | .bool, context => context
  | .int _, context => context
  | .nat _, context => context
  | .bits _, context => context
  | .float _, context => context
  | .named path, context => known.staticPath visibility exposing path context
  | .array size element, context =>
    type visibility exposing element (expr visibility.strengthen exposing size context)
  | .slice element, context => type visibility exposing element context

/-- What follows from a step of a path. -/
def access (visibility : Visibility) (exposing : String) :
    Access → ExportContext → ExportContext
  | .field _, context => context
  | .index index, context => expr visibility exposing index context
  | .point name, context =>
    known.reference .implicit visibility exposing [name.id] name.loc context

/-- What follows from several steps of a path. -/
def accesses (visibility : Visibility) (exposing : String) :
    List Access → ExportContext → ExportContext
  | [], context => context
  | step :: more, context =>
    accesses visibility exposing more (access visibility exposing step context)

/-- What follows from a dynamic path. -/
def path (visibility : Visibility) (exposing : String) :
    DynamicPath → ExportContext → ExportContext
  | ⟨first, steps⟩, context =>
    accesses visibility exposing steps
      (known.reference .explicit visibility exposing
        (DynamicPath.staticPart ⟨first, steps⟩) first.loc context)

/-- What follows from several dynamic paths. -/
def paths (visibility : Visibility) (exposing : String) :
    List DynamicPath → ExportContext → ExportContext
  | [], context => context
  | target :: more, context =>
    paths visibility exposing more (path visibility exposing target context)

/-- What follows from a call. -/
def call (visibility : Visibility) (exposing : String) :
    Call → ExportContext → ExportContext
  | ⟨callee, captures, inputs, outputs, _⟩, context =>
    paths visibility exposing outputs
      (exprs visibility exposing inputs
        (known.staticPaths visibility exposing captures
          (known.singletonCall callee.staticPart (captures.map StaticPath.ids)
            (path visibility exposing callee context))))

/-- What follows from an expression. -/
def expr (visibility : Visibility) (exposing : String) :
    Expr → ExportContext → ExportContext
  | .literal _, context => context
  | .path target, context => path visibility exposing target context
  | .prev target, context => path visibility exposing target context
  | .call target, context => call visibility exposing target context
  | .unary _ operand, context => expr visibility exposing operand context
  | .binary _ lhs rhs, context =>
    expr visibility exposing rhs (expr visibility exposing lhs context)
  | .convert operand target, context =>
    type visibility exposing target (expr visibility exposing operand context)
  | .array elements, context => exprs visibility exposing elements context
  | .struct none values, context => fields visibility exposing values context
  | .struct (some datatype) values, context =>
    fields visibility exposing values (type visibility exposing datatype context)

/-- What follows from several expressions. -/
def exprs (visibility : Visibility) (exposing : String) :
    List Expr → ExportContext → ExportContext
  | [], context => context
  | value :: more, context =>
    exprs visibility exposing more (expr visibility exposing value context)

/-- What follows from the fields of a structure. -/
def fields (visibility : Visibility) (exposing : String) :
    List (Name × Expr) → ExportContext → ExportContext
  | [], context => context
  | (_, value) :: more, context =>
    fields visibility exposing more (expr visibility exposing value context)

end

/-- What follows from a type that may be absent. -/
def type? (visibility : Visibility) (exposing : String) (datatype : Option TypeSpec)
    (context : ExportContext) : ExportContext :=
  match datatype with
  | some datatype => known.type visibility exposing datatype context
  | none => context

/-- What follows from an expression that may be absent. -/
def expr? (visibility : Visibility) (exposing : String) (value : Option Expr)
    (context : ExportContext) : ExportContext :=
  match value with
  | some value => known.expr visibility exposing value context
  | none => context

/-- What follows from a dynamic path that may be absent. -/
def path? (visibility : Visibility) (exposing : String) (target : Option DynamicPath)
    (context : ExportContext) : ExportContext :=
  match target with
  | some target => known.path visibility exposing target context
  | none => context

/-! ### Declarations and statements -/

/-- What follows from the declaration of a variable. -/
def varDecl (visibility : Visibility) (exposing : String) (decl : VarDecl)
    (context : ExportContext) : ExportContext :=
  known.expr? visibility exposing decl.init
    (known.type? visibility exposing decl.datatype context)

/-- What follows from several declarations of variables. -/
def varDecls (visibility : Visibility) (exposing : String) (decls : List VarDecl)
    (context : ExportContext) : ExportContext :=
  decls.foldl (fun context decl => known.varDecl visibility exposing decl context) context

mutual

/-- What follows from a statement. -/
def stmt (visibility : Visibility) (exposing : String) :
    Stmt → ExportContext → ExportContext
  | .var decl, context => known.varDecl visibility exposing decl context
  | .assign lhs rhs, context =>
    known.expr visibility exposing rhs (known.path visibility exposing lhs context)
  | .call target, context => known.call visibility exposing target context
  | .run receiver target, context =>
    known.call visibility exposing target (known.path? visibility exposing receiver context)
  | .cond condition thenBranch elseBranch, context =>
    stmts visibility exposing elseBranch
      (stmts visibility exposing thenBranch
        (known.expr visibility exposing condition context))
  | .whileLoop condition body, context =>
    stmts visibility exposing body (known.expr visibility exposing condition context)
  | .repeatLoop body condition, context =>
    known.expr? visibility exposing condition (stmts visibility exposing body context)
  | .await condition, context => known.expr visibility exposing condition context
  | .abort condition body, context =>
    stmts visibility exposing body (known.expr visibility exposing condition context)
  | .cobegin branches, context => threads visibility exposing branches context
  | .assertion condition, context => known.expr visibility exposing condition context
  | .ret value, context => known.expr? visibility exposing value context

/-- What follows from several statements. -/
def stmts (visibility : Visibility) (exposing : String) :
    List Stmt → ExportContext → ExportContext
  | [], context => context
  | first :: more, context =>
    stmts visibility exposing more (stmt visibility exposing first context)

/-- What follows from statements that run side by side. -/
def threads (visibility : Visibility) (exposing : String) :
    List (List Stmt) → ExportContext → ExportContext
  | [], context => context
  | thread :: more, context =>
    threads visibility exposing more (stmts visibility exposing thread context)

end

/-- What follows from the parameters of a subprogram. -/
def params (visibility : Visibility) (exposing : String) (decls : List ParamDecl)
    (context : ExportContext) : ExportContext :=
  decls.foldl (fun context decl => known.type visibility exposing decl.datatype context) context

/-- What follows from the signature of a subprogram. -/
def signature (visibility : Visibility) (exposing : String) (inputs outputs : List ParamDecl)
    (result : Option TypeSpec) (context : ExportContext) : ExportContext :=
  known.type? visibility exposing result
    (known.params visibility exposing outputs
      (known.params visibility exposing inputs context))

/-! ### Members -/

/-- Where the parts of a declaration other than a value start. -/
def declared (name : String) : Visibility := .ofDeclaration (known.symbols.isExposed name)

/-- The visibility in the body of a subprogram: only a body that is evaluated during
compilation reveals as much as the signature. -/
def bodyVisibility (decl : SubprogramDecl) : Visibility :=
  if decl.compileTime then known.declared decl.name.id
  else (known.declared decl.name.id).weaken

/-- What follows from a member. -/
def member (context : ExportContext) : Member → ExportContext
  | .var decl =>
    known.varDecl (.ofValue (known.symbols.isExposed decl.name.id)) decl.name.id decl context
  | .type ⟨name, .struct fields⟩ => known.varDecls (known.declared name.id) name.id fields context
  | .type ⟨name, .newType datatype⟩ =>
    known.type (known.declared name.id) name.id datatype context
  | .type ⟨_, .opaqueType⟩ => context
  | .subprogram decl =>
    known.stmts (known.bodyVisibility decl) decl.name.id decl.body
      (known.signature (known.declared decl.name.id) decl.name.id decl.inputs decl.outputs
        decl.result context)
  | .prototype decl =>
    known.signature (known.declared decl.name.id) decl.name.id decl.inputs decl.outputs
      decl.result context

end Surroundings

/-! ### The start of the walk -/

/-- The kind of internals that an import gives access to, if it does. -/
def Import.internalKind? (decl : Import) (current : ModulePath) (internal : ModuleSet) :
    Option InternalKind :=
  if decl.whitebox then some .whitebox
  else
    match resolveImport current decl.path with
    | .ok target => if internal.contains target then some .transitive else none
    | .error _ => none

/-- Notes which imports give access to internals. -/
def classifyImports (current : ModulePath) (internal : ModuleSet)
    (imports : List Import) (context : ExportContext) : ExportContext :=
  imports.foldl
    (fun context decl =>
      match decl.internalKind? current internal with
      | some kind => context.classifyImport decl.localName.id kind
      | none => context)
    context

/-- What is left of a type when its structure is withheld. -/
def Member.abstractKind? : Member → Option AbstractKind
  | .type ⟨_, .struct _⟩ => some .struct
  | .type ⟨_, .newType _⟩ => some .newType
  | .type ⟨_, .opaqueType⟩ => some .bare
  | _ => none

/-- Notes a singleton, and how much of it is exported. -/
def seedSingleton (member : Member) (exposed : Bool) (context : ExportContext) : ExportContext :=
  if member.isSingleton then
    context.declareSingleton member.name.id (if exposed then .translucent else .byName)
  else context

/-- Notes a type that is not exposed. -/
def seedAbstractType (member : Member) (exposed : Bool) (context : ExportContext) :
    ExportContext :=
  match member.abstractKind? with
  | some kind => if exposed then context else context.declareAbstractType member.name.id kind
  | none => context

/-- Notes a member by itself: an exposed name, a singleton, a type that is not exposed. -/
def seedMember (symbols : SymbolTable) (context : ExportContext) (member : Member) :
    ExportContext :=
  let exposed := symbols.isExposed member.name.id
  seedAbstractType member exposed <|
    seedSingleton member exposed <|
      if exposed then context.exportName member.name.id else context

/-- What is known before the walk. -/
def exportSeed (unit : CompilationUnit) (current : ModulePath) (symbols : SymbolTable)
    (internal : ModuleSet) : ExportContext :=
  unit.members.foldl (seedMember symbols)
    (classifyImports current internal unit.imports .empty)

/-- The context after the walk through all members. -/
def collectExports (unit : CompilationUnit) (current : ModulePath) (symbols : SymbolTable)
    (facts : Facts) (internal : ModuleSet) : ExportContext :=
  unit.members.foldl (Surroundings.member ⟨symbols, facts, unit.isInternal⟩)
    (exportSeed unit current symbols internal)

/-- What the unit exports as the module `current`, of whose imports the ones in `internal`
are internal modules. -/
def inferExports (unit : CompilationUnit) (current : ModulePath) (symbols : SymbolTable)
    (facts : Facts) (internal : ModuleSet) : Except (List ExportError) ExportContext :=
  (collectExports unit current symbols facts internal).finish

end BriskModules
