import BriskModules.Text.Pieces

/-!
Syntax trees of compilation units.

A compilation unit is what one source file holds: imports, the specification of a module
unless it is a program, and the declarations at top level, its members. Types, expressions
and access paths contain one another: the size of an array type is an expression, an
access path may be indexed by one, and an expression may convert to a type.

* `StaticPath.dotted` and `DynamicPath.staticPart` give the names by which declarations are
  known.
-/

namespace BriskModules

/-! ### Names and paths -/

/-- A place in a source file: line and column, both zero when unknown. -/
structure Loc where
  line : UInt64 := 0
  column : UInt64 := 0
deriving DecidableEq, Repr, Inhabited

/-- An occurrence of an identifier. -/
structure Name where
  id : String
  loc : Loc := {}
deriving DecidableEq, Repr, Inhabited

/-- A path known when compiling, such as `T`, `m.T` or `m.Colors.red`. -/
structure StaticPath where
  first : Name
  rest : List Name := []
deriving DecidableEq, Repr, Inhabited

namespace StaticPath

/-- The path written `a.b.c`, without places. -/
def ofDotted (text : String) : StaticPath :=
  match Text.cut '.' text with
  | first :: rest => ⟨⟨first, {}⟩, rest.map fun id => ⟨id, {}⟩⟩
  | [] => ⟨⟨text, {}⟩, []⟩

/-- The identifiers of a path. -/
def ids (path : StaticPath) : List String :=
  path.first.id :: path.rest.map (·.id)

/-- A path as text, with dots between its identifiers. -/
def dotted (path : StaticPath) : String :=
  Text.joined "." path.ids

end StaticPath

/-! ### Literals and operators -/

/-- A literal. -/
inductive Literal where
  | bool (value : Bool)
  | int (value : Int64)
  /-- A double, as its bits. -/
  | float (bits : UInt64)
  | bits (value : UInt64)
deriving DecidableEq, Repr

/-- An operator on one value. -/
inductive UnaryOp where
  | neg
  | not
  | bitNot
deriving DecidableEq, Repr

/-- An operator on two values. -/
inductive BinaryOp where
  | add
  | sub
  | mul
  | div
  | mod
  | and
  | or
  | eq
  | ne
  | lt
  | le
  | gt
  | ge
  | bitAnd
  | bitOr
  | bitXor
  | shl
  | shr
deriving DecidableEq, Repr

/-! ### Types and expressions -/

mutual

/-- A type. -/
inductive TypeSpec where
  | bool
  | int (width : UInt8)
  | nat (width : UInt8)
  | bits (width : UInt8)
  | float (width : UInt8)
  | named (path : StaticPath)
  /-- An array whose size is known when compiling. -/
  | array (size : Expr) (element : TypeSpec)
  | slice (element : TypeSpec)

/-- A step of a dynamic path. -/
inductive Access where
  /-- A field, or a member of a module. -/
  | field (name : Name)
  /-- An element of an array. -/
  | index (index : Expr)
  /-- An extension member, written behind a colon. -/
  | point (name : Name)

/-- A path known at run time, such as `x`, `x.f[i]`, `m.f` or `buf:reset`. -/
structure DynamicPath where
  first : Name
  accesses : List Access := []

/-- A call of a subprogram; `captures` are the singletons handed to a singleton. -/
structure Call where
  callee : DynamicPath
  captures : List StaticPath := []
  inputs : List Expr := []
  outputs : List DynamicPath := []
  loc : Loc := {}

/-- An expression. -/
inductive Expr where
  | literal (value : Literal)
  | path (path : DynamicPath)
  /-- The value of a path in the previous reaction. -/
  | prev (path : DynamicPath)
  | call (call : Call)
  | unary (op : UnaryOp) (operand : Expr)
  | binary (op : BinaryOp) (lhs rhs : Expr)
  | convert (expr : Expr) (target : TypeSpec)
  | array (elements : List Expr)
  | struct (datatype : Option TypeSpec) (fields : List (Name × Expr))

end

instance : Inhabited TypeSpec := ⟨.bool⟩

instance : Inhabited Expr := ⟨.array []⟩

namespace DynamicPath

/-- The path written `a.b.c`, without places. -/
def ofDotted (text : String) : DynamicPath :=
  match Text.cut '.' text with
  | first :: rest => ⟨⟨first, {}⟩, rest.map fun id => .field ⟨id, {}⟩⟩
  | [] => ⟨⟨text, {}⟩, []⟩

/-- The names of the fields before the first access that is no field. -/
def leadingFields : List Access → List String
  | .field name :: more => name.id :: leadingFields more
  | _ => []

/-- The first name and the fields right behind it, such as `m.f` for `m.f[i].g`. -/
def staticPart (path : DynamicPath) : List String :=
  path.first.id :: leadingFields path.accesses

end DynamicPath

namespace TypeSpec

/-- A type by its dotted name. -/
def ofDotted (text : String) : TypeSpec := .named (.ofDotted text)

end TypeSpec

namespace Call

/-- A call by the dotted name of its callee. -/
def ofDotted (callee : String) : Call := ⟨.ofDotted callee, [], [], [], {}⟩

/-- The same call with the captures of the given dotted names. -/
def withCaptures (call : Call) (captures : List String) : Call :=
  { call with captures := captures.map .ofDotted }

/-- The same call with other inputs. -/
def withInputs (call : Call) (inputs : List Expr) : Call :=
  { call with inputs := inputs }

end Call

namespace Expr

/-- An integer. -/
def int (value : Int64) : Expr := .literal (.int value)

/-- An access path by its dotted name. -/
def ofDotted (text : String) : Expr := .path (.ofDotted text)

end Expr

/-! ### Declarations and statements -/

/-- What may be done with a variable. -/
inductive Permission where
  | const
  | param
  | letOnce
  | var
deriving DecidableEq, Repr

/-- A declaration of a variable, a constant or a parameter. -/
structure VarDecl where
  name : Name
  permission : Permission
  datatype : Option TypeSpec := none
  init : Option Expr := none

/-- A statement. -/
inductive Stmt where
  | var (decl : VarDecl)
  | assign (lhs : DynamicPath) (rhs : Expr)
  | call (call : Call)
  /-- Running an activity, with or without a receiver of its result. -/
  | run (receiver : Option DynamicPath) (call : Call)
  | cond (condition : Expr) (thenBranch elseBranch : List Stmt)
  | whileLoop (condition : Expr) (body : List Stmt)
  | repeatLoop (body : List Stmt) (condition : Option Expr)
  | await (condition : Expr)
  | abort (condition : Expr) (body : List Stmt)
  | cobegin (threads : List (List Stmt))
  | assertion (condition : Expr)
  | ret (value : Option Expr)

/-- What a type is declared as. -/
inductive TypeDeclKind where
  | struct (fields : List VarDecl)
  | newType (datatype : TypeSpec)
  /-- Without any structure. -/
  | opaqueType

/-- A declaration of a type. -/
structure TypeDecl where
  name : Name
  kind : TypeDeclKind

/-- The two kinds of subprograms. -/
inductive SubprogramKind where
  | function
  | activity
deriving DecidableEq, Repr

/-- A parameter of a subprogram. -/
structure ParamDecl where
  name : Name
  datatype : TypeSpec

/-- A function or activity with a body. -/
structure SubprogramDecl where
  name : Name
  kind : SubprogramKind
  singleton : Bool := false
  /-- Evaluated during compilation only. -/
  compileTime : Bool := false
  inputs : List ParamDecl := []
  outputs : List ParamDecl := []
  result : Option TypeSpec := none
  body : List Stmt := []

/-- The signature of a subprogram that is implemented elsewhere. -/
structure PrototypeDecl where
  name : Name
  kind : SubprogramKind
  singleton : Bool := false
  inputs : List ParamDecl := []
  outputs : List ParamDecl := []
  result : Option TypeSpec := none

/-- A declaration at top level. -/
inductive Member where
  | var (decl : VarDecl)
  | type (decl : TypeDecl)
  | subprogram (decl : SubprogramDecl)
  | prototype (decl : PrototypeDecl)

namespace Member

/-- The name that a member declares. -/
def name : Member → Name
  | .var decl => decl.name
  | .type decl => decl.name
  | .subprogram decl => decl.name
  | .prototype decl => decl.name

/-- Whether a member declares a singleton. -/
def isSingleton : Member → Bool
  | .subprogram decl => decl.singleton
  | .prototype decl => decl.singleton
  | _ => false

/-- Whether a member declares a type. -/
def isType : Member → Bool
  | .type _ => true
  | _ => false

end Member

/-! ### Compilation units -/

/-- The specification of a module: what it exposes, and whether it is internal to its
package. -/
structure ModuleSpec where
  isInternal : Bool := false
  exposes : List Name := []
  loc : Loc := {}
deriving DecidableEq, Repr, Inhabited

/-- An import: a local name for the module at a path, and the names it exposes directly.
A whitebox import also sees what the module keeps internal. -/
structure Import where
  localName : Name
  path : String
  pathLoc : Loc := {}
  whitebox : Bool := false
  exposing : List Name := []
  loc : Loc := {}
deriving DecidableEq, Repr, Inhabited

/-- What one source file holds: a module, or a program if there is no specification. -/
structure CompilationUnit where
  imports : List Import := []
  spec : Option ModuleSpec := none
  members : List Member := []
deriving Inhabited

namespace CompilationUnit

/-- Whether a unit is a module. -/
def isModule (unit : CompilationUnit) : Bool := unit.spec.isSome

/-- Whether a unit is a program. -/
def isProgram (unit : CompilationUnit) : Bool := unit.spec.isNone

/-- Whether a unit is a module that is internal to its package. -/
def isInternal (unit : CompilationUnit) : Bool := unit.spec.any (·.isInternal)

/-- The names that a unit exposes. -/
def exposes (unit : CompilationUnit) : List String :=
  unit.spec.toList.flatMap fun spec => spec.exposes.map (·.id)

end CompilationUnit

end BriskModules
