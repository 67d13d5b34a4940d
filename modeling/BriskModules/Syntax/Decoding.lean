import BriskModules.Json.Basic
import BriskModules.Syntax.Tree

/-!
Syntax trees from JSON values.

Members of an object may come in any order; one that has a default may be left out, and so
may one that may be absent. Members with other names do not matter. Types and expressions
are decoded by recursion on how deep values may still be nested, which the value itself
bounds, and statements likewise.

* `CompilationUnit.ofJson?` decodes a compilation unit.
-/

namespace BriskModules

open Json (required? defaulted? option? list?)

/-! ### Names and paths -/

def Loc.ofJson? (value : Json) : Option Loc := do
  let members ← value.members?
  return ⟨← required? Json.word? members "line", ← required? Json.word? members "column"⟩

def Name.ofJson? (value : Json) : Option Name := do
  let members ← value.members?
  return ⟨← required? Json.string? members "id", ← defaulted? Loc.ofJson? {} members "loc"⟩

def StaticPath.ofJson? (value : Json) : Option StaticPath := do
  let members ← value.members?
  return ⟨← required? Name.ofJson? members "first",
    ← defaulted? (list? Name.ofJson?) [] members "rest"⟩

/-! ### Literals and operators -/

def Literal.ofJson? (value : Json) : Option Literal := do
  match ← value.alternative? with
  | ("Bool", some content) => return .bool (← content.bool?)
  | ("Int", some content) => return .int (← content.signedWord?)
  | ("Float", some content) => return .float (← content.double?)
  | ("Bits", some content) => return .bits (← content.word?)
  | _ => none

def UnaryOp.ofTag? : String → Option UnaryOp
  | "Neg" => some .neg
  | "Not" => some .not
  | "BitNot" => some .bitNot
  | _ => none

def BinaryOp.ofTag? : String → Option BinaryOp
  | "Add" => some .add
  | "Sub" => some .sub
  | "Mul" => some .mul
  | "Div" => some .div
  | "Mod" => some .mod
  | "And" => some .and
  | "Or" => some .or
  | "Eq" => some .eq
  | "Ne" => some .ne
  | "Lt" => some .lt
  | "Le" => some .le
  | "Gt" => some .gt
  | "Ge" => some .ge
  | "BitAnd" => some .bitAnd
  | "BitOr" => some .bitOr
  | "BitXor" => some .bitXor
  | "Shl" => some .shl
  | "Shr" => some .shr
  | _ => none

/-! ### Types and expressions -/

/-- How types and expressions are decoded inside of a value. -/
structure Decoders where
  type : Json → Option TypeSpec
  expr : Json → Option Expr

namespace Decoders

variable (inner : Decoders)

def access (value : Json) : Option Access := do
  match ← value.alternative? with
  | ("Field", some content) => return .field (← Name.ofJson? content)
  | ("Index", some content) => return .index (← inner.expr content)
  | ("Point", some content) => return .point (← Name.ofJson? content)
  | _ => none

def path (value : Json) : Option DynamicPath := do
  let members ← value.members?
  return ⟨← required? Name.ofJson? members "first",
    ← defaulted? (list? inner.access) [] members "accesses"⟩

def call (value : Json) : Option Call := do
  let members ← value.members?
  return ⟨← required? inner.path members "callee",
    ← defaulted? (list? StaticPath.ofJson?) [] members "captures",
    ← defaulted? (list? inner.expr) [] members "inputs",
    ← defaulted? (list? inner.path) [] members "outputs",
    ← defaulted? Loc.ofJson? {} members "loc"⟩

/-- A field of a structure with its value. -/
def field (value : Json) : Option (Name × Expr) := do
  match ← value.elements? with
  | [name, content] => return (← Name.ofJson? name, ← inner.expr content)
  | _ => none

/-- Decodes a type whose parts `inner` decodes. -/
def typeStep (value : Json) : Option TypeSpec := do
  match ← value.alternative? with
  | ("Bool", none) | ("Bool", some .null) => return .bool
  | ("Int", some content) => return .int (← content.byte?)
  | ("Nat", some content) => return .nat (← content.byte?)
  | ("Bits", some content) => return .bits (← content.byte?)
  | ("Float", some content) => return .float (← content.byte?)
  | ("Named", some content) => return .named (← StaticPath.ofJson? content)
  | ("Array", some content) =>
    let members ← content.members?
    return .array (← required? inner.expr members "size")
      (← required? inner.type members "element")
  | ("Slice", some content) => return .slice (← inner.type content)
  | _ => none

/-- Decodes an expression whose parts `inner` decodes. -/
def exprStep (value : Json) : Option Expr := do
  match ← value.alternative? with
  | ("Literal", some content) => return .literal (← Literal.ofJson? content)
  | ("Path", some content) => return .path (← inner.path content)
  | ("Prev", some content) => return .prev (← inner.path content)
  | ("Call", some content) => return .call (← inner.call content)
  | ("Unary", some content) =>
    let members ← content.members?
    return .unary (← required? (·.bare?.bind UnaryOp.ofTag?) members "op")
      (← required? inner.expr members "operand")
  | ("Binary", some content) =>
    let members ← content.members?
    return .binary (← required? (·.bare?.bind BinaryOp.ofTag?) members "op")
      (← required? inner.expr members "lhs") (← required? inner.expr members "rhs")
  | ("Convert", some content) =>
    let members ← content.members?
    return .convert (← required? inner.expr members "expr")
      (← required? inner.type members "target")
  | ("Array", some content) => return .array (← list? inner.expr content)
  | ("Struct", some content) =>
    let members ← content.members?
    return .struct (← defaulted? (option? inner.type) none members "datatype")
      (← required? (list? inner.field) members "fields")
  | _ => none

/-- The decoders of values nested at most `depth` deep. -/
def within : Nat → Decoders
  | 0 => ⟨fun _ => none, fun _ => none⟩
  | depth + 1 => ⟨(within depth).typeStep, (within depth).exprStep⟩

end Decoders

def TypeSpec.ofJson? (value : Json) : Option TypeSpec :=
  (Decoders.within value.depth).type value

def Expr.ofJson? (value : Json) : Option Expr :=
  (Decoders.within value.depth).expr value

def DynamicPath.ofJson? (value : Json) : Option DynamicPath :=
  (Decoders.within value.depth).path value

def Call.ofJson? (value : Json) : Option Call :=
  (Decoders.within value.depth).call value

/-! ### Declarations and statements -/

def Permission.ofTag? : String → Option Permission
  | "Const" => some .const
  | "Param" => some .param
  | "Let" => some .letOnce
  | "Var" => some .var
  | _ => none

def VarDecl.ofJson? (value : Json) : Option VarDecl := do
  let members ← value.members?
  return ⟨← required? Name.ofJson? members "name",
    ← required? (·.bare?.bind Permission.ofTag?) members "permission",
    ← defaulted? (option? TypeSpec.ofJson?) none members "datatype",
    ← defaulted? (option? Expr.ofJson?) none members "init"⟩

/-- Decodes a statement whose parts `inner` decodes. -/
def Stmt.decodeStep (inner : Json → Option Stmt) (value : Json) : Option Stmt := do
  match ← value.alternative? with
  | ("Var", some content) => return .var (← VarDecl.ofJson? content)
  | ("Assign", some content) =>
    let members ← content.members?
    return .assign (← required? DynamicPath.ofJson? members "lhs")
      (← required? Expr.ofJson? members "rhs")
  | ("Call", some content) => return .call (← Call.ofJson? content)
  | ("Run", some content) =>
    let members ← content.members?
    return .run (← defaulted? (option? DynamicPath.ofJson?) none members "receiver")
      (← required? Call.ofJson? members "call")
  | ("If", some content) =>
    let members ← content.members?
    return .cond (← required? Expr.ofJson? members "cond")
      (← required? (list? inner) members "then_branch")
      (← required? (list? inner) members "else_branch")
  | ("While", some content) =>
    let members ← content.members?
    return .whileLoop (← required? Expr.ofJson? members "cond")
      (← required? (list? inner) members "body")
  | ("Repeat", some content) =>
    let members ← content.members?
    return .repeatLoop (← required? (list? inner) members "body")
      (← defaulted? (option? Expr.ofJson?) none members "until")
  | ("Await", some content) => return .await (← Expr.ofJson? content)
  | ("Abort", some content) =>
    let members ← content.members?
    return .abort (← required? Expr.ofJson? members "cond")
      (← required? (list? inner) members "body")
  | ("Cobegin", some content) => return .cobegin (← list? (list? inner) content)
  | ("Assert", some content) => return .assertion (← Expr.ofJson? content)
  | ("Return", some content) => return .ret (← option? Expr.ofJson? content)
  | _ => none

/-- Decodes a statement nested at most `depth` deep. -/
def Stmt.decodeWithin : Nat → Json → Option Stmt
  | 0 => fun _ => none
  | depth + 1 => decodeStep (decodeWithin depth)

def Stmt.ofJson? (value : Json) : Option Stmt :=
  decodeWithin value.depth value

def TypeDeclKind.ofJson? (value : Json) : Option TypeDeclKind := do
  match ← value.alternative? with
  | ("Struct", some content) => return .struct (← list? VarDecl.ofJson? content)
  | ("NewType", some content) => return .newType (← TypeSpec.ofJson? content)
  | ("Opaque", none) | ("Opaque", some .null) => return .opaqueType
  | _ => none

def TypeDecl.ofJson? (value : Json) : Option TypeDecl := do
  let members ← value.members?
  return ⟨← required? Name.ofJson? members "name",
    ← required? TypeDeclKind.ofJson? members "kind"⟩

def SubprogramKind.ofTag? : String → Option SubprogramKind
  | "Function" => some .function
  | "Activity" => some .activity
  | _ => none

def ParamDecl.ofJson? (value : Json) : Option ParamDecl := do
  let members ← value.members?
  return ⟨← required? Name.ofJson? members "name",
    ← required? TypeSpec.ofJson? members "datatype"⟩

def SubprogramDecl.ofJson? (value : Json) : Option SubprogramDecl := do
  let members ← value.members?
  return ⟨← required? Name.ofJson? members "name",
    ← required? (·.bare?.bind SubprogramKind.ofTag?) members "kind",
    ← defaulted? Json.bool? false members "singleton",
    ← defaulted? Json.bool? false members "compile_time",
    ← defaulted? (list? ParamDecl.ofJson?) [] members "inputs",
    ← defaulted? (list? ParamDecl.ofJson?) [] members "outputs",
    ← defaulted? (option? TypeSpec.ofJson?) none members "result",
    ← defaulted? (list? Stmt.ofJson?) [] members "body"⟩

def PrototypeDecl.ofJson? (value : Json) : Option PrototypeDecl := do
  let members ← value.members?
  return ⟨← required? Name.ofJson? members "name",
    ← required? (·.bare?.bind SubprogramKind.ofTag?) members "kind",
    ← defaulted? Json.bool? false members "singleton",
    ← defaulted? (list? ParamDecl.ofJson?) [] members "inputs",
    ← defaulted? (list? ParamDecl.ofJson?) [] members "outputs",
    ← defaulted? (option? TypeSpec.ofJson?) none members "result"⟩

def Member.ofJson? (value : Json) : Option Member := do
  match ← value.alternative? with
  | ("Var", some content) => return .var (← VarDecl.ofJson? content)
  | ("Type", some content) => return .type (← TypeDecl.ofJson? content)
  | ("Subprogram", some content) => return .subprogram (← SubprogramDecl.ofJson? content)
  | ("Prototype", some content) => return .prototype (← PrototypeDecl.ofJson? content)
  | _ => none

/-! ### Compilation units -/

def ModuleSpec.ofJson? (value : Json) : Option ModuleSpec := do
  let members ← value.members?
  return ⟨← defaulted? Json.bool? false members "internal",
    ← defaulted? (list? Name.ofJson?) [] members "exposes",
    ← defaulted? Loc.ofJson? {} members "loc"⟩

def Import.ofJson? (value : Json) : Option Import := do
  let members ← value.members?
  return ⟨← required? Name.ofJson? members "local_name",
    ← required? Json.string? members "path",
    ← defaulted? Loc.ofJson? {} members "path_loc",
    ← defaulted? Json.bool? false members "whitebox",
    ← defaulted? (list? Name.ofJson?) [] members "exposing",
    ← defaulted? Loc.ofJson? {} members "loc"⟩

def CompilationUnit.ofJson? (value : Json) : Option CompilationUnit := do
  let members ← value.members?
  return ⟨← defaulted? (list? Import.ofJson?) [] members "imports",
    ← defaulted? (option? ModuleSpec.ofJson?) none members "spec",
    ← defaulted? (list? Member.ofJson?) [] members "members"⟩

end BriskModules
