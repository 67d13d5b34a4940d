import BriskModules.Json.Basic
import BriskModules.Syntax.Tree

/-!
Syntax trees as JSON values.

A structure is an object with all its fields. An alternative without content is its name
as a string, and one with content is an object with the name as its only member. Pairs are
arrays, and what is absent is null.
-/

namespace BriskModules

open Json (ofOption)

/-- An alternative with content. -/
def Json.tagged (tag : String) (content : Json) : Json := .object [(tag, content)]

/-- A word of 64 bits. -/
def Json.ofWord (word : UInt64) : Json := .int word.toNat

/-! ### Names and paths -/

def Loc.toJson (loc : Loc) : Json :=
  .object [("line", .ofWord loc.line), ("column", .ofWord loc.column)]

def Name.toJson (name : Name) : Json :=
  .object [("id", .string name.id), ("loc", name.loc.toJson)]

/-- Names as an array. -/
def Name.listToJson (names : List Name) : Json := .array (names.map toJson)

def StaticPath.toJson (path : StaticPath) : Json :=
  .object [("first", path.first.toJson), ("rest", Name.listToJson path.rest)]

/-! ### Literals and operators -/

def Literal.toJson : Literal → Json
  | .bool value => .tagged "Bool" (.bool value)
  | .int value => .tagged "Int" (.int value.toInt)
  | .float word => .tagged "Float" (.float word)
  | .bits value => .tagged "Bits" (.ofWord value)

/-- The name of an operator. -/
def UnaryOp.tag : UnaryOp → String
  | .neg => "Neg"
  | .not => "Not"
  | .bitNot => "BitNot"

/-- The name of an operator. -/
def BinaryOp.tag : BinaryOp → String
  | .add => "Add"
  | .sub => "Sub"
  | .mul => "Mul"
  | .div => "Div"
  | .mod => "Mod"
  | .and => "And"
  | .or => "Or"
  | .eq => "Eq"
  | .ne => "Ne"
  | .lt => "Lt"
  | .le => "Le"
  | .gt => "Gt"
  | .ge => "Ge"
  | .bitAnd => "BitAnd"
  | .bitOr => "BitOr"
  | .bitXor => "BitXor"
  | .shl => "Shl"
  | .shr => "Shr"

/-! ### Types and expressions -/

/-- A width in bits. -/
def Json.ofWidth (width : UInt8) : Json := .int width.toNat

mutual

def TypeSpec.toJson : TypeSpec → Json
  | .bool => .string "Bool"
  | .int width => .tagged "Int" (.ofWidth width)
  | .nat width => .tagged "Nat" (.ofWidth width)
  | .bits width => .tagged "Bits" (.ofWidth width)
  | .float width => .tagged "Float" (.ofWidth width)
  | .named path => .tagged "Named" path.toJson
  | .array size element =>
    .tagged "Array" (.object [("size", size.toJson), ("element", element.toJson)])
  | .slice element => .tagged "Slice" element.toJson

def Access.toJson : Access → Json
  | .field name => .tagged "Field" name.toJson
  | .index index => .tagged "Index" index.toJson
  | .point name => .tagged "Point" name.toJson

def Access.listToJson : List Access → List Json
  | [] => []
  | access :: more => access.toJson :: Access.listToJson more

def DynamicPath.toJson : DynamicPath → Json
  | ⟨first, accesses⟩ =>
    .object [("first", first.toJson), ("accesses", .array (Access.listToJson accesses))]

def DynamicPath.listToJson : List DynamicPath → List Json
  | [] => []
  | path :: more => path.toJson :: DynamicPath.listToJson more

def Call.toJson : Call → Json
  | ⟨callee, captures, inputs, outputs, loc⟩ =>
    .object [("callee", callee.toJson), ("captures", .array (captures.map StaticPath.toJson)),
      ("inputs", .array (Expr.listToJson inputs)),
      ("outputs", .array (DynamicPath.listToJson outputs)), ("loc", loc.toJson)]

def Expr.toJson : Expr → Json
  | .literal value => .tagged "Literal" value.toJson
  | .path target => .tagged "Path" target.toJson
  | .prev target => .tagged "Prev" target.toJson
  | .call target => .tagged "Call" target.toJson
  | .unary op operand =>
    .tagged "Unary" (.object [("op", .string op.tag), ("operand", operand.toJson)])
  | .binary op lhs rhs =>
    .tagged "Binary"
      (.object [("op", .string op.tag), ("lhs", lhs.toJson), ("rhs", rhs.toJson)])
  | .convert expr target =>
    .tagged "Convert" (.object [("expr", expr.toJson), ("target", target.toJson)])
  | .array elements => .tagged "Array" (.array (Expr.listToJson elements))
  | .struct none fields =>
    .tagged "Struct"
      (.object [("datatype", .null), ("fields", .array (Expr.fieldsToJson fields))])
  | .struct (some datatype) fields =>
    .tagged "Struct"
      (.object [("datatype", datatype.toJson), ("fields", .array (Expr.fieldsToJson fields))])

def Expr.listToJson : List Expr → List Json
  | [] => []
  | expr :: more => expr.toJson :: Expr.listToJson more

def Expr.fieldsToJson : List (Name × Expr) → List Json
  | [] => []
  | (name, value) :: more => .array [name.toJson, value.toJson] :: Expr.fieldsToJson more

end

/-! ### Declarations and statements -/

/-- The name of a permission. -/
def Permission.tag : Permission → String
  | .const => "Const"
  | .param => "Param"
  | .letOnce => "Let"
  | .var => "Var"

def VarDecl.toJson (decl : VarDecl) : Json :=
  .object [("name", decl.name.toJson), ("permission", .string decl.permission.tag),
    ("datatype", ofOption TypeSpec.toJson decl.datatype),
    ("init", ofOption Expr.toJson decl.init)]

mutual

def Stmt.toJson : Stmt → Json
  | .var decl => .tagged "Var" decl.toJson
  | .assign lhs rhs => .tagged "Assign" (.object [("lhs", lhs.toJson), ("rhs", rhs.toJson)])
  | .call target => .tagged "Call" target.toJson
  | .run receiver target =>
    .tagged "Run"
      (.object [("receiver", ofOption DynamicPath.toJson receiver), ("call", target.toJson)])
  | .cond condition thenBranch elseBranch =>
    .tagged "If"
      (.object [("cond", condition.toJson),
        ("then_branch", .array (Stmt.listToJson thenBranch)),
        ("else_branch", .array (Stmt.listToJson elseBranch))])
  | .whileLoop condition body =>
    .tagged "While"
      (.object [("cond", condition.toJson), ("body", .array (Stmt.listToJson body))])
  | .repeatLoop body condition =>
    .tagged "Repeat"
      (.object [("body", .array (Stmt.listToJson body)),
        ("until", ofOption Expr.toJson condition)])
  | .await condition => .tagged "Await" condition.toJson
  | .abort condition body =>
    .tagged "Abort"
      (.object [("cond", condition.toJson), ("body", .array (Stmt.listToJson body))])
  | .cobegin threads => .tagged "Cobegin" (.array (Stmt.threadsToJson threads))
  | .assertion condition => .tagged "Assert" condition.toJson
  | .ret value => .tagged "Return" (ofOption Expr.toJson value)

def Stmt.listToJson : List Stmt → List Json
  | [] => []
  | stmt :: more => stmt.toJson :: Stmt.listToJson more

def Stmt.threadsToJson : List (List Stmt) → List Json
  | [] => []
  | thread :: more => .array (Stmt.listToJson thread) :: Stmt.threadsToJson more

end

def TypeDeclKind.toJson : TypeDeclKind → Json
  | .struct fields => .tagged "Struct" (.array (fields.map VarDecl.toJson))
  | .newType datatype => .tagged "NewType" datatype.toJson
  | .opaqueType => .string "Opaque"

def TypeDecl.toJson (decl : TypeDecl) : Json :=
  .object [("name", decl.name.toJson), ("kind", decl.kind.toJson)]

/-- The name of a kind of subprograms. -/
def SubprogramKind.tag : SubprogramKind → String
  | .function => "Function"
  | .activity => "Activity"

def ParamDecl.toJson (decl : ParamDecl) : Json :=
  .object [("name", decl.name.toJson), ("datatype", decl.datatype.toJson)]

/-- Parameters as an array. -/
def ParamDecl.listToJson (decls : List ParamDecl) : Json := .array (decls.map toJson)

def SubprogramDecl.toJson (decl : SubprogramDecl) : Json :=
  .object [("name", decl.name.toJson), ("kind", .string decl.kind.tag),
    ("singleton", .bool decl.singleton), ("compile_time", .bool decl.compileTime),
    ("inputs", ParamDecl.listToJson decl.inputs),
    ("outputs", ParamDecl.listToJson decl.outputs),
    ("result", ofOption TypeSpec.toJson decl.result),
    ("body", .array (Stmt.listToJson decl.body))]

def PrototypeDecl.toJson (decl : PrototypeDecl) : Json :=
  .object [("name", decl.name.toJson), ("kind", .string decl.kind.tag),
    ("singleton", .bool decl.singleton), ("inputs", ParamDecl.listToJson decl.inputs),
    ("outputs", ParamDecl.listToJson decl.outputs),
    ("result", ofOption TypeSpec.toJson decl.result)]

def Member.toJson : Member → Json
  | .var decl => .tagged "Var" decl.toJson
  | .type decl => .tagged "Type" decl.toJson
  | .subprogram decl => .tagged "Subprogram" decl.toJson
  | .prototype decl => .tagged "Prototype" decl.toJson

/-! ### Compilation units -/

def ModuleSpec.toJson (spec : ModuleSpec) : Json :=
  .object [("internal", .bool spec.isInternal), ("exposes", Name.listToJson spec.exposes),
    ("loc", spec.loc.toJson)]

def Import.toJson (decl : Import) : Json :=
  .object [("local_name", decl.localName.toJson), ("path", .string decl.path),
    ("path_loc", decl.pathLoc.toJson), ("whitebox", .bool decl.whitebox),
    ("exposing", Name.listToJson decl.exposing), ("loc", decl.loc.toJson)]

def CompilationUnit.toJson (unit : CompilationUnit) : Json :=
  .object [("imports", .array (unit.imports.map Import.toJson)),
    ("spec", ofOption ModuleSpec.toJson unit.spec),
    ("members", .array (unit.members.map Member.toJson))]

end BriskModules
