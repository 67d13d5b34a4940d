import BriskModules.Json.Reader
import BriskModules.Syntax.Decoding

/-!
What the text of a syntax tree has to look like.

Each structure of the tree is a record and each type with alternatives a choice; the
fields of an alternative form a record of their own, titled with the names of the choice
and of the alternative.

* `CompilationUnit.ofText` reads a compilation unit from a text.
-/

namespace BriskModules.Syntax

open Json (Shape Variant Definition Schema)

/-- The records and choices of which syntax trees consist. -/
inductive Part where
  | loc
  | name
  | compilationUnit
  | moduleSpec
  | import
  | member
  | permission
  | varDecl
  | typeDeclKind
  | typeDecl
  | subprogramKind
  | paramDecl
  | subprogramDecl
  | prototypeDecl
  | typeSpec
  | typeSpecArray
  | staticPath
  | access
  | dynamicPath
  | literal
  | unaryOp
  | binaryOp
  | expr
  | exprUnary
  | exprBinary
  | exprConvert
  | exprStruct
  | call
  | stmt
  | stmtAssign
  | stmtRun
  | stmtIf
  | stmtWhile
  | stmtRepeat
  | stmtAbort
deriving DecidableEq, Repr

/-- A field that has to be there. -/
def required (name : String) (shape : Shape Part) : Json.Field Part :=
  ⟨name, shape, .required⟩

/-- A field that may be left out for its default. -/
def defaulted (name : String) (shape : Shape Part) : Json.Field Part :=
  ⟨name, shape, .defaulted⟩

/-- A field that may be null, and may be left out of an object. -/
def nullable (name : String) (shape : Shape Part) : Json.Field Part :=
  ⟨name, .option shape, .nullable⟩

/-- A part by its name. -/
def part (which : Part) : Shape Part := .named which

/-- A list of parts. -/
def parts (which : Part) : Shape Part := .list (.named which)

/-- A part that may be null. -/
def maybe (which : Part) : Shape Part := .option (.named which)

/-- A choice among bare names. -/
def names (names : List String) : Definition Part :=
  .choice (names.map fun name => ⟨name, .nothing⟩)

/-- An alternative that carries one value. -/
def carrying (name : String) (shape : Shape Part) : Variant Part := ⟨name, .value shape⟩

/-- An alternative that carries the fields of a record. -/
def withFields (name : String) (record : Part) : Variant Part := ⟨name, .fields record⟩

/-- What each part of a syntax tree looks like. -/
def schema : Schema Part
  | .loc =>
    .record "struct Loc" [required "line" (.integer .size), required "column" (.integer .size)]
  | .name => .record "struct Name" [required "id" .string, defaulted "loc" (part .loc)]
  | .compilationUnit =>
    .record "struct CompilationUnit"
      [defaulted "imports" (parts .import), defaulted "spec" (maybe .moduleSpec),
        defaulted "members" (parts .member)]
  | .moduleSpec =>
    .record "struct ModuleSpec"
      [defaulted "internal" .bool, defaulted "exposes" (parts .name),
        defaulted "loc" (part .loc)]
  | .import =>
    .record "struct Import"
      [required "local_name" (part .name), required "path" .string,
        defaulted "path_loc" (part .loc), defaulted "whitebox" .bool,
        defaulted "exposing" (parts .name), defaulted "loc" (part .loc)]
  | .member =>
    .choice
      [carrying "Var" (part .varDecl), carrying "Type" (part .typeDecl),
        carrying "Subprogram" (part .subprogramDecl), carrying "Prototype" (part .prototypeDecl)]
  | .permission => names ["Const", "Param", "Let", "Var"]
  | .varDecl =>
    .record "struct VarDecl"
      [required "name" (part .name), required "permission" (part .permission),
        defaulted "datatype" (maybe .typeSpec), defaulted "init" (maybe .expr)]
  | .typeDeclKind =>
    .choice
      [carrying "Struct" (parts .varDecl), carrying "NewType" (part .typeSpec),
        ⟨"Opaque", .nothing⟩]
  | .typeDecl =>
    .record "struct TypeDecl" [required "name" (part .name), required "kind" (part .typeDeclKind)]
  | .subprogramKind => names ["Function", "Activity"]
  | .paramDecl =>
    .record "struct ParamDecl" [required "name" (part .name), required "datatype" (part .typeSpec)]
  | .subprogramDecl =>
    .record "struct SubprogramDecl"
      [required "name" (part .name), required "kind" (part .subprogramKind),
        defaulted "singleton" .bool, defaulted "compile_time" .bool,
        defaulted "inputs" (parts .paramDecl), defaulted "outputs" (parts .paramDecl),
        defaulted "result" (maybe .typeSpec), defaulted "body" (parts .stmt)]
  | .prototypeDecl =>
    .record "struct PrototypeDecl"
      [required "name" (part .name), required "kind" (part .subprogramKind),
        defaulted "singleton" .bool, defaulted "inputs" (parts .paramDecl),
        defaulted "outputs" (parts .paramDecl), defaulted "result" (maybe .typeSpec)]
  | .typeSpec =>
    .choice
      [⟨"Bool", .nothing⟩, carrying "Int" (.integer .byte), carrying "Nat" (.integer .byte),
        carrying "Bits" (.integer .byte), carrying "Float" (.integer .byte),
        carrying "Named" (part .staticPath), withFields "Array" .typeSpecArray,
        carrying "Slice" (part .typeSpec)]
  | .typeSpecArray =>
    .record "struct variant TypeSpec::Array"
      [required "size" (part .expr), required "element" (part .typeSpec)]
  | .staticPath =>
    .record "struct StaticAccessPath"
      [required "first" (part .name), defaulted "rest" (parts .name)]
  | .access =>
    .choice
      [carrying "Field" (part .name), carrying "Index" (part .expr), carrying "Point" (part .name)]
  | .dynamicPath =>
    .record "struct DynamicAccessPath"
      [required "first" (part .name), defaulted "accesses" (parts .access)]
  | .literal =>
    .choice
      [carrying "Bool" .bool, carrying "Int" (.integer .signedWord), carrying "Float" .float,
        carrying "Bits" (.integer .word)]
  | .unaryOp => names ["Neg", "Not", "BitNot"]
  | .binaryOp =>
    names
      ["Add", "Sub", "Mul", "Div", "Mod", "And", "Or", "Eq", "Ne", "Lt", "Le", "Gt", "Ge",
        "BitAnd", "BitOr", "BitXor", "Shl", "Shr"]
  | .expr =>
    .choice
      [carrying "Literal" (part .literal), carrying "Path" (part .dynamicPath),
        carrying "Prev" (part .dynamicPath), carrying "Call" (part .call),
        withFields "Unary" .exprUnary, withFields "Binary" .exprBinary,
        withFields "Convert" .exprConvert, carrying "Array" (parts .expr),
        withFields "Struct" .exprStruct]
  | .exprUnary =>
    .record "struct variant Expr::Unary"
      [required "op" (part .unaryOp), required "operand" (part .expr)]
  | .exprBinary =>
    .record "struct variant Expr::Binary"
      [required "op" (part .binaryOp), required "lhs" (part .expr), required "rhs" (part .expr)]
  | .exprConvert =>
    .record "struct variant Expr::Convert"
      [required "expr" (part .expr), required "target" (part .typeSpec)]
  | .exprStruct =>
    .record "struct variant Expr::Struct"
      [nullable "datatype" (part .typeSpec),
        required "fields" (.list (.pair (part .name) (part .expr)))]
  | .call =>
    .record "struct Call"
      [required "callee" (part .dynamicPath), defaulted "captures" (parts .staticPath),
        defaulted "inputs" (parts .expr), defaulted "outputs" (parts .dynamicPath),
        defaulted "loc" (part .loc)]
  | .stmt =>
    .choice
      [carrying "Var" (part .varDecl), withFields "Assign" .stmtAssign,
        carrying "Call" (part .call), withFields "Run" .stmtRun, withFields "If" .stmtIf,
        withFields "While" .stmtWhile, withFields "Repeat" .stmtRepeat,
        carrying "Await" (part .expr), withFields "Abort" .stmtAbort,
        carrying "Cobegin" (.list (parts .stmt)), carrying "Assert" (part .expr),
        carrying "Return" (maybe .expr)]
  | .stmtAssign =>
    .record "struct variant Stmt::Assign"
      [required "lhs" (part .dynamicPath), required "rhs" (part .expr)]
  | .stmtRun =>
    .record "struct variant Stmt::Run"
      [nullable "receiver" (part .dynamicPath), required "call" (part .call)]
  | .stmtIf =>
    .record "struct variant Stmt::If"
      [required "cond" (part .expr), required "then_branch" (parts .stmt),
        required "else_branch" (parts .stmt)]
  | .stmtWhile =>
    .record "struct variant Stmt::While"
      [required "cond" (part .expr), required "body" (parts .stmt)]
  | .stmtRepeat =>
    .record "struct variant Stmt::Repeat"
      [required "body" (parts .stmt), nullable "until" (part .expr)]
  | .stmtAbort =>
    .record "struct variant Stmt::Abort"
      [required "cond" (part .expr), required "body" (parts .stmt)]

end BriskModules.Syntax

namespace BriskModules

/-- Reads a compilation unit from a text. -/
def CompilationUnit.ofText (text : String) : Except Json.Fault CompilationUnit :=
  Json.readAs Syntax.schema (.named .compilationUnit) ofJson? text

end BriskModules
