import BriskModules.CommandLine.Arguments
import BriskModules.Diagnostic.Report
import BriskModules.Export.Encoding
import BriskModules.Graph.Compiler

/-!
The commands of the command line.

A command is a function of the file system and of the arguments. Its outcome is what it
writes and an exit code. When a command fails, what went wrong comes last on the error
stream, followed by the causes behind it.

* `run` does what the arguments say.
-/

namespace BriskModules.CommandLine

/-- What a command writes, and its exit code. -/
structure Outcome where
  exitCode : Nat := 0
  output : String := ""
  errors : String := ""
deriving DecidableEq, Repr, Inhabited

/-- Why a command failed, and what that was caused by. -/
structure Failure where
  message : String
  causes : List String := []
deriving DecidableEq, Repr

/-- A cause behind its label. Further lines are indented as far as the label reaches. -/
def labelled (label cause : String) : String :=
  label ++ Text.joined ("\n" ++ blanks label.length) (Text.cut '\n' cause) ++ "\n"

/-- Causes with their numbers, from `first` on. -/
def numbered (first : Nat) : List String → String
  | [] => ""
  | cause :: more =>
    labelled ("    " ++ toString first ++ ": ") cause ++ numbered (first + 1) more

/-- A failure in words. Several causes are numbered. -/
def Failure.text (failure : Failure) : String :=
  "Error: " ++ failure.message ++ "\n" ++
    match failure.causes with
    | [] => ""
    | [cause] => "\nCaused by:\n" ++ labelled (blanks 4) cause
    | causes => "\nCaused by:\n" ++ numbered 0 causes

/-- The outcome of a command that fails after it has written something. -/
def failing (failure : Failure) (output errors : String) : Outcome :=
  ⟨1, output, errors ++ failure.text⟩

/-- The outcome of a command that either fails or writes something. -/
def Outcome.ofExcept : Except Failure String → Outcome
  | .ok output => ⟨0, output, ""⟩
  | .error failure => failing failure "" ""

/-! ### Options -/

/-- The failure for options that cannot be had. -/
def optionsFailure (error : OptionsError) : Failure := ⟨error.message, error.causes⟩

namespace SourceArguments

/-- The manifest that is used: the given one, or the usual one if there is one. -/
def manifest? (sources : SourceArguments) (fs : Filesystem) : Option FileName :=
  sources.manifest.or (if fs.isFile manifestFile then some manifestFile else none)

/-- The options of a manifest, overridden by the arguments. A root alone is also what is
searched, unless there is a manifest. -/
def override (sources : SourceArguments) (hasManifest : Bool) (options : Options) : Options :=
  let rooted :=
    match sources.root with
    | some root =>
      { options with
        sourceRoot := root
        sourcePath :=
          if sources.sourcePath.isNone ∧ ¬ hasManifest then ⟨[root]⟩ else options.sourcePath }
    | none => options
  { rooted with
    sourcePath := (sources.sourcePath.map SearchPath.parse).getD rooted.sourcePath
    interfacePath := (sources.interfacePath.map SearchPath.parse).getD rooted.interfacePath }

/-- The options to work with. -/
def options (sources : SourceArguments) (fs : Filesystem) : Except OptionsError Options := do
  let manifest := sources.manifest? fs
  let base ←
    match manifest with
    | some file => Options.load fs file
    | none => pure {}
  let options := sources.override manifest.isSome base
  match sources.package with
  | some package => options.withPackage package
  | none => pure options

end SourceArguments

/-! ### Checking -/

/-- A required import in words. -/
def requiredLine (name : String) (owner : Option String) : String :=
  match owner with
  | some owner => "  " ++ name ++ " (from " ++ owner ++ ")\n"
  | none => "  " ++ name ++ "\n"

/-- A singleton in words. -/
def singletonLine (name : String) (signature : SingletonSignature) : String :=
  let usages := signature.usages.map fun captures => "[" ++ ", ".intercalate captures ++ "]"
  "singleton " ++ name ++ " " ++ signature.tag.text ++ ": " ++ " ".intercalate usages ++ "\n"

/-- What a module exports in words. -/
def exportsText (exports : ExportContext) : String :=
  "exports: " ++ ", ".intercalate exports.exportScope.toList ++ "\n" ++
    (if exports.requiredImports.isEmpty then ""
      else
        "required imports:\n" ++
          String.join (exports.requiredImports.toList.map fun (name, owner) =>
            requiredLine name owner)) ++
    (if exports.abstractTypes.isEmpty then ""
      else "opaque types: " ++ ", ".intercalate exports.abstractTypes.keys ++ "\n") ++
    String.join (exports.singletons.toList.map fun (name, signature) =>
      singletonLine name signature) ++
    (if exports.internalImports.isEmpty then ""
      else
        "internal imports: " ++
          ", ".intercalate (exports.internalImports.toList.map fun (name, kind) =>
            name ++ " (" ++ kind.text ++ ")") ++ "\n")

/-- What is written about a module that has been checked. -/
def checkedText (info : ModuleInfo Unit) (resolved : Nat) (json : Bool) : String :=
  if json then info.exports.toJson.pretty ++ "\n"
  else
    "✅ " ++ info.path.text ++ " (" ++ toString resolved ++ " module(s) resolved)\n" ++
      exportsText info.exports

/-- The text of a file, if it can be read. -/
def sourceOf (fs : Filesystem) (file : FileName) : Option String :=
  (fs.readText file).toOption

/-- What is written about a module that has errors. -/
def reportOutcome (fs : Filesystem) (colour json : Bool) (diagnostics : List Diagnostic) :
    Outcome :=
  let report := Report.extend {} diagnostics
  let failure : Failure :=
    ⟨"check failed with " ++ toString report.errorCount ++ " error(s)", []⟩
  if json then failing failure (report.toJson.compact ++ "\n") ""
  else
    failing failure "" (report.display colour (sourceOf fs) ++ report.summary colour)

/-- Checks a file and everything it imports. -/
def check (fs : Filesystem) (colour : Bool) (input : FileName) (options : Options)
    (json : Bool) : Outcome :=
  let compiler : Compiler Unit := ⟨options, .syntaxTrees⟩
  match (compiler.compileFile fs input).run .fresh with
  | none => failing ⟨"modules are nested too deep", []⟩ "" ""
  | some (.ok info, session) => ⟨0, checkedText info session.cache.size json, ""⟩
  | some (.error diagnostics, _) => reportOutcome fs colour json diagnostics

/-! ### The other commands -/

/-- The failure for a text that is no module path. -/
def modulePathFailure (text : String) (error : ModulePathError) : Failure :=
  ⟨"Invalid module path '" ++ text ++ "'",
    error.message ::
      match error with
      | .malformed fault => [fault.message]
      | .relative _ => []⟩

/-- The module path that an argument gives. -/
def modulePathArgument (text : String) : Except Failure ModulePath :=
  (ModulePath.parse text).mapError (modulePathFailure text)

/-- Finds the target of an import in a module. -/
def resolve (importText fromModule : String) : Except Failure String := do
  let current ← modulePathArgument fromModule
  match resolveImport current importText with
  | .ok target => return target.text ++ "\n"
  | .error error =>
    throw ⟨"Cannot resolve '" ++ importText ++ "' from " ++ current.text, [error.message]⟩

/-- The outcome for a module that was not found. -/
def notFound (path : ModulePath) (tried : List FileName) : Outcome :=
  failing ⟨"module " ++ path.text ++ " not found", []⟩ ""
    ("❌ Module " ++ path.text ++ " not found, tried:\n" ++
      String.join (tried.map fun file => "   " ++ file.text ++ "\n"))

/-- Finds the file of a module. -/
def locate (fs : Filesystem) (moduleText : String) (options : Options) (interface : Bool) :
    Outcome :=
  match modulePathArgument moduleText with
  | .error failure => failing failure "" ""
  | .ok path =>
    let found :=
      if interface then options.interfacePath.findInterface fs path
      else options.sourcePath.findImplementation fs path
    match found with
    | .ok file => ⟨0, file.text ++ "\n", ""⟩
    | .error tried => notFound path tried

/-- The names that go with a module path. -/
def namesText (path : ModulePath) : String :=
  path.text ++ "\n" ++
    "  implementation: " ++ path.implementationFile.text ++ "\n" ++
    "  interface:      " ++ path.interfaceFile.text ++ "\n" ++
    "  C source:       " ++ path.sourceFileC.text ++ "\n" ++
    "  C header:       " ++ path.headerFileC.text ++ "\n" ++
    "  C prefix:       " ++ path.prefixC ++ "\n"

/-- Tells the module path of a file. -/
def name (fs : Filesystem) (input : FileName) (options : Options) : Except Failure String :=
  match deriveModulePath fs input options.sourceRoot options.package with
  | .ok path => return namesText path
  | .error error => throw ⟨"Cannot name " ++ input.text, [error.message]⟩

/-! ### Commands -/

/-- Goes on with the options, or fails without them. -/
def withOptions (sources : SourceArguments) (fs : Filesystem) (next : Options → Outcome) :
    Outcome :=
  match sources.options fs with
  | .ok options => next options
  | .error error => failing (optionsFailure error) "" ""

/-- Does what a command says. -/
def Command.run (fs : Filesystem) (colour : Bool) : Command → Outcome
  | .check input sources json =>
    withOptions sources fs fun options => CommandLine.check fs colour input options json
  | .resolve importText fromModule => .ofExcept (CommandLine.resolve importText fromModule)
  | .locate moduleText sources interface =>
    withOptions sources fs fun options => CommandLine.locate fs moduleText options interface
  | .name input sources =>
    withOptions sources fs fun options => .ofExcept (CommandLine.name fs input options)

/-- Does what the arguments say, with or without colour. -/
def run (fs : Filesystem) (colour : Bool) (arguments : List String) : Outcome :=
  match Command.parse arguments with
  | .ok command => command.run fs colour
  | .error error => ⟨2, "", "error: " ++ error.message ++ "\n"⟩

end BriskModules.CommandLine
