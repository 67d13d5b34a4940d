import BriskModules.File.Name

/-!
The arguments of the command line.

The first argument is a command. The rest are values and options: an option starts with
two hyphens and takes the next argument as its value, or the text behind an equals sign;
two hyphens alone end the options. Flags are options without a value. An option must not
be given twice.

* `Command.parse` reads the arguments.
-/

namespace BriskModules.CommandLine

/-- Where sources are, as far as the arguments say. -/
structure SourceArguments where
  manifest : Option FileName := none
  root : Option FileName := none
  sourcePath : Option String := none
  interfacePath : Option String := none
  package : Option String := none
deriving DecidableEq, Repr, Inhabited

/-- What is to be done. -/
inductive Command where
  /-- Check a file and everything it imports. -/
  | check (input : FileName) (sources : SourceArguments) (json : Bool)
  /-- Find the target of an import in a module. -/
  | resolve (importText : String) (fromModule : String)
  /-- Find the file of a module. -/
  | locate (moduleText : String) (sources : SourceArguments) (interface : Bool)
  /-- Tell the module path of a file. -/
  | name (input : FileName) (sources : SourceArguments)
deriving DecidableEq, Repr

/-- Why arguments cannot be understood. -/
inductive UsageError where
  | noCommand
  | unknownCommand (name : String)
  | unexpected (argument : String)
  | valueMissing (option : String)
  | repeated (option : String)
  | missing (what : String)
deriving DecidableEq, Repr

/-- An error in words. -/
def UsageError.message : UsageError → String
  | .noCommand => "a command is required: check, resolve, locate or name"
  | .unknownCommand name => "unrecognized subcommand '" ++ name ++ "'"
  | .unexpected argument => "unexpected argument '" ++ argument ++ "' found"
  | .valueMissing option => "a value is required for '--" ++ option ++ "' but none was supplied"
  | .repeated option => "the argument '--" ++ option ++ "' cannot be used multiple times"
  | .missing what => "the following required arguments were not provided: " ++ what

/-- Arguments sorted into values, options with a value, and flags. -/
structure Sorted where
  values : List String := []
  options : List (String × String) := []
  flags : List String := []
deriving DecidableEq, Repr

/-- The options and flags that a command knows. -/
structure Grammar where
  options : List String
  flags : List String
deriving DecidableEq, Repr

/-- The options that say where sources are. -/
def sourceOptions : List String :=
  ["manifest", "root", "source-path", "interface-path", "package"]

/-- The name of an option that starts with two hyphens, and its value if that follows an
equals sign. -/
def splitOption? (argument : String) : Option (String × Option String) :=
  match argument.toList with
  | '-' :: '-' :: rest =>
    let name := String.ofList (rest.takeWhile (· ≠ '='))
    match rest.dropWhile (· ≠ '=') with
    | [] => some (name, none)
    | _ :: value => some (name, some (String.ofList value))
  | _ => none

/-- Whether an argument is written like an option. -/
def isOptionLike (argument : String) : Bool :=
  match argument.toList with
  | '-' :: _ :: _ => true
  | _ => false

namespace Sorted

/-- Adds an option with its value. -/
def addOption (sorted : Sorted) (option value : String) : Except UsageError Sorted :=
  if (sorted.options.lookup option).isSome then .error (.repeated option)
  else .ok { sorted with options := sorted.options ++ [(option, value)] }

/-- Adds a flag. -/
def addFlag (sorted : Sorted) (flag : String) : Except UsageError Sorted :=
  if flag ∈ sorted.flags then .error (.repeated flag)
  else .ok { sorted with flags := sorted.flags ++ [flag] }

/-- Sorts arguments. -/
def ofArguments (grammar : Grammar) : List String → Sorted → Except UsageError Sorted
  | [], sorted => .ok sorted
  | "--" :: rest, sorted => .ok { sorted with values := sorted.values ++ rest }
  | argument :: rest, sorted =>
    match splitOption? argument with
    | some (name, given) =>
      if name ∈ grammar.options then
        match given with
        | some value => do ofArguments grammar rest (← sorted.addOption name value)
        | none =>
          match rest with
          | value :: more =>
            if isOptionLike value then .error (.valueMissing name)
            else do ofArguments grammar more (← sorted.addOption name value)
          | [] => .error (.valueMissing name)
      else if name ∈ grammar.flags ∧ given = none then do
        ofArguments grammar rest (← sorted.addFlag name)
      else .error (.unexpected argument)
    | none =>
      if isOptionLike argument then .error (.unexpected argument)
      else ofArguments grammar rest { sorted with values := sorted.values ++ [argument] }

/-- The only value there is to be. -/
def value (sorted : Sorted) (what : String) : Except UsageError String :=
  match sorted.values with
  | [] => .error (.missing what)
  | [value] => .ok value
  | _ :: extra :: _ => .error (.unexpected extra)

/-- Where sources are. -/
def sources (sorted : Sorted) : SourceArguments where
  manifest := (sorted.options.lookup "manifest").map FileName.mk
  root := (sorted.options.lookup "root").map FileName.mk
  sourcePath := sorted.options.lookup "source-path"
  interfacePath := sorted.options.lookup "interface-path"
  package := sorted.options.lookup "package"

end Sorted

/-- Reads the arguments of a command line. -/
def Command.parse : List String → Except UsageError Command
  | [] => .error .noCommand
  | "check" :: rest => do
    let sorted ← Sorted.ofArguments ⟨sourceOptions, ["json"]⟩ rest {}
    return .check ⟨← sorted.value "<FILE>"⟩ sorted.sources ("json" ∈ sorted.flags)
  | "resolve" :: rest => do
    let sorted ← Sorted.ofArguments ⟨["from"], []⟩ rest {}
    let importText ← sorted.value "<IMPORT>"
    match sorted.options.lookup "from" with
    | some fromModule => return .resolve importText fromModule
    | none => throw (.missing "--from <MODULE>")
  | "locate" :: rest => do
    let sorted ← Sorted.ofArguments ⟨sourceOptions, ["interface"]⟩ rest {}
    return .locate (← sorted.value "<MODULE>") sorted.sources ("interface" ∈ sorted.flags)
  | "name" :: rest => do
    let sorted ← Sorted.ofArguments ⟨sourceOptions, []⟩ rest {}
    return .name ⟨← sorted.value "<FILE>"⟩ sorted.sources
  | other :: _ => .error (.unknownCommand other)

end BriskModules.CommandLine
