import BriskModules.CommandLine.Run

/-!
The program: it takes a picture of the directories that a command line may lead to, does
what the arguments say, and writes the outcome.

Links are not followed, so that the picture is finite. Only files that may be sources or
manifests are read, and those that the arguments name.
-/

namespace BriskModules.Program

/-! ### The picture of the files -/

/-- Whether a file is read although no argument names it. -/
def isWanted (name : String) : Bool :=
  match (splitExtension name).2 with
  | some extension =>
    extension = implementationExtension || extension = interfaceExtension || extension = "json"
  | none => false

/-- A location as an absolute name. -/
def nameOf (location : Location) : String := "/" ++ Text.joined "/" location

/-- The content of the file under a name, if it may be opened. -/
def readContent (name : String) : IO Content := do
  try
    let bytes ← IO.FS.readBinFile name
    return match String.fromUTF8? bytes with
      | some text => .text text
      | none => .binary
  catch _ => return .denied

/-- What kind of entry is under a name, if there is one. -/
def fileType? (name : String) : IO (Option IO.FS.FileType) := do
  try
    return some (← ((← IO.currentDir) / name).symlinkMetadata).type
  catch _ => return none

/-- The names of the entries of the directory under a name, if it may be listed. -/
def entriesOf (name : String) : IO (List String) := do
  try
    return (← ((← IO.currentDir) / name).readDir).toList.map (·.fileName)
  catch _ => return []

/-- Adds a file. -/
def addFile (fs : Filesystem) (location : Location) (read : Bool) : IO Filesystem := do
  let name := nameOf location
  let content ← if read then readContent name else pure .binary
  return fs.write ⟨name⟩ content

/-- Adds what is at a location, with everything below it. -/
partial def addTree (fs : Filesystem) (location : Location) : IO Filesystem := do
  let name := nameOf location
  match ← fileType? name with
  | some .dir =>
    (← entriesOf name).foldlM (fun fs entry => addTree fs (location ++ [entry]))
      (fs.makeDirectory location)
  | some .file => addFile fs location (isWanted (location.getLast?.getD ""))
  | _ => return fs

/-- Adds what a name leads to, with everything below it. -/
def addName (fs : Filesystem) (file : FileName) : IO Filesystem := do
  let location := fs.destination file
  match ← fileType? (nameOf location) with
  | some .dir => addTree fs location
  | some .file => addFile fs location true
  | _ => return fs

/-- The directory to start from, as a location. -/
def startLocation : IO Location := do
  let name : FileName := ⟨toString (← IO.currentDir)⟩
  return (Filesystem.empty []).destination name

/-- The files that a command names. -/
def namedFiles : CommandLine.Command → List FileName
  | .check input sources _ | .name input sources =>
    input :: (sources.manifest.toList ++ sources.root.toList)
  | .locate _ sources _ => sources.manifest.toList ++ sources.root.toList
  | .resolve .. => []

/-- Where a command looks for files. -/
def sourcesOf? : CommandLine.Command → Option CommandLine.SourceArguments
  | .check _ sources _ | .name _ sources | .locate _ sources _ => some sources
  | .resolve .. => none

/-- The directories that the options of a command lead to. -/
def searchedDirs (fs : Filesystem) (command : CommandLine.Command) : List FileName :=
  match sourcesOf? command with
  | none => []
  | some sources =>
    match sources.options fs with
    | .ok options =>
      options.sourceRoot :: (options.sourcePath.dirs ++ options.interfacePath.dirs)
    | .error _ => []

/-- The files that a command may need. -/
def picture (command : CommandLine.Command) : IO Filesystem := do
  let start ← startLocation
  let here ← addTree (.empty start) start
  let named ← (namedFiles command).foldlM addName here
  (searchedDirs named command).foldlM addName named

/-! ### Colour -/

/-- What a variable of the environment says, if it is set: everything but zero is yes. -/
def isSet (value : Option String) : Option Bool := value.map (· ≠ "0")

/-- Whether the outcome is coloured: when that is forced, and otherwise, unless colour is
unwanted, on a terminal. -/
def wantsColour (forced unwanted usual : Option String) (terminal : Bool) : Bool :=
  if isSet forced = some true then true
  else if unwanted.isSome then false
  else (isSet usual).getD true && terminal

/-- Whether the outcome of this run is coloured. -/
def colour : IO Bool := do
  return wantsColour (← IO.getEnv "CLICOLOR_FORCE") (← IO.getEnv "NO_COLOR")
    (← IO.getEnv "CLICOLOR") (← (← IO.getStdout).isTty)

/-! ### The run -/

/-- The outcome of a command line. -/
def outcomeOf (arguments : List String) : IO CommandLine.Outcome := do
  match CommandLine.Command.parse arguments with
  | .ok command => return command.run (← picture command) (← colour)
  | .error _ => return CommandLine.run (.empty []) false arguments

end BriskModules.Program

/-- Runs the program. -/
def main (arguments : List String) : IO UInt32 := do
  let outcome ← BriskModules.Program.outcomeOf arguments
  (← IO.getStdout).putStr outcome.output
  (← IO.getStderr).putStr outcome.errors
  return .ofNat outcome.exitCode
