/-
The command line as a program.

The commands work on a file system that is a value, so the program looks up what they may ask for,
carries the command out, and writes what it changed. It looks up the paths that have a name of
their own: the scaffold, the files a project is expected to have, the settings files and the
ledger. There is no connection to an engine, so a request ends with the reason for that.
-/
import Tablewright.Cli.Commands
import Tablewright.Engine.Client

set_option autoImplicit false

namespace Tablewright

namespace Program

/-! ## Looking up -/

/-- A location as the system takes it. -/
def systemPath (l : Location) : String := Text.toDisplayString l.text

/-- What stands at a location: a directory opens but cannot be read. -/
def lookUp (l : Location) : IO (Option Node) := do
  try
    let bytes ← IO.FS.readBinFile (systemPath l)
    return some (.file bytes.toList)
  catch
    | .inappropriateType .. => return some .directory
    | _ => return none

/-- A location and all that it lies in, outermost first. -/
def withParents (l : Location) : List Location :=
  (List.range l.length).map fun n => l.take (n + 1)

/-- What stands at locations and at all they lie in. -/
def treeOf (ls : List Location) : IO Tree := do
  let places := (ls.flatMap withParents).eraseDups
  let found ← places.filterMapM fun l => do
    return (← lookUp l).map fun node => (l, node)
  return ⟨found⟩

/-- A variable of the environment, if it is set. -/
def environmentValue? (name : Text) : IO (Option (Text × Text)) := do
  let value ← IO.getEnv (Text.toDisplayString name)
  return value.map fun v => (name, Text.ofString v)

/-- The text of a file, if it can be read. -/
def textOf? (l : Location) : IO (Option Text) := do
  match ← lookUp l with
  | some (.file bytes) => return bytes.text?
  | _ => return none

/-- The names of the variables with settings, in capitals. -/
def settingVariables : List Text :=
  ((({} : Settings).members).map fun m => m.1.map CodePoint.capital)

/-- The settings files and the environment. -/
def sources (workingDirectory : Location) : IO Settings.Sources := do
  return {
    environment := ← settingVariables.filterMapM environmentValue?
    file := ← textOf? (workingDirectory ++ [Text.ofString ".env"])
    localFile := ← textOf? (workingDirectory ++ [Text.ofString ".env.local"]) }

/-- The file of the ledger, if it has one. -/
def ledgerFile? (s : Settings) (root : Location) : Option Location :=
  match Address.ofText s.ledgerAddress with
  | .ok a => (a.file?.map Path.ofText).map fun path => path.startingAt root
  | .error _ => none

/-- The locations the commands ask for. -/
def knownPlaces (s : Settings) (root : Location) : List Location :=
  let paths := Scaffold.files.map (·.1) ++ Scaffold.directories ++ Cli.expectedFiles
    ++ Cli.generatedFiles.map (·.directory)
  paths.map (Cli.inProject root) ++ (ledgerFile? s root).toList

/-! ## Writing -/

/-- Write what a command made of a location. A new ledger is an empty file. -/
def store (before : Tree) (entry : Location × Node) : IO Unit := do
  let path := systemPath entry.1
  match Tree.find before.entries entry.1, entry.2 with
  | none, .directory => IO.FS.createDirAll path
  | none, .ledger _ => IO.FS.writeBinFile path (ByteArray.mk #[])
  | none, .file bytes => IO.FS.writeBinFile path (ByteArray.mk bytes.toArray)
  | some (.file old), .file bytes =>
    if old ≠ bytes then IO.FS.writeBinFile path (ByteArray.mk bytes.toArray)
  | _, _ => return ()

/-! ## Running -/

/-- The engine. Even with a key there is no connection to its service. -/
def engine (s : Settings) (environmentKey : Option Text) : Except Refusal Engine := do
  let limit := Duration.fractional s.stepTimeout
  let _ ← Client.create s.engineModel limit s.engineKey environmentKey
  throw (.engineUnavailable Client.connectionReason)

/-- Why a command failed, in a line. -/
def failureLine : Failure → Text
  | .refused r => "Error: " ++ r.message
  | .system e => "Error: " ++ e.message
  | .badValue v => "Error: " ++ v.message
  | .interrupted => "Interrupted"
  | .defect _ => "Error: the command could not be carried out"

/-- Print lines. -/
def printLines (stream : IO.FS.Stream) (lines : List Text) : IO Unit := do
  for line in lines do
    stream.putStrLn (Text.toDisplayString line)

/-- Carry out a command line with given settings. -/
def runWith (workingDirectory : Location) (s : Settings) (words : List Text) : IO UInt32 := do
  let environmentKey := (← environmentValue? "OPENAI_API_KEY").map (·.2)
  let surroundings : Surroundings := {
    workingDirectory
    settings := s
    engine := engine s environmentKey
    runId := []
    now := 0 }
  let before ← treeOf (knownPlaces s surroundings.root)
  let (result, t) := (Cli.run surroundings words).run ⟨⟨before, [], []⟩, [], []⟩
  t.world.tree.entries.forM (store before)
  printLines (← IO.getStdout) t.out
  printLines (← IO.getStderr) t.err
  match result with
  | .ok status => return UInt32.ofNat status
  | .error f =>
    printLines (← IO.getStderr) [failureLine f]
    return 1

/-- Carry out a command line. Settings that cannot be used are reported before it is read. -/
def run (words : List String) : IO UInt32 := do
  let workingDirectory := (Path.ofText (Text.ofString (toString (← IO.currentDir)))).names
  match Settings.ofSources (← sources workingDirectory) with
  | .ok s => runWith workingDirectory s (words.map Text.ofString)
  | .error problems =>
    printLines (← IO.getStderr) [settingsMessage problems]
    return 1

end Program

end Tablewright

/-- Carry out the command line. -/
def main (words : List String) : IO UInt32 := Tablewright.Program.run words
