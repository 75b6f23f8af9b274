/-
The three commands: creating the scaffold of a project, carrying out a request, and showing the
state of a project.

A command prints lines and ends with an exit status. What it printed stays printed when it fails.
A request that was carried out is recorded in the ledger; a ledger that cannot be used only spoils
the recording.
-/
import Tablewright.Artifact.Scaffold
import Tablewright.Calendar.Moment
import Tablewright.Cli.Arguments
import Tablewright.Cli.Progress
import Tablewright.Ledger.Store
import Tablewright.Log.Layout
import Tablewright.Run.Loop
import Tablewright.Settings.Basic

set_option autoImplicit false

namespace Tablewright

/-! ## What a command sees -/

/-- The world of a command, and what it printed. -/
structure Terminal where
  /-- Files and processes. -/
  world : World
  /-- The lines printed. -/
  out : List Text
  /-- The lines printed about errors. -/
  err : List Text

/-- A command under way. -/
abbrev CliAction (α : Type) := ExceptT Failure (StateM Terminal) α

/-- What a command is given from outside. -/
structure Surroundings where
  /-- The directory the program was started in. -/
  workingDirectory : Location
  /-- The settings. -/
  settings : Settings
  /-- The reasoning engine, or why there is none. -/
  engine : Except Refusal Engine
  /-- The id of the next run. -/
  runId : Text
  /-- The second in which the next run is recorded. -/
  now : Int
  /-- The microseconds after that second. -/
  nowMicrosecond : Microsecond := .zero

namespace Surroundings

/-- The directory of the project. -/
def root (s : Surroundings) : Location :=
  (Path.ofText s.settings.projectRoot).startingAt s.workingDirectory

/-- How runs are carried out. -/
def runConfig (s : Surroundings) (dryRun : Bool) (budget : Option Int) : RunConfig where
  root := s.root
  budget := budget.getD s.settings.stepBudget
  limit := some (.fractional s.settings.stepTimeout)
  maxObservation := s.settings.maxObservation
  dryRun
  generateCommand := s.settings.generateCommand
  labelFlag := s.settings.labelFlag
  applyCommand := s.settings.applyCommand

end Surroundings

namespace CliAction

/-- A command by what it does to a terminal. -/
def ofFunction {α : Type} (f : Terminal → Except Failure α × Terminal) : CliAction α := f

/-- Print a line. Standard output is encoded strictly: a line with a lone surrogate raises an error
before any of it is printed, and nothing on the way out of a command catches it. -/
def print (line : Text) : CliAction Unit :=
  ofFunction fun t =>
    if line.isEncodable then (.ok (), { t with out := t.out ++ [line] })
    else (.error (.defect .unencodable), t)

/-- Print a line about an error. Standard error escapes what it cannot encode. -/
def printError (line : Text) : CliAction Unit :=
  modify fun t => { t with err := t.err ++ [line] }

/-- An operation on files and processes. -/
def onWorld {α : Type} (a : Action α) : CliAction α :=
  ofFunction fun t => let (r, w) := a.run t.world; (r, { t with world := w })

/-- An operation on files. -/
def onFiles {α : Type} (a : FileAction α) : CliAction α := onWorld (Action.onFiles a)

/-- A command of which the failures that satisfy a test do not matter. -/
def forgiving (test : Failure → Bool) (a : CliAction Unit) : CliAction Unit :=
  ofFunction fun t =>
    match a.run t with
    | (.error f, u) => (if test f then .ok () else .error f, u)
    | done => done

/-- A command for every item, one after another. -/
def forEach {α : Type} (act : α → CliAction Unit) : List α → CliAction Unit
  | [] => return ()
  | a :: r => do
    act a
    forEach act r

/-- Print lines, up to the first that cannot be printed. -/
def printAll (lines : List Text) : CliAction Unit := forEach print lines

end CliAction

open CliAction

/-- The exit status of a command. -/
abbrev ExitStatus := Nat

namespace Cli

/-- A path inside the project. -/
def inProject (root : Location) (path : Text) : Location := (Path.ofText path).startingAt root

/-! ## Creating the scaffold -/

/-- Create one file of the scaffold, unless something is there. What is asked is the path as it is
spelled, what is written is where it leads. -/
def createFile (root : Location) (file : Text × Text) : CliAction Unit := do
  if ← onFiles (FileAction.ask (·.doesExist (inProject root file.1))) then
    print ("  skipped  " ++ file.1 ++ " (exists)")
  else
    let _ ← onFiles (Project.write root file.1 file.2)
    print ("  created  " ++ file.1)

/-- Create one directory of the scaffold, unless it is there. -/
def createDirectory (root : Location) (path : Text) : CliAction Unit := do
  onFiles (FileAction.makeDirectory (inProject root path))
  print ("  ensured  " ++ path ++ "/")

/-- What to do after the scaffold is there. -/
def nextHint : Text :=
  "Next: set ENGINE_API_KEY in .env, then run `schemapilot query \"<what to store>\"`."

/-- Create what is missing of the scaffold (`cmd_init`). The files come first, each with the
directories above it; the directories of the scaffold are made afterwards. -/
def createScaffold (root : Location) : CliAction ExitStatus := do
  forEach (createFile root) Scaffold.files
  forEach (createDirectory root) Scaffold.directories
  printAll [[], nextHint]
  return 0

/-! ## Carrying out a request -/

/-- The line of a step: its number, whether it succeeded, its tool and the first line of what came
of it. -/
def stepLine (s : Step) : Text :=
  "  " ++ (Text.ofNat s.number).padLeft 2 ++ ". " ++ ProgressTable.mark s.ok ++ " "
    ++ s.tool.display ++ ": " ++ s.output.firstLine

/-- What a status means for the user. -/
def advice : RunStatus → Text
  | .completed => "All entities completed."
  | .budgetExhausted => "Step budget exhausted; completed stages were kept. Re-run to continue."
  | .cancelled => "Cancelled; files already written were kept."
  | .needsClarification => "No entities found. Please describe what data should be stored."

/-- How many steps are not shown unless asked for. -/
def quietSteps : Nat := 3

/-- The final answer, if there is one. -/
def answerLines (r : RunReport) : List Text :=
  if Text.isGiven r.finalAnswer then [Text.orEmpty r.finalAnswer, []] else []

/-- The steps, if they are many or asked for. -/
def stepLines (r : RunReport) (verbose : Bool) : List Text :=
  if verbose || quietSteps < r.stepsUsed then
    ("Steps (" ++ Text.ofNat r.stepsUsed ++ "/" ++ Text.ofInt r.budget ++ "):")
      :: (r.steps.map stepLine ++ [[]])
  else []

/-- How the run ended. -/
def statusLine (r : RunReport) : Text :=
  let remark : Text := if r.dryRun then " (dry run, nothing written)" else ([] : Text)
  "Status: " ++ r.status.label ++ remark ++ ". " ++ advice r.status

/-- A report in lines (`print_report`). -/
def reportLines (r : RunReport) (verbose : Bool) : List Text :=
  let table : List Text := "Progress:" :: ProgressTable.lines r.progressRows
  answerLines r ++ stepLines r verbose ++ table ++ [[], statusLine r]

/-- Failures of a ledger that only spoil the recording of a run. -/
def isLedgerFailure : Failure → Bool
  | .defect .duplicateRun | .defect .ledgerUnavailable | .defect .notALedger
  | .defect .badAddress | .defect .unknownDatabase => true
  | _ => false

/-- The ledger of the project. -/
def connectLedger (s : Surroundings) : CliAction Ledger := do
  let url ← onFiles (FileAction.look (anchoredAddress · s.root s.settings.ledgerAddress))
  onFiles (Ledger.connect s.workingDirectory url)

/-- Record a run in the ledger of the project. -/
def recordRun (s : Surroundings) (r : RunReport) : CliAction Unit := do
  let ledger ← connectLedger s
  let _ ← onFiles (ledger.record (r.toRecord s.now s.nowMicrosecond))

/-- The exit status when there is no engine. -/
def noEngineStatus : ExitStatus := 2

/-- Carry out a request, print the report and record the run (`cmd_query`). The report is printed
before the ledger is touched, so a ledger that fails does not hide it. -/
def query (s : Surroundings) (request : Text) (verbose dryRun : Bool) (budget : Option Int) :
    CliAction ExitStatus := do
  match s.engine with
  | .error r =>
    printError ("Error: " ++ r.message)
    return noEngineStatus
  | .ok engine =>
    let (report, _) ← onWorld (Run.perform (s.runConfig dryRun budget) engine s.runId request)
    printAll (reportLines report verbose)
    forgiving isLedgerFailure (recordRun s report)
    return if report.isComplete then 0 else 1

/-! ## Showing the state of a project -/

/-- What a project is expected to have besides its scaffold. -/
def expectedFiles : List Text := ["alembic.ini"]

/-- The line of an expected path. -/
def structureLine (t : Tree) (root : Location) (path : Text) : Except SystemError Text := do
  let found ← t.doesExist (inProject root path)
  return "  " ++ ProgressTable.mark found ++ " " ++ path

/-- Print whether an expected path is there. -/
def printStructure (root : Location) (path : Text) : CliAction Unit := do
  print (← onFiles (FileAction.ask (structureLine · root path)))

/-- The last run in lines. -/
def lastRunLines : Option RunRecord → List Text
  | none => ["No runs recorded yet."]
  | some r =>
    ["Last run (" ++ Moment.minuteText r.createdAt ++ "): " ++ r.status.label ++ ", "
        ++ Text.ofNat r.stepsUsed ++ "/" ++ Text.ofInt r.budget ++ " steps",
      "  request: " ++ r.request] ++ ProgressTable.lines r.progress

/-- A kind of generated files: its title, its directory and how the names of its files end. -/
structure GeneratedFiles where
  /-- The title. -/
  title : Text
  /-- The directory. -/
  directory : Text
  /-- How the names end. -/
  ending : Text

/-- The kinds of generated files that are listed. -/
def generatedFiles : List GeneratedFiles := [
    ⟨"Schemas", "app/models", ".py"⟩, ⟨"Endpoints", "app/api", ".py"⟩, ⟨"Hooks", "src/hooks", ".ts"⟩]

/-- The file that makes a directory a package, which is never listed. -/
def packageFile : Text := "__init__.py"

/-- The names in a directory that end in a given way, sorted. -/
def namesEnding (t : Tree) (l : Location) (ending : Text) : Except SystemError (List Text) :=
  match t.walk true l with
  | .ok (.existing place .directory) =>
    .ok (Text.sort ((t.children place).filter fun n => Text.endsWith n ending && n ≠ packageFile))
  | .ok _ => .ok []
  | .error cause => if Tree.meansNothing cause then .ok [] else .error ⟨cause, l.text⟩

/-- The line of a kind of generated files. -/
def generatedLine (t : Tree) (root : Location) (g : GeneratedFiles) : Except SystemError Text := do
  let names ← namesEnding t (inProject root g.directory) g.ending
  return g.title ++ ": " ++ (Text.join ", " names).ifEmpty "(none)"

/-- Print a kind of generated files (`_list_generated`). -/
def printGenerated (root : Location) (g : GeneratedFiles) : CliAction Unit := do
  print (← onFiles (FileAction.ask (generatedLine · root g)))

/-- The width of the statuses in the list of runs. -/
def statusWidth : Nat := 20

/-- A run in the list of runs. -/
def runLine (r : RunRecord) : Text :=
  "  " ++ Moment.minuteText r.createdAt ++ "  " ++ r.status.label.padRight statusWidth ++ " "
    ++ r.request

/-- Show the state of the project (`cmd_status`). -/
def status (s : Surroundings) (all : Bool) : CliAction ExitStatus := do
  print "Project structure:"
  forEach (printStructure s.root)
    (Scaffold.files.map (·.1) ++ expectedFiles ++ Scaffold.directories)
  print []
  let ledger ← connectLedger s
  printAll (lastRunLines (← onFiles ledger.latest))
  if all then
    print []
    forEach (printGenerated s.root) generatedFiles
    printAll [[], "Recent runs:"]
    printAll ((← onFiles (ledger.recent (some RunLog.listed))).map runLine)
  return 0

/-! ## The program -/

/-- Carry out a command. -/
def perform (s : Surroundings) : CommandLine → CliAction ExitStatus
  | .scaffold => createScaffold s.root
  | .query request verbose dryRun budget => query s request verbose dryRun budget
  | .status all => status s all

/-- The exit status of a wrong command line. -/
def wrongUsageStatus : ExitStatus := 2

/-- Carry out a command line (`main`). -/
def run (s : Surroundings) (words : List Text) : CliAction ExitStatus := do
  match CommandLine.read words with
  | .ok command => perform s command
  | .error .help => return 0
  | .error (.wrong program error) =>
    printError (program ++ ": error: " ++ error.message)
    return wrongUsageStatus

/-- The level from which on a command logs. -/
def logLevel : CommandLine → LogLevel
  | .query _ true _ _ => .debug
  | _ => .info

end Cli

end Tablewright
