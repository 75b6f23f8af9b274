/-
Carrying out one proposed call.

The call is looked up, its arguments are checked, and the tool does its work. What is refused on
the way, by the program or by the file system, becomes a failed step that leaves the state as it
was; an outcome changes the state. Either way the engine gets an observation.
-/
import Tablewright.Conversation.Message
import Tablewright.Tool.Handlers
import Tablewright.Workflow.Report

set_option autoImplicit false

namespace Tablewright

/-- How runs are carried out (the fields of `Orchestrator`). They stay the same for a whole run;
what changes from step to step is the state, which every call is given and gives back. -/
structure RunConfig where
  /-- The directory of the project. -/
  root : Location
  /-- How many steps a run may take. -/
  budget : Int
  /-- How long a process may take. -/
  limit : Option Duration
  /-- How long an observation may be. -/
  maxObservation : Int
  /-- Whether files and processes are left alone. -/
  dryRun : Bool
  /-- The command that generates a migration. -/
  generateCommand : Text
  /-- The flag before a migration's label. -/
  labelFlag : Text
  /-- The command that applies migrations. -/
  applyCommand : Text

/-- What a tool is told of its run (`_context`). A tool gets the state to read only: what it wants
changed it says in its outcome. -/
def RunConfig.context (cfg : RunConfig) (state : WorkflowState) : ToolContext :=
  { root := cfg.root
    state
    dryRun := cfg.dryRun
    limit := cfg.limit
    generateCommand := cfg.generateCommand
    labelFlag := cfg.labelFlag
    applyCommand := cfg.applyCommand }

/-! ## Observations -/

/-- What is put behind an observation that was cut. -/
def truncationMark : Text := "\n...(truncated)"

/-- The beginning of a text up to a length; a negative length is counted from the end. -/
def takeUpTo (n : Int) (t : Text) : Text :=
  if 0 ≤ n then t.take n.toNat else t.take (t.length - n.natAbs)

/-- An observation cut to a length (`_truncate`). The mark comes on top of the length, and a failure
is not cut. -/
def truncateObservation (limit : Int) (t : Text) : Text :=
  if (t.length : Int) ≤ limit then t else takeUpTo limit t ++ truncationMark

/-! ## Calls -/

/-- The tool of a proposed call (`ToolRegistry.get`). The engine may propose any name, even one that
is no text. -/
def findTool (name : Json) : Except Refusal ToolName :=
  let found :=
    match name with
    | .str s => ToolName.ofLabel? s
    | _ => none
  match found with
  | some t => .ok t
  | none => .error (.unknownTool name.display (ToolName.all.map ToolName.label))

/-- The arguments of a failed call as they are recorded (`_raw_input`): the object they are, or what
they are under the name `raw`. They are read once more here, behind the place where failures are
caught, so what the reader cannot follow is a failure of the run. -/
def recordedArguments : Json → Except Failure Json
  | .str s =>
    match Json.read argumentDepth s with
    | .ok (.obj ms) => .ok (.obj ms)
    | .ok v => .ok (.obj [("raw", v)])
    | .error (.flaw _ _) => .ok (.obj [("raw", .str s)])
    | .error (.tooManyDigits n) => .error (.badValue (.tooManyDigits n))
    | .error .tooDeep => .error (.defect .tooDeep)
  | v => .ok (.obj [("raw", v)])

/-- Look a call up, check its arguments and do its work: the part of `execute_tool` in which
failures are caught. -/
def performCall (cfg : RunConfig) (call : ToolCall) (state : WorkflowState) :
    Action (Members × Outcome) := do
  let tool ← Action.ofRefusal (findTool call.name)
  let arguments ← Action.ofExcept (tool.parse call.arguments)
  let outcome ← Tool.handle (cfg.context state) (ToolInput.ofMembers arguments tool)
  return (arguments, outcome)

/-- A call that was carried out. -/
structure Executed where
  /-- The state after the call. -/
  state : WorkflowState
  /-- The step that is recorded. -/
  step : Step
  /-- What the engine is shown. -/
  observation : Text

/-- The step and the observation of a failed call. The state is kept, so a call that fails after
some of its files were written completes nothing. -/
def failedCall (call : ToolCall) (state : WorkflowState) (number : Nat) (kind message : Text) :
    Except Failure Executed := do
  let input ← recordedArguments call.arguments
  return {
    state
    step := { number, tool := call.name, input, ok := false, output := message
              errorKind := some kind }
    observation := Wording.failure call.name kind message }

/-- The state, the step and the observation of a call that had an outcome. Here nothing is caught
any more: a stage of an entity that is not tracked would end the run. -/
def finishedCall (cfg : RunConfig) (call : ToolCall) (state : WorkflowState) (number : Nat)
    (arguments : Members) (outcome : Outcome) : Except Failure Executed := do
  let next ← liftRefusal (outcome.apply state)
  return {
    state := next
    step := { number, tool := call.name, input := .obj arguments, ok := outcome.ok
              output := outcome.message
              errorKind := if outcome.ok then none else some "partial" }
    observation := truncateObservation cfg.maxObservation outcome.observation }

/-- The kind of a step that failed in the file system. -/
def systemKind : Text := RefusalClass.external.label

/-- Carry out a proposed call as the step of a number (`execute_tool`). Only refusals and errors of
the file system are caught; every other failure leaves the run. -/
def executeTool (cfg : RunConfig) (call : ToolCall) (state : WorkflowState) (number : Nat) :
    Action Executed :=
  Action.ofFunction fun w =>
    match (performCall cfg call state).run w with
    | (.ok (arguments, outcome), w') =>
      (finishedCall cfg call state number arguments outcome, w')
    | (.error (.refused r), w') => (failedCall call state number r.kind.label r.message, w')
    | (.error (.system e), w') => (failedCall call state number systemKind e.message, w')
    | (.error f, w') => (.error f, w')

end Tablewright
