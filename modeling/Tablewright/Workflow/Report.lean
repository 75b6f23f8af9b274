/-
What a run leaves behind: its steps, its state and how it ended.
-/
import Tablewright.Workflow.State

set_option autoImplicit false

namespace Tablewright

/-- How a run ended (`RunStatus`). -/
inductive RunStatus where
  /-- The engine's final answer was accepted with every entity finished. -/
  | completed
  /-- The steps were used up. -/
  | budgetExhausted
  /-- The user interrupted the run. -/
  | cancelled
  /-- The engine's final answer was accepted without any entity. -/
  | needsClarification
deriving DecidableEq

namespace RunStatus

/-- The word for a status in records. -/
def label : RunStatus → Text
  | completed => "completed"
  | budgetExhausted => "budget_exhausted"
  | cancelled => "cancelled"
  | needsClarification => "needs_clarification"

/-- The status a word stands for. -/
def ofLabel? (label : Text) : Option RunStatus :=
  [completed, budgetExhausted, cancelled, needsClarification].find? fun s => s.label = label

end RunStatus

/-- One step of a run (`Step`): a call, a final answer that came too early, or a failure of the
engine. -/
structure Step where
  /-- The number of the step; steps are counted from one. -/
  number : Nat
  /-- The tool that was called, or what else took the step. -/
  tool : Json
  /-- What was given. -/
  input : Json
  /-- Whether the step succeeded. -/
  ok : Bool
  /-- What came of it, in words. -/
  output : Text
  /-- The kind of failure, if it was one. -/
  errorKind : Option Text

/-- What is told of a run that ended (`RunReport`). -/
structure RunReport where
  /-- The id of the run. -/
  id : Text
  /-- The request. -/
  request : Text
  /-- How the run ended. -/
  status : RunStatus
  /-- How many steps it was allowed. -/
  budget : Int
  /-- Whether files and processes were left alone. -/
  dryRun : Bool
  /-- The steps in their order. -/
  steps : List Step
  /-- The state at the end. -/
  state : WorkflowState
  /-- The accepted final answer. -/
  finalAnswer : Option Text

namespace RunReport

/-- How many steps were used. -/
def stepsUsed (r : RunReport) : Nat := r.steps.length

/-- Whether everything asked for was done. -/
def isComplete (r : RunReport) : Bool := r.status = .completed

/-- For every entity, which stages are completed. -/
def progressRows (r : RunReport) : List (Text × List (Stage × Bool)) := r.state.progressRows

end RunReport

end Tablewright
