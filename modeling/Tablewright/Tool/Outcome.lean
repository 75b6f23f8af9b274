/-
What comes of a tool: the message and the data the reasoning engine is shown, and what the run
learns from it. Tools do not change the state of a run; they say what they discovered, defined
and completed.
-/
import Tablewright.Json.Writer
import Tablewright.Workflow.Duration
import Tablewright.Workflow.State
import Tablewright.Files.Path

set_option autoImplicit false

namespace Tablewright

/-- What a tool may know of its run (`ToolContext`). -/
structure ToolContext where
  /-- The directory of the project. -/
  root : Location
  /-- The state of the run before the call. -/
  state : WorkflowState
  /-- Whether files and processes are left alone. -/
  dryRun : Bool
  /-- How long a process may take. -/
  limit : Option Duration
  /-- The command that generates a migration. -/
  generateCommand : Text
  /-- The flag before a migration's label. -/
  labelFlag : Text
  /-- The command that applies migrations. -/
  applyCommand : Text

/-- What came of a call (`ToolOutcome`). -/
structure Outcome where
  /-- Whether all of it succeeded. -/
  ok : Bool
  /-- What happened, in words. -/
  message : Text
  /-- What the engine is shown besides. -/
  data : Members
  /-- Entities that were found. -/
  discovered : List Entity
  /-- Entities whose schemas were written. -/
  defined : List Entity
  /-- Stages that were completed. -/
  completed : List (Text × Stage)

namespace Outcome

/-- A success with data that teaches the run nothing. -/
def success (message : Text) (data : Members) : Outcome :=
  { ok := true, message, data, discovered := [], defined := [], completed := [] }

/-- What the engine is shown: success and message, with the data written over them
(`to_observation`). -/
def observation (o : Outcome) : Text :=
  let base : Members := [("success", .bool o.ok), ("message", .str o.message)]
  Json.write (.obj (base.putAll o.data))

/-- What a state becomes after a call: discoveries first, then definitions, then stages (the end of
`execute_tool`). The order matters, since a stage can only be completed of an entity that is
tracked. -/
def apply (o : Outcome) (st : WorkflowState) : Except Refusal WorkflowState :=
  ((st.discoverAll o.discovered).defineAll o.defined).completeAll o.completed

end Outcome

end Tablewright
