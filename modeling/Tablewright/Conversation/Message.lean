/-
The conversation with the reasoning engine: the calls it may propose, the messages that pass, and
what it is told, word by word: its instructions, the opening of a run, the correction of a premature
final answer, and the report of a failure.
-/
import Tablewright.Json.Basic
import Tablewright.Json.Writer
import Tablewright.Request.Segmentation
import Tablewright.Workflow.Stage

set_option autoImplicit false

namespace Tablewright

/-! ## Messages -/

/-- A call of a tool as the engine proposed it (`ToolCall`). Id, name and arguments are passed on as
they came, of whatever kind they are. -/
structure ToolCall where
  /-- By what id the call is answered. -/
  id : Json
  /-- The name of the tool. -/
  name : Json
  /-- The arguments, a text in JSON if the engine keeps to its protocol. -/
  arguments : Json

/-- A message of a conversation. -/
inductive Message where
  /-- The instructions at the beginning. -/
  | instructions
  /-- What the engine is told. -/
  | user (content : Text)
  /-- What the engine says, with the call it proposes. -/
  | assistant (content : Option Text) (call : Option ToolCall)
  /-- The observation that answers a call. -/
  | observation (callId : Json) (content : Text)

/-- What the engine gave as its instructions are followed: a text or a call, and the message to keep
of it (`EngineReply`). -/
structure Reply where
  /-- The text. -/
  text : Option Text
  /-- The proposed call; without one the reply is a final answer. -/
  call : Option ToolCall

namespace Reply

/-- Whether the reply is a final answer. -/
def isFinal (r : Reply) : Bool := r.call.isNone

/-- The message by which a reply is kept in the conversation. -/
def message (r : Reply) : Message := .assistant r.text r.call

end Reply

/-- A proposed call inside a message. -/
def ToolCall.toJson (c : ToolCall) : Json :=
  .obj [("id", c.id), ("type", .str "function"),
    ("function", .obj [("name", c.name), ("arguments", c.arguments)])]

/-- A message as an object, with the given instructions. -/
def Message.toJson (instructions : Text) : Message → Json
  | .instructions => .obj [("role", .str "system"), ("content", .str instructions)]
  | .user content => .obj [("role", .str "user"), ("content", .str content)]
  | .assistant content none =>
    .obj [("role", .str "assistant"), ("content", Json.ofText? content)]
  | .assistant content (some call) =>
    .obj [("role", .str "assistant"), ("content", Json.ofText? content),
      ("tool_calls", .arr [call.toJson])]
  | .observation id content =>
    .obj [("role", .str "tool"), ("tool_call_id", id), ("content", .str content)]

/-! ## Wording -/

namespace Wording

/-- The instructions. -/
def instructions : Text := Text.unlines [
    "You are a database agent for a FastAPI + React project. Your role is to:",
    "",
    "1. Identify every distinct data entity in the user's request",
    "2. Generate a SQLAlchemy model and Pydantic types for each entity (create_schema / create_multiple_schemas)",
    "3. Generate and apply a migration (generate_migration, then run_migration)",
    "4. Generate a CRUD API endpoint for each entity (create_api_endpoint)",
    "5. Generate a React data hook for each entity (create_api_client_hook)",
    "",
    "If the user asks for sample or demo data, also call seed_database (optional, not a stage).",
    "",
    "When the request mentions several concepts (for example \"Made for you\" and \"Popular albums\"),",
    "create a SEPARATE table for each one. Never merge distinct concepts into one table.",
    "",
    "Field kinds: short_text, long_text, integer, boolean, timestamp.",
    "Constraints: required, unique, primary.",
    "Do not declare id, createdAt or updatedAt; they are added automatically.",
    "",
    "Call exactly one tool at a time. Do not give a final answer until every entity has",
    "completed all five stages. Be concise."]

/-- What a dry run is. -/
def dryRunNote : Text :=
  "This is a dry run: tools that write files or run migrations only return a preview. "
    ++ "Still call every tool as you normally would."

/-- The opening of a run: the request, the entities found in it, and what to do with them
(`opening_message`). -/
def opening (s : Segmentation) (dryRun : Bool) : Text :=
  let found : List Text :=
    if s.entities.isEmpty then []
    else ["Entities detected in the request:",
      (Json.arr (s.entities.map Entity.toJson)).writeIndented]
  let note : List Text := if dryRun then [dryRunNote] else []
  Text.join "\n\n" (("Request: " ++ s.request) :: found ++ [s.recommendation] ++ note)

/-- The line of the correction for one entity. -/
def remainingLine (row : Text × List Stage) : Text :=
  "- " ++ row.1 ++ ": " ++ Text.join ", " (row.2.map Stage.label)

/-- The answer to a final answer that comes too early (`correction_message`): the entities that are
not finished, each with the stages it lacks. -/
def correction (incomplete : List (Text × List Stage)) : Text :=
  let opening : Text := "The workflow is not complete yet. Remaining stages:"
  let closing : Text := "Continue with the next tool call."
  Text.unlines (opening :: incomplete.map remainingLine ++ [closing])

/-- The report of a failure (`failure_message`). It has the form of an observation, so the engine
need not tell the two apart. -/
def failure (tool : Json) (kind message : Text) : Text :=
  Json.write (.obj [("success", .bool false), ("tool", tool), ("kind", .str kind),
    ("error", .str message)])

end Wording

end Tablewright
