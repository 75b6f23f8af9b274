/-
Asking a chat service: what is sent to it, and how its answer becomes a turn of the engine.
-/
import Tablewright.Engine.Response
import Tablewright.Workflow.Duration

set_option autoImplicit false

namespace Tablewright

/-- What a chat service does with a request. -/
inductive ServiceEvent where
  /-- It responds. -/
  | response (value : Json)
  /-- It takes too long. -/
  | timedOut
  /-- It cannot be reached, or turns the request down, for a reason it gives. -/
  | error (reason : Text)

/-- A client of a chat service (`OpenAIReasoningEngine`). The service itself is outside: what it
does is a `ServiceEvent`. -/
structure Client where
  /-- The model to answer. -/
  model : Text
  /-- How long an answer may take. -/
  limit : Duration

namespace Client

/-- The reason when no key for a service is known. -/
def noKeyReason : Text :=
  "The api_key client option must be set either by passing api_key to the client or by setting "
    ++ "the OPENAI_API_KEY environment variable"

/-- A client for a service. It needs a key: one that is given, or one the environment knows. -/
def create (model : Text) (limit : Duration) (key environmentKey : Option Text) :
    Except Refusal Client :=
  if Text.isGiven key || environmentKey.isSome then .ok ⟨model, limit⟩
  else .error (.engineUnavailable noKeyReason)

/-- The reason when a service cannot be reached. -/
def connectionReason : Text := "Connection error."

/-- A request: model and messages, and the tools if there are any, at most one of which may be
called at a time. -/
def request (c : Client) (messages tools : Json) : Members :=
  Members.one "model" (.str c.model) ++ Members.one "messages" messages
    ++ Members.when tools.isGiven "tools" tools
    ++ Members.when tools.isGiven "parallel_tool_calls" (.bool false)

/-- What the engine did, by what its service did (`complete`). -/
def turn (c : Client) : ServiceEvent → Turn
  | .response value => Response.read value
  | .timedOut => .error (.refused (.engineTimeout c.limit.text))
  | .error reason => .error (.refused (.engineError reason))

end Client

end Tablewright
