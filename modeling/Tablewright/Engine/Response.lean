/-
Reading the response of a chat service as a reply.

A reply is a text or exactly one proposed call; every response that is neither is refused as a
breach of the protocol. A response that lacks a part in which something is looked up is a fault.
-/
import Tablewright.Conversation.Message
import Tablewright.Failure.Basic

set_option autoImplicit false

namespace Tablewright

/-- What the engine did when it was asked: it replied, or it failed. -/
abbrev Turn := Except Failure Reply

namespace Response

/-- A part of a value that has to be there. -/
def part (key : Text) : Json → Except Failure Json
  | .obj ms =>
    match Members.get? key ms with
    | some v => .ok v
    | none => .error (.defect .noPart)
  | _ => .error (.defect .noPart)

/-- A part of a value that may be missing. -/
def part? (key : Text) : Json → Option Json
  | .obj ms => Members.get? key ms
  | _ => none

/-- Whether a value of a response counts as given. Unlike a plain object, an object of a response
always does. -/
def isGiven : Json → Bool
  | .obj _ => true
  | v => v.isGiven

/-- The first choice of a response. -/
def firstChoice (response : Json) : Except Failure Json :=
  match part? "choices" response with
  | none => .error (.refused .noChoices)
  | some choices =>
    if !isGiven choices then .error (.refused .noChoices)
    else
      match choices with
      | .arr (c :: _) => .ok c
      | .str (c :: _) => .ok (.str [c])
      | _ => .error (.defect .wrongKind)

/-- The text of a message without outer blanks; nothing when nothing is left. -/
def messageText (message : Json) : Except Failure (Option Text) := do
  let content ← part "content" message
  match content with
  | .str s =>
    let t := Text.trim s
    return if t.isEmpty then none else some t
  | v => if isGiven v then throw (.defect .noPart) else return none

/-- The calls a message proposes. -/
def messageCalls (message : Json) : Except Failure (List Json) := do
  let calls ← part "tool_calls" message
  match calls with
  | .arr items => return items
  | .str s => return s.map fun c => .str [c]
  | v => if isGiven v then throw (.defect .wrongKind) else return []

/-- A proposed call. It has to name a function; arguments that are not given are an empty
object. -/
def toolCall (raw : Json) : Except Failure ToolCall := do
  match part? "function" raw with
  | none => throw (.refused .namelessCall)
  | some function =>
    let name := (part? "name" function).getD .null
    if !isGiven name then throw (.refused .namelessCall)
    let id ← part "id" raw
    let arguments ← part "arguments" function
    return ⟨id, name, if isGiven arguments then arguments else .str "\x7b\x7d"⟩

/-- A response as a reply (`parse_response`): text, or the one call that is proposed. Neither of
them, or several calls, breaks the protocol. -/
def read (response : Json) : Turn := do
  let choice ← firstChoice response
  let message ← part "message" choice
  let text ← messageText message
  let calls ← messageCalls message
  match calls with
  | [] => if text.isNone then throw (.refused .emptyAnswer) else return ⟨text, none⟩
  | [raw] => return ⟨text, some (← toolCall raw)⟩
  | _ => throw (.refused (.manyToolCalls calls.length))

end Response

end Tablewright
