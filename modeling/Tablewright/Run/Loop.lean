/-
A run: the reasoning engine is asked again and again, and every answer takes one step, be it a
call, a final answer that comes too early, or a failure.

A run ends when a final answer is accepted, which needs every tracked entity to be finished; when
the steps are used up; or when the user interrupts it. Files written on the way stay.
-/
import Tablewright.Engine.Response
import Tablewright.Run.Step

set_option autoImplicit false

namespace Tablewright

/-- What the engine does each time it is asked, counted from zero (`ReasoningEngine.complete`). It
may answer anything: nothing is assumed of how its turn depends on the messages. -/
abbrev Engine := Nat → Turn

/-- A run under way: what `Orchestrator.run` keeps between two steps. -/
structure Session where
  /-- The tracked entities. -/
  state : WorkflowState
  /-- The steps so far. -/
  steps : List Step
  /-- The conversation so far. -/
  messages : List Message
  /-- How long the conversation was each time the engine was asked. -/
  asked : List Nat

namespace Session

/-- The number of the next step. -/
def nextNumber (s : Session) : Nat := s.steps.length + 1

/-- The session once the engine is asked. -/
def ask (s : Session) : Session := { s with asked := s.asked ++ [s.messages.length] }

/-- The session with messages added to the conversation. -/
def say (s : Session) (ms : List Message) : Session := { s with messages := s.messages ++ ms }

/-- The session with a step added that failed outside any tool. -/
def failStep (s : Session) (tool : Text) (input : Members) (output kind : Text) : Session :=
  { s with steps := s.steps ++ [{
      number := s.nextNumber, tool := .str tool, input := .obj input, ok := false, output
      errorKind := some kind }] }

/-- The session with a carried-out call added. -/
def execute (s : Session) (call : ToolCall) (done : Executed) : Session :=
  { s with
    state := done.state
    steps := s.steps ++ [done.step]
    messages := s.messages ++ [.observation call.id done.observation] }

end Session

/-- How the asking ended. -/
inductive Verdict where
  /-- A final answer was accepted. -/
  | answered (text : Option Text)
  /-- The user interrupted the run. -/
  | interrupted
  /-- The steps are used up. -/
  | exhausted

namespace Run

/-- What a step is called that the engine failed in. -/
def engineStep : Text := "reasoning_engine"

/-- What a step is called in which a final answer was turned down. -/
def finalAnswerStep : Text := "final_answer"

/-- The kind of failure of a final answer that was turned down. -/
def incompleteKind : Text := "incomplete_workflow"

/-- The session after a refusal by the engine. A breach of the protocol adds nothing to the
conversation, as the engine gave no message that could be kept; any other refusal is reported to it.
-/
def refuse (s : Session) (r : Refusal) : Session :=
  let failed := s.failStep engineStep [] r.message r.kind.label
  match r.kind with
  | .protocol => failed
  | _ => failed.say [.user (Wording.failure (.str engineStep) r.kind.label r.message)]

/-- The session after a final answer that was turned down. -/
def correct (s : Session) (reply : Reply) : Session :=
  let correction := Wording.correction s.state.incomplete
  (s.failStep finalAnswerStep [("text", Json.ofText? reply.text)] correction incompleteKind).say
    [reply.message, .user correction]

/-- An operation that the user may interrupt; nothing comes of it then. -/
def interruptible {α : Type} (a : Action α) : Action (Option α) :=
  Action.ofFunction fun w =>
    match a.run w with
    | (.ok x, w') => (.ok (some x), w')
    | (.error .interrupted, w') => (.ok none, w')
    | (.error f, w') => (.error f, w')

/-- Whether a refusal is one that the engine may give. -/
def isEngineRefusal (r : Refusal) : Bool :=
  match r.kind with
  | .protocol | .external | .timeout => true
  | _ => false

/-- Ask the engine for at most so many steps (the loop of `Orchestrator.run`). Every turn that does
not end the run adds exactly one step, so the number of steps left bounds the recursion. -/
def loop (cfg : RunConfig) (engine : Engine) : Nat → Session → Action (Session × Verdict)
  | 0, s => return (s, .exhausted)
  | left + 1, s => do
    let turn := engine s.asked.length
    let s := s.ask
    match turn with
    | .error .interrupted => return (s, .interrupted)
    | .error (.refused r) =>
      if isEngineRefusal r then loop cfg engine left (refuse s r) else throw (.refused r)
    | .error f => throw f
    | .ok reply =>
      match reply.call with
      | none =>
        if s.state.isComplete then return (s, .answered reply.text)
        else loop cfg engine left (correct s reply)
      | some call =>
        let s := s.say [reply.message]
        match ← interruptible (executeTool cfg call s.state s.nextNumber) with
        | none => return (s, .interrupted)
        | some done => loop cfg engine left (s.execute call done)

/-- The session at the beginning of a run: the entities found in the request are tracked, and the
engine has its instructions and the opening. -/
def start (request : Text) (dryRun : Bool) : Session :=
  let found := Segmentation.ofRequest Catalog.table request
  { state := WorkflowState.empty.discoverAll found.entities
    steps := []
    messages := [.instructions, .user (Wording.opening found dryRun)]
    asked := [] }

/-- How a run ended. An accepted answer while nothing is tracked means that no request was
understood, and a budget that runs out just when all is done is no failure. -/
def status (s : Session) : Verdict → RunStatus
  | .answered _ => if s.state.entities.isEmpty then .needsClarification else .completed
  | .interrupted => .cancelled
  | .exhausted =>
    if !s.state.entities.isEmpty && s.state.isComplete then .completed else .budgetExhausted

/-- The accepted final answer. -/
def finalAnswer : Verdict → Option Text
  | .answered text => text
  | _ => none

/-- The report of a run. -/
def report (cfg : RunConfig) (id request : Text) (s : Session) (v : Verdict) : RunReport :=
  { id
    request
    status := status s v
    budget := cfg.budget
    dryRun := cfg.dryRun
    steps := s.steps
    state := s.state
    finalAnswer := finalAnswer v }

/-- Carry out a run (`Orchestrator.run`). The session is given back beside the report, for what is
proved of the messages. -/
def perform (cfg : RunConfig) (engine : Engine) (id request : Text) :
    Action (RunReport × Session) := do
  if cfg.budget < 1 then throw (.badValue .budget)
  let (s, v) ← loop cfg engine cfg.budget.toNat (start request cfg.dryRun)
  return (report cfg id request s v, s)

end Run

end Tablewright
