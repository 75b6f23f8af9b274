/-
What happens between two questions to the engine.

`Advance` is one turn after which the run goes on, and `Halts` is one after which it does not. The
two cover every turn (`advance_or_halts`), and each comes with its equation for `loop`, so nobody
after this unfolds the loop.

An occurrence is what a turn leaves to remember. It keeps what the step does not show, above all
the outcome of a call, so that later statements can speak of it.
-/
import Tablewright.Proofs.Run.Call
import Tablewright.Proofs.Workflow
import Tablewright.Run.Loop

set_option autoImplicit false

namespace Tablewright

/-! ## Sessions

Asking and speaking leave the tracked entities and the steps alone.
-/

namespace Session

@[simp] theorem ask_state (s : Session) : s.ask.state = s.state := rfl

@[simp] theorem say_state (s : Session) (ms : List Message) : (s.say ms).state = s.state := rfl

@[simp] theorem nextNumber_ask (s : Session) : s.ask.nextNumber = s.nextNumber := rfl

@[simp] theorem nextNumber_say (s : Session) (ms : List Message) :
    (s.say ms).nextNumber = s.nextNumber := rfl

@[simp] theorem length_ask_asked (s : Session) : s.ask.asked.length = s.asked.length + 1 := by
  rw [ask, List.length_append, List.length_singleton]

end Session

/-! ## Turns -/

namespace Run

/-- What happened in a turn after which a run went on. -/
inductive Occurrence where
  /-- The engine failed. -/
  | refused (r : Refusal) (step : Step)
  /-- A final answer was turned down. -/
  | corrected (reply : Reply) (step : Step)
  /-- A proposed call failed. -/
  | failed (reply : Reply) (call : ToolCall) (done : Executed)
  /-- A proposed call had an outcome. -/
  | finished (reply : Reply) (call : ToolCall) (tool : ToolName) (arguments : Members)
      (outcome : Outcome) (done : Executed)

namespace Occurrence

/-- The step that was recorded. -/
def step : Occurrence → Step
  | refused _ s => s
  | corrected _ s => s
  | failed _ _ done => done.step
  | finished _ _ _ _ _ done => done.step

/-- The outcome of a call that had one. -/
def outcome? : Occurrence → Option Outcome
  | finished _ _ _ _ o _ => some o
  | _ => none

end Occurrence

/-- The step of a turn in which the engine failed. -/
def refusedStep (number : Nat) (r : Refusal) : Step :=
  { number, tool := .str engineStep, input := .obj [], ok := false, output := r.message
    errorKind := some r.kind.label }

/-- The step of a turn in which a final answer came too early. -/
def correctedStep (number : Nat) (st : WorkflowState) (reply : Reply) : Step :=
  { number, tool := .str finalAnswerStep, input := .obj [("text", Json.ofText? reply.text)]
    ok := false, output := Wording.correction st.incomplete, errorKind := some incompleteKind }

/-- A turn after which the run goes on. The engine is asked in a session and a world, something
happens, and the next turn starts in another session and world. -/
inductive Advance (cfg : RunConfig) (engine : Engine) (s : Session) (w : World) :
    Occurrence → Session → World → Prop
  | refused {r : Refusal} (hturn : engine s.asked.length = .error (.refused r))
      (hr : isEngineRefusal r = true) :
      Advance cfg engine s w (.refused r (refusedStep s.nextNumber r)) (refuse s.ask r) w
  | corrected {reply : Reply} (hturn : engine s.asked.length = .ok reply)
      (hfinal : reply.call = none) (hopen : s.state.isComplete = false) :
      Advance cfg engine s w (.corrected reply (correctedStep s.nextNumber s.state reply))
        (correct s.ask reply) w
  | failed {reply : Reply} {call : ToolCall} {f : Failure} {kind message : Text}
      {done : Executed} {w' : World} (hturn : engine s.asked.length = .ok reply)
      (hcall : reply.call = some call)
      (hrun : (performCall cfg call s.state).run w = (.error f, w'))
      (hanswer : f.answer? = some (kind, message))
      (hdone : failedCall call s.state s.nextNumber kind message = .ok done) :
      Advance cfg engine s w (.failed reply call done)
        ((s.ask.say [reply.message]).execute call done) w'
  | finished {reply : Reply} {call : ToolCall} {tool : ToolName} {arguments : Members}
      {outcome : Outcome} {done : Executed} {w' : World}
      (hturn : engine s.asked.length = .ok reply) (hcall : reply.call = some call)
      (hfind : findTool call.name = .ok tool)
      (hparse : tool.parse call.arguments = .ok arguments)
      (hrun : (Tool.handle (cfg.context s.state) (ToolInput.ofMembers arguments tool)).run w
        = (.ok outcome, w'))
      (hdone : finishedCall cfg call s.state s.nextNumber arguments outcome = .ok done) :
      Advance cfg engine s w (.finished reply call tool arguments outcome done)
        ((s.ask.say [reply.message]).execute call done) w'

/-- A turn after which the run does not go on, with what it ends in. -/
inductive Halts (cfg : RunConfig) (engine : Engine) (s : Session) (w : World) :
    Except Failure (Session × Verdict) → World → Prop
  /-- A final answer is accepted. -/
  | answered {reply : Reply} (hturn : engine s.asked.length = .ok reply)
      (hfinal : reply.call = none) (hdone : s.state.isComplete = true) :
      Halts cfg engine s w (.ok (s.ask, .answered reply.text)) w
  /-- The user interrupts the engine. -/
  | interrupted (hturn : engine s.asked.length = .error .interrupted) :
      Halts cfg engine s w (.ok (s.ask, .interrupted)) w
  /-- The user interrupts a call. -/
  | cut {reply : Reply} {call : ToolCall} {w' : World}
      (hturn : engine s.asked.length = .ok reply) (hcall : reply.call = some call)
      (hrun : (executeTool cfg call s.state s.nextNumber).run w = (.error .interrupted, w')) :
      Halts cfg engine s w (.ok (s.ask.say [reply.message], .interrupted)) w'
  /-- The engine fails in a way that leaves the run. -/
  | broken {f : Failure} (hturn : engine s.asked.length = .error f) (hf : f ≠ .interrupted)
      (hr : ∀ r, f = .refused r → isEngineRefusal r = false) :
      Halts cfg engine s w (.error f) w
  /-- A call fails in a way that leaves the run. -/
  | aborted {reply : Reply} {call : ToolCall} {f : Failure} {w' : World}
      (hturn : engine s.asked.length = .ok reply) (hcall : reply.call = some call)
      (hrun : (executeTool cfg call s.state s.nextNumber).run w = (.error f, w'))
      (hf : f ≠ .interrupted) :
      Halts cfg engine s w (.error f) w'

/-! ## What a turn leaves behind -/

namespace Advance

variable {cfg : RunConfig} {engine : Engine} {s s' : Session} {w w' : World} {o : Occurrence}

/-- Every turn after which a run goes on adds exactly one step. -/
theorem steps_eq (h : Advance cfg engine s w o s' w') : s'.steps = s.steps ++ [o.step] := by
  cases h with
  | @refused r hturn hr =>
    rw [refuse]
    split <;> rfl
  | corrected | failed | finished => rfl

/-- The step a turn adds has the next number. -/
theorem number_eq (h : Advance cfg engine s w o s' w') : o.step.number = s.nextNumber := by
  cases h with
  | refused | corrected => rfl
  | failed hturn hcall hrun hanswer hdone =>
    obtain ⟨_, -, rfl⟩ := failedCall_ok_iff.mp hdone
    rfl
  | finished hturn hcall hfind hparse hrun hdone =>
    obtain ⟨_, -, rfl⟩ := finishedCall_ok_iff.mp hdone
    rfl

/-- Every turn asks the engine once. -/
theorem asked_eq (h : Advance cfg engine s w o s' w') : s'.asked = s.ask.asked := by
  cases h with
  | @refused r hturn hr =>
    rw [refuse]
    split <;> rfl
  | corrected | failed | finished => rfl

/-- Only an outcome changes the tracked entities, and it does so by being folded in. -/
theorem state_cases (h : Advance cfg engine s w o s' w') :
    (o.outcome? = none ∧ s'.state = s.state) ∨
      ∃ reply call tool arguments outcome done,
        o = .finished reply call tool arguments outcome done ∧
          outcome.apply s.state = .ok s'.state := by
  cases h with
  | @refused r hturn hr =>
    left
    refine ⟨rfl, ?_⟩
    rw [refuse]
    split <;> rfl
  | corrected => exact .inl ⟨rfl, rfl⟩
  | failed hturn hcall hrun hanswer hdone =>
    obtain ⟨_, -, rfl⟩ := failedCall_ok_iff.mp hdone
    exact .inl ⟨rfl, rfl⟩
  | @finished reply call tool arguments outcome done _ hturn hcall hfind hparse hrun hdone =>
    obtain ⟨_, hnext, rfl⟩ := finishedCall_ok_iff.mp hdone
    exact .inr ⟨reply, call, tool, arguments, outcome, _, rfl, hnext⟩

/-- A turn without an outcome is recorded as a failed step. -/
theorem ok_eq_false (h : Advance cfg engine s w o s' w') (hnone : o.outcome? = none) :
    o.step.ok = false := by
  cases h with
  | refused | corrected => rfl
  | failed hturn hcall hrun hanswer hdone =>
    obtain ⟨_, -, rfl⟩ := failedCall_ok_iff.mp hdone
    rfl
  | finished => cases hnone

/-- An outcome comes from the tool that the call named, and it is recorded under the tool's name
with the arguments the tool worked with. -/
theorem of_finished {reply : Reply} {call : ToolCall} {tool : ToolName} {arguments : Members}
    {outcome : Outcome} {done : Executed}
    (h : Advance cfg engine s w (.finished reply call tool arguments outcome done) s' w') :
    (Tool.handle (cfg.context s.state) (ToolInput.ofMembers arguments tool)).run w
        = (.ok outcome, w') ∧
      done.step.tool = .str tool.label ∧ done.step.input = .obj arguments ∧
        done.step.ok = outcome.ok := by
  cases h with
  | finished hturn hcall hfind hparse hrun hdone =>
    obtain ⟨_, -, rfl⟩ := finishedCall_ok_iff.mp hdone
    exact ⟨hrun, findTool_ok_iff.mp hfind, rfl, rfl⟩

/-- A turn has one course only. -/
theorem unique {o' : Occurrence} {s'' : Session} {w'' : World}
    (h : Advance cfg engine s w o s' w') (h' : Advance cfg engine s w o' s'' w'') :
    o = o' ∧ s' = s'' ∧ w' = w'' := by
  cases h with
  | refused hturn hr =>
    cases h' with
    | refused hturn' hr' =>
      cases hturn.symm.trans hturn'
      exact ⟨rfl, rfl, rfl⟩
    | corrected hturn' | failed hturn' | finished hturn' => cases hturn.symm.trans hturn'
  | corrected hturn hfinal hopen =>
    cases h' with
    | refused hturn' => cases hturn.symm.trans hturn'
    | corrected hturn' =>
      cases hturn.symm.trans hturn'
      exact ⟨rfl, rfl, rfl⟩
    | failed hturn' hcall' | finished hturn' hcall' =>
      cases hturn.symm.trans hturn'
      cases hfinal.symm.trans hcall'
  | failed hturn hcall hrun hanswer hdone =>
    cases h' with
    | refused hturn' => cases hturn.symm.trans hturn'
    | corrected hturn' hfinal' =>
      cases hturn.symm.trans hturn'
      cases hcall.symm.trans hfinal'
    | failed hturn' hcall' hrun' hanswer' hdone' =>
      cases hturn.symm.trans hturn'
      cases hcall.symm.trans hcall'
      cases hrun.symm.trans hrun'
      cases hanswer.symm.trans hanswer'
      cases hdone.symm.trans hdone'
      exact ⟨rfl, rfl, rfl⟩
    | finished hturn' hcall' hfind' hparse' hrun' =>
      cases hturn.symm.trans hturn'
      cases hcall.symm.trans hcall'
      cases hrun.symm.trans (performCall_ok_iff.mpr ⟨_, hfind', hparse', hrun'⟩)
  | finished hturn hcall hfind hparse hrun hdone =>
    cases h' with
    | refused hturn' => cases hturn.symm.trans hturn'
    | corrected hturn' hfinal' =>
      cases hturn.symm.trans hturn'
      cases hcall.symm.trans hfinal'
    | failed hturn' hcall' hrun' =>
      cases hturn.symm.trans hturn'
      cases hcall.symm.trans hcall'
      cases hrun'.symm.trans (performCall_ok_iff.mpr ⟨_, hfind, hparse, hrun⟩)
    | finished hturn' hcall' hfind' hparse' hrun' hdone' =>
      cases hturn.symm.trans hturn'
      cases hcall.symm.trans hcall'
      cases hfind.symm.trans hfind'
      cases hparse.symm.trans hparse'
      cases hrun.symm.trans hrun'
      cases hdone.symm.trans hdone'
      exact ⟨rfl, rfl, rfl⟩

/-- No turn tracks a name twice. -/
theorem distinct (h : Advance cfg engine s w o s' w') (hd : s.state.Distinct) :
    s'.state.Distinct := by
  rcases h.state_cases with ⟨-, heq⟩ | ⟨_, _, _, _, _, _, -, ha⟩
  · rwa [heq]
  · exact hd.apply ha

end Advance

/-! ## Turns and the loop -/

/-- A call inside a run: an interrupt is a result, everything else is passed on. -/
theorem interruptible_run {α : Type} (a : Action α) (w : World) :
    (interruptible a).run w =
      match a.run w with
      | (.ok x, w') => (.ok (some x), w')
      | (.error .interrupted, w') => (.ok none, w')
      | (.error f, w') => (.error f, w') := rfl

/-- The loop asks the engine and does what its turn calls for. -/
theorem loop_succ (cfg : RunConfig) (engine : Engine) (left : Nat) (s : Session) (w : World) :
    (loop cfg engine (left + 1) s).run w =
      match engine s.asked.length with
      | .error .interrupted => (.ok (s.ask, .interrupted), w)
      | .error (.refused r) =>
        if isEngineRefusal r then (loop cfg engine left (refuse s.ask r)).run w
        else (.error (.refused r), w)
      | .error f => (.error f, w)
      | .ok reply =>
        match reply.call with
        | none =>
          if s.state.isComplete then (.ok (s.ask, .answered reply.text), w)
          else (loop cfg engine left (correct s.ask reply)).run w
        | some call =>
          match (executeTool cfg call s.state s.nextNumber).run w with
          | (.ok done, w') =>
            (loop cfg engine left ((s.ask.say [reply.message]).execute call done)).run w'
          | (.error .interrupted, w') => (.ok (s.ask.say [reply.message], .interrupted), w')
          | (.error f, w') => (.error f, w') := by
  rw [loop]
  cases engine s.asked.length with
  | error f =>
    cases f with
    | refused r =>
      dsimp only
      split <;> rfl
    | system _ | badValue _ | interrupted | defect _ => rfl
  | ok reply =>
    dsimp only
    cases reply.call with
    | none =>
      dsimp only
      -- asking does not change what is tracked
      rw [Session.ask_state]
      split <;> rfl
    | some call =>
      dsimp only
      rw [Effect.run_bind, interruptible_run, Session.say_state, Session.ask_state,
        Session.nextNumber_say, Session.nextNumber_ask]
      rcases (executeTool cfg call s.state s.nextNumber).run w with ⟨f | done, w'⟩
      · cases f <;> rfl
      · rfl

/-- After a turn of the first kind the loop goes on where it led. -/
theorem Advance.loop_eq {cfg : RunConfig} {engine : Engine} {s s' : Session} {w w' : World}
    {o : Occurrence} (h : Advance cfg engine s w o s' w') (left : Nat) :
    (loop cfg engine (left + 1) s).run w = (loop cfg engine left s').run w' := by
  rw [loop_succ]
  cases h with
  | refused hturn hr =>
    rw [hturn]
    dsimp only
    rw [if_pos hr]
  | corrected hturn hfinal hopen =>
    rw [hturn]
    dsimp only
    rw [hfinal]
    dsimp only
    rw [hopen]
    rfl
  | failed hturn hcall hrun hanswer hdone =>
    rw [hturn]
    dsimp only
    rw [hcall]
    dsimp only
    rw [executeTool_run, hrun]
    dsimp only
    rw [hanswer]
    dsimp only
    rw [hdone]
  | finished hturn hcall hfind hparse hrun hdone =>
    rw [hturn]
    dsimp only
    rw [hcall]
    dsimp only
    rw [executeTool_run, performCall_ok_iff.mpr ⟨_, hfind, hparse, hrun⟩]
    dsimp only
    rw [hdone]

/-- After a turn of the second kind the loop ends in what it says. -/
theorem Halts.loop_eq {cfg : RunConfig} {engine : Engine} {s : Session} {w w' : World}
    {q : Except Failure (Session × Verdict)} (h : Halts cfg engine s w q w') (left : Nat) :
    (loop cfg engine (left + 1) s).run w = (q, w') := by
  rw [loop_succ]
  cases h with
  | answered hturn hfinal hdone =>
    rw [hturn]
    dsimp only
    rw [hfinal]
    dsimp only
    rw [if_pos hdone]
  | interrupted hturn => rw [hturn]
  | cut hturn hcall hrun =>
    rw [hturn]
    dsimp only
    rw [hcall]
    dsimp only
    rw [hrun]
  | @broken f hturn hf hr =>
    rw [hturn]
    -- only refusals of the engine itself are answered
    cases f with
    | refused r =>
      dsimp only
      rw [hr r rfl]
      rfl
    | interrupted => exact absurd rfl hf
    | system _ | badValue _ | defect _ => rfl
  | @aborted _ _ f _ hturn hcall hrun hf =>
    rw [hturn]
    dsimp only
    rw [hcall]
    dsimp only
    rw [hrun]
    cases f with
    | interrupted => exact absurd rfl hf
    | refused _ | system _ | badValue _ | defect _ => rfl

/-- Every turn is of one of the two kinds. -/
theorem advance_or_halts (cfg : RunConfig) (engine : Engine) (s : Session) (w : World) :
    (∃ o s' w', Advance cfg engine s w o s' w') ∨ ∃ q w', Halts cfg engine s w q w' := by
  cases hturn : engine s.asked.length with
  | error f =>
    by_cases hi : f = .interrupted
    · subst hi
      exact .inr ⟨_, _, .interrupted hturn⟩
    · cases f with
      | refused r =>
        by_cases hr : isEngineRefusal r = true
        · exact .inl ⟨_, _, _, .refused hturn hr⟩
        · refine .inr ⟨_, _, .broken hturn hi fun q hq => ?_⟩
          cases hq
          exact Bool.eq_false_iff.mpr hr
      | system _ | badValue _ | interrupted | defect _ =>
        refine .inr ⟨_, _, .broken hturn hi fun q hq => ?_⟩
        cases hq
  | ok reply =>
    cases hcall : reply.call with
    | none =>
      by_cases hdone : s.state.isComplete = true
      · exact .inr ⟨_, _, .answered hturn hcall hdone⟩
      · exact .inl ⟨_, _, _, .corrected hturn hcall (Bool.eq_false_iff.mpr hdone)⟩
    | some call =>
      rcases hrun : (executeTool cfg call s.state s.nextNumber).run w with ⟨f | done, w'⟩
      · -- an interrupt ends the run with a verdict, anything else without one
        by_cases hi : f = .interrupted
        · subst hi
          exact .inr ⟨_, _, .cut hturn hcall hrun⟩
        · exact .inr ⟨_, _, .aborted hturn hcall hrun hi⟩
      · -- the call was carried out, as a success or as an answered failure
        left
        rcases executeTool_cases hrun with ⟨arguments, outcome, hp, hdone⟩ |
          ⟨f, kind, message, hp, ha, hdone⟩ | ⟨f, -, -, hq⟩
        · obtain ⟨tool, hfind, hparse, hh⟩ := performCall_ok_iff.mp hp
          exact ⟨_, _, _, .finished hturn hcall hfind hparse hh hdone⟩
        · exact ⟨_, _, _, .failed hturn hcall hp ha hdone⟩
        · cases hq

end Run

end Tablewright
