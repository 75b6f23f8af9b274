/-
Carrying out one call: when it has an outcome, when it fails, and what is recorded of it.

A call passes three doors, its tool, its arguments and the tool's own work, and the inversion
lemmas say which of them it passed. A failure that has an answer becomes a failed step; the others
leave the run. Folding an outcome in and recording the arguments of a failed call can fail as well,
and both have a lemma of their own.

A call that passes the first two doors comes to an input, and then it does the work of the tool on that
input (`performCall_of_input?`). Any other call fails in a way that depends on nothing but the call
(`performCall_of_no_input`).
-/
import Tablewright.Proofs.Action
import Tablewright.Run.Step

set_option autoImplicit false

namespace Tablewright

/-- How a failure is answered inside a run, by the kind and the message of a failed step. Failures
without an answer leave the run. -/
def Failure.answer? : Failure → Option (Text × Text)
  | .refused r => some (r.kind.label, r.message)
  | .system e => some (systemKind, e.message)
  | _ => none

/-! ## Finding a tool -/

/-- A tool is found under its own name. -/
theorem ToolName.ofLabel?_label (t : ToolName) : ofLabel? t.label = some t := by
  cases t <;> decide +kernel

/-- A text is the name of at most one tool. -/
theorem ToolName.ofLabel?_eq_some_iff {s : Text} {t : ToolName} :
    ofLabel? s = some t ↔ s = t.label := by
  constructor
  · intro h
    have hs := List.find?_some h
    simpa using (of_decide_eq_true hs).symm
  · rintro rfl
    exact ofLabel?_label t

/-- Different tools have different names. -/
theorem ToolName.label_injective {t u : ToolName} (h : t.label = u.label) : t = u := by
  have ht := ofLabel?_label t
  rw [h, ofLabel?_label] at ht
  exact (Option.some.inj ht).symm

/-- A call finds exactly the tool whose name it gives. -/
theorem findTool_ok_iff {name : Json} {t : ToolName} :
    findTool name = .ok t ↔ name = .str t.label := by
  cases name with
  | str s =>
    have hs := @ToolName.ofLabel?_eq_some_iff s t
    rw [findTool]
    cases hf : ToolName.ofLabel? s with
    | none =>
      rw [hf] at hs
      simpa using hs
    | some u =>
      rw [hf] at hs
      simpa using hs
  | null | bool _ | int _ | float _ | arr _ | obj _ => simp [findTool]

/-! ## One call -/

/-- A call succeeds when its tool is found, its arguments are accepted and the tool has an
outcome. -/
theorem performCall_ok_iff {cfg : RunConfig} {call : ToolCall} {st : WorkflowState}
    {arguments : Members} {outcome : Outcome} {w w' : World} :
    (performCall cfg call st).run w = (.ok (arguments, outcome), w') ↔
      ∃ tool, findTool call.name = .ok tool ∧ tool.parse call.arguments = .ok arguments ∧
        (Tool.handle (cfg.context st) (ToolInput.ofMembers arguments tool)).run w
          = (.ok outcome, w') := by
  rw [performCall, Effect.bind_ok_iff]
  constructor
  · rintro ⟨tool, w₁, ht, h₁⟩
    obtain ⟨hfind, rfl⟩ := Action.ofRefusal_ok_iff.mp ht
    obtain ⟨args, w₂, ha, h₂⟩ := Effect.bind_ok_iff.mp h₁
    obtain ⟨hparse, rfl⟩ := Action.ofExcept_iff.mp ha
    obtain ⟨o, w₃, ho, h₃⟩ := Effect.bind_ok_iff.mp h₂
    obtain ⟨hpair, rfl⟩ := Effect.pure_ok_iff.mp h₃
    cases hpair
    exact ⟨tool, hfind, hparse, ho⟩
  · rintro ⟨tool, hfind, hparse, ho⟩
    refine ⟨tool, w, Action.ofRefusal_ok_iff.mpr ⟨hfind, rfl⟩, Effect.bind_ok_iff.mpr ?_⟩
    refine ⟨arguments, w, Action.ofExcept_iff.mpr ⟨hparse, rfl⟩, Effect.bind_ok_iff.mpr ?_⟩
    exact ⟨outcome, w', ho, Effect.pure_ok_iff.mpr ⟨rfl, rfl⟩⟩

/-- A call fails when its tool is not found, its arguments are not accepted or the tool fails. -/
theorem performCall_error_iff {cfg : RunConfig} {call : ToolCall} {st : WorkflowState}
    {f : Failure} {w w' : World} :
    (performCall cfg call st).run w = (.error f, w') ↔
      ((∃ r, findTool call.name = .error r ∧ f = .refused r) ∧ w' = w) ∨
        ∃ tool, findTool call.name = .ok tool ∧
          ((tool.parse call.arguments = .error f ∧ w' = w) ∨
            ∃ arguments, tool.parse call.arguments = .ok arguments ∧
              (Tool.handle (cfg.context st) (ToolInput.ofMembers arguments tool)).run w
                = (.error f, w')) := by
  rw [performCall, Effect.bind_error_iff, Action.ofRefusal_error_iff]
  refine or_congr_right ⟨?_, ?_⟩
  · rintro ⟨tool, w₁, ht, h₁⟩
    obtain ⟨hfind, rfl⟩ := Action.ofRefusal_ok_iff.mp ht
    refine ⟨tool, hfind, ?_⟩
    rcases Effect.bind_error_iff.mp h₁ with hp | ⟨args, w₂, ha, h₂⟩
    · exact .inl (Action.ofExcept_iff.mp hp)
    · obtain ⟨hparse, rfl⟩ := Action.ofExcept_iff.mp ha
      rcases Effect.bind_error_iff.mp h₂ with ho | ⟨_, _, -, h₃⟩
      · exact .inr ⟨args, hparse, ho⟩
      · exact absurd h₃ Effect.pure_ne_error
  · -- the other way round, each door is passed in turn until the one that is shut
    rintro ⟨tool, hfind, hrest⟩
    refine ⟨tool, w, Action.ofRefusal_ok_iff.mpr ⟨hfind, rfl⟩, Effect.bind_error_iff.mpr ?_⟩
    rcases hrest with hp | ⟨args, hparse, ho⟩
    · exact .inl (Action.ofExcept_iff.mpr hp)
    · refine .inr ⟨args, w, Action.ofExcept_iff.mpr ⟨hparse, rfl⟩, ?_⟩
      exact Effect.bind_error_iff.mpr (.inl ho)

/-- A call is carried out by its outcome or by the answer to its failure; a failure without an
answer is passed on. -/
theorem executeTool_run (cfg : RunConfig) (call : ToolCall) (st : WorkflowState) (n : Nat)
    (w : World) :
    (executeTool cfg call st n).run w =
      match (performCall cfg call st).run w with
      | (.ok (arguments, outcome), w') => (finishedCall cfg call st n arguments outcome, w')
      | (.error f, w') =>
        match f.answer? with
        | some (kind, message) => (failedCall call st n kind message, w')
        | none => (.error f, w') := by
  rw [executeTool, Action.ofFunction, ExceptT.run]
  rcases (performCall cfg call st).run w with ⟨f | ⟨arguments, outcome⟩, w₁⟩
  · cases f <;> rfl
  · rfl

/-- The three ways in which carrying out a call can come out, success or not. -/
theorem executeTool_cases {cfg : RunConfig} {call : ToolCall} {st : WorkflowState} {n : Nat}
    {q : Except Failure Executed} {w w' : World}
    (h : (executeTool cfg call st n).run w = (q, w')) :
    (∃ arguments outcome, (performCall cfg call st).run w = (.ok (arguments, outcome), w') ∧
      finishedCall cfg call st n arguments outcome = q) ∨
    (∃ f kind message, (performCall cfg call st).run w = (.error f, w') ∧
      f.answer? = some (kind, message) ∧ failedCall call st n kind message = q) ∨
    ∃ f, (performCall cfg call st).run w = (.error f, w') ∧ f.answer? = none ∧ q = .error f := by
  rw [executeTool_run] at h
  rcases hp : (performCall cfg call st).run w with ⟨f | ⟨arguments, outcome⟩, w₁⟩
  all_goals rw [hp] at h
  · cases ha : f.answer? with
    | some answer =>
      obtain ⟨kind, message⟩ := answer
      simp only [ha] at h
      obtain ⟨hq, rfl⟩ := Prod.mk.inj h
      exact .inr (.inl ⟨f, kind, message, rfl, ha, hq⟩)
    | none =>
      simp only [ha] at h
      obtain ⟨hq, rfl⟩ := Prod.mk.inj h
      exact .inr (.inr ⟨f, rfl, ha, hq.symm⟩)
  · obtain ⟨hq, rfl⟩ := Prod.mk.inj h
    exact .inl ⟨arguments, outcome, rfl, hq⟩

/-- A call that had an outcome is carried out exactly when the outcome can be folded in, and then
it is recorded with its complete arguments. -/
theorem finishedCall_ok_iff {cfg : RunConfig} {call : ToolCall} {st : WorkflowState} {n : Nat}
    {arguments : Members} {outcome : Outcome} {done : Executed} :
    finishedCall cfg call st n arguments outcome = .ok done ↔
      ∃ next, outcome.apply st = .ok next ∧ done =
        { state := next
          step := { number := n, tool := call.name, input := .obj arguments, ok := outcome.ok
                    output := outcome.message
                    errorKind := if outcome.ok then none else some "partial" }
          observation := truncateObservation cfg.maxObservation outcome.observation } := by
  rw [finishedCall, Effect.result_bind_ok_iff]
  simp only [liftRefusal_ok_iff]
  refine exists_congr fun next => and_congr_right fun _ => ?_
  simp only [pure, Except.pure, Except.ok.injEq, eq_comm]

/-- A call that failed is carried out exactly when its arguments can be recorded, and then the
state is as it was. -/
theorem failedCall_ok_iff {call : ToolCall} {st : WorkflowState} {n : Nat} {kind message : Text}
    {done : Executed} :
    failedCall call st n kind message = .ok done ↔
      ∃ input, recordedArguments call.arguments = .ok input ∧ done =
        { state := st
          step := { number := n, tool := call.name, input, ok := false, output := message
                    errorKind := some kind }
          observation := Wording.failure call.name kind message } := by
  rw [failedCall, Effect.result_bind_ok_iff]
  simp only [pure, Except.pure, Except.ok.injEq, eq_comm]

/-- Folding an outcome in only fails by being refused. -/
theorem finishedCall_error_iff {cfg : RunConfig} {call : ToolCall} {st : WorkflowState} {n : Nat}
    {arguments : Members} {outcome : Outcome} {f : Failure} :
    finishedCall cfg call st n arguments outcome = .error f ↔
      ∃ r, outcome.apply st = .error r ∧ f = .refused r := by
  rw [finishedCall, Effect.result_bind_error_iff, liftRefusal_error_iff]
  constructor
  · rintro (h | ⟨_, -, h⟩)
    · exact h
    · cases h
  · exact .inl

/-- The arguments of a failed call cannot be recorded exactly when they are a text in which a
number has too many digits or the values nest too deep. -/
theorem recordedArguments_error_iff {arguments : Json} {f : Failure} :
    recordedArguments arguments = .error f ↔
      ∃ s, arguments = .str s ∧
        ((∃ k, Json.read argumentDepth s = .error (.tooManyDigits k) ∧
            f = .badValue (.tooManyDigits k)) ∨
          (Json.read argumentDepth s = .error .tooDeep ∧ f = .defect .tooDeep)) := by
  cases arguments with
  | str s =>
    rw [recordedArguments]
    rcases hr : Json.read argumentDepth s with e | v
    · cases e <;> simp [hr, eq_comm]
    · cases v <;> simp [hr]
  | null | bool _ | int _ | float _ | arr _ | obj _ => simp [recordedArguments]

/-- A failed call is not carried out exactly when its arguments cannot be recorded. -/
theorem failedCall_error_iff {call : ToolCall} {st : WorkflowState} {n : Nat} {kind message : Text}
    {f : Failure} :
    failedCall call st n kind message = .error f ↔
      recordedArguments call.arguments = .error f := by
  rw [failedCall, Effect.result_bind_error_iff]
  constructor
  · rintro (h | ⟨_, -, h⟩)
    · exact h
    · cases h
  · exact .inl

/-- A call inside a run is interrupted exactly when its tool is. -/
theorem executeTool_interrupted_iff {cfg : RunConfig} {call : ToolCall} {st : WorkflowState}
    {n : Nat} {w w' : World} :
    (executeTool cfg call st n).run w = (.error .interrupted, w') ↔
      (performCall cfg call st).run w = (.error .interrupted, w') := by
  constructor
  · intro h
    rcases executeTool_cases h with ⟨_, _, -, hfin⟩ | ⟨_, _, _, -, -, hfail⟩ | ⟨f, hp, -, hf⟩
    · obtain ⟨_, -, hf⟩ := finishedCall_error_iff.mp hfin
      cases hf
    · rw [failedCall_error_iff, recordedArguments_error_iff] at hfail
      obtain ⟨_, -, ⟨_, -, hf⟩ | ⟨-, hf⟩⟩ := hfail
      · cases hf
      · cases hf
    · cases hf
      exact hp
  · intro h
    rw [executeTool_run, h]
    rfl

/-! ## The input a call comes to -/

namespace Run

/-- The input a call comes to, if its tool is found and its arguments are accepted. -/
def input? (call : ToolCall) : Option ToolInput :=
  match findTool call.name with
  | .ok tool => (tool.parse call.arguments).toOption.map fun ms => ToolInput.ofMembers ms tool
  | .error _ => none

theorem input?_eq {call : ToolCall} {tool : ToolName} {arguments : Members}
    (hfind : findTool call.name = .ok tool) (hparse : tool.parse call.arguments = .ok arguments) :
    input? call = some (ToolInput.ofMembers arguments tool) := by
  rw [input?, hfind]
  dsimp only
  rw [hparse]
  rfl

variable {call : ToolCall} {input : ToolInput}

/-- A call that comes to an input finds its tool and has its arguments accepted. -/
theorem exists_of_input? (h : input? call = some input) :
    ∃ tool arguments, findTool call.name = .ok tool ∧ tool.parse call.arguments = .ok arguments ∧
      ToolInput.ofMembers arguments tool = input := by
  rw [input?] at h
  split at h
  case h_1 tool hfind =>
    obtain ⟨arguments, hparse, hinput⟩ := Effect.result_ok_of_map h
    exact ⟨tool, arguments, hfind, hparse, hinput⟩
  case h_2 => cases h

/-- A call that comes to an input does the work of its tool, with the arguments that were
accepted. -/
theorem performCall_of_input? (cfg : RunConfig) (st : WorkflowState)
    (hinput : input? call = some input) :
    ∃ arguments, ∀ w, (performCall cfg call st).run w =
      match (Tool.handle (cfg.context st) input).run w with
      | (.ok o, w') => (.ok (arguments, o), w')
      | (.error f, w') => (.error f, w') := by
  obtain ⟨tool, arguments, hfind, hparse, rfl⟩ := exists_of_input? hinput
  refine ⟨arguments, fun w => ?_⟩
  rcases hrun : (Tool.handle (cfg.context st) (ToolInput.ofMembers arguments tool)).run w
    with ⟨f | o, w'⟩
  · exact performCall_error_iff.mpr (.inr ⟨tool, hfind, .inr ⟨arguments, hparse, hrun⟩⟩)
  · exact performCall_ok_iff.mpr ⟨tool, hfind, hparse, hrun⟩

/-- A call that comes to no input fails, whatever the world is, and leaves it alone. -/
theorem performCall_of_no_input (cfg : RunConfig) (st : WorkflowState) (h : input? call = none) :
    ∃ f, ∀ w, (performCall cfg call st).run w = (.error f, w) := by
  cases hfind : findTool call.name with
  | error r =>
    exact ⟨.refused r, fun w => performCall_error_iff.mpr (.inl ⟨⟨r, hfind, rfl⟩, rfl⟩)⟩
  | ok tool =>
    cases hparse : tool.parse call.arguments with
    | error f =>
      exact ⟨f, fun w => performCall_error_iff.mpr (.inr ⟨tool, hfind, .inl ⟨hparse, rfl⟩⟩)⟩
    | ok arguments =>
      rw [input?_eq hfind hparse] at h
      cases h

end Run

end Tablewright
