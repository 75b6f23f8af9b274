/-
A failed call changes nothing it must not.

A call is turned down when its tool is not found, when its arguments are not accepted, or at a
check of its tool. All of these come before the first effect, so the world is left as it was, files
and processes alike, in a dry run and in a real one. `FailsClean` says so of a call together with
the two facts around it: no failed call changes the state of the run, and a call that is refused
otherwise is refused for a path or for a process.
-/
import Tablewright.Proofs.Run.Reachable
import Tablewright.Proofs.Tool.Check

set_option autoImplicit false

namespace Tablewright

namespace Run

variable {cfg : RunConfig} {call : ToolCall} {st : WorkflowState} {w w' : World}

/-- The failures by which a call is turned down before it has any effect. -/
inductive TurnedDown (cfg : RunConfig) (call : ToolCall) (st : WorkflowState) (w : World) :
    Failure → Prop
  /-- There is no such tool. -/
  | tool {r : Refusal} (h : findTool call.name = .error r) : TurnedDown cfg call st w (.refused r)
  /-- The tool does not accept the arguments. -/
  | arguments {tool : ToolName} {f : Failure} (hfind : findTool call.name = .ok tool)
      (h : tool.parse call.arguments = .error f) : TurnedDown cfg call st w f
  /-- The tool turns down what it was given. -/
  | check {tool : ToolName} {arguments : Members} {r : Refusal}
      (hfind : findTool call.name = .ok tool) (hparse : tool.parse call.arguments = .ok arguments)
      (h : Tool.ToolCheck (cfg.context st) w.tree (ToolInput.ofMembers arguments tool) r) :
      TurnedDown cfg call st w (.refused r)

/-- A call that is turned down leaves the world as it was. -/
theorem TurnedDown.performCall_run {f : Failure} (h : TurnedDown cfg call st w f) :
    (performCall cfg call st).run w = (.error f, w) := by
  refine performCall_error_iff.mpr ?_
  cases h with
  | @tool r hfind => exact .inl ⟨⟨r, hfind, rfl⟩, rfl⟩
  | @arguments tool _ hfind hparse => exact .inr ⟨tool, hfind, .inl ⟨hparse, rfl⟩⟩
  | @check tool arguments _ hfind hparse hcheck =>
    exact .inr ⟨tool, hfind, .inr ⟨arguments, hparse, hcheck.handle_run⟩⟩

/-- A call that is refused is turned down, or it is refused for a path or for a process. -/
theorem turnedDown_of_performCall {r : Refusal}
    (h : (performCall cfg call st).run w = (.error (.refused r), w')) :
    TurnedDown cfg call st w (.refused r) ∨ r.ofPath = true ∨ r.ofProcess = true := by
  rcases performCall_error_iff.mp h with ⟨⟨q, hfind, hf⟩, -⟩ |
    ⟨tool, hfind, ⟨hparse, -⟩ | ⟨arguments, hparse, hrun⟩⟩
  · cases hf
    exact .inl (.tool hfind)
  · exact .inl (.arguments hfind hparse)
  · exact (Tool.toolCheck_of_handle hrun).imp_left fun hcheck => .check hfind hparse hcheck

/-- What holds of a call that fails. -/
structure FailsClean (cfg : RunConfig) (call : ToolCall) (st : WorkflowState) (n : Nat)
    (w : World) : Prop where
  /-- A step that failed, other than in part, leaves the state as it was. -/
  state : ∀ done w' kind, (executeTool cfg call st n).run w = (.ok done, w') →
    done.step.errorKind = some kind → kind ≠ "partial" → done.state = st
  /-- A call that is turned down fails with the very failure, and neither the state nor the world is
  changed. -/
  world : ∀ f, TurnedDown cfg call st w f →
    (performCall cfg call st).run w = (.error f, w) ∧
      stateAfter cfg call st n w = st ∧ ((executeTool cfg call st n).run w).2 = w
  /-- What a call is refused for otherwise is a path or a process. -/
  otherwise : ∀ r w', (performCall cfg call st).run w = (.error (.refused r), w') →
    TurnedDown cfg call st w (.refused r) ∨ r.ofPath = true ∨ r.ofProcess = true

/-- A call that fails is carried out in the world its tool left. -/
theorem executeTool_world {f : Failure} (h : (performCall cfg call st).run w = (.error f, w'))
    (n : Nat) : ((executeTool cfg call st n).run w).2 = w' := by
  rw [executeTool_run, h]
  dsimp only
  split <;> rfl

/-- **A failed call changes nothing it must not.** Whatever the call, the state and the world: a
failed step leaves the state of the run as it was, and a call that is turned down, for its tool, its
arguments, a missing stage or anything it was given, changes no file and starts no process. -/
theorem failed_call_is_clean (cfg : RunConfig) (call : ToolCall) (st : WorkflowState) (n : Nat)
    (w : World) : FailsClean cfg call st n w where
  state done w' kind hrun hkind hpartial := by
    rcases executeTool_cases hrun with ⟨_, o, -, hfin⟩ | ⟨_, _, _, -, -, hfail⟩ | ⟨_, -, -, hq⟩
    · -- a step with an outcome is a success or failed in part
      obtain ⟨_, -, rfl⟩ := finishedCall_ok_iff.mp hfin
      dsimp only at hkind
      split at hkind
      · cases hkind
      · exact absurd (Option.some.inj hkind).symm hpartial
    · obtain ⟨_, -, rfl⟩ := failedCall_ok_iff.mp hfail
      rfl
    · cases hq
  world f h := by
    have hperform := h.performCall_run
    refine ⟨hperform, ?_, executeTool_world hperform n⟩
    rcases stateAfter_cases cfg call st n w with ⟨_, _, _, _, -, hok, -⟩ | ⟨-, heq⟩
    · rw [hperform] at hok
      cases hok
    · exact heq
  otherwise r w' h := turnedDown_of_performCall h

/-- A call to replace a text that occurs twice. -/
def ambiguousCall : ToolCall :=
  { id := .null
    name := .str "edit_file"
    arguments := .str
      "\x7b\"path\":\"a.txt\",\"old_str\":\"a\",\"new_str\":\"b\"\x7d" }

/-- A world with a file in which the text stands twice. -/
def twiceWorld : World := { World.bare with tree := ⟨[(["a.txt"], .file [97, 97])]⟩ }

/-- Whether a call failed because a text occurs twice. -/
def failedByMatches : Except Failure (Members × Outcome) → Bool
  | .error (.refused (.manyMatches _ 2)) => true
  | _ => false

/-- In a real run the edit of a text that stands twice is turned down, and the world stays as it
is. -/
theorem ambiguous_edit_is_clean : ∃ r,
    TurnedDown (.single false) ambiguousCall .empty twiceWorld (.refused r) ∧
      r.kind = .ambiguousEdit ∧
      ((executeTool (.single false) ambiguousCall .empty 1).run twiceWorld).2 = twiceWorld := by
  have hfails : failedByMatches
      ((performCall (.single false) ambiguousCall .empty).run twiceWorld).1 = true := by
    decide +kernel
  have hclean := failed_call_is_clean (.single false) ambiguousCall .empty 1 twiceWorld
  rcases hrun : (performCall (.single false) ambiguousCall .empty).run twiceWorld with ⟨q, w'⟩
  rw [hrun] at hfails
  change failedByMatches q = true at hfails
  unfold failedByMatches at hfails
  split at hfails
  case h_1 path =>
    rcases hclean.otherwise _ w' hrun with hdown | hpath | hprocess
    · exact ⟨_, hdown, rfl, (hclean.world _ hdown).2.2⟩
    · cases hpath
    · cases hprocess
  case h_2 => cases hfails

end Run

end Tablewright
