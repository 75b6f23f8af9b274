/-
The states calls lead to.

`Reachable` collects the states that come of the entities found in a request by calls carried out
one after another, in any order and with any arguments, each in a world of its own. A record of the
calls, `Deed` by `Deed`, goes with every state. `stateAfter_cases` says once what a call does to a
state: it folds in the outcome of its tool, which has a lesson, or it leaves the state as it was.
Every fact about reachable states is an induction with these two cases.

The first such fact is that tracked names are keys: none stands twice, and all are canonical. Beside
it stands what a call does to the entries that are there: they keep their places, their names and
their stages, and the entities found in a request change nothing of them at all.
-/
import Tablewright.Proofs.Run.Preview
import Tablewright.Proofs.Tool.Created
import Tablewright.Proofs.Workflow.Growth

set_option autoImplicit false

namespace Tablewright

namespace Run

/-! ## One call -/

/-- The state a call leaves when it is carried out in a state and a world. -/
def stateAfter (cfg : RunConfig) (call : ToolCall) (st : WorkflowState) (n : Nat) (w : World) :
    WorkflowState := stateOf st ((executeTool cfg call st n).run w).1

/-- A call folds in the outcome of its tool, or it has no outcome and leaves the state. -/
theorem stateAfter_cases (cfg : RunConfig) (call : ToolCall) (st : WorkflowState) (n : Nat)
    (w : World) :
    (∃ tool arguments o w', findTool call.name = .ok tool ∧
      (performCall cfg call st).run w = (.ok (arguments, o), w') ∧
      (Tool.handle (cfg.context st) (ToolInput.ofMembers arguments tool)).run w = (.ok o, w') ∧
      o.apply st = .ok (stateAfter cfg call st n w)) ∨
    ((∃ f w', (performCall cfg call st).run w = (.error f, w')) ∧
      stateAfter cfg call st n w = st) := by
  rcases hx : (executeTool cfg call st n).run w with ⟨q, w'⟩
  have hstate : stateAfter cfg call st n w = stateOf st q := by rw [stateAfter, hx]
  rcases executeTool_cases hx with ⟨arguments, o, hp, hfin⟩ | ⟨f, _, _, hp, -, hfail⟩ |
    ⟨f, hp, -, rfl⟩
  · obtain ⟨tool, hfind, -, hrun⟩ := performCall_ok_iff.mp hp
    obtain ⟨st', happly⟩ := (Tool.handle_lesson hrun).apply_ok
    have happly' : o.apply st = .ok st' := happly
    refine .inl ⟨tool, arguments, o, w', hfind, hp, hrun, ?_⟩
    cases q with
    | error f =>
      -- the outcome can be folded in, so nothing is left to go wrong
      obtain ⟨r, hr, -⟩ := finishedCall_error_iff.mp hfin
      rw [happly'] at hr
      cases hr
    | ok done =>
      obtain ⟨next, hnext, rfl⟩ := finishedCall_ok_iff.mp hfin
      rw [hstate]
      exact hnext
  · refine .inr ⟨⟨f, w', hp⟩, ?_⟩
    rw [hstate]
    cases q with
    | error _ => rfl
    | ok done =>
      obtain ⟨_, -, rfl⟩ := failedCall_ok_iff.mp hfail
      rfl
  · exact .inr ⟨⟨f, w', hp⟩, hstate⟩

/-- A call that had an outcome leaves the state it is recorded with. -/
theorem stateAfter_of_finishedCall {cfg : RunConfig} {call : ToolCall} {st : WorkflowState}
    {n : Nat} {arguments : Members} {o : Outcome} {done : Executed} {w w' : World}
    (h : (performCall cfg call st).run w = (.ok (arguments, o), w'))
    (hdone : finishedCall cfg call st n arguments o = .ok done) :
    stateAfter cfg call st n w = done.state := by
  rw [stateAfter, executeTool_run, h]
  dsimp only
  rw [hdone]
  rfl

/-! ## Calls one after another -/

/-- A call that was carried out, with what came of its tool. -/
structure Deed where
  /-- The call. -/
  call : ToolCall
  /-- The arguments it was carried out with and the outcome, or why there is none. -/
  result : Except Failure (Members × Outcome)

/-- The call carried out in a state and a world. -/
def Deed.of (cfg : RunConfig) (call : ToolCall) (st : WorkflowState) (w : World) : Deed :=
  ⟨call, ((performCall cfg call st).run w).1⟩

/-- The states that calls lead to from the entities found in a request, each with the calls so far.
Between two calls the world may change in any way. -/
inductive Reachable (cfg : RunConfig) (request : Text) : List Deed → WorkflowState → Prop
  | found : Reachable cfg request [] (start request cfg.dryRun).state
  | call {deeds : List Deed} {st : WorkflowState} (h : Reachable cfg request deeds st)
      (call : ToolCall) (n : Nat) (w : World) :
      Reachable cfg request (deeds ++ [.of cfg call st w]) (stateAfter cfg call st n w)

section Reachable

variable {cfg : RunConfig} {request : Text}

/-- Every state a run comes to is reachable. -/
theorem Reached.reachable {engine : Engine} {w₀ w : World} {history : List Occurrence} {s : Session}
    (h : Reached cfg engine request w₀ history s w) :
    ∃ deeds, Reachable cfg request deeds s.state := by
  induction h with
  | origin => exact ⟨[], .found⟩
  | @next history s s' w w' o _ _ ha ih =>
    obtain ⟨deeds, hs⟩ := ih
    rcases ha.state_cases with ⟨-, hsame⟩ | ⟨reply, call, tool, arguments, o, done, rfl, -⟩
    · exact ⟨deeds, hsame ▸ hs⟩
    · cases ha with
      | finished hturn hcall hfind hparse hrun hdone =>
        have hperform : (performCall cfg call s.state).run w = (.ok (arguments, o), w') :=
          performCall_ok_iff.mpr ⟨tool, hfind, hparse, hrun⟩
        have hafter := stateAfter_of_finishedCall hperform hdone
        exact ⟨_, hafter ▸ hs.call call s.nextNumber w⟩

/-- **Tracked names are keys.** In every reachable state no name is tracked twice, and every tracked
name is a canonical one. -/
theorem Reachable.sound {deeds : List Deed} {st : WorkflowState}
    (h : Reachable cfg request deeds st) : st.Sound := by
  induction h with
  | found => exact WorkflowState.sound_empty.discoverAll fun _ he => Segmentation.canonical_name he
  | @call deeds st _ call n w ih =>
    rcases stateAfter_cases cfg call st n w with ⟨_, _, o, _, -, -, hrun, happly⟩ | ⟨-, heq⟩
    · have hlesson := Tool.handle_lesson hrun
      refine ih.apply (fun e he => ?_) (fun e he => ?_) happly
      · rw [hlesson.discovered_eq] at he
        exact Tool.canonical_name_of_mem_found he
      · rw [hlesson.defined_eq] at he
        exact Tool.canonical_name_of_mem_created he
    · rw [heq]
      exact ih

/-! ## What a call does to the entries that are there -/

/-- What holds of every call: its outcome is folded in without fail, the entries that are there go
on at their places, and the analysis of a request changes nothing of them. -/
structure CallGrows (cfg : RunConfig) (call : ToolCall) (st : WorkflowState) (n : Nat) (w : World) :
    Prop where
  /-- Once its tool had an outcome the call is carried out, and where a stage is completed the name
  is tracked. -/
  folds : ∀ arguments o w', (performCall cfg call st).run w = (.ok (arguments, o), w') →
    (∀ c ∈ o.completed, c.1 ∈ ((st.discoverAll o.discovered).defineAll o.defined).names) ∧
      ∃ done, (executeTool cfg call st n).run w = (.ok done, w') ∧ o.apply st = .ok done.state
  /-- Entries keep their places, their names and their completed stages; new ones come last. -/
  grows : st.GrowsTo (stateAfter cfg call st n w)
  /-- The analysis of a request adds entries and leaves the others exactly as they are. -/
  analysis : call.name = .str ToolName.analyzeRequest.label →
    ∃ new, (stateAfter cfg call st n w).entities = st.entities ++ new

/-- An outcome is folded in without fail. -/
private theorem outcome_folds {call : ToolCall} {st : WorkflowState} {arguments : Members}
    {o : Outcome} {w w' : World} (h : (performCall cfg call st).run w = (.ok (arguments, o), w'))
    (n : Nat) :
    (∀ c ∈ o.completed, c.1 ∈ ((st.discoverAll o.discovered).defineAll o.defined).names) ∧
      ∃ done, (executeTool cfg call st n).run w = (.ok done, w') ∧ o.apply st = .ok done.state := by
  obtain ⟨tool, -, -, hrun⟩ := performCall_ok_iff.mp h
  obtain ⟨st', happly⟩ := (Tool.handle_lesson hrun).apply_ok
  have hfold : o.apply st = .ok st' := happly
  constructor
  · intro c hc
    have hhas : st'.has c.1 c.2 = true := (WorkflowState.apply_has_iff hfold c.1 c.2).mpr (.inr hc)
    rw [← WorkflowState.names_completeAll hfold]
    exact WorkflowState.mem_names_of_has hhas
  · rcases hq : finishedCall cfg call st n arguments o with f | done
    · obtain ⟨r, hr, -⟩ := finishedCall_error_iff.mp hq
      rw [hfold] at hr
      cases hr
    · obtain ⟨next, hnext, hdone⟩ := finishedCall_ok_iff.mp hq
      refine ⟨done, ?_, by rw [hdone]; exact hnext⟩
      rw [executeTool_run, h]
      dsimp only
      rw [hq]

theorem callGrows (cfg : RunConfig) (call : ToolCall) (st : WorkflowState) (n : Nat) (w : World) :
    CallGrows cfg call st n w where
  folds arguments o w' h := outcome_folds h n
  grows := by
    rcases stateAfter_cases cfg call st n w with ⟨_, _, _, _, -, -, -, happly⟩ | ⟨-, heq⟩
    · exact WorkflowState.growsTo_apply happly
    · rw [heq]
      exact .refl st
  analysis hname := by
    rcases stateAfter_cases cfg call st n w with ⟨tool, arguments, o, _, hfind, -, hrun, happly⟩ |
      ⟨-, heq⟩
    · obtain rfl : tool = .analyzeRequest := by
        have hlabel := findTool_ok_iff.mp hfind
        rw [hname] at hlabel
        exact (ToolName.label_injective (Json.str.inj hlabel)).symm
      -- all that is learnt is what was found, and that is put behind what is there
      cases Tool.handle_lesson hrun with
      | request =>
        have hstate := Except.ok.inj happly
        rw [← hstate]
        exact WorkflowState.entities_discoverAll st _
      | nothing _ _ _ _ hidle => cases hidle
    · exact ⟨[], by rw [heq, List.append_nil]⟩

/-- A call whose tool has an outcome is a turn after which the run goes on, in the state the call
leaves. -/
theorem exists_advance_of_outcome {engine : Engine} {s : Session} {reply : Reply} {call : ToolCall}
    {arguments : Members} {o : Outcome} {w w' : World} (hturn : engine s.asked.length = .ok reply)
    (hcall : reply.call = some call)
    (h : (performCall cfg call s.state).run w = (.ok (arguments, o), w')) :
    ∃ occurrence s', Advance cfg engine s w occurrence s' w' ∧
      s'.state = stateAfter cfg call s.state s.nextNumber w := by
  obtain ⟨tool, hfind, hparse, hrun⟩ := performCall_ok_iff.mp h
  obtain ⟨-, done, hdone, -⟩ := outcome_folds h s.nextNumber
  rw [executeTool_run, h] at hdone
  have hfinished := (Prod.mk.inj hdone).1
  exact ⟨_, _, .finished hturn hcall hfind hparse hrun hfinished,
    (stateAfter_of_finishedCall h hfinished).symm⟩

/-- **Workflow state invariant.** In every state that calls lead to from the entities found in a
request the tracked names are distinct and canonical, and whatever call comes next is folded in
without fail, leaves every entry at its place with its name and its completed stages, and changes
nothing at all of them when it analyses a request. -/
theorem workflow_invariant {deeds : List Deed} {st : WorkflowState}
    (h : Reachable cfg request deeds st) :
    st.Sound ∧ ∀ (call : ToolCall) (n : Nat) (w : World), CallGrows cfg call st n w :=
  ⟨h.sound, fun call n w => callGrows cfg call st n w⟩

end Reachable

/-- A call that writes the schema of an entity under a label that is no canonical name. -/
def respelledCall : ToolCall :=
  { id := .null
    name := .str "create_schema"
    arguments := .str "\x7b\"name\":\"FavoriteSongs\"\x7d" }

/-- The invariant at a state in which a found entity was written under another spelling of its
name. -/
theorem workflow_invariant_of_respelled : ∃ st,
    st = stateAfter (.single true) respelledCall (start "favorite songs" true).state 1 .bare ∧
      st.names = [Text.ofString "favorite_songs"] ∧ st.has "favorite_songs" .schemaWritten = true ∧
        st.Sound ∧
          ∀ (call : ToolCall) (n : Nat) (w : World), CallGrows (.single true) call st n w :=
  have hfound : Reachable (.single true) "favorite songs" [] (start "favorite songs" true).state :=
    .found
  ⟨_, rfl, by decide +kernel, by decide +kernel,
    workflow_invariant (hfound.call respelledCall 1 .bare)⟩

end Run

end Tablewright
