/-
How a run ends.

A turn stops a run when it is interrupted or when its final answer is accepted, and every other
turn adds one step. The two are told from the point alone (`Stops`), so the cases of `Halts` with a
verdict are exactly the stopping turns, and a run that ends without one has used up its steps.

The status of a report is computed from the verdict and the last state; `Ending` collects what it
means.
-/
import Tablewright.Proofs.Run.Course

set_option autoImplicit false

namespace Tablewright

/-! ## Progress -/

/-- A state is finished exactly when its table shows no open stage. -/
theorem WorkflowState.isComplete_iff_progressRows (st : WorkflowState) :
    st.isComplete = true ↔ ∀ row ∈ st.progressRows, ∀ cell ∈ row.2, cell.2 = true := by
  rw [isComplete_iff]
  -- there is a row for each entity, with a cell for each stage
  constructor
  · intro h row hrow cell hcell
    obtain ⟨p, hp, rfl⟩ := List.mem_map.mp hrow
    obtain ⟨stage, -, rfl⟩ := List.mem_map.mp hcell
    exact h p hp stage
  · intro h p hp stage
    have hrow : (p.entity.name, Stage.all.map fun s => (s, p.has s)) ∈ st.progressRows :=
      List.mem_map.mpr ⟨p, hp, rfl⟩
    exact h _ hrow (stage, p.has stage) (List.mem_map.mpr ⟨stage, stage.mem_all, rfl⟩)

namespace Run

/-! ## Turns that stop a run -/

/-- An interrupt arrives, inside the engine or inside the tool it called. -/
def Interrupted (cfg : RunConfig) (engine : Engine) (s : Session) (w : World) : Prop :=
  engine s.asked.length = .error .interrupted ∨
    ∃ reply call w', engine s.asked.length = .ok reply ∧ reply.call = some call ∧
      (performCall cfg call s.state).run w = (.error .interrupted, w')

/-- A reply is a final answer, given while every tracked entity has completed every stage. -/
def Accepted (engine : Engine) (s : Session) (reply : Reply) : Prop :=
  engine s.asked.length = .ok reply ∧ reply.isFinal = true ∧
    ∀ p ∈ s.state.entities, ∀ stage, p.has stage = true

/-- The turn stops the run: by an interrupt or by an accepted final answer. -/
def Stops (cfg : RunConfig) (engine : Engine) (s : Session) (w : World) : Prop :=
  Interrupted cfg engine s w ∨ ∃ reply, Accepted engine s reply

section Turns

variable {cfg : RunConfig} {engine : Engine} {s s' : Session} {w w' : World}

/-- A failure of the engine stops the run exactly when it is an interrupt. -/
theorem stops_iff_of_error {f : Failure} (hturn : engine s.asked.length = .error f) :
    Stops cfg engine s w ↔ f = .interrupted := by
  constructor
  · rintro ((hi | ⟨_, _, _, hi, -⟩) | ⟨_, hi, -⟩)
    all_goals
      rw [hturn] at hi
      cases hi
    rfl
  · rintro rfl
    exact .inl (.inl hturn)

/-- A final answer stops the run exactly when the state is finished. -/
theorem stops_iff_of_final {reply : Reply} (hturn : engine s.asked.length = .ok reply)
    (hfinal : reply.call = none) : Stops cfg engine s w ↔ s.state.isComplete = true := by
  rw [WorkflowState.isComplete_iff]
  constructor
  · rintro ((hi | ⟨_, _, _, hi, hcall, -⟩) | ⟨_, -, -, hdone⟩)
    · rw [hturn] at hi
      cases hi
    · rw [hturn] at hi
      cases hi
      rw [hfinal] at hcall
      cases hcall
    · exact hdone
  · intro hdone
    refine .inr ⟨reply, hturn, ?_, hdone⟩
    rw [Reply.isFinal, hfinal]
    rfl

/-- A call stops the run exactly when it is interrupted. -/
theorem stops_iff_of_call {reply : Reply} {call : ToolCall}
    (hturn : engine s.asked.length = .ok reply) (hcall : reply.call = some call) :
    Stops cfg engine s w ↔
      ∃ w', (performCall cfg call s.state).run w = (.error .interrupted, w') := by
  constructor
  · rintro ((hi | ⟨_, _, w', hi, hcall', hrun⟩) | ⟨_, hi, hfinal, -⟩)
    · rw [hturn] at hi
      cases hi
    · rw [hturn] at hi
      cases hi
      rw [hcall] at hcall'
      cases hcall'
      exact ⟨w', hrun⟩
    · rw [hturn] at hi
      cases hi
      rw [Reply.isFinal, hcall] at hfinal
      cases hfinal
  · rintro ⟨w', hrun⟩
    exact .inl (.inr ⟨reply, call, w', hturn, hcall, hrun⟩)

/-- A turn after which the run goes on does not stop it. -/
theorem Advance.not_stops {o : Occurrence} (h : Advance cfg engine s w o s' w') :
    ¬ Stops cfg engine s w := by
  cases h with
  | refused hturn hr =>
    rw [stops_iff_of_error hturn]
    intro hi
    cases hi
  | corrected hturn hfinal hopen =>
    rw [stops_iff_of_final hturn hfinal, hopen]
    exact Bool.false_ne_true
  | failed hturn hcall hrun hanswer hdone =>
    rw [stops_iff_of_call hturn hcall, hrun]
    rintro ⟨_, hi⟩
    cases hi
    cases hanswer
  | finished hturn hcall hfind hparse hrun hdone =>
    rw [stops_iff_of_call hturn hcall, performCall_ok_iff.mpr ⟨_, hfind, hparse, hrun⟩]
    rintro ⟨_, hi⟩
    cases hi

/-- A turn that ends the run with a verdict is one that stops it, and the verdict says how. -/
theorem Halts.ok_cases {last : Session} {v : Verdict}
    (h : Halts cfg engine s w (.ok (last, v)) w') :
    last.asked.length = s.asked.length + 1 ∧
      ((Interrupted cfg engine s w ∧ v = .interrupted) ∨
        ∃ reply, Accepted engine s reply ∧ v = .answered reply.text) := by
  cases h with
  | @answered reply hturn hfinal hdone =>
    refine ⟨s.length_ask_asked, .inr ⟨reply, ⟨hturn, ?_, ?_⟩, rfl⟩⟩
    · rw [Reply.isFinal, hfinal]
      rfl
    · exact (s.state.isComplete_iff).mp hdone
  | interrupted hturn => exact ⟨s.length_ask_asked, .inl ⟨.inl hturn, rfl⟩⟩
  | @cut reply call _ hturn hcall hrun =>
    refine ⟨s.length_ask_asked, .inl ⟨.inr ⟨reply, call, w', hturn, hcall, ?_⟩, rfl⟩⟩
    exact executeTool_interrupted_iff.mp hrun

/-- An interrupt ends the run with the verdict of an interrupt. -/
theorem Interrupted.halts (h : Interrupted cfg engine s w) :
    ∃ last w', Halts cfg engine s w (.ok (last, .interrupted)) w' := by
  rcases h with hturn | ⟨reply, call, w', hturn, hcall, hrun⟩
  · exact ⟨_, _, .interrupted hturn⟩
  · exact ⟨_, _, .cut hturn hcall (executeTool_interrupted_iff.mpr hrun)⟩

end Turns

/-! ## Reports -/

/-- A run is cancelled exactly when its verdict is an interrupt. -/
theorem status_cancelled_iff (s : Session) (v : Verdict) :
    status s v = .cancelled ↔ v = .interrupted := by
  cases v with
  | answered text =>
    rw [status]
    split <;> simp
  | interrupted => simp [status]
  | exhausted =>
    rw [status]
    split <;> simp

/-- A run that needs clarification tracks nothing. -/
theorem entities_eq_nil_of_clarification {s : Session} {v : Verdict}
    (h : status s v = .needsClarification) : s.state.entities = [] := by
  cases v with
  | answered text =>
    simp only [status] at h
    split at h
    case isTrue he => exact List.isEmpty_iff.mp he
    case isFalse => cases h
  | interrupted => cases h
  | exhausted =>
    simp only [status] at h
    split at h <;> cases h

/-- A run that exhausted its budget was not answered, and it tracks nothing or is not finished. -/
theorem open_of_budgetExhausted {s : Session} {v : Verdict}
    (h : status s v = .budgetExhausted) :
    v = .exhausted ∧ (s.state.entities = [] ∨ s.state.isComplete = false) := by
  cases v with
  | answered text =>
    simp only [status] at h
    split at h <;> cases h
  | interrupted => cases h
  | exhausted =>
    refine ⟨rfl, ?_⟩
    simp only [status] at h
    split at h
    case isTrue => cases h
    case isFalse hc =>
      -- the status asks for both at once
      by_cases he : s.state.entities = []
      · exact .inl he
      · right
        cases hdone : s.state.isComplete with
        | true => simp [hdone, he] at hc
        | false => rfl

/-- How a reported run ended, and what its report says of it. -/
structure Ending (cfg : RunConfig) (engine : Engine) (request : Text) (w₀ : World)
    (result : RunReport) (last : Session) : Prop where
  /-- The engine is asked at most as often as there are steps to spend. -/
  asked : (last.asked.length : Int) ≤ cfg.budget
  /-- The steps are numbered from one. -/
  numbers : result.steps.map Step.number = List.range' 1 result.steps.length
  /-- There are at most as many steps as there were to spend. -/
  spent : (result.steps.length : Int) ≤ cfg.budget
  /-- The engine is asked for one step after another. A turn that stops the run is the last one and
  adds no step; every other turn adds exactly one. -/
  calls : ∀ k < last.asked.length, ∃ history s w, Reached cfg engine request w₀ history s w ∧
    s.asked.length = k ∧ s.steps = result.steps.take k ∧
      ((Stops cfg engine s w ∧ k + 1 = last.asked.length ∧ result.steps = s.steps) ∨
        (¬ Stops cfg engine s w ∧ ∃ o s' w', Advance cfg engine s w o s' w' ∧
          s'.steps = s.steps ++ [o.step] ∧ s'.steps = result.steps.take (k + 1)))
  /-- The run is cancelled exactly when an interrupt arrived. -/
  cancelled : result.status = .cancelled ↔ ∃ history s w,
    Reached cfg engine request w₀ history s w ∧ (history.length : Int) < cfg.budget ∧
      Interrupted cfg engine s w
  /-- A run that is not cancelled and has steps left was ended by a final answer, given while
  every tracked entity had completed every stage. -/
  early : result.status ≠ .cancelled → (result.steps.length : Int) < cfg.budget →
    last.asked.length = result.steps.length + 1 ∧
      ∃ reply, engine result.steps.length = .ok reply ∧ reply.isFinal = true ∧
        ∀ p ∈ result.state.entities, ∀ stage, p.has stage = true
  /-- A completed run tracks something, and its table of progress has no gap. -/
  completed : result.status = .completed → result.state.entities ≠ [] ∧
    ∀ row ∈ result.progressRows, ∀ cell ∈ row.2, cell.2 = true
  /-- A run that needs clarification tracks nothing. -/
  clarification : result.status = .needsClarification → result.state.entities = []
  /-- A run that exhausted its budget spent all of it, and it tracks nothing or its table of
  progress has a gap. -/
  exhausted : result.status = .budgetExhausted → (result.steps.length : Int) = cfg.budget ∧
    (result.state.entities = [] ∨ ∃ row ∈ result.progressRows, ∃ cell ∈ row.2, cell.2 = false)
  /-- A final answer is reported only when the last reply was accepted, and it is its text. -/
  answer : result.finalAnswer ≠ none → ∃ history s w reply,
    Reached cfg engine request w₀ history s w ∧ last.asked.length = s.asked.length + 1 ∧
      Accepted engine s reply ∧ result.finalAnswer = reply.text

section Reports

variable {cfg : RunConfig} {engine : Engine} {request : Text} {w₀ w w' : World}
  {history : List Occurrence} {s last : Session} {v : Verdict}

/-- A run with a verdict has used up its steps, or its last turn stopped it. -/
theorem Ends.verdict_cases (h : Ends cfg engine request w₀ history s w (.ok (last, v)) w') :
    (history.length = cfg.budget.toNat ∧ last.asked.length = history.length ∧ v = .exhausted) ∨
      (history.length < cfg.budget.toNat ∧ last.asked.length = history.length + 1 ∧
        ((Interrupted cfg engine s w ∧ v = .interrupted) ∨
          ∃ reply, Accepted engine s reply ∧ v = .answered reply.text)) := by
  cases h with
  | exhausted h hfull => exact .inl ⟨hfull, h.length_asked, rfl⟩
  | halted h hleft hh =>
    obtain ⟨hasked, hcases⟩ := hh.ok_cases
    exact .inr ⟨hleft, by rw [hasked, h.length_asked], hcases⟩

/-- Every question to the engine is asked at a point the run comes to, and unless its turn stops
the run it is answered by the next step. -/
theorem Ends.calls (h : Ends cfg engine request w₀ history s w (.ok (last, v)) w') {k : Nat}
    (hk : k < last.asked.length) :
    ∃ history' s₁ w₁, Reached cfg engine request w₀ history' s₁ w₁ ∧ s₁.asked.length = k ∧
      s₁.steps = last.steps.take k ∧
        ((Stops cfg engine s₁ w₁ ∧ k + 1 = last.asked.length ∧ last.steps = s₁.steps) ∨
          (¬ Stops cfg engine s₁ w₁ ∧ ∃ o s₂ w₂, Advance cfg engine s₁ w₁ o s₂ w₂ ∧
            s₂.steps = s₁.steps ++ [o.step] ∧ s₂.steps = last.steps.take (k + 1))) := by
  have hr := h.reached
  have hsteps : last.steps = history.map Occurrence.step := h.last_eq.1.trans hr.steps_eq
  by_cases hlt : k < history.length
  · -- the turn is in the history
    have hsplit : history = history.take k ++ history[k] :: history.drop (k + 1) := by
      rw [← List.drop_eq_getElem_cons hlt, List.take_append_drop]
    have htake : history.take (k + 1) = history.take k ++ [history[k]] :=
      List.take_succ_eq_append_getElem hlt
    rw [hsplit] at hr
    obtain ⟨s₁, w₁, s₂, w₂, h₁, -, ha, h₂⟩ := hr.split
    refine ⟨history.take k, s₁, w₁, h₁, ?_, ?_, .inr ⟨ha.not_stops, _, s₂, w₂, ha, ha.steps_eq, ?_⟩⟩
    · rw [h₁.length_asked, List.length_take_of_le (Nat.le_of_lt hlt)]
    · rw [hsteps, h₁.steps_eq, List.map_take]
    · rw [hsteps, h₂.steps_eq, ← htake, List.map_take]
  · -- the turn is the last one, after the history
    have hlast : last.asked.length = history.length + 1 ∧ Stops cfg engine s w := by
      rcases h.verdict_cases with ⟨-, hasked, -⟩ | ⟨-, hasked, ⟨hi, -⟩ | ⟨reply, ha, -⟩⟩
      · omega
      · exact ⟨hasked, .inl hi⟩
      · exact ⟨hasked, .inr ⟨reply, ha⟩⟩
    obtain rfl : k = history.length := by omega
    refine ⟨history, s, w, hr, hr.length_asked, ?_, .inl ⟨hlast.2, hlast.1.symm, h.last_eq.1⟩⟩
    rw [h.last_eq.1, ← hr.length_steps, List.take_length]

/-- A run has the verdict of an interrupt exactly when one arrived. -/
theorem Ends.interrupted_iff (h : Ends cfg engine request w₀ history s w (.ok (last, v)) w') :
    v = .interrupted ↔ ∃ history' s₁ w₁, Reached cfg engine request w₀ history' s₁ w₁ ∧
      history'.length < cfg.budget.toNat ∧ Interrupted cfg engine s₁ w₁ := by
  constructor
  · intro hv
    rcases h.verdict_cases with ⟨-, -, rfl⟩ | ⟨hleft, -, ⟨hi, -⟩ | ⟨reply, -, rfl⟩⟩
    · cases hv
    · exact ⟨history, s, w, h.reached, hleft, hi⟩
    · cases hv
  · -- an interrupt ends the run there, and a run ends in one way only
    rintro ⟨history', s₁, w₁, hr, hleft, hi⟩
    obtain ⟨last', w'', hh⟩ := hi.halts
    have hend : Ends cfg engine request w₀ history' s₁ w₁ (.ok (last', .interrupted)) w'' :=
      .halted hr hleft hh
    have heq := h.loop_eq.symm.trans hend.loop_eq
    cases heq
    rfl

/-- **How a run ends.** Whenever a run is reported, the report and the questions it asked are as
`Ending` says. -/
theorem run_ending {id : Text} {result : RunReport}
    (h : (perform cfg engine id request).run w₀ = (.ok (result, last), w')) :
    Ending cfg engine request w₀ result last := by
  have hb := one_le_budget_of_perform_ok h
  have hcast : (cfg.budget.toNat : Int) = cfg.budget := Int.toNat_of_nonneg (by omega)
  obtain ⟨history, s, w, v, hend, rfl⟩ := (perform_ok_iff hb).mp h
  have hr := hend.reached
  obtain ⟨hsteps, hstate⟩ := hend.last_eq
  have hlen : last.steps.length = history.length := by rw [hsteps, hr.length_steps]
  have hle := hr.length_le
  have hverdict := hend.verdict_cases
  refine ⟨?asked, ?numbers, ?spent, ?calls, ?cancelled, ?early, ?completed, ?clarification,
    ?exhausted, ?answer⟩
  case asked =>
    -- a run that has steps left asks once more than it has steps
    rcases hverdict with ⟨hfull, hasked, -⟩ | ⟨hleft, hasked, -⟩ <;> omega
  case numbers =>
    change last.steps.map Step.number = List.range' 1 last.steps.length
    rw [hsteps]
    exact hr.numbers
  case spent =>
    change (last.steps.length : Int) ≤ cfg.budget
    omega
  case calls =>
    intro k hk
    exact hend.calls hk
  case cancelled =>
    change status last v = .cancelled ↔ _
    rw [status_cancelled_iff, hend.interrupted_iff]
    constructor
    · rintro ⟨history', s₁, w₁, h₁, hleft, hi⟩
      exact ⟨history', s₁, w₁, h₁, by omega, hi⟩
    · rintro ⟨history', s₁, w₁, h₁, hleft, hi⟩
      exact ⟨history', s₁, w₁, h₁, by omega, hi⟩
  case early =>
    intro hnot hlt
    change (last.steps.length : Int) < cfg.budget at hlt
    rcases hverdict with ⟨hfull, -, -⟩ | ⟨-, hasked, ⟨-, rfl⟩ | ⟨reply, hacc, -⟩⟩
    · omega
    · exact absurd rfl hnot
    · -- the last question came after as many turns as there are steps
      obtain ⟨hturn, hfinal, hdone⟩ := hacc
      rw [hr.length_asked, ← hlen] at hturn
      refine ⟨by rw [hasked, ← hlen]; rfl, reply, hturn, hfinal, ?_⟩
      change ∀ p ∈ last.state.entities, ∀ stage, p.has stage = true
      rw [hstate]
      exact hdone
  case completed =>
    intro hcompleted
    obtain ⟨hne, hdone⟩ := hend.isComplete_of_completed hcompleted
    exact ⟨hne, (WorkflowState.isComplete_iff_progressRows _).mp hdone⟩
  case clarification =>
    intro hclar
    exact entities_eq_nil_of_clarification hclar
  case exhausted =>
    intro hex
    -- the status says more than the verdict: a finished run that used up its steps is completed
    obtain ⟨rfl, hopen⟩ := open_of_budgetExhausted hex
    rcases hverdict with ⟨hfull, -, -⟩ | ⟨-, -, ⟨-, hv⟩ | ⟨_, -, hv⟩⟩
    · refine ⟨?_, hopen.imp_right fun hgap => ?_⟩
      · change (last.steps.length : Int) = cfg.budget
        omega
      · change ∃ row ∈ last.state.progressRows, ∃ cell ∈ row.2, cell.2 = false
        have hnot : ¬ last.state.isComplete = true := by rw [hgap]; exact Bool.false_ne_true
        rw [WorkflowState.isComplete_iff_progressRows] at hnot
        simpa using hnot
    · cases hv
    · cases hv
  case answer =>
    intro hanswer
    change finalAnswer v ≠ none at hanswer
    rcases hverdict with ⟨-, -, rfl⟩ | ⟨-, hasked, ⟨-, rfl⟩ | ⟨reply, hacc, rfl⟩⟩
    · exact absurd rfl hanswer
    · exact absurd rfl hanswer
    · exact ⟨history, s, w, reply, hr, by rw [hasked, hr.length_asked], hacc, rfl⟩

/-- Runs of two steps in which nothing is written. -/
def twoSteps : RunConfig := { RunConfig.single true with budget := 2 }

/-- A request in which two entities are found. -/
def hastyRequest : Text := "popular albums, favorite songs"

/-- An engine that is done at once and then asks for a file. -/
def stumblingEngine : Engine
  | 0 => .ok { text := some "done", call := none }
  | _ => .ok .reading

/-- Of two steps the first is a premature answer and the second a call that fails. Then the budget is
spent, and the run ends as it should. -/
theorem run_ending_of_stumbling : ∃ result last w',
    (perform twoSteps stumblingEngine "run" hastyRequest).run .bare = (.ok (result, last), w') ∧
      result.steps.map (fun s => (s.ok, s.errorKind.isSome)) = [(false, true), (false, true)] ∧
      result.status = .budgetExhausted ∧ last.asked.length = 2 ∧
      Ending twoSteps stumblingEngine hastyRequest .bare result last := by
  have hshown : (((perform twoSteps stumblingEngine "run" hastyRequest).run .bare).1.toOption.map
      fun p => (p.1.steps.map (fun s => (s.ok, s.errorKind.isSome)), p.1.status, p.2.asked.length))
        = some ([(false, true), (false, true)], .budgetExhausted, 2) := by decide +kernel
  rcases hrun : (perform twoSteps stumblingEngine "run" hastyRequest).run .bare with
    ⟨f | ⟨result, last⟩, w'⟩
  · rw [hrun] at hshown
    cases hshown
  · rw [hrun] at hshown
    obtain ⟨hsteps, hrest⟩ := Prod.mk.inj (Option.some.inj hshown)
    obtain ⟨hstatus, hasked⟩ := Prod.mk.inj hrest
    exact ⟨result, last, w', rfl, hsteps, hstatus, hasked, run_ending hrun⟩

end Reports

end Run

end Tablewright
