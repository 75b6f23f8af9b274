/-
The processes of a run.

A process is started by a call of a migration tool and by nothing else, and the engine has one word
of it: the label. `CallProcesses` says so of one call, in any state and any world, and says when the
call completes its stage: when its process ends with status zero, and in a dry run when it is shown.

Two faults of a migration call have no answer, so they end the run and there is no step to complete
a stage: the label may be a word the system cannot be given, and then no process is started, and what
a process wrote may not come to be read, whatever its status. Every other call is carried out, unless
the user interrupts it.

A `ProcessLog` lists the processes of a run with the steps that started them. Every run has one, up
to its end, whether it is reported, interrupted inside a tool or broken off. What starts a process
is therefore always one of the calls above, and of two runs under one configuration the processes
differ in the flag and the label that the engine gave, and in nothing else.
-/
import Tablewright.Proofs.Run.Apart
import Tablewright.Proofs.Run.Fault
import Tablewright.Proofs.Tool.Migration

set_option autoImplicit false

namespace Tablewright

namespace Run

/-! ## One call -/

section Calls

variable {cfg : RunConfig} {call : ToolCall} {st : WorkflowState} {n : Nat} {w : World}

/-- The world a call leaves. -/
def worldAfter (cfg : RunConfig) (call : ToolCall) (st : WorkflowState) (n : Nat) (w : World) :
    World := ((executeTool cfg call st n).run w).2

/-- The call is carried out: it comes to a step of the run, be it a success or a failure. -/
def IsCarriedOut (cfg : RunConfig) (call : ToolCall) (st : WorkflowState) (n : Nat) (w : World) :
    Prop := ∃ done w', (executeTool cfg call st n).run w = (.ok done, w')

/-- The call came to something: it is carried out, its step is a success, and every entity that was
ready for the migration has completed the stage. Nothing else is completed. -/
structure Records (cfg : RunConfig) (m : Migration) (call : ToolCall) (st : WorkflowState) (n : Nat)
    (w : World) : Prop where
  ready : st.withStage m.prerequisite ≠ []
  done : ∃ done w', (executeTool cfg call st n).run w = (.ok done, w') ∧ done.step.ok = true
  stages : ∀ name s, (stateAfter cfg call st n w).has name s = true ↔
    st.has name s = true ∨ (s = m.stage ∧ name ∈ st.withStage m.prerequisite)

/-- The call started a process and that ends with status zero. -/
def EndsWell (cfg : RunConfig) (call : ToolCall) (st : WorkflowState) (n : Nat) (w : World) : Prop :=
  (∃ p, (worldAfter cfg call st n w).spawned = w.spawned ++ [p]) ∧ w.upcoming.status? = some 0

/-- The call is shown in a dry run. -/
def Shown (cfg : RunConfig) (call : ToolCall) (st : WorkflowState) (w : World) : Prop :=
  cfg.dryRun = true ∧ ∃ arguments o w', (performCall cfg call st).run w = (.ok (arguments, o), w') ∧
    o.data.get? "action" = some (.str Tool.preview)

/-- The processes a call starts, and when it completes a stage by them. -/
structure CallProcesses (cfg : RunConfig) (call : ToolCall) (st : WorkflowState) (n : Nat)
    (w : World) : Prop where
  /-- A call of another tool, or one that comes to no tool at all, starts none. -/
  none : (∀ m : Migration, input? call ≠ some m.input) →
    (worldAfter cfg call st n w).spawned = w.spawned
  /-- A migration call with something to do sets out to start one in a real run, and it is the one that
  the configuration and the label of the call give. It is started, unless the system cannot be given
  it; then the call is the end of the run. -/
  one : ∀ m : Migration, input? call = some m.input → cfg.dryRun = false → m.Able cfg st →
    ∃ p, m.Fits cfg p ∧
      (p.flaw? = Option.none → (worldAfter cfg call st n w).spawned = w.spawned ++ [p]) ∧
      ∀ flaw, p.flaw? = some flaw →
        (executeTool cfg call st n).run w = (.error (.badValue (.badWord flaw)), w)
  /-- A migration call starts none in a dry run, and none where there is nothing to do. -/
  idle : ∀ m : Migration, input? call = some m.input → cfg.dryRun = true ∨ ¬ m.Able cfg st →
    (worldAfter cfg call st n w).spawned = w.spawned
  /-- A migration call whose process ends and is read is carried out. -/
  carriedOut : ∀ m : Migration, input? call = some m.input →
    (∃ p, (worldAfter cfg call st n w).spawned = w.spawned ++ [p]) →
    (∃ status stdout stderr, w.upcoming = .ended status stdout stderr) →
    IsCarriedOut cfg call st n w
  /-- A migration call whose process is not read is the end of the run. -/
  unread : ∀ m : Migration, input? call = some m.input →
    (∃ p, (worldAfter cfg call st n w).spawned = w.spawned ++ [p]) →
    ∀ status reason, w.upcoming = .unread status reason →
      (executeTool cfg call st n).run w
        = (.error (.badValue (.unreadOutput reason)), worldAfter cfg call st n w)
  /-- Its stage is completed exactly when the call is carried out and the process ends with status
  zero, or when the call is shown in a dry run. -/
  recorded : ∀ m : Migration, input? call = some m.input →
    (Records cfg m call st n w ↔
      IsCarriedOut cfg call st n w ∧ EndsWell cfg call st n w ∨ Shown cfg call st w)
  /-- Otherwise nothing is completed. -/
  unrecorded : ∀ m : Migration, input? call = some m.input → ¬ Records cfg m call st n w →
    stateAfter cfg call st n w = st

/-- A call leaves the world as its tool does. -/
theorem worldAfter_eq (cfg : RunConfig) (call : ToolCall) (st : WorkflowState) (n : Nat) (w : World) :
    worldAfter cfg call st n w = ((performCall cfg call st).run w).2 := by
  rw [worldAfter]
  rcases hx : (executeTool cfg call st n).run w with ⟨q, w'⟩
  rcases executeTool_cases hx with ⟨_, _, hp, -⟩ | ⟨_, _, _, hp, -, -⟩ | ⟨_, hp, -, -⟩ <;> rw [hp]

/-- Where the tool has the outcome of a migration, the stage is recorded. -/
private theorem records_of_outcome {m : Migration} {arguments : Members} {data : Members} {w' : World}
    (hready : st.withStage m.prerequisite ≠ [])
    (hrun : (performCall cfg call st).run w
      = (.ok (arguments, m.outcome (st.withStage m.prerequisite) data), w')) (n : Nat) :
    Records cfg m call st n w := by
  obtain ⟨-, done, hdone, happly⟩ := (callGrows cfg call st n w).folds _ _ _ hrun
  have hafter : stateAfter cfg call st n w = done.state := by
    rw [stateAfter, hdone]
    rfl
  refine ⟨hready, ⟨done, w', hdone, ?_⟩, fun name s => ?_⟩
  · rw [executeTool_run, hrun] at hdone
    obtain ⟨_, -, rfl⟩ := finishedCall_ok_iff.mp (Prod.mk.inj hdone).1
    exact m.ok_outcome _ data
  · rw [hafter, WorkflowState.apply_has_iff happly, m.completed_outcome]
    refine or_congr_right ⟨fun h => ?_, ?_⟩
    · obtain ⟨_, hname, hpair⟩ := List.mem_map.mp h
      cases hpair
      exact ⟨rfl, hname⟩
    · rintro ⟨rfl, hname⟩
      exact List.mem_map_of_mem hname

/-- Where the tool fails, the stage is not recorded and nothing is completed. -/
private theorem not_records_of_error {f : Failure} {w' : World}
    (hrun : (performCall cfg call st).run w = (.error f, w')) (m : Migration) (n : Nat) :
    ¬ Records cfg m call st n w ∧ stateAfter cfg call st n w = st := by
  constructor
  · rintro ⟨-, ⟨done, w₁, hdone, hok⟩, -⟩
    rcases executeTool_cases hdone with ⟨_, _, hp, -⟩ | ⟨_, _, _, -, -, hfail⟩ | ⟨_, -, -, hf⟩
    · rw [hrun] at hp
      cases hp
    · obtain ⟨_, -, rfl⟩ := failedCall_ok_iff.mp hfail
      cases hok
    · cases hf
  · rcases stateAfter_cases cfg call st n w with ⟨_, _, _, _, -, hp, -⟩ | ⟨-, hsame⟩
    · rw [hrun] at hp
      cases hp
    · exact hsame

/-- A call takes one of the courses of its tool. -/
private theorem performCall_course (cfg : RunConfig) (st : WorkflowState) (w : World)
    {m : Migration} (hinput : input? call = some m.input) (n : Nat) :
    ∃ q w', m.Course cfg st w q w' ∧ worldAfter cfg call st n w = w' ∧ ∃ arguments,
      (performCall cfg call st).run w = (q.map fun o => (arguments, o), w') := by
  obtain ⟨arguments, hperform⟩ := performCall_of_input? cfg st hinput
  have hc := m.handle_course cfg st w
  have hrun := hperform w
  rcases hh : (Tool.handle (cfg.context st) m.input).run w with ⟨q, w'⟩
  rw [hh] at hc hrun
  have hrun' : (performCall cfg call st).run w = (q.map fun o => (arguments, o), w') := by
    rw [hrun]
    cases q <;> rfl
  exact ⟨q, w', hc, by rw [worldAfter_eq, hrun'], arguments, hrun'⟩

/-- A call whose tool fails without an answer is the end of the run. -/
private theorem executeTool_of_no_answer {f : Failure} {w' : World}
    (hrun : (performCall cfg call st).run w = (.error f, w')) (hanswer : f.answer? = none) (n : Nat) :
    (executeTool cfg call st n).run w = (.error f, w') := by
  rw [executeTool_run, hrun]
  dsimp only
  rw [hanswer]

/-- A call whose arguments are accepted is carried out when its tool fails with an answer. -/
private theorem isCarriedOut_of_answered {input : ToolInput} (hinput : input? call = some input)
    {f : Failure} {w' : World} (hrun : (performCall cfg call st).run w = (.error f, w'))
    (ha : f.IsAnswered) (n : Nat) : IsCarriedOut cfg call st n w := by
  obtain ⟨kind, message, hanswer⟩ := f.isAnswered_iff.mp ha
  rcases hexec : (executeTool cfg call st n).run w with ⟨g | done, w₁⟩
  · -- what was accepted can be recorded
    rcases executeTool_cases hexec with ⟨_, _, hp, -⟩ | ⟨_, _, _, -, -, hfail⟩ | ⟨g', hp, hnone, -⟩
    · rw [hrun] at hp
      cases hp
    · obtain ⟨tool, arguments, -, hparse, -⟩ := exists_of_input? hinput
      rw [tool.parse_of_unrecordable (failedCall_error_iff.mp hfail)] at hparse
      cases hparse
    · rw [hrun] at hp
      cases hp
      rw [hanswer] at hnone
      cases hnone
  · exact ⟨done, w₁, hexec⟩

/-- A migration call starts its process as the course of its tool says. -/
private theorem spawned_of_migration {m : Migration} (hinput : input? call = some m.input)
    (n : Nat) :
    (cfg.dryRun = false → m.Able cfg st →
      ∃ p, m.Fits cfg p ∧
        (p.flaw? = none → (worldAfter cfg call st n w).spawned = w.spawned ++ [p]) ∧
        ∀ flaw, p.flaw? = some flaw →
          (executeTool cfg call st n).run w = (.error (.badValue (.badWord flaw)), w)) ∧
    (cfg.dryRun = true ∨ ¬ m.Able cfg st → (worldAfter cfg call st n w).spawned = w.spawned) := by
  obtain ⟨q, w', hc, hworld, _, hrun⟩ := performCall_course cfg st w hinput n
  rw [hworld]
  -- a process is only set out for in a real run that has something to do
  have hidle : cfg.dryRun = false → m.Able cfg st → ¬ (cfg.dryRun = true ∨ ¬ m.Able cfg st) := by
    rintro hreal hable (hdry | hnot)
    · rw [hreal] at hdry
      cases hdry
    · exact hnot hable
  cases hc with
  | barred hnot => exact ⟨fun _ hable => absurd hable hnot, fun _ => rfl⟩
  | shown hdry hable =>
    refine ⟨fun hreal => ?_, fun _ => rfl⟩
    rw [hreal] at hdry
    cases hdry
  | @unpassed p flaw hreal hable hfits hflaw =>
    refine ⟨fun _ _ => ⟨p, hfits, fun hpass => ?_, fun flaw' hflaw' => ?_⟩, fun _ => rfl⟩
    · rw [hflaw] at hpass
      cases hpass
    · obtain rfl : flaw = flaw' := Option.some.inj (hflaw.symm.trans hflaw')
      exact executeTool_of_no_answer hrun rfl n
  | @ended p _ _ _ hreal hable hfits hpass | @unread p _ _ hreal hable hfits hpass
  | @failed p _ hreal hable hfits hpass =>
    refine ⟨fun _ _ => ⟨p, hfits, fun _ => rfl, fun flaw hflaw => ?_⟩,
      fun h => absurd h (hidle hreal hable)⟩
    rw [hpass] at hflaw
    cases hflaw

/-- A migration call is carried out as its process ends and is read. -/
private theorem carriedOut_of_migration {m : Migration} (hinput : input? call = some m.input) (n : Nat)
    (hspawned : ∃ p, (worldAfter cfg call st n w).spawned = w.spawned ++ [p]) :
    ((∃ status stdout stderr, w.upcoming = .ended status stdout stderr) →
      IsCarriedOut cfg call st n w) ∧
    ∀ status reason, w.upcoming = .unread status reason →
      (executeTool cfg call st n).run w
        = (.error (.badValue (.unreadOutput reason)), worldAfter cfg call st n w) := by
  obtain ⟨q, w', hc, hworld, _, hrun⟩ := performCall_course cfg st w hinput n
  obtain ⟨p, hp⟩ := hspawned
  cases hc with
  | barred _ | shown _ _ _ | unpassed _ _ _ _ =>
    -- nothing was started
    rw [hworld] at hp
    simp at hp
  | ended _ hable _ _ hend =>
    refine ⟨fun _ => (records_of_outcome hable.1 hrun n).done.imp fun _ ⟨w₁, h, _⟩ => ⟨w₁, h⟩, ?_⟩
    intro status reason hunread
    rw [hend] at hunread
    cases hunread
  | unread _ _ _ _ hend =>
    refine ⟨?_, fun status reason hunread => ?_⟩
    · rintro ⟨_, _, _, hended⟩
      rw [hend] at hended
      cases hended
    · rw [hend] at hunread
      cases hunread
      rw [hworld]
      exact executeTool_of_no_answer hrun rfl n
  | failed _ _ _ _ hend hread hanswer =>
    refine ⟨?_, fun status reason hunread => absurd hunread (hread status reason)⟩
    rintro ⟨_, _, _, hended⟩
    rcases hanswer with ha | ⟨-, hi⟩
    · exact isCarriedOut_of_answered hinput hrun ha n
    · rw [hended] at hi
      cases hi

/-- A migration call completes its stage as the course of its tool says. -/
private theorem records_of_migration {m : Migration} (hinput : input? call = some m.input)
    (n : Nat) :
    (Records cfg m call st n w ↔
        IsCarriedOut cfg call st n w ∧ EndsWell cfg call st n w ∨ Shown cfg call st w) ∧
      (¬ Records cfg m call st n w → stateAfter cfg call st n w = st) := by
  obtain ⟨q, w', hc, hworld, arguments, hrun⟩ := performCall_course cfg st w hinput n
  -- a call that fails records nothing, and it is not shown
  have hfailed : ∀ f, q = .error f → ¬ (IsCarriedOut cfg call st n w ∧ EndsWell cfg call st n w) →
      (Records cfg m call st n w ↔
        IsCarriedOut cfg call st n w ∧ EndsWell cfg call st n w ∨ Shown cfg call st w) ∧
      (¬ Records cfg m call st n w → stateAfter cfg call st n w = st) := by
    rintro f rfl hnot
    obtain ⟨hno, hsame⟩ := not_records_of_error hrun m n
    refine ⟨iff_of_false hno ?_, fun _ => hsame⟩
    rintro (h | ⟨-, _, _, _, hp, -⟩)
    · exact hnot h
    · rw [hrun] at hp
      cases hp
  cases hc with
  | barred _ | unpassed _ _ _ _ =>
    refine hfailed _ rfl ?_
    rintro ⟨-, ⟨p, hp⟩, -⟩
    rw [hworld] at hp
    simp at hp
  | shown hdry hable hdata =>
    have hrecords := records_of_outcome hable.1 hrun n
    refine ⟨iff_of_true hrecords (.inr ⟨hdry, _, _, _, hrun, ?_⟩), fun hno => absurd hrecords hno⟩
    rw [m.data_outcome]
    exact hdata
  | @ended p stdout stderr data hreal hable hfits hpass hend =>
    have hrecords := records_of_outcome hable.1 hrun n
    have hdone : IsCarriedOut cfg call st n w :=
      hrecords.done.imp fun _ ⟨w₁, h, _⟩ => ⟨w₁, h⟩
    have hwell : EndsWell cfg call st n w := by
      refine ⟨⟨p, ?_⟩, by rw [hend]; rfl⟩
      rw [hworld]
      rfl
    exact ⟨iff_of_true hrecords (.inl ⟨hdone, hwell⟩), fun hno => absurd hrecords hno⟩
  | unread hreal hable hfits hpass hend =>
    refine hfailed _ rfl ?_
    rintro ⟨⟨done, w₁, hdone⟩, -⟩
    rw [executeTool_of_no_answer hrun rfl n] at hdone
    cases hdone
  | failed hreal hable hfits hpass hend hread =>
    refine hfailed _ rfl ?_
    rintro ⟨-, -, hzero⟩
    cases hevent : w.upcoming with
    | ended status stdout stderr =>
      rw [hevent] at hzero
      obtain rfl := Option.some.inj hzero
      exact hend stdout stderr hevent
    | unread status reason => exact hread status reason hevent
    | timedOut | refused _ | interrupted =>
      rw [hevent] at hzero
      cases hzero

/-- A call of another tool starts no process. -/
private theorem spawned_of_other (hother : ∀ m : Migration, input? call ≠ some m.input) (n : Nat) :
    (worldAfter cfg call st n w).spawned = w.spawned := by
  rw [worldAfter_eq]
  cases hinput : input? call with
  | none =>
    obtain ⟨_, hperform⟩ := performCall_of_no_input cfg st hinput
    rw [hperform]
  | some input =>
    have hw : ((Tool.handle (cfg.context st) input).run w).2.spawned = w.spawned :=
      Tool.handle_startsNone (cfg.context st) (fun m hm => hother m (by rw [hinput, hm])) w
    obtain ⟨arguments, hperform⟩ := performCall_of_input? cfg st hinput
    rw [hperform w]
    rcases hrun : (Tool.handle (cfg.context st) input).run w with ⟨f | o, w'⟩
    all_goals
      rw [hrun] at hw
      exact hw

/-- **One call.** In every state and every world a call starts at most one process, the one that
the configuration and its label give, and a call that is carried out completes its stage as that
process ends. -/
theorem callProcesses (cfg : RunConfig) (call : ToolCall) (st : WorkflowState) (n : Nat) (w : World) :
    CallProcesses cfg call st n w where
  none hother := spawned_of_other hother n
  one _ h := (spawned_of_migration h n).1
  idle _ h := (spawned_of_migration h n).2
  carriedOut _ h hspawned := (carriedOut_of_migration h n hspawned).1
  unread _ h hspawned := (carriedOut_of_migration h n hspawned).2
  recorded _ h := (records_of_migration h n).1
  unrecorded _ h := (records_of_migration h n).2

/-- A call starts no process, or it is a migration call of a real run and starts the one that fits. -/
theorem CallProcesses.spawned (h : CallProcesses cfg call st n w) :
    (worldAfter cfg call st n w).spawned = w.spawned ∨
      ∃ m p, input? call = some (Migration.input m) ∧ cfg.dryRun = false ∧ m.Fits cfg p ∧
        (worldAfter cfg call st n w).spawned = w.spawned ++ [p] := by
  by_cases hmigration : ∃ m : Migration, input? call = some m.input
  · obtain ⟨m, hinput⟩ := hmigration
    by_cases hable : cfg.dryRun = false ∧ m.Able cfg st
    · obtain ⟨p, hfits, hstarted, hflawed⟩ := h.one m hinput hable.1 hable.2
      cases hflaw : p.flaw? with
      | none => exact .inr ⟨m, p, hinput, hable.1, hfits, hstarted hflaw⟩
      | some flaw =>
        left
        rw [worldAfter, hflawed flaw hflaw]
    · refine .inl (h.idle m hinput ?_)
      cases hdry : cfg.dryRun with
      | true => exact .inl rfl
      | false => exact .inr fun ha => hable ⟨hdry, ha⟩
  · exact .inl (h.none fun m hm => hmigration ⟨m, hm⟩)

end Calls

/-! ## The processes of a run -/

/-- A process that was started in a run. -/
structure Start where
  /-- The number of the step. -/
  number : Nat
  /-- What was asked for. -/
  migration : Migration
  /-- The process. -/
  process : Spawn

/-- The labels, if any, and the processes of the generated migrations, in their order. -/
def generated (log : List Start) : List (Option Text × Spawn) :=
  log.filterMap fun x =>
    match x.migration with
    | .generate label => some (label, x.process)
    | .apply => none

/-- The processes of the applied migrations in their order. -/
def applied (log : List Start) : List Spawn :=
  log.filterMap fun x =>
    match x.migration with
    | .generate _ => none
    | .apply => some x.process

section Runs

variable {cfg : RunConfig} {engine : Engine} {request : Text} {w₀ w w' : World} {s : Session}
  {history : List Occurrence} {log : List Start}

/-- The process was started at its step of the run, by the call the engine proposed there. -/
structure Start.Made (cfg : RunConfig) (engine : Engine) (request : Text) (w₀ : World)
    (x : Start) (history : List Occurrence) (s : Session) (w : World) (call : ToolCall) : Prop where
  reached : Reached cfg engine request w₀ history s w
  number : x.number = history.length + 1
  left : history.length < cfg.budget.toNat
  asked : ∃ reply, engine s.asked.length = .ok reply ∧ reply.call = some call
  input : input? call = some x.migration.input
  world : (worldAfter cfg call s.state s.nextNumber w).spawned = w.spawned ++ [x.process]

/-- The processes that were started in a run so far, each by the call of another step. -/
structure ProcessLog (cfg : RunConfig) (engine : Engine) (request : Text) (w₀ : World)
    (spawned : List Spawn) (log : List Start) : Prop where
  processes : spawned = w₀.spawned ++ log.map Start.process
  made : ∀ x ∈ log, ∃ history s w call, x.Made cfg engine request w₀ history s w call
  ordered : log.Pairwise fun x y => x.number < y.number

/-- A turn leaves the world alone, or it does to it what the call does that the engine proposes. -/
def Turned (cfg : RunConfig) (engine : Engine) (s : Session) (w w' : World) : Prop :=
  w' = w ∨ ∃ reply call, engine s.asked.length = .ok reply ∧ reply.call = some call ∧
    w' = worldAfter cfg call s.state s.nextNumber w

theorem Advance.turned {s' : Session} {o : Occurrence} (h : Advance cfg engine s w o s' w') :
    Turned cfg engine s w w' := by
  cases h with
  | refused | corrected => exact .inl rfl
  | @failed reply call _ _ _ _ _ hturn hcall hrun =>
    exact .inr ⟨reply, call, hturn, hcall, by rw [worldAfter_eq, hrun]⟩
  | @finished reply call _ _ _ _ _ hturn hcall hfind hparse hrun =>
    refine .inr ⟨reply, call, hturn, hcall, ?_⟩
    rw [worldAfter_eq, performCall_ok_iff.mpr ⟨_, hfind, hparse, hrun⟩]

theorem Halts.turned {q : Except Failure (Session × Verdict)} (h : Halts cfg engine s w q w') :
    Turned cfg engine s w w' := by
  cases h with
  | answered | interrupted | broken => exact .inl rfl
  | @cut reply call _ hturn hcall hrun =>
    exact .inr ⟨reply, call, hturn, hcall, by rw [worldAfter, hrun]⟩
  | @aborted reply call _ _ hturn hcall hrun =>
    exact .inr ⟨reply, call, hturn, hcall, by rw [worldAfter, hrun]⟩

/-- A turn adds at most one process to the log, under its own number. -/
theorem ProcessLog.turn (hlog : ProcessLog cfg engine request w₀ w.spawned log)
    (hbefore : ∀ x ∈ log, x.number ≤ history.length)
    (hr : Reached cfg engine request w₀ history s w) (hleft : history.length < cfg.budget.toNat)
    (hturned : Turned cfg engine s w w') :
    ∃ log', ProcessLog cfg engine request w₀ w'.spawned log' ∧
      ∀ x ∈ log', x.number ≤ history.length + 1 := by
  -- without a new process the log stays
  have hsame : w'.spawned = w.spawned → ∃ log', ProcessLog cfg engine request w₀ w'.spawned log' ∧
      ∀ x ∈ log', x.number ≤ history.length + 1 := fun h =>
    ⟨log, h ▸ hlog, fun x hx => Nat.le_succ_of_le (hbefore x hx)⟩
  rcases hturned with rfl | ⟨reply, call, hturn, hcall, rfl⟩
  · exact hsame rfl
  rcases (callProcesses cfg call s.state s.nextNumber w).spawned with
    hnone | ⟨m, p, hinput, -, -, hspawned⟩
  · exact hsame hnone
  refine ⟨log ++ [⟨history.length + 1, m, p⟩], ⟨?_, fun x hx => ?_, ?_⟩, fun x hx => ?_⟩
  · rw [hspawned, hlog.processes, List.map_append, List.append_assoc]
    rfl
  · rcases List.mem_append.mp hx with hx | hx
    · exact hlog.made x hx
    · obtain rfl := List.mem_singleton.mp hx
      exact ⟨history, s, w, call, hr, rfl, hleft, ⟨reply, hturn, hcall⟩, hinput, hspawned⟩
  · refine List.pairwise_append.mpr ⟨hlog.ordered, List.pairwise_singleton _ _, ?_⟩
    intro x hx y hy
    obtain rfl := List.mem_singleton.mp hy
    exact Nat.lt_succ_of_le (hbefore x hx)
  · rcases List.mem_append.mp hx with hx | hx
    · exact Nat.le_succ_of_le (hbefore x hx)
    · obtain rfl := List.mem_singleton.mp hx
      exact Nat.le_refl _

/-- At every point a run comes to there is a log of its processes. -/
theorem Reached.processLog (h : Reached cfg engine request w₀ history s w) :
    ∃ log, ProcessLog cfg engine request w₀ w.spawned log ∧ ∀ x ∈ log, x.number ≤ history.length := by
  induction h with
  | origin =>
    refine ⟨[], ⟨?_, List.forall_mem_nil _, .nil⟩, List.forall_mem_nil _⟩
    rw [List.map_nil, List.append_nil]
  | next hr hleft ha ih =>
    obtain ⟨log, hlog, hbefore⟩ := ih
    obtain ⟨log', hlog', hbound⟩ := hlog.turn hbefore hr hleft ha.turned
    refine ⟨log', hlog', fun x hx => ?_⟩
    rw [List.length_append, List.length_singleton]
    exact hbound x hx

/-- At its end a run has a log of its processes, however it ends. -/
theorem Ends.processLog {q : Except Failure (Session × Verdict)}
    (h : Ends cfg engine request w₀ history s w q w') :
    ∃ log, ProcessLog cfg engine request w₀ w'.spawned log := by
  obtain ⟨log, hlog, hbefore⟩ := h.reached.processLog
  cases h with
  | exhausted => exact ⟨log, hlog⟩
  | halted hr hleft hh =>
    obtain ⟨log', hlog', -⟩ := hlog.turn hbefore hr hleft hh.turned
    exact ⟨log', hlog'⟩

/-- Every run has a log of its processes, whatever comes of it. -/
theorem processLog_perform (cfg : RunConfig) (engine : Engine) (id request : Text) (w₀ : World) :
    ∃ log, ProcessLog cfg engine request w₀ ((perform cfg engine id request).run w₀).2.spawned log := by
  by_cases hb : 1 ≤ cfg.budget
  · rcases hrun : (perform cfg engine id request).run w₀ with ⟨f | ⟨result, last⟩, w'⟩
    · obtain ⟨_, _, _, hend⟩ := (perform_error_iff hb).mp hrun
      exact hend.processLog
    · obtain ⟨_, _, _, _, hend, -⟩ := (perform_ok_iff hb).mp hrun
      exact hend.processLog
  · rw [perform_of_budget_lt (by omega)]
    refine ⟨[], ?_, List.forall_mem_nil _, .nil⟩
    rw [List.map_nil, List.append_nil]

/-- A process of a run is the one that the configuration and its call give, and the run was no dry
run. -/
theorem Start.Made.fits {x : Start} {call : ToolCall}
    (h : x.Made cfg engine request w₀ history s w call) :
    cfg.dryRun = false ∧ x.migration.Fits cfg x.process := by
  rcases (callProcesses cfg call s.state s.nextNumber w).spawned with
    hnone | ⟨m, p, hinput, hreal, hfits, hspawned⟩
  · rw [h.world] at hnone
    simp at hnone
  · obtain rfl : m = x.migration := Migration.input_injective (by simpa [hinput] using h.input)
    obtain rfl : p = x.process := by simpa using hspawned.symm.trans h.world
    exact ⟨hreal, hfits⟩

/-- Every process of a log is the one that the configuration and its call give. -/
theorem ProcessLog.fits {spawned : List Spawn} (h : ProcessLog cfg engine request w₀ spawned log)
    {x : Start} (hx : x ∈ log) : x.migration.Fits cfg x.process := by
  obtain ⟨_, _, _, _, hmade⟩ := h.made x hx
  exact hmade.fits.2

theorem ProcessLog.fits_of_generated {spawned : List Spawn}
    (h : ProcessLog cfg engine request w₀ spawned log) {k : Nat} {label : Option Text} {p : Spawn}
    (hk : (generated log)[k]? = some (label, p)) : (Migration.generate label).Fits cfg p := by
  obtain ⟨x, hx, heq⟩ := List.mem_filterMap.mp (List.mem_of_getElem? hk)
  have hfits := h.fits hx
  obtain ⟨n, _ | _, q⟩ := x
  all_goals cases heq
  exact hfits

theorem ProcessLog.fits_of_applied {spawned : List Spawn}
    (h : ProcessLog cfg engine request w₀ spawned log) {k : Nat} {p : Spawn}
    (hk : (applied log)[k]? = some p) : Migration.apply.Fits cfg p := by
  obtain ⟨x, hx, heq⟩ := List.mem_filterMap.mp (List.mem_of_getElem? hk)
  have hfits := h.fits hx
  obtain ⟨n, _ | _, q⟩ := x
  all_goals cases heq
  exact hfits

end Runs

/-! ## What the engine has a say in -/

/-- What of the processes is settled by the configuration. -/
structure ProcessesConfined (cfg : RunConfig) : Prop where
  /-- One call, in any state and world. -/
  call : ∀ call st n w, CallProcesses cfg call st n w
  /-- A whole run, whatever comes of it: its processes were started one by one, each by the call of
  another step, and each is the one that the configuration and the label of the call give. -/
  run : ∀ engine id request w₀, ∃ log,
    ProcessLog cfg engine request w₀ ((perform cfg engine id request).run w₀).2.spawned log ∧
      ∀ x ∈ log, x.migration.Fits cfg x.process
  /-- The generated migrations of two runs, one by one: the words are the same up to the flag and
  the label. -/
  generated : ∀ engine engine' request request' w₀ w₀' spawned spawned' log log',
    ProcessLog cfg engine request w₀ spawned log →
    ProcessLog cfg engine' request' w₀' spawned' log' →
    ∀ (k : Nat) label label' p p', (Run.generated log)[k]? = some (label, p) →
      (Run.generated log')[k]? = some (label', p') →
        ∃ base, p.command = base ++ Command.labelWords cfg.labelFlag label ∧
          p'.command = base ++ Command.labelWords cfg.labelFlag label' ∧
            p.directory = p'.directory ∧ p.limit = p'.limit
  /-- The applied migrations of two runs, one by one: they are the same. -/
  applied : ∀ engine engine' request request' w₀ w₀' spawned spawned' log log',
    ProcessLog cfg engine request w₀ spawned log →
    ProcessLog cfg engine' request' w₀' spawned' log' →
    ∀ (k : Nat) p p', (Run.applied log)[k]? = some p → (Run.applied log')[k]? = some p' → p = p'

/-- Two processes that fit have the words of one command before what was added to them. -/
theorem fits_both {cfg : RunConfig} {m m' : Migration} (hcommand : m.command cfg = m'.command cfg)
    {p p' : Spawn} (h : m.Fits cfg p) (h' : m'.Fits cfg p') :
    ∃ base, p.command = base ++ m.added cfg ∧ p'.command = base ++ m'.added cfg ∧
      p.directory = p'.directory ∧ p.limit = p'.limit := by
  obtain ⟨base, hbase, hwords⟩ := h.words
  obtain ⟨base', hbase', hwords'⟩ := h'.words
  rw [← hcommand, hbase] at hbase'
  obtain rfl := Except.ok.inj hbase'
  exact ⟨base, hwords, hwords', h.directory.trans h'.directory.symm, h.limit.trans h'.limit.symm⟩

end Run

end Tablewright
