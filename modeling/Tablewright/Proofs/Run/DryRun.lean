/-
A dry run has no effects.

There is no single gate: what emits an artifact, what writes or edits a file and what runs a
migration command each ask for themselves whether the run is a dry one. So the fact is proved tool
by tool (`handle_keeps`), from the four places that ask and from the operations that never change
anything, and then along the turns of a run.

What is kept is the whole world: the files, the processes that were started, and what the next
process would do.
-/
import Tablewright.Proofs.Run.Course
import Tablewright.Proofs.Tool.Lesson

set_option autoImplicit false

namespace Tablewright

namespace Tool

open Tablewright.Action

variable {ctx : ToolContext}

/-! ## The four places that ask -/

/-- In a dry run an artifact is only shown. -/
theorem keeps_emit (hdry : ctx.dryRun = true) (a : Artifact) : Keeps (emit ctx a) := by
  rw [emit, if_pos hdry]
  exact keeps_pure _

/-- The preview of a change looks a path up. -/
theorem keeps_previewChange (verb path : Text) : Keeps (previewChange ctx verb path) :=
  (keeps_look _).bind fun _ => keeps_pure _

/-- In a dry run no file is written. -/
theorem keeps_writeFile (hdry : ctx.dryRun = true) (path content : Text) :
    Keeps (writeFile ctx path content) := by
  rw [writeFile, if_pos hdry]
  exact keeps_previewChange _ path

/-- In a dry run no file is edited. -/
theorem keeps_editFile (hdry : ctx.dryRun = true) (path : Text) (old : Option Text) (new : Text) :
    Keeps (editFile ctx path old new) := by
  rw [editFile, if_pos hdry]
  exact keeps_previewChange _ path

/-- In a dry run no migration command is started. -/
theorem keeps_runMigrationCommand (hdry : ctx.dryRun = true) (command : Text)
    (label flag : Option Text) : Keeps (runMigrationCommand ctx command label flag) := by
  rw [runMigrationCommand, if_pos hdry]
  exact (keeps_ofExcept _).bind fun _ => keeps_pure _

/-! ## Tools -/

/-- An attempt changes what its operation changes. -/
theorem keeps_attempt {α : Type} {a : Action α} (h : Keeps a) : Keeps (attempt a) := by
  intro w
  have hw := h w
  rw [attempt_run]
  -- an attempt turns the result over and hands the world on
  rcases ha : a.run w with ⟨f | x, w₁⟩
  all_goals rw [ha] at hw
  · cases f <;> exact hw
  · exact hw

/-- In a dry run a schema is only shown. -/
theorem keeps_emitSchema (hdry : ctx.dryRun = true) (e : Entity) : Keeps (emitSchema ctx e) := by
  refine (keeps_ofRefusal _).bind fun schema => ?_
  refine (keeps_emit hdry _).bind fun model => ?_
  exact (keeps_emit hdry _).bind fun shapes => keeps_pure _

/-- In a dry run several schemas are only shown. -/
theorem keeps_attemptSchemas (hdry : ctx.dryRun = true) (inputs : List EntityInput) :
    Keeps (attemptSchemas ctx inputs) := by
  induction inputs with
  | nil => exact keeps_pure _
  | cons input rest ih =>
    refine Keeps.bind (keeps_attempt ?_) fun result => ih.bind fun others => keeps_pure _
    refine (keeps_ofExcept _).bind fun e => ?_
    exact (keeps_emitSchema hdry e).bind fun data => keeps_pure _

/-- In a dry run a migration is only shown. -/
theorem keeps_generateMigration (hdry : ctx.dryRun = true) (label : Option Text) :
    Keeps (generateMigration ctx label) := by
  rw [generateMigration]
  dsimp only
  split
  · exact (keeps_throw _).bind fun _ =>
      (keeps_runMigrationCommand hdry _ _ _).bind fun _ => keeps_pure _
  · exact (keeps_runMigrationCommand hdry _ _ _).bind fun _ => keeps_pure _

/-- In a dry run the application of migrations is only shown. -/
theorem keeps_runMigration (hdry : ctx.dryRun = true) : Keeps (runMigration ctx) := by
  rw [runMigration]
  dsimp only
  split
  · exact (keeps_throw _).bind fun _ =>
      (keeps_runMigrationCommand hdry _ _ _).bind fun _ => keeps_pure _
  · exact (keeps_runMigrationCommand hdry _ _ _).bind fun _ => keeps_pure _

/-- In a dry run sample rows are only shown. -/
theorem keeps_seedDatabase (hdry : ctx.dryRun = true) (label : Text) (rows : List Members) :
    Keeps (seedDatabase ctx label rows) := by
  refine (keeps_ofRefusal _).bind fun _ => ?_
  split
  · exact keeps_throw _
  · refine (keeps_ofRefusal _).bind fun artifact => ?_
    exact (keeps_emit hdry artifact).bind fun data => keeps_pure _

/-- In a dry run no tool changes anything, whatever its input. -/
theorem handle_keeps (hdry : ctx.dryRun = true) (input : ToolInput) :
    Keeps (handle ctx input) := by
  cases input with
  | listFiles path => exact keeps_look _
  | readFile path => exact keeps_look _
  | writeFile path content => exact keeps_writeFile hdry path content
  | editFile path old new => exact keeps_editFile hdry path old new
  | analyzeRequest request => exact keeps_pure _
  | analyzeSchema entity => exact keeps_look _
  | createSchema e =>
    refine (keeps_ofExcept _).bind fun entity => ?_
    exact (keeps_emitSchema hdry entity).bind fun data => keeps_pure _
  | createMultipleSchemas inputs =>
    exact (keeps_attemptSchemas hdry inputs).bind fun attempts => keeps_pure _
  | generateMigration label => exact keeps_generateMigration hdry label
  | runMigration => exact keeps_runMigration hdry
  | createApiEndpoint label methods route =>
    refine (keeps_ofRefusal _).bind fun _ => (keeps_ofRefusal _).bind fun artifact => ?_
    exact (keeps_emit hdry artifact).bind fun data => keeps_pure _
  | createApiClientHook label route =>
    refine (keeps_ofRefusal _).bind fun _ => ?_
    exact (keeps_emit hdry _).bind fun data => keeps_pure _
  | seedDatabase label rows => exact keeps_seedDatabase hdry label rows

end Tool

namespace Run

open Tablewright.Action

section DryRuns

variable {cfg : RunConfig} {engine : Engine} {request : Text} {w₀ : World}

/-- In a dry run no call changes anything, wherever it is made. -/
theorem keeps_performCall (hdry : cfg.dryRun = true) (call : ToolCall) (st : WorkflowState) :
    Keeps (performCall cfg call st) := by
  have hctx : (cfg.context st).dryRun = true := hdry
  refine (keeps_ofRefusal _).bind fun tool => (keeps_ofExcept _).bind fun arguments => ?_
  exact (Tool.handle_keeps hctx _).bind fun outcome => keeps_pure _

/-- Carrying a call out changes what the call changes. -/
theorem keeps_executeTool (hdry : cfg.dryRun = true) (call : ToolCall) (st : WorkflowState)
    (n : Nat) : Keeps (executeTool cfg call st n) := by
  intro w
  have hw := keeps_performCall hdry call st w
  -- folding an outcome in and recording a failure do not touch the world
  rcases hx : (executeTool cfg call st n).run w with ⟨q, w'⟩
  rcases executeTool_cases hx with ⟨_, _, hp, -⟩ | ⟨_, _, _, hp, -, -⟩ | ⟨_, hp, -, -⟩
  all_goals
    rw [hp] at hw
    exact hw

/-- In a dry run no turn changes anything. -/
theorem Advance.world_eq (hdry : cfg.dryRun = true) {s s' : Session} {w w' : World}
    {o : Occurrence} (h : Advance cfg engine s w o s' w') : w' = w := by
  cases h with
  | refused | corrected => rfl
  | @failed _ call _ _ _ _ _ _ _ hrun _ _ =>
    have hw := keeps_performCall hdry call s.state w
    rwa [hrun] at hw
  | @finished _ call _ _ _ _ _ _ _ hfind hparse hrun _ =>
    have hw := keeps_performCall hdry call s.state w
    rwa [performCall_ok_iff.mpr ⟨_, hfind, hparse, hrun⟩] at hw

/-- In a dry run the last turn changes nothing either, however it ends. -/
theorem Halts.world_eq (hdry : cfg.dryRun = true) {s : Session} {w w' : World}
    {q : Except Failure (Session × Verdict)} (h : Halts cfg engine s w q w') : w' = w := by
  cases h with
  | answered | interrupted | broken => rfl
  | @cut _ call _ _ _ hrun =>
    have hw := keeps_executeTool hdry call s.state s.nextNumber w
    rwa [hrun] at hw
  | @aborted _ call _ _ _ _ hrun _ =>
    have hw := keeps_executeTool hdry call s.state s.nextNumber w
    rwa [hrun] at hw

/-- At every point a dry run comes to, the world is the one it started in. -/
theorem Reached.world_eq (hdry : cfg.dryRun = true) {history : List Occurrence} {s : Session}
    {w : World} (h : Reached cfg engine request w₀ history s w) : w = w₀ := by
  induction h with
  | origin => rfl
  | next _ _ ha ih => rw [ha.world_eq hdry, ih]

/-- A dry run ends in the world it started in. -/
theorem Ends.world_eq (hdry : cfg.dryRun = true) {history : List Occurrence} {s : Session}
    {w w' : World} {q : Except Failure (Session × Verdict)}
    (h : Ends cfg engine request w₀ history s w q w') : w' = w₀ := by
  have hw := h.reached.world_eq hdry
  cases h with
  | exhausted => exact hw
  | halted _ _ hh => rw [hh.world_eq hdry, hw]

/-- **A dry run has no effects.** At every point it comes to, after every call it makes and at its
end, reported or not, the world is the one it started in: the files are as they were and no process
was started. -/
theorem dry_run_keeps_world (hdry : cfg.dryRun = true) (engine : Engine) (request : Text)
    (w₀ : World) :
    (∀ history s w, Reached cfg engine request w₀ history s w → w = w₀ ∧
      ∀ call, ((performCall cfg call s.state).run w).2 = w₀) ∧
    ∀ id, ((perform cfg engine id request).run w₀).2 = w₀ := by
  constructor
  · intro history s w h
    obtain rfl := h.world_eq hdry
    exact ⟨rfl, fun call => keeps_performCall hdry call s.state w⟩
  · intro id
    by_cases hb : 1 ≤ cfg.budget
    · rcases hrun : (perform cfg engine id request).run w₀ with ⟨f | ⟨result, last⟩, w'⟩
      · obtain ⟨history, s, w, hend⟩ := (perform_error_iff hb).mp hrun
        exact hend.world_eq hdry
      · obtain ⟨history, s, w, v, hend, -⟩ := (perform_ok_iff hb).mp hrun
        exact hend.world_eq hdry
    · rw [perform_of_budget_lt (by omega)]

/-- A dry run of an engine that proposes to write a file leaves an empty file system empty. -/
theorem dry_run_keeps_world_of_write :
    ((perform (.single true) (fun _ => .ok { text := none, call := some {
        id := .str "call_write_file", name := .str "write_file"
        arguments := .str "\x7b\"path\":\"a.txt\",\"content\":\"\"\x7d" } })
      "run" "").run .bare).2 = .bare := by
  have hdry : (RunConfig.single true).dryRun = true := rfl
  exact (dry_run_keeps_world hdry _ "" .bare).2 "run"

end DryRuns

end Run

end Tablewright
