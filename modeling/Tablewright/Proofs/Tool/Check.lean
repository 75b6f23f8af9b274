/-
The checks of the tools.

Before a tool has any effect it checks what it was given: the entity, its columns, the methods, the
sample rows, what an edit finds, and the stages that have to come first. `ToolCheck` lists the
refusals at these checks, each with the checks passed before it. A tool that is turned down at a
check changes nothing of the world (`ToolCheck.handle_run`), and whatever else a tool is refused
for is its path or its process (`toolCheck_of_handle`): these two are the only refusals that can
come after an effect.

Several schemas are turned down one by one, each in a row of the outcome, so that tool is never
refused as a whole.
-/
import Tablewright.Proofs.Artifact.Columns
import Tablewright.Proofs.Files.Edit
import Tablewright.Proofs.Tool.Preview

set_option autoImplicit false

namespace Tablewright

open Effect (FailsBy)

/-- Refusals that are about a process. -/
def Refusal.ofProcess : Refusal → Bool
  | emptyCommand | cannotRun .. | processFailed .. | processTimeout .. => true
  | _ => false

/-- A failure that, if it is a refusal, passes a test. -/
def Failure.RefusedBy (test : Refusal → Bool) (f : Failure) : Prop :=
  ∀ r, f = .refused r → test r = true

namespace Tool

variable {ctx : ToolContext} {w w' : World}

/-! ## Compilers -/

/-- An endpoint is refused for its methods only. -/
theorem compileEndpoint_error_iff {name : Text} {methods : List Json} {route : Option Text}
    {r : Refusal} :
    compileEndpoint name methods route = .error r ↔ Method.select methods = .error r := by
  rw [compileEndpoint, Effect.result_bind_error_iff]
  refine or_iff_left ?_
  rintro ⟨_, -, h⟩
  cases h

/-- Sample rows are refused for the columns of their entity, or else for what they are. -/
theorem compileSeed_error_iff {e : Entity} {rows : List Members} {r : Refusal} :
    e.compileSeed rows = .error r ↔
      e.checkColumns = .error r ∨ e.checkColumns = .ok () ∧ Seed.checkRows e rows = .error r := by
  rw [Entity.compileSeed, Effect.result_bind_error_iff]
  refine or_congr_right ⟨?_, ?_⟩
  · rintro ⟨⟨⟩, hcolumns, h⟩
    rcases Effect.result_bind_error_iff.mp h with hrows | ⟨_, -, hlast⟩
    · exact ⟨hcolumns, hrows⟩
    · cases hlast
  · rintro ⟨hcolumns, hrows⟩
    exact ⟨(), hcolumns, Effect.result_bind_error_iff.mpr (.inl hrows)⟩

/-! ## Checks -/

/-- The refusals by which a tool is turned down at a check, each with the checks before it passed.
The first three are tools that only look at the files. -/
inductive ToolCheck (ctx : ToolContext) (t : Tree) : ToolInput → Refusal → Prop
  /-- A directory is not listed. -/
  | listing {path : Option Text} {r : Refusal} (h : listFiles ctx path t = .error (.refused r)) :
      ToolCheck ctx t (.listFiles path) r
  /-- A file is not read. -/
  | reading {path : Text} {r : Refusal} (h : readFile ctx path t = .error (.refused r)) :
      ToolCheck ctx t (.readFile path) r
  /-- The models are not summarised. -/
  | summary {entity : Option Text} {r : Refusal}
      (h : analyzeSchema ctx entity t = .error (.refused r)) :
      ToolCheck ctx t (.analyzeSchema entity) r
  /-- A file is not edited. -/
  | edit {path new : Text} {old : Option Text} {r : Refusal} (hreal : ctx.dryRun = false)
      (h : Project.EditCheck t ctx.root path old new r) :
      ToolCheck ctx t (.editFile path old new) r
  /-- The entity is not built. -/
  | entity {input : EntityInput} {r : Refusal} (h : input.build = .error (.refused r)) :
      ToolCheck ctx t (.createSchema input) r
  /-- A field takes a name or a column it cannot have. -/
  | columns {input : EntityInput} {e : Entity} {r : Refusal} (hb : input.build = .ok e)
      (h : e.checkColumns = .error r) : ToolCheck ctx t (.createSchema input) r
  /-- No schema is written yet. -/
  | toMigrate {label : Option Text} (h : ctx.state.withStage .schemaWritten = []) :
      ToolCheck ctx t (.generateMigration label) .nothingToMigrate
  /-- No migration is generated yet. -/
  | toApply (h : ctx.state.withStage .migrationGenerated = []) :
      ToolCheck ctx t .runMigration .nothingToApply
  /-- The entity of an endpoint has no schema. -/
  | endpointStage {label : Text} {methods : List Text} {route : Option Text}
      (h : ctx.state.has (Naming.canonical label) .schemaWritten = false) :
      ToolCheck ctx t (.createApiEndpoint label methods route)
        (.missingPrerequisite .schema (Naming.canonical label))
  /-- The methods are not accepted. -/
  | methods {label : Text} {methods : List Text} {route : Option Text} {r : Refusal}
      (hstage : ctx.state.has (Naming.canonical label) .schemaWritten = true)
      (h : Method.select (methods.map .str) = .error r) :
      ToolCheck ctx t (.createApiEndpoint label methods route) r
  /-- The entity of a hook has no endpoint. -/
  | hookStage {label : Text} {route : Option Text}
      (h : ctx.state.has (Naming.canonical label) .endpointWritten = false) :
      ToolCheck ctx t (.createApiClientHook label route)
        (.missingPrerequisite .endpoint (Naming.canonical label))
  /-- The entity of sample rows has no schema. -/
  | seedStage {label : Text} {rows : List Members}
      (h : ctx.state.has (Naming.canonical label) .schemaWritten = false) :
      ToolCheck ctx t (.seedDatabase label rows)
        (.missingPrerequisite .schema (Naming.canonical label))
  /-- A field of the tracked entity takes a name or a column it cannot have. -/
  | seedColumns {label : Text} {rows : List Members} {p : Progress} {r : Refusal}
      (hget : ctx.state.get? (Naming.canonical label) = some p)
      (hstage : p.has .schemaWritten = true) (h : p.entity.checkColumns = .error r) :
      ToolCheck ctx t (.seedDatabase label rows) r
  /-- The rows do not fit the tracked entity. -/
  | rows {label : Text} {rows : List Members} {p : Progress} {r : Refusal}
      (hget : ctx.state.get? (Naming.canonical label) = some p)
      (hstage : p.has .schemaWritten = true) (hcolumns : p.entity.checkColumns = .ok ())
      (h : Seed.checkRows p.entity rows = .error r) :
      ToolCheck ctx t (.seedDatabase label rows) r

/-- A prerequisite that is missing is refused. -/
theorem requirePrerequisite_error_iff {name : Text} {what : Prerequisite} {r : Refusal} :
    requirePrerequisite ctx name what = .error r ↔
      ctx.state.has name what.stage = false ∧ r = .missingPrerequisite what name := by
  rw [requirePrerequisite]
  cases ctx.state.has name what.stage <;> simp [eq_comm]

/-- An entity has a stage exactly when its entry is there and has it. -/
theorem has_iff_get? {name : Text} {s : Stage} :
    ctx.state.has name s = true ↔ ∃ p, ctx.state.get? name = some p ∧ p.has s = true := by
  rw [WorkflowState.has]
  cases ctx.state.get? name <;> simp

/-- Once the schema is written, sample rows are compiled for the tracked entity and their module is
emitted. -/
theorem seedDatabase_run {label : Text} {rows : List Members} {p : Progress}
    (hget : ctx.state.get? (Naming.canonical label) = some p)
    (hstage : p.has .schemaWritten = true) (w : World) :
    (handle ctx (.seedDatabase label rows)).run w
      = (Action.ofRefusal (p.entity.compileSeed rows) >>= fun a => emit ctx a >>= fun data =>
          pure (seedOutcome (Naming.canonical label) rows data)).run w := by
  have hpre : requirePrerequisite ctx (Naming.canonical label) .schema = .ok () :=
    requirePrerequisite_ok_iff.mpr (has_iff_get?.mpr ⟨p, hget, hstage⟩)
  refine (run_ofRefusal_bind hpre _ w).trans ?_
  rw [hget]
  rfl

/-! ## What a check leaves -/

/-- **Checks come first.** A tool that is turned down at a check fails with the refusal of the check
and leaves the world as it was. -/
theorem ToolCheck.handle_run {input : ToolInput} {r : Refusal}
    (h : ToolCheck ctx w.tree input r) : (handle ctx input).run w = (.error (.refused r), w) := by
  cases h with
  | listing h | reading h | summary h => exact Action.look_iff.mpr ⟨h, rfl⟩
  | edit hreal h =>
    rw [handle, editFile, hreal, if_neg Bool.false_ne_true]
    exact Effect.bind_error_iff.mpr (.inl (Action.onFiles_iff.mpr ⟨w.tree, h.edit_run, rfl⟩))
  | entity h =>
    rw [handle, createSchema_run, writeSchema_error_iff.mpr (.inl ⟨h, rfl⟩)]
  | @columns input e _ hb h =>
    have hcompile := Entity.compileSchema_error_iff.mpr h
    rw [handle, createSchema_run,
      writeSchema_error_iff.mpr (.inr ⟨e, hb, .inl ⟨_, hcompile, rfl, rfl⟩⟩)]
  | toMigrate h =>
    rw [handle, generateMigration]
    dsimp only
    rw [if_pos (List.isEmpty_iff.mpr h)]
    exact Effect.bind_error_iff.mpr (.inl (Effect.throw_error_iff.mpr ⟨rfl, rfl⟩))
  | toApply h =>
    rw [handle, runMigration]
    dsimp only
    rw [if_pos (List.isEmpty_iff.mpr h)]
    exact Effect.bind_error_iff.mpr (.inl (Effect.throw_error_iff.mpr ⟨rfl, rfl⟩))
  | endpointStage h | hookStage h | seedStage h =>
    exact run_ofRefusal_bind_error (requirePrerequisite_error_iff.mpr ⟨h, rfl⟩) _ w
  | @methods label _ _ _ hstage h =>
    have hpre : requirePrerequisite ctx (Naming.canonical label) .schema = .ok () :=
      requirePrerequisite_ok_iff.mpr hstage
    refine (run_ofRefusal_bind hpre _ w).trans ?_
    exact run_ofRefusal_bind_error (compileEndpoint_error_iff.mpr h) _ w
  | seedColumns hget hstage h =>
    rw [seedDatabase_run hget hstage]
    exact run_ofRefusal_bind_error (compileSeed_error_iff.mpr (.inl h)) _ w
  | rows hget hstage hcolumns h =>
    rw [seedDatabase_run hget hstage]
    exact run_ofRefusal_bind_error (compileSeed_error_iff.mpr (.inr ⟨hcolumns, h⟩)) _ w

/-! ## What else a tool is refused for -/

/-- A path is refused as a path. -/
theorem refusedBy_of_resolve {t : Tree} {path : Text} {f : Failure}
    (h : resolveInProject t ctx.root path = .error f) : f.RefusedBy Refusal.ofPath := by
  rintro r rfl
  rcases resolveInProject_failure h with ⟨q, hf, hq⟩ | hf
  · cases hf
    exact hq
  · cases hf

/-- A write is refused for its path only. -/
theorem failsBy_write_refused (path content : Text) :
    FailsBy (Failure.RefusedBy Refusal.ofPath)
      (Action.onFiles (Project.write ctx.root path content)) := by
  refine Action.failsBy_onFiles ((Project.failsBy_write ctx.root path content).mono ?_)
  rintro _ (⟨_, hf⟩ | ⟨_, hf⟩ | ⟨q, hf, hq⟩) r rfl
  · cases hf
  · cases hf
  · cases hf
    exact hq

/-- Emitting an artifact is refused for its path only. -/
theorem failsBy_emit_refused (a : Artifact) :
    FailsBy (Failure.RefusedBy Refusal.ofPath) (emit ctx a) := by
  rw [emit]
  split
  · exact Effect.failsBy_pure _
  · exact (failsBy_write_refused a.path a.content).bind fun _ => Effect.failsBy_pure _

/-- The preview of a change is refused for its path only. -/
theorem failsBy_previewChange_refused (verb path : Text) :
    FailsBy (Failure.RefusedBy Refusal.ofPath) (previewChange ctx verb path) :=
  (Action.failsBy_look fun _ _ h => refusedBy_of_resolve h).bind fun _ => Effect.failsBy_pure _

/-- The words of a command are refused only if there are none. -/
theorem refusedBy_of_build {line : Text} {label flag : Option Text} {f : Failure}
    (h : (Command.line line).build label flag = .error f) : f.RefusedBy Refusal.ofProcess := by
  rintro r rfl
  rw [Command.build] at h
  rcases Effect.result_bind_error_iff.mp h with hwords | ⟨words, -, hrest⟩
  · cases hsplit : CommandLine.words line with
    | error _ =>
      rw [hsplit] at hwords
      cases hwords
    | ok _ =>
      rw [hsplit] at hwords
      cases hwords
  · dsimp only at hrest
    split at hrest
    · cases hrest
      rfl
    · split at hrest <;> cases hrest

/-- A migration command is refused for its words or for its process only. -/
theorem failsBy_runMigrationCommand_refused (command : Text) (label flag : Option Text) :
    FailsBy (Failure.RefusedBy Refusal.ofProcess) (runMigrationCommand ctx command label flag) := by
  have hprocess : ∀ {q : Refusal}, q.ofProcess = true →
      (Failure.refused q).RefusedBy Refusal.ofProcess := by
    rintro q hq r hr
    cases hr
    exact hq
  have hbuild : FailsBy (Failure.RefusedBy Refusal.ofProcess)
      (Action.ofExcept ((Command.line command).build label flag)) :=
    Action.failsBy_ofExcept fun _ h => refusedBy_of_build h
  rw [runMigrationCommand]
  split
  · exact hbuild.bind fun _ => Effect.failsBy_pure _
  · refine FailsBy.bind (hbuild.bind fun words => ?_) fun result => ?_
    · have hbad : ∀ v, (Failure.badValue v).RefusedBy Refusal.ofProcess := by
        intro v r hr
        cases hr
      refine (Action.failsBy_spawn fun flaw _ => hbad _).bind fun event => ?_
      cases event with
      | ended _ _ _ => exact Effect.failsBy_pure _
      | timedOut | refused _ => exact Effect.failsBy_throw (hprocess rfl)
      | unread _ _ => exact Effect.failsBy_throw (hbad _)
      | interrupted =>
        refine Effect.failsBy_throw fun r hr => ?_
        cases hr
    · split
      · exact Effect.failsBy_throw_bind (hprocess rfl) _
      · exact Effect.failsBy_pure _

/-- What is refused behind a check that can only be refused is refused by the check or behind it. -/
theorem ofRefusal_bind_refused {α β : Type} {q : Except Refusal α} {k : α → Action β} {r : Refusal}
    (h : (Action.ofRefusal q >>= k).run w = (.error (.refused r), w')) :
    q = .error r ∨ ∃ x, q = .ok x ∧ (k x).run w = (.error (.refused r), w') := by
  rcases Effect.bind_error_iff.mp h with hq | ⟨x, w₁, hq, hk⟩
  · obtain ⟨⟨r', hr', hf⟩, -⟩ := Action.ofRefusal_error_iff.mp hq
    cases hf
    exact .inl hr'
  · obtain ⟨hx, rfl⟩ := Action.ofRefusal_ok_iff.mp hq
    exact .inr ⟨x, hx, hk⟩

/-- A tool that ends by emitting an artifact is refused there for the path only. -/
theorem ofPath_of_emit_bind {a : Artifact} {g : Members → Outcome} {r : Refusal}
    (h : (emit ctx a >>= fun data => pure (g data)).run w = (.error (.refused r), w')) :
    r.ofPath = true :=
  (failsBy_emit_refused a).bind (fun _ => Effect.failsBy_pure _) h r rfl

/-- An edit is refused at a check or for its path. -/
theorem toolCheck_of_editFile {path new : Text} {old : Option Text} {r : Refusal}
    (h : (editFile ctx path old new).run w = (.error (.refused r), w')) :
    ToolCheck ctx w.tree (.editFile path old new) r ∨ r.ofPath = true := by
  rw [editFile] at h
  split at h
  case isTrue => exact .inr (failsBy_previewChange_refused _ path h r rfl)
  case isFalse hreal =>
    rcases Effect.bind_error_iff.mp h with hedit | ⟨_, _, -, hlast⟩
    · obtain ⟨t, hrun, -⟩ := Action.onFiles_iff.mp hedit
      exact (Project.editCheck_of_edit hrun).imp_left (.edit (Bool.eq_false_iff.mpr hreal))
    · exact absurd hlast Effect.pure_ne_error

/-- A file is written, or it is refused for its path. -/
theorem ofPath_of_writeFile {path content : Text} {r : Refusal}
    (h : (writeFile ctx path content).run w = (.error (.refused r), w')) : r.ofPath = true := by
  rw [writeFile] at h
  split at h
  · exact failsBy_previewChange_refused _ path h r rfl
  · exact (failsBy_write_refused path content).bind (fun _ => Effect.failsBy_pure _) h r rfl

/-- A schema is refused at a check or for the paths of its files. -/
theorem toolCheck_of_createSchema {input : EntityInput} {r : Refusal}
    (h : (createSchema ctx input).run w = (.error (.refused r), w')) :
    ToolCheck ctx w.tree (.createSchema input) r ∨ r.ofPath = true := by
  rw [createSchema_run] at h
  rcases hw : (writeSchema ctx input).run w with ⟨f | ⟨e, data⟩, w₁⟩
  · rw [hw] at h
    obtain ⟨hf, rfl⟩ := Prod.mk.inj h
    cases hf
    rcases writeSchema_error_iff.mp hw with ⟨hb, -⟩ | ⟨e, hb, ⟨q, hc, hf, -⟩ | ⟨schema, -, hemit⟩⟩
    · exact .inl (.entity hb)
    · cases hf
      exact .inl (.columns hb (Entity.compileSchema_error_iff.mp hc))
    · rcases hemit with hmodel | ⟨_, _, -, hshapes⟩
      · exact .inr (failsBy_emit_refused _ hmodel r rfl)
      · exact .inr (failsBy_emit_refused _ hshapes r rfl)
  · rw [hw] at h
    cases h

/-- A refusal among several schemas is a row of the outcome, not a failure of the tool. -/
theorem createMultipleSchemas_ne_refused {inputs : List EntityInput} {r : Refusal} :
    (createMultipleSchemas ctx inputs).run w ≠ (.error (.refused r), w') := by
  intro h
  rw [createMultipleSchemas_run] at h
  rcases ha : (attemptSchemas ctx inputs).run w with ⟨f | attempts, w₁⟩
  · rw [ha] at h
    obtain ⟨hf, rfl⟩ := Prod.mk.inj h
    cases hf
    exact (attemptSchemas_error_iff.mp ha).1 r rfl
  · rw [ha] at h
    cases h

/-- A migration is refused when no entity is ready for it, or else for its process. -/
theorem migration_refused {ready : List Text} {q r : Refusal} {command : Text}
    {label flag : Option Text} {g : Members → Outcome}
    (h : (do
        if ready.isEmpty then throw (.refused q)
        let data ← runMigrationCommand ctx command label flag
        return g data : Action Outcome).run w = (.error (.refused r), w')) :
    ready = [] ∧ r = q ∨ r.ofProcess = true := by
  dsimp only at h
  split at h
  case isTrue hready =>
    rcases Effect.bind_error_iff.mp h with hthrow | ⟨_, _, hthrow, -⟩
    · cases (Effect.throw_error_iff.mp hthrow).1
      exact .inl ⟨List.isEmpty_iff.mp hready, rfl⟩
    · exact absurd hthrow Effect.throw_ne_ok
  case isFalse =>
    exact .inr ((failsBy_runMigrationCommand_refused command label flag).bind
      (fun _ => Effect.failsBy_pure _) h r rfl)

/-- An endpoint is refused at a check or for its path. -/
theorem toolCheck_of_createApiEndpoint {label : Text} {methods : List Text} {route : Option Text}
    {r : Refusal}
    (h : (createApiEndpoint ctx label methods route).run w = (.error (.refused r), w')) :
    ToolCheck ctx w.tree (.createApiEndpoint label methods route) r ∨ r.ofPath = true := by
  rcases ofRefusal_bind_refused h with hpre | ⟨_, hpre, hcompile⟩
  · obtain ⟨hstage, rfl⟩ := requirePrerequisite_error_iff.mp hpre
    exact .inl (.endpointStage hstage)
  rcases ofRefusal_bind_refused hcompile with hmethods | ⟨a, -, hemit⟩
  · have hstage := requirePrerequisite_ok_iff.mp hpre
    exact .inl (.methods hstage (compileEndpoint_error_iff.mp hmethods))
  · exact .inr (ofPath_of_emit_bind hemit)

/-- A hook is refused at a check or for its path. -/
theorem toolCheck_of_createApiClientHook {label : Text} {route : Option Text} {r : Refusal}
    (h : (createApiClientHook ctx label route).run w = (.error (.refused r), w')) :
    ToolCheck ctx w.tree (.createApiClientHook label route) r ∨ r.ofPath = true := by
  rcases ofRefusal_bind_refused h with hpre | ⟨_, -, hemit⟩
  · obtain ⟨hstage, rfl⟩ := requirePrerequisite_error_iff.mp hpre
    exact .inl (.hookStage hstage)
  · exact .inr (ofPath_of_emit_bind hemit)

/-- Sample rows are refused at a check or for their path. -/
theorem toolCheck_of_seedDatabase {label : Text} {rows : List Members} {r : Refusal}
    (h : (handle ctx (.seedDatabase label rows)).run w = (.error (.refused r), w')) :
    ToolCheck ctx w.tree (.seedDatabase label rows) r ∨ r.ofPath = true := by
  cases hhas : ctx.state.has (Naming.canonical label) .schemaWritten with
  | false =>
    have hcheck : ToolCheck ctx w.tree (.seedDatabase label rows) _ := .seedStage hhas
    rw [hcheck.handle_run] at h
    cases h
    exact .inl hcheck
  | true =>
    obtain ⟨p, hget, hwritten⟩ := has_iff_get?.mp hhas
    rw [seedDatabase_run hget hwritten] at h
    rcases ofRefusal_bind_refused h with hcompile | ⟨a, -, hemit⟩
    · rcases compileSeed_error_iff.mp hcompile with hcolumns | ⟨hcolumns, hrows⟩
      · exact .inl (.seedColumns hget hwritten hcolumns)
      · exact .inl (.rows hget hwritten hcolumns hrows)
    · exact .inr (ofPath_of_emit_bind hemit)

/-- **Nothing else is refused.** What a tool is refused for is a check, its path or its process. -/
theorem toolCheck_of_handle {input : ToolInput} {r : Refusal}
    (h : (handle ctx input).run w = (.error (.refused r), w')) :
    ToolCheck ctx w.tree input r ∨ r.ofPath = true ∨ r.ofProcess = true := by
  cases input with
  | listFiles path => exact .inl (.listing (Action.look_iff.mp h).1)
  | readFile path => exact .inl (.reading (Action.look_iff.mp h).1)
  | analyzeSchema entity => exact .inl (.summary (Action.look_iff.mp h).1)
  | analyzeRequest request => exact absurd h Effect.pure_ne_error
  | writeFile path content => exact .inr (.inl (ofPath_of_writeFile h))
  | editFile path old new => exact (toolCheck_of_editFile h).imp_right .inl
  | createSchema input => exact (toolCheck_of_createSchema h).imp_right .inl
  | createMultipleSchemas inputs => exact absurd h createMultipleSchemas_ne_refused
  | generateMigration label =>
    rcases migration_refused h with ⟨hready, rfl⟩ | hprocess
    · exact .inl (.toMigrate hready)
    · exact .inr (.inr hprocess)
  | runMigration =>
    rcases migration_refused h with ⟨hready, rfl⟩ | hprocess
    · exact .inl (.toApply hready)
    · exact .inr (.inr hprocess)
  | createApiEndpoint label methods route =>
    exact (toolCheck_of_createApiEndpoint h).imp_right .inl
  | createApiClientHook label route => exact (toolCheck_of_createApiClientHook h).imp_right .inl
  | seedDatabase label rows => exact (toolCheck_of_seedDatabase h).imp_right .inl

end Tool

end Tablewright
