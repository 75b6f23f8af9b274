/-
The processes that tools start.

Only the two migration tools start processes, each one at most. `Migration.Course` says what comes
of a migration tool in a state and a world: its stage is completed when its process ends with status
zero and is read, and in a dry run when it is shown; in all other cases it fails. Two of the failures
have no answer: a word of the command may be one the system cannot be given, and then no process is
started, and what the process wrote may not come to be read. `handle_startsNone` says that no other
tool starts a process.
-/
import Tablewright.Proofs.Run.DryRun
import Tablewright.Proofs.Tool.Command
import Tablewright.Proofs.Tool.Emission

set_option autoImplicit false

namespace Tablewright

/-! ## Migration calls -/

/-- What is asked of migrations: to generate one, under a label if there is one, or to apply those
that are there. -/
inductive Migration where
  /-- Generate a migration. -/
  | generate (label : Option Text)
  /-- Apply the migrations. -/
  | apply

namespace Migration

/-- The input of the tool. -/
def input : Migration → ToolInput
  | generate label => .generateMigration label
  | apply => .runMigration

/-- A migration is known by the input of its tool. -/
theorem input_injective {m m' : Migration} (h : m.input = m'.input) : m = m' := by
  cases m <;> cases m' <;> cases h <;> rfl

/-- The stage an entity must have completed to be covered. -/
def prerequisite : Migration → Stage
  | generate _ => .schemaWritten
  | apply => .migrationGenerated

/-- The stage that is completed. -/
def stage : Migration → Stage
  | generate _ => .migrationGenerated
  | apply => .migrationApplied

/-- The configured command. -/
def command (cfg : RunConfig) : Migration → Text
  | generate _ => cfg.generateCommand
  | apply => cfg.applyCommand

/-- The label, which only a generated migration may have. -/
def label? : Migration → Option Text
  | generate label => label
  | apply => none

/-- The flag before the label. -/
def flag? (cfg : RunConfig) : Migration → Option Text
  | generate _ => some cfg.labelFlag
  | apply => none

/-- The words that stand behind those of the configured command. -/
def added (cfg : RunConfig) : Migration → List Text
  | generate label => Command.labelWords cfg.labelFlag label
  | apply => []

/-- What comes of a migration that covers some entities. -/
def outcome (ready : List Text) (data : Members) : Migration → Outcome
  | generate _ =>
    { Outcome.success ("Migration generated for: " ++ Text.join ", " ready) data with
      completed := ready.map fun name => (name, .migrationGenerated) }
  | apply =>
    { Outcome.success ("Migration applied for: " ++ Text.join ", " ready) data with
      completed := ready.map fun name => (name, .migrationApplied) }

@[simp] theorem ok_outcome (m : Migration) (ready : List Text) (data : Members) :
    (m.outcome ready data).ok = true := by cases m <;> rfl

@[simp] theorem data_outcome (m : Migration) (ready : List Text) (data : Members) :
    (m.outcome ready data).data = data := by cases m <;> rfl

@[simp] theorem completed_outcome (m : Migration) (ready : List Text) (data : Members) :
    (m.outcome ready data).completed = ready.map fun name => (name, m.stage) := by cases m <;> rfl

/-- There is something to do: some entity is ready, and the configured command has words. -/
def Able (cfg : RunConfig) (m : Migration) (st : WorkflowState) : Prop :=
  st.withStage m.prerequisite ≠ [] ∧ ∃ base, CommandLine.words (m.command cfg) = .ok base ∧ base ≠ []

/-- The process is the one a configuration and a migration call give: its words are those of the
configured command and what the call adds behind them, and it has the configured directory and
limit. -/
structure Fits (cfg : RunConfig) (m : Migration) (p : Spawn) : Prop where
  words : ∃ base, CommandLine.words (m.command cfg) = .ok base ∧ p.command = base ++ m.added cfg
  directory : p.directory = some cfg.root.text
  limit : p.limit = cfg.limit

variable {cfg : RunConfig} {m : Migration} {st : WorkflowState} {w : World}

theorem build_ok_iff {words : List Text} :
    (Command.line (m.command cfg)).build m.label? (m.flag? cfg) = .ok words ↔
      ∃ base, CommandLine.words (m.command cfg) = .ok base ∧ base ≠ [] ∧
        base ++ m.added cfg = words := by
  rw [Command.build_line_ok_iff]
  cases m <;> rfl

/-- The migration tools do the same work with their own values: they refuse when no entity is ready,
and otherwise run their command and tell of it. -/
theorem handle_eq (cfg : RunConfig) (m : Migration) (st : WorkflowState) :
    ∃ r, Tool.handle (cfg.context st) m.input =
      if (st.withStage m.prerequisite).isEmpty then throw (.refused r)
      else do
        let data ←
          Tool.runMigrationCommand (cfg.context st) (m.command cfg) m.label? (m.flag? cfg)
        return m.outcome (st.withStage m.prerequisite) data := by
  cases m with
  | generate label =>
    refine ⟨.nothingToMigrate, ?_⟩
    rw [input, Tool.handle, Tool.generateMigration]
    dsimp only
    split
    case isTrue hempty => exact (if_pos hempty).symm
    case isFalse hready => exact (if_neg hready).symm
  | apply =>
    refine ⟨.nothingToApply, ?_⟩
    rw [input, Tool.handle, Tool.runMigration]
    dsimp only
    split
    case isTrue hempty => exact (if_pos hempty).symm
    case isFalse hready => exact (if_neg hready).symm

/-! ## What comes of a migration call -/

/-- What comes of a migration tool in a state and a world. -/
inductive Course (cfg : RunConfig) (m : Migration) (st : WorkflowState) (w : World) :
    Except Failure Outcome → World → Prop
  /-- There is nothing to do. -/
  | barred {f : Failure} (hnot : ¬ m.Able cfg st) : Course cfg m st w (.error f) w
  /-- In a dry run the command is shown. -/
  | shown {data : Members} (hdry : cfg.dryRun = true) (hable : m.Able cfg st)
      (hdata : data.get? "action" = some (.str Tool.preview)) :
      Course cfg m st w (.ok (m.outcome (st.withStage m.prerequisite) data)) w
  /-- The process cannot be handed to the system, so it is not started. -/
  | unpassed {p : Spawn} {flaw : HandoverFlaw} (hreal : cfg.dryRun = false) (hable : m.Able cfg st)
      (hfits : m.Fits cfg p) (hflaw : p.flaw? = some flaw) :
      Course cfg m st w (.error (.badValue (.badWord flaw))) w
  /-- A process is started that ends with status zero. -/
  | ended {p : Spawn} {stdout stderr : Text} {data : Members} (hreal : cfg.dryRun = false)
      (hable : m.Able cfg st) (hfits : m.Fits cfg p) (hpass : p.flaw? = none)
      (hend : w.upcoming = .ended 0 stdout stderr) :
      Course cfg m st w (.ok (m.outcome (st.withStage m.prerequisite) data)) (w.start p)
  /-- A process is started and its outputs are not read, whatever it ended with. -/
  | unread {p : Spawn} {status : Option Int} {reason : Text} (hreal : cfg.dryRun = false)
      (hable : m.Able cfg st) (hfits : m.Fits cfg p) (hpass : p.flaw? = none)
      (hend : w.upcoming = .unread status reason) :
      Course cfg m st w (.error (.badValue (.unreadOutput reason))) (w.start p)
  /-- A process is started and something else becomes of it. -/
  | failed {p : Spawn} {f : Failure} (hreal : cfg.dryRun = false) (hable : m.Able cfg st)
      (hfits : m.Fits cfg p) (hpass : p.flaw? = none)
      (hend : ∀ stdout stderr, w.upcoming ≠ .ended 0 stdout stderr)
      (hread : ∀ status reason, w.upcoming ≠ .unread status reason)
      (hanswer : f.IsAnswered ∨ f = .interrupted ∧ w.upcoming = .interrupted) :
      Course cfg m st w (.error f) (w.start p)

/-- **One migration call.** Whatever comes of a migration tool is one of the courses. -/
theorem handle_course (cfg : RunConfig) (m : Migration) (st : WorkflowState) (w : World) :
    m.Course cfg st w ((Tool.handle (cfg.context st) m.input).run w).1
      ((Tool.handle (cfg.context st) m.input).run w).2 := by
  obtain ⟨r, hhandle⟩ := handle_eq cfg m st
  rw [hhandle]
  split
  case isTrue hempty => exact .barred fun hable => hable.1 (List.isEmpty_iff.mp hempty)
  case isFalse hempty =>
    have hready : st.withStage m.prerequisite ≠ [] := fun h => hempty (by rw [h]; rfl)
    rw [Effect.run_bind]
    cases hwords : (Command.line (m.command cfg)).build m.label? (m.flag? cfg) with
    | error f =>
      rw [Tool.runMigrationCommand_run_of_error hwords]
      refine .barred ?_
      rintro ⟨-, base, hbase, hne⟩
      have hbuilt := build_ok_iff.mpr ⟨base, hbase, hne, rfl⟩
      rw [hwords] at hbuilt
      cases hbuilt
    | ok words =>
      obtain ⟨base, hbase, hne, hadded⟩ := build_ok_iff.mp hwords
      have hable : m.Able cfg st := ⟨hready, base, hbase, hne⟩
      by_cases hdry : (cfg.context st).dryRun = true
      · rw [Tool.runMigrationCommand_dry_run hdry hwords]
        exact .shown hdry hable rfl
      · have hreal : (cfg.context st).dryRun = false := by simpa using hdry
        have hfits : m.Fits cfg (Tool.process (cfg.context st) words) :=
          ⟨⟨base, hbase, hadded.symm⟩, rfl, rfl⟩
        cases hflaw : (Tool.process (cfg.context st) words).flaw? with
        | some flaw =>
          rw [Tool.runMigrationCommand_run_of_flaw hreal hwords hflaw]
          exact .unpassed hreal hable hfits hflaw
        | none =>
          obtain ⟨q, hrun, hcomes⟩ := Tool.runMigrationCommand_run hreal hwords hflaw w
          rw [hrun]
          generalize hevent : w.upcoming = event at hcomes
          cases hcomes with
          | done => exact .ended hreal hable hfits hflaw hevent
          | unread => exact .unread hreal hable hfits hflaw hevent
          | failed hend hread hanswer =>
            subst hevent
            exact .failed hreal hable hfits hflaw hend hread hanswer

end Migration

/-! ## Tools that start no process -/

namespace Action

variable {α β : Type}

/-- The operation starts no process, whether it succeeds or fails. -/
def StartsNone (a : Action α) : Prop := ∀ w : World, (a.run w).2.spawned = w.spawned

theorem Keeps.startsNone {a : Action α} (h : Keeps a) : StartsNone a := fun w => by rw [h w]

/-- Files are written without a process. -/
theorem startsNone_onFiles (a : FileAction α) : StartsNone (onFiles a) := fun _ => rfl

/-- A sequence starts no process when neither of its parts does. -/
theorem StartsNone.bind {a : Action α} {k : α → Action β} (ha : StartsNone a)
    (hk : ∀ x, StartsNone (k x)) : StartsNone (a >>= k) := by
  intro w
  have hw := ha w
  rw [Effect.run_bind]
  rcases h : a.run w with ⟨_ | x, w₁⟩
  · rw [h] at hw
    exact hw
  · rw [h] at hw
    exact (hk x w₁).trans hw

end Action

namespace Tool

open Tablewright.Action

variable {ctx : ToolContext}

theorem startsNone_emit (a : Artifact) : StartsNone (emit ctx a) := by
  rw [emit]
  split
  · exact (keeps_pure _).startsNone
  · exact (startsNone_onFiles _).bind fun _ => (keeps_pure _).startsNone

theorem startsNone_emitSchema (e : Entity) : StartsNone (emitSchema ctx e) := by
  refine (keeps_ofRefusal _).startsNone.bind fun schema => ?_
  refine (startsNone_emit _).bind fun model => (startsNone_emit _).bind fun shapes => ?_
  exact (keeps_pure _).startsNone

theorem startsNone_attemptSchemas (inputs : List EntityInput) :
    StartsNone (attemptSchemas ctx inputs) := by
  induction inputs with
  | nil => exact (keeps_pure _).startsNone
  | cons input rest ih =>
    refine StartsNone.bind ?_ fun result => ih.bind fun others => (keeps_pure _).startsNone
    have hwrite : StartsNone (writeSchema ctx input) :=
      (keeps_ofExcept _).startsNone.bind fun e =>
        (startsNone_emitSchema e).bind fun data => (keeps_pure _).startsNone
    intro w
    have hw := hwrite w
    -- an attempt turns a refusal into a result and does nothing else
    change ((attempt (writeSchema ctx input)).run w).2.spawned = w.spawned
    rw [attempt_run]
    rcases h : (writeSchema ctx input).run w with ⟨f | x, w₁⟩
    all_goals rw [h] at hw
    · cases f <;> exact hw
    · exact hw

/-- **No other process.** A tool that is given no migration starts no process. -/
theorem handle_startsNone (ctx : ToolContext) {input : ToolInput}
    (h : ∀ m : Migration, input ≠ m.input) : StartsNone (handle ctx input) := by
  cases input with
  | generateMigration label => exact absurd rfl (h (.generate label))
  | runMigration => exact absurd rfl (h .apply)
  | listFiles path => exact (keeps_look _).startsNone
  | readFile path => exact (keeps_look _).startsNone
  | analyzeRequest request => exact (keeps_pure _).startsNone
  | analyzeSchema entity => exact (keeps_look _).startsNone
  | writeFile path content =>
    rw [handle, writeFile]
    split
    · exact (keeps_previewChange _ path).startsNone
    · exact (startsNone_onFiles _).bind fun _ => (keeps_pure _).startsNone
  | editFile path old new =>
    rw [handle, editFile]
    split
    · exact (keeps_previewChange _ path).startsNone
    · exact (startsNone_onFiles _).bind fun _ => (keeps_pure _).startsNone
  | createSchema input =>
    refine (keeps_ofExcept _).startsNone.bind fun e => ?_
    exact (startsNone_emitSchema e).bind fun data => (keeps_pure _).startsNone
  | createMultipleSchemas inputs =>
    exact (startsNone_attemptSchemas inputs).bind fun attempts => (keeps_pure _).startsNone
  | createApiEndpoint label methods route =>
    refine (keeps_ofRefusal _).startsNone.bind fun _ => (keeps_ofRefusal _).startsNone.bind fun a => ?_
    exact (startsNone_emit a).bind fun data => (keeps_pure _).startsNone
  | createApiClientHook label route =>
    refine (keeps_ofRefusal _).startsNone.bind fun _ => ?_
    exact (startsNone_emit _).bind fun data => (keeps_pure _).startsNone
  | seedDatabase label rows =>
    refine (keeps_ofRefusal _).startsNone.bind fun _ => ?_
    split
    · exact (keeps_throw _).startsNone
    · refine (keeps_ofRefusal _).startsNone.bind fun a => ?_
      exact (startsNone_emit a).bind fun data => (keeps_pure _).startsNone

end Tool

end Tablewright
