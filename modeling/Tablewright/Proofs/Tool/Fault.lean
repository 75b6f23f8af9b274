/-
How tools can fail.

Inside a run only refusals and errors of the file system are answered. The other ways in which a
tool can fail are few, and `handle_failsBy` lists them: an interrupted process, a defect met in the
files, and a configured command with something wrong about it. The list is read off the operations
the tools are made of, from the file system upwards.

What can be wrong about a command is that it cannot be split into words, that the system cannot be
given one of the words, and that the output of its process does not come to be read. `CommandFault`
says when, and `handle_badValue_iff` that a tool fails for no other reason in this way.
-/
import Tablewright.Proofs.Files.Fault
import Tablewright.Proofs.Tool.Command
import Tablewright.Proofs.Tool.Lesson

set_option autoImplicit false

namespace Tablewright

open Effect (FailsBy)

/-! ## Entities and commands -/

/-- A given field that is not built is refused. -/
theorem Field.ofJson_refused {input : FieldInput} {f : Failure}
    (h : Field.ofJson input.toJson = .error f) : ∃ r, f = .refused r := by
  -- a given field is an object with text members, so no part is missing or of the wrong kind
  have hparts : Field.ofJson input.toJson
      = Field.build (.str input.name) (.str input.kind) (Json.texts input.constraints) := rfl
  rw [hparts, Field.build] at h
  dsimp only at h
  split at h
  · cases h
    exact ⟨_, rfl⟩
  · obtain hl | ⟨raw, -, hrest⟩ := Effect.result_bind_error_iff.mp h
    · cases hl
    · obtain hc | ⟨constraints, -, hlast⟩ := Effect.result_bind_error_iff.mp hrest
      · obtain ⟨r, -, rfl⟩ := liftRefusal_error_iff.mp hc
        exact ⟨r, rfl⟩
      · cases hlast

/-- Given fields that are not added are refused. -/
theorem Entity.addFields_refused {label : Json} {known : List Field} {inputs : List FieldInput}
    {f : Failure} (h : addFields label known (inputs.map FieldInput.toJson) = .error f) :
    ∃ r, f = .refused r := by
  induction inputs generalizing known with
  | nil => cases h
  | cons input rest ih =>
    rw [List.map_cons, addFields] at h
    obtain hf | ⟨field, -, hrest⟩ := Effect.result_bind_error_iff.mp h
    · exact Field.ofJson_refused hf
    · split at hrest
      · cases hrest
        exact ⟨_, rfl⟩
      · exact ih hrest

/-- A given entity that is not built is refused. -/
theorem EntityInput.build_refused {input : EntityInput} {f : Failure}
    (h : input.build = .error f) : ∃ r, f = .refused r := by
  rw [EntityInput.build, Entity.build] at h
  obtain hf | ⟨fields, -, hlast⟩ := Effect.result_bind_error_iff.mp h
  · exact Entity.addFields_refused hf
  · cases hlast

/-- A given entity is built or its failure is answered. -/
theorem EntityInput.build_error {input : EntityInput} {f : Failure}
    (h : input.build = .error f) : f.IsAnswered := by
  obtain ⟨r, rfl⟩ := build_refused h
  trivial

/-- The words of a command line are refused, or the line has no words because of an open quote or
escape. -/
theorem Command.build_error {line : Text} {label flag : Option Text} {f : Failure}
    (h : (Command.line line).build label flag = .error f) :
    f.IsAnswered ∨ ∃ v, CommandLine.words line = .error v ∧ f = .badValue v := by
  rw [Command.build] at h
  obtain hw | ⟨words, -, hrest⟩ := Effect.result_bind_error_iff.mp h
  · cases hwords : CommandLine.words line with
    | error v =>
      rw [hwords] at hw
      cases hw
      exact .inr ⟨v, rfl, rfl⟩
    | ok ws =>
      rw [hwords] at hw
      cases hw
  · left
    dsimp only at hrest
    split at hrest
    · cases hrest
      trivial
    · split at hrest
      · cases hrest
      · cases hrest

/-- How running a configured command fails. -/
theorem Command.failsBy_run (line : Text) (label flag directory : Option Text)
    (limit : Option Duration) :
    FailsBy (fun f => f.IsAnswered ∨ f = .interrupted ∨ ∃ v, f = .badValue v)
      ((Command.line line).run label flag directory limit) := by
  refine (Action.failsBy_ofExcept fun f h => ?_).bind fun words => ?_
  · exact (Command.build_error h).imp_right fun ⟨v, _, hv⟩ => .inr ⟨v, hv⟩
  refine (Action.failsBy_spawn fun flaw _ => .inr (.inr ⟨_, rfl⟩)).bind fun event => ?_
  cases event with
  | ended status stdout stderr => exact Effect.failsBy_pure _
  | timedOut => exact Effect.failsBy_throw (.inl trivial)
  | refused cause => exact Effect.failsBy_throw (.inl trivial)
  | unread status reason => exact Effect.failsBy_throw (.inr (.inr ⟨_, rfl⟩))
  | interrupted => exact Effect.failsBy_throw (.inr (.inl rfl))

namespace Tool

/-! ## Tools -/

/-- A configured command with the label of a call and the flag before it. -/
structure NeededCommand where
  /-- The configured line. -/
  line : Text
  /-- The label, if there is one. -/
  label : Option Text
  /-- The flag before the label, if there is one. -/
  flag : Option Text

/-- The words of the command. -/
def NeededCommand.words (u : NeededCommand) : Except Failure (List Text) :=
  (Command.line u.line).build u.label u.flag

/-- The command a tool needs in a state; nothing where no entity is ready for it. -/
def neededCommand (ctx : ToolContext) : ToolInput → Option NeededCommand
  | .generateMigration label =>
    if (ctx.state.withStage .schemaWritten).isEmpty then none
    else some ⟨ctx.generateCommand, label, some ctx.labelFlag⟩
  | .runMigration =>
    if (ctx.state.withStage .migrationGenerated).isEmpty then none
    else some ⟨ctx.applyCommand, none, none⟩
  | _ => none

/-- A migration is generated for the entities whose schema is written. -/
theorem neededCommand_generateMigration {ctx : ToolContext} {label : Option Text}
    (h : ¬ (ctx.state.withStage .schemaWritten).isEmpty = true) :
    neededCommand ctx (.generateMigration label)
      = some ⟨ctx.generateCommand, label, some ctx.labelFlag⟩ := if_neg h

/-- Migrations are applied for the entities for which one is generated. -/
theorem neededCommand_runMigration {ctx : ToolContext}
    (h : ¬ (ctx.state.withStage .migrationGenerated).isEmpty = true) :
    neededCommand ctx .runMigration = some ⟨ctx.applyCommand, none, none⟩ := if_neg h

/-- What is wrong about a command, other than what a run has an answer to. -/
inductive CommandFault (ctx : ToolContext) (u : NeededCommand) (w : World) : BadValue → Prop
  /-- The configured line ends inside a quote or behind a backslash. -/
  | split {v : BadValue} (hline : CommandLine.words u.line = .error v) : CommandFault ctx u w v
  /-- In a real run the system cannot be given one of the words, or the directory. -/
  | word {words : List Text} {flaw : HandoverFlaw} (hreal : ctx.dryRun = false)
      (hwords : u.words = .ok words) (hflaw : (process ctx words).flaw? = some flaw) :
      CommandFault ctx u w (.badWord flaw)
  /-- In a real run the process is started, and what it wrote does not come to be read. -/
  | unread {words : List Text} {status : Option Int} {reason : Text} (hreal : ctx.dryRun = false)
      (hwords : u.words = .ok words) (hpass : (process ctx words).flaw? = none)
      (hend : w.upcoming = .unread status reason) : CommandFault ctx u w (.unreadOutput reason)

/-- The path under which a tool looks something up in the files as they are when it is called. -/
def lookedUp : ToolInput → Option Text
  | .listFiles path =>
    let relative := (Text.trim (Text.orEmpty path)).ifEmpty "."
    if (Path.ofText relative).names.any isHidden then none else some relative
  | .readFile path => some path
  | .writeFile path _ => some path
  | .editFile path _ _ => some path
  | .analyzeSchema _ => some modelsDirectory
  | _ => none

/-- The ways in which a tool can fail whose files are in order. -/
def CanFailInOrder (ctx : ToolContext) (input : ToolInput) (f : Failure) : Prop :=
  f.IsAnswered ∨ f = .interrupted ∨
    (neededCommand ctx input).isSome = true ∧ ∃ v, f = .badValue v

/-- The ways in which a tool can fail. -/
def CanFailBy (ctx : ToolContext) (input : ToolInput) (f : Failure) : Prop :=
  CanFailInOrder ctx input f ∨ ∃ d, f = .defect d

variable {ctx : ToolContext}

/-- What a run answers is a failure that every tool can have. -/
theorem canFailBy_of_answered {input : ToolInput} {f : Failure} (h : f.IsAnswered) :
    CanFailBy ctx input f := .inl (.inl h)

/-- A tool may fail as its operation on files does. -/
theorem failsBy_onFiles {α : Type} {a : FileAction α} (input : ToolInput)
    (h : FailsBy Failure.IsFileFailure a) : FailsBy (CanFailBy ctx input) (Action.onFiles a) := by
  refine Action.failsBy_onFiles (h.mono ?_)
  rintro f (ha | hd)
  · exact canFailBy_of_answered ha
  · exact .inr hd

/-- How emitting an artifact fails. -/
theorem failsBy_emit (input : ToolInput) (a : Artifact) :
    FailsBy (CanFailBy ctx input) (emit ctx a) := by
  rw [emit]
  split
  · exact Effect.failsBy_pure _
  · have hwrite := (Project.failsBy_write ctx.root a.path a.content).mono
      fun _ hf => hf.isFileFailure
    exact (failsBy_onFiles input hwrite).bind fun written => Effect.failsBy_pure _

/-- A refusal is a failure that every tool can have. -/
theorem failsBy_ofRefusal {α : Type} (input : ToolInput) (r : Except Refusal α) :
    FailsBy (CanFailBy ctx input) (Action.ofRefusal r) := by
  refine Action.failsBy_ofExcept fun f h => ?_
  obtain ⟨q, -, rfl⟩ := liftRefusal_error_iff.mp h
  exact canFailBy_of_answered trivial

/-- A path that is looked up is refused, or links lead in a circle. -/
theorem canFailBy_of_resolve {input : ToolInput} {t : Tree} {path : Text} {f : Failure}
    (h : resolveInProject t ctx.root path = .error f) : CanFailBy ctx input f := by
  rcases resolveInProject_error h with ha | hl
  · exact canFailBy_of_answered ha
  · exact .inr ⟨_, hl⟩

/-- A tool that only looks fails as the lookup of its path does. -/
theorem failsBy_of_lookup {input : ToolInput} {g : Tree → Except Failure Outcome}
    (h : ∀ t f, g t = .error f → f.IsAnswered ∨
      ∃ p, lookedUp input = some p ∧ resolveInProject t ctx.root p = .error f) :
    FailsBy (CanFailBy ctx input) (Action.look g) := by
  refine Action.failsBy_look fun t f hf => ?_
  rcases h t f hf with ha | ⟨p, -, hr⟩
  · exact canFailBy_of_answered ha
  · exact canFailBy_of_resolve hr

/-- How the preview of a change fails. -/
theorem failsBy_previewChange (input : ToolInput) (verb path : Text) :
    FailsBy (CanFailBy ctx input) (previewChange ctx verb path) := by
  refine (Action.failsBy_look fun t f h => canFailBy_of_resolve h).bind fun _ => ?_
  exact Effect.failsBy_pure _

/-- How writing a file fails. -/
theorem failsBy_writeFile (input : ToolInput) (path content : Text) :
    FailsBy (CanFailBy ctx input) (writeFile ctx path content) := by
  rw [writeFile]
  split
  · exact failsBy_previewChange input _ path
  · have hwrite := (Project.failsBy_write ctx.root path content).mono fun _ hf => hf.isFileFailure
    exact (failsBy_onFiles input hwrite).bind fun written => Effect.failsBy_pure _

/-- How editing a file fails. -/
theorem failsBy_editFile (input : ToolInput) (path : Text) (old : Option Text) (new : Text) :
    FailsBy (CanFailBy ctx input) (editFile ctx path old new) := by
  rw [editFile]
  split
  · exact failsBy_previewChange input _ path
  · have hedit := Project.failsBy_edit ctx.root path old new
    exact (failsBy_onFiles input hedit).bind fun written => Effect.failsBy_pure _

/-- The entries of a directory are shown, or the file system fails. -/
theorem entries_error {t : Tree} {directory : Location} {f : Failure}
    (h : entries t directory = .error f) : f.IsAnswered := by
  obtain hm | ⟨shown, -, hlast⟩ := Effect.result_bind_error_iff.mp h
  · obtain ⟨name, -, hname⟩ := Effect.result_mapM_error hm
    rw [shownEntry] at hname
    split at hname
    · cases hname
    · cases hname
    · cases hname
      trivial
  · cases hlast

/-- Listing a directory fails by an answered failure, or because its path is not resolved. -/
theorem listFiles_error {path : Option Text} {t : Tree} {f : Failure}
    (h : listFiles ctx path t = .error f) :
    f.IsAnswered ∨
      ∃ p, lookedUp (.listFiles path) = some p ∧ resolveInProject t ctx.root p = .error f := by
  rw [listFiles] at h
  split at h
  case isTrue =>
    cases h
    exact .inl trivial
  case isFalse hshown =>
    obtain hr | ⟨target, -, hrest⟩ := Effect.result_bind_error_iff.mp h
    · exact .inr ⟨_, if_neg hshown, hr⟩
    · left
      split at hrest
      · cases hrest
        trivial
      · cases hrest
        trivial
      · obtain he | ⟨shown, -, hlast⟩ := Effect.result_bind_error_iff.mp hrest
        · exact entries_error he
        · cases hlast

/-- Reading a file fails by an answered failure, or because its path is not resolved. -/
theorem readFile_error {path : Text} {t : Tree} {f : Failure}
    (h : readFile ctx path t = .error f) :
    f.IsAnswered ∨
      ∃ p, lookedUp (.readFile path) = some p ∧ resolveInProject t ctx.root p = .error f := by
  obtain hr | ⟨target, -, hrest⟩ := Effect.result_bind_error_iff.mp h
  · exact .inr ⟨_, rfl, hr⟩
  · left
    split at hrest
    · cases hrest
      trivial
    · cases hrest
      trivial
    · obtain he | ⟨content, -, hlast⟩ := Effect.result_bind_error_iff.mp hrest
      · exact Project.readText_error he
      · cases hlast

/-- A model is summarised, or its file cannot be read. -/
theorem summarizeModel_error {t : Tree} {directory : Location} {wanted : Option Text}
    {name : Text} {f : Failure} (h : summarizeModel t directory wanted name = .error f) :
    f.IsAnswered := by
  obtain hr | ⟨source, -, hrest⟩ := Effect.result_bind_error_iff.mp h
  · exact Project.readText_error hr
  · dsimp only at hrest
    split at hrest
    · cases hrest
    · cases hrest

/-- Summarising models fails by an answered failure, or because their directory is not resolved. -/
theorem analyzeSchema_error {entity : Option Text} {t : Tree} {f : Failure}
    (h : analyzeSchema ctx entity t = .error f) :
    f.IsAnswered ∨
      ∃ p, lookedUp (.analyzeSchema entity) = some p ∧ resolveInProject t ctx.root p = .error f := by
  obtain hr | ⟨directory, -, hrest⟩ := Effect.result_bind_error_iff.mp h
  · exact .inr ⟨_, rfl, hr⟩
  · left
    dsimp only at hrest
    split at hrest
    · cases hrest
      trivial
    · cases hrest
    · obtain hm | ⟨found, -, hlast⟩ := Effect.result_bind_error_iff.mp hrest
      · obtain ⟨name, -, hname⟩ := Effect.result_mapM_error hm
        exact summarizeModel_error hname
      · cases hlast

/-- How emitting a schema fails. -/
theorem failsBy_emitSchema (input : ToolInput) (e : Entity) :
    FailsBy (CanFailBy ctx input) (emitSchema ctx e) := by
  refine (failsBy_ofRefusal input _).bind fun schema => ?_
  refine (failsBy_emit input _).bind fun model => ?_
  refine (failsBy_emit input _).bind fun shapes => ?_
  exact Effect.failsBy_pure _

/-- How building a given entity fails. -/
theorem failsBy_build (input : ToolInput) (e : EntityInput) :
    FailsBy (CanFailBy ctx input) (Action.ofExcept e.build) :=
  Action.failsBy_ofExcept fun _ h => canFailBy_of_answered (EntityInput.build_error h)

/-- How writing schemas one after another fails: a refusal of one of them is no failure. -/
theorem failsBy_attemptSchemas (input : ToolInput) (inputs : List EntityInput) :
    FailsBy (CanFailBy ctx input) (attemptSchemas ctx inputs) := by
  induction inputs with
  | nil => exact Effect.failsBy_pure _
  | cons e rest ih =>
    rw [attemptSchemas]
    refine FailsBy.bind (fun w f w' h => ?_) fun result => ?_
    · -- what an attempt passes on is a failure of its operation
      obtain ⟨hrun, -⟩ := attempt_error_iff.mp h
      refine FailsBy.bind (failsBy_build input e) (fun entity => ?_) hrun
      exact (failsBy_emitSchema input entity).bind fun data => Effect.failsBy_pure _
    · exact ih.bind fun others => Effect.failsBy_pure _

/-! ## Commands of tools -/

/-- What a tool tells when its command came to something. -/
def commandOutcome (ctx : ToolContext) (input : ToolInput) (data : Members) : Outcome :=
  match input with
  | .generateMigration _ =>
    let ready := ctx.state.withStage .schemaWritten
    { Outcome.success ("Migration generated for: " ++ Text.join ", " ready) data with
      completed := ready.map fun name => (name, .migrationGenerated) }
  | .runMigration =>
    let ready := ctx.state.withStage .migrationGenerated
    { Outcome.success ("Migration applied for: " ++ Text.join ", " ready) data with
      completed := ready.map fun name => (name, .migrationApplied) }
  | _ => Outcome.success [] data

/-- A tool that needs a command runs it and tells of it. -/
theorem handle_of_needed {input : ToolInput} {u : NeededCommand}
    (h : neededCommand ctx input = some u) :
    handle ctx input = runMigrationCommand ctx u.line u.label u.flag >>= fun data =>
      pure (commandOutcome ctx input data) := by
  cases input with
  | generateMigration label =>
    rw [neededCommand] at h
    split at h
    case isTrue => cases h
    case isFalse hready =>
      cases h
      exact if_neg hready
  | runMigration =>
    rw [neededCommand] at h
    split at h
    case isTrue => cases h
    case isFalse hready =>
      cases h
      exact if_neg hready
  | listFiles | readFile | writeFile | editFile | analyzeRequest | analyzeSchema | createSchema
  | createMultipleSchemas | createApiEndpoint | createApiClientHook | seedDatabase => cases h

/-- How running the command of a tool fails. -/
theorem failsBy_runMigrationCommand (command : Text) (label flag : Option Text) :
    FailsBy (fun f => f.IsAnswered ∨ f = .interrupted ∨ ∃ v, f = .badValue v)
      (runMigrationCommand ctx command label flag) := by
  rw [runMigrationCommand]
  split
  · refine (Action.failsBy_ofExcept fun f h => ?_).bind fun words => Effect.failsBy_pure _
    rcases Command.build_error h with ha | ⟨v, -, hv⟩
    · exact .inl ha
    · exact .inr (.inr ⟨v, hv⟩)
  · refine (Command.failsBy_run command label flag _ _).bind fun result => ?_
    split
    · exact Effect.failsBy_throw_bind (.inl trivial) _
    · exact Effect.failsBy_pure _

/-- How a tool that needs a command fails. -/
theorem failsBy_of_needed {input : ToolInput} {u : NeededCommand}
    (h : neededCommand ctx input = some u) :
    FailsBy (CanFailInOrder ctx input) (handle ctx input) := by
  rw [handle_of_needed h]
  refine ((failsBy_runMigrationCommand _ _ _).mono ?_).bind fun data => Effect.failsBy_pure _
  rintro f (ha | hi | hv)
  · exact .inl ha
  · exact .inr (.inl hi)
  · exact .inr (.inr ⟨by rw [h]; rfl, hv⟩)

/-- How generating a migration fails. -/
theorem failsBy_generateMigration (label : Option Text) :
    FailsBy (CanFailInOrder ctx (.generateMigration label))
      (handle ctx (.generateMigration label)) := by
  by_cases hready : (ctx.state.withStage .schemaWritten).isEmpty = true
  · rw [handle, generateMigration]
    dsimp only
    rw [if_pos hready]
    exact Effect.failsBy_throw_bind (.inl trivial) _
  · exact failsBy_of_needed (neededCommand_generateMigration hready)

/-- How applying migrations fails. -/
theorem failsBy_runMigration :
    FailsBy (CanFailInOrder ctx .runMigration) (handle ctx .runMigration) := by
  by_cases hready : (ctx.state.withStage .migrationGenerated).isEmpty = true
  · rw [handle, runMigration]
    dsimp only
    rw [if_pos hready]
    exact Effect.failsBy_throw_bind (.inl trivial) _
  · exact failsBy_of_needed (neededCommand_runMigration hready)

/-- How writing sample rows fails. -/
theorem failsBy_seedDatabase (input : ToolInput) (label : Text) (rows : List Members) :
    FailsBy (CanFailBy ctx input) (seedDatabase ctx label rows) := by
  refine (failsBy_ofRefusal input _).bind fun _ => ?_
  split
  · exact Effect.failsBy_throw (canFailBy_of_answered trivial)
  · refine (failsBy_ofRefusal input _).bind fun artifact => ?_
    exact (failsBy_emit input artifact).bind fun data => Effect.failsBy_pure _

/-- **How tools fail.** Whatever goes wrong in a tool is one of the ways `CanFailBy` lists. -/
theorem handle_failsBy (ctx : ToolContext) (input : ToolInput) :
    FailsBy (CanFailBy ctx input) (handle ctx input) := by
  cases input with
  | listFiles path => exact failsBy_of_lookup fun t f h => listFiles_error h
  | readFile path => exact failsBy_of_lookup fun t f h => readFile_error h
  | writeFile path content => exact failsBy_writeFile _ path content
  | editFile path old new => exact failsBy_editFile _ path old new
  | analyzeRequest request => exact Effect.failsBy_pure _
  | analyzeSchema entity => exact failsBy_of_lookup fun t f h => analyzeSchema_error h
  | createSchema e =>
    refine (failsBy_build _ e).bind fun entity => ?_
    exact (failsBy_emitSchema _ entity).bind fun data => Effect.failsBy_pure _
  | createMultipleSchemas inputs =>
    exact (failsBy_attemptSchemas _ inputs).bind fun attempts => Effect.failsBy_pure _
  | generateMigration label => exact (failsBy_generateMigration label).mono fun _ h => .inl h
  | runMigration => exact failsBy_runMigration.mono fun _ h => .inl h
  | createApiEndpoint label methods route =>
    refine (failsBy_ofRefusal _ _).bind fun _ => ?_
    refine (failsBy_ofRefusal _ _).bind fun artifact => ?_
    exact (failsBy_emit _ artifact).bind fun data => Effect.failsBy_pure _
  | createApiClientHook label route =>
    refine (failsBy_ofRefusal _ _).bind fun _ => ?_
    exact (failsBy_emit _ _).bind fun data => Effect.failsBy_pure _
  | seedDatabase label rows => exact failsBy_seedDatabase _ label rows

/-! ## Commands that go wrong without an answer -/

/-- Running the command of a tool goes wrong without an answer exactly as `CommandFault` says. -/
theorem runMigrationCommand_badValue_iff {u : NeededCommand} {w : World} {v : BadValue} :
    (∃ w', (runMigrationCommand ctx u.line u.label u.flag).run w = (.error (.badValue v), w')) ↔
      CommandFault ctx u w v := by
  constructor
  · rintro ⟨w', h⟩
    cases hwords : (Command.line u.line).build u.label u.flag with
    | error f =>
      rw [runMigrationCommand_run_of_error hwords] at h
      cases h
      rcases Command.build_error hwords with ha | ⟨v', hline, hv⟩
      · exact ha.elim
      · cases hv
        exact .split hline
    | ok words =>
      by_cases hdry : ctx.dryRun = true
      · rw [runMigrationCommand_dry_run hdry hwords] at h
        cases h
      · have hreal : ctx.dryRun = false := by simpa using hdry
        cases hflaw : (process ctx words).flaw? with
        | some flaw =>
          rw [runMigrationCommand_run_of_flaw hreal hwords hflaw] at h
          cases h
          exact .word hreal hwords hflaw
        | none =>
          obtain ⟨q, hrun, hcomes⟩ := runMigrationCommand_run hreal hwords hflaw w
          rw [hrun] at h
          cases h
          generalize hevent : w.upcoming = event at hcomes
          cases hcomes with
          | unread => exact .unread hreal hwords hflaw hevent
          | failed _ _ hanswer =>
            rcases hanswer with ha | ⟨hi, -⟩
            · exact ha.elim
            · cases hi
  · intro h
    cases h with
    | split hline =>
      have hbuild : (Command.line u.line).build u.label u.flag = .error (.badValue v) := by
        rw [Command.build, hline]
        rfl
      exact ⟨w, runMigrationCommand_run_of_error hbuild w⟩
    | word hreal hwords hflaw => exact ⟨w, runMigrationCommand_run_of_flaw hreal hwords hflaw w⟩
    | unread hreal hwords hpass hend =>
      obtain ⟨q, hrun, hcomes⟩ := runMigrationCommand_run hreal hwords hpass w
      rw [hend] at hcomes
      cases hcomes with
      | unread => exact ⟨_, hrun⟩
      | failed _ hread => exact absurd rfl (hread _ _)

/-- **Commands that go wrong without an answer.** A tool fails for a bad value exactly when it needs
a command and there is something wrong about that, as `CommandFault` says. -/
theorem handle_badValue_iff {input : ToolInput} {w : World} {v : BadValue} :
    (∃ w', (handle ctx input).run w = (.error (.badValue v), w')) ↔
      ∃ u, neededCommand ctx input = some u ∧ CommandFault ctx u w v := by
  cases hneed : neededCommand ctx input with
  | none =>
    refine iff_of_false ?_ (by rintro ⟨_, hu, -⟩; cases hu)
    rintro ⟨w', h⟩
    rcases handle_failsBy ctx input h with (ha | hi | ⟨hsome, -⟩) | ⟨d, hd⟩
    · exact ha
    · cases hi
    · rw [hneed] at hsome
      cases hsome
    · cases hd
  | some u =>
    rw [handle_of_needed hneed]
    simp only [Effect.bind_pure_error_iff, runMigrationCommand_badValue_iff, Option.some.injEq,
      exists_eq_left']

end Tool

end Tablewright
