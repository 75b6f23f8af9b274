/-
Which files a tool may write.

A tool that is given a path may write the file of the path, and a tool that is given entities may
write their artifacts; both are told by the input alone (`ToolInput.files`). Nothing else is
changed, whatever comes of the tool (`handle_writesOnly`): not by a dry run, and not by a tool that
breaks off between two artifacts.
-/
import Tablewright.Proofs.Artifact.Place
import Tablewright.Proofs.Files.Frame
import Tablewright.Proofs.Run.DryRun
import Tablewright.Proofs.Tool.Emission

set_option autoImplicit false

namespace Tablewright

/-! ## Operations in a world -/

namespace Action

variable {α β : Type} {root : Location} {paths : List Text}

/-- Whatever comes of the operation, it changes no files but those that some of the paths lead
to. -/
def WritesOnly (root : Location) (paths : List Text) (a : Action α) : Prop :=
  ∀ w : World, Project.ChangesOnly root paths w.tree (a.run w).2.tree

theorem Keeps.writesOnly {a : Action α} (h : Keeps a) : WritesOnly root paths a := by
  intro w
  rw [h w]
  exact .refl w.tree

theorem WritesOnly.mono {paths' : List Text} {a : Action α} (h : WritesOnly root paths a)
    (hsub : ∀ p ∈ paths, p ∈ paths') : WritesOnly root paths' a := fun w => (h w).mono hsub

theorem WritesOnly.bind {a : Action α} {k : α → Action β} (ha : WritesOnly root paths a)
    (hk : ∀ x, WritesOnly root paths (k x)) : WritesOnly root paths (a >>= k) := by
  intro w
  have hw := ha w
  rw [Effect.run_bind]
  rcases h : a.run w with ⟨f | x, w₁⟩
  · rw [h] at hw
    exact hw
  · rw [h] at hw
    exact hw.trans (hk x w₁)

/-- What comes after a result is about this very result. -/
theorem writesOnly_ofExcept_bind {r : Except Failure α} {k : α → Action β}
    (hk : ∀ x, r = .ok x → WritesOnly root paths (k x)) :
    WritesOnly root paths (ofExcept r >>= k) := by
  intro w
  rw [Effect.run_bind]
  rcases r with f | x
  · exact .refl w.tree
  · exact hk x rfl w

theorem writesOnly_ofRefusal_bind {r : Except Refusal α} {k : α → Action β}
    (hk : ∀ x, r = .ok x → WritesOnly root paths (k x)) :
    WritesOnly root paths (ofRefusal r >>= k) :=
  writesOnly_ofExcept_bind fun x hx => hk x (liftRefusal_ok_iff.mp hx)

theorem writesOnly_onFiles {a : FileAction α}
    (h : ∀ t, Project.ChangesOnly root paths t (a.run t).2) : WritesOnly root paths (onFiles a) :=
  fun w => h w.tree

/-- Starting a process is no change of a file; what the process does is not known. -/
theorem writesOnly_spawn (p : Spawn) : WritesOnly root paths (spawn p) := by
  intro w
  cases hflaw : p.flaw? with
  | some flaw =>
    rw [spawn_run_of_flaw hflaw]
    exact .refl w.tree
  | none =>
    rw [spawn_run hflaw]
    exact .refl w.tree

end Action

/-! ## What a tool may write -/

/-- The artifacts a tool may write, each by its kind and the label of its entity. -/
def ToolInput.artifacts : ToolInput → List (ArtifactKind × Text)
  | .createSchema input => [(.schema, input.name), (.typeDefinitions, input.name)]
  | .createMultipleSchemas inputs =>
    inputs.flatMap fun input => [(.schema, input.name), (.typeDefinitions, input.name)]
  | .createApiEndpoint label _ _ => [(.endpoint, label)]
  | .createApiClientHook label _ => [(.hook, label)]
  | .seedDatabase label _ => [(.seed, label)]
  | _ => []

/-- The path a tool is given to write to. -/
def ToolInput.givenPath? : ToolInput → Option Text
  | .writeFile path _ | .editFile path _ _ => some path
  | _ => none

/-- The paths of the files a tool may write. -/
def ToolInput.files (input : ToolInput) : List Text :=
  input.givenPath?.toList ++ input.artifacts.map fun a => a.1.path a.2

namespace Tool

open Tablewright.Action

variable {ctx : ToolContext}

/-- Emitting an artifact writes no other file. -/
theorem writesOnly_emit (a : Artifact) : WritesOnly ctx.root [a.path] (emit ctx a) := by
  rw [emit]
  split
  · exact (keeps_pure _).writesOnly
  · refine (writesOnly_onFiles fun t => ?_).bind fun _ => (keeps_pure _).writesOnly
    exact Project.changesOnly_write ctx.root a.path a.content t

theorem writesOnly_writeFile (path content : Text) :
    WritesOnly ctx.root [path] (writeFile ctx path content) := by
  rw [writeFile]
  split
  · exact (keeps_previewChange _ path).writesOnly
  · refine (writesOnly_onFiles fun t => ?_).bind fun _ => (keeps_pure _).writesOnly
    exact Project.changesOnly_write ctx.root path content t

theorem writesOnly_editFile (path : Text) (old : Option Text) (new : Text) :
    WritesOnly ctx.root [path] (editFile ctx path old new) := by
  rw [editFile]
  split
  · exact (keeps_previewChange _ path).writesOnly
  · refine (writesOnly_onFiles fun t => ?_).bind fun _ => (keeps_pure _).writesOnly
    exact Project.changesOnly_edit ctx.root path old new t

/-- A migration command writes no file by itself. -/
theorem writesOnly_runMigrationCommand (command : Text) (label flag : Option Text) :
    WritesOnly ctx.root [] (runMigrationCommand ctx command label flag) := by
  by_cases hdry : ctx.dryRun = true
  · exact (keeps_runMigrationCommand hdry command label flag).writesOnly
  · rw [runMigrationCommand, if_neg hdry]
    refine WritesOnly.bind ?_ fun result => ?_
    · refine (keeps_ofExcept _).writesOnly.bind fun words => (writesOnly_spawn _).bind fun e => ?_
      cases e with
      | ended status stdout stderr => exact (keeps_pure _).writesOnly
      | timedOut | refused _ | unread _ _ | interrupted => exact (keeps_throw _).writesOnly
    · split
      · exact ((keeps_throw _).bind fun _ => keeps_pure _).writesOnly
      · exact (keeps_pure _).writesOnly

theorem writesOnly_generateMigration (label : Option Text) :
    WritesOnly ctx.root [] (generateMigration ctx label) := by
  rw [generateMigration]
  dsimp only
  split
  · exact (keeps_throw _).writesOnly.bind fun _ =>
      (writesOnly_runMigrationCommand _ _ _).bind fun _ => (keeps_pure _).writesOnly
  · exact (writesOnly_runMigrationCommand _ _ _).bind fun _ => (keeps_pure _).writesOnly

theorem writesOnly_runMigration : WritesOnly ctx.root [] (runMigration ctx) := by
  rw [runMigration]
  dsimp only
  split
  · exact (keeps_throw _).writesOnly.bind fun _ =>
      (writesOnly_runMigrationCommand _ _ _).bind fun _ => (keeps_pure _).writesOnly
  · exact (writesOnly_runMigrationCommand _ _ _).bind fun _ => (keeps_pure _).writesOnly

/-! ## Schemas -/

/-- An attempt writes what its operation writes. -/
theorem writesOnly_attempt {α : Type} {paths : List Text} {a : Action α}
    (h : WritesOnly ctx.root paths a) : WritesOnly ctx.root paths (attempt a) := by
  intro w
  have hw := h w
  rw [attempt_run]
  rcases ha : a.run w with ⟨f | x, w₁⟩
  all_goals rw [ha] at hw
  · cases f <;> exact hw
  · exact hw

/-- The schema of an entity is written to the two files of its canonical name. -/
theorem writesOnly_emitSchema (e : Entity) :
    WritesOnly ctx.root [ArtifactKind.schema.path e.name, ArtifactKind.typeDefinitions.path e.name]
      (emitSchema ctx e) := by
  refine writesOnly_ofRefusal_bind fun schema hcompile => ?_
  obtain ⟨_, -, hschema⟩ := Effect.result_bind_ok_iff.mp hcompile
  obtain rfl := Except.ok.inj hschema
  refine ((writesOnly_emit _).mono ?_).bind fun model => ?_
  · exact fun p hp => List.mem_singleton.mp hp ▸ List.mem_cons_self
  refine ((writesOnly_emit _).mono ?_).bind fun shapes => (keeps_pure _).writesOnly
  exact fun p hp => List.mem_cons_of_mem _ hp

/-- A given entity is written to the two files of its label. -/
theorem writesOnly_writeSchema (input : EntityInput) :
    WritesOnly ctx.root (ToolInput.createSchema input).files (writeSchema ctx input) := by
  refine writesOnly_ofExcept_bind fun e hbuild => ?_
  refine WritesOnly.bind ?_ fun data => (keeps_pure _).writesOnly
  have hname := EntityInput.name_of_build hbuild
  have hfiles : WritesOnly ctx.root _ (emitSchema ctx e) := writesOnly_emitSchema e
  rw [hname, ArtifactKind.path_canonical, ArtifactKind.path_canonical] at hfiles
  exact hfiles

/-- Several schemas are written to the files of their labels. -/
theorem writesOnly_attemptSchemas (inputs : List EntityInput) :
    WritesOnly ctx.root (ToolInput.createMultipleSchemas inputs).files
      (attemptSchemas ctx inputs) := by
  induction inputs with
  | nil => exact (keeps_pure _).writesOnly
  | cons input rest ih =>
    have hfirst : ∀ p ∈ (ToolInput.createSchema input).files,
        p ∈ (ToolInput.createMultipleSchemas (input :: rest)).files := fun p hp =>
      List.mem_append_left (((ToolInput.createMultipleSchemas rest).files)) hp
    have hothers : ∀ p ∈ (ToolInput.createMultipleSchemas rest).files,
        p ∈ (ToolInput.createMultipleSchemas (input :: rest)).files := fun p hp =>
      List.mem_append_right ((ToolInput.createSchema input).files) hp
    refine WritesOnly.bind (writesOnly_attempt ?_) fun result => ?_
    · exact (writesOnly_writeSchema input).mono hfirst
    · exact (ih.mono hothers).bind fun others => (keeps_pure _).writesOnly

/-! ## Tools -/

theorem writesOnly_createSchema (input : EntityInput) :
    WritesOnly ctx.root (ToolInput.createSchema input).files (createSchema ctx input) := by
  intro w
  have hw : Project.ChangesOnly ctx.root (ToolInput.createSchema input).files w.tree
      ((writeSchema ctx input).run w).2.tree := writesOnly_writeSchema input w
  rw [createSchema_run]
  -- telling the outcome changes nothing
  rcases h : (writeSchema ctx input).run w with ⟨f | ⟨e, data⟩, w₁⟩
  all_goals
    rw [h] at hw
    exact hw

theorem writesOnly_createApiEndpoint (label : Text) (methods : List Text) (route : Option Text) :
    WritesOnly ctx.root [ArtifactKind.endpoint.path label]
      (createApiEndpoint ctx label methods route) := by
  refine (keeps_ofRefusal _).writesOnly.bind fun _ => ?_
  refine writesOnly_ofRefusal_bind fun a hcompile => ?_
  obtain ⟨_, -, ha⟩ := Effect.result_bind_ok_iff.mp hcompile
  have hpath : a.path = ArtifactKind.endpoint.path label := by
    obtain rfl := Except.ok.inj ha
    change ArtifactKind.endpoint.path (Naming.canonical (Naming.canonical label)) = _
    rw [ArtifactKind.path_canonical, ArtifactKind.path_canonical]
  rw [← hpath]
  exact (writesOnly_emit a).bind fun data => (keeps_pure _).writesOnly

/-- The hook for a canonical name belongs where the hook of the label does. -/
theorem path_compileHook (label : Text) (route : Option Text) :
    (compileHook (Naming.canonical label) route).path = ArtifactKind.hook.path label := by
  change ArtifactKind.hook.path (Naming.canonical (Naming.canonical label)) = _
  rw [ArtifactKind.path_canonical, ArtifactKind.path_canonical]

theorem writesOnly_createApiClientHook (label : Text) (route : Option Text) :
    WritesOnly ctx.root [ArtifactKind.hook.path label] (createApiClientHook ctx label route) := by
  refine (keeps_ofRefusal _).writesOnly.bind fun _ => ?_
  rw [← path_compileHook label route]
  exact (writesOnly_emit _).bind fun data => (keeps_pure _).writesOnly

theorem writesOnly_seedDatabase (label : Text) (rows : List Members) :
    WritesOnly ctx.root [ArtifactKind.seed.path label] (seedDatabase ctx label rows) := by
  refine (keeps_ofRefusal _).writesOnly.bind fun _ => ?_
  split
  case h_1 => exact (keeps_throw _).writesOnly
  case h_2 p hget =>
    refine writesOnly_ofRefusal_bind fun a hcompile => ?_
    obtain ⟨_, -, hrows⟩ := Effect.result_bind_ok_iff.mp hcompile
    obtain ⟨_, -, ha⟩ := Effect.result_bind_ok_iff.mp hrows
    have hname : p.entity.name = Naming.canonical label := by
      simpa using List.find?_some hget
    have hpath : a.path = ArtifactKind.seed.path label := by
      obtain rfl := Except.ok.inj ha
      change ArtifactKind.seed.path p.entity.name = _
      rw [hname, ArtifactKind.path_canonical]
    rw [← hpath]
    exact (writesOnly_emit a).bind fun data => (keeps_pure _).writesOnly

/-- **What a tool writes.** Whatever comes of a tool, it changes no file but those its input
names. -/
theorem handle_writesOnly (ctx : ToolContext) (input : ToolInput) :
    WritesOnly ctx.root input.files (handle ctx input) := by
  cases input with
  | listFiles path => exact (keeps_look _).writesOnly
  | readFile path => exact (keeps_look _).writesOnly
  | writeFile path content => exact writesOnly_writeFile path content
  | editFile path old new => exact writesOnly_editFile path old new
  | analyzeRequest request => exact (keeps_pure _).writesOnly
  | analyzeSchema entity => exact (keeps_look _).writesOnly
  | createSchema input => exact writesOnly_createSchema input
  | createMultipleSchemas inputs =>
    exact (writesOnly_attemptSchemas inputs).bind fun attempts => (keeps_pure _).writesOnly
  | generateMigration label => exact writesOnly_generateMigration label
  | runMigration => exact writesOnly_runMigration
  | createApiEndpoint label methods route => exact writesOnly_createApiEndpoint label methods route
  | createApiClientHook label route => exact writesOnly_createApiClientHook label route
  | seedDatabase label rows => exact writesOnly_seedDatabase label rows

end Tool

end Tablewright
