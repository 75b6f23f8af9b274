/-
When a tool meets a defect in the files.

There are two of them: a circle of links where a path is resolved, and a text with a lone surrogate,
which has no encoding, where a file is already open for it. `FileFault` says where a tool can meet
one, in terms of the paths it resolves and the texts it comes to store, and `handle_breaks_iff` says
that these are exactly the calls that end in a defect.

A tool that only looks, or a dry run, resolves one path. In a real run a file is written or edited,
and artifacts are emitted one after another; for these `ComesToEmit` follows the tool up to the
artifact that is next.
-/
import Tablewright.Proofs.Tool.Fault

set_option autoImplicit false

namespace Tablewright

open Effect (Breaks)

namespace Tool

/-! ## What can go wrong -/

variable {ctx : ToolContext}

/-- An attempt breaks exactly when its operation does. -/
theorem breaks_attempt_iff {α : Type} {a : Action α} {w : World} :
    Breaks (attempt a) w ↔ Breaks a w := by
  constructor
  · rintro ⟨d, w', h⟩
    exact ⟨d, w', (attempt_error_iff.mp h).1⟩
  · rintro ⟨d, w', h⟩
    refine ⟨d, w', attempt_error_iff.mpr ⟨h, fun q hq => ?_⟩⟩
    cases hq

/-- Emitting an artifact breaks exactly when the run is a real one and something goes wrong with
the file. -/
theorem breaks_emit_iff {a : Artifact} {w : World} :
    Breaks (emit ctx a) w ↔
      ctx.dryRun = false ∧ Project.WriteFault ctx.root a.path a.content w.tree := by
  rw [emit, ← Project.breaks_write_iff]
  cases ctx.dryRun with
  | true => simp [Effect.not_breaks_pure]
  | false =>
    rw [if_neg (by decide), Effect.breaks_bind_pure_iff, Action.breaks_onFiles_iff]
    simp [Project.writeArtifact]

/-- The tool comes to emit an artifact: called in a world, it leads to another world in which the
artifact is next. -/
inductive ComesToEmit (ctx : ToolContext) : ToolInput → World → Artifact → World → Prop
  /-- The model of a schema comes first. -/
  | model {input : EntityInput} {e : Entity} {schema : Schema} {w : World}
      (hb : input.build = .ok e) (hc : e.compileSchema = .ok schema) :
      ComesToEmit ctx (.createSchema input) w schema.model w
  /-- The shapes of a schema come after its model. -/
  | shapes {input : EntityInput} {e : Entity} {schema : Schema} {data : Members} {w w' : World}
      (hb : input.build = .ok e) (hc : e.compileSchema = .ok schema)
      (hmodel : (emit ctx schema.model).run w = (.ok data, w')) :
      ComesToEmit ctx (.createSchema input) w schema.shapes w'
  /-- One of several schemas comes after the attempts before it, refused or not. -/
  | several {before after : List EntityInput} {input : EntityInput}
      {attempts : List SchemaAttempt} {a : Artifact} {w w₁ w₂ : World}
      (hbefore : (attemptSchemas ctx before).run w = (.ok attempts, w₁))
      (h : ComesToEmit ctx (.createSchema input) w₁ a w₂) :
      ComesToEmit ctx (.createMultipleSchemas (before ++ input :: after)) w a w₂
  /-- The endpoint of an entity that has a schema. -/
  | endpoint {label : Text} {methods : List Text} {route : Option Text} {a : Artifact} {w : World}
      (hpre : ctx.state.has (Naming.canonical label) .schemaWritten = true)
      (hc : compileEndpoint (Naming.canonical label) (methods.map .str) route = .ok a) :
      ComesToEmit ctx (.createApiEndpoint label methods route) w a w
  /-- The hook of an entity that has an endpoint. -/
  | hook {label : Text} {route : Option Text} {w : World}
      (hpre : ctx.state.has (Naming.canonical label) .endpointWritten = true) :
      ComesToEmit ctx (.createApiClientHook label route) w
        (compileHook (Naming.canonical label) route) w
  /-- The sample rows of an entity that has a schema. -/
  | seed {label : Text} {rows : List Members} {p : Progress} {a : Artifact} {w : World}
      (hpre : ctx.state.has (Naming.canonical label) .schemaWritten = true)
      (hget : ctx.state.get? (Naming.canonical label) = some p)
      (hc : p.entity.compileSeed rows = .ok a) :
      ComesToEmit ctx (.seedDatabase label rows) w a w

/-- What makes a tool end in a defect. -/
inductive FileFault (ctx : ToolContext) : ToolInput → World → Prop
  /-- The path the tool looks up leads into a circle of links. -/
  | lookup {input : ToolInput} {path : Text} {w : World} (h : lookedUp input = some path)
      (hcircle : LeadsInCircle w.tree ctx.root path) : FileFault ctx input w
  /-- In a real run something goes wrong with the file that is written. -/
  | written {path content : Text} {w : World} (hreal : ctx.dryRun = false)
      (h : Project.WriteFault ctx.root path content w.tree) :
      FileFault ctx (.writeFile path content) w
  /-- In a real run something goes wrong with the file that is edited. -/
  | edited {path : Text} {old : Option Text} {new : Text} {w : World} (hreal : ctx.dryRun = false)
      (h : Project.EditFault ctx.root path old new w.tree) :
      FileFault ctx (.editFile path old new) w
  /-- In a real run something goes wrong with an artifact the tool comes to emit. -/
  | emitted {input : ToolInput} {a : Artifact} {w w' : World}
      (hcome : ComesToEmit ctx input w a w') (hreal : ctx.dryRun = false)
      (h : Project.WriteFault ctx.root a.path a.content w'.tree) : FileFault ctx input w

/-- In a dry run nothing but the path that is looked up can go wrong. -/
theorem fileFault_iff_of_dry (hdry : ctx.dryRun = true) {input : ToolInput} {w : World} :
    FileFault ctx input w ↔
      ∃ p, lookedUp input = some p ∧ LeadsInCircle w.tree ctx.root p := by
  have hnot : ¬ ctx.dryRun = false := by rw [hdry]; exact Bool.false_ne_true.symm
  constructor
  · intro h
    cases h with
    | lookup hp hcircle => exact ⟨_, hp, hcircle⟩
    | written hreal => exact absurd hreal hnot
    | edited hreal => exact absurd hreal hnot
    | emitted _ hreal => exact absurd hreal hnot
  · rintro ⟨p, hp, hcircle⟩
    exact .lookup hp hcircle

/-! ## Tools that look, and single files -/

/-- A tool that only looks breaks exactly when the path it looks up leads into a circle, and that is
all it can meet. -/
theorem breaks_look_iff_of_lookup {input : ToolInput} {g : Tree → Except Failure Outcome}
    {w : World} (herror : ∀ f, g w.tree = .error f → f.IsAnswered ∨
      ∃ p, lookedUp input = some p ∧ resolveInProject w.tree ctx.root p = .error f)
    (hlooked : ∀ p f, lookedUp input = some p →
      resolveInProject w.tree ctx.root p = .error f → g w.tree = .error f)
    (honly : FileFault ctx input w →
      ∃ p, lookedUp input = some p ∧ LeadsInCircle w.tree ctx.root p) :
    Breaks (Action.look g) w ↔ FileFault ctx input w := by
  rw [Action.breaks_look_iff]
  constructor
  · rintro ⟨d, hd⟩
    rcases herror _ hd with ha | ⟨p, hp, hr⟩
    · exact absurd ha id
    · exact .lookup hp (resolveInProject_defect_iff.mp ⟨d, hr⟩)
  · intro h
    obtain ⟨p, hp, hcircle⟩ := honly h
    obtain ⟨d, hr⟩ := resolveInProject_defect_iff.mpr hcircle
    exact ⟨d, hlooked p _ hp hr⟩

/-- Listing a directory breaks exactly as `FileFault` says. -/
theorem breaks_listFiles_iff {path : Option Text} {w : World} :
    Breaks (Action.look (listFiles ctx path)) w ↔ FileFault ctx (.listFiles path) w := by
  refine breaks_look_iff_of_lookup (fun _ => listFiles_error) ?looked ?only
  case looked =>
    intro p f hp hr
    rw [lookedUp] at hp
    split at hp
    case isTrue => cases hp
    case isFalse hshown =>
      cases hp
      rw [listFiles, if_neg hshown]
      exact Effect.result_bind_error_iff.mpr (.inl hr)
  case only =>
    intro h
    cases h with
    | lookup hp hcircle => exact ⟨_, hp, hcircle⟩
    | emitted hcome => cases hcome

/-- Reading a file breaks exactly as `FileFault` says. -/
theorem breaks_readFile_iff {path : Text} {w : World} :
    Breaks (Action.look (readFile ctx path)) w ↔ FileFault ctx (.readFile path) w := by
  refine breaks_look_iff_of_lookup (fun _ => readFile_error) ?looked ?only
  case looked =>
    rintro p f ⟨⟩ hr
    exact Effect.result_bind_error_iff.mpr (.inl hr)
  case only =>
    intro h
    cases h with
    | lookup hp hcircle => exact ⟨_, hp, hcircle⟩
    | emitted hcome => cases hcome

/-- Summarising models breaks exactly as `FileFault` says. -/
theorem breaks_analyzeSchema_iff {entity : Option Text} {w : World} :
    Breaks (Action.look (analyzeSchema ctx entity)) w ↔ FileFault ctx (.analyzeSchema entity) w := by
  refine breaks_look_iff_of_lookup (fun _ => analyzeSchema_error) ?looked ?only
  case looked =>
    rintro p f ⟨⟩ hr
    exact Effect.result_bind_error_iff.mpr (.inl hr)
  case only =>
    intro h
    cases h with
    | lookup hp hcircle => exact ⟨_, hp, hcircle⟩
    | emitted hcome => cases hcome

/-- The preview of a change breaks exactly when its path leads into a circle. -/
theorem breaks_previewChange_iff {verb path : Text} {w : World} :
    Breaks (previewChange ctx verb path) w ↔ LeadsInCircle w.tree ctx.root path := by
  rw [previewChange, Effect.breaks_bind_pure_iff, Action.breaks_look_iff,
    resolveInProject_defect_iff]

/-- Writing a file breaks exactly as `FileFault` says. -/
theorem breaks_writeFile_iff {path content : Text} {w : World} :
    Breaks (writeFile ctx path content) w ↔ FileFault ctx (.writeFile path content) w := by
  rw [writeFile]
  cases hdry : ctx.dryRun with
  | true =>
    rw [if_pos rfl, breaks_previewChange_iff, fileFault_iff_of_dry hdry]
    simp [lookedUp]
  | false =>
    rw [if_neg (by decide), Effect.breaks_bind_pure_iff, Action.breaks_onFiles_iff,
      Project.breaks_write_iff]
    constructor
    · exact fun h => .written hdry h
    · intro h
      cases h with
      | lookup hp hcircle =>
        cases hp
        exact .links hcircle
      | written _ h => exact h
      | emitted hcome => cases hcome

/-- Editing a file breaks exactly as `FileFault` says. -/
theorem breaks_editFile_iff {path : Text} {old : Option Text} {new : Text} {w : World} :
    Breaks (editFile ctx path old new) w ↔ FileFault ctx (.editFile path old new) w := by
  rw [editFile]
  cases hdry : ctx.dryRun with
  | true =>
    rw [if_pos rfl, breaks_previewChange_iff, fileFault_iff_of_dry hdry]
    simp [lookedUp]
  | false =>
    rw [if_neg (by decide), Effect.breaks_bind_pure_iff, Action.breaks_onFiles_iff,
      Project.breaks_edit_iff]
    constructor
    · exact fun h => .edited hdry h
    · intro h
      cases h with
      | lookup hp hcircle =>
        cases hp
        exact .links hcircle
      | edited _ h => exact h
      | emitted hcome => cases hcome

/-! ## Tools that emit artifacts -/

/-- Emitting a schema breaks exactly when emitting one of its artifacts does. -/
theorem breaks_emitSchema_iff {e : Entity} {w : World} :
    Breaks (emitSchema ctx e) w ↔
      ∃ schema, e.compileSchema = .ok schema ∧
        (Breaks (emit ctx schema.model) w ∨
          ∃ data w', (emit ctx schema.model).run w = (.ok data, w') ∧
            Breaks (emit ctx schema.shapes) w') := by
  rw [emitSchema, Action.breaks_ofRefusal_bind_iff]
  refine exists_congr fun schema => and_congr_right fun _ => ?_
  rw [Effect.breaks_bind_iff]
  refine or_congr_right (exists_congr fun data => exists_congr fun w' => and_congr_right fun _ => ?_)
  exact Effect.breaks_bind_pure_iff

/-- Creating a schema breaks exactly when emitting an artifact it comes to does. -/
theorem breaks_createSchema_iff {input : EntityInput} {w : World} :
    Breaks (createSchema ctx input) w ↔
      ∃ a w', ComesToEmit ctx (.createSchema input) w a w' ∧ Breaks (emit ctx a) w' := by
  have hanswered : ∀ f, input.build = .error f → f.IsAnswered := fun _ => EntityInput.build_error
  rw [createSchema, Action.breaks_ofExcept_bind_iff hanswered]
  constructor
  · rintro ⟨e, hb, h⟩
    rw [Effect.breaks_bind_pure_iff, breaks_emitSchema_iff] at h
    obtain ⟨schema, hc, hmodel | ⟨data, w', hmodel, hshapes⟩⟩ := h
    · exact ⟨_, w, .model hb hc, hmodel⟩
    · exact ⟨_, w', .shapes hb hc hmodel, hshapes⟩
  · rintro ⟨a, w', hcome, h⟩
    cases hcome with
    | model hb hc =>
      refine ⟨_, hb, Effect.breaks_bind_pure_iff.mpr (breaks_emitSchema_iff.mpr ⟨_, hc, ?_⟩)⟩
      exact .inl h
    | shapes hb hc hmodel =>
      refine ⟨_, hb, Effect.breaks_bind_pure_iff.mpr (breaks_emitSchema_iff.mpr ⟨_, hc, ?_⟩)⟩
      exact .inr ⟨_, _, hmodel, h⟩

/-- Several schemas break exactly when one of them does, after the attempts before it. -/
theorem breaks_attemptSchemas_iff {inputs : List EntityInput} {w : World} :
    Breaks (attemptSchemas ctx inputs) w ↔
      ∃ before input after attempts w', inputs = before ++ input :: after ∧
        (attemptSchemas ctx before).run w = (.ok attempts, w') ∧
          Breaks (createSchema ctx input) w' := by
  have hone : ∀ (input : EntityInput) (w : World),
      Breaks (attempt do
        let e ← Action.ofExcept input.build
        let data ← emitSchema ctx e
        return (e, data)) w ↔ Breaks (createSchema ctx input) w := by
    -- an attempt passes a defect on, and an outcome adds nothing that could break
    intro input w
    have hanswered : ∀ f, input.build = .error f → f.IsAnswered := fun _ => EntityInput.build_error
    rw [breaks_attempt_iff, createSchema, Action.breaks_ofExcept_bind_iff hanswered,
      Action.breaks_ofExcept_bind_iff hanswered]
    simp only [Effect.breaks_bind_pure_iff]
  -- the break is in the first attempt, or in the others after it
  induction inputs generalizing w with
  | nil =>
    constructor
    · intro h
      exact absurd h (Effect.not_breaks_pure _ w)
    · rintro ⟨before, input, after, _, _, h, -⟩
      exact absurd h.symm (List.append_ne_nil_of_right_ne_nil before (List.cons_ne_nil input after))
  | cons head rest ih =>
    rw [attemptSchemas, Effect.breaks_bind_iff, hone]
    constructor
    · rintro (h | ⟨result, w₁, hresult, h⟩)
      · exact ⟨[], head, rest, [], w, rfl, rfl, h⟩
      · obtain ⟨before, input, after, attempts, w₂, rfl, hbefore, h⟩ :=
          ih.mp (Effect.breaks_bind_pure_iff.mp h)
        refine ⟨head :: before, input, after, ⟨head.name, result⟩ :: attempts, w₂, rfl, ?_, h⟩
        rw [attemptSchemas]
        refine Effect.bind_ok_iff.mpr ⟨result, w₁, hresult, ?_⟩
        exact Effect.bind_ok_iff.mpr ⟨attempts, w₂, hbefore, Effect.pure_ok_iff.mpr ⟨rfl, rfl⟩⟩
    · rintro ⟨before, input, after, attempts, w₂, hlist, hbefore, h⟩
      cases before with
      | nil =>
        obtain ⟨rfl, rfl⟩ := List.cons.inj hlist
        obtain ⟨-, rfl⟩ := Effect.pure_ok_iff.mp hbefore
        exact .inl h
      | cons first before =>
        obtain ⟨rfl, rfl⟩ := List.cons.inj hlist
        rw [attemptSchemas] at hbefore
        obtain ⟨result, w₁, hresult, hrest⟩ := Effect.bind_ok_iff.mp hbefore
        obtain ⟨others, w₃, hothers, hlast⟩ := Effect.bind_ok_iff.mp hrest
        obtain ⟨-, rfl⟩ := Effect.pure_ok_iff.mp hlast
        refine .inr ⟨result, w₁, hresult, Effect.breaks_bind_pure_iff.mpr (ih.mpr ?_)⟩
        exact ⟨before, input, after, others, w₂, rfl, hothers, h⟩

/-- A tool that looks nothing up only meets a defect with an artifact it comes to emit. -/
theorem fileFault_iff_of_emits {input : ToolInput} {w : World} (hlook : lookedUp input = none) :
    FileFault ctx input w ↔
      ∃ a w', ComesToEmit ctx input w a w' ∧ Breaks (emit ctx a) w' := by
  simp only [breaks_emit_iff]
  constructor
  · intro h
    cases h with
    | lookup h =>
      rw [hlook] at h
      cases h
    | written => cases hlook
    | edited => cases hlook
    | emitted hcome hreal h => exact ⟨_, _, hcome, hreal, h⟩
  · rintro ⟨a, w', hcome, hreal, h⟩
    exact .emitted hcome hreal h

/-- A tool that never comes to emit anything and looks nothing up does not meet a defect. -/
theorem not_fileFault {input : ToolInput} {w : World} (hlook : lookedUp input = none)
    (hnone : ∀ a w', ¬ ComesToEmit ctx input w a w') : ¬ FileFault ctx input w := by
  rw [fileFault_iff_of_emits hlook]
  rintro ⟨a, w', hcome, -⟩
  exact hnone a w' hcome

/-- Writing an endpoint breaks exactly when emitting it does. -/
theorem breaks_createApiEndpoint_iff {label : Text} {methods : List Text} {route : Option Text}
    {w : World} :
    Breaks (createApiEndpoint ctx label methods route) w ↔
      FileFault ctx (.createApiEndpoint label methods route) w := by
  rw [fileFault_iff_of_emits rfl, createApiEndpoint]
  simp only [Action.breaks_ofRefusal_bind_iff, Effect.breaks_bind_pure_iff,
    requirePrerequisite_ok_iff]
  constructor
  · rintro ⟨_, hpre, a, hc, h⟩
    exact ⟨a, w, .endpoint hpre hc, h⟩
  · rintro ⟨a, w', hcome, h⟩
    cases hcome with
    | endpoint hpre hc => exact ⟨(), hpre, a, hc, h⟩

/-- Writing a hook breaks exactly when emitting it does. -/
theorem breaks_createApiClientHook_iff {label : Text} {route : Option Text} {w : World} :
    Breaks (createApiClientHook ctx label route) w ↔
      FileFault ctx (.createApiClientHook label route) w := by
  rw [fileFault_iff_of_emits rfl, createApiClientHook]
  simp only [Action.breaks_ofRefusal_bind_iff, Effect.breaks_bind_pure_iff,
    requirePrerequisite_ok_iff]
  constructor
  · rintro ⟨_, hpre, h⟩
    exact ⟨_, w, .hook hpre, h⟩
  · rintro ⟨a, w', hcome, h⟩
    cases hcome with
    | hook hpre => exact ⟨(), hpre, h⟩

/-- Writing sample rows breaks exactly when emitting them does. -/
theorem breaks_seedDatabase_iff {label : Text} {rows : List Members} {w : World} :
    Breaks (seedDatabase ctx label rows) w ↔ FileFault ctx (.seedDatabase label rows) w := by
  rw [fileFault_iff_of_emits rfl, seedDatabase]
  simp only [Action.breaks_ofRefusal_bind_iff, requirePrerequisite_ok_iff]
  constructor
  · rintro ⟨_, hpre, h⟩
    split at h
    · exact absurd h ((Effect.failsBy_throw trivial).not_breaks w)
    · rename_i p hget
      obtain ⟨a, hc, h⟩ := Action.breaks_ofRefusal_bind_iff.mp h
      exact ⟨a, w, .seed hpre hget hc, Effect.breaks_bind_pure_iff.mp h⟩
  · rintro ⟨a, w', hcome, h⟩
    cases hcome with
    | seed hpre hget hc =>
      refine ⟨(), hpre, ?_⟩
      rw [hget]
      exact Action.breaks_ofRefusal_bind_iff.mpr ⟨a, hc, Effect.breaks_bind_pure_iff.mpr h⟩

/-- Creating several schemas breaks exactly when emitting an artifact of one of them does. -/
theorem breaks_createMultipleSchemas_iff {inputs : List EntityInput} {w : World} :
    Breaks (createMultipleSchemas ctx inputs) w ↔
      FileFault ctx (.createMultipleSchemas inputs) w := by
  rw [fileFault_iff_of_emits rfl, createMultipleSchemas, Effect.breaks_bind_pure_iff,
    breaks_attemptSchemas_iff]
  constructor
  · rintro ⟨before, input, after, attempts, w₁, rfl, hbefore, h⟩
    obtain ⟨a, w₂, hcome, ha⟩ := breaks_createSchema_iff.mp h
    exact ⟨a, w₂, .several hbefore hcome, ha⟩
  · rintro ⟨a, w₂, hcome, ha⟩
    cases hcome with
    | several hbefore hcome =>
      exact ⟨_, _, _, _, _, rfl, hbefore, breaks_createSchema_iff.mpr ⟨a, w₂, hcome, ha⟩⟩

/-! ## All tools -/

/-- **Tools and defects.** A tool ends in a defect exactly when one of the listed things goes wrong
with its files. -/
theorem handle_breaks_iff {input : ToolInput} {w : World} :
    Breaks (handle ctx input) w ↔ FileFault ctx input w := by
  -- the migration tools touch no file, and what they fail by is no defect
  have hquiet : ∀ d, ¬ CanFailInOrder ctx input (.defect d) := by
    rintro d (ha | hi | ⟨-, _, hv⟩)
    · exact ha
    · cases hi
    · cases hv
  cases input with
  | listFiles path => exact breaks_listFiles_iff
  | readFile path => exact breaks_readFile_iff
  | writeFile path content => exact breaks_writeFile_iff
  | editFile path old new => exact breaks_editFile_iff
  | analyzeRequest request =>
    exact iff_of_false (Effect.not_breaks_pure _ w) (not_fileFault rfl fun _ _ h => by cases h)
  | analyzeSchema entity => exact breaks_analyzeSchema_iff
  | createSchema e =>
    rw [fileFault_iff_of_emits rfl]
    exact breaks_createSchema_iff
  | createMultipleSchemas inputs => exact breaks_createMultipleSchemas_iff
  | generateMigration label =>
    refine iff_of_false ?_ (not_fileFault rfl fun _ _ h => by cases h)
    exact Effect.not_breaks_of_failsBy (failsBy_generateMigration label) hquiet w
  | runMigration =>
    refine iff_of_false ?_ (not_fileFault rfl fun _ _ h => by cases h)
    exact Effect.not_breaks_of_failsBy failsBy_runMigration hquiet w
  | createApiEndpoint label methods route => exact breaks_createApiEndpoint_iff
  | createApiClientHook label route => exact breaks_createApiClientHook_iff
  | seedDatabase label rows => exact breaks_seedDatabase_iff

end Tool

end Tablewright
