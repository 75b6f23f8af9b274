/-
What a tool that had an outcome teaches its run.

A run learns from an outcome which entities were discovered, which were defined and which stages
were completed. `Lesson` says, once and for all tools, what these three lists can be and what the
state had to be like before: it is the inversion lemma of `Tool.handle`, and no proof about states
unfolds a tool again. Most tools teach nothing; a schema defines its entity and completes its first
stage; the two migration tools complete a stage of every entity that is ready for it; an endpoint
and a hook complete a stage of one entity and need the stage before.

For several schemas the lesson goes by attempts, one for each given entity in order, so that what
was learnt can be compared with what the engine is shown.
-/
import Tablewright.Json.Basic
import Tablewright.Proofs.Workflow
import Tablewright.Tool.Handlers

set_option autoImplicit false

namespace Tablewright

/-! ## Entities -/

/-- An entity that is built carries the canonical name of its label. -/
theorem Entity.name_of_build {label description : Text} {fields : List Json} {e : Entity}
    (h : Entity.build label description fields = .ok e) : e.name = Naming.canonical label := by
  unfold Entity.build at h
  cases hf : Entity.addFields (.str label) [] fields with
  | error f =>
    rw [hf] at h
    cases h
  | ok fs =>
    rw [hf] at h
    cases h
    rfl

/-- An entity that is given is tracked under the canonical name of its label. -/
theorem EntityInput.name_of_build {input : EntityInput} {e : Entity} (h : input.build = .ok e) :
    e.name = Naming.canonical input.name := Entity.name_of_build h

/-- An outcome of several schemas lists an entity as a success. -/
def Outcome.ListsSuccess (o : Outcome) (n : Text) : Prop :=
  ∃ row ∈ o.data.items "results",
    row.asMembers.get? "success" = some (.bool true) ∧
      row.asMembers.get? "entity" = some (.str n)

/-- The tools a run learns nothing from. -/
def ToolInput.isIdle : ToolInput → Bool
  | .listFiles _ | .readFile _ | .writeFile _ _ | .editFile _ _ _ | .analyzeSchema _
  | .seedDatabase _ _ => true
  | _ => false

namespace Tool

/-! ## Schemas -/

/-- What is shown of an entity whose model and shapes were emitted. -/
def schemaData (e : Entity) (model shapes : Members) : Members :=
  [("entity", .str e.name), ("files", .arr [.obj model, .obj shapes])]

/-- A schema is emitted when it compiles and both of its artifacts are emitted, the model first. -/
theorem emitSchema_ok_iff {ctx : ToolContext} {e : Entity} {data : Members} {w w' : World} :
    (emitSchema ctx e).run w = (.ok data, w') ↔
      ∃ schema model shapes w₁, e.compileSchema = .ok schema ∧
        (emit ctx schema.model).run w = (.ok model, w₁) ∧
        (emit ctx schema.shapes).run w₁ = (.ok shapes, w') ∧ data = schemaData e model shapes := by
  rw [emitSchema, Effect.bind_ok_iff]
  constructor
  · rintro ⟨schema, w₁, hs, h⟩
    obtain ⟨hc, rfl⟩ := Action.ofRefusal_ok_iff.mp hs
    obtain ⟨model, w₂, hm, h⟩ := Effect.bind_ok_iff.mp h
    obtain ⟨shapes, w₃, hsh, h⟩ := Effect.bind_ok_iff.mp h
    obtain ⟨rfl, rfl⟩ := Effect.pure_ok_iff.mp h
    exact ⟨schema, model, shapes, w₂, hc, hm, hsh, rfl⟩
  · rintro ⟨schema, model, shapes, w₁, hs, hm, hsh, rfl⟩
    refine ⟨schema, w, Action.ofRefusal_ok_iff.mpr ⟨hs, rfl⟩, ?_⟩
    refine Effect.bind_ok_iff.mpr ⟨model, w₁, hm, ?_⟩
    exact Effect.bind_ok_iff.mpr ⟨shapes, w', hsh, Effect.pure_ok_iff.mpr ⟨rfl, rfl⟩⟩

/-- An attempt answers a refusal as a result and passes everything else on. -/
theorem attempt_run {α : Type} (a : Action α) (w : World) :
    (attempt a).run w =
      match a.run w with
      | (.ok x, w') => (.ok (.ok x), w')
      | (.error (.refused r), w') => (.ok (.error r), w')
      | (.error f, w') => (.error f, w') := rfl

/-- An attempt succeeds with the success of its operation or with its refusal. -/
theorem attempt_ok_iff {α : Type} {a : Action α} {r : Except Refusal α} {w w' : World} :
    (attempt a).run w = (.ok r, w') ↔
      (∃ x, r = .ok x ∧ a.run w = (.ok x, w')) ∨
        ∃ q, r = .error q ∧ a.run w = (.error (.refused q), w') := by
  rw [attempt_run]
  rcases a.run w with ⟨f | x, w₁⟩
  · cases f with
    | refused q =>
      constructor
      · intro h
        cases h
        exact .inr ⟨q, rfl, rfl⟩
      · rintro (⟨_, -, h⟩ | ⟨_, rfl, h⟩)
        · cases h
        · cases h
          rfl
    | system _ | badValue _ | interrupted | defect _ =>
      constructor
      · intro h
        cases h
      · rintro (⟨_, -, h⟩ | ⟨_, -, h⟩) <;> cases h
  · constructor
    · intro h
      cases h
      exact .inl ⟨x, rfl, rfl⟩
    · rintro (⟨_, rfl, h⟩ | ⟨_, -, h⟩)
      · cases h
        rfl
      · cases h

/-- An attempt only fails by what is no refusal. -/
theorem attempt_error_iff {α : Type} {a : Action α} {f : Failure} {w w' : World} :
    (attempt a).run w = (.error f, w') ↔
      a.run w = (.error f, w') ∧ ∀ q, f ≠ .refused q := by
  rw [attempt_run]
  rcases a.run w with ⟨g | x, w₁⟩
  · cases g with
    | refused q =>
      constructor
      · intro h
        cases h
      · rintro ⟨h, hne⟩
        cases h
        exact absurd rfl (hne q)
    | system _ | badValue _ | interrupted | defect _ =>
      constructor
      · intro h
        cases h
        refine ⟨rfl, fun q hq => ?_⟩
        cases hq
      · rintro ⟨h, -⟩
        cases h
        rfl
  · constructor
    · intro h
      cases h
    · rintro ⟨h, -⟩
      cases h

/-- An attempt made for a given entity: it carries the given label, and where it succeeded, the
entity that was given and what is shown of it. -/
structure AttemptFor (input : EntityInput) (a : SchemaAttempt) : Prop where
  label : a.label = input.name
  built : ∀ e data, a.result = .ok (e, data) →
    input.build = .ok e ∧ ∃ model shapes, data = schemaData e model shapes

/-- Every given entity has its attempt, in order. -/
theorem attemptSchemas_forall {ctx : ToolContext} {inputs : List EntityInput}
    {attempts : List SchemaAttempt} {w w' : World}
    (h : (attemptSchemas ctx inputs).run w = (.ok attempts, w')) :
    List.Forall₂ AttemptFor inputs attempts := by
  induction inputs generalizing attempts w w' with
  | nil =>
    obtain ⟨rfl, -⟩ := Effect.pure_ok_iff.mp h
    exact .nil
  | cons input rest ih =>
    rw [attemptSchemas] at h
    obtain ⟨result, w₁, hr, h⟩ := Effect.bind_ok_iff.mp h
    obtain ⟨others, w₂, ho, h⟩ := Effect.bind_ok_iff.mp h
    obtain ⟨rfl, -⟩ := Effect.pure_ok_iff.mp h
    refine .cons ⟨rfl, fun e data hres => ?_⟩ (ih ho)
    -- an attempt that succeeded ran its operation to the end
    change result = .ok (e, data) at hres
    subst hres
    rcases attempt_ok_iff.mp hr with ⟨_, hx, hrun⟩ | ⟨_, hx, -⟩
    · cases hx
      obtain ⟨e', w₃, he, hemit⟩ := Effect.bind_ok_iff.mp hrun
      obtain ⟨hb, rfl⟩ := Action.ofExcept_iff.mp he
      obtain ⟨data', w₄, hd, hlast⟩ := Effect.bind_ok_iff.mp hemit
      obtain ⟨hpair, -⟩ := Effect.pure_ok_iff.mp hlast
      cases hpair
      obtain ⟨_, model, shapes, _, -, -, -, hdata⟩ := emitSchema_ok_iff.mp hd
      exact ⟨hb, model, shapes, hdata⟩
    · cases hx

/-- The members of the row of an attempt that succeeded. -/
theorem SchemaAttempt.toJson_ok {input : EntityInput} {a : SchemaAttempt} (ha : AttemptFor input a)
    {e : Entity} {data : Members} (hr : a.result = .ok (e, data)) :
    ∃ files, a.toJson.asMembers
      = Members.put "files" files (Members.put "entity" (.str e.name) [("success", .bool true)]) := by
  obtain ⟨-, model, shapes, rfl⟩ := ha.built e data hr
  refine ⟨.arr [.obj model, .obj shapes], ?_⟩
  rw [toJson, hr]
  rfl

/-- The flag in the row of an attempt says whether it succeeded. -/
theorem SchemaAttempt.toJson_success {input : EntityInput} {a : SchemaAttempt}
    (ha : AttemptFor input a) :
    a.toJson.asMembers.get? "success" = some (.bool a.entity?.isSome) := by
  rcases hr : a.result with r | ⟨e, data⟩
  · rw [toJson, entity?, hr]
    rfl
  · obtain ⟨files, hrow⟩ := SchemaAttempt.toJson_ok ha hr
    -- the flag stands first and the data do not put it again
    rw [hrow, Members.get?_put_of_ne (by decide), Members.get?_put_of_ne (by decide), entity?, hr]
    rfl

/-- A row is shown as a success exactly when the attempt succeeded, and then under the name of its
entity. -/
theorem SchemaAttempt.toJson_success_iff {input : EntityInput} {a : SchemaAttempt}
    (ha : AttemptFor input a) (n : Text) :
    (a.toJson.asMembers.get? "success" = some (.bool true) ∧
        a.toJson.asMembers.get? "entity" = some (.str n)) ↔
      ∃ e, a.entity? = some e ∧ e.name = n := by
  rw [SchemaAttempt.toJson_success ha]
  rcases hr : a.result with r | ⟨e, data⟩
  · rw [entity?, hr]
    simp
  · obtain ⟨files, hrow⟩ := SchemaAttempt.toJson_ok ha hr
    have hname : a.toJson.asMembers.get? "entity" = some (.str e.name) := by
      rw [hrow, Members.get?_put_of_ne (by decide), Members.get?_put_self]
    rw [hname, entity?, hr]
    simp

/-- The engine is shown exactly the entities of the attempts that succeeded. -/
theorem listsSuccess_iff {inputs : List EntityInput} {attempts : List SchemaAttempt}
    {o : Outcome} (hfor : List.Forall₂ AttemptFor inputs attempts)
    (hdata : o.data = Members.one "results" (.arr (attempts.map SchemaAttempt.toJson)))
    (n : Text) :
    o.ListsSuccess n ↔ ∃ e ∈ attempts.filterMap SchemaAttempt.entity?, e.name = n := by
  have hrows : o.data.items "results" = attempts.map SchemaAttempt.toJson := by
    rw [hdata]
    rfl
  -- every row belongs to a given entity, so its shape is known
  have hrow : ∀ a ∈ attempts, ∃ input, AttemptFor input a := by
    clear hdata hrows
    intro a ha
    induction hfor with
    | nil => cases ha
    | @cons input _ _ _ hhead _ ih =>
      rcases List.mem_cons.mp ha with rfl | htail
      · exact ⟨input, hhead⟩
      · exact ih htail
  rw [Outcome.ListsSuccess, hrows]
  constructor
  · rintro ⟨row, hmem, hsuccess⟩
    obtain ⟨a, ha, rfl⟩ := List.mem_map.mp hmem
    obtain ⟨input, hi⟩ := hrow a ha
    obtain ⟨e, he, hn⟩ := (SchemaAttempt.toJson_success_iff hi n).mp hsuccess
    exact ⟨e, List.mem_filterMap.mpr ⟨a, ha, he⟩, hn⟩
  · rintro ⟨e, hmem, hn⟩
    obtain ⟨a, ha, he⟩ := List.mem_filterMap.mp hmem
    obtain ⟨input, hi⟩ := hrow a ha
    exact ⟨a.toJson, List.mem_map_of_mem ha, (SchemaAttempt.toJson_success_iff hi n).mpr ⟨e, he, hn⟩⟩

/-! ## Lessons -/

/-- What an outcome of a tool with an input teaches a run in a state. -/
inductive Lesson (ctx : ToolContext) : ToolInput → Outcome → Prop
  /-- Nothing is learnt from looking at files, from writing or editing one, or from sample rows. -/
  | nothing {input : ToolInput} {o : Outcome} (hok : o.ok = true) (hdis : o.discovered = [])
      (hdef : o.defined = []) (hcom : o.completed = []) (hidle : input.isIdle = true) :
      Lesson ctx input o
  /-- A request teaches which entities it mentions. -/
  | request (text : Text) :
      Lesson ctx (.analyzeRequest text) (analyzeRequest text)
  /-- A schema defines its entity and completes its first stage. -/
  | schema {input : EntityInput} {o : Outcome} {e : Entity} (hb : input.build = .ok e)
      (hok : o.ok = true) (hdis : o.discovered = []) (hdef : o.defined = [e])
      (hcom : o.completed = [(e.name, .schemaWritten)]) : Lesson ctx (.createSchema input) o
  /-- Several schemas define the entities of the attempts that succeeded. -/
  | schemas {inputs : List EntityInput} {o : Outcome} {attempts : List SchemaAttempt}
      (hfor : List.Forall₂ AttemptFor inputs attempts)
      (hdata : o.data = Members.one "results" (.arr (attempts.map SchemaAttempt.toJson)))
      (hdis : o.discovered = []) (hdef : o.defined = attempts.filterMap SchemaAttempt.entity?)
      (hcom : o.completed = o.defined.map fun e => (e.name, .schemaWritten)) :
      Lesson ctx (.createMultipleSchemas inputs) o
  /-- A migration covers every entity whose schema is written. -/
  | generated {label : Option Text} {o : Outcome} (hok : o.ok = true) (hdis : o.discovered = [])
      (hdef : o.defined = [])
      (hcom : o.completed = (ctx.state.withStage .schemaWritten).map (·, .migrationGenerated)) :
      Lesson ctx (.generateMigration label) o
  /-- Applying migrations covers every entity that has one. -/
  | applied {o : Outcome} (hok : o.ok = true) (hdis : o.discovered = []) (hdef : o.defined = [])
      (hcom : o.completed = (ctx.state.withStage .migrationGenerated).map (·, .migrationApplied)) :
      Lesson ctx .runMigration o
  /-- An endpoint needs the schema of its entity. -/
  | endpoint {label : Text} {methods : List Text} {route : Option Text} {o : Outcome}
      (hpre : ctx.state.has (Naming.canonical label) .schemaWritten = true) (hok : o.ok = true)
      (hdis : o.discovered = []) (hdef : o.defined = [])
      (hcom : o.completed = [(Naming.canonical label, .endpointWritten)]) :
      Lesson ctx (.createApiEndpoint label methods route) o
  /-- A hook needs the endpoint of its entity. -/
  | hook {label : Text} {route : Option Text} {o : Outcome}
      (hpre : ctx.state.has (Naming.canonical label) .endpointWritten = true) (hok : o.ok = true)
      (hdis : o.discovered = []) (hdef : o.defined = [])
      (hcom : o.completed = [(Naming.canonical label, .hookWritten)]) :
      Lesson ctx (.createApiClientHook label route) o

/-! ## Every outcome has its lesson -/

/-- A preview of a change teaches nothing. -/
private theorem previewChange_ok {ctx : ToolContext} {verb path : Text} {o : Outcome}
    {w w' : World} (h : (previewChange ctx verb path).run w = (.ok o, w')) :
    o = Outcome.success ("Dry run: would " ++ verb ++ " '" ++ path ++ "'")
      [("path", .str path), ("action", .str preview)] := by
  obtain ⟨_, _, -, h⟩ := Effect.bind_ok_iff.mp h
  exact (Effect.pure_ok_iff.mp h).1

/-- Writing a file teaches nothing. -/
private theorem writeFile_lesson {ctx : ToolContext} {path content : Text} {o : Outcome}
    {w w' : World} (h : (writeFile ctx path content).run w = (.ok o, w')) :
    Lesson ctx (.writeFile path content) o := by
  rw [writeFile] at h
  split at h
  · rw [previewChange_ok h]
    exact .nothing rfl rfl rfl rfl rfl
  · obtain ⟨_, _, -, h⟩ := Effect.bind_ok_iff.mp h
    obtain ⟨rfl, -⟩ := Effect.pure_ok_iff.mp h
    exact .nothing rfl rfl rfl rfl rfl

/-- Editing a file teaches nothing. -/
private theorem editFile_lesson {ctx : ToolContext} {path : Text} {old : Option Text} {new : Text}
    {o : Outcome} {w w' : World} (h : (editFile ctx path old new).run w = (.ok o, w')) :
    Lesson ctx (.editFile path old new) o := by
  rw [editFile] at h
  split at h
  · rw [previewChange_ok h]
    exact .nothing rfl rfl rfl rfl rfl
  · obtain ⟨_, _, -, h⟩ := Effect.bind_ok_iff.mp h
    obtain ⟨rfl, -⟩ := Effect.pure_ok_iff.mp h
    exact .nothing rfl rfl rfl rfl rfl

/-- Listing a directory teaches nothing. -/
private theorem listFiles_lesson {ctx : ToolContext} {path : Option Text} {o : Outcome} {t : Tree}
    (h : listFiles ctx path t = .ok o) : Lesson ctx (.listFiles path) o := by
  rw [listFiles] at h
  split at h
  · cases h
  · obtain ⟨target, -, h⟩ := Effect.result_bind_ok_iff.mp h
    split at h
    · cases h
    · cases h
    · obtain ⟨shown, -, h⟩ := Effect.result_bind_ok_iff.mp h
      cases h
      exact .nothing rfl rfl rfl rfl rfl

/-- Reading a file teaches nothing. -/
private theorem readFile_lesson {ctx : ToolContext} {path : Text} {o : Outcome} {t : Tree}
    (h : readFile ctx path t = .ok o) : Lesson ctx (.readFile path) o := by
  rw [readFile] at h
  obtain ⟨target, -, h⟩ := Effect.result_bind_ok_iff.mp h
  split at h
  · cases h
  · cases h
  · obtain ⟨content, -, h⟩ := Effect.result_bind_ok_iff.mp h
    cases h
    exact .nothing rfl rfl rfl rfl rfl

/-- Summarising models teaches nothing. -/
private theorem analyzeSchema_lesson {ctx : ToolContext} {entity : Option Text} {o : Outcome}
    {t : Tree} (h : analyzeSchema ctx entity t = .ok o) : Lesson ctx (.analyzeSchema entity) o := by
  rw [analyzeSchema] at h
  obtain ⟨directory, -, h⟩ := Effect.result_bind_ok_iff.mp h
  split at h
  all_goals
    obtain ⟨found, -, hlast⟩ := Effect.result_bind_ok_iff.mp h
    cases hlast
    exact .nothing rfl rfl rfl rfl rfl

/-- The lesson of a schema. -/
private theorem createSchema_lesson {ctx : ToolContext} {input : EntityInput} {o : Outcome}
    {w w' : World} (h : (createSchema ctx input).run w = (.ok o, w')) :
    Lesson ctx (.createSchema input) o := by
  rw [createSchema] at h
  obtain ⟨e, w₁, he, hrest⟩ := Effect.bind_ok_iff.mp h
  obtain ⟨hb, rfl⟩ := Action.ofExcept_iff.mp he
  obtain ⟨data, w₂, -, hlast⟩ := Effect.bind_ok_iff.mp hrest
  obtain ⟨rfl, -⟩ := Effect.pure_ok_iff.mp hlast
  exact .schema hb rfl rfl rfl rfl

/-- The lesson of several schemas. -/
private theorem createMultipleSchemas_lesson {ctx : ToolContext} {inputs : List EntityInput}
    {o : Outcome} {w w' : World}
    (h : (createMultipleSchemas ctx inputs).run w = (.ok o, w')) :
    Lesson ctx (.createMultipleSchemas inputs) o := by
  rw [createMultipleSchemas] at h
  obtain ⟨attempts, w₁, ha, hlast⟩ := Effect.bind_ok_iff.mp h
  obtain ⟨rfl, -⟩ := Effect.pure_ok_iff.mp hlast
  exact .schemas (attemptSchemas_forall ha) rfl rfl rfl rfl

/-- The lesson of a generated migration. -/
private theorem generateMigration_lesson {ctx : ToolContext} {label : Option Text} {o : Outcome}
    {w w' : World} (h : (generateMigration ctx label).run w = (.ok o, w')) :
    Lesson ctx (.generateMigration label) o := by
  rw [generateMigration] at h
  split at h
  · obtain ⟨_, _, h, -⟩ := Effect.bind_ok_iff.mp h
    exact absurd h Effect.throw_ne_ok
  · obtain ⟨data, w₁, -, hlast⟩ := Effect.bind_ok_iff.mp h
    obtain ⟨rfl, -⟩ := Effect.pure_ok_iff.mp hlast
    exact .generated rfl rfl rfl rfl

/-- The lesson of applied migrations. -/
private theorem runMigration_lesson {ctx : ToolContext} {o : Outcome} {w w' : World}
    (h : (runMigration ctx).run w = (.ok o, w')) : Lesson ctx .runMigration o := by
  rw [runMigration] at h
  split at h
  · obtain ⟨_, _, h, -⟩ := Effect.bind_ok_iff.mp h
    exact absurd h Effect.throw_ne_ok
  · obtain ⟨data, w₁, -, hlast⟩ := Effect.bind_ok_iff.mp h
    obtain ⟨rfl, -⟩ := Effect.pure_ok_iff.mp hlast
    exact .applied rfl rfl rfl rfl

/-- A prerequisite that is met is a stage of the entity. -/
theorem requirePrerequisite_ok_iff {ctx : ToolContext} {name : Text} {what : Prerequisite}
    {u : Unit} :
    requirePrerequisite ctx name what = .ok u ↔ ctx.state.has name what.stage = true := by
  rw [requirePrerequisite]
  split
  case isTrue h => exact ⟨fun _ => h, fun _ => rfl⟩
  case isFalse h =>
    constructor
    · intro hr
      cases hr
    · intro hh
      exact absurd hh h

/-- The lesson of an endpoint. -/
private theorem createApiEndpoint_lesson {ctx : ToolContext} {label : Text} {methods : List Text}
    {route : Option Text} {o : Outcome} {w w' : World}
    (h : (createApiEndpoint ctx label methods route).run w = (.ok o, w')) :
    Lesson ctx (.createApiEndpoint label methods route) o := by
  rw [createApiEndpoint] at h
  obtain ⟨_, _, hr, h₁⟩ := Effect.bind_ok_iff.mp h
  obtain ⟨hpre, -⟩ := Action.ofRefusal_ok_iff.mp hr
  obtain ⟨artifact, _, -, h₂⟩ := Effect.bind_ok_iff.mp h₁
  obtain ⟨data, _, -, hlast⟩ := Effect.bind_ok_iff.mp h₂
  obtain ⟨rfl, -⟩ := Effect.pure_ok_iff.mp hlast
  exact .endpoint (requirePrerequisite_ok_iff.mp hpre) rfl rfl rfl rfl

/-- The lesson of a hook. -/
private theorem createApiClientHook_lesson {ctx : ToolContext} {label : Text}
    {route : Option Text} {o : Outcome} {w w' : World}
    (h : (createApiClientHook ctx label route).run w = (.ok o, w')) :
    Lesson ctx (.createApiClientHook label route) o := by
  rw [createApiClientHook] at h
  obtain ⟨_, _, hr, h₁⟩ := Effect.bind_ok_iff.mp h
  obtain ⟨hpre, -⟩ := Action.ofRefusal_ok_iff.mp hr
  obtain ⟨data, _, -, hlast⟩ := Effect.bind_ok_iff.mp h₁
  obtain ⟨rfl, -⟩ := Effect.pure_ok_iff.mp hlast
  exact .hook (requirePrerequisite_ok_iff.mp hpre) rfl rfl rfl rfl

/-- Sample rows teach nothing. -/
private theorem seedDatabase_lesson {ctx : ToolContext} {label : Text} {rows : List Members}
    {o : Outcome} {w w' : World} (h : (seedDatabase ctx label rows).run w = (.ok o, w')) :
    Lesson ctx (.seedDatabase label rows) o := by
  rw [seedDatabase] at h
  obtain ⟨_, _, -, h₁⟩ := Effect.bind_ok_iff.mp h
  split at h₁
  · exact absurd h₁ Effect.throw_ne_ok
  · obtain ⟨artifact, _, -, h₂⟩ := Effect.bind_ok_iff.mp h₁
    obtain ⟨data, _, -, hlast⟩ := Effect.bind_ok_iff.mp h₂
    obtain ⟨rfl, -⟩ := Effect.pure_ok_iff.mp hlast
    exact .nothing rfl rfl rfl rfl rfl

/-- **Every outcome of a tool has its lesson.** -/
theorem handle_lesson {ctx : ToolContext} {input : ToolInput} {o : Outcome} {w w' : World}
    (h : (handle ctx input).run w = (.ok o, w')) : Lesson ctx input o := by
  cases input with
  | listFiles path => exact listFiles_lesson (Action.look_iff.mp h).1
  | readFile path => exact readFile_lesson (Action.look_iff.mp h).1
  | writeFile path content => exact writeFile_lesson h
  | editFile path old new => exact editFile_lesson h
  | analyzeRequest text =>
    rw [handle] at h
    obtain ⟨rfl, -⟩ := Effect.pure_ok_iff.mp h
    exact .request text
  | analyzeSchema entity => exact analyzeSchema_lesson (Action.look_iff.mp h).1
  | createSchema input => exact createSchema_lesson h
  | createMultipleSchemas inputs => exact createMultipleSchemas_lesson h
  | generateMigration label => exact generateMigration_lesson h
  | runMigration => exact runMigration_lesson h
  | createApiEndpoint label methods route => exact createApiEndpoint_lesson h
  | createApiClientHook label route => exact createApiClientHook_lesson h
  | seedDatabase label rows => exact seedDatabase_lesson h

/-- An outcome is a success unless it is that of several schemas. -/
theorem Lesson.ok_or_schemas {ctx : ToolContext} {input : ToolInput} {o : Outcome}
    (h : Lesson ctx input o) : o.ok = true ∨ ∃ inputs, input = .createMultipleSchemas inputs := by
  cases h with
  | schemas => exact .inr ⟨_, rfl⟩
  | request => exact .inl rfl
  | nothing hok | schema _ hok | generated hok | applied hok | endpoint _ hok | hook _ hok =>
    exact .inl hok

/-- Every outcome of a tool can be folded into the state the tool was called in: what it completes
stages of was tracked before or is defined by it. -/
theorem Lesson.apply_ok {ctx : ToolContext} {input : ToolInput} {o : Outcome}
    (h : Lesson ctx input o) : ∃ st, o.apply ctx.state = .ok st := by
  refine WorkflowState.apply_ok_of_tracked o ctx.state fun c hc => ?_
  cases h with
  | nothing hok hdis hdef hcom hidle =>
    rw [hcom] at hc
    cases hc
  | request text => cases hc
  | schema hb hok hdis hdef hcom =>
    -- the entity need not be tracked yet: the same outcome defines it
    rw [hcom, List.mem_singleton] at hc
    rw [hdef, hc]
    exact .inr ⟨_, List.mem_singleton_self _, rfl⟩
  | schemas hfor hdata hdis hdef hcom =>
    rw [hcom] at hc
    obtain ⟨e, he, rfl⟩ := List.mem_map.mp hc
    exact .inr ⟨e, he, rfl⟩
  | generated hok hdis hdef hcom =>
    -- the covered names are read off the state, so they are tracked
    rw [hcom] at hc
    obtain ⟨n, hn, rfl⟩ := List.mem_map.mp hc
    exact .inl (WorkflowState.mem_names_of_mem_withStage hn)
  | applied hok hdis hdef hcom =>
    rw [hcom] at hc
    obtain ⟨n, hn, rfl⟩ := List.mem_map.mp hc
    exact .inl (WorkflowState.mem_names_of_mem_withStage hn)
  | endpoint hpre hok hdis hdef hcom =>
    rw [hcom, List.mem_singleton] at hc
    rw [hc]
    exact .inl (WorkflowState.mem_names_of_has hpre)
  | hook hpre hok hdis hdef hcom =>
    rw [hcom, List.mem_singleton] at hc
    rw [hc]
    exact .inl (WorkflowState.mem_names_of_has hpre)

end Tool

end Tablewright
