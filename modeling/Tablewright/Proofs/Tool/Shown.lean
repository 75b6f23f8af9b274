/-
What tools show can be read.

The data of an outcome has its keys from one short list (`dataKeys`), on which neither the flag nor
the message of an observation stands, and its values are texts, counts, and lists and objects of
texts, five deep at most. That is shown for each tool from what its work comes to (`handle_isShown`),
and so the observation of every outcome is read as an object that begins with its flag and its
message (`Outcome.read_observation`).
-/
import Tablewright.Proofs.Json.Members
import Tablewright.Proofs.Json.RoundTrip
import Tablewright.Proofs.Request.Segmentation
import Tablewright.Proofs.Tool.Lesson

set_option autoImplicit false

namespace Tablewright

open Json (IsReadable)

namespace Json

/-- A list of texts can be read. -/
theorem isReadable_texts (depth : Nat) (ts : List Text) : (texts ts).IsReadable (depth + 1) := by
  refine .arr fun v hv => ?_
  obtain ⟨t, -, rfl⟩ := List.mem_map.mp hv
  exact .str depth t

/-- A number of less than so many digits can be read. -/
theorem isReadable_natCast {n : Nat} (hn : n < 10 ^ Text.maxDigits) (depth : Nat) :
    IsReadable depth (.int n) := .int (by rwa [Int.natAbs_natCast])

end Json

/-- What a field shows of itself can be read. -/
theorem Field.isReadable_toJson (f : Field) (depth : Nat) : f.toJson.IsReadable (depth + 2) := by
  refine .obj ?_
  simp only [List.forall_mem_cons]
  exact ⟨.str _ _, .str _ _, Json.isReadable_texts depth _, List.forall_mem_nil _⟩

/-- What an entity shows of itself can be read. -/
theorem Entity.isReadable_toJson (e : Entity) (depth : Nat) : e.toJson.IsReadable (depth + 4) := by
  refine .obj ?_
  simp only [List.forall_mem_cons]
  refine ⟨.str _ _, .str _ _, .arr fun v hv => ?_, List.forall_mem_nil _⟩
  obtain ⟨f, -, rfl⟩ := List.mem_map.mp hv
  exact f.isReadable_toJson depth

namespace Tool

/-- The keys of what tools show. -/
def dataKeys : List Text :=
  ["path", "entries", "content", "action", "entitiesFound", "entities", "recommendation", "schemas",
    "pendingStages", "entity", "files", "results", "command", "stdout", "stderr", "route", "hook",
    "rows", "run"]

/-- No tool shows a flag or a message beside that of its outcome, and all keys are read as they
are written. -/
theorem dataKeys_apart : ∀ key ∈ dataKeys,
    key ≠ Text.ofString "success" ∧ key ≠ Text.ofString "message" ∧ key.joined = key := by
  decide

/-- Data that a tool may show: values that can be read, so deep at most, under keys of the list. -/
def IsShown (depth : Nat) (ms : Members) : Prop := ∀ m ∈ ms, m.1 ∈ dataKeys ∧ m.2.IsReadable depth

section Shown

variable {depth : Nat} {key : Text} {v : Json} {ms : Members}

theorem isShown_nil (depth : Nat) : IsShown depth [] := List.forall_mem_nil _

theorem IsShown.cons (h : IsShown depth ms) (hkey : key ∈ dataKeys) (hv : v.IsReadable depth) :
    IsShown depth ((key, v) :: ms) := List.forall_mem_cons.mpr ⟨⟨hkey, hv⟩, h⟩

/-- A text is shown under any of the keys. -/
theorem IsShown.text (h : IsShown depth ms) (hkey : key ∈ dataKeys) (s : Text) :
    IsShown depth ((key, .str s) :: ms) := h.cons hkey (.str depth s)

theorem IsShown.put (h : IsShown depth ms) (hkey : key ∈ dataKeys) (hv : v.IsReadable depth) :
    IsShown depth (ms.put key v) := by
  intro m hm
  rcases Members.mem_put hm with rfl | hold
  · exact ⟨hkey, hv⟩
  · exact h m hold

theorem IsShown.mono {deeper : Nat} (h : IsShown depth ms) (hle : depth ≤ deeper) :
    IsShown deeper ms := fun m hm => ⟨(h m hm).1, (h m hm).2.mono hle⟩

/-- What may be shown can be read as an object. -/
theorem IsShown.isReadable (h : IsShown depth ms) : IsReadable (depth + 1) (.obj ms) :=
  .obj fun m hm => (h m hm).2

end Shown

variable {ctx : ToolContext} {o : Outcome} {w w' : World} {t : Tree} {data : Members}

/-! ## Files and processes -/

theorem writtenData_isShown (r : Written) : IsShown 0 (writtenData r) :=
  ((isShown_nil 0).text (by decide) _).text (by decide) _

theorem emit_isShown {a : Artifact} (h : (emit ctx a).run w = (.ok data, w')) :
    IsShown 0 data := by
  rw [emit] at h
  split at h
  case isTrue =>
    obtain ⟨rfl, -⟩ := Effect.pure_ok_iff.mp h
    exact (((isShown_nil 0).text (by decide) _).text (by decide) _).text (by decide) _
  case isFalse =>
    obtain ⟨r, _, -, hlast⟩ := Effect.bind_ok_iff.mp h
    obtain ⟨rfl, -⟩ := Effect.pure_ok_iff.mp hlast
    exact writtenData_isShown r

theorem previewChange_isShown {verb path : Text}
    (h : (previewChange ctx verb path).run w = (.ok o, w')) : IsShown 0 o.data := by
  obtain ⟨_, _, -, hlast⟩ := Effect.bind_ok_iff.mp h
  obtain ⟨rfl, -⟩ := Effect.pure_ok_iff.mp hlast
  exact ((isShown_nil 0).text (by decide) _).text (by decide) _

theorem writeFile_isShown {path content : Text}
    (h : (writeFile ctx path content).run w = (.ok o, w')) : IsShown 0 o.data := by
  rw [writeFile] at h
  split at h
  case isTrue => exact previewChange_isShown h
  case isFalse =>
    obtain ⟨r, _, -, hlast⟩ := Effect.bind_ok_iff.mp h
    obtain ⟨rfl, -⟩ := Effect.pure_ok_iff.mp hlast
    exact writtenData_isShown r

theorem editFile_isShown {path : Text} {old : Option Text} {new : Text}
    (h : (editFile ctx path old new).run w = (.ok o, w')) : IsShown 0 o.data := by
  rw [editFile] at h
  split at h
  case isTrue => exact previewChange_isShown h
  case isFalse =>
    obtain ⟨r, _, -, hlast⟩ := Effect.bind_ok_iff.mp h
    obtain ⟨rfl, -⟩ := Effect.pure_ok_iff.mp hlast
    exact writtenData_isShown r

theorem listFiles_isShown {path : Option Text} (h : listFiles ctx path t = .ok o) :
    IsShown 1 o.data := by
  rw [listFiles] at h
  split at h
  · cases h
  · obtain ⟨target, -, h⟩ := Effect.result_bind_ok_iff.mp h
    split at h
    · cases h
    · cases h
    · obtain ⟨shown, -, h⟩ := Effect.result_bind_ok_iff.mp h
      cases h
      exact ((isShown_nil 1).cons (by decide) (Json.isReadable_texts 0 shown)).text (by decide) _

theorem readFile_isShown {path : Text} (h : readFile ctx path t = .ok o) : IsShown 0 o.data := by
  rw [readFile] at h
  obtain ⟨target, -, h⟩ := Effect.result_bind_ok_iff.mp h
  split at h
  · cases h
  · cases h
  · obtain ⟨content, -, h⟩ := Effect.result_bind_ok_iff.mp h
    cases h
    exact ((isShown_nil 0).text (by decide) _).text (by decide) _

theorem runMigrationCommand_isShown {command : Text} {label flag : Option Text}
    (h : (runMigrationCommand ctx command label flag).run w = (.ok data, w')) :
    IsShown 0 data := by
  rw [runMigrationCommand] at h
  split at h
  case isTrue =>
    obtain ⟨words, _, -, hlast⟩ := Effect.bind_ok_iff.mp h
    obtain ⟨rfl, -⟩ := Effect.pure_ok_iff.mp hlast
    exact ((isShown_nil 0).text (by decide) _).text (by decide) _
  case isFalse =>
    obtain ⟨result, _, -, h⟩ := Effect.bind_ok_iff.mp h
    split at h
    case isTrue =>
      obtain ⟨_, _, h, -⟩ := Effect.bind_ok_iff.mp h
      exact absurd h Effect.throw_ne_ok
    case isFalse =>
      obtain ⟨rfl, -⟩ := Effect.pure_ok_iff.mp h
      exact (((isShown_nil 0).text (by decide) _).text (by decide) _).text (by decide) _

/-! ## Analysis -/

/-- What is found in a request are no more entities than there are rules. -/
theorem analyzeRequest_isShown (request : Text) : IsShown 5 (analyzeRequest request).data := by
  have hcount : (Segmentation.ofRequest Catalog.table request).entities.length
      < 10 ^ Text.maxDigits :=
    Nat.lt_of_le_of_lt (Segmentation.length_entities_le _ request)
      (Nat.lt_of_lt_of_le (by decide : Catalog.table.rules.length + 1 < 10 ^ 1)
        (Nat.pow_le_pow_right (by decide) (by decide)))
  refine (((isShown_nil 5).text (by decide) _).cons (by decide) (.arr fun v hv => ?_)).cons
    (by decide) (Json.isReadable_natCast hcount 5)
  obtain ⟨e, -, rfl⟩ := List.mem_map.mp hv
  exact e.isReadable_toJson 0

theorem summarizeModel_isReadable {dir : Location} {wanted : Option Text} {name : Text}
    {row : Json} (h : summarizeModel t dir wanted name = .ok (some row)) : row.IsReadable 2 := by
  rw [summarizeModel] at h
  obtain ⟨source, -, h⟩ := Effect.result_bind_ok_iff.mp h
  dsimp only at h
  split at h
  case isTrue =>
    cases h
    refine .obj ?_
    simp only [List.forall_mem_cons]
    exact ⟨.str 1 _, .str 1 _, Json.isReadable_texts 0 _, List.forall_mem_nil _⟩
  case isFalse => cases h

theorem pendingStages_isReadable (st : WorkflowState) : IsReadable 2 (.obj (pendingStages st)) := by
  refine .obj fun m hm => ?_
  obtain ⟨p, -, rfl⟩ := List.mem_map.mp hm
  exact Json.isReadable_texts 0 _

theorem analyzeSchema_isShown {entity : Option Text} (h : analyzeSchema ctx entity t = .ok o) :
    IsShown 3 o.data := by
  have hshown : ∀ found : List (Option Json), (∀ q ∈ found, ∀ row ∈ q, row.IsReadable 2) →
      IsShown 3 [("schemas", .arr (found.filterMap id)),
        ("pendingStages", .obj (pendingStages ctx.state))] := by
    intro found hfound
    refine ((isShown_nil 3).cons (by decide) ((pendingStages_isReadable _).mono (by decide))).cons
      (by decide) (.arr fun row hrow => ?_)
    obtain ⟨q, hq, hrow⟩ := List.mem_filterMap.mp hrow
    exact hfound q hq row hrow
  rw [analyzeSchema] at h
  obtain ⟨directory, -, h⟩ := Effect.result_bind_ok_iff.mp h
  split at h
  · cases h
  · cases h
    exact hshown [] (List.forall_mem_nil _)
  · obtain ⟨found, hfound, hlast⟩ := Effect.result_bind_ok_iff.mp h
    cases hlast
    refine hshown found ?_
    refine (forall_mem_iff_of_forall₂ (Effect.result_mapM_ok_iff.mp hfound)
      fun name q hq => ?_).mp fun _ _ => trivial
    refine iff_of_true trivial fun row hrow => ?_
    rw [Option.mem_def.mp hrow] at hq
    exact summarizeModel_isReadable hq

/-! ## Schemas -/

theorem emitSchema_isShown {e : Entity} (h : (emitSchema ctx e).run w = (.ok data, w')) :
    IsShown 2 data := by
  obtain ⟨_, model, shapes, _, -, hmodel, hshapes, rfl⟩ := emitSchema_ok_iff.mp h
  refine ((isShown_nil 2).cons (by decide) (.arr ?_)).text (by decide) _
  simp only [List.forall_mem_cons]
  exact ⟨(emit_isShown hmodel).isReadable, (emit_isShown hshapes).isReadable, List.forall_mem_nil _⟩

theorem createSchema_isShown {input : EntityInput}
    (h : (createSchema ctx input).run w = (.ok o, w')) : IsShown 2 o.data := by
  obtain ⟨e, _, -, h⟩ := Effect.bind_ok_iff.mp h
  obtain ⟨data, _, hdata, hlast⟩ := Effect.bind_ok_iff.mp h
  obtain ⟨rfl, -⟩ := Effect.pure_ok_iff.mp hlast
  exact emitSchema_isShown hdata

/-- Every attempt that was made can be read. -/
theorem attemptSchemas_isReadable {inputs : List EntityInput} {attempts : List SchemaAttempt}
    (h : (attemptSchemas ctx inputs).run w = (.ok attempts, w')) :
    ∀ a ∈ attempts, a.toJson.IsReadable 3 := by
  induction inputs generalizing attempts w w' with
  | nil =>
    obtain ⟨rfl, -⟩ := Effect.pure_ok_iff.mp h
    exact List.forall_mem_nil _
  | cons input rest ih =>
    rw [attemptSchemas] at h
    obtain ⟨result, w₁, hresult, h⟩ := Effect.bind_ok_iff.mp h
    obtain ⟨others, w₂, hothers, h⟩ := Effect.bind_ok_iff.mp h
    obtain ⟨rfl, -⟩ := Effect.pure_ok_iff.mp h
    refine List.forall_mem_cons.mpr ⟨?_, ih hothers⟩
    rcases attempt_ok_iff.mp hresult with ⟨⟨e, data⟩, rfl, hrun⟩ | ⟨q, rfl, -⟩
    · obtain ⟨_, _, -, hrun⟩ := Effect.bind_ok_iff.mp hrun
      obtain ⟨_, _, hdata, hlast⟩ := Effect.bind_ok_iff.mp hrun
      obtain ⟨hpair, -⟩ := Effect.pure_ok_iff.mp hlast
      cases hpair
      refine .obj fun m hm => ?_
      rcases Members.mem_putAll hm with hflag | hdatum
      · rw [List.mem_singleton.mp hflag]
        exact .bool 2 true
      · exact (emitSchema_isShown hdata m hdatum).2
    · refine .obj ?_
      simp only [List.forall_mem_cons]
      exact ⟨.bool 2 false, .str 2 _, .str 2 _, .str 2 _, List.forall_mem_nil _⟩

theorem createMultipleSchemas_isShown {inputs : List EntityInput}
    (h : (createMultipleSchemas ctx inputs).run w = (.ok o, w')) : IsShown 4 o.data := by
  obtain ⟨attempts, _, hattempts, hlast⟩ := Effect.bind_ok_iff.mp h
  obtain ⟨rfl, -⟩ := Effect.pure_ok_iff.mp hlast
  refine (isShown_nil 4).cons (by decide) (.arr fun v hv => ?_)
  obtain ⟨a, ha, rfl⟩ := List.mem_map.mp hv
  exact attemptSchemas_isReadable hattempts a ha

/-! ## Migrations, endpoints, hooks and sample rows -/

theorem generateMigration_isShown {label : Option Text}
    (h : (generateMigration ctx label).run w = (.ok o, w')) : IsShown 0 o.data := by
  rw [generateMigration] at h
  split at h
  · obtain ⟨_, _, h, -⟩ := Effect.bind_ok_iff.mp h
    exact absurd h Effect.throw_ne_ok
  · obtain ⟨data, _, hdata, hlast⟩ := Effect.bind_ok_iff.mp h
    obtain ⟨rfl, -⟩ := Effect.pure_ok_iff.mp hlast
    exact runMigrationCommand_isShown hdata

theorem runMigration_isShown (h : (runMigration ctx).run w = (.ok o, w')) : IsShown 0 o.data := by
  rw [runMigration] at h
  split at h
  · obtain ⟨_, _, h, -⟩ := Effect.bind_ok_iff.mp h
    exact absurd h Effect.throw_ne_ok
  · obtain ⟨data, _, hdata, hlast⟩ := Effect.bind_ok_iff.mp h
    obtain ⟨rfl, -⟩ := Effect.pure_ok_iff.mp hlast
    exact runMigrationCommand_isShown hdata

theorem createApiEndpoint_isShown {label : Text} {methods : List Text} {route : Option Text}
    (h : (createApiEndpoint ctx label methods route).run w = (.ok o, w')) : IsShown 0 o.data := by
  rw [createApiEndpoint] at h
  obtain ⟨_, _, -, h⟩ := Effect.bind_ok_iff.mp h
  obtain ⟨artifact, _, -, h⟩ := Effect.bind_ok_iff.mp h
  obtain ⟨data, _, hdata, hlast⟩ := Effect.bind_ok_iff.mp h
  obtain ⟨rfl, -⟩ := Effect.pure_ok_iff.mp hlast
  exact (emit_isShown hdata).put (by decide) (.str 0 _)

theorem createApiClientHook_isShown {label : Text} {route : Option Text}
    (h : (createApiClientHook ctx label route).run w = (.ok o, w')) : IsShown 0 o.data := by
  rw [createApiClientHook] at h
  obtain ⟨_, _, -, h⟩ := Effect.bind_ok_iff.mp h
  obtain ⟨data, _, hdata, hlast⟩ := Effect.bind_ok_iff.mp h
  obtain ⟨rfl, -⟩ := Effect.pure_ok_iff.mp hlast
  exact (emit_isShown hdata).put (by decide) (.str 0 _)

/-- The count of sample rows can be read if it has no more digits than are read. -/
theorem seedDatabase_isShown {label : Text} {rows : List Members}
    (hrows : rows.length < 10 ^ Text.maxDigits)
    (h : (seedDatabase ctx label rows).run w = (.ok o, w')) : IsShown 0 o.data := by
  rw [seedDatabase] at h
  obtain ⟨_, _, -, h⟩ := Effect.bind_ok_iff.mp h
  split at h
  · exact absurd h Effect.throw_ne_ok
  · obtain ⟨artifact, _, -, h⟩ := Effect.bind_ok_iff.mp h
    obtain ⟨data, _, hdata, hlast⟩ := Effect.bind_ok_iff.mp h
    obtain ⟨rfl, -⟩ := Effect.pure_ok_iff.mp hlast
    exact ((emit_isShown hdata).put (by decide) (Json.isReadable_natCast hrows 0)).put (by decide)
      (.str 0 _)

/-! ## All tools -/

/-- **What tools show.** Whatever tool has an outcome, its data stands under keys of the list and
can be read, if there are not too many sample rows for their count to be read. -/
theorem handle_isShown {input : ToolInput} (h : (handle ctx input).run w = (.ok o, w'))
    (hrows : ∀ label rows, input = .seedDatabase label rows → rows.length < 10 ^ Text.maxDigits) :
    IsShown 5 o.data := by
  cases input with
  | listFiles path => exact (listFiles_isShown (Action.look_iff.mp h).1).mono (by decide)
  | readFile path => exact (readFile_isShown (Action.look_iff.mp h).1).mono (by decide)
  | writeFile path content => exact (writeFile_isShown h).mono (by decide)
  | editFile path old new => exact (editFile_isShown h).mono (by decide)
  | analyzeRequest request =>
    rw [handle] at h
    obtain ⟨rfl, -⟩ := Effect.pure_ok_iff.mp h
    exact analyzeRequest_isShown request
  | analyzeSchema entity => exact (analyzeSchema_isShown (Action.look_iff.mp h).1).mono (by decide)
  | createSchema input => exact (createSchema_isShown h).mono (by decide)
  | createMultipleSchemas inputs => exact (createMultipleSchemas_isShown h).mono (by decide)
  | generateMigration label => exact (generateMigration_isShown h).mono (by decide)
  | runMigration => exact (runMigration_isShown h).mono (by decide)
  | createApiEndpoint label methods route => exact (createApiEndpoint_isShown h).mono (by decide)
  | createApiClientHook label route => exact (createApiClientHook_isShown h).mono (by decide)
  | seedDatabase label rows =>
    exact (seedDatabase_isShown (hrows label rows rfl) h).mono (by decide)

end Tool

end Tablewright
