/-
What a tool found and what it created.

Both are told from outside: by the input of the tool and, for several schemas, by the rows the
engine is shown, one for each given entity in order. A creation counts only when it succeeded, and
then the entity is the one that was given, complete with its description and fields. These are the
very lists a run learns from (`Lesson.discovered_eq`, `Lesson.defined_eq`).

An entity is created only if its schema compiles, so its columns were checked.
-/
import Tablewright.Proofs.Artifact.Columns
import Tablewright.Proofs.Request.Segmentation
import Tablewright.Proofs.Tool.Emission

set_option autoImplicit false

namespace Tablewright

/-! ## Definitions -/

/-- The entities a tool finds. -/
def ToolInput.found : ToolInput → List Entity
  | .analyzeRequest request => (Segmentation.ofRequest Catalog.table request).entities
  | _ => []

/-- The entity that was given, if the row shown of it is a success. -/
def EntityInput.created? (input : EntityInput) (row : Json) : Option Entity :=
  match row.asMembers.get? "success" with
  | some (.bool true) => input.build.toOption
  | _ => none

/-- The entities a tool created when it had an outcome, in order. -/
def ToolInput.created (o : Outcome) : ToolInput → List Entity
  | .createSchema input => input.build.toOption.toList
  | .createMultipleSchemas inputs =>
    (inputs.zip (o.data.items "results")).filterMap fun given => given.1.created? given.2
  | _ => []

namespace Tool

/-! ## What a run learns from -/

/-- The entity told from the row of an attempt is that of the attempt. -/
theorem AttemptFor.created? {input : EntityInput} {a : SchemaAttempt} (ha : AttemptFor input a) :
    input.created? a.toJson = a.entity? := by
  rw [EntityInput.created?, SchemaAttempt.toJson_success ha]
  rcases hr : a.result with r | ⟨e, data⟩
  · rw [SchemaAttempt.entity?, hr]
    rfl
  · obtain ⟨hb, -⟩ := ha.built e data hr
    rw [SchemaAttempt.entity?, hr, hb]
    rfl

variable {ctx : ToolContext} {input : ToolInput} {o : Outcome}

/-- What a run discovers is what the tool found. -/
theorem Lesson.discovered_eq (h : Lesson ctx input o) : o.discovered = input.found := by
  cases h with
  | request text => rfl
  | nothing _ hdis _ _ hidle =>
    rw [hdis]
    cases input <;> first | rfl | cases hidle
  | schema _ _ hdis | schemas _ _ hdis | generated _ hdis | applied _ hdis | endpoint _ _ hdis
  | hook _ _ hdis => exact hdis

/-- What a run defines is what the tool created. -/
theorem Lesson.defined_eq (h : Lesson ctx input o) : o.defined = input.created o := by
  cases h with
  | nothing _ _ hdef _ hidle =>
    rw [hdef]
    cases input <;> first | rfl | cases hidle
  | request text => rfl
  | schema hb _ _ hdef =>
    rw [hdef, ToolInput.created, hb]
    rfl
  | @schemas inputs _ attempts hfor hdata _ hdef =>
    have hrows : o.data.items "results" = attempts.map SchemaAttempt.toJson := by
      rw [hdata]
      rfl
    rw [hdef, ToolInput.created, hrows]
    clear hdata hdef hrows
    -- the rows stand for the given entities one by one
    induction hfor with
    | nil => rfl
    | @cons given a _ _ hhead _ ih =>
      rw [List.map_cons, List.zip_cons_cons, List.filterMap_cons, List.filterMap_cons,
        hhead.created?, ih]
  | generated _ _ hdef | applied _ _ hdef | endpoint _ _ _ hdef | hook _ _ _ hdef => exact hdef

/-- The first stage is completed for exactly the entities that are defined. -/
theorem Lesson.schemaWritten_iff (h : Lesson ctx input o) (n : Text) :
    (n, Stage.schemaWritten) ∈ o.completed ↔ ∃ e ∈ o.defined, e.name = n := by
  cases h with
  | request text => simp [analyzeRequest, Outcome.success]
  | nothing _ _ hdef hcom => simp [hdef, hcom]
  | schema _ _ _ hdef hcom => simp [hdef, hcom, eq_comm]
  | schemas _ _ _ _ hcom => simp [hcom]
  | generated _ _ hdef hcom | applied _ _ hdef hcom => simp [hdef, hcom]
  | endpoint _ _ _ hdef hcom | hook _ _ _ hdef hcom => simp [hdef, hcom]

/-- A created entity was given to be created. -/
theorem built_of_mem_created {e : Entity} (h : e ∈ input.created o) :
    ∃ given : EntityInput, given.build = .ok e := by
  cases input with
  | createSchema given =>
    rcases hb : given.build with f | e'
    · rw [ToolInput.created, hb] at h
      cases h
    · rw [ToolInput.created, hb] at h
      obtain rfl := List.mem_singleton.mp h
      exact ⟨given, hb⟩
  | createMultipleSchemas inputs =>
    obtain ⟨⟨given, row⟩, -, hrow⟩ := List.mem_filterMap.mp h
    rw [EntityInput.created?] at hrow
    split at hrow
    · rcases hb : given.build with f | e'
      · rw [hb] at hrow
        cases hrow
      · rw [hb] at hrow
        cases hrow
        exact ⟨given, hb⟩
    · cases hrow
  | listFiles _ | readFile _ | writeFile _ _ | editFile _ _ _ | analyzeRequest _ | analyzeSchema _
  | generateMigration _ | runMigration | createApiEndpoint _ _ _ | createApiClientHook _ _
  | seedDatabase _ _ => cases h

/-- What a tool creates goes by canonical names. -/
theorem canonical_name_of_mem_created {e : Entity} (h : e ∈ input.created o) :
    Naming.canonical e.name = e.name := by
  obtain ⟨given, hb⟩ := built_of_mem_created h
  rw [EntityInput.name_of_build hb, Naming.canonical_canonical]

/-- What a tool finds goes by canonical names. -/
theorem canonical_name_of_mem_found {e : Entity} (h : e ∈ input.found) :
    Naming.canonical e.name = e.name := by
  cases input with
  | analyzeRequest request => exact Segmentation.canonical_name h
  | listFiles _ | readFile _ | writeFile _ _ | editFile _ _ _ | analyzeSchema _ | createSchema _
  | createMultipleSchemas _ | generateMigration _ | runMigration | createApiEndpoint _ _ _
  | createApiClientHook _ _ | seedDatabase _ _ => cases h

/-! ## Checked columns -/

/-- The entity of an attempt that succeeded has checked columns. -/
theorem checkColumns_of_attempt {inputs : List EntityInput} {attempts : List SchemaAttempt}
    {w w' : World} (h : (attemptSchemas ctx inputs).run w = (.ok attempts, w')) {e : Entity}
    (he : e ∈ attempts.filterMap SchemaAttempt.entity?) : e.checkColumns = .ok () := by
  induction inputs generalizing attempts w with
  | nil =>
    obtain ⟨rfl, -⟩ := Effect.pure_ok_iff.mp h
    cases he
  | cons given rest ih =>
    obtain ⟨result, w₁, others, hr, ho, rfl⟩ := attemptSchemas_cons_ok_iff.mp h
    obtain ⟨a, ha, hae⟩ := List.mem_filterMap.mp he
    rcases List.mem_cons.mp ha with rfl | hrest
    · rcases attempt_ok_iff.mp hr with ⟨⟨e', data⟩, rfl, hw⟩ | ⟨q, rfl, -⟩
      · obtain rfl : e' = e := Option.some.inj hae
        obtain ⟨_, _, _, _, -, hc, -⟩ := writeSchema_ok_iff.mp hw
        exact (Entity.compileSchema_ok_iff.mp hc).1
      · cases hae
    · exact ih ho (List.mem_filterMap.mpr ⟨a, hrest, hae⟩)

/-- Whatever a tool defines has checked columns. -/
theorem checkColumns_of_defined {w w' : World} (h : (handle ctx input).run w = (.ok o, w'))
    {e : Entity} (he : e ∈ o.defined) : e.checkColumns = .ok () := by
  cases input with
  | createSchema given =>
    rw [handle, createSchema_run] at h
    rcases hw : (writeSchema ctx given).run w with ⟨f | ⟨e', data⟩, w₁⟩
    · rw [hw] at h
      cases h
    · rw [hw] at h
      cases h
      obtain rfl := List.mem_singleton.mp he
      obtain ⟨_, _, _, _, -, hc, -⟩ := writeSchema_ok_iff.mp hw
      exact (Entity.compileSchema_ok_iff.mp hc).1
  | createMultipleSchemas inputs =>
    rw [handle, createMultipleSchemas_run] at h
    rcases ha : (attemptSchemas ctx inputs).run w with ⟨f | attempts, w₁⟩
    · rw [ha] at h
      cases h
    · rw [ha] at h
      cases h
      exact checkColumns_of_attempt ha he
  | listFiles _ | readFile _ | writeFile _ _ | editFile _ _ _ | analyzeRequest _ | analyzeSchema _
  | generateMigration _ | runMigration | createApiEndpoint _ _ _ | createApiClientHook _ _
  | seedDatabase _ _ =>
    rw [(handle_lesson h).defined_eq] at he
    cases he

end Tool

end Tablewright
