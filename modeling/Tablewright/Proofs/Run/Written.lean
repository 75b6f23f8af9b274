/-
The tracked entity is the written one.

`created` lists, over all calls so far, the entities whose creation succeeded, as they were given,
and `found` those that were found in the request or by an analysis. What a reachable state tracks
under a name is the last creation under it and, where there is none, the first discovery. Each call
extends the two lists by what its outcome defines and discovers, so the induction is one equation
about folding in an outcome (`WorkflowState.spec?_apply`).

A creation compiles the schema first, so the columns of every created entity were checked. Of the
checks of sample rows only the one of the rows is left, and it goes by the tracked entity.
-/
import Tablewright.Proofs.Run.Reachable
import Tablewright.Proofs.Tool.Check
import Tablewright.Proofs.Workflow.Spec

set_option autoImplicit false

namespace Tablewright

open Entity (firstNamed lastNamed)

/-! ## Sample rows -/

namespace Tool

/-- Sample rows are accepted: the tool comes to emit their module, and once this is emitted the tool
succeeds. -/
def AcceptsRows (ctx : ToolContext) (label : Text) (rows : List Members) (w : World) : Prop :=
  ∃ a, ComesToEmit ctx (.seedDatabase label rows) w a w ∧
    ∀ data w', (emit ctx a).run w = (.ok data, w') →
      ∃ o, (handle ctx (.seedDatabase label rows)).run w = (.ok o, w') ∧ o.ok = true

variable {ctx : ToolContext} {label : Text} {rows : List Members} {p : Progress}

/-- An entity whose columns were checked takes exactly the rows that pass their check. -/
theorem compileSeed_ok_iff {e : Entity} (hcheck : e.checkColumns = .ok ()) :
    (∃ a, e.compileSeed rows = .ok a) ↔ ∃ cleaned, Seed.checkRows e rows = .ok cleaned := by
  rw [Entity.compileSeed, hcheck]
  constructor
  · rintro ⟨a, h⟩
    obtain ⟨_, -, h⟩ := Effect.result_bind_ok_iff.mp h
    obtain ⟨cleaned, hrows, -⟩ := Effect.result_bind_ok_iff.mp h
    exact ⟨cleaned, hrows⟩
  · rintro ⟨cleaned, hrows⟩
    rw [hrows]
    exact ⟨_, rfl⟩

section Ready

variable (hget : ctx.state.get? (Naming.canonical label) = some p)
  (hwritten : p.has .schemaWritten = true)
include hget hwritten

/-- Sample rows that pass their check against the tracked entity, and no others, are accepted. -/
theorem acceptsRows_iff (hcheck : p.entity.checkColumns = .ok ()) (w : World) :
    AcceptsRows ctx label rows w ↔ ∃ cleaned, Seed.checkRows p.entity rows = .ok cleaned := by
  rw [← compileSeed_ok_iff hcheck]
  constructor
  · rintro ⟨a, hcome, -⟩
    cases hcome with
    | seed _ hget' hc =>
      rw [hget] at hget'
      cases hget'
      exact ⟨a, hc⟩
  · rintro ⟨a, hc⟩
    refine ⟨a, .seed (has_iff_get?.mpr ⟨p, hget, hwritten⟩) hget hc, fun data w' hemit => ?_⟩
    refine ⟨seedOutcome (Naming.canonical label) rows data, ?_, rfl⟩
    rw [seedDatabase_run hget hwritten, run_ofRefusal_bind hc, Effect.run_bind, hemit]
    rfl

/-- The others are refused as the check refuses them, and nothing is changed. -/
theorem seedDatabase_refused (hcheck : p.entity.checkColumns = .ok ()) {r : Refusal}
    (h : Seed.checkRows p.entity rows = .error r) (w : World) :
    (handle ctx (.seedDatabase label rows)).run w = (.error (.refused r), w) := by
  have hrows : ToolCheck ctx w.tree (.seedDatabase label rows) r :=
    .rows hget hwritten hcheck h
  exact hrows.handle_run

end Ready

end Tool

namespace Run

/-! ## Creations and discoveries -/

namespace Deed

/-- The input the tool worked with and the outcome, if there is one. -/
def work? (d : Deed) : Option (ToolInput × Outcome) :=
  match findTool d.call.name, d.result with
  | .ok tool, .ok (arguments, o) => some (ToolInput.ofMembers arguments tool, o)
  | _, _ => none

/-- The entities the call created, in order. -/
def created (d : Deed) : List Entity :=
  match d.work? with
  | some (input, o) => input.created o
  | none => []

/-- The entities the call found. -/
def found (d : Deed) : List Entity :=
  match d.work? with
  | some (input, _) => input.found
  | none => []

end Deed

/-- The successful creations of several calls, in order. -/
def created (deeds : List Deed) : List Entity := deeds.flatMap Deed.created

/-- The entities found in the request and then by several calls, in order. -/
def found (request : Text) (deeds : List Deed) : List Entity :=
  (Segmentation.ofRequest Catalog.table request).entities ++ deeds.flatMap Deed.found

/-- One more call adds what it created. -/
theorem created_snoc (deeds : List Deed) (d : Deed) :
    created (deeds ++ [d]) = created deeds ++ d.created := by
  rw [created, List.flatMap_append, List.flatMap_singleton]
  rfl

/-- One more call adds what it found. -/
theorem found_snoc (request : Text) (deeds : List Deed) (d : Deed) :
    found request (deeds ++ [d]) = found request deeds ++ d.found := by
  rw [found, List.flatMap_append, List.flatMap_singleton, ← List.append_assoc]
  rfl

section Calls

variable {cfg : RunConfig} {request : Text} {call : ToolCall} {st : WorkflowState} {w : World}

/-- A call with an outcome created what its outcome defines and found what it discovers. -/
theorem Deed.learnt {tool : ToolName} {arguments : Members} {o : Outcome} {w' : World}
    (hfind : findTool call.name = .ok tool)
    (hperform : (performCall cfg call st).run w = (.ok (arguments, o), w'))
    (hlesson : Tool.Lesson (cfg.context st) (ToolInput.ofMembers arguments tool) o) :
    (Deed.of cfg call st w).created = o.defined ∧ (Deed.of cfg call st w).found = o.discovered := by
  have hwork : (Deed.of cfg call st w).work? = some (ToolInput.ofMembers arguments tool, o) := by
    rw [work?, Deed.of, hperform, hfind]
  rw [created, found, hwork]
  exact ⟨hlesson.defined_eq.symm, hlesson.discovered_eq.symm⟩

/-- A call without an outcome created and found nothing. -/
theorem Deed.learnt_nothing {f : Failure} {w' : World}
    (hperform : (performCall cfg call st).run w = (.error f, w')) :
    (Deed.of cfg call st w).created = [] ∧ (Deed.of cfg call st w).found = [] := by
  have hwork : (Deed.of cfg call st w).work? = none := by
    rw [work?, Deed.of, hperform]
    cases findTool call.name <;> rfl
  rw [created, found, hwork]
  exact ⟨rfl, rfl⟩

/-! ## What is tracked -/

/-- A state is what the calls so far make of it: under every name it tracks the last creation, or
else the first discovery, and the first stage is completed for what was created. -/
structure Remembers (request : Text) (deeds : List Deed) (st : WorkflowState) : Prop where
  /-- The last creation under a name is tracked, or else the first discovery. -/
  spec : ∀ n, st.spec? n = (lastNamed n (created deeds)).or (firstNamed n (found request deeds))
  /-- The schemas that are written are those of created entities. -/
  written : ∀ n, st.has n .schemaWritten = true ↔ ∃ e ∈ created deeds, e.name = n
  /-- The columns of every created entity were checked. -/
  checked : ∀ e ∈ created deeds, e.checkColumns = .ok ()

/-- The state at the beginning tracks what was found in the request. -/
theorem remembers_found (request : Text) (dryRun : Bool) :
    Remembers request [] (start request dryRun).state where
  spec n := by
    have hfound : found request [] = (Segmentation.ofRequest Catalog.table request).entities :=
      List.append_nil _
    rw [start, WorkflowState.spec?_discoverAll, hfound]
    rfl
  written n := by
    rw [start, WorkflowState.has_discoverAll]
    constructor
    · intro h
      cases h
    · rintro ⟨_, h, -⟩
      cases h
  checked := List.forall_mem_nil _

/-- An outcome adds to the creations and to the discoveries, and to what is tracked accordingly. -/
theorem Remembers.apply {deeds : List Deed} (h : Remembers request deeds st) {tool : ToolName}
    {arguments : Members} {o : Outcome} {w' : World} {st' : WorkflowState}
    (hfind : findTool call.name = .ok tool)
    (hperform : (performCall cfg call st).run w = (.ok (arguments, o), w'))
    (hrun : (Tool.handle (cfg.context st) (ToolInput.ofMembers arguments tool)).run w = (.ok o, w'))
    (happly : o.apply st = .ok st') : Remembers request (deeds ++ [.of cfg call st w]) st' := by
  have hlesson := Tool.handle_lesson hrun
  obtain ⟨hcreated, hfound⟩ := Deed.learnt hfind hperform hlesson
  refine ⟨fun n => ?_, fun n => ?_, fun e he => ?_⟩
  · -- what is defined goes before everything, what is discovered comes after it
    rw [WorkflowState.spec?_apply happly, h.spec, created_snoc, found_snoc, hcreated, hfound,
      Entity.lastNamed_append, Entity.firstNamed_append, Option.or_assoc, Option.or_assoc]
  · rw [WorkflowState.apply_has_iff happly, h.written, hlesson.schemaWritten_iff, created_snoc,
      hcreated]
    simp only [List.mem_append, or_and_right, exists_or]
  · rw [created_snoc, hcreated] at he
    rcases List.mem_append.mp he with hold | hnew
    · exact h.checked e hold
    · exact Tool.checkColumns_of_defined hrun hnew

/-- Every reachable state is what the calls so far make of it. -/
theorem Reachable.remembers {deeds : List Deed} (h : Reachable cfg request deeds st) :
    Remembers request deeds st := by
  induction h with
  | found => exact remembers_found request cfg.dryRun
  | @call deeds st _ call n w ih =>
    rcases stateAfter_cases cfg call st n w with ⟨_, _, _, _, hfind, hperform, hrun, happly⟩ |
      ⟨⟨_, _, hperform⟩, heq⟩
    · exact ih.apply hfind hperform hrun happly
    · obtain ⟨hcreated, hfound⟩ := Deed.learnt_nothing hperform
      rw [heq]
      refine ⟨?_, ?_, ?_⟩
      · rw [created_snoc, found_snoc, hcreated, hfound, List.append_nil, List.append_nil]
        exact ih.spec
      · rw [created_snoc, hcreated, List.append_nil]
        exact ih.written
      · rw [created_snoc, hcreated, List.append_nil]
        exact ih.checked

/-! ## Entries -/

/-- What is tracked in an entry, by the calls so far. -/
structure TracksWritten (cfg : RunConfig) (request : Text) (deeds : List Deed) (st : WorkflowState)
    (p : Progress) : Prop where
  /-- Once a schema is written the entity is the one given to the last successful creation. -/
  written : p.has .schemaWritten = true →
    lastNamed p.entity.name (created deeds) = some p.entity
  /-- Until then there is no successful creation, and the entity is the one found first. -/
  draft : p.has .schemaWritten = false →
    lastNamed p.entity.name (created deeds) = none ∧
      firstNamed p.entity.name (found request deeds) = some p.entity
  /-- Once a schema is written sample rows are accepted exactly when they pass their check against
  this entity; what the check refuses is refused with nothing changed. -/
  seeds : p.has .schemaWritten = true → ∀ (label : Text) (rows : List Members) (w : World),
    Naming.canonical label = p.entity.name →
      (Tool.AcceptsRows (cfg.context st) label rows w ↔
        ∃ cleaned, Seed.checkRows p.entity rows = .ok cleaned) ∧
      ∀ r, Seed.checkRows p.entity rows = .error r →
        (Tool.handle (cfg.context st) (.seedDatabase label rows)).run w = (.error (.refused r), w)
  /-- Until then sample rows are refused, whatever they are. -/
  unready : p.has .schemaWritten = false → ∀ (label : Text) (rows : List Members) (w : World),
    Naming.canonical label = p.entity.name →
      (Tool.handle (cfg.context st) (.seedDatabase label rows)).run w
        = (.error (.refused (.missingPrerequisite .schema p.entity.name)), w)

/-- The name of an entry leads to the entry. -/
theorem Reachable.get?_eq {deeds : List Deed} (h : Reachable cfg request deeds st) {p : Progress}
    (hp : p ∈ st.entities) : st.get? p.entity.name = some p :=
  h.sound.distinct.get?_eq hp

/-- Of an entry whose schema is written the entity is the last creation under its name. -/
theorem Reachable.written_eq {deeds : List Deed} (h : Reachable cfg request deeds st) {p : Progress}
    (hp : p ∈ st.entities) (hdone : p.has .schemaWritten = true) :
    lastNamed p.entity.name (created deeds) = some p.entity := by
  have hspec := h.remembers.spec p.entity.name
  rw [WorkflowState.spec?, h.get?_eq hp, Option.map_some] at hspec
  rw [← h.sound.distinct.has_eq hp, h.remembers.written, ← Entity.lastNamed_isSome_iff] at hdone
  obtain ⟨e, he⟩ := Option.isSome_iff_exists.mp hdone
  rw [he, Option.some_or] at hspec
  rw [he, hspec]

/-- Of any other entry no creation succeeded, and the entity is the first discovery under its
name. -/
theorem Reachable.draft_eq {deeds : List Deed} (h : Reachable cfg request deeds st) {p : Progress}
    (hp : p ∈ st.entities) (hopen : p.has .schemaWritten = false) :
    lastNamed p.entity.name (created deeds) = none ∧
      firstNamed p.entity.name (Run.found request deeds) = some p.entity := by
  have hspec := h.remembers.spec p.entity.name
  rw [WorkflowState.spec?, h.get?_eq hp, Option.map_some] at hspec
  have hnone : lastNamed p.entity.name (created deeds) = none := by
    rw [← Option.not_isSome_iff_eq_none, Entity.lastNamed_isSome_iff, ← h.remembers.written,
      h.sound.distinct.has_eq hp, hopen]
    exact Bool.false_ne_true
  rw [hnone, Option.none_or] at hspec
  exact ⟨hnone, hspec.symm⟩

/-- **The tracked entity is the written one.** In every state that calls lead to, an entity whose
schema is written is tracked as it was given to its last successful creation, any other as it was
found first; and sample rows are accepted by the tracked entity. -/
theorem tracked_is_written {deeds : List Deed} (h : Reachable cfg request deeds st) :
    ∀ p ∈ st.entities, TracksWritten cfg request deeds st p := by
  intro p hp
  refine ⟨h.written_eq hp, h.draft_eq hp, fun hdone label rows w hlabel => ?_,
    fun hopen label rows w hlabel => ?_⟩
  · have hcheck : p.entity.checkColumns = .ok () :=
      h.remembers.checked _ (Entity.mem_of_lastNamed (h.written_eq hp hdone)).1
    have hget : (cfg.context st).state.get? (Naming.canonical label) = some p := by
      rw [hlabel]
      exact h.get?_eq hp
    exact ⟨Tool.acceptsRows_iff hget hdone hcheck w,
      fun r hr => Tool.seedDatabase_refused hget hdone hcheck hr w⟩
  · have hunready : (cfg.context st).state.has (Naming.canonical label) .schemaWritten = false := by
      rw [hlabel]
      exact (h.sound.distinct.has_eq hp .schemaWritten).trans hopen
    have hstage : Tool.ToolCheck (cfg.context st) w.tree (.seedDatabase label rows)
        (.missingPrerequisite .schema (Naming.canonical label)) := .seedStage hunready
    rw [← hlabel]
    exact hstage.handle_run

end Calls

/-- A call that writes the schema of an entity under a respelled name with one field. -/
def rewritingCall : ToolCall :=
  { id := .null
    name := .str "create_schema"
    arguments := .str "\x7b\"name\":\"FavoriteSongs\",\"fields\":[\x7b\"name\":\"title\"\x7d]\x7d" }

/-- A call whose schema is refused, since a field takes a reserved name. -/
def refusedCall : ToolCall :=
  { id := .null
    name := .str "create_schema"
    arguments := .str "\x7b\"name\":\"favorite_songs\",\"fields\":[\x7b\"name\":\"id\"\x7d]\x7d" }

/-- The state once the first of the two calls was carried out on a request that mentions the
entity. -/
def rewrittenState : WorkflowState :=
  stateAfter (.single true) rewritingCall (start "favorite songs" true).state 1 .bare

/-- Of a draft, a schema that was written and one that was refused, the written one is tracked. -/
theorem tracked_is_written_after_refusal :
    let st := stateAfter (.single true) refusedCall rewrittenState 2 .bare
    let deeds := [Deed.of (.single true) rewritingCall (start "favorite songs" true).state .bare,
      Deed.of (.single true) refusedCall rewrittenState .bare]
    (st.entities.map fun p => (p.entity.name, p.entity.fields.map Field.name, p.has .schemaWritten))
        = [(Text.ofString "favorite_songs", [Text.ofString "title"], true)] ∧
      ∀ p ∈ st.entities, TracksWritten (.single true) "favorite songs" deeds st p :=
  ⟨by decide +kernel,
    tracked_is_written (.call (.call .found rewritingCall 1 .bare) refusedCall 2 .bare)⟩

end Run

end Tablewright
