/-
Lifecycle evidence: a stage is completed exactly when the history of the run shows why.

The evidence of a stage is a list of kinds of occurrence that have to happen one after another
(`InOrder`). A schema step is evidence of the first stage; a migration needs a schema step and then
a generated migration, and its application needs that the migration is applied after both; an
endpoint and a hook are evidence of their own stage, and the step before them is shown to be there
because their tools ask the state for it.

The invariant is `Reached.has_iff`. It is proved along the turns of a run, and the one fact it needs
about tools is `Tool.Lesson.completed_iff`: which stages an outcome completes, read off its lesson.
-/
import Tablewright.Proofs.Run.Course
import Tablewright.Proofs.Tool.Lesson

set_option autoImplicit false

namespace Tablewright

namespace Run

/-! ## One thing after another -/

/-- Things of these kinds happened in this order, each after the one before it. -/
def InOrder : List (Occurrence → Prop) → List Occurrence → Prop
  | [], _ => True
  | kind :: kinds, history =>
    ∃ before o after, history = before ++ o :: after ∧ kind o ∧ InOrder kinds after

/-- Nothing happened in an empty history. -/
theorem not_inOrder_nil (kinds : List (Occurrence → Prop)) (kind : Occurrence → Prop) :
    ¬ InOrder (kinds ++ [kind]) [] := by
  cases kinds with
  | nil =>
    rintro ⟨before, o, after, h, -⟩
    exact absurd h.symm (List.append_ne_nil_of_right_ne_nil before (List.cons_ne_nil o after))
  | cons =>
    rintro ⟨before, o, after, h, -⟩
    exact absurd h.symm (List.append_ne_nil_of_right_ne_nil before (List.cons_ne_nil o after))

/-- A single kind happened when there is an occurrence of it. -/
theorem inOrder_singleton_iff {kind : Occurrence → Prop} {history : List Occurrence} :
    InOrder [kind] history ↔ ∃ o ∈ history, kind o := by
  constructor
  · rintro ⟨before, o, after, rfl, hk, -⟩
    exact ⟨o, List.mem_append_right before List.mem_cons_self, hk⟩
  · rintro ⟨o, ho, hk⟩
    obtain ⟨before, after, rfl⟩ := List.append_of_mem ho
    exact ⟨before, o, after, rfl, hk, trivial⟩

/-- One more occurrence is either not needed or is the last of the kinds. -/
theorem inOrder_concat_iff {kinds : List (Occurrence → Prop)} {kind : Occurrence → Prop}
    {history : List Occurrence} {o : Occurrence} :
    InOrder (kinds ++ [kind]) (history ++ [o]) ↔
      InOrder (kinds ++ [kind]) history ∨ (InOrder kinds history ∧ kind o) := by
  induction kinds generalizing history with
  | nil =>
    simp only [List.nil_append, inOrder_singleton_iff, List.mem_append, List.mem_singleton, InOrder]
    constructor
    · rintro ⟨x, hx | rfl, hk⟩
      · exact .inl ⟨x, hx, hk⟩
      · exact .inr ⟨trivial, hk⟩
    · rintro (⟨x, hx, hk⟩ | ⟨-, hk⟩)
      · exact ⟨x, .inl hx, hk⟩
      · exact ⟨o, .inr rfl, hk⟩
  | cons first kinds ih =>
    constructor
    · rintro ⟨before, x, after, heq, hx, hrest⟩
      -- the rest is not empty, so the last occurrence is the last of the rest
      rcases List.eq_nil_or_concat after with rfl | ⟨after', y, rfl⟩
      · exact absurd hrest (not_inOrder_nil kinds kind)
      · have hcat : history ++ [o] = (before ++ x :: after') ++ [y] := by
          rw [heq, List.concat_eq_append, List.append_assoc, List.cons_append]
        obtain ⟨hh, hy⟩ := List.append_inj' hcat rfl
        obtain rfl : o = y := by simpa using hy
        rw [List.concat_eq_append] at hrest
        rcases ih.mp hrest with hr | ⟨hr, hk⟩
        · exact .inl ⟨before, x, after', hh, hx, hr⟩
        · exact .inr ⟨⟨before, x, after', hh, hx, hr⟩, hk⟩
    · rintro (⟨before, x, after, rfl, hx, hrest⟩ | ⟨⟨before, x, after, rfl, hx, hrest⟩, hk⟩)
      · refine ⟨before, x, after ++ [o], by rw [List.append_assoc, List.cons_append], hx, ?_⟩
        exact ih.mpr (.inl hrest)
      · refine ⟨before, x, after ++ [o], by rw [List.append_assoc, List.cons_append], hx, ?_⟩
        exact ih.mpr (.inr ⟨hrest, hk⟩)

/-- What happened in order keeps having happened. -/
theorem InOrder.append {kinds : List (Occurrence → Prop)} {history : List Occurrence}
    (h : InOrder kinds history) (rest : List Occurrence) : InOrder kinds (history ++ rest) := by
  induction kinds generalizing history with
  | nil => trivial
  | cons kind kinds ih =>
    obtain ⟨before, o, after, rfl, hk, hrest⟩ := h
    exact ⟨before, o, after ++ rest, by rw [List.append_assoc, List.cons_append], hk, ih hrest⟩

/-- What happened after other things in order happened last of them. -/
theorem InOrder.snoc {kinds : List (Occurrence → Prop)} {kind : Occurrence → Prop}
    {before after : List Occurrence} {o : Occurrence} (h : InOrder kinds before) (hk : kind o) :
    InOrder (kinds ++ [kind]) (before ++ o :: after) := by
  have hlast : InOrder (kinds ++ [kind]) (before ++ [o]) := inOrder_concat_iff.mpr (.inr ⟨h, hk⟩)
  have hall := hlast.append after
  rwa [List.append_assoc, List.singleton_append] at hall

/-! ## Marks -/

end Run

/-- The step of a tool that succeeded. -/
def Step.Succeeds (s : Step) (tool : ToolName) : Prop := s.tool = .str tool.label ∧ s.ok = true

/-- A text that was given to a step. -/
def Step.argument (s : Step) (key : Text) : Text := s.input.asMembers.text key

namespace Run

/-- What completes a stage of an entity, given that the stage can be completed. -/
def Marks (n : Text) : Stage → Occurrence → Prop
  | .schemaWritten, o =>
    (o.step.Succeeds .createSchema ∧ n = Naming.canonical (o.step.argument "name")) ∨
      (o.step.tool = .str ToolName.createMultipleSchemas.label ∧
        ∃ outcome, o.outcome? = some outcome ∧ outcome.ListsSuccess n)
  | .migrationGenerated, o => o.step.Succeeds .generateMigration
  | .migrationApplied, o => o.step.Succeeds .runMigration
  | .endpointWritten, o =>
    o.step.Succeeds .createApiEndpoint ∧ n = Naming.canonical (o.step.argument "entity")
  | .hookWritten, o =>
    o.step.Succeeds .createApiClientHook ∧ n = Naming.canonical (o.step.argument "entity")

/-- The stages whose own steps have to come first for the step of a stage to count. An endpoint
and a hook are refused while their prerequisite is missing, so no other step is asked for. -/
def stagesBefore : Stage → List Stage
  | .migrationGenerated => [.schemaWritten]
  | .migrationApplied => [.schemaWritten, .migrationGenerated]
  | _ => []

/-- What has to happen, one after another, for a stage of an entity to be completed. -/
def evidence (n : Text) (stage : Stage) : List (Occurrence → Prop) :=
  (stagesBefore stage).map (Marks n) ++ [Marks n stage]

/-! ## Which stages a call completes -/

/-- What an entity needs in a state for the tool of a stage to cover it. Endpoints and hooks are
refused instead when something is missing. -/
def Ready (n : Text) (st : WorkflowState) : Stage → Prop
  | .migrationGenerated => st.has n .schemaWritten = true
  | .migrationApplied => st.has n .migrationGenerated = true
  | _ => True

/-- The marks of the stages, told from the tool, its arguments and its outcome. -/
def ToolMarks (n : Text) (tool : ToolName) (arguments : Members) (o : Outcome) : Stage → Prop
  | .schemaWritten =>
    (tool = .createSchema ∧ n = Naming.canonical (arguments.text "name")) ∨
      (tool = .createMultipleSchemas ∧ o.ListsSuccess n)
  | .migrationGenerated => tool = .generateMigration
  | .migrationApplied => tool = .runMigration
  | .endpointWritten =>
    tool = .createApiEndpoint ∧ n = Naming.canonical (arguments.text "entity")
  | .hookWritten =>
    tool = .createApiClientHook ∧ n = Naming.canonical (arguments.text "entity")

/-- An outcome completes a stage of an entity exactly when the call was the one for it and the
entity was ready. -/
theorem completed_iff {ctx : ToolContext} {tool : ToolName} {arguments : Members} {o : Outcome}
    (hd : ctx.state.Distinct) (h : Tool.Lesson ctx (ToolInput.ofMembers arguments tool) o)
    (n : Text) (stage : Stage) :
    (n, stage) ∈ o.completed ↔ ToolMarks n tool arguments o stage ∧ Ready n ctx.state stage := by
  -- the lesson lists what is completed, so in each case two lists of names are compared
  cases tool with
  | createSchema =>
    cases h with
    | nothing _ _ _ _ hidle => cases hidle
    | schema hb _ _ _ hcom =>
      rw [hcom, EntityInput.name_of_build hb]
      cases stage <;> simp [ToolMarks, Ready, EntityInput.ofMembers]
  | createMultipleSchemas =>
    cases h with
    | nothing _ _ _ _ hidle => cases hidle
    | schemas hfor hdata _ hdef hcom =>
      have hlist := Tool.listsSuccess_iff hfor hdata n
      rw [hcom, hdef]
      cases stage <;> simp [ToolMarks, Ready, hlist]
  | generateMigration =>
    cases h with
    | nothing _ _ _ _ hidle => cases hidle
    | generated _ _ _ hcom =>
      rw [hcom]
      cases stage <;> simp [ToolMarks, Ready, hd.mem_withStage_iff]
  | runMigration =>
    cases h with
    | nothing _ _ _ _ hidle => cases hidle
    | applied _ _ _ hcom =>
      rw [hcom]
      cases stage <;> simp [ToolMarks, Ready, hd.mem_withStage_iff]
  | createApiEndpoint =>
    cases h with
    | nothing _ _ _ _ hidle => cases hidle
    | endpoint _ _ _ _ hcom =>
      rw [hcom]
      cases stage <;> simp [ToolMarks, Ready]
  | createApiClientHook =>
    cases h with
    | nothing _ _ _ _ hidle => cases hidle
    | hook _ _ _ _ hcom =>
      rw [hcom]
      cases stage <;> simp [ToolMarks, Ready]
  | analyzeRequest =>
    cases h with
    | nothing _ _ _ hcom _ =>
      rw [hcom]
      cases stage <;> simp [ToolMarks]
    | request text =>
      have hcom : (Tool.analyzeRequest (arguments.text "request")).completed = [] := rfl
      rw [hcom]
      cases stage <;> simp [ToolMarks]
  | listFiles | readFile | writeFile | editFile | analyzeSchema | seedDatabase =>
    cases h with
    | nothing _ _ _ hcom _ =>
      rw [hcom]
      cases stage <;> simp [ToolMarks]

/-! ## Which stages a turn completes -/

section Turns

variable {cfg : RunConfig} {engine : Engine} {s s' : Session} {w w' : World}

/-- A turn without an outcome marks nothing. -/
theorem Advance.not_marks {o : Occurrence} (h : Advance cfg engine s w o s' w')
    (hnone : o.outcome? = none) (n : Text) (stage : Stage) : ¬ Marks n stage o := by
  -- all marks but one ask for a successful step, and that one for an outcome
  have hok := h.ok_eq_false hnone
  have hfail : ∀ tool, ¬ o.step.Succeeds tool := by
    intro tool hs
    rw [hs.2] at hok
    cases hok
  cases stage with
  | schemaWritten =>
    rintro (⟨hs, -⟩ | ⟨-, outcome, hsome, -⟩)
    · exact hfail _ hs
    · rw [hnone] at hsome
      cases hsome
  | migrationGenerated => exact hfail _
  | migrationApplied => exact hfail _
  | endpointWritten => exact fun hm => hfail _ hm.1
  | hookWritten => exact fun hm => hfail _ hm.1

/-- What an outcome marks can be told from the recorded step. -/
theorem Advance.marks_iff {reply : Reply} {call : ToolCall} {tool : ToolName} {arguments : Members}
    {outcome : Outcome} {done : Executed}
    (h : Advance cfg engine s w (.finished reply call tool arguments outcome done) s' w')
    (n : Text) (stage : Stage) :
    Marks n stage (.finished reply call tool arguments outcome done) ↔
      ToolMarks n tool arguments outcome stage := by
  obtain ⟨hrun, htool, hinput, hok⟩ := h.of_finished
  have hname : ∀ t : ToolName, done.step.tool = .str t.label ↔ tool = t := by
    intro t
    rw [htool, Json.str.injEq]
    exact ⟨ToolName.label_injective, fun ht => by rw [ht]⟩
  have hsucceeds : ∀ t, t ≠ .createMultipleSchemas → (done.step.Succeeds t ↔ tool = t) := by
    intro t ht
    rw [Step.Succeeds, hname]
    refine ⟨fun hs => hs.1, ?_⟩
    rintro rfl
    refine ⟨rfl, ?_⟩
    rcases (Tool.handle_lesson hrun).ok_or_schemas with hs | ⟨inputs, hs⟩
    · rw [hok, hs]
    · -- only several schemas can have an outcome that is no success
      cases tool <;> first | exact absurd rfl ht | cases hs
  have harg : ∀ key, done.step.argument key = arguments.text key := by
    intro key
    rw [Step.argument, hinput]
    rfl
  cases stage with
  | schemaWritten =>
    simp only [Marks, ToolMarks, Occurrence.step, Occurrence.outcome?, Option.some.injEq]
    rw [hsucceeds _ (by decide), harg, hname]
    simp
  | migrationGenerated => exact hsucceeds _ (by decide)
  | migrationApplied => exact hsucceeds _ (by decide)
  | endpointWritten =>
    simp only [Marks, ToolMarks, Occurrence.step]
    rw [hsucceeds _ (by decide), harg]
  | hookWritten =>
    simp only [Marks, ToolMarks, Occurrence.step]
    rw [hsucceeds _ (by decide), harg]

/-- A turn completes a stage of an entity exactly when it marks it and the entity was ready. -/
theorem Advance.has_iff {o : Occurrence} (h : Advance cfg engine s w o s' w')
    (hd : s.state.Distinct) (n : Text) (stage : Stage) :
    s'.state.has n stage = true ↔
      s.state.has n stage = true ∨ (Ready n s.state stage ∧ Marks n stage o) := by
  rcases h.state_cases with ⟨hnone, heq⟩ | ⟨_, _, tool, arguments, outcome, _, rfl, happly⟩
  · rw [heq]
    constructor
    · exact .inl
    · rintro (hh | ⟨-, hm⟩)
      · exact hh
      · exact absurd hm (h.not_marks hnone n stage)
  · have hlesson := Tool.handle_lesson h.of_finished.1
    rw [WorkflowState.apply_has_iff happly, h.marks_iff, completed_iff hd hlesson, and_comm]
    rfl

end Turns

/-! ## The history of a run -/

section Histories

variable {cfg : RunConfig} {engine : Engine} {request : Text} {w₀ w : World} {s : Session}
  {history : List Occurrence}

/-- **The evidence invariant.** At every point a run comes to, the completed stages are those whose
evidence has happened. -/
theorem Reached.has_iff (h : Reached cfg engine request w₀ history s w) (n : Text)
    (stage : Stage) :
    s.state.has n stage = true ↔ InOrder (evidence n stage) history := by
  induction h generalizing stage with
  | origin =>
    have hstart : (start request cfg.dryRun).state.has n stage = false :=
      WorkflowState.has_discoverAll _ _ n stage
    rw [hstart]
    constructor
    · intro hf
      cases hf
    · -- every stage has some evidence, and nothing has happened yet
      exact fun hin => absurd hin (not_inOrder_nil _ _)
  | @next history s s' w w' o hr _ ha ih =>
    -- the evidence before the last kind is that of the stage the entity has to be ready with
    have hready : Ready n s.state stage ↔
        InOrder ((stagesBefore stage).map (Marks n)) history := by
      cases stage with
      | migrationGenerated => exact ih .schemaWritten
      | migrationApplied => exact ih .migrationGenerated
      | schemaWritten | endpointWritten | hookWritten => exact Iff.rfl
    rw [ha.has_iff hr.distinct, ih, hready, evidence, inOrder_concat_iff]

/-- An endpoint is only written where a schema of its entity is, and a hook where an endpoint is. -/
theorem Advance.prerequisite {engine : Engine} {s s' : Session} {w w' : World} {o : Occurrence}
    (h : Advance cfg engine s w o s' w') (n : Text) :
    (Marks n .endpointWritten o → s.state.has n .schemaWritten = true) ∧
      (Marks n .hookWritten o → s.state.has n .endpointWritten = true) := by
  rcases h.state_cases with ⟨hnone, -⟩ | ⟨_, _, tool, arguments, outcome, _, rfl, -⟩
  · exact ⟨fun hm => absurd hm (h.not_marks hnone n _), fun hm => absurd hm (h.not_marks hnone n _)⟩
  · have hlesson := Tool.handle_lesson h.of_finished.1
    rw [h.marks_iff, h.marks_iff]
    constructor
    · rintro ⟨rfl, rfl⟩
      cases hlesson with
      | nothing _ _ _ _ hidle => cases hidle
      | endpoint hpre => exact hpre
    · rintro ⟨rfl, rfl⟩
      cases hlesson with
      | nothing _ _ _ _ hidle => cases hidle
      | hook hpre => exact hpre

/-- Every endpoint of an entity was written after a schema of it. -/
theorem Reached.schema_before_endpoint {before after : List Occurrence} {o : Occurrence}
    (h : Reached cfg engine request w₀ (before ++ o :: after) s w) {n : Text}
    (hm : Marks n .endpointWritten o) : InOrder [Marks n .schemaWritten] before := by
  obtain ⟨s₁, w₁, s₂, w₂, hr, -, ha, -⟩ := h.split
  exact (hr.has_iff n .schemaWritten).mp ((ha.prerequisite n).1 hm)

/-- Every hook of an entity was written after an endpoint of it. -/
theorem Reached.endpoint_before_hook {before after : List Occurrence} {o : Occurrence}
    (h : Reached cfg engine request w₀ (before ++ o :: after) s w) {n : Text}
    (hm : Marks n .hookWritten o) : InOrder [Marks n .endpointWritten] before := by
  obtain ⟨s₁, w₁, s₂, w₂, hr, -, ha, -⟩ := h.split
  exact (hr.has_iff n .endpointWritten).mp ((ha.prerequisite n).2 hm)

/-- A written hook is the end of a chain: a schema, then an endpoint, then the hook. -/
theorem Reached.chain_of_hook (h : Reached cfg engine request w₀ history s w) {n : Text}
    (hh : s.state.has n .hookWritten = true) :
    InOrder [Marks n .schemaWritten, Marks n .endpointWritten, Marks n .hookWritten] history := by
  -- go back from the hook to the endpoint before it, and from there to the schema
  obtain ⟨before, o, after, rfl, hhook, -⟩ := (h.has_iff n .hookWritten).mp hh
  obtain ⟨earlier, o', between, rfl, hendpoint, -⟩ := h.endpoint_before_hook hhook
  obtain ⟨s₁, w₁, s₂, w₂, hr, -, -, -⟩ := h.split
  have hschema := hr.schema_before_endpoint hendpoint
  have htwo : InOrder [Marks n .schemaWritten, Marks n .endpointWritten]
      (earlier ++ o' :: between) := hschema.snoc hendpoint
  exact htwo.snoc hhook

/-- What the history of a run shows of the stages of the tracked entities. -/
structure Evidenced (history : List Occurrence) (st : WorkflowState) : Prop where
  /-- A stage of a tracked entity is completed exactly when its evidence has happened. -/
  stages : ∀ p ∈ st.entities, ∀ stage,
    p.has stage = true ↔ InOrder (evidence p.entity.name stage) history
  /-- Every endpoint of an entity was written after a schema of it. -/
  endpoints : ∀ n before o after, history = before ++ o :: after → Marks n .endpointWritten o →
    ∃ o' ∈ before, Marks n .schemaWritten o'
  /-- Every hook of an entity was written after an endpoint of it. -/
  hooks : ∀ n before o after, history = before ++ o :: after → Marks n .hookWritten o →
    ∃ o' ∈ before, Marks n .endpointWritten o'

/-- At every point a run comes to, the completed stages are shown by the history. -/
theorem Reached.evidenced (h : Reached cfg engine request w₀ history s w) :
    Evidenced history s.state where
  stages := by
    intro p hp stage
    rw [← h.distinct.has_eq hp stage, h.has_iff]
  endpoints := by
    rintro n before o after rfl hm
    exact inOrder_singleton_iff.mp (h.schema_before_endpoint hm)
  hooks := by
    rintro n before o after rfl hm
    exact inOrder_singleton_iff.mp (h.endpoint_before_hook hm)

/-- **Lifecycle evidence.** At every point a run comes to, its steps are those of the history, and
the history shows exactly which stages of the tracked entities are completed. A run that is
reported ends at such a point, and where it is reported as completed every tracked entity went
through the whole chain: a schema, then a migration, then its application; and after the schema an
endpoint, then a hook. -/
theorem lifecycle_evidence (cfg : RunConfig) (engine : Engine) (request : Text) (w₀ : World) :
    (∀ history s w, Reached cfg engine request w₀ history s w →
      s.steps = history.map Occurrence.step ∧ Evidenced history s.state) ∧
    ∀ id result last w', (perform cfg engine id request).run w₀ = (.ok (result, last), w') →
      ∃ history s w, Reached cfg engine request w₀ history s w ∧
        result.steps = history.map Occurrence.step ∧ result.state = s.state ∧
        Evidenced history result.state ∧
        (result.status = .completed → ∀ p ∈ result.state.entities,
          InOrder [Marks p.entity.name .schemaWritten, Marks p.entity.name .migrationGenerated,
            Marks p.entity.name .migrationApplied] history ∧
          InOrder [Marks p.entity.name .schemaWritten, Marks p.entity.name .endpointWritten,
            Marks p.entity.name .hookWritten] history) := by
  refine ⟨fun history s w h => ⟨h.steps_eq, h.evidenced⟩, ?_⟩
  intro id result last w' hrun
  have hb := one_le_budget_of_perform_ok hrun
  obtain ⟨history, s, w, v, hend, rfl⟩ := (perform_ok_iff hb).mp hrun
  have hr := hend.reached
  obtain ⟨hsteps, hstate⟩ := hend.last_eq
  have hev : Evidenced history last.state := hstate ▸ hr.evidenced
  refine ⟨history, s, w, hr, hsteps.trans hr.steps_eq, hstate, hev, ?_⟩
  intro hcompleted p hp
  have hdone := (last.state.isComplete_iff).mp (hend.isComplete_of_completed hcompleted).2
  have hhook : s.state.has p.entity.name .hookWritten = true := by
    rw [hr.distinct.has_eq (hstate ▸ hp)]
    exact hdone p hp .hookWritten
  exact ⟨(hev.stages p hp .migrationApplied).mp (hdone p hp _), hr.chain_of_hook hhook⟩

end Histories

end Run

end Tablewright
