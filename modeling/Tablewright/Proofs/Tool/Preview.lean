/-
A tool called really and called in a dry run.

The two calls start in one state and in any two worlds. Where the real call meets no failed write
and its process is started and ends well (`Smooth`), the tools a run learns from agree
(`handle_agree`): both have an outcome or both fail alike, and the outcomes teach the same. For a
tool that emits artifacts the dry outcome also shows, in order, exactly what the real call hands over
to be written (`Previewed`). The tools that work on single files need not agree, and a run learns
nothing from them.
-/
import Tablewright.Proofs.Tool.Emission

set_option autoImplicit false

namespace Tablewright

/-! ## What a dry run shows -/

/-- The same call in a dry run. -/
def ToolContext.dry (ctx : ToolContext) : ToolContext := { ctx with dryRun := true }

/-- The path and the content of a file that is shown with both. -/
def Members.preview? (ms : Members) : Option (Text × Text) :=
  match ms.get? "path", ms.get? "content" with
  | some (.str path), some (.str content) => some (path, content)
  | _, _ => none

/-- The files that are shown with their contents, alone or in a list of files. -/
def Members.previews (ms : Members) : List (Text × Text) :=
  ms.preview?.toList ++ (ms.items "files").filterMap fun file => file.asMembers.preview?

/-- The files that an outcome shows with their contents, of several schemas row by row. -/
def Outcome.previews (o : Outcome) : List (Text × Text) :=
  o.data.previews ++ (o.data.items "results").flatMap fun row => row.asMembers.previews

/-- Two outcomes from which a run learns the same. -/
structure Outcome.SameLesson (o o' : Outcome) : Prop where
  discovered : o.discovered = o'.discovered
  defined : o.defined = o'.defined
  completed : o.completed = o'.completed

/-- Outcomes that teach the same lead to the same state. -/
theorem Outcome.SameLesson.apply_eq {o o' : Outcome} (h : o.SameLesson o') (st : WorkflowState) :
    o.apply st = o'.apply st := by
  rw [Outcome.apply, Outcome.apply, h.discovered, h.defined, h.completed]

/-- The tools that emit artifacts. -/
def ToolInput.emits : ToolInput → Bool
  | .createSchema _ | .createMultipleSchemas _ | .createApiEndpoint _ _ _
  | .createApiClientHook _ _ | .seedDatabase _ _ => true
  | _ => false

/-- Where an artifact belongs and what it holds. -/
def Artifact.shown (a : Artifact) : Text × Text := (a.path, a.content)

/-! ## Writing artifacts one after another -/

/-- Artifacts that are written one after another are written in one go. -/
theorem Project.writeAll_append {root : Location} {as bs : List Artifact} {ws us : List Written}
    {t t₁ t₂ : Tree} (h : (Project.writeAll root as).run t = (.ok ws, t₁))
    (k : (Project.writeAll root bs).run t₁ = (.ok us, t₂)) :
    (Project.writeAll root (as ++ bs)).run t = (.ok (ws ++ us), t₂) := by
  induction as generalizing ws t with
  | nil =>
    obtain ⟨rfl, rfl⟩ := Effect.pure_ok_iff.mp h
    exact k
  | cons a as ih =>
    rw [writeAll] at h
    obtain ⟨w, t₃, hw, h⟩ := Effect.bind_ok_iff.mp h
    obtain ⟨ws', t₄, hws, h⟩ := Effect.bind_ok_iff.mp h
    obtain ⟨rfl, rfl⟩ := Effect.pure_ok_iff.mp h
    rw [List.cons_append, writeAll]
    refine Effect.bind_ok_iff.mpr ⟨w, t₃, hw, Effect.bind_ok_iff.mpr ?_⟩
    exact ⟨ws' ++ us, t₂, ih hws, Effect.pure_ok_iff.mpr ⟨rfl, rfl⟩⟩

/-- A single artifact is written as it is. -/
theorem Project.writeAll_singleton {root : Location} {a : Artifact} {r : Written} {t t₁ : Tree}
    (h : (Project.writeArtifact root a).run t = (.ok r, t₁)) :
    (Project.writeAll root [a]).run t = (.ok [r], t₁) := by
  refine Effect.bind_ok_iff.mpr ⟨r, t₁, h, Effect.bind_ok_iff.mpr ⟨[], t₁, ?_, ?_⟩⟩
  · exact Effect.pure_ok_iff.mpr ⟨rfl, rfl⟩
  · exact Effect.pure_ok_iff.mpr ⟨rfl, rfl⟩

namespace Tool

variable {ctx : ToolContext}

/-- What a dry run shows of an artifact. -/
def previewData (a : Artifact) : Members :=
  [("path", .str a.path), ("action", .str preview), ("content", .str a.content)]

/-- An artifact can be written in a world. -/
def Writable (ctx : ToolContext) (a : Artifact) (w : World) : Prop :=
  ∃ r t, (Project.writeArtifact ctx.root a).run w.tree = (.ok r, t)

/-- In a dry run an artifact is shown and nothing else happens. -/
theorem emit_dry_run (a : Artifact) (v : World) :
    (emit ctx.dry a).run v = (.ok (previewData a), v) := rfl

/-- In a real run an artifact that can be written is written. -/
theorem emit_run_of_write (hreal : ctx.dryRun = false) {a : Artifact} {w : World} {r : Written}
    {t : Tree} (h : (Project.writeArtifact ctx.root a).run w.tree = (.ok r, t)) :
    (emit ctx a).run w = (.ok (writtenData r), { w with tree := t }) := by
  rw [emit, hreal, if_neg Bool.false_ne_true]
  refine Effect.bind_ok_iff.mpr ⟨r, _, Action.onFiles_iff.mpr ⟨t, h, rfl⟩, ?_⟩
  exact Effect.pure_ok_iff.mpr ⟨rfl, rfl⟩

/-! ## Both calls of a tool -/

/-- Everything goes well in a call: every artifact it comes to emit can be written there, and the
process it sets out to start is started, ends with status zero and is read. -/
structure Smooth (ctx : ToolContext) (input : ToolInput) (w : World) : Prop where
  writable : ∀ a w₁, ComesToEmit ctx input w a w₁ → Writable ctx a w₁
  started : ∀ u words, neededCommand ctx input = some u → u.words = .ok words →
    (process ctx words).flaw? = none
  ended : ∀ u words, neededCommand ctx input = some u → u.words = .ok words →
    ∃ stdout stderr, w.upcoming = .ended 0 stdout stderr

/-- A real call and a dry call agree: both have an outcome, and the outcomes are related, or both
fail in the same way. The dry call leaves its world alone. -/
inductive Agree (ctx : ToolContext) (input : ToolInput) (w v : World)
    (R : Outcome → World → Outcome → Prop) : Prop
  | done {o o' : Outcome} {w' : World} (hreal : (handle ctx input).run w = (.ok o, w'))
      (hdry : (handle ctx.dry input).run v = (.ok o', v)) (h : R o w' o') : Agree ctx input w v R
  | failed {f : Failure} {w' : World} (hreal : (handle ctx input).run w = (.error f, w'))
      (hdry : (handle ctx.dry input).run v = (.error f, v)) : Agree ctx input w v R

/-- The outcome of a dry call previews that of a real one: the run learns the same, and what is
shown is what the real call hands over to be written. The files afterwards are those that result
from writing just these artifacts in order. -/
structure Previewed (ctx : ToolContext) (input : ToolInput) (w : World) (o : Outcome) (w' : World)
    (o' : Outcome) : Prop where
  lesson : o.SameLesson o'
  ok : o.ok = o'.ok
  shown : o'.previews = (emissions ctx input w).map fun e => e.1.shown
  stored : ∃ ws, (Project.writeAll ctx.root ((emissions ctx input w).map Prod.fst)).run w.tree
    = (.ok ws, w'.tree)

theorem Agree.mono {input : ToolInput} {w v : World} {R S : Outcome → World → Outcome → Prop}
    (h : Agree ctx input w v R) (hRS : ∀ o w' o', R o w' o' → S o w' o') :
    Agree ctx input w v S := by
  cases h with
  | done hreal hdry h => exact .done hreal hdry (hRS _ _ _ h)
  | failed hreal hdry => exact .failed hreal hdry

/-! ## Schemas -/

/-- A schema that can be written is written in a real run and shown in a dry one; one that is
refused is refused in both. -/
theorem writeSchema_both (hreal : ctx.dryRun = false) {input : EntityInput} {w : World}
    (hw : ∀ e ∈ schemaEmissions ctx input w, Writable ctx e.1 e.2) (v : World) :
    (∃ e, ∃ schema : Schema, ∃ data w₁ w' ws, (writeSchema ctx input).run w = (.ok (e, data), w') ∧
      (writeSchema ctx.dry input).run v
        = (.ok (e, schemaData e (previewData schema.model) (previewData schema.shapes)), v) ∧
      schemaEmissions ctx input w = [(schema.model, w), (schema.shapes, w₁)] ∧
      (Project.writeAll ctx.root [schema.model, schema.shapes]).run w.tree = (.ok ws, w'.tree)) ∨
    ∃ f, (writeSchema ctx input).run w = (.error f, w) ∧
      (writeSchema ctx.dry input).run v = (.error f, v) ∧ schemaEmissions ctx input w = [] := by
  cases hs : input.schema? with
  | none =>
    right
    have hnone : schemaEmissions ctx input w = [] := by rw [schemaEmissions, hs]
    -- the entity is not built, or its schema is refused; neither looks at the world
    cases hb : input.build with
    | error f =>
      have hfail : ∀ c : ToolContext, ∀ u, (writeSchema c input).run u = (.error f, u) :=
        fun c u => writeSchema_error_iff.mpr (.inl ⟨hb, rfl⟩)
      exact ⟨f, hfail ctx w, hfail ctx.dry v, hnone⟩
    | ok e =>
      cases hc : e.compileSchema with
      | error r =>
        have hfail : ∀ c : ToolContext, ∀ u,
            (writeSchema c input).run u = (.error (.refused r), u) :=
          fun c u => writeSchema_error_iff.mpr (.inr ⟨e, hb, .inl ⟨r, hc, rfl, rfl⟩⟩)
        exact ⟨.refused r, hfail ctx w, hfail ctx.dry v, hnone⟩
      | ok schema =>
        rw [EntityInput.schema?_eq_some_iff.mpr ⟨e, hb, hc⟩] at hs
        cases hs
  | some schema =>
    left
    obtain ⟨e, hb, hc⟩ := EntityInput.schema?_eq_some_iff.mp hs
    -- the model can be written, and after it the shapes
    have hfirst : (schema.model, w) ∈ schemaEmissions ctx input w :=
      mem_schemaEmissions_iff.mpr (.model hb hc)
    obtain ⟨r₁, t₁, hr₁⟩ := hw _ hfirst
    have hmodel := emit_run_of_write hreal hr₁
    have hsecond : (schema.shapes, { w with tree := t₁ }) ∈ schemaEmissions ctx input w :=
      mem_schemaEmissions_iff.mpr (.shapes hb hc hmodel)
    obtain ⟨r₂, t₂, hr₂⟩ := hw _ hsecond
    have hshapes := emit_run_of_write hreal hr₂
    refine ⟨e, schema, schemaData e (writtenData r₁) (writtenData r₂), { w with tree := t₁ },
      { w with tree := t₂ }, [r₁, r₂], ?_, ?_, ?_, ?_⟩
    · exact writeSchema_ok_iff.mpr ⟨schema, _, _, _, hb, hc, hmodel, hshapes, rfl⟩
    · exact writeSchema_ok_iff.mpr
        ⟨schema, _, _, v, hb, hc, emit_dry_run _ v, emit_dry_run _ v, rfl⟩
    · rw [schemaEmissions, hs]
      dsimp only
      rw [hmodel]
    · exact Project.writeAll_append (Project.writeAll_singleton hr₁)
        (Project.writeAll_singleton hr₂)

/-- What several attempts come to for a run: the labels, and the entities of those that
succeeded. -/
def SchemaAttempt.verdict (a : SchemaAttempt) : Text × Option Entity := (a.label, a.entity?)

/-- What several attempts show with contents. -/
def attemptPreviews (attempts : List SchemaAttempt) : List (Text × Text) :=
  (attempts.map SchemaAttempt.toJson).flatMap fun row => row.asMembers.previews

/-- Several schemas of which every artifact can be written come to the same in a real run and in a
dry one, and the dry one shows what the real one writes. -/
theorem attemptSchemas_both (hreal : ctx.dryRun = false) {inputs : List EntityInput} {w : World}
    (hw : ∀ e ∈ severalEmissions ctx inputs w, Writable ctx e.1 e.2) (v : World) :
    (∃ attempts shown w' ws, (attemptSchemas ctx inputs).run w = (.ok attempts, w') ∧
      (attemptSchemas ctx.dry inputs).run v = (.ok shown, v) ∧
      attempts.map SchemaAttempt.verdict = shown.map SchemaAttempt.verdict ∧
      attemptPreviews shown = (severalEmissions ctx inputs w).map (fun e => e.1.shown) ∧
      (Project.writeAll ctx.root ((severalEmissions ctx inputs w).map Prod.fst)).run w.tree
        = (.ok ws, w'.tree)) ∨
    ∃ f w', (attemptSchemas ctx inputs).run w = (.error f, w') ∧
      (attemptSchemas ctx.dry inputs).run v = (.error f, v) := by
  induction inputs generalizing w with
  | nil => exact .inl ⟨[], [], w, [], rfl, rfl, rfl, rfl, rfl⟩
  | cons input rest ih =>
    have hhead : ∀ e ∈ schemaEmissions ctx input w, Writable ctx e.1 e.2 := by
      intro e he
      exact hw e (List.mem_append_left _ he)
    rcases writeSchema_both hreal hhead v with
      ⟨e, schema, data, w₁, w₂, ws, hrun, hdry, hemit, hstored⟩ | ⟨f, hrun, hdry, hemit⟩
    · -- the first schema is written, and the others are attempted after it
      have hone : (attempt (writeSchema ctx input)).run w = (.ok (.ok (e, data)), w₂) :=
        attempt_ok_iff.mpr (.inl ⟨_, rfl, hrun⟩)
      have hshown : (attempt (writeSchema ctx.dry input)).run v = (.ok (.ok
          (e, schemaData e (previewData schema.model) (previewData schema.shapes))), v) :=
        attempt_ok_iff.mpr (.inl ⟨_, rfl, hdry⟩)
      have hlist : severalEmissions ctx (input :: rest) w
          = [(schema.model, w), (schema.shapes, w₁)] ++ severalEmissions ctx rest w₂ := by
        rw [severalEmissions, hemit, hone]
      have htail : ∀ e ∈ severalEmissions ctx rest w₂, Writable ctx e.1 e.2 := by
        intro e he
        exact hw e (hlist ▸ List.mem_append_right _ he)
      rw [hlist]
      rcases ih htail with ⟨attempts, shown, w', us, hr, hd, hverdict, hpreview, hrest⟩ |
        ⟨f, w', hr, hd⟩
      · refine .inl ⟨_, _, w', ws ++ us, attemptSchemas_cons_ok_iff.mpr ⟨_, _, _, hone, hr, rfl⟩,
          attemptSchemas_cons_ok_iff.mpr ⟨_, _, _, hshown, hd, rfl⟩, ?_, ?_, ?_⟩
        · rw [List.map_cons, List.map_cons, hverdict]
          rfl
        · rw [attemptPreviews, List.map_cons, List.flatMap_cons]
          rw [attemptPreviews] at hpreview
          rw [hpreview, List.map_append]
          rfl
        · rw [List.map_append]
          exact Project.writeAll_append hstored hrest
      · exact .inr ⟨f, w', attemptSchemas_cons_error_iff.mpr (.inr ⟨_, _, hone, hr⟩),
          attemptSchemas_cons_error_iff.mpr (.inr ⟨_, _, hshown, hd⟩)⟩
    · by_cases hrefused : ∃ r, f = .refused r
      · -- a refusal is a result in both, and the others are attempted in the same world
        obtain ⟨r, rfl⟩ := hrefused
        have hone : (attempt (writeSchema ctx input)).run w = (.ok (.error r), w) :=
          attempt_ok_iff.mpr (.inr ⟨r, rfl, hrun⟩)
        have hshown : (attempt (writeSchema ctx.dry input)).run v = (.ok (.error r), v) :=
          attempt_ok_iff.mpr (.inr ⟨r, rfl, hdry⟩)
        have hlist : severalEmissions ctx (input :: rest) w = severalEmissions ctx rest w := by
          rw [severalEmissions, hemit, hone, List.nil_append]
        rw [hlist]
        rw [hlist] at hw
        rcases ih hw with ⟨attempts, shown, w', us, hr, hd, hverdict, hpreview, hrest⟩ |
          ⟨f, w', hr, hd⟩
        · refine .inl ⟨_, _, w', us, attemptSchemas_cons_ok_iff.mpr ⟨_, _, _, hone, hr, rfl⟩,
            attemptSchemas_cons_ok_iff.mpr ⟨_, _, _, hshown, hd, rfl⟩, ?_, ?_, hrest⟩
          · rw [List.map_cons, List.map_cons, hverdict]
          · rw [attemptPreviews, List.map_cons, List.flatMap_cons]
            rw [attemptPreviews] at hpreview
            rw [hpreview]
            rfl
        · exact .inr ⟨f, w', attemptSchemas_cons_error_iff.mpr (.inr ⟨_, _, hone, hr⟩),
            attemptSchemas_cons_error_iff.mpr (.inr ⟨_, _, hshown, hd⟩)⟩
      · have hne : ∀ q, f ≠ .refused q := fun q hq => hrefused ⟨q, hq⟩
        have hone := attempt_error_iff.mpr ⟨hrun, hne⟩
        have hshown := attempt_error_iff.mpr ⟨hdry, hne⟩
        exact .inr ⟨f, w, attemptSchemas_cons_error_iff.mpr (.inl hone),
          attemptSchemas_cons_error_iff.mpr (.inl hshown)⟩

/-! ## Tools that emit artifacts -/

/-- A schema is previewed. -/
theorem createSchema_agree (hreal : ctx.dryRun = false) {input : EntityInput} {w : World}
    (hw : ∀ e ∈ emissions ctx (.createSchema input) w, Writable ctx e.1 e.2) (v : World) :
    Agree ctx (.createSchema input) w v (Previewed ctx (.createSchema input) w) := by
  rcases writeSchema_both hreal hw v with
    ⟨e, schema, data, w₁, w', ws, hrun, hdry, hemit, hstored⟩ | ⟨f, hrun, hdry, -⟩
  · have hr : (handle ctx (.createSchema input)).run w = (.ok (schemaOutcome ctx e data), w') := by
      rw [handle, createSchema_run, hrun]
    have hd : (handle ctx.dry (.createSchema input)).run v = (.ok (schemaOutcome ctx.dry e
        (schemaData e (previewData schema.model) (previewData schema.shapes))), v) := by
      rw [handle, createSchema_run, hdry]
    have hlist : emissions ctx (.createSchema input) w
        = [(schema.model, w), (schema.shapes, w₁)] := hemit
    refine .done hr hd ⟨⟨rfl, rfl, rfl⟩, rfl, ?_, ?_⟩
    · rw [hlist]
      rfl
    · rw [hlist]
      exact ⟨ws, hstored⟩
  · have hr : (handle ctx (.createSchema input)).run w = (.error f, w) := by
      rw [handle, createSchema_run, hrun]
    have hd : (handle ctx.dry (.createSchema input)).run v = (.error f, v) := by
      rw [handle, createSchema_run, hdry]
    exact .failed hr hd

/-- What several attempts teach depends on their verdicts alone. -/
theorem schemasOutcome_of_verdict {attempts shown : List SchemaAttempt}
    (h : attempts.map SchemaAttempt.verdict = shown.map SchemaAttempt.verdict) :
    (schemasOutcome attempts).SameLesson (schemasOutcome shown) ∧
      (schemasOutcome attempts).ok = (schemasOutcome shown).ok := by
  have hwritten : ∀ as : List SchemaAttempt, as.filterMap SchemaAttempt.entity?
      = (as.map SchemaAttempt.verdict).filterMap Prod.snd := by
    intro as
    rw [List.filterMap_map]
    rfl
  have hfailed : ∀ as : List SchemaAttempt, (as.filter fun a => a.entity?.isNone).map (·.label)
      = ((as.map SchemaAttempt.verdict).filter fun p => p.2.isNone).map Prod.fst := by
    intro as
    rw [List.filter_map, List.map_map]
    rfl
  have hdefined : (schemasOutcome attempts).defined = (schemasOutcome shown).defined := by
    change attempts.filterMap SchemaAttempt.entity? = shown.filterMap SchemaAttempt.entity?
    rw [hwritten, hwritten, h]
  refine ⟨⟨rfl, hdefined, ?_⟩, ?_⟩
  · exact congrArg (List.map fun e => (e.name, Stage.schemaWritten)) hdefined
  · change List.isEmpty _ = List.isEmpty _
    rw [hfailed, hfailed, h]

/-- Several schemas are previewed. -/
theorem createMultipleSchemas_agree (hreal : ctx.dryRun = false) {inputs : List EntityInput}
    {w : World} (hw : ∀ e ∈ emissions ctx (.createMultipleSchemas inputs) w, Writable ctx e.1 e.2)
    (v : World) :
    Agree ctx (.createMultipleSchemas inputs) w v
      (Previewed ctx (.createMultipleSchemas inputs) w) := by
  rcases attemptSchemas_both hreal hw v with
    ⟨attempts, shown, w', ws, hrun, hdry, hverdict, hpreview, hstored⟩ | ⟨f, w', hrun, hdry⟩
  · obtain ⟨hlesson, hok⟩ := schemasOutcome_of_verdict hverdict
    have hr : (handle ctx (.createMultipleSchemas inputs)).run w
        = (.ok (schemasOutcome attempts), w') := by
      rw [handle, createMultipleSchemas_run, hrun]
    have hd : (handle ctx.dry (.createMultipleSchemas inputs)).run v
        = (.ok (schemasOutcome shown), v) := by
      rw [handle, createMultipleSchemas_run, hdry]
    exact .done hr hd ⟨hlesson, hok, hpreview, ws, hstored⟩
  · have hr : (handle ctx (.createMultipleSchemas inputs)).run w = (.error f, w') := by
      rw [handle, createMultipleSchemas_run, hrun]
    have hd : (handle ctx.dry (.createMultipleSchemas inputs)).run v = (.error f, v) := by
      rw [handle, createMultipleSchemas_run, hdry]
    exact .failed hr hd

/-- Where a computation that can be refused succeeds, what comes after it goes on. -/
theorem run_ofRefusal_bind {α β : Type} {r : Except Refusal α} {x : α} (h : r = .ok x)
    (k : α → Action β) (w : World) : (Action.ofRefusal r >>= k).run w = (k x).run w := by
  rw [Effect.run_bind, Action.ofRefusal_ok_iff.mpr ⟨h, rfl⟩]

/-- Where a computation that can be refused is refused, nothing comes after it. -/
theorem run_ofRefusal_bind_error {α β : Type} {r : Except Refusal α} {q : Refusal}
    (h : r = .error q) (k : α → Action β) (w : World) :
    (Action.ofRefusal r >>= k).run w = (.error (.refused q), w) := by
  rw [Effect.run_bind, Action.ofRefusal_error_iff.mpr ⟨⟨q, h, rfl⟩, rfl⟩]

/-- A tool whose work is to emit one artifact and to tell of it is previewed. -/
theorem agree_of_artifact (hreal : ctx.dryRun = false) {input : ToolInput} {a : Artifact}
    {w v : World} (tell : Members → Outcome)
    (hrun : (handle ctx input).run w = (emit ctx a >>= fun data => pure (tell data)).run w)
    (hdry : (handle ctx.dry input).run v
      = (emit ctx.dry a >>= fun data => pure (tell data)).run v)
    (hemit : emissions ctx input w = [(a, w)])
    (hw : ∀ e ∈ emissions ctx input w, Writable ctx e.1 e.2)
    (hlesson : ∀ data data', (tell data).SameLesson (tell data') ∧ (tell data).ok = (tell data').ok)
    (hshown : (tell (previewData a)).previews = [a.shown]) :
    Agree ctx input w v (Previewed ctx input w) := by
  obtain ⟨r, t, hr⟩ := hw (a, w) (by rw [hemit]; exact List.mem_singleton_self _)
  have hstored := Project.writeAll_singleton hr
  have htold : (handle ctx input).run w = (.ok (tell (writtenData r)), { w with tree := t }) := by
    rw [hrun, Effect.run_bind, emit_run_of_write hreal hr]
    rfl
  have hshow : (handle ctx.dry input).run v = (.ok (tell (previewData a)), v) := by
    rw [hdry, Effect.run_bind, emit_dry_run]
    rfl
  obtain ⟨hl, hok⟩ := hlesson (writtenData r) (previewData a)
  refine .done htold hshow ⟨hl, hok, ?_, ?_⟩
  · rw [hemit, hshown]
    rfl
  · rw [hemit]
    exact ⟨[r], hstored⟩

/-- What comes of an endpoint that was emitted. -/
def endpointOutcome (name : Text) (route : Option Text) (data : Members) : Outcome :=
  let mounted := Route.path name route
  { Outcome.success ("Endpoint for '" ++ name ++ "' at " ++ mounted)
      (data.put "route" (.str mounted)) with
    completed := [(name, .endpointWritten)] }

/-- An endpoint is previewed. -/
theorem createApiEndpoint_agree (hreal : ctx.dryRun = false) {label : Text} {methods : List Text}
    {route : Option Text} {w : World}
    (hw : ∀ e ∈ emissions ctx (.createApiEndpoint label methods route) w, Writable ctx e.1 e.2)
    (v : World) :
    Agree ctx (.createApiEndpoint label methods route) w v
      (Previewed ctx (.createApiEndpoint label methods route) w) := by
  cases hpre : requirePrerequisite ctx (Naming.canonical label) .schema with
  | error q =>
    exact .failed (run_ofRefusal_bind_error hpre _ w) (run_ofRefusal_bind_error hpre _ v)
  | ok u =>
    have hhas : ctx.state.has (Naming.canonical label) .schemaWritten = true :=
      requirePrerequisite_ok_iff.mp hpre
    cases hc : compileEndpoint (Naming.canonical label) (methods.map .str) route with
    | error q =>
      exact .failed ((run_ofRefusal_bind hpre _ w).trans (run_ofRefusal_bind_error hc _ w))
        ((run_ofRefusal_bind hpre _ v).trans (run_ofRefusal_bind_error hc _ v))
    | ok a =>
      have hemit : emissions ctx (.createApiEndpoint label methods route) w = [(a, w)] := by
        change (artifact? ctx _).toList.map _ = _
        rw [artifact?, if_pos hhas, hc]
        rfl
      refine agree_of_artifact hreal (endpointOutcome (Naming.canonical label) route) ?_ ?_ hemit hw
        (fun _ _ => ⟨⟨rfl, rfl, rfl⟩, rfl⟩) rfl
      · exact (run_ofRefusal_bind hpre _ w).trans (run_ofRefusal_bind hc _ w)
      · exact (run_ofRefusal_bind hpre _ v).trans (run_ofRefusal_bind hc _ v)

/-- What comes of a hook that was emitted. -/
def hookOutcome (name : Text) (data : Members) : Outcome :=
  let hook := (Names.ofLabel name).hookName
  { Outcome.success ("Hook " ++ hook ++ " for '" ++ name ++ "'")
      (data.put "hook" (.str hook)) with
    completed := [(name, .hookWritten)] }

/-- A hook is previewed. -/
theorem createApiClientHook_agree (hreal : ctx.dryRun = false) {label : Text} {route : Option Text}
    {w : World} (hw : ∀ e ∈ emissions ctx (.createApiClientHook label route) w,
      Writable ctx e.1 e.2) (v : World) :
    Agree ctx (.createApiClientHook label route) w v
      (Previewed ctx (.createApiClientHook label route) w) := by
  cases hpre : requirePrerequisite ctx (Naming.canonical label) .endpoint with
  | error q =>
    exact .failed (run_ofRefusal_bind_error hpre _ w) (run_ofRefusal_bind_error hpre _ v)
  | ok u =>
    have hhas : ctx.state.has (Naming.canonical label) .endpointWritten = true :=
      requirePrerequisite_ok_iff.mp hpre
    have hemit : emissions ctx (.createApiClientHook label route) w
        = [(compileHook (Naming.canonical label) route, w)] := by
      change (artifact? ctx _).toList.map _ = _
      rw [artifact?, if_pos hhas]
      rfl
    exact agree_of_artifact hreal (hookOutcome (Naming.canonical label))
      (run_ofRefusal_bind hpre _ w) (run_ofRefusal_bind hpre _ v) hemit hw
      (fun _ _ => ⟨⟨rfl, rfl, rfl⟩, rfl⟩) rfl

/-- What comes of sample rows that were emitted. -/
def seedOutcome (name : Text) (rows : List Members) (data : Members) : Outcome :=
  Outcome.success
    ("Seed module for '" ++ name ++ "' with " ++ Text.ofNat rows.length ++ " row(s)")
    ((data.put "rows" (.int rows.length)).put "run" (.str ("python -m app.seeds." ++ name)))

/-- Sample rows are previewed. -/
theorem seedDatabase_agree (hreal : ctx.dryRun = false) {label : Text} {rows : List Members}
    {w : World} (hw : ∀ e ∈ emissions ctx (.seedDatabase label rows) w, Writable ctx e.1 e.2)
    (v : World) :
    Agree ctx (.seedDatabase label rows) w v (Previewed ctx (.seedDatabase label rows) w) := by
  cases hpre : requirePrerequisite ctx (Naming.canonical label) .schema with
  | error q =>
    exact .failed (run_ofRefusal_bind_error hpre _ w) (run_ofRefusal_bind_error hpre _ v)
  | ok u =>
    have hhas : ctx.state.has (Naming.canonical label) .schemaWritten = true :=
      requirePrerequisite_ok_iff.mp hpre
    have hprec : ∀ c : ToolContext, c.state = ctx.state →
        requirePrerequisite c (Naming.canonical label) .schema = .ok () := by
      intro c hc
      rw [requirePrerequisite, hc]
      exact hpre
    cases hget : ctx.state.get? (Naming.canonical label) with
    | none =>
      have hfail : ∀ c : ToolContext, c.state = ctx.state → ∀ u,
          (handle c (.seedDatabase label rows)).run u
          = (.error (.refused (.missingPrerequisite .schema (Naming.canonical label))), u) := by
        intro c hc u
        refine (run_ofRefusal_bind (hprec c hc) _ u).trans ?_
        rw [hc, hget]
        rfl
      exact .failed (hfail ctx rfl w) (hfail ctx.dry rfl v)
    | some p =>
      -- what follows the prerequisite is the same in both, but for the emission
      have hrest : ∀ c : ToolContext, c.state = ctx.state → ∀ u,
          (handle c (.seedDatabase label rows)).run u
          = (Action.ofRefusal (p.entity.compileSeed rows) >>= fun a => emit c a >>= fun data =>
              pure (seedOutcome (Naming.canonical label) rows data)).run u := by
        intro c hc u
        refine (run_ofRefusal_bind (hprec c hc) _ u).trans ?_
        rw [hc, hget]
        rfl
      cases hc : p.entity.compileSeed rows with
      | error q =>
        exact .failed ((hrest ctx rfl w).trans (run_ofRefusal_bind_error hc _ w))
          ((hrest ctx.dry rfl v).trans (run_ofRefusal_bind_error hc _ v))
      | ok a =>
        have hemit : emissions ctx (.seedDatabase label rows) w = [(a, w)] := by
          change (artifact? ctx _).toList.map _ = _
          rw [artifact?, if_pos hhas, hget, Option.bind_some, hc]
          rfl
        refine agree_of_artifact hreal (seedOutcome (Naming.canonical label) rows) ?_ ?_ hemit hw
          (fun _ _ => ⟨⟨rfl, rfl, rfl⟩, rfl⟩) rfl
        · exact (hrest ctx rfl w).trans (run_ofRefusal_bind hc _ w)
        · exact (hrest ctx.dry rfl v).trans (run_ofRefusal_bind hc _ v)

/-- **Previews.** A tool that emits artifacts, all of which can be written, is previewed by its dry
run in whatever world. -/
theorem emits_agree (hreal : ctx.dryRun = false) {input : ToolInput} (hemits : input.emits = true)
    {w : World} (hw : ∀ a w₁, ComesToEmit ctx input w a w₁ → Writable ctx a w₁) (v : World) :
    Agree ctx input w v (Previewed ctx input w) := by
  have hlist : ∀ e ∈ emissions ctx input w, Writable ctx e.1 e.2 := by
    rintro ⟨a, w₁⟩ he
    exact hw a w₁ (mem_emissions_iff.mp he)
  cases input with
  | createSchema input => exact createSchema_agree hreal hlist v
  | createMultipleSchemas inputs => exact createMultipleSchemas_agree hreal hlist v
  | createApiEndpoint label methods route => exact createApiEndpoint_agree hreal hlist v
  | createApiClientHook label route => exact createApiClientHook_agree hreal hlist v
  | seedDatabase label rows => exact seedDatabase_agree hreal hlist v
  | listFiles _ | readFile _ | writeFile _ _ | editFile _ _ _ | analyzeRequest _ | analyzeSchema _
  | generateMigration _ | runMigration => cases hemits

/-! ## Migrations -/

/-- A command that came to something teaches the same whatever its process wrote. -/
theorem commandOutcome_sameLesson (input : ToolInput) (data data' : Members) :
    (commandOutcome ctx input data).SameLesson (commandOutcome ctx.dry input data') := by
  cases input <;> exact ⟨rfl, rfl, rfl⟩

theorem neededCommand_dry (input : ToolInput) :
    neededCommand ctx.dry input = neededCommand ctx input := by
  cases input <;> rfl

/-- A tool that needs a command teaches the same in a real run and in a dry one, where its process is
started and ends well. -/
theorem agree_of_needed (hreal : ctx.dryRun = false) {input : ToolInput} {u : NeededCommand}
    (hneed : neededCommand ctx input = some u) {w : World} (hs : Smooth ctx input w) (v : World) :
    Agree ctx input w v fun o _ o' => o.SameLesson o' := by
  have hrun := handle_of_needed hneed
  have hshow := handle_of_needed ((neededCommand_dry input).trans hneed)
  cases hwords : u.words with
  | error f =>
    have hfail : (handle ctx input).run w = (.error f, w) := by
      rw [hrun, Effect.bind_pure_error_iff]
      exact runMigrationCommand_run_of_error hwords w
    have hfailed : (handle ctx.dry input).run v = (.error f, v) := by
      rw [hshow, Effect.bind_pure_error_iff]
      exact runMigrationCommand_run_of_error hwords v
    exact .failed hfail hfailed
  | ok words =>
    obtain ⟨q, hq, hcomes⟩ :=
      runMigrationCommand_run hreal hwords (hs.started u words hneed hwords) w
    obtain ⟨stdout, stderr, hend⟩ := hs.ended u words hneed hwords
    rw [hend] at hcomes
    cases hcomes with
    | failed hbad => exact absurd rfl (hbad stdout stderr)
    | @done _ _ data =>
      have hdone : (handle ctx input).run w
          = (.ok (commandOutcome ctx input data), w.start (process ctx words)) := by
        rw [hrun]
        exact Effect.bind_ok_iff.mpr ⟨data, _, hq, rfl⟩
      have hshown : (handle ctx.dry input).run v
          = (.ok (commandOutcome ctx.dry input (commandPreview words)), v) := by
        rw [hshow]
        exact Effect.bind_ok_iff.mpr ⟨_, v, runMigrationCommand_dry_run rfl hwords v, rfl⟩
      exact .done hdone hshown (commandOutcome_sameLesson input _ _)

/-- A generated migration teaches the same in both runs. -/
theorem generateMigration_agree (hreal : ctx.dryRun = false) {label : Option Text} {w : World}
    (hs : Smooth ctx (.generateMigration label) w) (v : World) :
    Agree ctx (.generateMigration label) w v fun o _ o' => o.SameLesson o' := by
  by_cases hready : (ctx.state.withStage .schemaWritten).isEmpty = true
  · have hfail : ∀ c : ToolContext, c.state = ctx.state → ∀ u,
        (handle c (.generateMigration label)).run u = (.error (.refused .nothingToMigrate), u) := by
      intro c hc u
      rw [handle, generateMigration, hc]
      dsimp only
      rw [if_pos hready]
      rfl
    exact .failed (hfail ctx rfl w) (hfail ctx.dry rfl v)
  · exact agree_of_needed hreal (neededCommand_generateMigration hready) hs v

/-- Applied migrations teach the same in both runs. -/
theorem runMigration_agree (hreal : ctx.dryRun = false) {w : World}
    (hs : Smooth ctx .runMigration w) (v : World) :
    Agree ctx .runMigration w v fun o _ o' => o.SameLesson o' := by
  by_cases hready : (ctx.state.withStage .migrationGenerated).isEmpty = true
  · have hfail : ∀ c : ToolContext, c.state = ctx.state → ∀ u,
        (handle c .runMigration).run u = (.error (.refused .nothingToApply), u) := by
      intro c hc u
      rw [handle, runMigration, hc]
      dsimp only
      rw [if_pos hready]
      rfl
    exact .failed (hfail ctx rfl w) (hfail ctx.dry rfl v)
  · exact agree_of_needed hreal (neededCommand_runMigration hready) hs v

/-! ## All tools -/

/-- **Two calls of one tool.** A tool a run learns from teaches the same in a real run that meets no
failed write and no failed process and in a dry run, in whatever worlds the two are. -/
theorem handle_agree (hreal : ctx.dryRun = false) {input : ToolInput} (hidle : input.isIdle = false)
    {w : World} (hs : Smooth ctx input w) (v : World) :
    Agree ctx input w v fun o _ o' => o.SameLesson o' := by
  cases input with
  | analyzeRequest request => exact .done rfl rfl ⟨rfl, rfl, rfl⟩
  | generateMigration label => exact generateMigration_agree hreal hs v
  | runMigration => exact runMigration_agree hreal hs v
  | createSchema _ | createMultipleSchemas _ | createApiEndpoint _ _ _ | createApiClientHook _ _ =>
    exact (emits_agree hreal rfl hs.writable v).mono fun _ _ _ h => h.lesson
  | listFiles _ | readFile _ | writeFile _ _ | editFile _ _ _ | analyzeSchema _
  | seedDatabase _ _ => cases hidle

end Tool

end Tablewright
