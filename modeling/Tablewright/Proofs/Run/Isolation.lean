/-
When one of several schemas fails, the others are not affected: how far that is so.

`alone` says what comes of each given entity on its own, written in the world that the ones before
it left, whatever became of those. A call is `Isolated` when it comes out as these tell: a row for
each given entity, a failure exactly where its own schema was not written, and the written ones
tracked as they were given. `isolated_iff` says when that is the case: an attempt answers refusals
only, so no write may fail in any other way. `not_isolated_at_directory` is a call in which one
does, and the entity before it loses its stage while its files stay.
-/
import Tablewright.Proofs.Run.Course
import Tablewright.Proofs.Tool.Emission

set_option autoImplicit false

namespace Tablewright

namespace Tool

variable {ctx : ToolContext}

/-! ## Each entity on its own -/

/-- A given entity with what came of writing its schema. -/
abbrev Trial := EntityInput × Except Failure (Entity × Members)

/-- What comes of each given entity on its own: its schema is written in the world that the ones
before it left, whatever became of them. -/
def alone (ctx : ToolContext) : List EntityInput → World → List Trial
  | [], _ => []
  | input :: rest, w =>
    (input, ((writeSchema ctx input).run w).1) :: alone ctx rest ((writeSchema ctx input).run w).2

/-- The world that is left when each given entity was tried on its own. -/
def leave (ctx : ToolContext) : List EntityInput → World → World
  | [], w => w
  | input :: rest, w => leave ctx rest ((writeSchema ctx input).run w).2

/-- The entity of a trial that succeeded. -/
def Trial.written? (p : Trial) : Option Entity :=
  match p.2 with
  | .ok (e, _) => some e
  | .error _ => none

/-- A row shows what came of a given entity: a success under the name of the entity, or a failure
under its label, with the message and the kind of its refusal. -/
inductive Shows : Trial → Json → Prop
  | success {input : EntityInput} {e : Entity} {data : Members} {row : Json}
      (hs : row.asMembers.get? "success" = some (.bool true))
      (hn : row.asMembers.get? "entity" = some (.str e.name)) : Shows (input, .ok (e, data)) row
  | failure {input : EntityInput} {f : Failure} {row : Json}
      (hs : row.asMembers.get? "success" = some (.bool false))
      (hn : row.asMembers.get? "entity" = some (.str input.name))
      (hr : ∀ r, f = .refused r → row.asMembers.get? "error" = some (.str r.message) ∧
        row.asMembers.get? "kind" = some (.str r.kind.label)) : Shows (input, .error f) row

/-- An attempt records what came of its entity, where that is a success or a refusal. -/
inductive Recorded : Trial → SchemaAttempt → Prop
  | written {input : EntityInput} {e : Entity} {data : Members} (hb : input.build = .ok e)
      (hdata : ∃ model shapes, data = schemaData e model shapes) :
      Recorded (input, .ok (e, data)) ⟨input.name, .ok (e, data)⟩
  | refused {input : EntityInput} {r : Refusal} :
      Recorded (input, .error (.refused r)) ⟨input.name, .error r⟩

/-- Several attempts that are all answered record what came of each entity on its own. -/
theorem attemptSchemas_recorded {inputs : List EntityInput} {attempts : List SchemaAttempt}
    {w w' : World} (h : (attemptSchemas ctx inputs).run w = (.ok attempts, w')) :
    w' = leave ctx inputs w ∧ List.Forall₂ Recorded (alone ctx inputs w) attempts := by
  induction inputs generalizing attempts w with
  | nil =>
    obtain ⟨rfl, rfl⟩ := Effect.pure_ok_iff.mp h
    exact ⟨rfl, .nil⟩
  | cons input rest ih =>
    obtain ⟨result, w₁, others, hr, ho, rfl⟩ := attemptSchemas_cons_ok_iff.mp h
    rw [alone, leave]
    rcases attempt_ok_iff.mp hr with ⟨⟨e, data⟩, rfl, hrun⟩ | ⟨r, rfl, hrun⟩
    · obtain ⟨_, model, shapes, _, hb, -, -, -, hdata⟩ := writeSchema_ok_iff.mp hrun
      rw [hrun]
      obtain ⟨hw, hforall⟩ := ih ho
      exact ⟨hw, .cons (.written hb ⟨model, shapes, hdata⟩) hforall⟩
    · rw [hrun]
      obtain ⟨hw, hforall⟩ := ih ho
      exact ⟨hw, .cons .refused hforall⟩

/-- The entities of attempts are those of the trials they record. -/
theorem written_of_recorded {trials : List Trial} {attempts : List SchemaAttempt}
    (h : List.Forall₂ Recorded trials attempts) :
    attempts.filterMap SchemaAttempt.entity? = trials.filterMap Trial.written? := by
  induction h with
  | nil => rfl
  | cons hrecord _ ih =>
    rw [List.filterMap_cons, List.filterMap_cons, ih]
    cases hrecord <;> rfl

/-- An entity that was written is the given one. -/
theorem built_of_recorded {trials : List Trial} {attempts : List SchemaAttempt}
    (h : List.Forall₂ Recorded trials attempts) {input : EntityInput} {e : Entity} {data : Members}
    (hmem : (input, .ok (e, data)) ∈ trials) : input.build = .ok e := by
  induction h with
  | nil => cases hmem
  | cons hrecord _ ih =>
    rcases List.mem_cons.mp hmem with hhead | htail
    · subst hhead
      cases hrecord with
      | written hb => exact hb
    · exact ih htail

/-- The row of an attempt shows the trial it records. -/
theorem Recorded.shows {p : Trial} {a : SchemaAttempt} (h : Recorded p a) : Shows p a.toJson := by
  cases h with
  | @written input e data hb hdata =>
    obtain ⟨model, shapes, rfl⟩ := hdata
    have hfor : AttemptFor input ⟨input.name, .ok (e, schemaData e model shapes)⟩ := by
      refine ⟨rfl, fun e' data' heq => ?_⟩
      cases heq
      exact ⟨hb, model, shapes, rfl⟩
    obtain ⟨hs, hn⟩ := (SchemaAttempt.toJson_success_iff hfor e.name).mpr ⟨e, rfl, rfl⟩
    exact .success hs hn
  | refused =>
    refine .failure rfl rfl fun r hr => ?_
    cases hr
    exact ⟨rfl, rfl⟩

/-! ## Isolated calls -/

/-- A call comes out as its entities do on their own. -/
structure IsolatedBy (st : WorkflowState) (trials : List Trial) (o : Outcome) (st' : WorkflowState) :
    Prop where
  /-- Every given entity has its row, in order. -/
  rows : List.Forall₂ Shows trials (o.data.items "results")
  /-- An entity whose files were written has its schema stage, and it is tracked as it was given,
  unless another one was written under its name after it. -/
  tracked : ∀ before input e data after, trials = before ++ (input, .ok (e, data)) :: after →
    input.build = .ok e ∧ st'.has e.name .schemaWritten = true ∧
      ((∀ p ∈ after, ∀ e', Trial.written? p = some e' → e'.name ≠ e.name) →
        st'.spec? e.name = some e)
  /-- Nothing changes under a name for which no files were written. -/
  others : ∀ n, (∀ p ∈ trials, ∀ e, Trial.written? p = some e → e.name ≠ n) →
    st'.get? n = st.get? n

/-- What several attempts come to isolates the entities from each other. -/
theorem isolatedBy_of_recorded {trials : List Trial} {attempts : List SchemaAttempt}
    (h : List.Forall₂ Recorded trials attempts) {st st' : WorkflowState}
    (happly : (schemasOutcome attempts).apply st = .ok st') :
    IsolatedBy st trials (schemasOutcome attempts) st' := by
  have hwritten := written_of_recorded h
  have happly' : (st.defineAll (attempts.filterMap SchemaAttempt.entity?)).completeAll
      ((attempts.filterMap SchemaAttempt.entity?).map fun e => (e.name, .schemaWritten))
        = .ok st' := happly
  rw [hwritten] at happly'
  constructor
  · change List.Forall₂ Shows trials (attempts.map SchemaAttempt.toJson)
    clear hwritten happly happly'
    induction h with
    | nil => exact .nil
    | cons hrecord _ ih => exact .cons hrecord.shows ih
  · rintro before input e data after rfl
    have hsplit : (before ++ (input, .ok (e, data)) :: after).filterMap Trial.written?
        = before.filterMap Trial.written? ++ e :: after.filterMap Trial.written? := by
      rw [List.filterMap_append, List.filterMap_cons]
      rfl
    rw [hsplit] at happly'
    refine ⟨built_of_recorded h (List.mem_append_right before List.mem_cons_self), ?_, ?_⟩
    · refine (WorkflowState.has_completeAll_iff happly' e.name .schemaWritten).mpr (.inr ?_)
      exact List.mem_map.mpr ⟨e, List.mem_append_right _ List.mem_cons_self, rfl⟩
    · intro hlast
      rw [(WorkflowState.get?_completeAll happly' e.name).2]
      refine WorkflowState.spec?_defineAll st fun e' he' => ?_
      obtain ⟨p, hp, hw⟩ := List.mem_filterMap.mp he'
      exact hlast p hp e' hw
  · intro n hn
    have hne : ∀ e ∈ trials.filterMap Trial.written?, e.name ≠ n := by
      intro e he
      obtain ⟨p, hp, hw⟩ := List.mem_filterMap.mp he
      exact hn p hp e hw
    have hcomplete := (WorkflowState.get?_completeAll happly' n).1 fun c hc heq => by
      obtain ⟨e, he, rfl⟩ := List.mem_map.mp hc
      exact hne e he heq.symm
    rw [hcomplete, WorkflowState.get?_defineAll_of_ne st hne]

/-- **Several schemas.** All attempts are answered exactly when no artifact that comes to be emitted
fails but by a refusal. -/
theorem attemptSchemas_ok_iff {inputs : List EntityInput} {w : World} :
    (∃ attempts w', (attemptSchemas ctx inputs).run w = (.ok attempts, w')) ↔
      ∀ a w₁ f w₂, ComesToEmit ctx (.createMultipleSchemas inputs) w a w₁ →
        (emit ctx a).run w₁ = (.error f, w₂) → ∃ r, f = .refused r := by
  constructor
  · rintro ⟨attempts, w', hok⟩ a w₁ f w₂ hcome hemit
    by_contra hnot
    have hne : ∀ q, f ≠ .refused q := fun q hq => hnot ⟨q, hq⟩
    cases hcome with
    | @several before after input _ _ _ _ _ hbefore hone =>
      have hfail : (attemptSchemas ctx (before ++ input :: after)).run w = (.error f, w₂) :=
        attemptSchemas_error_iff.mpr ⟨hne, _, _, _, _, _, rfl, hbefore,
          (writeSchema_error_iff_emit hne).mpr ⟨a, w₁, hone, hemit⟩⟩
      rw [hok] at hfail
      cases hfail
  · intro hrefused
    rcases hrun : (attemptSchemas ctx inputs).run w with ⟨f | attempts, w'⟩
    · obtain ⟨hne, before, input, after, attempts, w₁, rfl, hbefore, hone⟩ :=
        attemptSchemas_error_iff.mp hrun
      obtain ⟨a, w₂, hcome, hemit⟩ := (writeSchema_error_iff_emit hne).mp hone
      obtain ⟨r, hr⟩ := hrefused a w₂ f w' (.several hbefore hcome) hemit
      exact absurd hr (hne r)
    · exact ⟨attempts, w', rfl⟩

end Tool

namespace Run

open Tool (Trial)

/-- The entities that are given in the arguments of a call. -/
def givenEntities (arguments : Members) : List EntityInput :=
  (arguments.items "entities").map fun v => EntityInput.ofMembers v.asMembers

/-- A call that writes several schemas isolates them from each other: it is carried out, and it
comes out as each of the given entities does on its own. -/
def Isolated (cfg : RunConfig) (call : ToolCall) (st : WorkflowState) (n : Nat) (w : World)
    (inputs : List EntityInput) : Prop :=
  ∃ o done w', (Tool.handle (cfg.context st) (.createMultipleSchemas inputs)).run w = (.ok o, w') ∧
    (executeTool cfg call st n).run w = (.ok done, w') ∧
    done.observation = truncateObservation cfg.maxObservation o.observation ∧
    w' = Tool.leave (cfg.context st) inputs w ∧
    Tool.IsolatedBy st (Tool.alone (cfg.context st) inputs w) o done.state

/-- **Isolation of several schemas.** A call that writes several schemas isolates them from each
other exactly when every artifact it comes to emit is written or refused. One that fails in another
way, by an error of the file system, a circle of links or a text without an encoding, is not
answered as a row, and nothing is learnt from the call. -/
theorem isolated_iff {cfg : RunConfig} {call : ToolCall} {arguments : Members}
    (hfind : findTool call.name = .ok .createMultipleSchemas)
    (hparse : ToolName.createMultipleSchemas.parse call.arguments = .ok arguments)
    (st : WorkflowState) (n : Nat) (w : World) :
    Isolated cfg call st n w (givenEntities arguments) ↔
      ∀ a w₁ f w₂, Tool.ComesToEmit (cfg.context st)
          (.createMultipleSchemas (givenEntities arguments)) w a w₁ →
        (Tool.emit (cfg.context st) a).run w₁ = (.error f, w₂) → ∃ r, f = .refused r := by
  rw [← Tool.attemptSchemas_ok_iff]
  constructor
  · rintro ⟨o, done, w', hhandle, -⟩
    rw [Tool.handle, Tool.createMultipleSchemas_run] at hhandle
    rcases hrun : (Tool.attemptSchemas (cfg.context st) (givenEntities arguments)).run w with
      ⟨f | attempts, w₁⟩
    · rw [hrun] at hhandle
      cases hhandle
    · exact ⟨attempts, w₁, rfl⟩
  · rintro ⟨attempts, w', hrun⟩
    obtain ⟨hw, hrecorded⟩ := Tool.attemptSchemas_recorded hrun
    have hhandle : (Tool.handle (cfg.context st)
        (.createMultipleSchemas (givenEntities arguments))).run w
          = (.ok (Tool.schemasOutcome attempts), w') := by
      rw [Tool.handle, Tool.createMultipleSchemas_run, hrun]
    obtain ⟨st', happly⟩ := (Tool.handle_lesson hhandle).apply_ok
    have happly' : (Tool.schemasOutcome attempts).apply st = .ok st' := happly
    have hperform : (performCall cfg call st).run w
        = (.ok (arguments, Tool.schemasOutcome attempts), w') :=
      performCall_ok_iff.mpr ⟨_, hfind, hparse, hhandle⟩
    -- the outcome can be folded in, so the call is carried out
    obtain ⟨done, hdone⟩ : ∃ done, finishedCall cfg call st n arguments
        (Tool.schemasOutcome attempts) = .ok done :=
      ⟨_, finishedCall_ok_iff.mpr ⟨st', happly', rfl⟩⟩
    have hexecute : (executeTool cfg call st n).run w = (.ok done, w') := by
      rw [executeTool_run, hperform]
      dsimp only
      rw [hdone]
    obtain ⟨next, hnext, hdone'⟩ := finishedCall_ok_iff.mp hdone
    obtain rfl : st' = next := Except.ok.inj (happly'.symm.trans hnext)
    refine ⟨_, done, w', hhandle, hexecute, ?_, hw, ?_⟩
    · rw [hdone']
    · rw [hdone']
      exact Tool.isolatedBy_of_recorded hrecorded happly'

/-- A call to write the schemas of two entities, of which the second one has a field with the name
of a reserved word. -/
def reservedWordCall : ToolCall :=
  { id := .str "call_1", name := .str "create_multiple_schemas"
    arguments := .str ("\x7b\"entities\":[\x7b\"name\":\"a\"\x7d,\x7b\"name\":\"b\",\"fields\":["
      ++ "\x7b\"name\":\"class\",\"kind\":\"integer\"\x7d]\x7d]\x7d") }

/-- In an empty file system the refused entity of that call does not affect the other one. -/
theorem isolated_at_reserved_word : ∃ arguments,
    findTool reservedWordCall.name = .ok .createMultipleSchemas ∧
      ToolName.createMultipleSchemas.parse reservedWordCall.arguments = .ok arguments ∧
      (givenEntities arguments).map (fun input => input.build.toBool) = [true, false] ∧
      Isolated (.single false) reservedWordCall .empty 1 .bare (givenEntities arguments) := by
  have hread : (ToolName.createMultipleSchemas.parse reservedWordCall.arguments).toOption.map
      givenEntities = some [⟨"a", "", []⟩, ⟨"b", "", [⟨"class", "integer", []⟩]⟩] := by
    decide +kernel
  have hbuilt : [(⟨"a", "", []⟩ : EntityInput), ⟨"b", "", [⟨"class", "integer", []⟩]⟩].map
      (fun input => input.build.toBool) = [true, false] := by decide +kernel
  have hemits : ((Tool.emissions ((RunConfig.single false).context .empty)
      (.createMultipleSchemas [⟨"a", "", []⟩, ⟨"b", "", [⟨"class", "integer", []⟩]⟩]) .bare).all
        fun p => ((Tool.emit ((RunConfig.single false).context .empty) p.1).run p.2).1.toBool)
          = true := by decide +kernel
  obtain ⟨arguments, hparse, hgiven⟩ := Effect.result_ok_of_map hread
  refine ⟨arguments, rfl, hparse, hgiven ▸ hbuilt, (isolated_iff rfl hparse .empty 1 .bare).mpr ?_⟩
  rw [hgiven]
  intro a w₁ f w₂ hcome hemit
  have hok := List.all_eq_true.mp hemits (a, w₁) (Tool.mem_emissions_iff.mpr hcome)
  dsimp only at hok
  rw [hemit] at hok
  cases hok

/-- A call to write the schemas of two entities. -/
def twoSchemasCall : ToolCall :=
  { id := .str "call_1", name := .str "create_multiple_schemas"
    arguments :=
      .str "\x7b\"entities\":[\x7b\"name\":\"a\"\x7d,\x7b\"name\":\"b\"\x7d]\x7d" }

/-- A world in which a directory stands where the model of the second entity belongs. -/
def directoryWorld : World :=
  { World.bare with tree := ⟨[(["app"], .directory), (["app", "models"], .directory),
    (["app", "models", "b.py"], .directory)]⟩ }

/-- A call failed by an error of the operating system. -/
def failedBySystem : Except Failure Outcome → Bool
  | .error (.system _) => true
  | _ => false

/-- Where the model of the second entity cannot be written, that call does not isolate the two. Both
files of the first one are written, and the call is recorded as a failure that leaves the state as
it was, without the first entity. -/
theorem not_isolated_at_directory : ∃ arguments done w',
    findTool twoSchemasCall.name = .ok .createMultipleSchemas ∧
      ToolName.createMultipleSchemas.parse twoSchemasCall.arguments = .ok arguments ∧
      ¬ Isolated (.single false) twoSchemasCall .empty 1 directoryWorld (givenEntities arguments) ∧
      (executeTool (.single false) twoSchemasCall .empty 1).run directoryWorld = (.ok done, w') ∧
      done.step.ok = false ∧ done.state = .empty ∧
      (w'.tree.get? ["app", "models", "a.py"]).any Node.isFile = true ∧
      (w'.tree.get? ["app", "schemas", "a.py"]).any Node.isFile = true := by
  have hread : (ToolName.createMultipleSchemas.parse twoSchemasCall.arguments).toOption.map
      givenEntities = some [⟨"a", "", []⟩, ⟨"b", "", []⟩] := by decide +kernel
  have hrecord : (recordedArguments twoSchemasCall.arguments).toOption.map (fun _ => ())
      = some () := by decide +kernel
  obtain ⟨arguments, hparse, hgiven⟩ := Effect.result_ok_of_map hread
  obtain ⟨input, hinput, -⟩ := Effect.result_ok_of_map hrecord
  -- the files of the first entity are there when the second one cannot be written
  have hleft : failedBySystem ((Tool.handle ((RunConfig.single false).context .empty)
      (.createMultipleSchemas (givenEntities arguments))).run directoryWorld).1 = true ∧
      ∀ path ∈ [["app", "models", "a.py"], ["app", "schemas", "a.py"]],
        (((Tool.handle ((RunConfig.single false).context .empty)
          (.createMultipleSchemas (givenEntities arguments))).run directoryWorld).2.tree.get?
            path).any Node.isFile = true := by
    rw [hgiven]
    decide +kernel
  obtain ⟨hfailed, hfiles⟩ := hleft
  rcases hrun : (Tool.handle ((RunConfig.single false).context .empty)
      (.createMultipleSchemas (givenEntities arguments))).run directoryWorld with ⟨f | o, w'⟩
  · rw [hrun] at hfailed hfiles
    cases f with
    | system e =>
      have hperform : (performCall (.single false) twoSchemasCall .empty).run directoryWorld
          = (.error (.system e), w') :=
        performCall_error_iff.mpr (.inr ⟨_, rfl, .inr ⟨arguments, hparse, hrun⟩⟩)
      obtain ⟨done, ⟨hok, hstate⟩, hdone⟩ : ∃ done : Executed, (done.step.ok = false ∧
          done.state = .empty) ∧
          failedCall twoSchemasCall .empty 1 systemKind e.message = .ok done :=
        ⟨_, ⟨rfl, rfl⟩, failedCall_ok_iff.mpr ⟨input, hinput, rfl⟩⟩
      refine ⟨arguments, done, w', rfl, hparse, ?_, ?_, hok, hstate,
        hfiles _ List.mem_cons_self, hfiles _ (List.mem_cons_of_mem _ List.mem_cons_self)⟩
      · rintro ⟨o, done, w'', hhandle, -⟩
        rw [hrun] at hhandle
        cases hhandle
      · rw [executeTool_run, hperform]
        dsimp only [Failure.answer?]
        rw [hdone]
    | refused _ | badValue _ | interrupted | defect _ => cases hfailed
  · rw [hrun] at hfailed
    cases hfailed

end Run

end Tablewright
