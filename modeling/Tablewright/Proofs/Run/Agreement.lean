/-
Whether the hook of an entity calls the route at which its endpoint is mounted.

The two calls are given their routes independently, and no state remembers them, so in a completed
run the two files agree exactly when the last calls that wrote them come to the same route
(`routes_agree_iff`). `routes_disagree` is a completed run in which they do not: its engine gives a
route for the endpoint and none for the hook.

That run is followed turn by turn. Its project holds the files already, so every write succeeds, and
what is known of a point (`DivertedTo`) is enough for the turn from there.
-/
import Tablewright.Proofs.Artifact.Encoding
import Tablewright.Proofs.Files.Overwrite
import Tablewright.Proofs.Run.Ending
import Tablewright.Proofs.Run.LastWrite
import Tablewright.Proofs.Tool.Preview

set_option autoImplicit false

namespace Tablewright

namespace Run

/-! ## Completed runs -/

section Completed

variable {cfg : RunConfig} {engine : Engine} {request : Text} {w₀ w : World} {s : Session}
  {history : List Occurrence}

/-- A run that is completed ends in the world of the last point it comes to. -/
theorem Ends.world_eq_of_completed {last : Session} {v : Verdict} {w' : World}
    (h : Ends cfg engine request w₀ history s w (.ok (last, v)) w')
    (hs : status last v = .completed) : w' = w := by
  cases h with
  | exhausted => rfl
  | halted _ _ hh =>
    cases hh with
    | answered => rfl
    | interrupted | cut => cases hs

/-- In a completed run every tracked entity has a last call that wrote its endpoint and a last call
that wrote its hook. -/
theorem exists_lastWrite_of_completed (hreal : cfg.dryRun = false) {id : Text} {result : RunReport}
    {last : Session} {w' : World}
    (hrun : (perform cfg engine id request).run w₀ = (.ok (result, last), w'))
    (hdone : result.status = .completed) :
    ∃ history s, Reached cfg engine request w₀ history s w' ∧
      result.steps = history.map Occurrence.step ∧
      ∀ p ∈ result.state.entities, ∀ k : Routed,
        ∃ o, LastWrite cfg engine request w₀ k (k.file p.entity.name) history s w' o := by
  have hb := one_le_budget_of_perform_ok hrun
  obtain ⟨history, s, w, v, hend, rfl⟩ := (perform_ok_iff hb).mp hrun
  obtain rfl := hend.world_eq_of_completed hdone
  obtain ⟨hsteps, hstate⟩ := hend.last_eq
  have hr := hend.reached
  have hev : Evidenced history last.state := hstate ▸ hr.evidenced
  have hcomplete := (last.state.isComplete_iff).mp (hend.isComplete_of_completed hdone).2
  refine ⟨history, s, hr, hsteps.trans hr.steps_eq, fun p hp k => hr.exists_lastWrite hreal ?_⟩
  cases k with
  | endpoint =>
    have hstage := (hev.stages p hp .endpointWritten).mp (hcomplete p hp .endpointWritten)
    exact inOrder_singleton_iff.mp hstage
  | hook =>
    have hstage := (hev.stages p hp .hookWritten).mp (hcomplete p hp .hookWritten)
    exact inOrder_singleton_iff.mp hstage

end Completed

/-! ## A completed run whose files disagree -/

/-- A turn in which a tool is called. -/
def callTurn (name arguments : Text) : Turn :=
  .ok { text := none
        call := some { id := .str "call_1", name := .str name, arguments := .str arguments } }

/-- An engine that takes one entity through all stages. It gives a route for the endpoint and none
for the hook. -/
def divertingEngine : Engine
  | 0 => callTurn "create_schema" "\x7b\"name\":\"a\"\x7d"
  | 1 => callTurn "generate_migration" "\x7b\x7d"
  | 2 => callTurn "run_migration" "\x7b\x7d"
  | 3 => callTurn "create_api_endpoint" "\x7b\"entity\":\"a\",\"route\":\"x\"\x7d"
  | 4 => callTurn "create_api_client_hook" "\x7b\"entity\":\"a\"\x7d"
  | _ => .ok { text := some "done", call := none }

/-- Runs of a project at the root with a step for each turn of that engine. -/
def divertingConfig : RunConfig :=
  { RunConfig.single false with
    budget := 6, generateCommand := "revise", applyCommand := "upgrade" }

/-- A project in which the files of that entity are there and empty. -/
def divertingWorld : World :=
  { World.bare with tree := ⟨[
      (["app"], .directory), (["app", "models"], .directory),
      (["app", "models", "a.py"], .file []), (["app", "schemas"], .directory),
      (["app", "schemas", "a.py"], .file []), (["app", "api"], .directory),
      (["app", "api", "a.py"], .file []), (["src"], .directory), (["src", "hooks"], .directory),
      (["src", "hooks", "useA.ts"], .file [])]⟩ }

/-- The files that run writes. -/
def divertingFiles : List Text :=
  ["app/models/a.py", "app/schemas/a.py", "app/api/a.py", "src/hooks/useA.ts"]

/-- All these files are there, each where its path says. -/
def Laid (t : Tree) : Prop :=
  ∀ path ∈ divertingFiles, ∃ n, Project.LeadsTo t [] path (Path.ofText path).names n ∧
    n.isFile = true

theorem laid_start : Laid divertingWorld.tree := by
  intro path hpath
  refine ⟨.file [], ⟨(Path.ofText path).names, ?_, ?_⟩, rfl⟩
  · simp only [divertingFiles, List.mem_cons, List.not_mem_nil, or_false] at hpath
    rcases hpath with rfl | rfl | rfl | rfl <;> rfl
  · simp only [divertingFiles, List.mem_cons, List.not_mem_nil, or_false] at hpath
    rcases hpath with rfl | rfl | rfl | rfl <;> rfl

/-- One of these files is written, and the others keep their texts. -/
theorem Laid.write {t : Tree} (h : Laid t) {path : Text} (hpath : path ∈ divertingFiles)
    {content : Text} (hc : content.HasEncoding) :
    ∃ r t', (Project.write [] path content).run t = (.ok r, t') ∧ Laid t' ∧
      Project.textAt? t' [] path = some content ∧
      ∀ other ∈ divertingFiles, other ≠ path → ∀ text, Project.textAt? t [] other = some text →
        Project.textAt? t' [] other = some text := by
  have hplaces : ∀ p ∈ divertingFiles, ∀ q ∈ divertingFiles, p ≠ q →
      (Path.ofText p).names ≠ (Path.ofText q).names := by decide +kernel
  obtain ⟨n, hlead, hn⟩ := h path hpath
  obtain ⟨r, t', hwrite⟩ := Project.write_of_leadsTo hlead hn hc
  obtain ⟨place, bytes, -, hevolves, hwritten, -⟩ := Project.write_ok hwrite
  have hlaid : Laid t' := by
    intro other hother
    obtain ⟨m, hm, hfile⟩ := h other hother
    obtain ⟨m', hm', hstays⟩ := hm.evolves hevolves
    exact ⟨m', hm', hstays.isFile hfile⟩
  refine ⟨r, t', hwrite, hlaid, Project.textAt?_of_write hwrite ⟨_, _, hwritten, hwritten⟩, ?_⟩
  intro other hother hne text hread
  refine Project.textAt?_of_write_ne hwrite hread ?_
  rintro ⟨l, m, hm, hm'⟩
  obtain ⟨_, hp, -⟩ := hlaid other hother
  obtain ⟨_, hq, -⟩ := hlaid path hpath
  exact hplaces other hother path hpath hne ((hp.unique hm).1.symm.trans (hq.unique hm').1)

/-- What is known of a point of that run: the state, and the texts of the endpoint file and the hook
file. -/
structure DivertedTo (st : WorkflowState) (endpoint hook : Text) (s : Session) (w : World) :
    Prop where
  state : s.state = st
  laid : Laid w.tree
  script : w.script = []
  endpoint : Project.textAt? w.tree [] (Routed.endpoint.file "a") = some endpoint
  hook : Project.textAt? w.tree [] (Routed.hook.file "a") = some hook

/-- The state of that run in which its entity has completed the first stages. -/
def tracked (done : Nat) : WorkflowState := ⟨[⟨⟨"a", "", []⟩, Stage.all.take done⟩]⟩

section Turns

variable {st next : WorkflowState} {endpoint hook : Text} {s : Session} {w w' : World}

/-- A call of that run that has an outcome is a turn to the state the outcome leads to. -/
theorem DivertedTo.advance (h : DivertedTo st endpoint hook s w) {name arguments : Text}
    (tool : ToolName) {ms : Members} {outcome : Outcome} {k : Nat}
    (hasked : s.asked.length = k) (hturn : divertingEngine k = callTurn name arguments)
    (hfind : findTool (.str name) = .ok tool) (hparse : tool.parse (.str arguments) = .ok ms)
    (hrun : (Tool.handle (divertingConfig.context st) (ToolInput.ofMembers ms tool)).run w
      = (.ok outcome, w')) (happly : outcome.apply st = .ok next) :
    ∃ o s', Advance divertingConfig divertingEngine s w o s' w' ∧ o.step.tool = .str tool.label ∧
      s'.state = next := by
  rw [← h.state] at hrun happly
  obtain ⟨done, hdone⟩ : ∃ done, finishedCall divertingConfig
      { id := .str "call_1", name := .str name, arguments := .str arguments } s.state s.nextNumber
      ms outcome = .ok done := ⟨_, finishedCall_ok_iff.mpr ⟨next, happly, rfl⟩⟩
  rw [← hasked] at hturn
  have ha := Advance.finished hturn rfl hfind hparse hrun hdone
  obtain ⟨next', hnext, rfl⟩ := finishedCall_ok_iff.mp hdone
  obtain rfl := Except.ok.inj (happly.symm.trans hnext)
  exact ⟨_, _, ha, findTool_ok_iff.mp hfind, rfl⟩

/-- A call that only starts a process leaves the files as they are. -/
theorem DivertedTo.still (h : DivertedTo st endpoint hook s w) {name arguments : Text}
    (tool : ToolName) {ms : Members} {k : Nat} (hasked : s.asked.length = k)
    (hturn : divertingEngine k = callTurn name arguments)
    (hfind : findTool (.str name) = .ok tool) (hparse : tool.parse (.str arguments) = .ok ms)
    (hstarts : ∀ t spawned, ∃ outcome spawned',
      (Tool.handle (divertingConfig.context st) (ToolInput.ofMembers ms tool)).run ⟨t, [], spawned⟩
        = (.ok outcome, ⟨t, [], spawned'⟩) ∧ outcome.apply st = .ok next) :
    ∃ o s' w', Advance divertingConfig divertingEngine s w o s' w' ∧
      DivertedTo next endpoint hook s' w' := by
  obtain ⟨t, script, spawned⟩ := w
  obtain rfl : script = [] := h.script
  obtain ⟨outcome, spawned', hrun, happly⟩ := hstarts t spawned
  obtain ⟨o, s', ha, -, hnext⟩ := h.advance tool hasked hturn hfind hparse hrun happly
  exact ⟨o, s', _, ha, hnext, h.laid, rfl, h.endpoint, h.hook⟩

/-- In the first turn the schema is written. -/
theorem diverting_schema (h : DivertedTo .empty endpoint hook s w) (hasked : s.asked.length = 0) :
    ∃ o s' w', Advance divertingConfig divertingEngine s w o s' w' ∧
      DivertedTo (tracked 1) endpoint hook s' w' := by
  have hread : (ToolName.createSchema.parse (.str "\x7b\"name\":\"a\"\x7d")).toOption.map
      EntityInput.ofMembers = some ⟨"a", "", []⟩ := by decide +kernel
  obtain ⟨ms, hparse, hinput⟩ := Effect.result_ok_of_map hread
  obtain ⟨schema, hcompile, hmodel, hshapes⟩ : ∃ schema : Schema,
      (⟨"a", "", []⟩ : Entity).compileSchema = .ok schema ∧
        schema.model.path = Text.ofString "app/models/a.py" ∧
        schema.shapes.path = Text.ofString "app/schemas/a.py" :=
    ⟨_, rfl, by decide +kernel, by decide +kernel⟩
  have hfirst : schema.model.path ∈ divertingFiles := by
    rw [hmodel]
    decide +kernel
  have hsecond : schema.shapes.path ∈ divertingFiles := by
    rw [hshapes]
    decide +kernel
  -- the model is written first, and then the shapes
  have hwords : Entity.HasEncoding ⟨"a", "", []⟩ := ⟨Text.hasEncoding_nil, List.forall_mem_nil _⟩
  obtain ⟨hc, hc'⟩ := hasEncoding_compileSchema hwords hcompile
  obtain ⟨r, t, hw, hlaid, -, hkept⟩ := h.laid.write hfirst hc
  obtain ⟨r', t', hw', hlaid', -, hkept'⟩ := hlaid.write hsecond hc'
  have hreal : (divertingConfig.context .empty).dryRun = false := rfl
  have hemit := Tool.emit_run_of_write hreal hw
  have hemit' := Tool.emit_run_of_write (w := { w with tree := t }) hreal hw'
  have hrun : (Tool.handle (divertingConfig.context .empty)
      (ToolInput.ofMembers ms .createSchema)).run w
        = (.ok (Tool.schemaOutcome (divertingConfig.context .empty) ⟨"a", "", []⟩
            (Tool.schemaData ⟨"a", "", []⟩ (Tool.writtenData r) (Tool.writtenData r'))),
          { w with tree := t' }) := by
    rw [ToolInput.ofMembers, hinput, Tool.handle, Tool.createSchema_run,
      Tool.writeSchema_ok_iff.mpr ⟨schema, _, _, _, rfl, hcompile, hemit, hemit', rfl⟩]
  have happly : (Tool.schemaOutcome (divertingConfig.context .empty) ⟨"a", "", []⟩
      (Tool.schemaData ⟨"a", "", []⟩ (Tool.writtenData r) (Tool.writtenData r'))).apply .empty
        = .ok (tracked 1) := rfl
  obtain ⟨o, s', ha, -, hnext⟩ := h.advance .createSchema hasked rfl rfl hparse hrun happly
  have hapart : ∀ path ∈ divertingFiles, path ≠ schema.model.path → path ≠ schema.shapes.path →
      ∀ text, Project.textAt? w.tree [] path = some text →
        Project.textAt? t' [] path = some text := by
    intro path hpath hne hne' text hread
    exact hkept' path hpath hne' text (hkept path hpath hne text hread)
  rw [hmodel, hshapes] at hapart
  exact ⟨o, s', _, ha, hnext, hlaid', h.script,
    hapart _ (by decide +kernel) (by decide +kernel) (by decide +kernel) _ h.endpoint,
    hapart _ (by decide +kernel) (by decide +kernel) (by decide +kernel) _ h.hook⟩

/-- In the second turn a migration is generated. -/
theorem diverting_generate (h : DivertedTo (tracked 1) endpoint hook s w)
    (hasked : s.asked.length = 1) :
    ∃ o s' w', Advance divertingConfig divertingEngine s w o s' w' ∧
      DivertedTo (tracked 2) endpoint hook s' w' := by
  have hread : (ToolName.generateMigration.parse (.str "\x7b\x7d")).toOption.map
      (Members.text? "label") = some none := by decide +kernel
  obtain ⟨ms, hparse, hinput⟩ := Effect.result_ok_of_map hread
  refine h.still .generateMigration hasked rfl rfl hparse fun t spawned => ?_
  rw [ToolInput.ofMembers, hinput]
  exact ⟨_, _, rfl, rfl⟩

/-- In the third turn it is applied. -/
theorem diverting_apply (h : DivertedTo (tracked 2) endpoint hook s w)
    (hasked : s.asked.length = 2) :
    ∃ o s' w', Advance divertingConfig divertingEngine s w o s' w' ∧
      DivertedTo (tracked 3) endpoint hook s' w' := by
  have hread : (ToolName.runMigration.parse (.str "\x7b\x7d")).toOption.map List.length
      = some 0 := by decide +kernel
  obtain ⟨ms, hparse, -⟩ := Effect.result_ok_of_map hread
  exact h.still .runMigration hasked rfl rfl hparse fun t spawned => ⟨_, _, rfl, rfl⟩

/-- In the fourth turn the endpoint is written, for the route that is given. -/
theorem diverting_endpoint (h : DivertedTo (tracked 3) endpoint hook s w)
    (hasked : s.asked.length = 3) :
    ∃ o s' w' content, Advance divertingConfig divertingEngine s w o s' w' ∧
      o.step.tool = .str ToolName.createApiEndpoint.label ∧
      Endpoint.prefix? content = some (Text.ofString "/api/x") ∧
      DivertedTo (tracked 4) content hook s' w' := by
  have hread : (ToolName.createApiEndpoint.parse
      (.str "\x7b\"entity\":\"a\",\"route\":\"x\"\x7d")).toOption.map
        (fun ms => (ms.text "entity", (ms.items "methods").map Json.asText, ms.text? "route"))
      = some (Text.ofString "a", Method.all.map Method.label, some (Text.ofString "x")) := by
    decide +kernel
  obtain ⟨ms, hparse, hinput⟩ := Effect.result_ok_of_map hread
  have hpath : (compileEndpoint (Naming.canonical "a") ((Method.all.map Method.label).map .str)
      (some "x")).toOption.map Artifact.path = some (Routed.endpoint.file "a") := by
    decide +kernel
  obtain ⟨a, hcompile, hpath⟩ := Effect.result_ok_of_map hpath
  have hfile : a.path ∈ divertingFiles := by
    rw [hpath]
    decide +kernel
  have hc := hasEncoding_compileEndpoint hcompile
  obtain ⟨r, t, hw, hlaid, htext, hkept⟩ := h.laid.write hfile hc
  have hreal : (divertingConfig.context (tracked 3)).dryRun = false := rfl
  have hpre : Tool.requirePrerequisite (divertingConfig.context (tracked 3)) (Naming.canonical "a")
      .schema = .ok () := rfl
  have hrun : (Tool.handle (divertingConfig.context (tracked 3))
      (ToolInput.ofMembers ms .createApiEndpoint)).run w
        = (.ok (Tool.endpointOutcome (Naming.canonical "a") (some "x") (Tool.writtenData r)),
          { w with tree := t }) := by
    obtain ⟨hentity, hrest⟩ := Prod.mk.inj hinput
    obtain ⟨hmethods, hroute⟩ := Prod.mk.inj hrest
    rw [ToolInput.ofMembers, hentity, hmethods, hroute]
    refine (Tool.run_ofRefusal_bind hpre _ w).trans ?_
    refine (Tool.run_ofRefusal_bind hcompile _ w).trans ?_
    rw [Effect.run_bind, Tool.emit_run_of_write hreal hw]
    rfl
  have happly : (Tool.endpointOutcome (Naming.canonical "a") (some "x") (Tool.writtenData r)).apply
      (tracked 3) = .ok (tracked 4) := rfl
  obtain ⟨o, s', ha, htool, hnext⟩ :=
    h.advance .createApiEndpoint hasked rfl rfl hparse hrun happly
  have hsaid : Endpoint.prefix? a.content = some (Text.ofString "/api/x") := by
    rw [Endpoint.prefix?_compileEndpoint hcompile]
    decide +kernel
  rw [hpath] at htext hkept
  exact ⟨o, s', _, a.content, ha, htool, hsaid, hnext, hlaid, h.script, htext,
    hkept _ (by decide +kernel) (by decide +kernel) _ h.hook⟩

/-- In the fifth turn the hook is written, for the route by the name of the entity. -/
theorem diverting_hook (h : DivertedTo (tracked 4) endpoint hook s w)
    (hasked : s.asked.length = 4) :
    ∃ o s' w' content, Advance divertingConfig divertingEngine s w o s' w' ∧
      o.step.tool = .str ToolName.createApiClientHook.label ∧
      Hook.endpoint? content = some (Text.ofString "/api/a") ∧
      DivertedTo (tracked 5) endpoint content s' w' := by
  have hread : (ToolName.createApiClientHook.parse
      (.str "\x7b\"entity\":\"a\"\x7d")).toOption.map
        (fun ms => (ms.text "entity", ms.text? "route")) = some (Text.ofString "a", none) := by
    decide +kernel
  obtain ⟨ms, hparse, hinput⟩ := Effect.result_ok_of_map hread
  have hpath : (compileHook (Naming.canonical "a") none).path = Routed.hook.file "a" := by
    decide +kernel
  have hfile : (compileHook (Naming.canonical "a") none).path ∈ divertingFiles := by
    rw [hpath]
    decide +kernel
  obtain ⟨r, t, hw, hlaid, htext, hkept⟩ := h.laid.write hfile (hasEncoding_compileHook _ none)
  have hreal : (divertingConfig.context (tracked 4)).dryRun = false := rfl
  have hpre : Tool.requirePrerequisite (divertingConfig.context (tracked 4)) (Naming.canonical "a")
      .endpoint = .ok () := rfl
  have hrun : (Tool.handle (divertingConfig.context (tracked 4))
      (ToolInput.ofMembers ms .createApiClientHook)).run w
        = (.ok (Tool.hookOutcome (Naming.canonical "a") (Tool.writtenData r)),
          { w with tree := t }) := by
    obtain ⟨hentity, hroute⟩ := Prod.mk.inj hinput
    rw [ToolInput.ofMembers, hentity, hroute]
    refine (Tool.run_ofRefusal_bind hpre _ w).trans ?_
    rw [Effect.run_bind, Tool.emit_run_of_write hreal hw]
    rfl
  have happly : (Tool.hookOutcome (Naming.canonical "a") (Tool.writtenData r)).apply
      (tracked 4) = .ok (tracked 5) := rfl
  obtain ⟨o, s', ha, htool, hnext⟩ :=
    h.advance .createApiClientHook hasked rfl rfl hparse hrun happly
  have hsaid : Hook.endpoint? (compileHook (Naming.canonical "a") none).content
      = some (Text.ofString "/api/a") := by
    rw [Hook.endpoint?_compileHook]
    decide +kernel
  rw [hpath] at htext hkept
  exact ⟨o, s', _, _, ha, htool, hsaid, hnext, hlaid, h.script,
    hkept _ (by decide +kernel) (by decide +kernel) _ h.endpoint, htext⟩

end Turns

/-- That run completes all stages. Only the endpoint tool changes the endpoint file, only the hook
tool changes the hook file, and the two files say different routes. -/
theorem diverting_course : ∃ history s w endpoint hook,
    Reached divertingConfig divertingEngine "" divertingWorld history s w ∧ history.length = 5 ∧
      DivertedTo (tracked 5) endpoint hook s w ∧
      Endpoint.prefix? endpoint = some (Text.ofString "/api/x") ∧
      Hook.endpoint? hook = some (Text.ofString "/api/a") ∧
      ChangedOnlyBy divertingConfig divertingEngine "" divertingWorld .createApiEndpoint
        (Routed.endpoint.file "a") ∧
      ChangedOnlyBy divertingConfig divertingEngine "" divertingWorld .createApiClientHook
        (Routed.hook.file "a") := by
  have h₀ : Reached divertingConfig divertingEngine "" divertingWorld [] (start "" false)
    divertingWorld := .origin
  have hsteps : ∀ n < 6, n < divertingConfig.budget.toNat := fun _ hn => hn
  have hd₀ : DivertedTo .empty [] [] (start "" false) divertingWorld := by
    have hstate : (start "" false).state = .empty := by decide +kernel
    exact ⟨hstate, laid_start, rfl, rfl, rfl⟩
  obtain ⟨o₁, s₁, w₁, ha₁, hd₁⟩ := diverting_schema hd₀ h₀.length_asked
  have h₁ := h₀.next (hsteps 0 (by decide)) ha₁
  obtain ⟨o₂, s₂, w₂, ha₂, hd₂⟩ := diverting_generate hd₁ h₁.length_asked
  have h₂ := h₁.next (hsteps 1 (by decide)) ha₂
  obtain ⟨o₃, s₃, w₃, ha₃, hd₃⟩ := diverting_apply hd₂ h₂.length_asked
  have h₃ := h₂.next (hsteps 2 (by decide)) ha₃
  obtain ⟨o₄, s₄, w₄, endpoint, ha₄, htool₄, hmount, hd₄⟩ := diverting_endpoint hd₃ h₃.length_asked
  have h₄ := h₃.next (hsteps 3 (by decide)) ha₄
  obtain ⟨o₅, s₅, w₅, hook, ha₅, htool₅, hurl, hd₅⟩ := diverting_hook hd₄ h₄.length_asked
  have h₅ := h₄.next (hsteps 4 (by decide)) ha₅
  -- the sixth turn is the final answer, after which the run does not go on
  have hlast : ∀ o s' w', ¬ Advance divertingConfig divertingEngine s₅ w₅ o s' w' := by
    intro o s' w' ha
    refine ha.not_stops ((stops_iff_of_final (by rw [h₅.length_asked]; rfl) rfl).mpr ?_)
    rw [hd₅.state]
    rfl
  have he₀ : KeptBut divertingConfig divertingEngine "" divertingWorld .createApiEndpoint
      (Routed.endpoint.file "a") [] (start "" false) divertingWorld := .origin
  have he₁ := he₀.next (hsteps 0 (by decide)) ha₁ (.inr (hd₁.endpoint.trans hd₀.endpoint.symm))
  have he₂ := he₁.next (hsteps 1 (by decide)) ha₂ (.inr (hd₂.endpoint.trans hd₁.endpoint.symm))
  have he₃ := he₂.next (hsteps 2 (by decide)) ha₃ (.inr (hd₃.endpoint.trans hd₂.endpoint.symm))
  have he₄ := he₃.next (hsteps 3 (by decide)) ha₄ (.inl htool₄)
  have he₅ := he₄.next (hsteps 4 (by decide)) ha₅ (.inr (hd₅.endpoint.trans hd₄.endpoint.symm))
  have hh₀ : KeptBut divertingConfig divertingEngine "" divertingWorld .createApiClientHook
      (Routed.hook.file "a") [] (start "" false) divertingWorld := .origin
  have hh₁ := hh₀.next (hsteps 0 (by decide)) ha₁ (.inr (hd₁.hook.trans hd₀.hook.symm))
  have hh₂ := hh₁.next (hsteps 1 (by decide)) ha₂ (.inr (hd₂.hook.trans hd₁.hook.symm))
  have hh₃ := hh₂.next (hsteps 2 (by decide)) ha₃ (.inr (hd₃.hook.trans hd₂.hook.symm))
  have hh₄ := hh₃.next (hsteps 3 (by decide)) ha₄ (.inr (hd₄.hook.trans hd₃.hook.symm))
  have hh₅ := hh₄.next (hsteps 4 (by decide)) ha₅ (.inl htool₅)
  exact ⟨_, s₅, w₅, endpoint, hook, h₅, rfl, hd₅, hmount, hurl, he₅.changedOnlyBy hlast,
    hh₅.changedOnlyBy hlast⟩

/-- That run is completed, and it ends with the two files. -/
theorem diverting_run : ∃ result last w' endpoint hook,
    (perform divertingConfig divertingEngine "run" "").run divertingWorld
        = (.ok (result, last), w') ∧
      result.status = .completed ∧ result.state = tracked 5 ∧
      Project.textAt? w'.tree [] (Routed.endpoint.file "a") = some endpoint ∧
      Project.textAt? w'.tree [] (Routed.hook.file "a") = some hook ∧
      Endpoint.prefix? endpoint = some (Text.ofString "/api/x") ∧
      Hook.endpoint? hook = some (Text.ofString "/api/a") ∧
      ChangedOnlyBy divertingConfig divertingEngine "" divertingWorld .createApiEndpoint
        (Routed.endpoint.file "a") ∧
      ChangedOnlyBy divertingConfig divertingEngine "" divertingWorld .createApiClientHook
        (Routed.hook.file "a") := by
  obtain ⟨history, s, w, endpoint, hook, hr, hlen, hd, hmount, hurl, howned, howned'⟩ :=
    diverting_course
  have hturn : divertingEngine s.asked.length = .ok { text := some "done", call := none } := by
    rw [hr.length_asked, hlen]
    rfl
  have hdone : s.state.isComplete = true := by
    rw [hd.state]
    rfl
  have hleft : history.length < divertingConfig.budget.toNat := by
    rw [hlen]
    decide
  have hend := Ends.halted hr hleft (.answered hturn rfl hdone)
  have hbudget : 1 ≤ divertingConfig.budget := by decide
  refine ⟨_, _, w, endpoint, hook, (perform_ok_iff hbudget).mpr ⟨history, s, w, _, hend, rfl⟩, ?_,
    hd.state, hd.endpoint, hd.hook, hmount, hurl, howned, howned'⟩
  change (if s.state.entities.isEmpty then RunStatus.needsClarification else .completed) = _
  rw [hd.state]
  rfl

/-! ## Agreement -/

/-- **Routes of a completed run.** At the end of a completed run that is not dry, the endpoint file
of a tracked entity says the route of the last call that wrote it, and so does the hook file, where
only its own tool changes each of them. So the hook calls the route of the endpoint exactly when the
two calls came to the same one. -/
theorem routes_agree_iff {cfg : RunConfig} {engine : Engine} {request : Text} {w₀ : World}
    (hreal : cfg.dryRun = false) {id : Text} {result : RunReport} {last : Session} {w' : World}
    (hrun : (perform cfg engine id request).run w₀ = (.ok (result, last), w'))
    (hdone : result.status = .completed) :
    ∃ history s, Reached cfg engine request w₀ history s w' ∧
      result.steps = history.map Occurrence.step ∧
      ∀ p ∈ result.state.entities,
        ChangedOnlyBy cfg engine request w₀ .createApiEndpoint
          (Routed.endpoint.file p.entity.name) →
        ChangedOnlyBy cfg engine request w₀ .createApiClientHook (Routed.hook.file p.entity.name) →
        ∃ mounting calling endpoint hook,
          LastWrite cfg engine request w₀ .endpoint (Routed.endpoint.file p.entity.name) history s
            w' mounting ∧
          LastWrite cfg engine request w₀ .hook (Routed.hook.file p.entity.name) history s
            w' calling ∧
          Project.textAt? w'.tree cfg.root (Routed.endpoint.file p.entity.name) = some endpoint ∧
          Project.textAt? w'.tree cfg.root (Routed.hook.file p.entity.name) = some hook ∧
          Endpoint.prefix? endpoint = some mounting.route ∧
          Hook.endpoint? hook = some calling.route ∧
          (Hook.endpoint? hook = Endpoint.prefix? endpoint ↔ calling.route = mounting.route) := by
  obtain ⟨history, s, hr, hsteps, hwriters⟩ := exists_lastWrite_of_completed hreal hrun hdone
  refine ⟨history, s, hr, hsteps, fun p hp hendpoint hhook => ?_⟩
  obtain ⟨mounting, hmounting⟩ := hwriters p hp .endpoint
  obtain ⟨calling, hcalling⟩ := hwriters p hp .hook
  obtain ⟨endpoint, hread, hmount⟩ := hmounting.said hreal hendpoint
  obtain ⟨hook, hread', hurl⟩ := hcalling.said hreal hhook
  have hmount' : Endpoint.prefix? endpoint = some mounting.route := hmount
  have hurl' : Hook.endpoint? hook = some calling.route := hurl
  refine ⟨mounting, calling, endpoint, hook, hmounting, hcalling, hread, hread', hmount', hurl',
    ?_⟩
  rw [hmount', hurl', Option.some.injEq]

/-- In the run of that engine both files of the entity have a last writer, and the files agree
exactly when the two came to one route. -/
theorem routes_agree_iff_of_diverting : ∃ result last w' history s mounting calling endpoint hook,
    divertingConfig.dryRun = false ∧
      (perform divertingConfig divertingEngine "run" "").run divertingWorld
        = (.ok (result, last), w') ∧
      result.status = .completed ∧
      ChangedOnlyBy divertingConfig divertingEngine "" divertingWorld .createApiEndpoint
        (Routed.endpoint.file "a") ∧
      ChangedOnlyBy divertingConfig divertingEngine "" divertingWorld .createApiClientHook
        (Routed.hook.file "a") ∧
      LastWrite divertingConfig divertingEngine "" divertingWorld .endpoint
        (Routed.endpoint.file "a") history s w' mounting ∧
      LastWrite divertingConfig divertingEngine "" divertingWorld .hook (Routed.hook.file "a")
        history s w' calling ∧
      Project.textAt? w'.tree [] (Routed.endpoint.file "a") = some endpoint ∧
      Project.textAt? w'.tree [] (Routed.hook.file "a") = some hook ∧
      (Hook.endpoint? hook = Endpoint.prefix? endpoint ↔ calling.route = mounting.route) := by
  obtain ⟨result, last, w', _, _, hrun, hdone, hstate, -, -, -, -, howned, howned'⟩ := diverting_run
  obtain ⟨history, s, -, -, hagree⟩ := routes_agree_iff rfl hrun hdone
  have hp : (⟨⟨"a", "", []⟩, Stage.all.take 5⟩ : Progress) ∈ result.state.entities := by
    rw [hstate]
    exact List.mem_singleton_self _
  obtain ⟨mounting, calling, endpoint, hook, hmounting, hcalling, hread, hread', -, -, hiff⟩ :=
    hagree _ hp howned howned'
  exact ⟨result, last, w', history, s, mounting, calling, endpoint, hook, rfl, hrun, hdone, howned,
    howned', hmounting, hcalling, hread, hread', hiff⟩

/-- **Routes that disagree.** In a completed run that is not dry, and in which only their tools
change the two files of the one tracked entity, the hook calls another route than the one its
endpoint is mounted at: a route was given for the endpoint and none for the hook. -/
theorem routes_disagree : ∃ result last w' endpoint hook,
    divertingConfig.dryRun = false ∧
      (perform divertingConfig divertingEngine "run" "").run divertingWorld
        = (.ok (result, last), w') ∧
      result.status = .completed ∧
      result.state.entities.map (fun p => p.entity.name) = [Text.ofString "a"] ∧
      ChangedOnlyBy divertingConfig divertingEngine "" divertingWorld .createApiEndpoint
        (Routed.endpoint.file "a") ∧
      ChangedOnlyBy divertingConfig divertingEngine "" divertingWorld .createApiClientHook
        (Routed.hook.file "a") ∧
      Project.textAt? w'.tree [] (Routed.endpoint.file "a") = some endpoint ∧
      Project.textAt? w'.tree [] (Routed.hook.file "a") = some hook ∧
      Endpoint.prefix? endpoint = some (Text.ofString "/api/x") ∧
      Hook.endpoint? hook = some (Text.ofString "/api/a") ∧
      Hook.endpoint? hook ≠ Endpoint.prefix? endpoint := by
  obtain ⟨result, last, w', endpoint, hook, hrun, hdone, hstate, hread, hread', hmount, hurl,
    howned, howned'⟩ := diverting_run
  refine ⟨result, last, w', endpoint, hook, rfl, hrun, hdone, ?_, howned, howned', hread, hread',
    hmount, hurl, ?_⟩
  · rw [hstate]
    rfl
  · rw [hmount, hurl]
    decide +kernel

end Run

end Tablewright
