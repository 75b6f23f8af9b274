/-
An entity survives the trip through the engine.

The engine is shown an entity as a text and proposes the entity to be created by such a text. What
it was shown comes back as the very entity (`Entity.IsBuilt.parse_draft`), so the call that creates
it defines this entity and no other. What can keep the call from it is named (`NotCreated`): the
fields do not come to columns of their own, which is turned down as a naming conflict before
anything is written, or in a real run a file cannot be written.
-/
import Tablewright.Proofs.Run.Course
import Tablewright.Proofs.Tool.Created
import Tablewright.Proofs.Tool.Draft
import Tablewright.Proofs.Workflow.Spec

set_option autoImplicit false

namespace Tablewright

namespace Run

/-- A call that creates a schema from a text. -/
def creation (id : Json) (text : Text) : ToolCall :=
  ⟨id, .str ToolName.createSchema.label, .str text⟩

variable {cfg : RunConfig} {id : Json} {st : WorkflowState} {w w' : World} {e : Entity}
  {text : Text}

/-- A call whose arguments are accepted writes the schema that is given by them. -/
theorem creation_run {arguments : Members}
    (hparse : ToolName.createSchema.parse (.str text) = .ok arguments) :
    (performCall cfg (creation id text) st).run w =
      match (Tool.writeSchema (cfg.context st) (EntityInput.ofMembers arguments)).run w with
      | (.ok (e, data), w') => (.ok (arguments, Tool.schemaOutcome (cfg.context st) e data), w')
      | (.error f, w') => (.error f, w') := by
  have hfind : findTool (creation id text).name = .ok .createSchema := findTool_ok_iff.mpr rfl
  have hrun : (Tool.createSchema (cfg.context st) (EntityInput.ofMembers arguments)).run w = _ :=
    Tool.createSchema_run _ w
  rcases hwrite : (Tool.writeSchema (cfg.context st) (EntityInput.ofMembers arguments)).run w with
    ⟨f | ⟨e, data⟩, w₁⟩
  · rw [hwrite] at hrun
    exact performCall_error_iff.mpr (.inr ⟨_, hfind, .inr ⟨arguments, hparse, hrun⟩⟩)
  · rw [hwrite] at hrun
    exact performCall_ok_iff.mpr ⟨_, hfind, hparse, hrun⟩

/-- What keeps a call from creating an entity that is given to it: in which way its columns are
turned down, or an artifact that the call comes to write in a real run and that is not written. -/
inductive NotCreated (cfg : RunConfig) (st : WorkflowState) (e : Entity) (w : World) :
    Failure → World → Prop
  /-- The columns are turned down as a naming conflict, and nothing was done. -/
  | columns {r : Refusal} (h : e.checkColumns = .error r) (hkind : r.kind = .namingConflict) :
      NotCreated cfg st e w (.refused r) w
  /-- The model or the shapes are not written. -/
  | file {f : Failure} {a : Artifact} {w₁ w' : World} (hcheck : e.checkColumns = .ok ())
      (hreal : cfg.dryRun = false)
      (hcome : Tool.ComesToEmit (cfg.context st) (.createSchema (EntityInput.ofMembers e.members))
        w a w₁)
      (h : (Tool.emit (cfg.context st) a).run w₁ = (.error f, w')) : NotCreated cfg st e w f w'

/-- In a dry run every artifact is shown. -/
theorem dryRun_of_emit_error {ctx : ToolContext} {a : Artifact} {f : Failure} {w w' : World}
    (h : (Tool.emit ctx a).run w = (.error f, w')) : ctx.dryRun = false := by
  rw [Bool.eq_false_iff]
  intro hdry
  rw [Tool.emit, if_pos hdry] at h
  exact absurd h Effect.pure_ne_error

/-- A call that creates an entity it is given, and has an outcome, was given columns that are not
turned down, and its outcome is that of a schema. -/
theorem creation_ok {arguments arguments' : Members} {o : Outcome}
    (hparse : ToolName.createSchema.parse (.str text) = .ok arguments)
    (hgiven : (EntityInput.ofMembers arguments).build = .ok e)
    (hrun : (performCall cfg (creation id text) st).run w = (.ok (arguments', o), w')) :
    e.checkColumns = .ok () ∧ arguments' = arguments ∧
      ∃ data, o = Tool.schemaOutcome (cfg.context st) e data := by
  rw [creation_run hparse] at hrun
  rcases hwrite : (Tool.writeSchema (cfg.context st) (EntityInput.ofMembers arguments)).run w with
    ⟨f | ⟨e', data⟩, w₁⟩
  · rw [hwrite] at hrun
    cases hrun
  · rw [hwrite] at hrun
    cases hrun
    obtain ⟨_, _, _, _, hb, hc, -⟩ := Tool.writeSchema_ok_iff.mp hwrite
    obtain rfl := Except.ok.inj (hgiven.symm.trans hb)
    exact ⟨(Entity.compileSchema_ok_iff.mp hc).1, rfl, data, rfl⟩

/-- A call that creates an entity it is given, and fails, is kept from it by the columns or by one
of the two files. -/
theorem creation_error {f : Failure}
    (hparse : ToolName.createSchema.parse (.str text) = .ok e.members)
    (hgiven : (EntityInput.ofMembers e.members).build = .ok e)
    (hrun : (performCall cfg (creation id text) st).run w = (.error f, w')) :
    NotCreated cfg st e w f w' := by
  rw [creation_run hparse] at hrun
  rcases hwrite : (Tool.writeSchema (cfg.context st) (EntityInput.ofMembers e.members)).run w with
    ⟨g | ⟨e', data⟩, w₁⟩
  · rw [hwrite] at hrun
    cases hrun
    rcases Tool.writeSchema_error_iff.mp hwrite with ⟨hb, -⟩ | ⟨e', hb, hfailed⟩
    · rw [hgiven] at hb
      cases hb
    · obtain rfl := Except.ok.inj (hgiven.symm.trans hb)
      rcases hfailed with ⟨r, hr, rfl, rfl⟩ | ⟨schema, hc, hm | ⟨_, _, hm, hsh⟩⟩
      · have hcheck := Entity.compileSchema_error_iff.mp hr
        exact .columns hcheck (Entity.kind_of_checkColumns hcheck)
      · exact .file (Entity.compileSchema_ok_iff.mp hc).1 (dryRun_of_emit_error hm)
          (.model hgiven hc) hm
      · exact .file (Entity.compileSchema_ok_iff.mp hc).1 (dryRun_of_emit_error hsh)
          (.shapes hgiven hc hm) hsh
  · rw [hwrite] at hrun
    cases hrun

/-- The outcome of a schema is taken up by every state: the entity is tracked under its name, and
every other name is as it was. -/
theorem exists_apply_schemaOutcome (ctx : ToolContext) (e : Entity) (data : Members)
    (st : WorkflowState) :
    ∃ st', (Tool.schemaOutcome ctx e data).apply st = .ok st' ∧
      ∀ name, st'.spec? name = if e.name = name then some e else st.spec? name := by
  -- the one stage that is completed is of the entity that is defined
  obtain ⟨st', happly⟩ := WorkflowState.apply_ok_of_tracked (Tool.schemaOutcome ctx e data) st
    fun c hc => .inr ⟨e, List.mem_singleton_self e, by rw [List.mem_singleton.mp hc]⟩
  have hdiscovered : (Tool.schemaOutcome ctx e data).discovered = [] := rfl
  have hdefined : (Tool.schemaOutcome ctx e data).defined = [e] := rfl
  refine ⟨st', happly, fun name => ?_⟩
  rw [WorkflowState.spec?_apply happly, hdiscovered, hdefined, Entity.lastNamed_singleton]
  split
  · rfl
  · exact Option.or_none

/-- **The trip through the engine.** An entity that was built is built again from its own name,
description and fields. The opening of a run that found it shows a text that stands for it. Every
such text is accepted by the tool that creates it and gives this very entity; and a call with the
text, in whatever state and world, defines exactly this entity, which is tracked under its name from
then on while every other name is as it was, or the call is kept from creating it. -/
theorem draft_survives {label description : Text} {raws : List Json}
    (h : Entity.build label description raws = .ok e)
    (hdescription : ∀ c ∈ description, c.isSurrogate = false) :
    Entity.build e.name e.description (e.fields.map Field.toJson) = .ok e ∧
      (∀ (s : Segmentation) (dryRun : Bool), e ∈ s.entities →
        ∃ text, e.Draft text ∧ text <:+: Wording.opening s dryRun) ∧
      ∀ text, e.Draft text →
        ToolName.createSchema.parse (.str text) = .ok e.members ∧
        (EntityInput.ofMembers e.members).build = .ok e ∧
        ∀ (cfg : RunConfig) (id : Json) (st : WorkflowState) (w w' : World),
          (∀ arguments o, (performCall cfg (creation id text) st).run w = (.ok (arguments, o), w') →
            e.checkColumns = .ok () ∧ arguments = e.members ∧ o.ok = true ∧ o.defined = [e] ∧
            ∃ st', o.apply st = .ok st' ∧
              ∀ name, st'.spec? name = if e.name = name then some e else st.spec? name) ∧
          (∀ f, (performCall cfg (creation id text) st).run w = (.error f, w') →
            NotCreated cfg st e w f w') := by
  obtain ⟨hbuilt, rfl⟩ := Entity.isBuilt_of_build h
  refine ⟨hbuilt.build_toJson, fun s dryRun hfound => Entity.exists_draft_of_opening hfound dryRun,
    fun text hdraft => ?_⟩
  obtain ⟨hparse, hgiven⟩ := hbuilt.parse_draft (Text.hasEncoding_iff.mpr hdescription) hdraft
  refine ⟨hparse, hgiven, fun cfg id st w w' => ⟨fun arguments o hrun => ?_, fun f hrun => ?_⟩⟩
  · obtain ⟨hcolumns, rfl, data, rfl⟩ := creation_ok hparse hgiven hrun
    exact ⟨hcolumns, rfl, rfl, rfl, exists_apply_schemaOutcome (cfg.context st) e data st⟩
  · exact creation_error hparse hgiven hrun

/-- Loose words for a kind and for constraints, one of them given twice, and a description with a
quote and a line feed: what was built from them comes back in a dry run. -/
theorem draft_survives_of_loose_words :
    let e : Entity :=
      ⟨"popular_albums", "The \"top\"\n", [⟨"title", .shortText, [.required, .unique]⟩]⟩
    Entity.build "Popular albums" "The \"top\"\n" [.obj [("name", .str " title"),
      ("type", .str "varchar"), ("constraints", Json.texts ["notNull", "UNIQUE", "required"])]]
      = .ok e ∧
      ∃ o w', (performCall (.single true) (creation .null e.toJson.write) .empty).run .bare
        = (.ok (e.members, o), w') ∧ o.defined = [e] := by
  intro e
  have hbuild : Entity.build "Popular albums" "The \"top\"\n" [.obj [("name", .str " title"),
      ("type", .str "varchar"), ("constraints", Json.texts ["notNull", "UNIQUE", "required"])]]
      = .ok e := rfl
  have hcolumns : e.checkColumns = .ok () := rfl
  obtain ⟨-, -, htexts⟩ := draft_survives hbuild (by decide)
  obtain ⟨-, -, hcalls⟩ := htexts _ .line
  refine ⟨hbuild, ?_⟩
  rcases hrun : (performCall (.single true) (creation .null e.toJson.write) .empty).run .bare with
    ⟨f | ⟨arguments, o⟩, w'⟩
  · -- the columns are their own, and a dry run writes no file
    cases (hcalls (.single true) .null .empty .bare w').2 f hrun with
    | columns hturned =>
      rw [hcolumns] at hturned
      cases hturned
    | file _ hreal => cases hreal
  · obtain ⟨-, rfl, -, hdefined, -⟩ :=
      (hcalls (.single true) .null .empty .bare w').1 arguments o hrun
    exact ⟨o, w', rfl, hdefined⟩

/-- A field that is called like a column every table has is built, and the text of its entity is
accepted, but the call is turned down and defines nothing. -/
theorem draft_of_reserved_field_not_defined :
    let e : Entity := ⟨"a", "", [⟨"id", .longText, []⟩]⟩
    Entity.build "a" "" [.obj [("name", .str "id")]] = .ok e ∧
      (performCall (.single false) (creation .null e.toJson.write) .empty).run .bare
        = (.error (.refused (.reservedField "id" "a")), .bare) := by
  intro e
  have hbuild : Entity.build "a" "" [.obj [("name", .str "id")]] = .ok e := rfl
  obtain ⟨hbuilt, -⟩ := Entity.isBuilt_of_build hbuild
  obtain ⟨hparse, hgiven⟩ := hbuilt.parse_draft Text.hasEncoding_nil .line
  have hturned : e.compileSchema = .error (.reservedField "id" "a") :=
    Entity.compileSchema_error_iff.mpr rfl
  have hwrite : (Tool.writeSchema ((RunConfig.single false).context .empty)
      (EntityInput.ofMembers e.members)).run .bare
      = (.error (.refused (.reservedField "id" "a")), .bare) :=
    Tool.writeSchema_error_iff.mpr (.inr ⟨e, hgiven, .inl ⟨_, hturned, rfl, rfl⟩⟩)
  refine ⟨hbuild, ?_⟩
  rw [creation_run hparse, hwrite]

end Run

end Tablewright
