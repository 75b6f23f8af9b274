/-
Generated modules link.

What the endpoint and the seed module of an entity import stands in the two artifacts of its
schema: the module is the file one of them belongs to, and each imported name is a class of that
file. Four templates write these names, some from the label that was asked for and some from the
canonical name; both give the same text, since a canonical name names itself.
-/
import Tablewright.Artifact.Hook
import Tablewright.Proofs.Artifact.Columns
import Tablewright.Proofs.Artifact.Imports
import Tablewright.Proofs.Entity.Built

set_option autoImplicit false

namespace Tablewright

open Text (newline)

/-! ## Declared classes -/

/-- A line stands in a file that is put together from lines. -/
theorem Artifact.mem_lines {a : Artifact} {ls : List Text} (hcontent : a.content = Text.unlines ls)
    {line : Text} (hline : line ∈ ls) (hwhole : newline ∉ line) : line ∈ a.lines := by
  have hsplit : a.lines = ls.flatMap (Text.splitOn newline) := by
    rw [Artifact.lines, hcontent]
    exact Text.splitOn_join_flatMap (List.ne_nil_of_mem hline)
  rw [hsplit, List.mem_flatMap]
  exact ⟨line, hline, by rw [Text.splitOn_eq_singleton hwhole]; exact List.mem_cons_self⟩

/-- The line of a class declares it. -/
theorem Artifact.declares_of_mem {a : Artifact} {ls : List Text} {name rest : Text}
    (hcontent : a.content = Text.unlines ls) (hline : "class " ++ name ++ "(" ++ rest ∈ ls)
    (hname : newline ∉ name) (hrest : newline ∉ rest) : a.Declares name := by
  refine ⟨_, mem_lines hcontent hline ?_, Text.startsWith_iff.mpr (List.prefix_append _ _)⟩
  simp only [List.mem_append, not_or]
  exact ⟨⟨⟨by decide, hname⟩, by decide⟩, hrest⟩

/-- The model declares its class. -/
theorem Model.mem_lines_class (e : Entity) :
    "class " ++ e.names.model ++ "(" ++ "Base):" ∈ Model.lines e := by
  have hhead : "class " ++ e.names.model ++ "(" ++ "Base):" ∈ Model.classHead e.names := by
    rw [List.append_assoc]
    exact List.mem_cons_self
  simp only [Model.lines, List.mem_append]
  exact .inl (.inl (.inl (.inr hhead)))

/-- The shapes declare the three classes of shapes. -/
theorem Shapes.mem_lines_class (e : Entity) {name : Text}
    (h : name ∈ [e.names.insertShape, e.names.selectShape, e.names.updateShape]) :
    "class " ++ name ++ "(" ++ "BaseModel):" ∈ Shapes.lines e := by
  have hhead (configuration : Text) :
      "class " ++ name ++ "(" ++ "BaseModel):" ∈ Shapes.classHead name configuration := by
    rw [List.append_assoc]
    exact List.mem_cons_self
  simp only [List.mem_cons, List.not_mem_nil, or_false] at h
  simp only [Shapes.lines, Shapes.insertLines, Shapes.updateLines, Shapes.selectLines,
    List.mem_append]
  rcases h with rfl | rfl | rfl
  · exact .inl (.inl (.inl (.inl (.inl (.inr (.inl (hhead _)))))))
  · exact .inl (.inr (.inl (.inl (hhead _))))
  · exact .inl (.inl (.inl (.inr (.inl (hhead _)))))

/-! ## Resolved imports -/

/-- An import of a schema: the module is the file of an artifact of the schema, and that artifact
declares every name that is imported. -/
def Import.Resolves (schema : Schema) (i : Import) : Prop :=
  ∃ a ∈ [schema.model, schema.shapes], i.path = a.path ∧ ∀ name ∈ i.names, a.Declares name

section Schema

variable {e : Entity} {schema : Schema}

/-- The import of the model resolves in the schema. -/
theorem Names.resolves_modelImport (h : e.compileSchema = .ok schema) :
    e.names.modelImport.Resolves schema := by
  obtain ⟨-, rfl⟩ := Entity.compileSchema_ok_iff.mp h
  refine ⟨_, List.mem_cons_self, Linkable.path_modelImport e.name, fun name hname => ?_⟩
  obtain rfl := List.mem_singleton.mp hname
  exact Artifact.declares_of_mem rfl (Model.mem_lines_class e)
    (linkable_ofLabel e.name).model.newline (by decide)

/-- An import of shapes of the entity resolves in the schema. -/
theorem Names.resolves_shapesImport (h : e.compileSchema = .ok schema) {shapes : List Text}
    (hshapes : shapes ⊆ [e.names.insertShape, e.names.selectShape, e.names.updateShape]) :
    (e.names.shapesImport shapes).Resolves schema := by
  obtain ⟨-, rfl⟩ := Entity.compileSchema_ok_iff.mp h
  refine ⟨_, List.mem_cons_of_mem _ List.mem_cons_self, Linkable.path_shapesImport e.name shapes,
    fun name hname => ?_⟩
  have hn : e.names.Linkable := linkable_ofLabel e.name
  have hwhole : ∀ y ∈ [e.names.insertShape, e.names.selectShape, e.names.updateShape],
      newline ∉ y := by
    simp only [List.forall_mem_cons]
    exact ⟨hn.insertShape.newline, hn.selectShape.newline, hn.updateShape.newline,
      List.forall_mem_nil _⟩
  exact Artifact.declares_of_mem rfl (Shapes.mem_lines_class e (hshapes hname))
    (hwhole name (hshapes hname)) (by decide)

end Schema

/-! ## Labels of one canonical name -/

section Labels

variable {label other : Text}

/-- Labels of one canonical name have the same names. -/
theorem Names.ofLabel_congr (h : Naming.canonical label = Naming.canonical other) :
    ofLabel label = ofLabel other := by
  rw [ofLabel, ofLabel, h]

/-- Labels of one canonical name have the same route. -/
theorem Route.path_congr (h : Naming.canonical label = Naming.canonical other)
    (route : Option Text) : path label route = path other route := by
  rw [path, path, Names.ofLabel_congr h]

/-- Labels of one canonical name have the same endpoints. -/
theorem compileEndpoint_congr (h : Naming.canonical label = Naming.canonical other)
    (methods : List Json) (route : Option Text) :
    compileEndpoint label methods route = compileEndpoint other methods route := by
  rw [compileEndpoint, compileEndpoint, Names.ofLabel_congr h, Route.path_congr h]

/-- Labels of one canonical name have the same hook. -/
theorem compileHook_congr (h : Naming.canonical label = Naming.canonical other)
    (route : Option Text) : compileHook label route = compileHook other route := by
  rw [compileHook, compileHook, Names.ofLabel_congr h, Route.path_congr h]

/-- Labels of one canonical name have the same paths. -/
theorem ArtifactKind.path_congr (h : Naming.canonical label = Naming.canonical other)
    (k : ArtifactKind) : k.path label = k.path other :=
  (path_eq_path_iff k k label other).mpr ⟨rfl, .inl h⟩

end Labels

/-! ## Linking -/

/-- The modules of an entity link against a schema. -/
structure Entity.Links (e : Entity) (schema : Schema) : Prop where
  /-- The schema is the one at the paths of the entity. -/
  placed : schema.model.path = ArtifactKind.schema.path e.name ∧
    schema.shapes.path = ArtifactKind.typeDefinitions.path e.name
  /-- Whatever operations are asked for, and at whatever route, there is an endpoint. It imports
  the model and the three shapes, and every import resolves. -/
  endpoint : ∀ methods selected route, Method.select methods = .ok selected →
    ∃ a, compileEndpoint e.name methods route = .ok a ∧ a.imports = Endpoint.needs e.names ∧
      ∀ i ∈ a.imports, i.Resolves schema
  /-- For all rows that are accepted there is a seed module. It imports the model and the shape of
  new rows, and every import resolves. -/
  seed : ∀ rows accepted, Seed.checkRows e rows = .ok accepted →
    ∃ a, e.compileSeed rows = .ok a ∧ a.imports = Seed.needs e.names ∧
      ∀ i ∈ a.imports, i.Resolves schema
  /-- Any label of the entity's name gives the same endpoints, hooks and paths. -/
  label : ∀ label, Naming.canonical label = e.name →
    (∀ methods route,
      compileEndpoint label methods route = compileEndpoint e.name methods route) ∧
    (∀ route, compileHook label route = compileHook e.name route) ∧
    ∀ k : ArtifactKind, k.path label = k.path e.name

/-- **Linking.** A built entity links against its schema: whatever its operations, its route and its
rows, every generated module that its endpoint and its seed module import is a file of the schema,
and every imported name is a class of that file. The label under which the endpoint and the hook are
asked for makes no difference, as long as it has the name of the entity. -/
theorem Entity.links_of_build {label description : Text} {fields : List Json} {e : Entity}
    {schema : Schema} (hbuild : Entity.build label description fields = .ok e)
    (hschema : e.compileSchema = .ok schema) : e.Links schema where
  placed := by
    obtain ⟨-, rfl⟩ := compileSchema_ok_iff.mp hschema
    exact ⟨rfl, rfl⟩
  endpoint methods selected route hselect := by
    have hcompiled : ∃ a, compileEndpoint e.name methods route = .ok a :=
      ⟨_, Effect.result_bind_ok_iff.mpr ⟨selected, hselect, rfl⟩⟩
    obtain ⟨a, ha⟩ := hcompiled
    have himports : a.imports = Endpoint.needs e.names := imports_compileEndpoint ha
    refine ⟨a, ha, himports, ?_⟩
    rw [himports, Endpoint.needs]
    simp only [List.forall_mem_cons]
    exact ⟨Names.resolves_modelImport hschema,
      Names.resolves_shapesImport hschema (List.Subset.refl _), List.forall_mem_nil _⟩
  seed rows accepted haccepted := by
    obtain ⟨hcheck, -⟩ := compileSchema_ok_iff.mp hschema
    have hcompiled : ∃ a, e.compileSeed rows = .ok a :=
      ⟨_, Effect.result_bind_ok_iff.mpr ⟨(), hcheck,
        Effect.result_bind_ok_iff.mpr ⟨accepted, haccepted, rfl⟩⟩⟩
    obtain ⟨a, ha⟩ := hcompiled
    have himports : a.imports = Seed.needs e.names := imports_compileSeed ha
    refine ⟨a, ha, himports, ?_⟩
    rw [himports, Seed.needs]
    simp only [List.forall_mem_cons]
    refine ⟨Names.resolves_modelImport hschema,
      Names.resolves_shapesImport hschema fun _ hname => ?_, List.forall_mem_nil _⟩
    rw [List.mem_singleton.mp hname]
    exact List.mem_cons_self
  label other hother := by
    have hsame : Naming.canonical other = Naming.canonical e.name := by
      rw [hother, (isBuilt_of_build hbuild).1.canonical]
    exact ⟨compileEndpoint_congr hsame, compileHook_congr hsame, ArtifactKind.path_congr hsame⟩

theorem Entity.links_blogPost :
    let e : Entity := ⟨"blog_post", "what is read", [⟨"title", .shortText, [.required]⟩]⟩
    let schema : Schema :=
      { model := ⟨.schema, "blog_post", "app/models/blog_post.py", e.modelText⟩
        shapes := ⟨.typeDefinitions, "blog_post", "app/schemas/blog_post.py", e.shapesText⟩ }
    let row : Members := [("title", .str "first\nfrom app.models.x import X")]
    Entity.build "Blog Post" "what is read" [.obj [("name", .str "title"), ("kind", .str "string"),
        ("constraints", .arr [.str "required"])]] = .ok e ∧
      e.compileSchema = .ok schema ∧ Method.select Method.everything = .ok Method.all ∧
      Seed.checkRows e [row] = .ok [row] ∧ e.Links schema := by
  intro e schema row
  have hbuild : Entity.build "Blog Post" "what is read" [.obj [("name", .str "title"),
      ("kind", .str "string"), ("constraints", .arr [.str "required"])]] = .ok e := rfl
  have hschema : e.compileSchema = .ok schema := rfl
  exact ⟨hbuild, hschema, rfl, rfl, links_of_build hbuild hschema⟩

end Tablewright
