/-
The schema that was written is the schema that is found.

Creating a schema leaves the text of its model in the project (`model_of_creation`), and analysing
the schemas reads every model of the models' directory. Between the two stand the links: the model
is written where its path is resolved to, and read in the directory that the path of the models is
resolved to. `HasPlace` says that this is one place and that the shapes are another; it holds in any
project without links. Then the entity is reported exactly when it is legible (`schema_read_back`).
-/
import Tablewright.Proofs.Files.Directory
import Tablewright.Proofs.Run.Apart
import Tablewright.Proofs.Tool.Analysis
import Tablewright.Proofs.Tool.Routed

set_option autoImplicit false

namespace Tablewright.Tool

variable {t t' : Tree} {ctx : ToolContext} {dir : Location} {input : EntityInput} {e : Entity}
  {o : Outcome} {w w' : World}

/-! ## What a creation leaves -/

/-- After a creation the model stands in the project, if the shapes are another file. -/
theorem model_of_creation (hreal : ctx.dryRun = false) (hbuild : input.build = .ok e)
    (h : (handle ctx (.createSchema input)).run w = (.ok o, w'))
    (hapart : ¬ Project.SameFile w'.tree ctx.root (ArtifactKind.schema.path e.name)
      (ArtifactKind.typeDefinitions.path e.name)) :
    w.tree.Evolves w'.tree ∧
      Project.textAt? w'.tree ctx.root (ArtifactKind.schema.path e.name) = some e.modelText := by
  rw [handle, createSchema_run] at h
  rcases hwrite : (writeSchema ctx input).run w with ⟨f | ⟨e', data⟩, w₁⟩
  · rw [hwrite] at h
    cases h
  · rw [hwrite] at h
    cases h
    obtain ⟨schema, _, _, w₂, hb, hc, hmodel, hshapes, -⟩ := writeSchema_ok_iff.mp hwrite
    obtain rfl := Except.ok.inj (hb.symm.trans hbuild)
    obtain ⟨_, -, hlast⟩ := Effect.result_bind_ok_iff.mp hc
    obtain rfl := Except.ok.inj hlast
    obtain ⟨r, hmodel⟩ := Routed.emit_ok hreal hmodel
    obtain ⟨r', hshapes⟩ := Routed.emit_ok hreal hshapes
    -- the shapes are written after the model, and leave it as another file
    obtain ⟨place, bytes, -, hfirst, hlead, -⟩ := Project.write_ok hmodel
    obtain ⟨_, _, -, hsecond, -⟩ := Project.write_ok hshapes
    have hread := Project.textAt?_of_write hmodel ⟨place, _, hlead, hlead⟩
    exact ⟨hfirst.trans hsecond, Project.textAt?_of_write_ne hshapes hread hapart⟩

/-- Where the model of an entity is written and read, before and after: following the links to the
models' directory meets no circle and ends inside the project, no link stands for the model there,
and the shapes are another file. -/
structure HasPlace (root dir : Location) (name : Text) (t t' : Tree) : Prop where
  follows : t.Follows [] [] (t.landing root ++ ArtifactKind.schema.folders) dir
  inside : t.landing root <+: dir
  no_link : ∀ target, t.get? (dir ++ [ArtifactKind.schema.fileName name]) ≠ some (.link target)
  apart : ¬ Project.SameFile t' root (ArtifactKind.schema.path name)
    (ArtifactKind.typeDefinitions.path name)

/-- Following the links to the model ends in the models' directory. -/
theorem HasPlace.model_follows {root : Location} {name : Text} (h : HasPlace root dir name t t') :
    t.Follows [] []
      (t.landing root ++ ArtifactKind.schema.folders ++ [ArtifactKind.schema.fileName name])
      (dir ++ [ArtifactKind.schema.fileName name]) :=
  h.follows.append (.pass (ArtifactKind.isName_fileName .schema name).ne_up h.no_link (.done _ _))

/-- No link is met at the model, also when more was written. -/
theorem HasPlace.model_plain {root : Location} {name : Text} (h : HasPlace root dir name t t')
    (hevolves : t.Evolves t') : t'.Plain (dir ++ [ArtifactKind.schema.fileName name]) := by
  have hbefore := h.model_follows.plain (Tree.plain_nil t)
  exact ⟨hbefore.no_up, fun p hp link hlink =>
    hbefore.no_link p hp link (hevolves.link_old p link hlink)⟩

/-- A model that stands in the project is read in the models' directory. -/
theorem HasPlace.reads {root : Location} {name text : Text} (h : HasPlace root dir name t t')
    (hevolves : t.Evolves t')
    (htext : Project.textAt? t' root (ArtifactKind.schema.path name) = some text) :
    resolveInProject t' root modelsDirectory = .ok dir ∧ t'.isDirectory dir = .ok true ∧
      t'.listing dir = t'.children dir ∧ ArtifactKind.schema.fileName name ∈ t'.children dir ∧
      Reads t' dir (ArtifactKind.schema.fileName name) text.foldNewlines := by
  obtain ⟨place, bytes, ⟨target, hresolve, hwalk⟩, hbytes⟩ := Project.textAt?_eq_some_iff.mp htext
  obtain ⟨-, base, hbase, htarget, -⟩ := resolveInProject_ok_iff.mp hresolve
  obtain ⟨-, rfl, -⟩ := Tree.resolve_ok_iff.mp hbase
  have hlocation : ∀ l, (Path.ofText (Text.trim (ArtifactKind.schema.path name))).startingAt l
      = l ++ ArtifactKind.schema.folders ++ [ArtifactKind.schema.fileName name] := fun l => by
    rw [ArtifactKind.ofText_path, List.append_assoc]
    rfl
  rw [hlocation] at htarget
  have hroot := Tree.landing_evolves hevolves root
  -- the text stands where the links lead, and nothing more is followed from there
  have htarget' : target = dir ++ [ArtifactKind.schema.fileName name] := by
    rw [(Tree.resolve_ok_iff.mp htarget).2.1, Tree.landing_evolves hevolves, hroot]
    exact Tree.landing_of_follows h.model_follows
  subst htarget'
  obtain rfl := Tree.place_of_walk (h.model_plain hevolves) hwalk
  obtain ⟨d, hd⟩ := Tree.walk_init hwalk
  refine ⟨?_, ?_, ?_, ?_, ?_⟩
  · -- the path of the directory is that of the model without its last name
    refine resolveInProject_ok_iff.mpr ⟨by decide +kernel, _, hbase, ?_, ?_⟩
    · refine Tree.resolve_init htarget hwalk ?_
      rw [Tree.landing_evolves hevolves, hroot]
      exact Tree.landing_of_follows h.follows
    · rw [hroot]
      exact List.isPrefixOf_iff_prefix.mpr h.inside
  · rw [Tree.isDirectory, Tree.status, hd]
    rfl
  · have habove := (h.model_plain hevolves).above (List.prefix_append dir _)
    obtain rfl := Tree.place_of_walk habove hd
    rw [Tree.listing_of_walk hd, Tree.children_stored]
  · rcases Tree.get?_of_walk hwalk with hfile | hfile
    · cases hfile
    · rw [Tree.get?_stored] at hfile
      rw [← ArtifactKind.stored_fileName]
      exact Tree.mem_children_of_get? hfile
  · rw [Reads, Project.readText, FileAction.content, hwalk]
    dsimp only
    rw [hbytes]
    rfl

/-- In a project without links every model has its place. -/
theorem hasPlace_of_unlinked {root : Location} (h : t.Unlinked root) (hevolves : t.Evolves t')
    (name : Text) :
    HasPlace root (t.landing root ++ ArtifactKind.schema.folders) name t t' where
  follows := @Tree.follows_of_plain t [] [] _ (h.plain (by decide))
  inside := List.prefix_append _ _
  no_link target hlink := by
    refine (h _ target hlink).2 ?_
    rw [List.append_assoc]
    exact List.prefix_append _ _
  apart hsame :=
    absurd (ArtifactKind.sharesFile_of_sameFile (h.evolves hevolves) hsame).1 (by decide)

/-- **Reading back.** After a real creation of a schema, where the model has its place and the other
models can be read, an analysis that asks for no label or for one with the canonical name of the
entity has an outcome, and it reports the entity exactly when the entity is legible. -/
theorem schema_read_back (hreal : ctx.dryRun = false) (hbuild : input.build = .ok e)
    (hcreate : (handle ctx (.createSchema input)).run w = (.ok o, w'))
    (hplace : HasPlace ctx.root dir e.name w.tree w'.tree)
    (hothers : ∀ name ∈ w'.tree.children dir, isModelFile name = true →
      name ≠ ArtifactKind.schema.fileName e.name → ∃ source, Reads w'.tree dir name source)
    (ctx' : ToolContext) (hroot : ctx'.root = ctx.root) {entity : Option Text}
    (hlabel : ∀ label ∈ entity, label = [] ∨ Naming.canonical label = e.name) :
    ∃ o', (handle ctx' (.analyzeSchema entity)).run w' = (.ok o', w') ∧
      (e.IsReported (o'.data.items "schemas") ↔ e.IsLegible) := by
  obtain ⟨hbuilt, -⟩ := Entity.isBuilt_of_build hbuild
  obtain ⟨hevolves, htext⟩ := model_of_creation hreal hbuild hcreate hplace.apart
  obtain ⟨hdir, hthere, hlisting, hchild, hreads⟩ := hplace.reads hevolves htext
  rw [Text.foldNewlines_of_not_mem hbuilt.return_not_mem_modelText] at hreads
  rw [← hroot] at hdir
  obtain ⟨o', hrun, hrows⟩ := analyzeSchema_ok entity hdir hthere fun name hname hmodel => by
    rw [hlisting] at hname
    by_cases hself : name = ArtifactKind.schema.fileName e.name
    · exact ⟨_, hself ▸ hreads⟩
    · exact hothers name hname hmodel hself
  -- the only rows about the file are made of the text that was written
  have hown : ∀ row ∈ o'.data.items "schemas",
      row.asMembers.get? "path" = some (.str (ArtifactKind.schema.path e.name)) →
        row = modelRow (ArtifactKind.schema.fileName e.name) e.modelText := by
    intro row hrow hpath
    obtain ⟨name, source, -, hsource, -, rfl⟩ := (hrows row).mp hrow
    obtain rfl := path_modelRow hpath
    rw [Except.ok.inj (hsource.symm.trans hreads)]
  refine ⟨o', Action.look_iff.mpr ⟨hrun, rfl⟩, fun hreported => ?_, fun hlegible => ?_⟩
  · exact (modelRow_eq_row_iff hbuilt).mp (hown _ hreported.row_mem rfl).symm
  · have hrow := (modelRow_eq_row_iff hbuilt).mpr hlegible
    refine ⟨(hrows _).mpr ⟨_, _, ⟨hlisting ▸ hchild, isModelFile_fileName e.name⟩, hreads,
      fun label hmem => ?_, hrow.symm⟩, ?_⟩
    · rw [tableOf, ((Entity.isLegible_iff hbuilt).mp hlegible).1, Option.getD_some]
      exact hlabel label hmem
    · exact fun row hmem hpath => (hown row hmem hpath).trans hrow

/-- A description with quotes around words and a field in two words are read back, also under
another spelling of the label. -/
theorem schema_read_back_of_quotes :
    let ctx : ToolContext := (RunConfig.single false).context .empty
    let input : EntityInput := ⟨"Popular albums", "The \"top\"", [⟨"releaseYear", "integer", []⟩]⟩
    let e : Entity := ⟨"popular_albums", "The \"top\"", [⟨"releaseYear", .integer, []⟩]⟩
    input.build = .ok e ∧ e.columnNames = ["release_year", "id", "created_at", "updated_at"] ∧
      ∃ o w', (handle ctx (.createSchema input)).run .bare = (.ok o, w') ∧
        ∃ o', (handle ctx (.analyzeSchema (some "popular-albums"))).run w' = (.ok o', w') ∧
          e.IsReported (o'.data.items "schemas") := by
  intro ctx input e
  have hbuild : input.build = .ok e := rfl
  -- the creation is carried out once, and then only its file is in the models' directory
  obtain ⟨hok, hchildren⟩ : ((handle ctx (.createSchema input)).run .bare).1.isOk = true ∧
      ((handle ctx (.createSchema input)).run .bare).2.tree.children
        (World.bare.tree.landing [] ++ ArtifactKind.schema.folders)
        = [ArtifactKind.schema.fileName e.name] := by
    decide +kernel
  have hlegible : e.IsLegible := by
    have hcolumns : ModelSource.opened? ModelSource.columnOpening? (Model.commentText e.description)
        = none := by decide +kernel
    have htable : ModelSource.opened? ModelSource.tableOpening? (Model.commentText e.description)
        = none := by decide +kernel
    exact ⟨hcolumns, by rw [htable]; exact nofun, by decide +kernel⟩
  have hevolves := (handle_writesOnly ctx (.createSchema input) .bare).evolves
  rcases hcreate : (handle ctx (.createSchema input)).run .bare with ⟨f | o, w'⟩
  · rw [hcreate] at hok
    cases hok
  · rw [hcreate] at hchildren hevolves
    have hlinks : World.bare.tree.Unlinked [] := Tree.unlinked_of_linkSteps rfl []
    have hlabel : Naming.canonical "popular-albums" = e.name := by decide +kernel
    obtain ⟨o', hrun, hreported⟩ := schema_read_back (w := .bare) rfl hbuild hcreate
      (hasPlace_of_unlinked hlinks hevolves e.name) (fun name hname _ hne => by
        rw [hchildren] at hname
        exact absurd (List.mem_singleton.mp hname) hne)
      ctx rfl (fun label hmem => .inr (Option.some.inj hmem ▸ hlabel))
    exact ⟨hbuild, by decide +kernel, o, w', rfl, o', hrun, hreported.mpr hlegible⟩

/-- A description that opens a column and does not close it takes in the class up to the name of the
table, and this is found as a column. -/
theorem opened_comment_not_read_back :
    let ctx : ToolContext := (RunConfig.single false).context .empty
    let input : EntityInput := ⟨"a", "Column(\"x", []⟩
    let e : Entity := ⟨"a", "Column(\"x", []⟩
    input.build = .ok e ∧
      ∃ o w' o', (handle ctx (.createSchema input)).run .bare = (.ok o, w') ∧
        (handle ctx (.analyzeSchema none)).run w' = (.ok o', w') ∧
        ¬ e.IsReported (o'.data.items "schemas") := by
  intro ctx input e
  -- both calls are carried out once
  obtain ⟨hok, hfound⟩ : ((handle ctx (.createSchema input)).run .bare).1.isOk = true ∧
      ((handle ctx (.analyzeSchema none)).run
        ((handle ctx (.createSchema input)).run .bare).2).1.toOption.map (fun o =>
          (o.data.items "schemas").map fun row => (row.asMembers.items "columns").map Json.asText)
      = some [(["x\nclass A(Base):\n    __tablename__ = ", "id", "created_at", "updated_at"]
          : List Text)] := by
    decide +kernel
  rcases hcreate : (handle ctx (.createSchema input)).run .bare with ⟨f | o, w'⟩
  · rw [hcreate] at hok
    cases hok
  · rw [hcreate] at hfound
    obtain ⟨o', ho', hcolumns⟩ := Effect.result_ok_of_map hfound
    refine ⟨rfl, o, w', o', rfl, Action.look_iff.mpr ⟨ho', rfl⟩, fun hreported => ?_⟩
    have hown := List.mem_map_of_mem hreported.row_mem
      (f := fun row => (row.asMembers.items "columns").map Json.asText)
    rw [hcolumns] at hown
    exact absurd hown (by decide +kernel)

end Tablewright.Tool
