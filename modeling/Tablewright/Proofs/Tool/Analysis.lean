/-
What an analysis of the schemas reports.

Every model of the models' directory is read and gives a row, unless another table is wanted
(`analyzeSchema_ok`). The row of a model that was generated has the table and the columns of its
entity exactly when the entity is legible (`modelRow_eq_row_iff`).
-/
import Tablewright.Proofs.Action
import Tablewright.Proofs.Artifact.Place
import Tablewright.Proofs.Tool.Legible
import Tablewright.Tool.Handlers

set_option autoImplicit false

namespace Tablewright

/-- The row of an entity whose model is read back as it was written. -/
def Entity.row (e : Entity) : Json :=
  .obj [("path", .str (ArtifactKind.schema.path e.name)), ("table", .str e.name),
    ("columns", Json.texts e.columnNames)]

/-- An analysis reports an entity: the row of its file is there, with the table and the columns of
the entity, and no other row is about the file. -/
structure Entity.IsReported (e : Entity) (rows : List Json) : Prop where
  row_mem : e.row ∈ rows
  only : ∀ row ∈ rows, row.asMembers.get? "path" = some (.str (ArtifactKind.schema.path e.name)) →
    row = e.row

namespace Tool

variable {t : Tree} {ctx : ToolContext} {dir : Location}

/-! ## Analysing the schemas -/

/-- A file of the models' directory is read. -/
def Reads (t : Tree) (dir : Location) (name source : Text) : Prop :=
  Project.readText t (dir ++ [name]) (modelsDirectory ++ "/" ++ name) = .ok source

/-- The table of a model: the one it declares, or else the one its file is called by. -/
def tableOf (name source : Text) : Text :=
  (ModelSource.table? source).getD (ModelSource.stem name)

/-- The row of a model. -/
def modelRow (name source : Text) : Json :=
  .obj [("path", .str (modelsDirectory ++ "/" ++ name)), ("table", .str (tableOf name source)),
    ("columns", Json.texts (ModelSource.columns source))]

/-- Whether a table is wanted by the label that is asked for, if one is. -/
def Wanted (entity : Option Text) (table : Text) : Prop :=
  ∀ label ∈ entity, label = [] ∨ Naming.canonical label = table

theorem wanted_iff {entity : Option Text} {table : Text} :
    (((entity.filter fun label => !label.isEmpty).map Naming.canonical).all fun w => w = table)
      = true ↔ Wanted entity table := by
  cases entity with
  | none => exact iff_of_true rfl nofun
  | some label =>
    cases label with
    | nil => exact iff_of_true rfl fun label hlabel => .inl (Option.some.inj hlabel).symm
    | cons c r => simp [Wanted, Option.filter]

/-- A model that is read is summarised as its row, if its table is wanted. -/
theorem summarizeModel_ok {name source : Text} (h : Reads t dir name source)
    (entity : Option Text) :
    ∃ q, summarizeModel t dir
        ((entity.filter fun label => !label.isEmpty).map Naming.canonical) name = .ok q ∧
      ∀ row, q = some row ↔
        Wanted entity (tableOf name source) ∧ row = modelRow name source := by
  rw [summarizeModel]
  by_cases hwanted : Wanted entity (tableOf name source)
  · refine ⟨some (modelRow name source), Effect.result_bind_ok_iff.mpr ⟨source, h, ?_⟩,
      fun row => ?_⟩
    · exact if_pos (wanted_iff.mpr hwanted)
    · rw [Option.some.injEq, eq_comm]
      exact (and_iff_right hwanted).symm
  · refine ⟨none, Effect.result_bind_ok_iff.mpr ⟨source, h, ?_⟩, fun row => ?_⟩
    · exact if_neg fun hall => hwanted (wanted_iff.mp hall)
    · exact iff_of_false nofun fun hrow => hwanted hrow.1

/-- What comes of an analysis that found some schemas. -/
def analysisOutcome (ctx : ToolContext) (schemas : List Json) : Outcome :=
  Outcome.success ("Found " ++ Text.ofNat schemas.length ++ " schema file(s)")
    [("schemas", .arr schemas), ("pendingStages", .obj (pendingStages ctx.state))]

/-- Where every model is read, the rows are those of the models whose table is wanted. -/
theorem analyzeSchema_ok (entity : Option Text)
    (hdir : resolveInProject t ctx.root modelsDirectory = .ok dir)
    (hthere : t.isDirectory dir = .ok true)
    (hread : ∀ name ∈ t.listing dir, isModelFile name = true → ∃ source, Reads t dir name source) :
    ∃ o, analyzeSchema ctx entity t = .ok o ∧
      ∀ row, row ∈ o.data.items "schemas" ↔
        ∃ name source, (name ∈ t.listing dir ∧ isModelFile name = true) ∧ Reads t dir name source ∧
          Wanted entity (tableOf name source) ∧ row = modelRow name source := by
  have hnames : ∀ name, name ∈ Text.sort ((t.listing dir).filter isModelFile) ↔
      name ∈ t.listing dir ∧ isModelFile name = true := fun name => by
    rw [Text.sort, List.mem_mergeSort, List.mem_filter]
  obtain ⟨found, hfound, hmem⟩ := Effect.result_mapM_ok fun name hname => by
    obtain ⟨hchild, hmodel⟩ := (hnames name).mp hname
    obtain ⟨source, hsource⟩ := hread name hchild hmodel
    obtain ⟨q, hq, -⟩ := summarizeModel_ok hsource entity
    exact ⟨q, hq⟩
  refine ⟨analysisOutcome ctx (found.filterMap id), ?_, fun row => ?_⟩
  · refine Effect.result_bind_ok_iff.mpr ⟨dir, hdir, ?_⟩
    rw [hthere]
    exact Effect.result_bind_ok_iff.mpr ⟨found, hfound, rfl⟩
  · -- the files are listed in order, but which rows there are does not depend on it
    have hrows : row ∈ found.filterMap id ↔ some row ∈ found := by simp
    refine hrows.trans ((hmem (some row)).trans ?_)
    constructor
    · rintro ⟨name, hname, hrow⟩
      obtain ⟨hchild, hmodel⟩ := (hnames name).mp hname
      obtain ⟨source, hsource⟩ := hread name hchild hmodel
      obtain ⟨q, hq, hrow'⟩ := summarizeModel_ok hsource entity
      obtain rfl := Except.ok.inj (hq.symm.trans hrow)
      exact ⟨name, source, ⟨hchild, hmodel⟩, hsource, (hrow' row).mp rfl⟩
    · rintro ⟨name, source, hname, hsource, hrow⟩
      obtain ⟨q, hq, hrow'⟩ := summarizeModel_ok hsource entity
      obtain rfl := (hrow' row).mpr hrow
      exact ⟨name, (hnames name).mpr hname, hq⟩

/-! ## The row of an entity -/

/-- The file of an entity's model is one. -/
theorem isModelFile_fileName (name : Text) :
    isModelFile (ArtifactKind.schema.fileName name) = true := by
  have hends : Text.endsWith (ArtifactKind.schema.fileName name) ".py" = true := by
    rw [Text.endsWith, ArtifactKind.fileName, List.reverse_append, Text.dropStart?_append]
    rfl
  have hother : ArtifactKind.schema.fileName name ≠ Text.ofString "__init__.py" := fun h => by
    have hname : (Names.ofLabel name).canonical = Text.ofString "__init__" :=
      List.append_cancel_right (h.trans (by rfl : _ = Text.ofString "__init__" ++ ".py"))
    obtain ⟨_, hspells⟩ := Naming.exists_spells_canonical name
    have hstart : Naming.startsLower (Naming.canonical name) = true := hspells.startsLower
    rw [show Naming.canonical name = Text.ofString "__init__" from hname] at hstart
    exact absurd hstart (by decide)
  rw [isModelFile, hends, decide_eq_true hother]
  rfl

theorem path_eq (name : Text) : ArtifactKind.schema.path name
    = modelsDirectory ++ "/" ++ ArtifactKind.schema.fileName name := by
  rw [ArtifactKind.fileName, ← List.append_assoc]
  rfl

/-- The row of a model has the path of an entity's model only if it is the file of the entity. -/
theorem path_modelRow {name source label : Text}
    (h : (modelRow name source).asMembers.get? "path"
      = some (.str (ArtifactKind.schema.path label))) :
    name = ArtifactKind.schema.fileName label := by
  rw [path_eq] at h
  have hpath : some (Json.str (modelsDirectory ++ "/" ++ name))
      = some (.str (modelsDirectory ++ "/" ++ ArtifactKind.schema.fileName label)) := h
  exact List.append_cancel_left (Json.str.inj (Option.some.inj hpath))

/-- The row of an entity's own model is the entity's, exactly when the entity is legible. -/
theorem modelRow_eq_row_iff {e : Entity} (h : e.IsBuilt) :
    modelRow (ArtifactKind.schema.fileName e.name) e.modelText = e.row ↔ e.IsLegible := by
  obtain ⟨table, htable⟩ := e.exists_table?_modelText
  have htexts : ∀ ts us : List Text, Json.texts ts = Json.texts us ↔ ts = us := fun ts us => by
    rw [Json.texts, Json.texts, Json.arr.injEq]
    exact (List.map_injective_iff.mpr fun _ _ hs => Json.str.inj hs).eq_iff
  rw [Entity.isLegible_iff h, htable, Option.some.injEq, modelRow, Entity.row, tableOf, htable,
    path_eq, Option.getD_some]
  simp [htexts]

end Tool

end Tablewright
