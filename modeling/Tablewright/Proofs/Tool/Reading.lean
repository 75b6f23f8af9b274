/-
What a tool reads.

Three tools look into files: `read_file`, `edit_file` where there is something to replace, and
`analyze_schema`. `Tool.LooksInto` lists the places of these files. It lists all of them: what comes
of a tool in two worlds that differ in no file it looks into is the same (`handle_matches`).

A file that is asked for by its path is looked for at the location the path is resolved to, and if
no link is left on that location the file is inside the project. The models are not asked for one by
one. They are the entries of their directory, and an entry that is a link is followed wherever it
leads (`LooksInto.inside_or_linked`).
-/
import Tablewright.Proofs.Files.Alike
import Tablewright.Proofs.Files.Directory
import Tablewright.Proofs.Files.Inside
import Tablewright.Proofs.Tool.Lesson

set_option autoImplicit false

namespace Tablewright

/-! ## Worlds -/

/-- Two worlds that differ in what hidden files hold, and in nothing else. -/
structure World.Alike (hidden : Location → Prop) (w w' : World) : Prop where
  tree : w.tree.Alike hidden w'.tree
  script : w.script = w'.script
  spawned : w.spawned = w'.spawned

namespace Action

variable {α β : Type} {hidden : Location → Prop} {w w' : World}

theorem matches_look (h : w.Alike hidden w') {g : Tree → Except Failure α}
    (hg : g w.tree = g w'.tree) :
    Effect.Matches (World.Alike hidden) ((look g).run w) ((look g).run w') := ⟨hg, h⟩

theorem matches_ofExcept (h : w.Alike hidden w') (r : Except Failure α) :
    Effect.Matches (World.Alike hidden) ((ofExcept r).run w) ((ofExcept r).run w') := ⟨rfl, h⟩

theorem matches_ofRefusal (h : w.Alike hidden w') (r : Except Refusal α) :
    Effect.Matches (World.Alike hidden) ((ofRefusal r).run w) ((ofRefusal r).run w') := ⟨rfl, h⟩

theorem matches_onFiles (h : w.Alike hidden w') {a : FileAction α}
    (ha : Effect.Matches (Tree.Alike hidden) (a.run w.tree) (a.run w'.tree)) :
    Effect.Matches (World.Alike hidden) ((onFiles a).run w) ((onFiles a).run w') :=
  ⟨ha.result, ha.state, h.script, h.spawned⟩

/-- What a process does is told by the script, not by the files. -/
theorem matches_spawn (h : w.Alike hidden w') (p : Spawn) :
    Effect.Matches (World.Alike hidden) ((spawn p).run w) ((spawn p).run w') := by
  cases hflaw : p.flaw? with
  | some flaw =>
    rw [spawn_run_of_flaw hflaw, spawn_run_of_flaw hflaw]
    exact ⟨rfl, h⟩
  | none =>
    rw [spawn_run hflaw, spawn_run hflaw, World.upcoming, World.upcoming, World.start, World.start,
      h.script, h.spawned]
    exact ⟨rfl, h.tree, rfl, rfl⟩

end Action

namespace Tool

/-! ## Places -/

/-- The tool looks into the file at the place. -/
inductive LooksInto (ctx : ToolContext) (t : Tree) : ToolInput → Location → Prop
  /-- A file is read. -/
  | readFile {path : Text} {place : Location} {n : Node}
      (h : Project.LeadsTo t ctx.root path place n) (hn : n.isFile = true) :
      LooksInto ctx t (.readFile path) place
  /-- The text to replace is looked for in a file. -/
  | editFile {path new : Text} {old : Option Text} {place : Location} {n : Node}
      (hreal : ctx.dryRun = false) (hold : Text.orEmpty old ≠ []) (hdiffer : Text.orEmpty old ≠ new)
      (h : Project.LeadsTo t ctx.root path place n) (hn : n.isFile = true) :
      LooksInto ctx t (.editFile path old new) place
  /-- The models are summarised. -/
  | analyzeSchema {entity : Option Text} {directory place : Location} {name : Text} {n : Node}
      (hdirectory : resolveInProject t ctx.root modelsDirectory = .ok directory)
      (hname : name ∈ t.listing directory) (hmodel : isModelFile name = true)
      (h : t.walk true (directory ++ [name]) = .ok (.existing place n)) (hn : n.isFile = true) :
      LooksInto ctx t (.analyzeSchema entity) place

/-! ## Nothing else is read -/

variable {ctx : ToolContext} {hidden : Location → Prop} {t t' : Tree} {w w' : World}

theorem listFiles_alike (h : t.Alike hidden t') (ctx : ToolContext) (path : Option Text) :
    listFiles ctx path t = listFiles ctx path t' := by
  have hshown : shownEntry t = shownEntry t' := by
    funext directory name
    rw [shownEntry, shownEntry, h.isDirectory]
  have hentries : entries t = entries t' := by
    funext directory
    rw [entries, entries, h.listing, hshown]
  rw [listFiles, listFiles]
  simp only [h.resolveInProject, h.isDirectory, hentries]

theorem readFile_alike (h : t.Alike hidden t') {path : Text}
    (hshown : ∀ place, LooksInto ctx t (.readFile path) place → ¬ hidden place) :
    readFile ctx path t = readFile ctx path t' := by
  rw [readFile, readFile, ← h.resolveInProject]
  refine Effect.result_bind_congr fun target htarget => ?_
  have hread : Project.readText t target path = Project.readText t' target path :=
    Project.readText_alike h (fun place n hwalk hn =>
      hshown place (.readFile ⟨target, htarget, hwalk⟩ hn)) path
  rw [hread, h.isFile]

theorem analyzeSchema_alike (h : t.Alike hidden t') {entity : Option Text}
    (hshown : ∀ place, LooksInto ctx t (.analyzeSchema entity) place → ¬ hidden place) :
    analyzeSchema ctx entity t = analyzeSchema ctx entity t' := by
  rw [analyzeSchema, analyzeSchema, ← h.resolveInProject]
  refine Effect.result_bind_congr fun directory hdirectory => ?_
  have hmodels (wanted : Option Text) :
      (Text.sort ((t.listing directory).filter isModelFile)).mapM
          (summarizeModel t directory wanted)
        = (Text.sort ((t.listing directory).filter isModelFile)).mapM
          (summarizeModel t' directory wanted) := by
    refine Effect.result_mapM_congr fun name hname => ?_
    rw [Text.sort, List.mem_mergeSort, List.mem_filter] at hname
    rw [summarizeModel, summarizeModel, Project.readText_alike h fun place n hwalk hn =>
      hshown place (.analyzeSchema hdirectory hname.1 hname.2 hwalk hn)]
  simp only [← h.isDirectory, ← h.listing, hmodels]

/-! ## Handlers -/

theorem matches_emit (h : w.Alike hidden w') (ctx : ToolContext) (a : Artifact) :
    Effect.Matches (World.Alike hidden) ((emit ctx a).run w) ((emit ctx a).run w') := by
  rw [emit]
  split
  · exact Effect.matches_pure h _
  · refine (Action.matches_onFiles h (Project.matches_write h.tree _ _ _)).bind
      fun written w₁ w₁' _ h₁ => ?_
    exact Effect.matches_pure h₁ _

theorem matches_previewChange (h : w.Alike hidden w') (ctx : ToolContext) (verb path : Text) :
    Effect.Matches (World.Alike hidden) ((previewChange ctx verb path).run w)
      ((previewChange ctx verb path).run w') := by
  refine (Action.matches_look h (h.tree.resolveInProject ctx.root path)).bind
    fun _ w₁ w₁' _ h₁ => ?_
  exact Effect.matches_pure h₁ _

theorem matches_writeFile (h : w.Alike hidden w') (ctx : ToolContext) (path content : Text) :
    Effect.Matches (World.Alike hidden) ((writeFile ctx path content).run w)
      ((writeFile ctx path content).run w') := by
  rw [writeFile]
  split
  · exact matches_previewChange h ctx _ path
  · refine (Action.matches_onFiles h (Project.matches_write h.tree _ _ _)).bind
      fun written w₁ w₁' _ h₁ => ?_
    exact Effect.matches_pure h₁ _

theorem matches_editFile (h : w.Alike hidden w') {path new : Text} {old : Option Text}
    (hshown : ∀ place, LooksInto ctx w.tree (.editFile path old new) place → ¬ hidden place) :
    Effect.Matches (World.Alike hidden) ((editFile ctx path old new).run w)
      ((editFile ctx path old new).run w') := by
  rw [editFile]
  split
  case isTrue => exact matches_previewChange h ctx _ path
  case isFalse hreal =>
    have hedit := Project.matches_edit h.tree ctx.root path fun hold hdiffer place n hlead hn =>
      hshown place (.editFile (by simpa using hreal) hold hdiffer hlead hn)
    refine (Action.matches_onFiles h hedit).bind fun written w₁ w₁' _ h₁ => ?_
    exact Effect.matches_pure h₁ _

theorem matches_emitSchema (h : w.Alike hidden w') (ctx : ToolContext) (e : Entity) :
    Effect.Matches (World.Alike hidden) ((emitSchema ctx e).run w)
      ((emitSchema ctx e).run w') := by
  refine (Action.matches_ofRefusal h e.compileSchema).bind fun schema w₁ w₁' _ h₁ => ?_
  refine (matches_emit h₁ ctx schema.model).bind fun model w₂ w₂' _ h₂ => ?_
  refine (matches_emit h₂ ctx schema.shapes).bind fun shapes w₃ w₃' _ h₃ => ?_
  exact Effect.matches_pure h₃ _

theorem matches_attempt {α : Type} {a : Action α}
    (ha : Effect.Matches (World.Alike hidden) (a.run w) (a.run w')) :
    Effect.Matches (World.Alike hidden) ((attempt a).run w) ((attempt a).run w') := by
  obtain ⟨hresult, hstate⟩ := ha
  rw [attempt_run, attempt_run]
  rcases h : a.run w with ⟨q, w₁⟩
  rcases h' : a.run w' with ⟨q', w₁'⟩
  rw [h, h'] at hresult hstate
  dsimp only at hresult hstate
  obtain rfl := hresult
  cases q with
  | ok x => exact ⟨rfl, hstate⟩
  | error f => cases f <;> exact ⟨rfl, hstate⟩

theorem matches_attemptSchemas (h : w.Alike hidden w') (ctx : ToolContext)
    (inputs : List EntityInput) :
    Effect.Matches (World.Alike hidden) ((attemptSchemas ctx inputs).run w)
      ((attemptSchemas ctx inputs).run w') := by
  induction inputs generalizing w w' with
  | nil => exact Effect.matches_pure h _
  | cons input rest ih =>
    refine (matches_attempt ?_).bind fun result w₁ w₁' _ h₁ => ?_
    · refine (Action.matches_ofExcept h input.build).bind fun e w₁ w₁' _ h₁ => ?_
      refine (matches_emitSchema h₁ ctx e).bind fun data w₂ w₂' _ h₂ => ?_
      exact Effect.matches_pure h₂ _
    · refine (ih h₁).bind fun others w₂ w₂' _ h₂ => ?_
      exact Effect.matches_pure h₂ _

theorem matches_runMigrationCommand (h : w.Alike hidden w') (ctx : ToolContext) (command : Text)
    (label flag : Option Text) :
    Effect.Matches (World.Alike hidden) ((runMigrationCommand ctx command label flag).run w)
      ((runMigrationCommand ctx command label flag).run w') := by
  rw [runMigrationCommand]
  split
  · refine (Action.matches_ofExcept h _).bind fun words w₁ w₁' _ h₁ => ?_
    exact Effect.matches_pure h₁ _
  · have hrun : Effect.Matches (World.Alike hidden)
        (((Command.line command).run label flag (some ctx.root.text) ctx.limit).run w)
        (((Command.line command).run label flag (some ctx.root.text) ctx.limit).run w') := by
      refine (Action.matches_ofExcept h _).bind fun words w₁ w₁' _ h₁ => ?_
      refine (Action.matches_spawn h₁ _).bind fun event w₂ w₂' _ h₂ => ?_
      cases event with
      | ended status stdout stderr => exact Effect.matches_pure h₂ _
      | timedOut | refused _ | unread _ _ | interrupted => exact Effect.matches_throw h₂ _
    refine hrun.bind fun result w₁ w₁' _ h₁ => ?_
    split
    · exact Effect.matches_throw h₁ _
    · exact Effect.matches_pure h₁ _

/-- **Nothing else is read.** What comes of a tool in two worlds that differ in hidden files only is
the same if it looks into none of these, and afterwards the worlds differ in hidden files only. -/
theorem handle_matches (h : w.Alike hidden w') {input : ToolInput}
    (hshown : ∀ place, LooksInto ctx w.tree input place → ¬ hidden place) :
    Effect.Matches (World.Alike hidden) ((handle ctx input).run w) ((handle ctx input).run w') := by
  cases input with
  | listFiles path => exact Action.matches_look h (listFiles_alike h.tree ctx path)
  | readFile path => exact Action.matches_look h (readFile_alike h.tree hshown)
  | writeFile path content => exact matches_writeFile h ctx path content
  | editFile path old new => exact matches_editFile h hshown
  | analyzeRequest request => exact Effect.matches_pure h _
  | analyzeSchema entity => exact Action.matches_look h (analyzeSchema_alike h.tree hshown)
  | createSchema input =>
    refine (Action.matches_ofExcept h input.build).bind fun e w₁ w₁' _ h₁ => ?_
    refine (matches_emitSchema h₁ ctx e).bind fun data w₂ w₂' _ h₂ => ?_
    exact Effect.matches_pure h₂ _
  | createMultipleSchemas inputs =>
    refine (matches_attemptSchemas h ctx inputs).bind fun attempts w₁ w₁' _ h₁ => ?_
    exact Effect.matches_pure h₁ _
  | generateMigration label =>
    change Effect.Matches _ ((generateMigration ctx label).run w)
      ((generateMigration ctx label).run w')
    rw [generateMigration]
    split
    · exact Effect.matches_throw h _
    · refine (matches_runMigrationCommand h ctx _ label _).bind fun data w₁ w₁' _ h₁ => ?_
      exact Effect.matches_pure h₁ _
  | runMigration =>
    change Effect.Matches _ ((runMigration ctx).run w) ((runMigration ctx).run w')
    rw [runMigration]
    split
    · exact Effect.matches_throw h _
    · refine (matches_runMigrationCommand h ctx _ none none).bind fun data w₁ w₁' _ h₁ => ?_
      exact Effect.matches_pure h₁ _
  | createApiEndpoint label methods route =>
    refine (Action.matches_ofRefusal h _).bind fun _ w₁ w₁' _ h₁ => ?_
    refine (Action.matches_ofRefusal h₁ _).bind fun artifact w₂ w₂' _ h₂ => ?_
    refine (matches_emit h₂ ctx artifact).bind fun data w₃ w₃' _ h₃ => ?_
    exact Effect.matches_pure h₃ _
  | createApiClientHook label route =>
    refine (Action.matches_ofRefusal h _).bind fun _ w₁ w₁' _ h₁ => ?_
    refine (matches_emit h₁ ctx _).bind fun data w₂ w₂' _ h₂ => ?_
    exact Effect.matches_pure h₂ _
  | seedDatabase label rows =>
    refine (Action.matches_ofRefusal h _).bind fun _ w₁ w₁' _ h₁ => ?_
    split
    · exact Effect.matches_throw h₁ _
    · refine (Action.matches_ofRefusal h₁ _).bind fun artifact w₂ w₂' _ h₂ => ?_
      refine (matches_emit h₂ ctx artifact).bind fun data w₃ w₃' _ h₃ => ?_
      exact Effect.matches_pure h₃ _

/-! ## Where a tool looks -/

/-- The path a tool resolves to look into files. -/
def readPath? : ToolInput → Option Text
  | .readFile path | .editFile path _ _ => some path
  | .analyzeSchema _ => some modelsDirectory
  | .listFiles _ | .writeFile _ _ | .analyzeRequest _ | .createSchema _ | .createMultipleSchemas _
  | .generateMigration _ | .runMigration | .createApiEndpoint _ _ _ | .createApiClientHook _ _
  | .seedDatabase _ _ => none

/-- A model is a link, and the place is what it leads to. -/
def IsLinkedModel (t : Tree) (root place : Location) : Prop :=
  ∃ directory name target n, resolveInProject t root modelsDirectory = .ok directory ∧
    isModelFile name = true ∧ t.get? (directory ++ [name]) = some (.link target) ∧
      t.walk true (directory ++ [name]) = .ok (.existing place n)

variable {base place : Location} {input : ToolInput}

/-- A path that is resolved inside the project lands at or below where the project lands. -/
theorem landing_of_resolved {root target : Location} {path : Text} (hbase : t.landing root = base)
    (h : resolveInProject t root path = .ok target) :
    target = t.landing ((Path.ofText (Text.trim path)).startingAt base) ∧ base <+: target := by
  obtain ⟨-, base', hroot, -⟩ := resolveInProject_ok_iff.mp h
  obtain rfl : base' = base := (Tree.resolve_ok_iff.mp hroot).2.1.trans hbase
  exact Project.landing_of_resolveInProject hroot h

/-- A file that a path leads to is inside the project, if no link is left where the path lands. -/
theorem inside_of_leadsTo (hbase : t.landing ctx.root = base) {path : Text} {n : Node}
    (hplain : t.Plain (t.landing ((Path.ofText (Text.trim path)).startingAt base)))
    (h : Project.LeadsTo t ctx.root path place n) : base.stored <+: place := by
  obtain ⟨target, htarget, hwalk⟩ := h
  obtain ⟨rfl, hinside⟩ := landing_of_resolved hbase htarget
  obtain rfl := Tree.place_of_walk hplain hwalk
  exact Location.stored_prefix hinside

/-- **Where a tool looks.** If no link is left where its path lands, a tool looks into files inside
the project, or else it summarises a model that is a link. -/
theorem LooksInto.inside_or_linked (h : LooksInto ctx t input place)
    (hbase : t.landing ctx.root = base)
    (hplain : ∀ path, readPath? input = some path →
      t.Plain (t.landing ((Path.ofText (Text.trim path)).startingAt base))) :
    base.stored <+: place ∨
      (∃ entity, input = .analyzeSchema entity) ∧ IsLinkedModel t ctx.root place := by
  cases h with
  | readFile hlead _ => exact .inl (inside_of_leadsTo hbase (hplain _ rfl) hlead)
  | editFile _ _ _ hlead _ => exact .inl (inside_of_leadsTo hbase (hplain _ rfl) hlead)
  | @analyzeSchema entity directory _ name n hdirectory _ hmodel hwalk _ =>
    obtain ⟨hlands, hinside⟩ := landing_of_resolved hbase hdirectory
    by_cases hlink : ∃ target, t.get? (directory ++ [name]) = some (.link target)
    · obtain ⟨target, hlink⟩ := hlink
      exact .inr ⟨⟨entity, rfl⟩, directory, name, target, n, hdirectory, hmodel, hlink, hwalk⟩
    · -- the model stands in the directory itself
      have hname : name ≠ Path.up := by
        rintro rfl
        exact absurd hmodel (by decide)
      have hplain : t.Plain directory := hlands ▸ hplain _ rfl
      have hmodelPlain := hplain.concat hname fun target ht => hlink ⟨target, ht⟩
      obtain rfl := Tree.place_of_walk hmodelPlain hwalk
      exact .inl (Location.stored_prefix (hinside.trans (List.prefix_append _ _)))

end Tool

end Tablewright
