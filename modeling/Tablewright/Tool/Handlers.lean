/-
What each tool does.

Everything that writes files goes through `emit`, `writeFile` or `editFile`, and everything that
starts a process through `runMigrationCommand`; in a dry run these four describe what they would
do.
-/
import Tablewright.Artifact.Bundle
import Tablewright.Artifact.Endpoint
import Tablewright.Artifact.Hook
import Tablewright.Artifact.Seed
import Tablewright.Command.Process
import Tablewright.Files.Project
import Tablewright.Request.Segmentation
import Tablewright.Tool.Input
import Tablewright.Tool.Models
import Tablewright.Tool.Outcome

set_option autoImplicit false

namespace Tablewright.Tool

/-! ## Files -/

/-- The word for what would have been done. -/
def preview : Text := "preview"

/-- What is shown of a written file. -/
def writtenData (w : Written) : Members :=
  [("path", .str w.path), ("action", .str w.kind.label)]

/-- Write an artifact, or show it (`_emit`). A dry run shows the whole artifact in place of writing
it. -/
def emit (ctx : ToolContext) (a : Artifact) : Action Members :=
  if ctx.dryRun then
    return [("path", .str a.path), ("action", .str preview), ("content", .str a.content)]
  else do
    return writtenData (← Action.onFiles (Project.writeArtifact ctx.root a))

/-- Directories that are never listed. -/
def isHidden (name : Text) : Bool :=
  name = Text.ofString ".git" || name = Text.ofString "node_modules"

/-- An entry of a directory as it is listed: a directory gets a slash. -/
def shownEntry (t : Tree) (directory : Location) (name : Text) : Except Failure Text :=
  match t.isDirectory (directory ++ [name]) with
  | .ok true => .ok (name ++ "/")
  | .ok false => .ok name
  | .error e => .error (.system e)

/-- The entries of a directory in order. -/
def entries (t : Tree) (directory : Location) : Except Failure (List Text) := do
  let shown ← (t.listing directory).mapM (shownEntry t directory)
  return Text.sort shown

/-- List a directory (`list_files`). -/
def listFiles (ctx : ToolContext) (path : Option Text) (t : Tree) : Except Failure Outcome := do
  let relative := (Text.trim (Text.orEmpty path)).ifEmpty "."
  if (Path.ofText relative).names.any isHidden then throw (.refused (.hiddenDirectory relative))
  let target ← resolveInProject t ctx.root relative
  match t.isDirectory target with
  | .error e => throw (.system e)
  | .ok false => throw (.refused (.notDirectory relative))
  | .ok true =>
    let shown ← entries t target
    return Outcome.success (Text.ofNat shown.length ++ " entries in '" ++ relative ++ "'")
      [("path", .str relative), ("entries", Json.texts shown)]

/-- Read a file (`read_file`). -/
def readFile (ctx : ToolContext) (path : Text) (t : Tree) : Except Failure Outcome := do
  let target ← resolveInProject t ctx.root path
  match t.isFile target with
  | .error e => throw (.system e)
  | .ok false => throw (.refused (.noFile path))
  | .ok true =>
    let content ← Project.readText t target path
    return Outcome.success ("Read '" ++ path ++ "'")
      [("path", .str path), ("content", .str content)]

/-- The outcome of a written file. -/
def writtenOutcome (w : Written) : Outcome :=
  Outcome.success ("File '" ++ w.path ++ "' " ++ w.kind.label) (writtenData w)

/-- What is said in place of changing a file: the path only has to lie inside the project. -/
def previewChange (ctx : ToolContext) (verb path : Text) : Action Outcome := do
  let _ ← Action.look (resolveInProject · ctx.root path)
  return Outcome.success ("Dry run: would " ++ verb ++ " '" ++ path ++ "'")
    [("path", .str path), ("action", .str preview)]

/-- Write a whole file (`write_file`). -/
def writeFile (ctx : ToolContext) (path content : Text) : Action Outcome :=
  if ctx.dryRun then previewChange ctx "write" path
  else do
    return writtenOutcome (← Action.onFiles (Project.write ctx.root path content))

/-- Replace a text in a file (`edit_file_tool`). -/
def editFile (ctx : ToolContext) (path : Text) (old : Option Text) (new : Text) : Action Outcome :=
  if ctx.dryRun then previewChange ctx "edit" path
  else do
    return writtenOutcome (← Action.onFiles (Project.edit ctx.root path old new))

/-! ## Analysis -/

/-- Find the entities in a request (`analyze_request`). -/
def analyzeRequest (request : Text) : Outcome :=
  let found := Segmentation.ofRequest Catalog.table request
  { Outcome.success found.recommendation found.members with discovered := found.entities }

/-- The directory of the models. -/
def modelsDirectory : Text := "app/models"

/-- Whether a file of the models' directory is a model: a module that is not the initial file of
the package. -/
def isModelFile (name : Text) : Bool :=
  Text.endsWith name ".py" && name ≠ Text.ofString "__init__.py"

/-- The summary of one model, unless another table is wanted. -/
def summarizeModel (t : Tree) (directory : Location) (wanted : Option Text) (name : Text) :
    Except Failure (Option Json) := do
  let path := modelsDirectory ++ "/" ++ name
  let source ← Project.readText t (directory ++ [name]) path
  let table := (ModelSource.table? source).getD (ModelSource.stem name)
  if wanted.all fun w => w = table then
    return some (.obj [("path", .str path), ("table", .str table),
      ("columns", Json.texts (ModelSource.columns source))])
  else return none

/-- The stages every tracked entity lacks, by name. -/
def pendingStages (st : WorkflowState) : Members :=
  st.entities.map fun p => (p.entity.name, Json.texts (p.missing.map Stage.label))

/-- Summarise the models, or the one of an entity (`analyze_schema`). -/
def analyzeSchema (ctx : ToolContext) (entity : Option Text) (t : Tree) :
    Except Failure Outcome := do
  let directory ← resolveInProject t ctx.root modelsDirectory
  let wanted := (entity.filter fun label => !label.isEmpty).map Naming.canonical
  let found ←
    match t.isDirectory directory with
    | .error e => throw (.system e)
    | .ok false => pure []
    | .ok true =>
      let names := Text.sort ((t.listing directory).filter isModelFile)
      names.mapM (summarizeModel t directory wanted)
  let schemas := found.filterMap id
  return Outcome.success ("Found " ++ Text.ofNat schemas.length ++ " schema file(s)")
    [("schemas", .arr schemas), ("pendingStages", .obj (pendingStages ctx.state))]

/-! ## Schemas -/

/-- Compile and emit the schema of an entity (`_create_one_schema`). -/
def emitSchema (ctx : ToolContext) (e : Entity) : Action Members := do
  let schema ← Action.ofRefusal e.compileSchema
  let model ← emit ctx schema.model
  let shapes ← emit ctx schema.shapes
  return [("entity", .str e.name), ("files", .arr [.obj model, .obj shapes])]

/-- Write the schema of an entity (`create_schema`). -/
def createSchema (ctx : ToolContext) (input : EntityInput) : Action Outcome := do
  let e ← Action.ofExcept input.build
  let data ← emitSchema ctx e
  let verb : Text := if ctx.dryRun then "previewed" else "written"
  return { Outcome.success ("Schema for '" ++ e.name ++ "' " ++ verb) data with
    defined := [e]
    completed := [(e.name, .schemaWritten)] }

/-- What became of one of several schemas. -/
structure SchemaAttempt where
  /-- The label that was given. -/
  label : Text
  /-- The entity with what is shown of its files, or why there is none. -/
  result : Except Refusal (Entity × Members)

namespace SchemaAttempt

/-- What is shown of an attempt. -/
def toJson (a : SchemaAttempt) : Json :=
  match a.result with
  | .ok (_, data) => .obj (Members.putAll [("success", .bool true)] data)
  | .error r =>
    .obj [("success", .bool false), ("entity", .str a.label), ("error", .str r.message),
      ("kind", .str r.kind.label)]

/-- The entity of a successful attempt. -/
def entity? (a : SchemaAttempt) : Option Entity :=
  match a.result with
  | .ok (e, _) => some e
  | .error _ => none

end SchemaAttempt

/-- An operation whose refusals are results; other failures pass through. An error of the file
system is no refusal, so it loses what was attempted before it. -/
def attempt {α : Type} (a : Action α) : Action (Except Refusal α) :=
  Action.ofFunction fun w =>
    match a.run w with
    | (.ok x, w') => (.ok (.ok x), w')
    | (.error (.refused r), w') => (.ok (.error r), w')
    | (.error f, w') => (.error f, w')

/-- Write schemas one after another. One that is refused does not keep the others back, and each is
compiled before it is written. -/
def attemptSchemas (ctx : ToolContext) : List EntityInput → Action (List SchemaAttempt)
  | [] => return []
  | input :: rest => do
    let result ← attempt do
      let e ← Action.ofExcept input.build
      let data ← emitSchema ctx e
      return (e, data)
    let others ← attemptSchemas ctx rest
    return ⟨input.name, result⟩ :: others

/-- Write the schemas of several entities (`create_multiple_schemas`). -/
def createMultipleSchemas (ctx : ToolContext) (inputs : List EntityInput) : Action Outcome := do
  let attempts ← attemptSchemas ctx inputs
  let written := attempts.filterMap SchemaAttempt.entity?
  let failed := (attempts.filter fun a => a.entity?.isNone).map (·.label)
  let count := "Created " ++ Text.ofNat written.length ++ " of " ++ Text.ofNat attempts.length
    ++ " schemas"
  let message :=
    if failed.isEmpty then count else count ++ "; failed: " ++ Text.join ", " failed
  return {
    ok := failed.isEmpty
    message
    data := [("results", .arr (attempts.map SchemaAttempt.toJson))]
    discovered := []
    defined := written
    completed := written.map fun e => (e.name, .schemaWritten) }

/-! ## Migrations -/

/-- Run a migration command, or show it (`_run_migration_command`). A status other than zero is
refused. -/
def runMigrationCommand (ctx : ToolContext) (command : Text) (label flag : Option Text) :
    Action Members :=
  if ctx.dryRun then do
    let words ← Action.ofExcept ((Command.line command).build label flag)
    return [("command", .str (Refusal.commandLine words)), ("action", .str preview)]
  else do
    let result ← (Command.line command).run label flag (some ctx.root.text) ctx.limit
    if !result.ok then
      let detail := Text.trim (result.stderr.ifEmpty result.stdout)
      throw (.refused (.processFailed result.command result.status detail))
    return [("command", .str (Refusal.commandLine result.command)), ("stdout", .str result.stdout),
      ("stderr", .str result.stderr)]

/-- Generate a migration for every entity whose schema is written (`generate_migration`). -/
def generateMigration (ctx : ToolContext) (label : Option Text) : Action Outcome := do
  let ready := ctx.state.withStage .schemaWritten
  if ready.isEmpty then throw (.refused .nothingToMigrate)
  let data ← runMigrationCommand ctx ctx.generateCommand label (some ctx.labelFlag)
  return { Outcome.success ("Migration generated for: " ++ Text.join ", " ready) data with
    completed := ready.map fun name => (name, .migrationGenerated) }

/-- Apply the migrations of every entity that has one (`run_migration`). -/
def runMigration (ctx : ToolContext) : Action Outcome := do
  let ready := ctx.state.withStage .migrationGenerated
  if ready.isEmpty then throw (.refused .nothingToApply)
  let data ← runMigrationCommand ctx ctx.applyCommand none none
  return { Outcome.success ("Migration applied for: " ++ Text.join ", " ready) data with
    completed := ready.map fun name => (name, .migrationApplied) }

/-! ## Endpoints, hooks and sample rows -/

/-- Turn down an entity that lacks a prerequisite (`_require_stage`). -/
def requirePrerequisite (ctx : ToolContext) (name : Text) (what : Prerequisite) :
    Except Refusal Unit :=
  if ctx.state.has name what.stage then .ok () else .error (.missingPrerequisite what name)

/-- Write the endpoint of an entity (`create_api_endpoint`). -/
def createApiEndpoint (ctx : ToolContext) (label : Text) (methods : List Text)
    (route : Option Text) : Action Outcome := do
  let name := Naming.canonical label
  Action.ofRefusal (requirePrerequisite ctx name .schema)
  let artifact ← Action.ofRefusal (compileEndpoint name (methods.map .str) route)
  let data ← emit ctx artifact
  let mounted := Route.path name route
  return { Outcome.success ("Endpoint for '" ++ name ++ "' at " ++ mounted)
      (data.put "route" (.str mounted)) with
    completed := [(name, .endpointWritten)] }

/-- Write the data hook of an entity (`create_api_client_hook`). -/
def createApiClientHook (ctx : ToolContext) (label : Text) (route : Option Text) :
    Action Outcome := do
  let name := Naming.canonical label
  Action.ofRefusal (requirePrerequisite ctx name .endpoint)
  let data ← emit ctx (compileHook name route)
  let hook := (Names.ofLabel name).hookName
  return { Outcome.success ("Hook " ++ hook ++ " for '" ++ name ++ "'")
      (data.put "hook" (.str hook)) with
    completed := [(name, .hookWritten)] }

/-- Write sample rows of an entity, by the fields its schema was written with (`seed_database`). -/
def seedDatabase (ctx : ToolContext) (label : Text) (rows : List Members) : Action Outcome := do
  let name := Naming.canonical label
  Action.ofRefusal (requirePrerequisite ctx name .schema)
  match ctx.state.get? name with
  | none => throw (.refused (.missingPrerequisite .schema name))
  | some p =>
    let artifact ← Action.ofRefusal (p.entity.compileSeed rows)
    let data ← emit ctx artifact
    let shown := (data.put "rows" (.int rows.length)).put "run" (.str ("python -m app.seeds." ++ name))
    return Outcome.success
      ("Seed module for '" ++ name ++ "' with " ++ Text.ofNat rows.length ++ " row(s)") shown

/-! ## All tools -/

/-- What a tool does with its input. The cases are the handlers of the registry
(`ToolRegistry.default`). -/
def handle (ctx : ToolContext) : ToolInput → Action Outcome
  | .listFiles path => Action.look (listFiles ctx path)
  | .readFile path => Action.look (readFile ctx path)
  | .writeFile path content => writeFile ctx path content
  | .editFile path old new => editFile ctx path old new
  | .analyzeRequest request => return analyzeRequest request
  | .analyzeSchema entity => Action.look (analyzeSchema ctx entity)
  | .createSchema entity => createSchema ctx entity
  | .createMultipleSchemas entities => createMultipleSchemas ctx entities
  | .generateMigration label => generateMigration ctx label
  | .runMigration => runMigration ctx
  | .createApiEndpoint entity methods route => createApiEndpoint ctx entity methods route
  | .createApiClientHook entity route => createApiClientHook ctx entity route
  | .seedDatabase entity rows => seedDatabase ctx entity rows

end Tablewright.Tool
