/-
What every tool is for and what it takes.
-/
import Tablewright.Artifact.Method
import Tablewright.Tool.Contract
import Tablewright.Tool.Name

set_option autoImplicit false

namespace Tablewright

/-! ## Arguments -/

namespace Argument

/-- Notes without examples. -/
def noted (description : String) : ArgumentNotes := ⟨some description, []⟩

/-- An argument that has to be given. -/
def mandatory (name : String) (shape : Shape) (notes : ArgumentNotes) : Argument :=
  (name, none, shape, none, notes)

/-- An argument with a value for when it is absent. -/
def withDefault (name : String) (shape : Shape) (default : Json) (notes : ArgumentNotes) :
    Argument :=
  (name, none, shape, some default, notes)

/-- A text that has to be given. -/
def text (name description : String) : Argument := mandatory name .text (noted description)

/-- A text that may be null or absent. -/
def optionalText (name description : String) : Argument :=
  withDefault name .optionalText .null (noted description)

end Argument

open Argument

/-- What is given for a field. -/
def fieldRecord : Shape := .record "FieldInput" [
    mandatory "name" .text ⟨none, [.str "title"]⟩,
    ("kind", some "type", .text, some (.str "long_text"),
      ⟨some "short_text, long_text, integer, boolean or timestamp.", [.str "short_text"]⟩),
    withDefault "constraints" (.list false .text) (.arr [])
      (noted "Any of: required, unique, primary.")]

/-- What is given for an entity. -/
def entityArguments : List Argument := [
    mandatory "name" .text ⟨none, [.str "popular_albums"]⟩,
    withDefault "description" .text (.str []) ⟨none, []⟩,
    withDefault "fields" (.list false fieldRecord) (.arr [])
      (noted "User fields only; id, createdAt and updatedAt are added automatically.")]

/-- What is given for an entity, as an item of a list. -/
def entityRecord : Shape := .record "EntityInput" entityArguments

/-! ## Tools -/

namespace ToolName

/-- What a tool is for, as the reasoning engine is told. -/
def description : ToolName → String
  | listFiles => "List files and directories at a path relative to the project root."
  | readFile => "Read the contents of a file relative to the project root."
  | writeFile => "Create or overwrite a whole file."
  | editFile =>
    "Replace old_str with new_str in a file. old_str must occur exactly once. " ++
    "If old_str is omitted or the file does not exist, the file is created with new_str."
  | analyzeRequest => "Identify every distinct data entity in the user's request. Call this first."
  | analyzeSchema =>
    "Summarize existing model modules and which workflow stages are still pending."
  | createSchema => "Generate the SQLAlchemy model and Pydantic types for one entity."
  | createMultipleSchemas =>
    "Generate models and types for several entities at once, one table per entity."
  | generateMigration => "Generate a database migration covering every schema written so far."
  | runMigration => "Apply generated migrations to the database."
  | createApiEndpoint => "Generate a CRUD API router for an entity whose schema exists."
  | createApiClientHook => "Generate a React data hook for an entity whose endpoint exists."
  | seedDatabase =>
    "Optional: write a seed module with sample rows for an entity whose schema exists. " ++
    "Rows use the entity's field names and are checked against its insert shape."

/-- The name of the record a tool takes. -/
def recordName : ToolName → String
  | listFiles => "ListFilesInput"
  | readFile => "ReadFileInput"
  | writeFile => "WriteFileInput"
  | editFile => "EditFileInput"
  | analyzeRequest => "AnalyzeRequestInput"
  | analyzeSchema => "AnalyzeSchemaInput"
  | createSchema => "CreateSchemaInput"
  | createMultipleSchemas => "CreateMultipleSchemasInput"
  | generateMigration => "GenerateMigrationInput"
  | runMigration => "RunMigrationInput"
  | createApiEndpoint => "CreateApiEndpointInput"
  | createApiClientHook => "CreateApiClientHookInput"
  | seedDatabase => "SeedDatabaseInput"

/-- The arguments of a tool. -/
def arguments : ToolName → List Argument
  | listFiles =>
    [optionalText "path" "Relative directory to list. Defaults to the project root."]
  | readFile => [text "path" "Relative path of the file to read."]
  | writeFile =>
    [text "path" "Relative path of the file to create or overwrite.",
      text "content" "Full file content."]
  | editFile =>
    [text "path" "Relative path of the file to edit.",
      optionalText "old_str"
        "Exact text to replace; must occur exactly once. Omit to create the file with new_str.",
      text "new_str" "Replacement text (or the whole file when old_str is omitted)."]
  | analyzeRequest => [text "request" "The user's request, verbatim."]
  | analyzeSchema => [optionalText "entity" "Only report this entity's schema."]
  | createSchema => entityArguments
  | createMultipleSchemas => [mandatory "entities" (.list true entityRecord) ⟨none, []⟩]
  | generateMigration =>
    [withDefault "label" .optionalText .null
      ⟨some "Optional migration message.", [.str "add popular albums"]⟩]
  | runMigration => []
  | createApiEndpoint =>
    [text "entity" "Entity name whose schema was already created.",
      withDefault "methods" (.list false .text) (.arr Method.everything)
        (noted "Subset of GET, POST, PUT, DELETE."),
      optionalText "route" "Route segment under /api. Defaults to the kebab-case entity name."]
  | createApiClientHook =>
    [text "entity" "Entity name whose endpoint was already created.",
      optionalText "route" "Route segment used when the endpoint was created."]
  | seedDatabase =>
    [text "entity" "Entity name whose schema was already created.",
      mandatory "rows" (.list true .mapping)
        ⟨some "Sample rows using the entity's field names; id, createdAt and updatedAt are not allowed.",
          [.arr [.obj [("title", .str "Blue"), ("artist", .str "Joni Mitchell")]]]⟩]

/-- The contract of a tool. -/
def contract (t : ToolName) : Shape := .record t.recordName t.arguments

end ToolName

end Tablewright
