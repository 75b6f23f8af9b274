/-
The thirteen tools the reasoning engine may call, by name.
-/
import Tablewright.Text.Basic

set_option autoImplicit false

namespace Tablewright

/-- The tools (`ToolName`). The list is closed: a call of any other name is refused. -/
inductive ToolName where
  /-- List a directory. -/
  | listFiles
  /-- Read a file. -/
  | readFile
  /-- Write a file. -/
  | writeFile
  /-- Replace a text in a file. -/
  | editFile
  /-- Find the entities in a request. -/
  | analyzeRequest
  /-- Summarise the models that exist. -/
  | analyzeSchema
  /-- Write the schema of an entity. -/
  | createSchema
  /-- Write the schemas of several entities. -/
  | createMultipleSchemas
  /-- Generate a migration. -/
  | generateMigration
  /-- Apply the migrations. -/
  | runMigration
  /-- Write the endpoint of an entity. -/
  | createApiEndpoint
  /-- Write the data hook of an entity. -/
  | createApiClientHook
  /-- Write sample rows of an entity. -/
  | seedDatabase
deriving DecidableEq

namespace ToolName

/-- The tools in the order in which they are offered. -/
def all : List ToolName :=
  [listFiles, readFile, writeFile, editFile, analyzeRequest, analyzeSchema, createSchema,
    createMultipleSchemas, generateMigration, runMigration, createApiEndpoint,
    createApiClientHook, seedDatabase]

/-- The name of a tool. -/
def label : ToolName → Text
  | listFiles => "list_files"
  | readFile => "read_file"
  | writeFile => "write_file"
  | editFile => "edit_file"
  | analyzeRequest => "analyze_request"
  | analyzeSchema => "analyze_schema"
  | createSchema => "create_schema"
  | createMultipleSchemas => "create_multiple_schemas"
  | generateMigration => "generate_migration"
  | runMigration => "run_migration"
  | createApiEndpoint => "create_api_endpoint"
  | createApiClientHook => "create_api_client_hook"
  | seedDatabase => "seed_database"

/-- The tool of a name. -/
def ofLabel? (label : Text) : Option ToolName := all.find? fun t => t.label = label

/-- Whether a tool may change files or start a process. -/
def hasSideEffects : ToolName → Bool
  | listFiles | readFile | analyzeRequest | analyzeSchema => false
  | _ => true

end ToolName

end Tablewright
