/-
The five stages every entity passes through, in their order.
-/
import Tablewright.Text.Basic

set_option autoImplicit false

namespace Tablewright

/-- A stage in the life of an entity (`LifecycleStage`), in the order in which they are reached. -/
inductive Stage where
  /-- Model and types are written. -/
  | schemaWritten
  /-- A migration that covers the model is generated. -/
  | migrationGenerated
  /-- The migration is applied. -/
  | migrationApplied
  /-- The endpoint is written. -/
  | endpointWritten
  /-- The data hook is written. -/
  | hookWritten
deriving DecidableEq

namespace Stage

/-- The stages in the order in which an entity passes through them. -/
def all : List Stage :=
  [schemaWritten, migrationGenerated, migrationApplied, endpointWritten, hookWritten]

/-- The word for a stage in messages and records. -/
def label : Stage → Text
  | schemaWritten => "schema_written"
  | migrationGenerated => "migration_generated"
  | migrationApplied => "migration_applied"
  | endpointWritten => "endpoint_written"
  | hookWritten => "hook_written"

/-- The heading of a stage's column in the progress table. -/
def heading : Stage → Text
  | schemaWritten => "schema"
  | migrationGenerated => "migration"
  | migrationApplied => "migrated"
  | endpointWritten => "endpoint"
  | hookWritten => "hook"

/-- The stage a word stands for. -/
def ofLabel? (label : Text) : Option Stage := all.find? fun s => s.label = label

end Stage

end Tablewright
