/-
Artifacts that are compiled together. The schema of an entity is its model and its shapes, compiled
together or refused together; everything an entity needs is model, shapes, endpoint and hook, in this
order.
-/
import Tablewright.Artifact.Endpoint
import Tablewright.Artifact.Hook
import Tablewright.Artifact.Model
import Tablewright.Artifact.Shapes

set_option autoImplicit false

namespace Tablewright

/-- The two artifacts of a schema. -/
structure Schema where
  /-- The model of the table. -/
  model : Artifact
  /-- The shapes of its rows. -/
  shapes : Artifact
deriving DecidableEq

/-- Compile the schema of an entity (`compile_schema`). -/
def Entity.compileSchema (e : Entity) : Except Refusal Schema := do
  e.checkColumns
  let artifact (kind : ArtifactKind) (content : Text) : Artifact :=
    { kind, entity := e.name, path := kind.path e.name, content }
  return { model := artifact .schema e.modelText
           shapes := artifact .typeDefinitions e.shapesText }

/-- Compile the four artifacts of an entity (`compile_entity`). -/
def Entity.compileAll (e : Entity) (methods : List Json) (route : Option Text) :
    Except Refusal (List Artifact) := do
  let schema ← e.compileSchema
  let endpoint ← compileEndpoint e.name methods route
  return [schema.model, schema.shapes, endpoint, compileHook e.name route]

end Tablewright
