/-
Artifacts: the generated files. Where an artifact belongs depends on nothing but the entity's
name and the kind of the artifact.

The route of an endpoint is `/api/` and one segment in kebab case. A route given by hand may carry
blanks, slashes and the leading `api/`; without a usable one the entity's name is the segment.
-/
import Tablewright.Naming.Names

set_option autoImplicit false

namespace Tablewright

/-- The kinds of generated files. -/
inductive ArtifactKind where
  /-- The model of the table. -/
  | schema
  /-- The shapes in which rows are sent and received. -/
  | typeDefinitions
  /-- The endpoint. -/
  | endpoint
  /-- The data hook of the client. -/
  | hook
  /-- Sample rows. -/
  | seed
deriving DecidableEq

/-- The word for a kind of artifact. -/
def ArtifactKind.label : ArtifactKind → Text
  | schema => "schema"
  | typeDefinitions => "type_definitions"
  | endpoint => "endpoint"
  | hook => "hook"
  | seed => "seed"

/-- The kind of artifact a word stands for. -/
def ArtifactKind.ofLabel? (label : Text) : Option ArtifactKind :=
  [schema, typeDefinitions, endpoint, hook, seed].find? fun k => k.label = label

/-- A generated file. -/
structure Artifact where
  /-- What the file is. -/
  kind : ArtifactKind
  /-- The canonical name of its entity. -/
  entity : Text
  /-- Where the file belongs, relative to the project. -/
  path : Text
  /-- The content of the file. -/
  content : Text
deriving DecidableEq

/-- Where an artifact of an entity belongs (`artifact_path`). It depends on the kind and the name
alone, so an artifact that is compiled again replaces the one before. -/
def ArtifactKind.path (kind : ArtifactKind) (entity : Text) : Text :=
  let names := Names.ofLabel entity
  match kind with
  | schema => "app/models/" ++ names.canonical ++ ".py"
  | typeDefinitions => "app/schemas/" ++ names.canonical ++ ".py"
  | seed => "app/seeds/" ++ names.canonical ++ ".py"
  | endpoint => "app/api/" ++ names.canonical ++ ".py"
  | hook => "src/hooks/" ++ names.hookName ++ ".ts"

namespace Names

/-- The name of the model class. -/
def model (n : Names) : Text := n.typeName

/-- The name of the shape a client sends to create a row. -/
def insertShape (n : Names) : Text := "Insert" ++ n.typeName

/-- The name of the shape a client sends to change a row. -/
def updateShape (n : Names) : Text := "Update" ++ n.typeName

/-- The name of the shape of a stored row. -/
def selectShape (n : Names) : Text := "Select" ++ n.typeName

end Names

/-! ## Routes -/

/-- A route given by hand, without outer blanks and slashes and without a leading `api/`. -/
def Route.clean (route : Text) : Text :=
  let bare := Text.stripWhere (fun c => c = CodePoint.ofChar '/') (Text.trim route)
  (Text.dropStart? "api/" bare).getD bare

/-- The route at which the endpoint of an entity is mounted (`route_path`). -/
def Route.path (entity : Text) (route : Option Text) : Text :=
  let segment := Naming.kebab (Route.clean (Text.orEmpty route))
  "/api/" ++ segment.ifEmpty (Names.ofLabel entity).routeSegment

end Tablewright
