/-
The arguments of a call: read, checked against the tool's contract, and put into the form in
which the tool works with them.
-/
import Tablewright.Entity.Basic
import Tablewright.Tool.Catalog

set_option autoImplicit false

namespace Tablewright

/-! ## The inputs of the tools -/

/-- A field as it is given. -/
structure FieldInput where
  /-- The name. -/
  name : Text
  /-- The word for the kind. -/
  kind : Text
  /-- The words for the constraints. -/
  constraints : List Text
deriving DecidableEq

/-- An entity as it is given. -/
structure EntityInput where
  /-- The label. -/
  name : Text
  /-- The description. -/
  description : Text
  /-- The fields. -/
  fields : List FieldInput
deriving DecidableEq

/-- What a tool is asked for (the subclasses of `ToolInput`). -/
inductive ToolInput where
  /-- List a directory, the project itself when none is given. -/
  | listFiles (path : Option Text)
  /-- Read a file. -/
  | readFile (path : Text)
  /-- Write a file. -/
  | writeFile (path content : Text)
  /-- Replace a text in a file. -/
  | editFile (path : Text) (old : Option Text) (new : Text)
  /-- Find the entities in a request. -/
  | analyzeRequest (request : Text)
  /-- Summarise the models, or one of them. -/
  | analyzeSchema (entity : Option Text)
  /-- Write the schema of an entity. -/
  | createSchema (entity : EntityInput)
  /-- Write the schemas of several entities. -/
  | createMultipleSchemas (entities : List EntityInput)
  /-- Generate a migration. -/
  | generateMigration (label : Option Text)
  /-- Apply the migrations. -/
  | runMigration
  /-- Write the endpoint of an entity. -/
  | createApiEndpoint (entity : Text) (methods : List Text) (route : Option Text)
  /-- Write the data hook of an entity. -/
  | createApiClientHook (entity : Text) (route : Option Text)
  /-- Write sample rows of an entity. -/
  | seedDatabase (entity : Text) (rows : List Members)

namespace Members

/-- A text member; in a complete record it is one. -/
def text (key : Text) (ms : Members) : Text :=
  match ms.get? key with
  | some (.str s) => s
  | _ => []

/-- A member that is a text or null. -/
def text? (key : Text) (ms : Members) : Option Text :=
  match ms.get? key with
  | some (.str s) => some s
  | _ => none

/-- The items of a list member. -/
def items (key : Text) (ms : Members) : List Json :=
  match ms.get? key with
  | some (.arr vs) => vs
  | _ => []

end Members

namespace Json

/-- A value that is a text. -/
def asText : Json → Text
  | .str s => s
  | _ => []

/-- The members of a value that is an object. -/
def asMembers : Json → Members
  | .obj ms => ms
  | _ => []

end Json

/-- A field from its complete record. -/
def FieldInput.ofMembers (ms : Members) : FieldInput :=
  { name := ms.text "name", kind := ms.text "kind"
    constraints := (ms.items "constraints").map Json.asText }

/-- An entity from its complete record. -/
def EntityInput.ofMembers (ms : Members) : EntityInput :=
  { name := ms.text "name", description := ms.text "description"
    fields := (ms.items "fields").map fun v => FieldInput.ofMembers v.asMembers }

/-- A field as a loose value, the form in which entities are built. -/
def FieldInput.toJson (f : FieldInput) : Json :=
  .obj [("name", .str f.name), ("kind", .str f.kind), ("constraints", Json.texts f.constraints)]

/-- The entity that is given (`_entity_from_input`). -/
def EntityInput.build (e : EntityInput) : Except Failure Entity :=
  Entity.build e.name e.description (e.fields.map FieldInput.toJson)

/-- The input of a tool from its complete record. -/
def ToolInput.ofMembers (ms : Members) : ToolName → ToolInput
  | .listFiles => .listFiles (ms.text? "path")
  | .readFile => .readFile (ms.text "path")
  | .writeFile => .writeFile (ms.text "path") (ms.text "content")
  | .editFile => .editFile (ms.text "path") (ms.text? "old_str") (ms.text "new_str")
  | .analyzeRequest => .analyzeRequest (ms.text "request")
  | .analyzeSchema => .analyzeSchema (ms.text? "entity")
  | .createSchema => .createSchema (EntityInput.ofMembers ms)
  | .createMultipleSchemas =>
    .createMultipleSchemas ((ms.items "entities").map fun v => EntityInput.ofMembers v.asMembers)
  | .generateMigration => .generateMigration (ms.text? "label")
  | .runMigration => .runMigration
  | .createApiEndpoint =>
    .createApiEndpoint (ms.text "entity") ((ms.items "methods").map Json.asText) (ms.text? "route")
  | .createApiClientHook => .createApiClientHook (ms.text "entity") (ms.text? "route")
  | .seedDatabase => .seedDatabase (ms.text "entity") ((ms.items "rows").map Json.asMembers)

/-! ## Reading a call -/

/-- How deep the arguments of a call may nest. The interpreter reads JSON by recursion and gives up
at its recursion limit, which is 1000 calls in all; the number stands for what is left of it where
arguments are read, below the calls that lead there. -/
def argumentDepth : Nat := 980

/-- The value that the arguments of a call are: read from JSON when they are a text, where a
blank text stands for no arguments. -/
def readArguments (tool : ToolName) : Json → Except Failure Json
  | .str s =>
    if Text.isBlank s then .ok (.obj [])
    else
      match Json.read argumentDepth s with
      | .ok v => .ok v
      | .error (.flaw what before) => .error (.refused (.argumentsNotJson tool.label (.flaw what before)))
      | .error (.tooManyDigits n) => .error (.badValue (.tooManyDigits n))
      | .error .tooDeep => .error (.defect .tooDeep)
  | v => .ok v

/-- The complete arguments of a call (`ToolDefinition.parse`). Everything is checked before a tool
begins its work. -/
def ToolName.parse (tool : ToolName) (arguments : Json) : Except Failure Members := do
  let value ← readArguments tool arguments
  match value with
  | .obj ms =>
    match tool.contract.problems (.obj ms) with
    | [] => return (tool.contract.complete (.obj ms)).asMembers
    | problems => throw (.refused (.badArguments tool.label problems))
  | _ => throw (.refused (.argumentsNotObject tool.label))

end Tablewright
