/-
Tools as JSON schemas, the form in which they are offered to the reasoning engine. Records inside
a contract are described once, by name, and referred to.
-/
import Tablewright.Text.Search
import Tablewright.Tool.Catalog

set_option autoImplicit false

namespace Tablewright

/-- The title of an argument: its words with capitals. -/
def argumentTitle (name : String) : Text :=
  Text.join " " ((Text.splitOn '_' (Text.ofString name)).map Text.capitalize)

/-- Whether a default is part of the description. The default of a list is made anew for every
call and is not. -/
def Shape.showsDefault : Shape → Bool
  | .list _ _ => false
  | _ => true

namespace ToolSchema

mutual

/-- The description of a shape. -/
def shape : Shape → Members
  | .text => [("type", .str "string")]
  | .optionalText =>
    [("anyOf", .arr [.obj [("type", .str "string")], .obj [("type", .str "null")]])]
  | .mapping => [("additionalProperties", .bool true), ("type", .str "object")]
  | .list nonEmpty item =>
    Members.one "items" (.obj (shape item)) ++ Members.one "type" (.str "array")
      ++ Members.when nonEmpty "minItems" (.int 1)
  | .record name _ => [("$ref", .str ("#/$defs/" ++ Text.ofString name))]

/-- The description of a record's members, by name. -/
def properties : List Argument → Members
  | [] => []
  | (name, _, s, default, notes) :: rest =>
    let described : Members :=
      shape s
        ++ Members.ofOption "default" (if s.showsDefault then default else none)
        ++ Members.ofOption "description" (notes.description.map fun d => .str (Text.ofString d))
        ++ Members.when (!notes.examples.isEmpty) "examples" (.arr notes.examples)
        ++ Members.one "title" (.str (argumentTitle name))
    (Text.ofString name, .obj described) :: properties rest

end

/-- The description of a record by its name and members. -/
def record (name : String) (arguments : List Argument) : Members :=
  let required := (arguments.filter fun a => a.default?.isNone).map Argument.name
  Members.one "additionalProperties" (.bool false)
    ++ Members.one "properties" (.obj (properties arguments))
    ++ Members.when (!required.isEmpty) "required" (Json.texts required)
    ++ Members.one "title" (.str (Text.ofString name)) ++ Members.one "type" (.str "object")

mutual

/-- The descriptions of the records inside a shape, by name. -/
def definitions : Shape → Members
  | .list _ item => definitions item
  | .record name arguments =>
    (Text.ofString name, .obj (record name arguments)) :: argumentDefinitions arguments
  | _ => []

/-- The descriptions of the records inside the members of a record. -/
def argumentDefinitions : List Argument → Members
  | [] => []
  | (_, _, s, _, _) :: rest => definitions s ++ argumentDefinitions rest

end

end ToolSchema

open ToolSchema in
/-- A tool as it is offered to the reasoning engine. -/
def ToolName.schema (t : ToolName) : Json :=
  let inner := argumentDefinitions t.arguments
  let parameters : Members :=
    Members.when (!inner.isEmpty) "$defs" (.obj inner) ++ record t.recordName t.arguments
  .obj [("type", .str "function"),
    ("function", .obj [("name", .str t.label), ("description", .str (Text.ofString t.description)),
      ("parameters", .obj parameters)])]

end Tablewright
