/-
The shapes of an entity's rows: what a client sends to create one, what it sends to change one,
and what a stored row looks like.
-/
import Tablewright.Artifact.Basic
import Tablewright.Artifact.Columns

set_option autoImplicit false

namespace Tablewright

/-- The type of an attribute of a kind. -/
def FieldKind.attributeType : FieldKind → Text
  | shortText => "str"
  | longText => "str"
  | integer => "int"
  | boolean => "bool"
  | timestamp => "datetime"

/-- The line of a field in a shape (`_annotation`). -/
def Field.attributeLine (optional : Bool) (f : Field) : Text :=
  if optional then "    " ++ f.name ++ ": Optional[" ++ f.kind.attributeType ++ "] = None"
  else "    " ++ f.name ++ ": " ++ f.kind.attributeType

namespace Shapes

/-- The lines before the classes. -/
def header (n : Names) : List Text := [
    "\"\"\"Pydantic shapes for " ++ n.canonical ++ " (generated by schemapilot).\"\"\"",
    "from datetime import datetime",
    "from typing import Optional",
    "",
    "from pydantic import BaseModel, ConfigDict",
    "",
    ""]

/-- The lines of a class before its attributes. -/
def classHead (name configuration : Text) : List Text := [
    "class " ++ name ++ "(BaseModel):",
    "    model_config = ConfigDict(" ++ configuration ++ ")",
    ""]

/-- How a shape of what a client sends turns down unknown attributes. -/
def strict : Text := "extra=\"forbid\""

/-- The attributes every stored row has. -/
def implicitAttributes : List Text :=
  ["    id: int", "    createdAt: datetime", "    updatedAt: datetime"]

/-- What a client sends to create a row: a field is optional unless it is required. -/
def insertLines (e : Entity) : List Text :=
  classHead e.names.insertShape strict ++ e.fields.map fun f => f.attributeLine !f.required

/-- What a client sends to change a row: every field is optional. -/
def updateLines (e : Entity) : List Text :=
  classHead e.names.updateShape strict ++ e.fields.map (Field.attributeLine true)

/-- What a stored row looks like. -/
def selectLines (e : Entity) : List Text :=
  classHead e.names.selectShape "from_attributes=True"
    ++ e.fields.map (fun f => f.attributeLine !f.required) ++ implicitAttributes

/-- The lines of an entity's module of shapes. -/
def lines (e : Entity) : List Text :=
  header e.names ++ insertLines e ++ [[], []] ++ updateLines e ++ [[], []] ++ selectLines e ++ [[]]

end Shapes

/-- The module of shapes of an entity whose columns are in order (`render_type_definitions`). -/
def Entity.shapesText (e : Entity) : Text := Text.unlines (Shapes.lines e)

end Tablewright
