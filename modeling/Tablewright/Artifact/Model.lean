/-
The model module of an entity: one class with one line for each column.
-/
import Tablewright.Artifact.Basic
import Tablewright.Artifact.Columns

set_option autoImplicit false

namespace Tablewright

/-- The type of a column of a kind. -/
def FieldKind.columnType : FieldKind → Text
  | shortText => "String(255)"
  | longText => "Text"
  | integer => "Integer"
  | boolean => "Boolean"
  | timestamp => "DateTime"

/-- The argument by which a column is given a constraint. -/
def Constraint.columnArgument : Constraint → Text
  | required => "nullable=False"
  | primary => "primary_key=True"
  | unique => "unique=True"

/-- The line of a field's column: its name, its type, and its constraints in their order
(`_render_column`). -/
def Field.columnLine (f : Field) : Text :=
  let arguments := ("\"" ++ f.column ++ "\"") :: f.kind.columnType
    :: f.constraints.map Constraint.columnArgument
  "    " ++ f.name ++ " = Column(" ++ Text.join ", " arguments ++ ")"

namespace Model

/-- The lines of the columns every table has. -/
def implicitColumns : List Text := [
    "    id = Column(\"id\", Integer, primary_key=True, autoincrement=True)",
    "    createdAt = Column(\"created_at\", DateTime, nullable=False, server_default=func.now())",
    "    updatedAt = Column(\"updated_at\", DateTime, nullable=False, server_default=func.now(), onupdate=func.now())"]

/-- The lines before the class. -/
def header (n : Names) : List Text := [
    "\"\"\"SQLAlchemy model for " ++ n.canonical ++ " (generated by schemapilot).\"\"\"",
    "from sqlalchemy import Boolean, Column, DateTime, Integer, String, Text, func",
    "",
    "from app.db.session import Base",
    "",
    ""]

/-- The comment line for a description; an empty description has none (`_comment`). -/
def comment (description : Text) : List Text :=
  if description.isEmpty then [] else ["# " ++ Text.collapse description]

/-- The lines of the class before its columns. -/
def classHead (n : Names) : List Text := [
    "class " ++ n.typeName ++ "(Base):",
    "    __tablename__ = \"" ++ n.canonical ++ "\"",
    ""]

/-- The lines of an entity's model module. -/
def lines (e : Entity) : List Text :=
  header e.names ++ comment e.description ++ classHead e.names
    ++ e.fields.map Field.columnLine ++ implicitColumns ++ [[]]

end Model

/-- The model module of an entity whose columns are in order (`render_schema`). -/
def Entity.modelText (e : Entity) : Text := Text.unlines (Model.lines e)

end Tablewright
