/-
The columns of a table: one for each declared field, then three that every table has.

A column is named by the words of its field, so two different fields can come to one column.
Such a field is refused, and so is one that would take a name of the three.
-/
import Tablewright.Entity.Basic

set_option autoImplicit false

namespace Tablewright

/-- The names of the columns every table has, as attributes and as columns. -/
def reservedFields : List String := ["id", "createdAt", "updatedAt", "created_at", "updated_at"]

/-- Whether a name belongs to a column every table has. -/
def isReservedField (name : Text) : Bool := reservedFields.any fun r => Text.ofString r = name

/-- The name of a field's column. -/
def Field.column (f : Field) : Text := Naming.snake f.name

/-- Check fields one after another against the columns of those before them, which are given with
the names of their fields. -/
def checkColumnsFrom (entity : Text) : List (Text × Text) → List Field → Except Refusal Unit
  | _, [] => .ok ()
  | taken, f :: r =>
    if isReservedField f.name then .error (.reservedField f.name entity)
    else
      let column := f.column
      match taken.find? fun t => t.1 = column with
      | some (_, holder) => .error (.columnTaken f.name entity column holder)
      | none =>
        if isReservedField column then .error (.columnTaken f.name entity column column)
        else checkColumnsFrom entity (taken ++ [(column, f.name)]) r

/-- Refuse an entity in which a field takes a reserved name, a reserved column or the column of
another field (`check_field_names`). Columns are compared besides names, since two names that differ
can have one column. -/
def Entity.checkColumns (e : Entity) : Except Refusal Unit := checkColumnsFrom e.name [] e.fields

end Tablewright
