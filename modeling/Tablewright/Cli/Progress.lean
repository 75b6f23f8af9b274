/-
The progress table: a row for every entity, a column for every stage, and in each cell a mark that
says whether the stage is completed.
-/
import Tablewright.Workflow.Stage

set_option autoImplicit false

namespace Tablewright

namespace ProgressTable

/-- An entity with what is known of its stages; a stage that is not mentioned is not completed. -/
abbrev Row := Text × List (Stage × Bool)

/-- Whether a stage of a row is completed. -/
def isDone (row : Row) (s : Stage) : Bool :=
  match row.2.find? fun c => c.1 = s with
  | some c => c.2
  | none => false

/-- The mark for what is done or there. -/
def mark (done : Bool) : Text := if done then ("✓" : Text) else "✗"

/-- The heading of the first column. -/
def entityHeading : Text := "entity"

/-- What stands between columns. -/
def gap : Text := "  "

/-- The width of the first column. -/
def entityWidth (rows : List Row) : Nat :=
  (rows.map fun r => r.1.length).foldl max entityHeading.length

/-- A line of the table. -/
def line (width : Nat) (name : Text) (cells : List Text) : Text :=
  gap ++ name.padRight width ++ gap ++ Text.join gap cells

/-- The cell of a stage, as wide as its heading. -/
def cell (row : Row) (s : Stage) : Text := (mark (isDone row s)).center s.heading.length

/-- The lines of the table (`format_progress`). -/
def lines (rows : List Row) : List Text :=
  if rows.isEmpty then ["  (no entities)"]
  else
    let width := entityWidth rows
    line width entityHeading (Stage.all.map Stage.heading)
      :: rows.map fun r => line width r.1 (Stage.all.map (cell r))

end ProgressTable

end Tablewright
