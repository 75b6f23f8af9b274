/-
Sample rows: their check against the entity, and the module that inserts them.

A row is accepted when its members are fields of the entity, every required field has a value, and
every value fits the kind of its field. Members are put in the order of the fields; a null given
for an optional field is kept.
-/
import Tablewright.Artifact.Basic
import Tablewright.Artifact.Columns
import Tablewright.Calendar.Timestamp
import Tablewright.Literal.Rows

set_option autoImplicit false

namespace Tablewright

/-- The length of a short text. -/
def shortTextLimit : Nat := 255

/-- Whether a value that is not null fits a kind (`_check_value`). -/
def FieldKind.checkValue : FieldKind → Json → Except ValueFlaw Unit
  | shortText, .str s => if shortTextLimit < s.length then .error (.tooLong shortTextLimit) else .ok ()
  | shortText, _ => .error .notText
  | longText, .str _ => .ok ()
  | longText, _ => .error .notText
  | integer, .int _ => .ok ()
  | integer, _ => .error .notInteger
  | boolean, .bool _ => .ok ()
  | boolean, _ => .error .notBoolean
  | timestamp, .str s => if Timestamp.isRowTimestamp s then .ok () else .error .notTimestamp
  | timestamp, _ => .error .notTimestamp

namespace Seed

/-- The value a row gives to a field; null counts as none. -/
def given? (row : Members) (f : Field) : Option Json :=
  match Members.get? f.name row with
  | some .null => none
  | v => v

/-- Check the values of a row field by field. -/
def checkValues (index : Nat) (entity : Text) (row : Members) : List Field → Except Refusal Unit
  | [] => .ok ()
  | f :: rest =>
    match given? row f with
    | none =>
      if f.required then .error (.missingRowField index entity f.name)
      else checkValues index entity row rest
    | some v =>
      match f.kind.checkValue v with
      | .error flaw => .error (.badRowValue index entity f.name flaw)
      | .ok () => checkValues index entity row rest

/-- The members of a row that are fields, in the order of the fields. -/
def arrange (fields : List Field) (row : Members) : Members :=
  fields.filterMap fun f => (Members.get? f.name row).map fun v => (f.name, v)

/-- Check one row and put its members in order. -/
def checkRow (e : Entity) (index : Nat) (row : Members) : Except Refusal Members := do
  let unknown := (row.map (·.1)).filter fun key => !(e.fields.any fun f => f.name = key)
  if !unknown.isEmpty then throw (.unknownRowFields index e.name unknown)
  checkValues index e.name row e.fields
  return arrange e.fields row

/-- Check rows one after another, the first of them numbered `index`. -/
def checkRowsFrom (e : Entity) : Nat → List Members → Except Refusal (List Members)
  | _, [] => .ok []
  | index, row :: rest => do
    let row ← checkRow e index row
    let rest ← checkRowsFrom e (index + 1) rest
    return row :: rest

/-- Check sample rows and put the members of each in the order of the fields (`validate_rows`). -/
def checkRows (e : Entity) (rows : List Members) : Except Refusal (List Members) :=
  if rows.isEmpty then .error (.noRows e.name) else checkRowsFrom e 0 rows

/-- The lines of a seed module around the literal of its rows (`render_seed`). -/
def lines (n : Names) (rows : Text) : List Text := [
    "\"\"\"Sample rows for " ++ n.canonical ++ " (generated by schemapilot).\"\"\"",
    "from app.db.session import SessionLocal",
    "from app.models." ++ n.canonical ++ " import " ++ n.model,
    "from app.schemas." ++ n.canonical ++ " import " ++ n.insertShape,
    "",
    "ROWS = " ++ rows,
    "",
    "",
    "def seed_" ++ n.canonical ++ "() -> int:",
    "    \"\"\"Insert ROWS and return how many rows were written.\"\"\"",
    "    db = SessionLocal()",
    "    try:",
    "        for row in ROWS:",
    "            data = " ++ n.insertShape ++ ".model_validate(row)",
    "            db.add(" ++ n.model ++ "(**data.model_dump()))",
    "        db.commit()",
    "    except Exception:",
    "        db.rollback()",
    "        raise",
    "    finally:",
    "        db.close()",
    "    return len(ROWS)",
    "",
    "",
    "if __name__ == \"__main__\":",
    "    print(f\"Seeded \x7bseed_" ++ n.canonical ++ "()\x7d " ++ n.canonical ++ " rows\")",
    ""]

end Seed

/-- Compile the seed module of an entity (`compile_seed`). -/
def Entity.compileSeed (e : Entity) (rows : List Members) : Except Refusal Artifact := do
  e.checkColumns
  let rows ← Seed.checkRows e rows
  return { kind := .seed
           entity := e.name
           path := ArtifactKind.seed.path e.name
           content := Text.unlines (Seed.lines e.names (RowsLiteral.rows rows)) }

end Tablewright
