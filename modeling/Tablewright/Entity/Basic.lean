/-
Entities: what a request asks to store, ready to be compiled, and their fields: the columns a user
declares, their kinds and their constraints.

There are five kinds, and an unknown word for a kind is no error: it degrades to long text, the kind
that holds anything. A constraint that is not understood is refused, as leaving one out would change
what the table accepts. A field is built from loose values, and what is built is sound: its name is an
identifier and no reserved word, and its constraints are listed once each, in the order in which they
were first given. The columns every table has are never listed among an entity's fields.
-/
import Tablewright.Failure.Basic
import Tablewright.Json.Display
import Tablewright.Naming.Names
import Tablewright.Text.Blank
import Tablewright.Text.Identifier
import Tablewright.Text.Lowercase

set_option autoImplicit false

namespace Tablewright

/-! ## Kinds -/

/-- The kind of a column (`FieldKind`). -/
inductive FieldKind where
  /-- Text of limited length. -/
  | shortText
  /-- Text of any length. -/
  | longText
  /-- An integer. -/
  | integer
  /-- A truth value. -/
  | boolean
  /-- A date with a time. -/
  | timestamp
deriving DecidableEq

namespace FieldKind

/-- The word for a kind. -/
def label : FieldKind → Text
  | shortText => "short_text"
  | longText => "long_text"
  | integer => "integer"
  | boolean => "boolean"
  | timestamp => "timestamp"

/-- The words that are read as a kind, in lower case and with underscores for hyphens. -/
def spellings : List (String × FieldKind) :=
  [("short_text", shortText), ("varchar", shortText), ("string", shortText), ("str", shortText),
    ("long_text", longText), ("text", longText),
    ("integer", integer), ("int", integer), ("number", integer), ("serial", integer),
    ("boolean", boolean), ("bool", boolean),
    ("timestamp", timestamp), ("datetime", timestamp), ("date", timestamp)]

/-- The form in which a word for a kind is looked up. -/
def lookupForm (word : Text) : Text :=
  (Text.lower (Text.trim word)).substitute '-' '_'

/-- The kind a word is read as (`FieldKind.parse`). An unknown word is no mistake: the column then
takes any text. -/
def ofWord (word : Text) : FieldKind :=
  let key := lookupForm word
  ((spellings.find? fun s => Text.ofString s.1 = key).map (·.2)).getD longText

/-- The kind a value is read as: the kind of its display, or long text when there is none. -/
def ofJson (raw : Json) : FieldKind :=
  match raw.whenGiven with
  | some v => ofWord v.display
  | none => ofWord []

end FieldKind

/-! ## Constraints -/

/-- A constraint on a column (`Constraint`). -/
inductive Constraint where
  /-- The column holds a value in every row. -/
  | required
  /-- No two rows share a value. -/
  | unique
  /-- The column is the key of the table. -/
  | primary
deriving DecidableEq

namespace Constraint

/-- The word for a constraint. -/
def label : Constraint → Text
  | required => "required"
  | unique => "unique"
  | primary => "primary"

/-- The words that are read as a constraint. -/
def spellings : List (String × Constraint) :=
  [("required", required), ("notNull", required), ("notnull", required), ("not_null", required),
    ("unique", unique),
    ("primary", primary), ("primaryKey", primary), ("primarykey", primary),
    ("primary_key", primary)]

/-- The constraint with exactly this spelling. -/
def ofSpelling? (word : Text) : Option Constraint :=
  (spellings.find? fun s => Text.ofString s.1 = word).map (·.2)

/-- The constraint a word is read as, as it stands or in lower case. -/
def ofWord? (word : Text) : Option Constraint :=
  let key := Text.trim word
  (ofSpelling? key).orElse fun _ => ofSpelling? (Text.lower key)

/-- The constraint a value is read as. -/
def ofJson (raw : Json) : Except Refusal Constraint :=
  match ofWord? ((raw.whenGiven.map Json.display).getD []) with
  | some c => .ok c
  | none => .error (.unknownConstraint raw)

end Constraint

/-! ## Fields -/

/-- A column declared by the user (`FieldSpec`). -/
structure Field where
  /-- The name of the attribute. -/
  name : Text
  /-- The kind of the column. -/
  kind : FieldKind
  /-- The constraints, in the order given. -/
  constraints : List Constraint
deriving DecidableEq

/-- What a loose value holds when it is gone through: the items of a list, the keys of an object,
the code points of a text, and nothing where nothing is given. -/
def Json.elements : Json → Except Failure (List Json)
  | .arr items => .ok items
  | .obj members => .ok (members.map fun m => .str m.1)
  | .str s => .ok (s.map fun c => .str [c])
  | v => if v.isGiven then .error (.defect .wrongKind) else .ok []

namespace Field

/-- Whether every row has to hold a value. -/
def required (f : Field) : Bool :=
  f.constraints.contains .required || f.constraints.contains .primary

/-- A loose value as a name: its display without outer blanks. -/
def nameOf (raw : Json) : Text := Text.trim ((raw.whenGiven.map Json.display).getD [])

/-- Whether a text may name a field. -/
def isName (name : Text) : Bool := Text.isIdentifier name && !Text.isReservedWord name

/-- Constraints read one after another and added to those already known, each once. -/
def addConstraints (known : List Constraint) : List Json → Except Refusal (List Constraint)
  | [] => .ok known
  | raw :: r => do
    let c ← Constraint.ofJson raw
    addConstraints (if known.contains c then known else known ++ [c]) r

/-- A field from loose values for its name, kind and constraints. -/
def build (name kind constraints : Json) : Except Failure Field := do
  let name := nameOf name
  if !isName name then throw (.refused (.badFieldName name))
  let raw ← constraints.elements
  let constraints ← addConstraints [] raw
  return { name, kind := FieldKind.ofJson kind, constraints }

/-- A field from an object. The kind may also be called `type`; where both are given, `kind`
counts. -/
def ofJson : Json → Except Failure Field
  | .obj ms =>
    let part (key : Text) : Option Json := Members.get? key ms
    let kind := (part "kind").getD ((part "type").getD .null)
    build ((part "name").getD (.str [])) kind ((part "constraints").getD .null)
  | _ => .error (.defect .noPart)

/-- A field as an object. -/
def toJson (f : Field) : Json :=
  .obj [("name", .str f.name), ("kind", .str f.kind.label),
    ("constraints", Json.texts (f.constraints.map Constraint.label))]

end Field

/-! ## Entities -/

/-- An entity ready to be compiled (`EntitySpec`). That its fields go together with the columns
every table has is not checked yet. -/
structure Entity where
  /-- The canonical name. -/
  name : Text
  /-- What the entity is, in the user's words. -/
  description : Text
  /-- The declared fields in their order. -/
  fields : List Field
deriving DecidableEq

namespace Entity

/-- Fields read one after another and added to those already known. Two fields of one name are
refused; `label` is the entity's label in the message. -/
def addFields (label : Json) (known : List Field) : List Json → Except Failure (List Field)
  | [] => .ok known
  | raw :: r => do
    let f ← Field.ofJson raw
    if known.any fun k => k.name = f.name then throw (.refused (.duplicateField f.name label))
    addFields label (known ++ [f]) r

/-- An entity from its label, its description and loose fields. -/
def build (label description : Text) (fields : List Json) : Except Failure Entity := do
  let fields ← addFields (.str label) [] fields
  return { name := Naming.canonical label, description, fields }

/-- All names of an entity. -/
def names (e : Entity) : Names := Names.ofLabel e.name

/-- An entity as an object. -/
def toJson (e : Entity) : Json :=
  .obj [("name", .str e.name), ("description", .str e.description),
    ("fields", .arr (e.fields.map Field.toJson))]

end Entity

end Tablewright
