/-
Templates: phrases that announce an entity, and the entity they announce.

Requests and phrases are compared in a normal form: lower case, straight quotes, single spaces. A
table has rules, all of which may apply to one request, and fallbacks, of which at most one applies
and only when no rule does. A table is read from loose values; a template without a single phrase is
refused.
-/
import Tablewright.Entity.Basic
import Tablewright.Text.Blank
import Tablewright.Text.Lowercase
import Tablewright.Text.Search

set_option autoImplicit false

namespace Tablewright

/-! ## The normal form -/

namespace Request

/-- A curly quote made straight; any other code point as it is. -/
def straighten (c : CodePoint) : CodePoint :=
  if c.val = 0x2018 || c.val = 0x2019 then '\''
  else if c.val = 0x201C || c.val = 0x201D then '"'
  else c

/-- The form in which a request is searched (`normalize_request`). Phrases are brought into it as
well, so how a request is typed does not matter. -/
def normal (request : Text) : Text := Text.collapse (Text.lower (request.map straighten))

end Request

/-! ## Templates -/

/-- Phrases and the entity they announce (`TemplateRule`). -/
structure Template where
  /-- The phrases, in normal form. -/
  triggers : List Text
  /-- The entity. -/
  entity : Entity
deriving DecidableEq

/-- The templates in their order (`TemplateTable`). -/
structure TemplateTable where
  /-- The templates that apply whenever one of their phrases occurs. -/
  rules : List Template
  /-- The templates for requests to which no rule applies. -/
  fallbacks : List Template
deriving DecidableEq

namespace Template

/-- Whether one of the phrases occurs in a request in normal form. -/
def applies (t : Template) (normalRequest : Text) : Bool :=
  t.triggers.any fun phrase => Text.includes normalRequest phrase

/-- A loose value as a phrase. -/
def phrase : Json → Except Failure Text
  | .str s => .ok (Request.normal s)
  | v => if v.isGiven then .error (.defect .noPart) else .ok []

/-- The label and the entity of a template. The label has to be there; one that is not given
counts as empty. -/
def entityOf (label description fields : Json) : Except Failure Entity := do
  let raw ← (fields.whenGiven.getD (.arr [])).elements
  let fields ← Entity.addFields label [] raw
  let name ←
    match label with
    | .str s => .ok s
    | v => if v.isGiven then .error (.defect .wrongKind) else .ok []
  let description := (description.whenGiven.map Json.display).getD []
  return { name := Naming.canonical name, description, fields }

/-- A template from an object (`_parse_rule`). -/
def ofJson : Json → Except Failure Template
  | .obj ms => do
    let part (key : Text) : Json := (Members.get? key ms).getD .null
    match (part "triggers").whenGiven with
    | none => throw (.refused (.noTriggers (part "name")))
    | some triggers =>
      match Members.get? "name" ms with
      | none => throw (.defect .noKey)
      | some label =>
        let entity ← entityOf label (part "description") (part "fields")
        let triggers ← triggers.elements
        let triggers ← triggers.mapM phrase
        return { triggers, entity }
  | _ => .error (.defect .noPart)

end Template

/-- The templates under a key of a table. -/
def TemplateTable.part (ms : Members) (key : Text) : Except Failure (List Template) := do
  let raw ← (((Members.get? key ms).bind Json.whenGiven).getD (.arr [])).elements
  raw.mapM Template.ofJson

/-- A table from an object (`parse_templates`). -/
def TemplateTable.ofJson : Json → Except Failure TemplateTable
  | .obj ms => do
    let rules ← TemplateTable.part ms "rules"
    let fallbacks ← TemplateTable.part ms "fallbacks"
    return { rules, fallbacks }
  | _ => .error (.refused .badTemplateTable)

end Tablewright
