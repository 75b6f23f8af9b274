/-
What the nodes of a table file stand for.

A key that is written twice keeps its last value. The key `<<` takes over the members of other
mappings, over which the mapping's own members are written.
-/
import Tablewright.Json.Display
import Tablewright.Text.Lowercase
import Tablewright.Text.Blank
import Tablewright.Text.Utf8
import Tablewright.Yaml.Lexer
import Tablewright.Yaml.Node
import Tablewright.Yaml.Scalar

set_option autoImplicit false

namespace Tablewright

namespace Yaml

/-! ## Scalars and keys -/

/-- What all tags with a meaning of their own begin with. -/
def tagStart : Text := "tag:yaml.org,2002:"

/-- The floating-point number of a scalar, for which an integer will do. -/
def anyNumber? (t : Text) : Option Binary64 :=
  match number? t, integer? t with
  | some x, _ => some x
  | none, some n => some (Binary64.ofDecimal (n < 0) n.natAbs 0)
  | none, none => none

/-- A value that has to be there. -/
def required (v : Option Json) : Except TableFault Json :=
  match v with
  | some v => .ok v
  | none => .error .badValue

/-- What a scalar with a tag stands for. -/
def taggedScalar (tag t : Text) : Except TableFault Json :=
  match Text.dropStart? tagStart tag with
  | none => .error .badValue
  | some kind =>
    if kind = "str" then .ok (.str t)
    else if kind = "null" then .ok .null
    else if kind = "bool" then required ((truth? t.lower).map .bool)
    else if kind = "int" then required ((integer? t).map .int)
    else if kind = "float" then required ((anyNumber? t).map .float)
    else .error .badValue

/-- What a scalar stands for. Two plain texts have a meaning as keys only. -/
def scalarValue (tag : Option Text) (isPlain : Bool) (t : Text) : Except TableFault Json :=
  match tag with
  | some tag => taggedScalar tag t
  | none =>
    if !isPlain then .ok (.str t)
    else if t = "<<" || t = "=" then .error .badValue
    else .ok (resolve t)

/-- Whether a node is the key that takes over members. -/
def Node.isMerge : Node → Bool
  | .scalar none true t => t = "<<"
  | .scalar (some tag) _ _ => tag = tagStart ++ "merge"
  | _ => false

/-- The key that a value makes. A list or a mapping is none. -/
def keyOf : Json → Except TableFault Text
  | .arr _ => .error .badValue
  | .obj _ => .error .badValue
  | v => .ok v.display

/-- Whether a tag allows a collection of a kind. -/
def allowsKind (kind : Text) (tag : Option Text) : Bool :=
  match tag with
  | none => true
  | some tag => tag = "!" || tag = tagStart ++ kind

/-! ## Collections -/

/-- The members that a value of the key `<<` brings: those of a mapping, or of several, of which
the first one counts most. -/
def mergedMembers : Json → Except TableFault Members
  | .obj ms => .ok ms
  | .arr items =>
    items.foldr (fun item rest => do
      let rest ← rest
      match item with
      | .obj ms => return rest ++ ms
      | _ => throw TableFault.badValue) (.ok [])
  | _ => .error .badValue

/-- The members of a mapping: those taken over, and its own. -/
structure MappingParts where
  /-- Members taken over from other mappings. -/
  merged : Members
  /-- Members written in the mapping. -/
  own : Members

mutual

/-- What a node stands for. -/
def Node.value : Node → Except TableFault Json
  | .scalar tag isPlain t => scalarValue tag isPlain t
  | .sequence tag items => do
    if !allowsKind "seq" tag then throw TableFault.badValue
    return .arr (← Node.values items)
  | .mapping tag pairs => do
    if !allowsKind "map" tag then throw TableFault.badValue
    let parts ← Node.parts pairs
    return .obj (Members.putAll (Members.putAll [] parts.merged) parts.own)

/-- What nodes stand for. -/
def Node.values : List Node → Except TableFault (List Json)
  | [] => .ok []
  | n :: r => do
    let v ← n.value
    let vs ← Node.values r
    return v :: vs

/-- The members that keys and values make. -/
def Node.parts : List (Node × Node) → Except TableFault MappingParts
  | [] => .ok ⟨[], []⟩
  | (k, v) :: r => do
    if k.isMerge then
      let ms ← mergedMembers (← v.value)
      let parts ← Node.parts r
      return { parts with merged := ms ++ parts.merged }
    else
      let key ← (match k with
        | .scalar none true t => if t = "=" then .ok t else k.value.bind keyOf
        | _ => k.value.bind keyOf)
      let value ← v.value
      let parts ← Node.parts r
      return { parts with own := (key, value) :: parts.own }

end

/-! ## Texts -/

/-- Code points that may stand in a table file. -/
def isAllowed (c : CodePoint) : Bool :=
  let n := c.val
  n = 0x9 || n = 0xA || n = 0xD || (0x20 ≤ n && n ≤ 0x7E) || n = 0x85 || (0xA0 ≤ n && n ≤ 0xD7FF)
    || (0xE000 ≤ n && n ≤ 0xFFFD) || 0x10000 ≤ n

/-- The value of a text; null when it holds no document. -/
def valueOf (t : Text) : Except TableFault Json := do
  if !t.all isAllowed then throw TableFault.badCode
  match ← Node.ofTokens? (Tokens.ofText t) with
  | none => return .null
  | some node => node.value

/-- The value of a table file with a given content, which has to be a text that can stand in a
file. -/
def read (t : Text) : Except Failure Json :=
  if t.utf8?.isNone then .error (.defect .unencodable)
  else
    match valueOf t.foldNewlines with
    | .ok v => .ok v
    | .error fault => .error fault.failure

end Yaml

end Tablewright
