/-
The operations of an endpoint, and the words by which they are asked for.

Handlers are written in one fixed order, so what is asked for is a set: order, repetition and
spelling of the request leave no trace.
-/
import Tablewright.Failure.Refusal
import Tablewright.Text.Blank
import Tablewright.Text.Lowercase

set_option autoImplicit false

namespace Tablewright

/-- An operation of an endpoint. -/
inductive Method where
  /-- Read one row or all. -/
  | get
  /-- Create a row. -/
  | post
  /-- Change a row. -/
  | put
  /-- Delete a row. -/
  | delete
deriving DecidableEq

namespace Method

/-- The operations in the order of their handlers. -/
def all : List Method := [get, post, put, delete]

/-- The word for an operation. -/
def label : Method → Text
  | get => "GET"
  | post => "POST"
  | put => "PUT"
  | delete => "DELETE"

/-- The words that are read as an operation, in lower case. -/
def spellings : List (String × Method) :=
  [("get", get), ("read", get), ("list", get), ("post", post), ("create", post), ("put", put),
    ("patch", put), ("update", put), ("delete", delete)]

/-- The operation a word is read as. -/
def ofWord? (word : Text) : Option Method :=
  let key := Text.lower (Text.trim word)
  (spellings.find? fun s => Text.ofString s.1 = key).map (·.2)

/-- The operations a list of values asks for, one by one. -/
def read : List Json → Except Refusal (List Method)
  | [] => .ok []
  | raw :: r =>
    match ofWord? raw.display with
    | none => .error (.unsupportedMethod raw)
    | some m => (read r).map (m :: ·)

/-- The set of operations a list of values asks for, in the order of their handlers
(`normalize_methods`). -/
def select (raw : List Json) : Except Refusal (List Method) := do
  let wanted ← read raw
  if wanted.isEmpty then throw .noMethods
  return all.filter wanted.contains

/-- All operations, as they are asked for when nothing else is. -/
def everything : List Json := all.map fun m => .str m.label

end Method

end Tablewright
