/-
Contracts: what arguments a tool takes.

A contract is data. One reading of it finds every problem in given arguments, a second one puts
arguments without problems into their full form, in which every declared argument is present
under its own name, and a third one describes it as a JSON schema to the reasoning engine.
-/
import Tablewright.Failure.Basic

set_option autoImplicit false

namespace Tablewright

/-- What the schema says of an argument besides its shape. -/
structure ArgumentNotes where
  /-- What the argument is for. -/
  description : Option String
  /-- Values it may have. -/
  examples : List Json

/-- What an argument has to look like. The contracts of all tools are built from these few shapes,
so one check and one completion serve them all. -/
inductive Shape where
  /-- A text. -/
  | text
  /-- A text or null. -/
  | optionalText
  /-- An object with any members. -/
  | mapping
  /-- A list. -/
  | list (nonEmpty : Bool) (item : Shape)
  /-- An object with declared members: for each its name, another name under which it may be
  given, its shape, what counts when it is absent, and the notes on it. A member for which
  nothing counts has to be given. -/
  | record (name : String)
      (arguments : List (String × Option String × Shape × Option Json × ArgumentNotes))

/-- A declared member of a record. -/
abbrev Argument := String × Option String × Shape × Option Json × ArgumentNotes

namespace Argument

/-- The name of an argument. -/
def name (a : Argument) : Text := Text.ofString a.1

/-- The other name of an argument. -/
def alias? (a : Argument) : Option Text := a.2.1.map Text.ofString

/-- What counts when the argument is absent. -/
def default? (a : Argument) : Option Json := a.2.2.2.1

/-- The name under which an argument is given, and its value. Its own name counts before the
other one. -/
def given? (a : Argument) (ms : Members) : Option (Text × Json) :=
  match ms.get? a.name with
  | some v => some (a.name, v)
  | none => a.alias?.bind fun other => (ms.get? other).map fun v => (other, v)

end Argument

/-! ## Problems -/

/-- Problems of a part, seen from the whole. -/
def problemsWithin (place : Text) (ps : List ArgumentProblem) : List ArgumentProblem :=
  ps.map fun p => { p with place := place :: p.place }

/-- The members that no argument accounts for. -/
def undeclared (arguments : List Argument) (ms : Members) : List ArgumentProblem :=
  let used := arguments.filterMap fun a => (a.given? ms).map (·.1)
  (ms.filter fun m => !used.contains m.1).map fun m => ⟨[m.1], .undeclared⟩

/-- The problems of the items of a list, the first of them numbered `index`, when `check` finds
those of an item. -/
def itemProblems (check : Json → List ArgumentProblem) : Nat → List Json → List ArgumentProblem
  | _, [] => []
  | index, v :: vs =>
    problemsWithin (Text.ofNat index) (check v) ++ itemProblems check (index + 1) vs

mutual

/-- The problems of a value for a shape. All of them are found, not only the first, since the engine
is told what to mend. -/
def Shape.problems : Shape → Json → List ArgumentProblem
  | .text, .str _ => []
  | .text, _ => [⟨[], .notText⟩]
  | .optionalText, .str _ => []
  | .optionalText, .null => []
  | .optionalText, _ => [⟨[], .notText⟩]
  | .mapping, .obj _ => []
  | .mapping, _ => [⟨[], .notObject⟩]
  | .list nonEmpty item, .arr vs =>
    if nonEmpty && vs.isEmpty then [⟨[], .emptyList⟩] else itemProblems (Shape.problems item) 0 vs
  | .list _ _, _ => [⟨[], .notList⟩]
  | .record _ arguments, .obj ms =>
    if ms.all fun m => m.1.isEncodable then
      Shape.argumentProblems arguments ms ++ undeclared arguments ms
    else [⟨[], .notUnicode⟩]
  | .record name _, _ => [⟨[], .notRecord (Text.ofString name)⟩]

/-- The problems of the declared members of an object. -/
def Shape.argumentProblems : List Argument → Members → List ArgumentProblem
  | [], _ => []
  | (name, other, shape, default, notes) :: rest, ms =>
    let here :=
      match Argument.given? (name, other, shape, default, notes) ms with
      | some (key, v) => problemsWithin key (Shape.problems shape v)
      | none => if default.isSome then [] else [⟨[Text.ofString name], .missing⟩]
    here ++ Shape.argumentProblems rest ms

end

/-! ## Full form -/

mutual

/-- The full form of a value without problems. It is what the step of a call records, defaults
written in. -/
def Shape.complete : Shape → Json → Json
  | .list _ item, .arr vs => .arr (vs.map (Shape.complete item))
  | .record _ arguments, .obj ms => .obj (Shape.completeArguments arguments ms)
  | _, v => v

/-- The declared members of an object, each under its own name. -/
def Shape.completeArguments : List Argument → Members → Members
  | [], _ => []
  | (name, other, shape, default, notes) :: rest, ms =>
    let value :=
      match Argument.given? (name, other, shape, default, notes) ms with
      | some (_, v) => Shape.complete shape v
      | none => default.getD .null
    (Text.ofString name, value) :: Shape.completeArguments rest ms

end

end Tablewright
