/-
Reading model modules back: the table a module declares and the columns it lists.
-/
import Tablewright.Text.Blank
import Tablewright.Text.Search

set_option autoImplicit false

namespace Tablewright.ModelSource

/-- The text between an opening quote, which is already read, and the next one, and what follows
it. There has to be something between them. -/
def untilQuote? (t : Text) : Option (Text × Text) :=
  match Text.cutAtFirst? "\"" t with
  | some (name, rest) => if name.isEmpty then none else some (name, rest)
  | none => none

/-- The name in a declaration of the table, if one stands here. -/
def declaration? (t : Text) : Option Text := do
  let r ← Text.dropStart? "__tablename__" t
  let r ← Text.dropStart? "=" (r.dropWhile CodePoint.isBlank)
  let r ← Text.dropStart? "\"" (r.dropWhile CodePoint.isBlank)
  (untilQuote? r).map (·.1)

/-- The first table that is declared. -/
def table? : Text → Option Text
  | [] => none
  | c :: r =>
    match declaration? (c :: r) with
    | some name => some name
    | none => table? r

/-- The name in a column, if one stands here, and what follows it. -/
def column? (t : Text) : Option (Text × Text) := do
  let r ← Text.dropStart? "Column(\"" t
  untilQuote? r

/-- The names in the columns, read from the left. The first argument counts the code points of
the last column still to be passed. -/
def columnsAux : Nat → Text → List Text
  | _, [] => []
  | k + 1, _ :: r => columnsAux k r
  | 0, c :: r =>
    match column? (c :: r) with
    | some (name, rest) => name :: columnsAux (r.length - rest.length) r
    | none => columnsAux 0 r

/-- The names in the columns of a module. -/
def columns (t : Text) : List Text := columnsAux 0 t

/-- A file's name without its extension. A point at the beginning or the end begins none. -/
def stem (name : Text) : Text :=
  match Text.splitOn '.' name.reverse with
  | ending :: first :: rest =>
    let before := Text.join "." (first :: rest)
    if ending.isEmpty || before.isEmpty then name else before.reverse
  | _ => name

end Tablewright.ModelSource
