/-
The words of a label, and the names of one entity, all derived from its label.

A word begins at a capital that has a small letter or a digit before it or a small letter after
it, so `HTTPServer2Go` reads as `http`, `server2`, `go`. Everything that is, after lowering, no
ASCII letter or digit only separates words.

The canonical name is the snake-case form of the label made an identifier: a label without a
single usable letter or digit is called `entity`, and a name that would begin with a digit is put
behind that word.
-/
import Tablewright.Text.Blank
import Tablewright.Text.Lowercase

set_option autoImplicit false

namespace Tablewright

/-! ## Words -/

namespace Naming

/-- Whether a text begins with a small ASCII letter. -/
def startsLower : Text → Bool
  | c :: _ => c.isAsciiLower
  | [] => false

/-- A text with an underscore before every capital that begins a word. The first argument is the
code point before. -/
def markWords : CodePoint → Text → Text
  | _, [] => []
  | before, c :: r =>
    if c.isAsciiUpper && (before.isNameLetter || startsLower r) then '_' :: c :: markWords c r
    else c :: markWords c r

/-- The lower-case words of a label (`_words`). -/
def words (label : Text) : List Text :=
  Text.pieces (fun c => !c.isNameLetter) (Text.lower (markWords '_' label))

/-- The words of a label joined by underscores (`to_snake_case`). -/
def snake (label : Text) : Text := Text.join "_" (words label)

/-- The words of a label joined by hyphens (`to_kebab_case`). -/
def kebab (label : Text) : Text := Text.join "-" (words label)

/-- The words of a label, each with a capital, one after another (`to_pascal_case`). -/
def pascal (label : Text) : Text := (words label).flatMap Text.capitalize

end Naming

/-! ## Names -/

/-- The names under which the artifacts of one entity are written. -/
structure Names where
  /-- The name of the table and of the generated modules. -/
  canonical : Text
  /-- The name of the model class. -/
  typeName : Text
  /-- The name of the data hook. -/
  hookName : Text
  /-- The last segment of the endpoint's route. -/
  routeSegment : Text
deriving DecidableEq

namespace Naming

/-- The name of an entity whose label has no usable letter or digit. -/
def fallback : Text := "entity"

/-- The canonical name of a label (`canonical_name`). A label without words gets a name all the
same, and a name that would begin with a digit gets a word before it. -/
def canonical (label : Text) : Text :=
  match snake label with
  | [] => fallback
  | c :: r => if c.isAsciiDigit then fallback ++ "_" ++ (c :: r) else c :: r

end Naming

/-- All names of a label (`derive_identifiers`). -/
def Names.ofLabel (label : Text) : Names :=
  let name := Naming.canonical label
  let typeName := Naming.pascal name
  { canonical := name
    typeName := typeName
    hookName := "use" ++ typeName
    routeSegment := Naming.kebab name }

end Tablewright
