/-
Values as messages show them: words for null and the truth values, texts in quotes, lists in
brackets, objects in braces. A text on its own is shown without quotes.
-/
import Tablewright.Json.Basic
import Tablewright.Text.Quoted

set_option autoImplicit false

namespace Tablewright.Json

/-- How messages spell what is not a finite number. -/
def displaySpelling : Binary64.Spelling := ⟨"nan", "inf"⟩

mutual

/-- A value inside a message, its texts in quotes. -/
def displayQuoted : Json → Text
  | .null => "None"
  | .bool true => "True"
  | .bool false => "False"
  | .int n => Text.ofInt n
  | .float x => x.text displaySpelling
  | .str s => Text.quoted s
  | .arr [] => "[]"
  | .arr (v :: vs) => "[" ++ displayQuoted v ++ displayItems vs ++ "]"
  | .obj [] => "\x7b\x7d"
  | .obj ((k, v) :: ms) =>
    "\x7b" ++ Text.quoted k ++ ": " ++ displayQuoted v ++ displayMembers ms ++ "\x7d"

/-- The items after the first. -/
def displayItems : List Json → Text
  | [] => []
  | v :: vs => ", " ++ displayQuoted v ++ displayItems vs

/-- The members after the first. -/
def displayMembers : List (Text × Json) → Text
  | [] => []
  | (k, v) :: ms => ", " ++ Text.quoted k ++ ": " ++ displayQuoted v ++ displayMembers ms

end

/-- A value as a message shows it. -/
def display : Json → Text
  | .str s => s
  | v => displayQuoted v

end Tablewright.Json
