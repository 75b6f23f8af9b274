/-
Writing JSON text in ASCII: everything outside the printable ASCII range is escaped by its number
in UTF-16, so a code point beyond 16 bits takes two escapes.

The layout is one record. On one line items are separated by a comma and a space; in the indented
form every item has a line of its own, and an empty list or object stays closed.
-/
import Tablewright.Json.Basic

set_option autoImplicit false

namespace Tablewright

namespace JsonWriter

/-- An escape by a number of 16 bits. -/
def unitEscape (n : Nat) : Text := "\\u" ++ Text.hex 4 n

/-- One code point inside a quoted text. -/
def escaped (c : CodePoint) : Text :=
  if c = '"' then "\\\""
  else if c = '\\' then "\\\\"
  else if c = '\n' then "\\n"
  else if c = '\r' then "\\r"
  else if c = '\t' then "\\t"
  else if c.val = 12 then "\\f"
  else if c.val = 8 then "\\b"
  else if 32 ≤ c.val && c.val < 127 then [c]
  else if c.val < 0x10000 then unitEscape c.val
  else
    let m := c.val - 0x10000
    unitEscape (0xD800 + m / 0x400) ++ unitEscape (0xDC00 + m % 0x400)

/-- A text in double quotes. -/
def quoted (t : Text) : Text := "\"" ++ t.flatMap escaped ++ "\""

/-- How JSON spells what is not a finite number. -/
def spelling : Binary64.Spelling := ⟨"NaN", "Infinity"⟩

/-- How lists and objects are laid out. -/
structure Layout where
  /-- What follows the opening bracket at a depth. -/
  opening : Nat → Text
  /-- What stands between two items at a depth. -/
  between : Nat → Text
  /-- What precedes the closing bracket at a depth. -/
  closing : Nat → Text

/-- Everything on one line. -/
def oneLine : Layout := ⟨fun _ => [], fun _ => ", ", fun _ => []⟩

/-- Every item on a line of its own, two blanks further in than its list. -/
def indented : Layout :=
  let line (depth : Nat) : Text := '\n' :: Text.spaces (2 * depth)
  ⟨fun d => line (d + 1), fun d => ',' :: line (d + 1), line⟩

mutual

/-- A value at a depth. -/
def value (layout : Layout) (depth : Nat) : Json → Text
  | .null => "null"
  | .bool true => "true"
  | .bool false => "false"
  | .int n => Text.ofInt n
  | .float x => x.text spelling
  | .str s => quoted s
  | .arr [] => "[]"
  | .arr (v :: vs) =>
    "[" ++ layout.opening depth ++ value layout (depth + 1) v ++ items layout depth vs
      ++ layout.closing depth ++ "]"
  | .obj [] => "\x7b\x7d"
  | .obj ((k, v) :: ms) =>
    "\x7b" ++ layout.opening depth ++ quoted k ++ ": " ++ value layout (depth + 1) v
      ++ members layout depth ms ++ layout.closing depth ++ "\x7d"

/-- The items after the first. -/
def items (layout : Layout) (depth : Nat) : List Json → Text
  | [] => []
  | v :: vs => layout.between depth ++ value layout (depth + 1) v ++ items layout depth vs

/-- The members after the first. -/
def members (layout : Layout) (depth : Nat) : List (Text × Json) → Text
  | [] => []
  | (k, v) :: ms =>
    layout.between depth ++ quoted k ++ ": " ++ value layout (depth + 1) v
      ++ members layout depth ms

end

end JsonWriter

/-- A value as JSON on one line. -/
def Json.write (v : Json) : Text := JsonWriter.value JsonWriter.oneLine 0 v

/-- A value as JSON with one item a line. -/
def Json.writeIndented (v : Json) : Text := JsonWriter.value JsonWriter.indented 0 v

end Tablewright
