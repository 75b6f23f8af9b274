/-
Sample rows as a literal of the generated language: a list of mappings from field names to texts,
integers, truth values and nothing.

What fits into a line of 100 columns stays on one line. A list that does not fit has one row a
line, a row that does not fit one member a line, and a text that does not fit is cut, at its line
ends first and between its words next, into quoted pieces that follow one another.
-/
import Tablewright.Json.Display
import Tablewright.Text.Blank

set_option autoImplicit false

namespace Tablewright.RowsLiteral

/-- The width of a line. -/
def lineWidth : Int := 100

/-- The columns a text takes. -/
def width (t : Text) : Int := t.length

/-! ## Long texts -/

/-- A text cut after every run of blanks. -/
def cutAtBlanks : Text → List Text
  | [] => []
  | c :: r =>
    let ends := c.isBlank && !(match r with | d :: _ => d.isBlank | [] => false)
    if ends then [c] :: cutAtBlanks r
    else
      match cutAtBlanks r with
      | [] => [[c]]
      | piece :: rest => (c :: piece) :: rest

/-- A piece in quotes, unless it is empty. -/
def quotedUnlessEmpty (t : Text) : List Text := if t.isEmpty then [] else [Text.quoted t]

/-- Pieces filled greedily into quoted texts: a piece joins the current text while that fits.
The last piece has to fit into `last` columns, the others into `limit`. -/
def fill (limit last : Int) : Text → List Text → List Text
  | current, [] => quotedUnlessEmpty current
  | current, piece :: rest =>
    let room := if rest.isEmpty then last else limit
    if room < width (Text.quoted (current ++ piece)) then
      quotedUnlessEmpty current ++ fill limit last piece rest
    else fill limit last (current ++ piece) rest

/-- The quoted pieces of the lines of a text. `limit` columns are free, and `allowance` of them
are needed after the last line. -/
def linePieces (limit allowance : Int) : List Text → List Text
  | [] => []
  | line :: rest =>
    let last := if rest.isEmpty then limit - allowance else limit
    let pieces :=
      if width (Text.quoted line) ≤ last then [Text.quoted line]
      else fill limit last [] (cutAtBlanks line)
    pieces ++ linePieces limit allowance rest

/-- A text that begins `indent` columns into its line and is followed by `allowance` columns. -/
def text (indent allowance : Int) (t : Text) : Text :=
  let whole := Text.quoted t
  if width whole ≤ lineWidth - indent - allowance || t.isEmpty then whole
  else
    match linePieces (lineWidth - indent) allowance (Text.linesWithEnds t) with
    | [_] => whole
    | pieces => Text.join ('\n' :: Text.spaces indent.toNat) pieces

/-! ## Rows -/

/-- A value that begins `indent` columns into its line and is followed by `allowance`. -/
def value (indent allowance : Int) : Json → Text
  | .str t => text indent allowance t
  | v => v.displayQuoted

/-- The members of a row, one a line, two columns in. The last one is followed by a closing
brace and one column more. -/
def memberLines : Members → List Text
  | [] => []
  | (key, v) :: rest =>
    let name := Text.quoted key ++ ": "
    let allowance := if rest.isEmpty then 2 else 1
    (name ++ value (2 + width name) allowance v) :: memberLines rest

/-- A row one column in, followed by one column. -/
def row (ms : Members) : Text :=
  let whole := Json.displayQuoted (.obj ms)
  if width whole ≤ lineWidth - 2 then whole
  else "\x7b" ++ Text.join ",\n  " (memberLines ms) ++ "\x7d"

/-- Rows as a literal. -/
def rows (rs : List Members) : Text :=
  let whole := Json.displayQuoted (.arr (rs.map .obj))
  if width whole ≤ lineWidth then whole
  else "[" ++ Text.join ",\n " (rs.map row) ++ "]"

end Tablewright.RowsLiteral
