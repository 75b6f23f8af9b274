/-
Blank code points and line ends.

The 29 blank code points separate words, in ASCII and beyond; at them a text is trimmed, cut into
words, and runs of them are folded. Files are read with every line end made a line feed; a summary
shows the first line of a text, where a line may end at any of the ten code points that end one.
-/
import Tablewright.Text.Basic

set_option autoImplicit false

namespace Tablewright

/-! ## Blanks -/

/-- The code points that count as blank: the white space of the standard and the four ASCII
separators from `0x1C` to `0x1F`. -/
def blankRanges : Ranges := [
    (0x9, 0xD), (0x1C, 0x20), (0x85, 0x85), (0xA0, 0xA0), (0x1680, 0x1680), (0x2000, 0x200A),
    (0x2028, 0x2029), (0x202F, 0x202F), (0x205F, 0x205F), (0x3000, 0x3000)
  ]

/-- Whether a code point is blank. -/
def CodePoint.isBlank (c : CodePoint) : Bool := blankRanges.contains c.val

namespace Text

/-- A text without the blanks at its two ends. -/
def trim (t : Text) : Text := stripWhere CodePoint.isBlank t

/-- Whether a text holds nothing but blanks. -/
def isBlank (t : Text) : Bool := t.all CodePoint.isBlank

/-- The pieces between the code points that satisfy `sep`, empty pieces left out. The
accumulator holds the piece being read, last code point first. -/
def piecesAux (sep : CodePoint → Bool) : Text → Text → List Text
  | acc, [] => if acc.isEmpty then [] else [acc.reverse]
  | acc, c :: r =>
    if sep c then
      if acc.isEmpty then piecesAux sep [] r else acc.reverse :: piecesAux sep [] r
    else piecesAux sep (c :: acc) r

/-- The non-empty pieces of a text between the code points that satisfy `sep`. -/
def pieces (sep : CodePoint → Bool) (t : Text) : List Text := piecesAux sep [] t

/-- The words of a text: its pieces between blanks. -/
def words (t : Text) : List Text := pieces CodePoint.isBlank t

/-- Blanks at the ends dropped and every run of blanks inside made one space. -/
def collapse (t : Text) : Text := join " " (words t)

end Text

/-! ## Lines -/

/-- The code points that end a line. -/
def CodePoint.endsLine (c : CodePoint) : Bool :=
  (0xA ≤ c.val && c.val ≤ 0xD) || (0x1C ≤ c.val && c.val ≤ 0x1E) || c.val = 0x85
    || c.val = 0x2028 || c.val = 0x2029

namespace Text

/-- A carriage return, alone or with the line feed after it, becomes one line feed. -/
def foldNewlines : Text → Text
  | [] => []
  | c :: r =>
    if c.val = 0xD then
      match r with
      | d :: s => if d.val = 0xA then d :: foldNewlines s else '\n' :: foldNewlines (d :: s)
      | [] => ['\n']
    else c :: foldNewlines r

/-- The lines of a text, each with the line end that closes it. A carriage return and the line
feed after it close a line together. -/
def linesWithEnds : Text → List Text
  | [] => []
  | c :: r =>
    let rest := linesWithEnds r
    let closes := c.endsLine && !(c.val = 0xD && r.head?.any fun d => d.val = 0xA)
    if closes then [c] :: rest
    else
      match rest with
      | [] => [[c]]
      | line :: lines => (c :: line) :: lines

/-- What stands before the first line end. -/
def firstLine (t : Text) : Text := t.takeWhile fun c => !c.endsLine

end Text

end Tablewright
