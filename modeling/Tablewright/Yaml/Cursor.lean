/-
Places in a table file.

Structure is shown by indentation, so a place knows its column, and because a key has to stand on
the line of its colon it knows its line. Line ends are line feeds or one of three rarer code
points; carriage returns have been folded before.
-/
import Tablewright.Text.Search

set_option autoImplicit false

namespace Tablewright

namespace Yaml

/-- Code points that end a line. -/
def isBreak (c : CodePoint) : Bool :=
  c = '\n' || c.val = 0x85 || c.val = 0x2028 || c.val = 0x2029

/-- Whether a code point does not end the line. -/
def isOnLine (c : CodePoint) : Bool := !isBreak c

/-- The space, which alone indents. -/
def isSpace (c : CodePoint) : Bool := c = ' '

/-- Spaces and tabs. -/
def isBlank (c : CodePoint) : Bool := c = ' ' || c = '\t'

/-- The mark some files begin with; it takes no column. -/
def byteOrderMark : CodePoint := CodePoint.ofNat 0xFEFF

/-- What a line end is inside a scalar: two of them stay, the others count as line feeds. -/
def lineFeedFor (c : CodePoint) : CodePoint :=
  if c.val = 0x2028 || c.val = 0x2029 then c else '\n'

/-- Whether a text is empty or begins with a line end. -/
def isLineEnd : Text → Bool
  | [] => true
  | c :: _ => isBreak c

/-- Whether a text is empty or begins with a blank or a line end. -/
def isGap : Text → Bool
  | [] => true
  | c :: _ => isBlank c || isBreak c

/-- Whether a text begins with three hyphens or three dots on their own, which part documents
where they stand at the beginning of a line. -/
def isDocumentMark (t : Text) : Bool :=
  (Text.startsWith t "---" || Text.startsWith t "...") && isGap (t.drop 3)

/-- A place in a table file. -/
structure Cursor where
  /-- How many code points come before. -/
  index : Nat
  /-- How many lines end before. -/
  line : Nat
  /-- How many columns come before on the line. -/
  column : Nat
  /-- What comes from here on. -/
  rest : Text

namespace Cursor

/-- The beginning of a text. A byte order mark is passed over. -/
def ofText (t : Text) : Cursor :=
  match Text.after? byteOrderMark t with
  | some r => ⟨1, 0, 0, r⟩
  | none => ⟨0, 0, 0, t⟩

/-- The next place. -/
def next (cur : Cursor) : Cursor :=
  match cur.rest with
  | [] => cur
  | c :: r =>
    if isBreak c then ⟨cur.index + 1, cur.line + 1, 0, r⟩
    else if c = byteOrderMark then ⟨cur.index + 1, cur.line, cur.column, r⟩
    else ⟨cur.index + 1, cur.line, cur.column + 1, r⟩

/-- The place a number of code points further. -/
def forward (cur : Cursor) : Nat → Cursor
  | 0 => cur
  | n + 1 => cur.next.forward n

/-- The place behind the code points that satisfy a test. -/
def pass (p : CodePoint → Bool) (cur : Cursor) : Cursor :=
  cur.forward (cur.rest.takeWhile p).length

/-- The place in front of which a rest of the text comes. -/
def before (cur : Cursor) (rest : Text) : Cursor := cur.forward (cur.rest.length - rest.length)

/-- Whether a mark between documents stands here. -/
def isAtDocumentMark (cur : Cursor) : Bool := cur.column = 0 && isDocumentMark cur.rest

/-- How many code points of a text are spaces, line ends and comments before anything else. -/
def gapLength (inComment : Bool) : Text → Nat
  | [] => 0
  | c :: r =>
    if isBreak c then gapLength false r + 1
    else if inComment then gapLength true r + 1
    else if c = ' ' then gapLength false r + 1
    else if c = '#' then gapLength true r + 1
    else 0

/-- The next place with something other than a space, a line end or a comment. -/
def skip (cur : Cursor) : Cursor := cur.forward (gapLength false cur.rest)

end Cursor

/-! ## Line ends inside scalars -/

/-- The line ends at the beginning of a text, with the blanks between and behind them. -/
structure Gap where
  /-- The line ends. -/
  breaks : Text
  /-- How many code points belong to the gap. -/
  length : Nat
  /-- Whether a mark between documents comes behind one of the line ends, where the gap stops. -/
  hitsMark : Bool

/-- Read the gap at the beginning of a text. The test says what may stand between line ends. -/
def gapOf (isPassed : CodePoint → Bool) : Text → Gap
  | [] => ⟨[], 0, false⟩
  | c :: r =>
    if isBreak c then
      if isDocumentMark r then ⟨[lineFeedFor c], 1, true⟩
      else
        let g := gapOf isPassed r
        ⟨lineFeedFor c :: g.breaks, g.length + 1, g.hitsMark⟩
    else if isPassed c then
      let g := gapOf isPassed r
      ⟨g.breaks, g.length + 1, g.hitsMark⟩
    else ⟨[], 0, false⟩

/-- What line ends inside a scalar become: one line feed a space, and of several the first is
dropped. -/
def folded : Text → Text
  | [] => []
  | c :: r => if c = '\n' then (if r.isEmpty then " " else r) else c :: r

/-- A scalar and the place behind it. -/
structure ScalarText where
  /-- The text. -/
  text : Text
  /-- The place behind it. -/
  next : Cursor

end Yaml

end Tablewright
