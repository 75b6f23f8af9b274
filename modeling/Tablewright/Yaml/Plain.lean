/-
Plain scalars: texts without quotes.

A plain scalar ends at a colon that ends a key, at a comment, and inside brackets at any of their
marks. It goes on in lines that are indented further than the collection around it.
-/
import Tablewright.Yaml.Cursor

set_option autoImplicit false

namespace Tablewright

namespace Yaml

/-- Code points that end a plain scalar inside brackets. -/
def isFlowMark (c : CodePoint) : Bool :=
  c = ',' || c = '?' || c = '[' || c = ']' || c = '\x7b' || c = '\x7d'

/-- Whether a colon in front of a text ends a key: before a gap, and inside brackets before one of
their marks. -/
def endsKey (inFlow : Bool) (t : Text) : Bool :=
  isGap t || (inFlow && t.head?.any fun (c : CodePoint) => isFlowMark c && c ≠ '?')

/-- The code points of a plain scalar up to the next gap. -/
def plainRun (inFlow : Bool) : Text → Text
  | [] => []
  | c :: r =>
    if isGap (c :: r) || (c = ':' && endsKey inFlow r) || (inFlow && isFlowMark c) then []
    else c :: plainRun inFlow r

/-- What comes between two runs of a plain scalar. -/
structure PlainGap where
  /-- What it adds to the scalar; nothing when the scalar ends here. -/
  text : Text
  /-- Whether it holds a line end. -/
  endsLine : Bool
  /-- The place behind it. -/
  next : Cursor

/-- Read what comes between two runs: spaces on the line, or line ends with spaces. -/
def plainGap (cur : Cursor) : PlainGap :=
  let spaces := cur.rest.takeWhile isSpace
  let behind := cur.forward spaces.length
  let g := gapOf isSpace behind.rest
  if g.breaks.isEmpty then ⟨spaces, false, behind⟩
  else ⟨if g.hitsMark then [] else folded g.breaks, true, behind.forward g.length⟩

/-- A plain scalar with what follows it up to the next part. -/
structure PlainText where
  /-- The text. -/
  text : Text
  /-- The place of the next part. -/
  next : Cursor
  /-- Whether a line ends between the last run and that place. -/
  endsLine : Bool

/-- A plain scalar. Outside brackets its lines are indented to `indent` at least. The number is a
bound on how many runs it has. -/
def plainFrom (inFlow : Bool) (indent : Nat) : Nat → Cursor → PlainText
  | 0, cur => ⟨[], cur, false⟩
  | bound + 1, cur =>
    let run := plainRun inFlow cur.rest
    let g := plainGap (cur.forward run.length)
    if g.text.isEmpty || Text.startsWith g.next.rest "#"
        || (!inFlow && g.next.column < indent) then ⟨run, g.next, g.endsLine⟩
    else
      let more := plainFrom inFlow indent bound g.next
      if more.text.isEmpty then ⟨run, g.next, g.endsLine⟩
      else ⟨run ++ g.text ++ more.text, more.next, more.endsLine⟩

/-- A plain scalar at a place. -/
def plain (inFlow : Bool) (indent : Nat) (cur : Cursor) : PlainText :=
  plainFrom inFlow indent (cur.rest.length + 1) cur

/-- Code points that mean something at the beginning of a scalar. -/
def isIndicator (c : CodePoint) : Bool :=
  ("-?:,[]\x7b\x7d#&*!|>'\"%@\x60" : Text).contains c

/-- Whether a plain scalar may begin with a text. -/
def beginsPlain (inFlow : Bool) : Text → Bool
  | [] => false
  | c :: r =>
    !isGap (c :: r)
      && (!isIndicator c
        || (!isGap r && (c = '-' || (!inFlow && (c = '?' || c = ':')))))

end Yaml

end Tablewright
