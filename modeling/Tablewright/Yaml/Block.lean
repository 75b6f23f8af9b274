/-
Scalars as blocks of indented lines.

A block keeps its line ends, or folds those between lines of text into spaces. What becomes of the
line ends at its end is said by a sign in its first line.
-/
import Tablewright.Failure.Basic
import Tablewright.Yaml.Cursor

set_option autoImplicit false

namespace Tablewright

namespace Yaml

/-! ## The first line -/

/-- What becomes of the line ends at the end of a block. -/
inductive Chomping where
  /-- They are dropped. -/
  | strip
  /-- One is kept. -/
  | clip
  /-- All are kept. -/
  | keep
deriving DecidableEq

/-- The first line of a block. -/
structure BlockHeader where
  /-- What becomes of the line ends at the end. -/
  chomping : Chomping
  /-- How far the block is indented, if that is said. -/
  indent : Option Nat

/-- The sign at the beginning of a text, and what comes behind it. -/
def chomping? : Text → Option Chomping × Text
  | [] => (none, [])
  | c :: r =>
    if c = '+' then (some .keep, r) else if c = '-' then (some .strip, r) else (none, c :: r)

/-- The digit at the beginning of a text, and what comes behind it. -/
def indentDigit? : Text → Option Nat × Text
  | [] => (none, [])
  | c :: r => if c.isAsciiDigit then (some (c.val - '0'.toNat), r) else (none, c :: r)

/-- Read the first line of a block behind its mark: a sign and a digit in any order, then nothing
but a comment. A block cannot be indented by nothing. -/
def blockHeader (line : Text) : Except TableFault BlockHeader :=
  let (signBefore, t) := chomping? line
  let (digit, t) := indentDigit? t
  let (signBehind, t) := if signBefore.isSome then (none, t) else chomping? t
  let behind := t.dropWhile isSpace
  if digit = some 0 then .error .badToken
  else if !t.isEmpty && behind.length = t.length then .error .badToken
  else if !behind.isEmpty && !Text.startsWith behind "#" then .error .badToken
  else .ok ⟨(signBefore.or signBehind).getD .clip, digit⟩

/-! ## The lines -/

/-- The line ends before the first line of text, with how many code points they and the spaces
between take, and the greatest column that spaces reach. -/
def leadingGap (column greatest : Nat) : Text → Text × Nat × Nat
  | [] => ([], 0, greatest)
  | c :: r =>
    if isBreak c then
      let (breaks, length, greatest) := leadingGap 0 greatest r
      (lineFeedFor c :: breaks, length + 1, greatest)
    else if c = ' ' then
      let (breaks, length, greatest) := leadingGap (column + 1) (max greatest (column + 1)) r
      (breaks, length + 1, greatest)
    else ([], 0, greatest)

/-- The line ends before the next line of text, with how many code points they and the spaces up
to the indentation take. -/
def blockGap (indent column : Nat) : Text → Text × Nat
  | [] => ([], 0)
  | c :: r =>
    if isBreak c then
      let (breaks, length) := blockGap indent 0 r
      (lineFeedFor c :: breaks, length + 1)
    else if c = ' ' && column < indent then
      let (breaks, length) := blockGap indent (column + 1) r
      (breaks, length + 1)
    else ([], 0)

/-- The lines of a block. -/
structure BlockLines where
  /-- Their text, without the line ends at the end. -/
  text : Text
  /-- The line end of the last line of text. -/
  lineEnd : Text
  /-- The line ends behind that. -/
  breaks : Text
  /-- The place behind the block. -/
  next : Cursor

/-- Whether a line of a block stands here. -/
def isBlockLine (indent : Nat) (cur : Cursor) : Bool := cur.column = indent && !cur.rest.isEmpty

/-- Whether a line begins with a blank, so that it is never folded. -/
def isIndented (line : Text) : Bool := line.head?.any isBlank

/-- The lines of a block from a place, given the line ends that come before. The number is a bound
on how many lines there are. -/
def blockLines (isFolded : Bool) (indent : Nat) :
    Nat → Text → Text → Cursor → BlockLines
  | 0, lineEnd, breaks, cur => ⟨[], lineEnd, breaks, cur⟩
  | bound + 1, lineEnd, breaks, cur =>
    if !isBlockLine indent cur then ⟨[], lineEnd, breaks, cur⟩
    else
      let line := cur.rest.takeWhile isOnLine
      let behind := cur.forward line.length
      let ended := (behind.rest.take 1).map lineFeedFor
      let start := behind.forward ended.length
      let (following, length) := blockGap indent start.column start.rest
      let next := start.forward length
      let joint : Text :=
        if !isBlockLine indent next then []
        else if isFolded && ended = "\n" && !isIndented line && !isIndented next.rest then
          (if following.isEmpty then " " else [])
        else ended
      let more := blockLines isFolded indent bound ended following next
      ⟨breaks ++ line ++ joint ++ more.text, more.lineEnd, more.breaks, more.next⟩

/-- A block from its mark. `least` is the least indentation of its lines. -/
def block (isFolded : Bool) (least : Nat) (cur : Cursor) : Except TableFault ScalarText := do
  let header ← blockHeader ((cur.rest.drop 1).takeWhile isOnLine)
  let start := (cur.pass isOnLine).next
  let (indent, breaks, length) :=
    match header.indent with
    | some n =>
      let indent := least + n - 1
      let (breaks, length) := blockGap indent 0 start.rest
      (indent, breaks, length)
    | none =>
      let (breaks, length, greatest) := leadingGap 0 0 start.rest
      (max least greatest, breaks, length)
  let lines := blockLines isFolded indent (start.rest.length + 1) [] breaks (start.forward length)
  let ending : Text :=
    match header.chomping with
    | .strip => []
    | .clip => lines.lineEnd
    | .keep => lines.lineEnd ++ lines.breaks
  return ⟨lines.text ++ ending, lines.next⟩

end Yaml

end Tablewright
